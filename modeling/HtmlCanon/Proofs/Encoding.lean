import HtmlCanon.Encoding
import Mathlib.Tactic.IntervalCases

/-!
# Repaired text, and reading what UTF-8 writes

A text is repaired character by character. The bytes that UTF-8 writes for a text are read as that
text, also character by character: the lead byte tells how many bytes follow, and each of them
carries six bits.

* `repairText_eq_self_iff` : which texts need no repair.
* `tails_byte` : a tail byte adds its six bits.
* `step_encoded` : **the bytes of a character are read as that character**.
* `decode_encoded_append`, `decode_encoded` : **the bytes of a text are read as that text**, also in
  front of others.
* `repairBytes_toUTF8` : the bytes of a string are read as its characters.
-/

namespace HtmlCanon

/-! ### Repair -/

theorem repairText_append (t u : Text) : repairText (t ++ u) = repairText t ++ repairText u :=
  List.filter_append t u

/-- A text needs no repair when it can hold all its characters. -/
theorem repairText_eq_self_iff {t : Text} : repairText t = t ↔ t.all isRepresentable = true := by
  rw [repairText, List.filter_eq_self, List.all_eq_true]

/-- Nothing is left of a text that can hold none of its characters. -/
theorem repairText_eq_nil_iff {t : Text} : repairText t = [] ↔ t.any isRepresentable = false := by
  rw [repairText, List.filter_eq_nil_iff, List.any_eq_false]

namespace Utf8

/-! ### Tail bytes -/

/-- The tail byte that carries the last six bits of a number. -/
def tailByte (n : Nat) : UInt8 := UInt8.ofNat (n % 64 + 128)

theorem toNat_tailByte (n : Nat) : (tailByte n).toNat = n % 64 + 128 := by
  have : n % 64 + 128 < 256 := by omega
  simp only [tailByte, UInt8.toNat_ofNat']
  omega

/-- **A tail byte adds its six bits.** -/
theorem tails_byte (k acc n : Nat) (bs : List UInt8) :
    tails (k + 1) acc (tailByte n :: bs) = tails k (acc * 64 + n % 64) bs := by
  have htail : isTail (tailByte n) = true := by
    simp only [isTail, Bool.and_eq_true, decide_eq_true_eq, UInt8.le_iff_toNat_le, toNat_tailByte]
    constructor
    · show 128 ≤ _
      omega
    · show _ ≤ 191
      omega
  rw [tails, if_pos htail, toNat_tailByte, Nat.add_sub_cancel]

/-- **A lead byte, the byte after it and the tail bytes** are read as one character. -/
theorem step_of_lead {b : UInt8} {l : Lead} {m n : Nat} {bs rest : List UInt8}
    (hb : 0x80 ≤ b.toNat) (hl : lead? b = some l)
    (hm : l.low.toNat ≤ m % 64 + 128 ∧ m % 64 + 128 ≤ l.high.toNat)
    (ht : tails l.more (l.bits * 64 + m % 64) bs = (some n, rest)) :
    step b (tailByte m :: bs) = (some (Char.ofNat n), rest) := by
  have hnot : ¬b < 0x80 := by
    rw [UInt8.lt_iff_toNat_lt]
    show ¬b.toNat < 128
    omega
  have hlow : l.low ≤ tailByte m := by rw [UInt8.le_iff_toNat_le, toNat_tailByte]; exact hm.1
  have hhigh : tailByte m ≤ l.high := by rw [UInt8.le_iff_toNat_le, toNat_tailByte]; exact hm.2
  have htails : tails l.more (l.bits * 64 + ((tailByte m).toNat - 0x80)) bs = (some n, rest) := by
    rw [toNat_tailByte, Nat.add_sub_cancel, ht]
  simp only [step, if_neg hnot, hl, hlow, hhigh, decide_true, Bool.and_self, if_true, htails]

/-! ### Lead bytes -/

theorem lead?_two {k : Nat} (h : 2 ≤ k ∧ k < 32) :
    lead? (UInt8.ofNat (k + 192)) = some ⟨k, 0x80, 0xBF, 0⟩ := by
  obtain ⟨h2, h32⟩ := h
  interval_cases k <;> rfl

/-- After the first lead byte of three no short form may follow, and after another one no
surrogate. -/
theorem lead?_three {k : Nat} (h : k < 16) :
    lead? (UInt8.ofNat (k + 224)) =
      some ⟨k, if k = 0 then 0xA0 else 0x80, if k = 13 then 0x9F else 0xBF, 1⟩ := by
  interval_cases k <;> rfl

/-- After the first lead byte of four no short form may follow, and the last one ends at the greatest
character. -/
theorem lead?_four {k : Nat} (h : k < 5) :
    lead? (UInt8.ofNat (k + 240)) =
      some ⟨k, if k = 0 then 0x90 else 0x80, if k = 4 then 0x8F else 0xBF, 2⟩ := by
  interval_cases k <;> rfl

/-! ### Characters -/

theorem toNat_bounds (c : Char) : c.toNat < 0xD800 ∨ 0xDFFF < c.toNat ∧ c.toNat < 0x110000 := c.valid

theorem step_one {n : Nat} (h : n < 0x80) (bs : List UInt8) :
    step (UInt8.ofNat n) bs = (some (Char.ofNat n), bs) := by
  have hn : (UInt8.ofNat n).toNat = n := by
    simp only [UInt8.toNat_ofNat']
    omega
  have hlt : UInt8.ofNat n < 0x80 := by
    rw [UInt8.lt_iff_toNat_lt, hn]
    exact h
  rw [step, if_pos hlt, hn]

theorem step_two {n : Nat} (h : 0x80 ≤ n ∧ n < 0x800) (bs : List UInt8) :
    step (UInt8.ofNat (n / 64 + 192)) (tailByte n :: bs) = (some (Char.ofNat n), bs) := by
  refine step_of_lead (by simp only [UInt8.toNat_ofNat']; omega)
    (lead?_two (k := n / 64) (by omega)) ⟨?_, ?_⟩ ?_
  · show 128 ≤ _
    omega
  · show _ ≤ 191
    omega
  · have hn : n / 64 * 64 + n % 64 = n := by omega
    rw [tails, hn]

theorem step_three {n : Nat} (h : 0x800 ≤ n ∧ n < 0x10000) (hs : n < 0xD800 ∨ 0xDFFF < n)
    (bs : List UInt8) :
    step (UInt8.ofNat (n / 4096 + 224)) (tailByte (n / 64) :: tailByte n :: bs) =
      (some (Char.ofNat n), bs) := by
  refine step_of_lead (by simp only [UInt8.toNat_ofNat']; omega)
    (lead?_three (k := n / 4096) (by omega)) ⟨?_, ?_⟩ ?_
  · by_cases h0 : n / 4096 = 0
    · rw [if_pos h0]
      show 160 ≤ _
      omega
    · rw [if_neg h0]
      show 128 ≤ _
      omega
  · by_cases h13 : n / 4096 = 13
    · rw [if_pos h13]
      show _ ≤ 159
      omega
    · rw [if_neg h13]
      show _ ≤ 191
      omega
  · have hn : (n / 4096 * 64 + n / 64 % 64) * 64 + n % 64 = n := by omega
    rw [tails_byte, tails, hn]

theorem step_four {n : Nat} (h : 0x10000 ≤ n ∧ n < 0x110000) (bs : List UInt8) :
    step (UInt8.ofNat (n / 262144 + 240))
        (tailByte (n / 4096) :: tailByte (n / 64) :: tailByte n :: bs) =
      (some (Char.ofNat n), bs) := by
  refine step_of_lead (by simp only [UInt8.toNat_ofNat']; omega)
    (lead?_four (k := n / 262144) (by omega)) ⟨?_, ?_⟩ ?_
  · by_cases h0 : n / 262144 = 0
    · rw [if_pos h0]
      show 144 ≤ _
      omega
    · rw [if_neg h0]
      show 128 ≤ _
      omega
  · by_cases h4 : n / 262144 = 4
    · rw [if_pos h4]
      show _ ≤ 143
      omega
    · rw [if_neg h4]
      show _ ≤ 191
      omega
  · have hn : ((n / 262144 * 64 + n / 4096 % 64) * 64 + n / 64 % 64) * 64 + n % 64 = n := by omega
    rw [tails_byte, tails_byte, tails, hn]

/-- **The bytes of a character are read as that character**, whatever bytes follow. -/
theorem step_encoded (c : Char) (bs : List UInt8) :
    ∃ b cs, String.utf8EncodeChar c = b :: cs ∧ step b (cs ++ bs) = (some c, bs) := by
  have hc := toNat_bounds c
  have hofNat : Char.ofNat c.toNat = c := Char.ofNat_toNat c
  have hval : c.val.toNat = c.toNat := rfl
  unfold String.utf8EncodeChar
  simp only [hval]
  -- a character takes from one to four bytes
  by_cases h1 : c.toNat ≤ 0x7f
  · rw [if_pos h1]
    refine ⟨_, [], rfl, ?_⟩
    have := step_one (n := c.toNat) (by omega) bs
    rwa [hofNat] at this
  rw [if_neg h1]
  by_cases h2 : c.toNat ≤ 0x7ff
  · have hmod : c.toNat / 64 % 32 = c.toNat / 64 := by omega
    rw [if_pos h2, hmod]
    refine ⟨_, _, rfl, ?_⟩
    have := step_two (n := c.toNat) (by omega) bs
    rwa [hofNat] at this
  rw [if_neg h2]
  by_cases h3 : c.toNat ≤ 0xffff
  · have hmod : c.toNat / 4096 % 16 = c.toNat / 4096 := by omega
    rw [if_pos h3, hmod]
    refine ⟨_, _, rfl, ?_⟩
    have := step_three (n := c.toNat) (by omega) (by omega) bs
    rwa [hofNat] at this
  · have hmod : c.toNat / 262144 % 8 = c.toNat / 262144 := by omega
    rw [if_neg h3, hmod]
    refine ⟨_, _, rfl, ?_⟩
    have := step_four (n := c.toNat) (by omega) bs
    rwa [hofNat] at this

/-! ### Texts -/

theorem decode_cons {b : UInt8} {bs rest : List UInt8} {c : Char} (h : step b bs = (some c, rest)) :
    decode (b :: bs) = c :: decode rest := by
  rw [decode]
  simp only [h]

/-- The bytes of a text are read as that text, whatever bytes follow. -/
theorem decode_encoded_append (t : Text) (bs : List UInt8) :
    decode (t.flatMap String.utf8EncodeChar ++ bs) = t ++ decode bs := by
  induction t with
  | nil => rfl
  | cons c t ih =>
    obtain ⟨b, cs, henc, hstep⟩ := step_encoded c (t.flatMap String.utf8EncodeChar ++ bs)
    rw [List.flatMap_cons, List.append_assoc, henc, List.cons_append, decode_cons hstep, ih,
      List.cons_append]

/-- **The bytes of a text are read as that text.** -/
theorem decode_encoded (t : Text) : decode (t.flatMap String.utf8EncodeChar) = t := by
  have h := decode_encoded_append t []
  rwa [List.append_nil, decode, List.append_nil] at h

/-- The bytes of a string are those of its characters, one after the other. -/
theorem toUTF8_eq (s : String) : s.toUTF8.data.toList = s.toList.flatMap String.utf8EncodeChar := by
  conv_lhs => rw [← String.ofList_toList (s := s)]
  rw [String.toUTF8_eq_toByteArray, String.toByteArray_ofList, List.utf8Encode,
    List.data_toByteArray, List.toList_toArray]

end Utf8

/-- **The bytes of a string are read as its characters**, but for those that no text can hold. -/
theorem repairBytes_toUTF8 (s : String) : repairBytes s.toUTF8.data.toList = repairText s.toList := by
  rw [repairBytes, Utf8.toUTF8_eq, Utf8.decode_encoded]

end HtmlCanon
