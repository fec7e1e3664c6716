import HtmlCanon.Proofs.Encoding

/-!
# Reading bytes one after the other

Bytes that are not well formed are dropped in pieces of up to three. It comes to the same to go through
the bytes from the first one to the last, to read a character wherever the bytes of one begin, and to
pass over a single byte wherever none do: no character begins within a piece that is dropped, as what
is there are tail bytes.

* `Reads` : the bytes of characters are read, all other bytes are passed over one by one.
* `eq_encoded_of_step` : a step reads the bytes of a character.
* `tails_of_step_none` : a step that reads nothing drops tail bytes.
* `reads_iff` : **bytes are read in one way**, that of `decode`.
* `repairBytes_reads` : **what is read and repaired of bytes.**
-/

namespace HtmlCanon

namespace Utf8

variable {b : UInt8} {bs rest : List UInt8} {c : Char} {n : Nat} {t : Text}

/-- Bytes that are read from the first one to the last: where those of a character begin, it is read,
and where those of no character do, one byte is passed over. -/
inductive Reads : List UInt8 → Text → Prop
  | nil : Reads [] []
  | char (c : Char) {bs : List UInt8} {t : Text} (h : Reads bs t) :
    Reads (String.utf8EncodeChar c ++ bs) (c :: t)
  | skip {b : UInt8} {bs : List UInt8} {t : Text} (hb : ∀ c, ¬String.utf8EncodeChar c <+: b :: bs)
    (h : Reads bs t) : Reads (b :: bs) t

/-! ### The bytes of a character -/

theorem val_ofNat (h : n.isValidChar) : (Char.ofNat n).val.toNat = n := by
  rw [Char.ofNat, dif_pos h]
  rfl

theorem encode_one (h : n < 0x80) : String.utf8EncodeChar (Char.ofNat n) = [UInt8.ofNat n] := by
  have hval : (Char.ofNat n).val.toNat = n := val_ofNat (.inl (by omega))
  unfold String.utf8EncodeChar
  simp only [hval]
  rw [if_pos (by omega)]

theorem encode_two (h : 0x80 ≤ n ∧ n < 0x800) :
    String.utf8EncodeChar (Char.ofNat n) = [UInt8.ofNat (n / 64 + 192), tailByte n] := by
  have hval : (Char.ofNat n).val.toNat = n := val_ofNat (.inl (by omega))
  have hmod : n / 64 % 32 = n / 64 := by omega
  unfold String.utf8EncodeChar
  simp only [hval]
  rw [if_neg (by omega), if_pos (by omega), hmod]
  rfl

theorem encode_three (h : 0x800 ≤ n ∧ n < 0x10000) (hs : n < 0xD800 ∨ 0xDFFF < n) :
    String.utf8EncodeChar (Char.ofNat n) =
      [UInt8.ofNat (n / 4096 + 224), tailByte (n / 64), tailByte n] := by
  have hvalid : n.isValidChar := hs.imp id fun hs => ⟨hs, by omega⟩
  have hval : (Char.ofNat n).val.toNat = n := val_ofNat hvalid
  have hmod : n / 4096 % 16 = n / 4096 := by omega
  unfold String.utf8EncodeChar
  simp only [hval]
  rw [if_neg (by omega), if_neg (by omega), if_pos (by omega), hmod]
  rfl

theorem encode_four (h : 0x10000 ≤ n ∧ n < 0x110000) :
    String.utf8EncodeChar (Char.ofNat n) =
      [UInt8.ofNat (n / 262144 + 240), tailByte (n / 4096), tailByte (n / 64), tailByte n] := by
  have hval : (Char.ofNat n).val.toNat = n := val_ofNat (.inr ⟨by omega, h.2⟩)
  have hmod : n / 262144 % 8 = n / 262144 := by omega
  unfold String.utf8EncodeChar
  simp only [hval]
  rw [if_neg (by omega), if_neg (by omega), if_neg (by omega), hmod]
  rfl

/-! ### What a step reads -/

/-- Which bytes are lead bytes, by the number of bytes that follow them. -/
theorem eq_of_lead? {l : Lead} (h : lead? b = some l) :
    (∃ k, 2 ≤ k ∧ k < 32 ∧ b = UInt8.ofNat (k + 192) ∧ l = ⟨k, 0x80, 0xBF, 0⟩) ∨
      (∃ k < 16, b = UInt8.ofNat (k + 224) ∧
        l = ⟨k, if k = 0 then 0xA0 else 0x80, if k = 13 then 0x9F else 0xBF, 1⟩) ∨
      ∃ k < 5, b = UInt8.ofNat (k + 240) ∧
        l = ⟨k, if k = 0 then 0x90 else 0x80, if k = 4 then 0x8F else 0xBF, 2⟩ := by
  have hself : ∀ m ≤ b.toNat, b = UInt8.ofNat (b.toNat - m + m) := fun m hm => by
    rw [Nat.sub_add_cancel hm, UInt8.ofNat_toNat]
  by_cases h2 : 194 ≤ b.toNat ∧ b.toNat < 224
  · have hk : 2 ≤ b.toNat - 192 ∧ b.toNat - 192 < 32 := by omega
    rw [hself 192 (by omega), lead?_two hk] at h
    exact .inl ⟨_, hk.1, hk.2, hself 192 (by omega), (Option.some.inj h).symm⟩
  by_cases h3 : 224 ≤ b.toNat ∧ b.toNat < 240
  · have hk : b.toNat - 224 < 16 := by omega
    rw [hself 224 h3.1, lead?_three hk] at h
    exact .inr (.inl ⟨_, hk, hself 224 h3.1, (Option.some.inj h).symm⟩)
  by_cases h4 : 240 ≤ b.toNat ∧ b.toNat < 245
  · have hk : b.toNat - 240 < 5 := by omega
    rw [hself 240 h4.1, lead?_four hk] at h
    exact .inr (.inr ⟨_, hk, hself 240 h4.1, (Option.some.inj h).symm⟩)
  · have hnone : lead? b = none := by
      simp only [lead?, UInt8.le_iff_toNat_le, beq_iff_eq, ← UInt8.toNat_inj, Bool.and_eq_true,
        decide_eq_true_eq, UInt8.reduceToNat]
      grind
    rw [hnone] at h
    cases h

/-- The number of a tail byte. -/
theorem isTail_iff : isTail b = true ↔ 128 ≤ b.toNat ∧ b.toNat ≤ 191 := by
  simp only [isTail, Bool.and_eq_true, decide_eq_true_eq, UInt8.le_iff_toNat_le, UInt8.reduceToNat]

/-- A byte that carries the last six bits of a number. -/
theorem tailByte_eq (hb : 128 ≤ b.toNat ∧ b.toNat ≤ 191) (h : n % 64 = b.toNat - 128) :
    tailByte n = b := by
  rw [← UInt8.toNat_inj, toNat_tailByte]
  omega

/-- What tail bytes are read as. -/
theorem eq_of_tails {k acc : Nat} (h : tails (k + 1) acc bs = (some n, rest)) :
    ∃ d ds, bs = d :: ds ∧ (128 ≤ d.toNat ∧ d.toNat ≤ 191) ∧
      tails k (acc * 64 + (d.toNat - 128)) ds = (some n, rest) := by
  cases bs with
  | nil => cases h
  | cons d ds =>
    rw [tails] at h
    split at h
    · rename_i hd
      exact ⟨d, ds, rfl, isTail_iff.1 hd, h⟩
    · cases h

/-- The range of a byte after a lead byte that is narrowed for one lead byte at either end. -/
theorem range_of_narrowed {k i j low high m : Nat} (hlow : 128 ≤ low) (hhigh : high ≤ 191)
    (h : (if k = i then low else 128) ≤ m ∧ m ≤ if k = j then high else 191) :
    (128 ≤ m ∧ m ≤ 191) ∧ (k = i → low ≤ m) ∧ (k = j → m ≤ high) := by
  obtain ⟨h1, h2⟩ := h
  split at h1 <;> split at h2 <;> omega

/-- **A lead byte, the byte after it and the tail bytes** are those of the character that is read. -/
theorem encode_of_lead {l : Lead} {d : UInt8} (hl : lead? b = some l)
    (hd : l.low.toNat ≤ d.toNat ∧ d.toNat ≤ l.high.toNat)
    (ht : tails l.more (l.bits * 64 + (d.toNat - 128)) bs = (some n, rest)) :
    b :: d :: bs = String.utf8EncodeChar (Char.ofNat n) ++ rest := by
  rcases eq_of_lead? hl with ⟨k, hk2, hk, rfl, rfl⟩ | ⟨k, hk, rfl, rfl⟩ | ⟨k, hk, rfl, rfl⟩ <;>
    simp only [apply_ite UInt8.toNat, UInt8.reduceToNat] at hd
  · obtain ⟨hn, rfl⟩ := Prod.mk.inj ht
    obtain rfl : k * 64 + (d.toNat - 128) = n := Option.some.inj hn
    have hlead : (k * 64 + (d.toNat - 128)) / 64 = k := by omega
    rw [encode_two (by omega), tailByte_eq hd (by omega), hlead]
    rfl
  · obtain ⟨e, es, rfl, he, ht⟩ := eq_of_tails ht
    obtain ⟨hn, rfl⟩ := Prod.mk.inj ht
    obtain rfl : (k * 64 + (d.toNat - 128)) * 64 + (e.toNat - 128) = n := Option.some.inj hn
    obtain ⟨hd, hshort, hsurrogate⟩ := range_of_narrowed (by decide) (by decide) hd
    have hlead : ((k * 64 + (d.toNat - 128)) * 64 + (e.toNat - 128)) / 4096 = k := by omega
    rw [encode_three (by omega) (by omega), tailByte_eq hd (by omega), tailByte_eq he (by omega), hlead]
    rfl
  · obtain ⟨e, es, rfl, he, ht⟩ := eq_of_tails ht
    obtain ⟨f, fs, rfl, hf, ht⟩ := eq_of_tails ht
    obtain ⟨hn, rfl⟩ := Prod.mk.inj ht
    obtain rfl : ((k * 64 + (d.toNat - 128)) * 64 + (e.toNat - 128)) * 64 + (f.toNat - 128) = n :=
      Option.some.inj hn
    obtain ⟨hd, hshort, hgreatest⟩ := range_of_narrowed (by decide) (by decide) hd
    have hlead : (((k * 64 + (d.toNat - 128)) * 64 + (e.toNat - 128)) * 64 + (f.toNat - 128)) / 262144 =
        k := by
      omega
    rw [encode_four (by omega), tailByte_eq hd (by omega), tailByte_eq he (by omega),
      tailByte_eq hf (by omega), hlead]
    rfl

/-- **A step reads the bytes of a character.** -/
theorem eq_encoded_of_step (h : step b bs = (some c, rest)) :
    b :: bs = String.utf8EncodeChar c ++ rest := by
  unfold step at h
  split at h
  · rename_i hlt
    rw [UInt8.lt_iff_toNat_lt] at hlt
    obtain ⟨hc, rfl⟩ := Prod.mk.inj h
    rw [← Option.some.inj hc, encode_one hlt, UInt8.ofNat_toNat, List.singleton_append]
  cases hl : lead? b with
  | none => rw [hl] at h; cases h
  | some l =>
    rw [hl] at h
    cases bs with
    | nil => cases h
    | cons d ds =>
      dsimp only at h
      split at h
      case isFalse => cases h
      rename_i hrange
      simp only [Bool.and_eq_true, decide_eq_true_eq, UInt8.le_iff_toNat_le] at hrange
      cases ht : tails l.more (l.bits * 64 + (d.toNat - 0x80)) ds with
      | mk o r =>
      rw [ht] at h
      cases o with
      | none => cases h
      | some n =>
        obtain ⟨hc, rfl⟩ := Prod.mk.inj h
        rw [← Option.some.inj hc]
        exact encode_of_lead hl hrange ht

/-! ### What a step drops -/

/-- A tail byte that no lead byte precedes is dropped by itself. -/
theorem step_tail (hb : isTail b = true) (bs : List UInt8) : step b bs = (none, bs) := by
  have hrange := isTail_iff.1 hb
  have hnot : ¬b < 0x80 := by
    simp only [UInt8.lt_iff_toNat_lt, UInt8.reduceToNat]
    omega
  cases hl : lead? b with
  | none => rw [step, if_neg hnot, hl]
  | some l =>
    have hgreat : 192 ≤ b.toNat := by
      rcases eq_of_lead? hl with ⟨k, -, hk, rfl, -⟩ | ⟨k, hk, rfl, -⟩ | ⟨k, hk, rfl, -⟩ <;>
        simp only [UInt8.toNat_ofNat'] <;> omega
    omega

/-- What is left after tail bytes stands behind tail bytes. -/
theorem tails_split (k acc : Nat) (bs : List UInt8) :
    ∃ ds, bs = ds ++ (tails k acc bs).2 ∧ ∀ d ∈ ds, isTail d = true := by
  fun_induction tails k acc bs with
  | case1 => exact ⟨[], rfl, List.forall_mem_nil _⟩
  | case2 => exact ⟨[], rfl, List.forall_mem_nil _⟩
  | case3 acc k b bs hb ih =>
    obtain ⟨ds, hds, htail⟩ := ih
    refine ⟨b :: ds, ?_, List.forall_mem_cons.2 ⟨hb, htail⟩⟩
    rw [List.cons_append, ← hds]
  | case4 => exact ⟨[], rfl, List.forall_mem_nil _⟩

/-- A byte that may follow a lead byte is a tail byte. -/
theorem isTail_of_lead? {l : Lead} (hl : lead? b = some l) {d : UInt8}
    (hd : (l.low ≤ d && d ≤ l.high) = true) : isTail d = true := by
  simp only [Bool.and_eq_true, decide_eq_true_eq, UInt8.le_iff_toNat_le] at hd
  rw [isTail_iff]
  rcases eq_of_lead? hl with ⟨k, -, -, -, rfl⟩ | ⟨k, -, -, rfl⟩ | ⟨k, -, -, rfl⟩ <;>
    simp only [apply_ite UInt8.toNat, UInt8.reduceToNat] at hd
  · exact hd
  · exact (range_of_narrowed (by decide) (by decide) hd).1
  · exact (range_of_narrowed (by decide) (by decide) hd).1

/-- **A step that reads nothing** drops a byte and tail bytes after it. -/
theorem tails_of_step_none (h : step b bs = (none, rest)) :
    ∃ ds, bs = ds ++ rest ∧ ∀ d ∈ ds, isTail d = true := by
  have hself : ∀ {rest : List UInt8}, bs = rest → ∃ ds, bs = ds ++ rest ∧ ∀ d ∈ ds, isTail d = true :=
    fun hrest => ⟨[], hrest, List.forall_mem_nil _⟩
  unfold step at h
  split at h
  · cases h
  cases hl : lead? b with
  | none =>
    rw [hl] at h
    exact hself (Prod.mk.inj h).2
  | some l =>
    rw [hl] at h
    cases bs with
    | nil => exact hself (Prod.mk.inj h).2
    | cons d ds =>
      dsimp only at h
      split at h
      case isFalse => exact hself (Prod.mk.inj h).2
      rename_i hd
      obtain ⟨es, hes, htail⟩ := tails_split l.more (l.bits * 64 + (d.toNat - 0x80)) ds
      cases ht : tails l.more (l.bits * 64 + (d.toNat - 0x80)) ds with
      | mk o r =>
      rw [ht] at h hes
      cases o with
      | some n => cases h
      | none =>
        obtain rfl := (Prod.mk.inj h).2
        refine ⟨d :: es, ?_, List.forall_mem_cons.2 ⟨isTail_of_lead? hl hd, htail⟩⟩
        rw [List.cons_append, ← hes]

/-! ### Reading byte by byte -/

/-- A step reads nothing exactly where the bytes of no character begin. -/
theorem step_fst_eq_none_iff :
    (step b bs).1 = none ↔ ∀ c, ¬String.utf8EncodeChar c <+: b :: bs := by
  constructor
  · rintro h c ⟨rest, hrest⟩
    obtain ⟨b', cs, henc, hstep⟩ := step_encoded c rest
    rw [henc, List.cons_append] at hrest
    obtain ⟨rfl, rfl⟩ := List.cons.inj hrest
    rw [hstep] at h
    cases h
  · intro h
    cases hs : step b bs with
    | mk o rest =>
    cases o with
    | none => rfl
    | some c => exact absurd ⟨rest, (eq_encoded_of_step hs).symm⟩ (h c)

theorem decode_of_step_none (h : step b bs = (none, rest)) : decode (b :: bs) = decode rest := by
  rw [decode]
  simp only [h]

theorem decode_tails {ds : List UInt8} (hds : ∀ d ∈ ds, isTail d = true) (bs : List UInt8) :
    decode (ds ++ bs) = decode bs := by
  induction ds with
  | nil => rfl
  | cons d ds ih =>
    obtain ⟨hd, hds⟩ := List.forall_mem_cons.1 hds
    rw [List.cons_append, decode_of_step_none (step_tail hd _), ih hds]

theorem Reads.tails {ds : List UInt8} (hds : ∀ d ∈ ds, isTail d = true) (h : Reads bs t) :
    Reads (ds ++ bs) t := by
  induction ds with
  | nil => exact h
  | cons d ds ih =>
    obtain ⟨hd, hds⟩ := List.forall_mem_cons.1 hds
    refine .skip (step_fst_eq_none_iff.1 ?_) (ih hds)
    rw [step_tail hd]

/-- `decode` reads a character where one begins and passes over the other bytes. -/
theorem reads_decode (bs : List UInt8) : Reads bs (decode bs) := by
  cases bs with
  | nil =>
    rw [decode]
    exact .nil
  | cons b bs =>
    have hlen := step_length b bs
    cases hs : step b bs with
    | mk o rest =>
    rw [hs] at hlen
    have hlt : rest.length < (b :: bs).length := Nat.lt_succ_of_le hlen
    have ih := reads_decode rest
    cases o with
    | some c =>
      rw [decode_cons hs, eq_encoded_of_step hs]
      exact .char c ih
    | none =>
      have hnone : (step b bs).1 = none := by rw [hs]
      obtain ⟨ds, rfl, hds⟩ := tails_of_step_none hs
      rw [decode_of_step_none hs]
      exact .skip (step_fst_eq_none_iff.1 hnone) (ih.tails hds)
termination_by bs.length
decreasing_by all_goals exact hlt

/-- **Bytes are read in one way.** -/
theorem reads_iff : Reads bs t ↔ t = decode bs := by
  constructor
  · intro h
    induction h with
    | nil => rw [decode]
    | @char c bs t _ ih =>
      have hchar := decode_encoded_append [c] bs
      rw [List.flatMap_singleton, List.singleton_append] at hchar
      rw [hchar, ih]
    | @skip b bs t hb _ ih =>
      have hnone := step_fst_eq_none_iff.2 hb
      cases hs : step b bs with
      | mk o rest =>
      rw [hs] at hnone
      obtain rfl : o = none := hnone
      obtain ⟨ds, rfl, hds⟩ := tails_of_step_none hs
      rw [decode_of_step_none hs, ih, decode_tails hds]
  · rintro rfl
    exact reads_decode bs

end Utf8

/-- **What is read and repaired of bytes.** It is what is read byte by byte, freed of the characters that
no text can hold. So the bytes of a text that can hold all its characters give this text, what any bytes
give is such a text, and its bytes give it again; and the bytes of a string in front of others give the
repaired string in front of what the others give. -/
theorem repairBytes_reads (bs : List UInt8) :
    (∃ t, (∀ u, Utf8.Reads bs u ↔ u = t) ∧ repairBytes bs = repairText t) ∧
      (∀ s : String, s.toList.all isRepresentable = true →
        repairBytes s.toUTF8.data.toList = s.toList) ∧
      (repairBytes bs).all isRepresentable = true ∧
      repairBytes (String.ofList (repairBytes bs)).toUTF8.data.toList = repairBytes bs ∧
      ∀ s : String, repairBytes (s.toUTF8.data.toList ++ bs) = repairText s.toList ++ repairBytes bs := by
  have hclean : (repairBytes bs).all isRepresentable = true :=
    List.all_eq_true.2 fun c hc => (List.mem_filter.1 hc).2
  have hagain : ∀ s : String, s.toList.all isRepresentable = true →
      repairBytes s.toUTF8.data.toList = s.toList := fun s hs => by
    rw [repairBytes_toUTF8, repairText_eq_self_iff.2 hs]
  refine ⟨⟨Utf8.decode bs, fun u => Utf8.reads_iff, rfl⟩, hagain, hclean, ?_, fun s => ?_⟩
  · rw [hagain _ (by rwa [String.toList_ofList]), String.toList_ofList]
  · rw [repairBytes, Utf8.toUTF8_eq, Utf8.decode_encoded_append, repairText_append, repairBytes]

/-- Three bytes that no character goes on after, then a surrogate, with letters and a control character
between; behind the bytes of characters of all lengths. -/
theorem repairBytes_reads_cutShort :
    "é€\t😀".toList.all isRepresentable = true ∧
      repairBytes "é€\t😀".toUTF8.data.toList = "é€\t😀".toList ∧
      repairBytes ("é€\t😀".toUTF8.data.toList ++ [0xF0, 0x9F, 0x98, 0x61, 0x01, 0xED, 0xA0, 0x80, 0x62]) =
        "é€\t😀ab".toList := by
  have hall : "é€\t😀".toList.all isRepresentable = true := by decide
  have hrest : repairBytes [0xF0, 0x9F, 0x98, 0x61, 0x01, 0xED, 0xA0, 0x80, 0x62] = ['a', 'b'] := by
    decide +kernel
  obtain ⟨-, hself, -, -, hbehind⟩ :=
    repairBytes_reads [0xF0, 0x9F, 0x98, 0x61, 0x01, 0xED, 0xA0, 0x80, 0x62]
  refine ⟨hall, hself _ hall, ?_⟩
  rw [hbehind, hrest, repairText_eq_self_iff.2 hall]
  rfl

end HtmlCanon
