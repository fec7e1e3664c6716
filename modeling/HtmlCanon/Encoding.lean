import HtmlCanon.Text

/-!
# Reading bytes and repairing text

Bytes are read as UTF-8; a sequence that is not well formed is dropped, in the maximal pieces that
the Unicode standard recommends. The result is then freed of the characters that an output text
cannot hold.
-/

namespace HtmlCanon

/-- Characters that an output text can hold: no C0 control but tab, line feed and carriage return,
and neither U+FFFE nor U+FFFF. -/
def isRepresentable (c : Char) : Bool :=
  c == '\t' || c == '\n' || c == '\r' || (0x20 ≤ c.toNat && c.toNat != 0xFFFE && c.toNat != 0xFFFF)

/-- Drops the characters that an output text cannot hold. -/
def repairText (t : Text) : Text := t.filter isRepresentable

namespace Utf8

/-- A byte of the form `10xxxxxx`. -/
def isTail (b : UInt8) : Bool := 0x80 ≤ b && b ≤ 0xBF

/-- What a lead byte asks for: the bits it carries itself, the range of the byte after it and the
number of tail bytes after that one. -/
structure Lead where
  bits : Nat
  low : UInt8
  high : UInt8
  more : Nat

/-- The lead bytes of sequences of two, three and four bytes. The ranges of the second byte leave
out overlong forms, surrogates and values above U+10FFFF. -/
def lead? (b : UInt8) : Option Lead :=
  if 0xC2 ≤ b && b ≤ 0xDF then some ⟨b.toNat - 0xC0, 0x80, 0xBF, 0⟩
  else if b == 0xE0 then some ⟨0, 0xA0, 0xBF, 1⟩
  else if b == 0xED then some ⟨0xD, 0x80, 0x9F, 1⟩
  else if 0xE1 ≤ b && b ≤ 0xEF then some ⟨b.toNat - 0xE0, 0x80, 0xBF, 1⟩
  else if b == 0xF0 then some ⟨0, 0x90, 0xBF, 2⟩
  else if 0xF1 ≤ b && b ≤ 0xF3 then some ⟨b.toNat - 0xF0, 0x80, 0xBF, 2⟩
  else if b == 0xF4 then some ⟨4, 0x80, 0x8F, 2⟩
  else none

/-- Reads `n` tail bytes onto the bits `acc`. The rest begins at the first byte that is no tail. -/
def tails : Nat → Nat → List UInt8 → Option Nat × List UInt8
  | 0, acc, bs => (some acc, bs)
  | _ + 1, _, [] => (none, [])
  | n + 1, acc, b :: bs =>
    if isTail b then tails n (acc * 64 + (b.toNat - 0x80)) bs else (none, b :: bs)

/-- Reads one character, or drops one maximal piece of an ill-formed sequence. -/
def step (b : UInt8) (bs : List UInt8) : Option Char × List UInt8 :=
  if b < 0x80 then (some (Char.ofNat b.toNat), bs)
  else match lead? b with
    | none => (none, bs)
    | some l =>
      match bs with
      | [] => (none, [])
      | c :: cs =>
        if l.low ≤ c && c ≤ l.high then
          match tails l.more (l.bits * 64 + (c.toNat - 0x80)) cs with
          | (some n, rest) => (some (Char.ofNat n), rest)
          | (none, rest) => (none, rest)
        else (none, bs)

theorem tails_length (n acc : Nat) (bs : List UInt8) :
    (tails n acc bs).2.length ≤ bs.length := by
  fun_induction tails n acc bs with
  | case1 => simp
  | case2 => simp
  | case3 acc n b bs h ih => simp; omega
  | case4 => simp

theorem step_length (b : UInt8) (bs : List UInt8) : (step b bs).2.length ≤ bs.length := by
  unfold step
  split
  · simp
  · split
    · simp
    · rename_i l _
      cases bs with
      | nil => simp
      | cons c cs =>
        simp only
        split
        · have h := tails_length l.more (l.bits * 64 + (c.toNat - 0x80)) cs
          generalize hg : tails l.more (l.bits * 64 + (c.toNat - 0x80)) cs = g at *
          obtain ⟨o, rest⟩ := g
          cases o <;> simp at h ⊢ <;> omega
        · simp

/-- Reads bytes as UTF-8 and drops what is ill formed. -/
def decode : List UInt8 → Text
  | [] => []
  | b :: bs =>
    have := step_length b bs
    match (step b bs).1 with
    | some c => c :: decode (step b bs).2
    | none => decode (step b bs).2
termination_by bs => bs.length
decreasing_by all_goals exact Nat.lt_succ_of_le this

/-- Whether every byte belongs to a well-formed sequence. -/
def isValid : List UInt8 → Bool
  | [] => true
  | b :: bs =>
    have := step_length b bs
    (step b bs).1.isSome && isValid (step b bs).2
termination_by bs => bs.length
decreasing_by simp; omega

end Utf8

/-- Reads bytes as UTF-8, drops what is ill formed and repairs the rest. -/
def repairBytes (bs : List UInt8) : Text := repairText (Utf8.decode bs)

end HtmlCanon
