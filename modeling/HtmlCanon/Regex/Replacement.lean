import HtmlCanon.Digits

/-!
# Replacement texts

A replacement text may refer to the groups of a pattern: `$1` and `$name` take as many word
characters as follow, and braces set the reference off from what follows. Two dollar signs stand for
one; a dollar sign that starts no reference stands for itself.
-/

namespace HtmlCanon.Regex

/-- A group of a pattern, by number or by name. -/
inductive GroupRef where
  | number (n : Nat)
  | name (t : Text)
  deriving DecidableEq, Repr

/-- A part of a replacement text. -/
inductive Piece where
  | text (t : Text)
  | group (g : GroupRef)
  deriving DecidableEq, Repr

/-- What the text of a reference refers to. A number may have a plus sign and has 64 bits
at most. -/
def GroupRef.ofText (t : Text) : GroupRef :=
  let digits := match t with
    | '+' :: r => r
    | r => r
  if !digits.isEmpty && digits.all Char.isDigit && ofDigits 10 digits < Nat.pow 2 64 then
    number (ofDigits 10 digits)
  else name t

/-- The characters of a reference without braces. -/
def isRefChar (c : Char) : Bool := isAsciiAlphanum c || c == '_'

/-- The reference after a dollar sign, with what follows it. -/
def reference? (t : Text) : Option (GroupRef × Text) :=
  match t with
  | '\x7b' :: r =>
    match r.dropWhile (· != '\x7d') with
    | _ :: rest => some (GroupRef.ofText (r.takeWhile (· != '\x7d')), rest)
    | [] => none
  | t =>
    let name := t.takeWhile isRefChar
    if name.isEmpty then none else some (GroupRef.ofText name, t.dropWhile isRefChar)

theorem reference?_length {t r : Text} {g : GroupRef} (h : reference? t = some (g, r)) :
    r.length ≤ t.length := by
  unfold reference? at h
  split at h
  · rename_i s
    have hd := dropWhile_length_le (· != '\x7d') s
    split at h
    · rename_i c rest hr
      simp only [Option.some.injEq, Prod.mk.injEq] at h
      rw [hr] at hd
      simp only [List.length_cons] at hd ⊢
      rw [← h.2]; omega
    · simp at h
  · dsimp only at h
    split at h
    · simp at h
    · simp only [Option.some.injEq, Prod.mk.injEq] at h
      rw [← h.2]; exact dropWhile_length_le _ _

/-- The parts of a replacement text. -/
def pieces : Text → List Piece
  | [] => []
  | '$' :: '$' :: r => .text ['$'] :: pieces r
  | '$' :: r =>
    match h : reference? r with
    | some (g, rest) =>
      have := reference?_length h
      .group g :: pieces rest
    | none => .text ['$'] :: pieces r
  | c :: r => .text [c] :: pieces r
termination_by t => t.length
decreasing_by all_goals (simp only [List.length_cons]; omega)

end HtmlCanon.Regex
