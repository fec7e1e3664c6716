import HtmlCanon.Text

/-!
# Digits

Numbers read from digits, and written in them, in bases up to sixteen.
-/

namespace HtmlCanon

/-- The value of a digit in a base of at most sixteen. -/
def digit? (base : Nat) (c : Char) : Option Nat :=
  let v :=
    if '0' ≤ c && c ≤ '9' then c.toNat - '0'.toNat
    else if 'a' ≤ c && c ≤ 'f' then c.toNat - 'a'.toNat + 10
    else if 'A' ≤ c && c ≤ 'F' then c.toNat - 'A'.toNat + 10
    else 16
  if v < base then some v else none

/-- Whether a character is a digit in a base. -/
def isDigitIn (base : Nat) (c : Char) : Bool := (digit? base c).isSome

/-- The number that digits stand for; a character that is no digit counts as zero. -/
def ofDigits (base : Nat) (t : Text) : Nat :=
  t.foldl (fun n c => n * base + (digit? base c).getD 0) 0

/-- A number in hexadecimal, in small letters. -/
def hexDigits (n : Nat) : Text := Nat.toDigits 16 n

end HtmlCanon
