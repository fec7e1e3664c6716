import HtmlCanon.Text

/-!
# Binary floating-point numbers

Numbers of the 64-bit binary format, kept as exact values. A decimal numeral is rounded to the
nearest number, a tie to the even one; a number is written with the fewest digits that are rounded
back to it, and of those with the digits nearest to it.
-/

namespace HtmlCanon

/-- A number of the 64-bit binary format. A finite one stands for `mantissa * 2 ^ exponent`; the
mantissa has 53 bits, or fewer if the exponent is the least one, `-1074`. -/
inductive Binary64 where
  | nan
  | infinite (negative : Bool)
  | finite (negative : Bool) (mantissa : Nat) (exponent : Int)
  deriving DecidableEq, Repr

namespace Binary64

/-- The number of decimal digits of a natural number; zero has one. -/
def digitCount (n : Nat) : Nat := (Nat.toDigits 10 n).length

/-- The quotient rounded to the nearest natural number, a tie to the even one. -/
def roundDiv (num den : Nat) : Nat :=
  let q := num / den
  let r := num % den
  if 2 * r < den || (2 * r == den && q % 2 == 0) then q else q + 1

/-- The number nearest to the positive quotient `num / den`. -/
def ofRatio (negative : Bool) (num den : Nat) : Binary64 :=
  let guess : Int := (Nat.log2 num : Int) - Nat.log2 den - 52
  let scaled (e : Int) : Nat × Nat := (num * Nat.pow 2 (-e).toNat, den * Nat.pow 2 e.toNat)
  let fit := if (scaled guess).1 / (scaled guess).2 < Nat.pow 2 52 then guess - 1 else guess
  let e := max fit (-1074)
  let m := roundDiv (scaled e).1 (scaled e).2
  let (m, e) := if m == Nat.pow 2 53 then (Nat.pow 2 52, e + 1) else (m, e)
  if 971 < e then infinite negative else finite negative m e

/-- The number nearest to `digits * 10 ^ exponent`. -/
def ofDecimal (negative : Bool) (digits : Nat) (exponent : Int) : Binary64 :=
  let top := exponent + digitCount digits
  if digits == 0 || top < -330 then finite negative 0 (-1074)
  else if 310 < top then infinite negative
  else ofRatio negative (digits * Nat.pow 10 exponent.toNat) (Nat.pow 10 (-exponent).toNat)

/-- Whether a number is neither infinite nor not a number. -/
def isFinite : Binary64 → Bool
  | finite .. => true
  | _ => false

/-- Whether a number is zero of either sign. -/
def isZero : Binary64 → Bool
  | finite _ m _ => m == 0
  | _ => false

/-- The same number: both zeros are one, and what is not a number is the same as itself. -/
def same (a b : Binary64) : Bool := a == b || (a.isZero && b.isZero)

/-- The exponent `p` for which the positive quotient `num / den` lies between `10 ^ (p - 1)`, which
it may equal, and `10 ^ p`. -/
def decimalPlace (num den : Nat) : Int :=
  if den ≤ num then digitCount (num / den) else 1 - (digitCount ((den + num - 1) / num - 1) : Int)

/-- The digits nearest to `mantissa * 2 ^ exponent`, of those numerals of `n` digits that are
rounded back to it, with the power of ten of the last one. -/
def digitsOf? (m : Nat) (e : Int) (n : Nat) : Option (Nat × Int) :=
  let unit := Nat.pow 2 (e - 2).toNat
  let den := Nat.pow 2 (2 - e).toNat
  let low := (if m == Nat.pow 2 52 && -1074 < e then 4 * m - 1 else 4 * m - 2) * unit
  let high := (4 * m + 2) * unit
  let value := 4 * m * unit
  let k := decimalPlace value den - n
  let up := Nat.pow 10 (-k).toNat
  let down := Nat.pow 10 k.toNat * den
  let inside (d : Nat) : Bool :=
    if m % 2 == 0 then low * up ≤ d * down && d * down ≤ high * up
    else low * up < d * down && d * down < high * up
  let d := value * up / down
  let nearest := roundDiv (value * up) down
  let other := if nearest == d then d + 1 else d
  if inside nearest then some (nearest, k) else if inside other then some (other, k) else none

/-- Drops the zeros at the end of a numeral. -/
def stripZeros : Nat → Nat → Int → Nat × Int
  | 0, d, k => (d, k)
  | n + 1, d, k => if d != 0 && d % 10 == 0 then stripZeros n (d / 10) (k + 1) else (d, k)

/-- The fewest digits that are rounded back to a positive number, and the power of ten of the last
one. Seventeen always suffice. -/
def shortest (m : Nat) (e : Int) : Nat × Int :=
  let (d, k) := ((List.range 17).findSome? fun n => digitsOf? m e (n + 1)).getD (m, e)
  stripZeros 18 d k

/-- How a positive number is written: plainly if the point falls at most sixteen places after the
first digit or five places before it, and otherwise with an exponent. -/
def layout (d : Nat) (k : Int) : String :=
  let ds := Nat.toDigits 10 d
  let point := ds.length + k
  if 0 ≤ k && point ≤ 16 then String.ofList (ds ++ List.replicate k.toNat '0') ++ ".0"
  else if 0 < point && point ≤ 16 then
    String.ofList (ds.take point.toNat ++ '.' :: ds.drop point.toNat)
  else if -5 < point && point ≤ 0 then
    "0." ++ String.ofList (List.replicate (-point).toNat '0' ++ ds)
  else
    String.ofList (ds.take 1) ++
      (if ds.length == 1 then "" else "." ++ String.ofList (ds.drop 1)) ++
      "e" ++ toString (point - 1)

/-- A number as it is written in YAML. -/
def toText : Binary64 → String
  | nan => ".nan"
  | infinite negative => if negative then "-.inf" else ".inf"
  | finite negative m e =>
    (if negative then "-" else "") ++
      if m == 0 then "0.0" else layout (shortest m e).1 (shortest m e).2

/-- A positive number without an exponent, with at least one digit on each side of the point. -/
def plainLayout (d : Nat) (k : Int) : String :=
  let ds := Nat.toDigits 10 d
  let point := ds.length + k
  if 0 ≤ k then String.ofList (ds ++ List.replicate k.toNat '0') ++ ".0"
  else if 0 < point then String.ofList (ds.take point.toNat ++ '.' :: ds.drop point.toNat)
  else "0." ++ String.ofList (List.replicate (-point).toNat '0' ++ ds)

/-- A number written without an exponent. -/
def toPlainText : Binary64 → String
  | nan => "NaN"
  | infinite negative => if negative then "-inf" else "inf"
  | finite negative m e =>
    (if negative then "-" else "") ++
      if m == 0 then "0.0" else plainLayout (shortest m e).1 (shortest m e).2

end Binary64

end HtmlCanon
