import HtmlCanon.Digits
import HtmlCanon.Yaml.Value

/-!
# What plain scalars mean

A plain scalar is null, a boolean, a number or, failing these, a string. Digits with a zero too many
in front are no number. An integer that 128 bits can hold but 64 bits cannot is refused.
-/

namespace HtmlCanon.Yaml.Scalar

/-- The spellings of null. -/
def isNull (t : String) : Bool := t == "~" || t == "null" || t == "Null" || t == "NULL"

/-- The boolean that a text spells. -/
def bool? (t : String) : Option Bool :=
  if t == "true" || t == "True" || t == "TRUE" then some true
  else if t == "false" || t == "False" || t == "FALSE" then some false
  else none

/-- The natural number that digits of a base spell; there is at least one digit. -/
def natOf? (base : Nat) (t : Text) : Option Nat :=
  if !t.isEmpty && t.all (isDigitIn base) then some (ofDigits base t) else none

/-- A text without the plus or minus sign in front. -/
def dropSign : Text → Text
  | '+' :: t => t
  | '-' :: t => t
  | t => t

/-- A zero with further digits behind it, and perhaps a sign in front. -/
def hasSpareZero (t : Text) : Bool :=
  match dropSign t with
  | '0' :: d :: ds => (d :: ds).all Char.isDigit
  | _ => false

/-- The magnitude that a text without a sign spells, in decimal or after `0x`, `0o` or `0b`. -/
def magnitude? (t : Text) : Option Nat :=
  match t with
  | '0' :: 'x' :: ds => natOf? 16 ds
  | '0' :: 'o' :: ds => natOf? 8 ds
  | '0' :: 'b' :: ds => natOf? 2 ds
  | ds => if hasSpareZero ds then none else natOf? 10 ds

/-- The integer that a text spells, of any size. -/
def int? (t : Text) : Option Int :=
  match t with
  | '-' :: ds => (magnitude? ds).map fun n => -(n : Int)
  | '+' :: ds => (magnitude? ds).map fun n => (n : Int)
  | ds => (magnitude? ds).map fun n => (n : Int)

/-- Whether an integer has 64 bits, with or without a sign. -/
def fits64 (n : Int) : Bool := -(Nat.pow 2 63 : Int) ≤ n && n < Nat.pow 2 64

/-- Whether an integer has 128 bits, with or without a sign. -/
def fits128 (n : Int) : Bool := -(Nat.pow 2 127 : Int) ≤ n && n < Nat.pow 2 128

/-- The exponent of a decimal numeral, from the letter `e` on; nothing counts as zero. -/
def exponent? : Text → Option Int
  | [] => some 0
  | c :: t =>
    if c != 'e' && c != 'E' then none
    else match t with
      | '-' :: ds => (natOf? 10 ds).map fun n => -(n : Int)
      | '+' :: ds => (natOf? 10 ds).map fun n => (n : Int)
      | ds => (natOf? 10 ds).map fun n => (n : Int)

/-- The number that a decimal numeral without a sign spells. -/
def decimal? (negative : Bool) (t : Text) : Option Binary64 :=
  let whole := t.takeWhile Char.isDigit
  let rest := t.dropWhile Char.isDigit
  let (part, rest) := match rest with
    | '.' :: r => (r.takeWhile Char.isDigit, r.dropWhile Char.isDigit)
    | r => ([], r)
  if whole.isEmpty && part.isEmpty then none
  else (exponent? rest).map fun e =>
    Binary64.ofDecimal negative (ofDigits 10 (whole ++ part)) (e - part.length)

/-- The floating-point number that a text spells: infinity, what is not a number, or a decimal
numeral whose nearest number is finite. -/
def float? (t : Text) : Option Binary64 :=
  let infinity : List Text := [".inf".toList, ".Inf".toList, ".INF".toList]
  if t == ".nan".toList || t == ".NaN".toList || t == ".NAN".toList then some .nan
  else
    let x := match t with
      | '-' :: r => if infinity.contains r then some (.infinite true) else
          (decimal? true r).filter Binary64.isFinite
      | '+' :: r => if infinity.contains r then some (.infinite false) else
          (decimal? false r).filter Binary64.isFinite
      | r => if infinity.contains r then some (.infinite false) else
          (decimal? false r).filter Binary64.isFinite
    x

/-- The integer value of a text. The outer result is none if the text spells no integer, the inner
one if it spells one that is refused. -/
def intValue? (t : String) : Option (Option Value) :=
  match int? t.toList with
  | none => none
  | some n =>
    if fits64 n then some (some (.number (.int n)))
    else if fits128 n then some none
    else none

/-- What a plain scalar means; none if it is refused. -/
def plain? (t : String) : Option Value :=
  if t == "" || isNull t then some .null
  else match bool? t with
    | some b => some (.bool b)
    | none =>
      match intValue? t with
      | some v => v
      | none =>
        if hasSpareZero t.toList then some (.string t)
        else match float? t.toList with
          | some x => some (.number (.float x))
          | none => some (.string t)

/-- What a scalar means under one of the tags for scalars, which its text has to suit. The outer
result is none for any other tag. -/
def underTag? (tag t : String) : Option (Option Value) :=
  if tag == "tag:yaml.org,2002:bool" then some ((bool? t).map .bool)
  else if tag == "tag:yaml.org,2002:int" then some (intValue? t).join
  else if tag == "tag:yaml.org,2002:float" then
    some ((float? t.toList).map fun x => .number (.float x))
  else if tag == "tag:yaml.org,2002:null" then some (if isNull t then some .null else none)
  else none

end HtmlCanon.Yaml.Scalar
