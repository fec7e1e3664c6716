import HtmlCanon.Binary64

/-!
# YAML values

What a YAML document says once aliases are followed and plain scalars are resolved. A mapping keeps
the order in which its entries are written.
-/

namespace HtmlCanon.Yaml

/-- A number: an integer of 64 bits, with or without a sign, or a floating-point number. -/
inductive Number where
  | int (n : Int)
  | float (x : Binary64)
  deriving DecidableEq, Repr

namespace Number

/-- A number as it is written in YAML. -/
def toText : Number → String
  | int n => toString n
  | float x => x.toText

/-- The same number. An integer and a floating-point number always differ. -/
def same : Number → Number → Bool
  | int m, int n => m == n
  | float x, float y => x.same y
  | _, _ => false

/-- Whether a number is zero. -/
def isZero : Number → Bool
  | int n => n == 0
  | float x => x.isZero

end Number

/-- A YAML value. A tag is held without the exclamation mark that it is written with. -/
inductive Value where
  | null
  | bool (b : Bool)
  | number (n : Number)
  | string (s : String)
  | sequence (items : List Value)
  | mapping (entries : List (Value × Value))
  | tagged (tag : String) (content : Value)
  deriving Repr, Inhabited

/-- The entries of a mapping, in document order. -/
abbrev Entries := List (Value × Value)

namespace Value

mutual

/-- The same value; the order of a mapping's entries does not count. -/
def same : Value → Value → Bool
  | null, null => true
  | bool a, bool b => a == b
  | number m, number n => m.same n
  | string s, string t => s == t
  | sequence xs, sequence ys => sameItems xs ys
  | mapping es, mapping fs => es.length == fs.length && sameEntries es fs
  | tagged t v, tagged u w => t == u && same v w
  | _, _ => false
termination_by structural v => v

/-- The same values in the same order. -/
def sameItems : List Value → List Value → Bool
  | [], [] => true
  | x :: xs, y :: ys => same x y && sameItems xs ys
  | _, _ => false
termination_by structural vs => vs

/-- Whether each entry of the first list is in the second one. -/
def sameEntries : List (Value × Value) → List (Value × Value) → Bool
  | [], _ => true
  | (k, v) :: es, fs => (fs.any fun (l, w) => same k l && same v w) && sameEntries es fs
termination_by structural es => es

end

/-- A value without the tags around it. -/
def untag : Value → Value
  | tagged _ v => untag v
  | v => v

/-- The string that a value is, tags aside. -/
def asString? (v : Value) : Option String :=
  match v.untag with
  | string s => some s
  | _ => none

/-- The items of the sequence that a value is, tags aside. -/
def asSequence? (v : Value) : Option (List Value) :=
  match v.untag with
  | sequence items => some items
  | _ => none

/-- The entries of the mapping that a value is, tags aside. -/
def asMapping? (v : Value) : Option Entries :=
  match v.untag with
  | mapping entries => some entries
  | _ => none

/-- Whether a value is null, tags aside. -/
def isNull (v : Value) : Bool :=
  match v.untag with
  | null => true
  | _ => false

/-- Whether a value counts as yes: neither null, false, zero nor empty, tags aside. What is not a
number counts as yes. -/
def isTruthy : Value → Bool
  | null => false
  | bool b => b
  | number n => !n.isZero
  | string s => s != ""
  | sequence items => !items.isEmpty
  | mapping entries => !entries.isEmpty
  | tagged _ v => isTruthy v

end Value

/-- The value of the first entry whose key is a string without a tag. -/
def Entries.get? (es : Entries) (key : String) : Option Value :=
  match es with
  | [] => none
  | (.string k, v) :: rest => if k == key then some v else Entries.get? rest key
  | _ :: rest => Entries.get? rest key

/-- Gives a string key a value: in place of the old one, or else at the end. -/
def Entries.set (es : Entries) (key : String) (value : Value) : Entries :=
  match es with
  | [] => [(.string key, value)]
  | (.string k, v) :: rest =>
    if k == key then (.string k, value) :: rest else (.string k, v) :: Entries.set rest key value
  | e :: rest => e :: Entries.set rest key value

end HtmlCanon.Yaml
