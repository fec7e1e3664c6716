import HtmlCanon.Digits

/-!
# Sets of characters

A set is a list of ranges of code points, in order and apart from each other. Surrogates are no
characters and lie in no complement.
-/

namespace HtmlCanon.Unicode

/-- A set of characters: ranges of code points, each with its first and its last. -/
abbrev CharSet := List (Nat × Nat)

namespace CharSet

/-- All characters. -/
def full : CharSet := [(0, 0xD7FF), (0xE000, 0x10FFFF)]

/-- Whether a code point is in a set. -/
def containsCode (s : CharSet) (n : Nat) : Bool := s.any fun (a, b) => a ≤ n && n ≤ b

/-- Whether a character is in a set. -/
def contains (s : CharSet) (c : Char) : Bool := s.containsCode c.toNat

/-- Joins ranges that touch, given in the order of their first code points. -/
def joinFrom (a b : Nat) : List (Nat × Nat) → CharSet
  | [] => [(a, b)]
  | (c, d) :: rs => if c ≤ b + 1 then joinFrom a (max b d) rs else (a, b) :: joinFrom c d rs

/-- The set of the code points in some ranges, which may stand in any order and overlap. -/
def normalize (rs : List (Nat × Nat)) : CharSet :=
  match rs.mergeSort fun r s => r.1 ≤ s.1 with
  | [] => []
  | (a, b) :: rs => joinFrom a b rs

/-- What is in one set or the other. -/
def union (s t : CharSet) : CharSet := normalize (s ++ t)

/-- The gaps between the ranges of a set from a code point on. -/
def gapsFrom (p : Nat) : CharSet → CharSet
  | [] => if p ≤ 0x10FFFF then [(p, 0x10FFFF)] else []
  | (a, b) :: rs => if p < a then (p, a - 1) :: gapsFrom (b + 1) rs else gapsFrom (b + 1) rs

/-- The characters that are not in a set. -/
def compl (s : CharSet) : CharSet := gapsFrom 0 (s.union [(0xD800, 0xDFFF)])

/-- What is in both sets. -/
def inter (s t : CharSet) : CharSet := (s.compl.union t.compl).compl

/-- What is in the first set and not in the second. -/
def diff (s t : CharSet) : CharSet := s.inter t.compl

/-- What is in just one of two sets. -/
def symmDiff (s t : CharSet) : CharSet := (s.diff t).union (t.diff s)

/-- The characters from one to another. -/
def range (a b : Char) : CharSet := normalize ([(a.toNat, b.toNat)] : CharSet)

/-- The set of one character. -/
def singleton (c : Char) : CharSet := [(c.toNat, c.toNat)]

/-- Whether all characters of a set are ASCII. -/
def isAscii (s : CharSet) : Bool := s.all fun (_, b) => b < 0x80

/-- A set given by the lengths of runs of code points outside and inside it, in turn, from
`p` on. -/
def ofRuns (p : Nat) : List Nat → CharSet
  | out :: size :: rest => (p + out, p + out + size - 1) :: ofRuns (p + out + size) rest
  | _ => []

/-- Reads the lengths of runs in hexadecimal. -/
def readRuns (s : String) : CharSet := ofRuns 0 ((words s.toList).map (ofDigits 16))

/-- The ranges of a partition of the code points from `p` on, given by names and lengths. -/
def partitionFrom (p : Nat) : List (Text × Nat) → List (Text × Nat × Nat)
  | [] => []
  | (name, size) :: rest => (name, p, p + size - 1) :: partitionFrom (p + size) rest

/-- Reads a partition of the code points: for each run a name of `width` letters and the length in
hexadecimal. -/
def readPartition (width : Nat) (s : String) : List (Text × Nat × Nat) :=
  partitionFrom 0 ((words s.toList).map fun w => (w.take width, ofDigits 16 (w.drop width)))

end CharSet

end HtmlCanon.Unicode
