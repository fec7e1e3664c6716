import HtmlCanon.Digits
import HtmlCanon.Html.ReferenceNames

/-!
# Character references

A reference begins with an ampersand. It names a character by number (`#65;`, `#x41;`) or by one of
the names of the standard, of which the longest that fits is taken.

* `read_left_le` : reading a reference makes the input no longer.
-/

namespace HtmlCanon.Html

/-- A tree of names, read character by character. -/
inductive NameTree where
  | node (value : Option Text) (next : List (Char × NameTree))

namespace NameTree

/-- The tree without names. -/
def empty : NameTree := node none []

/-- What the name that ends here stands for. -/
def value : NameTree → Option Text
  | node v _ => v

/-- The names that go on with a character. -/
def child? (c : Char) : NameTree → Option NameTree
  | node _ next => (next.find? (·.1 == c)).map (·.2)

/-- Adds a name. -/
def insert (v : Text) : Text → NameTree → NameTree
  | [], node _ next => node (some v) next
  | c :: cs, node val next =>
    let below := ((node val next).child? c).getD empty
    node val ((c, insert v cs below) :: next.filter (·.1 != c))

/-- Follows a text down the tree. The answer is the number of characters that some name begins with
and, for the longest name among them, its length and value. -/
def follow : NameTree → Text → (depth : Nat) → (best : Option (Nat × Text)) →
    Nat × Option (Nat × Text)
  | _, [], n, best => (n, best)
  | t, c :: cs, n, best =>
    match t.child? c with
    | none => (n, best)
    | some u => follow u cs (n + 1) ((u.value.map fun v => (n + 1, v)).or best)

end NameTree

namespace Reference

/-- Adds an entry of the list of names to a tree. -/
def addEntry (tree : NameTree) (entry : Text) : NameTree :=
  match splitWhere (· == '=') entry with
  | [name, codes] =>
    let chars := (splitWhere (· == '+') codes).map fun h => Char.ofNat (ofDigits 16 h)
    let bare := name.filter (· != '?')
    let tree := tree.insert chars (bare ++ [';'])
    if bare.length < name.length then tree.insert chars bare else tree
  | _ => tree

/-- Adds the entries of a group of the list of names to a tree. -/
def addGroup (tree : NameTree) (group : String × String) : NameTree :=
  (words group.2.toList).foldl (fun t e => addEntry t (group.1.toList ++ e)) tree

/-- The names of the standard. -/
def names : NameTree := referenceNames.foldl addGroup NameTree.empty

/-- The characters that the numbers from 128 to 159 stand for, by the old Windows code page. -/
def legacyCodes : List Nat :=
  [0x20AC, 0x81, 0x201A, 0x0192, 0x201E, 0x2026, 0x2020, 0x2021, 0x02C6, 0x2030, 0x0160, 0x2039,
    0x0152, 0x8D, 0x017D, 0x8F, 0x90, 0x2018, 0x2019, 0x201C, 0x201D, 0x2022, 0x2013, 0x2014,
    0x02DC, 0x2122, 0x0161, 0x203A, 0x0153, 0x9D, 0x017E, 0x0178]

/-- The character that a number stands for. -/
def charOfNumber (n : Nat) : Char :=
  if n == 0 || 0x10FFFF < n || (0xD800 ≤ n && n ≤ 0xDFFF) then '\uFFFD'
  else if 0x80 ≤ n && n ≤ 0x9F then Char.ofNat (legacyCodes.getD (n - 0x80) n)
  else Char.ofNat n

end Reference

/-- A reference that was read: the characters it stands for, whether a fault is reported before
them, and the input that is left, of which the part `held` has been looked at already. -/
structure Reference where
  chars : Text
  fault : Bool
  held : Text
  rest : Text

namespace Reference

/-- The input that is left. -/
def left (r : Reference) : Text := r.held ++ r.rest

/-- An ampersand that begins no reference. -/
def literal (rest : Text) : Reference := ⟨['&'], false, [], rest⟩

/-- Reads a reference by number, `s` being the input after the ampersand and `digits` what follows
the marks of the base. -/
def readNumber (base : Nat) (digits s : Text) : Reference :=
  let ds := digits.takeWhile (isDigitIn base)
  if ds.isEmpty then literal s
  else
    let chars := [charOfNumber (ofDigits base ds)]
    match digits.dropWhile (isDigitIn base) with
    | ';' :: rest => ⟨chars, false, [], rest⟩
    | rest => ⟨chars, true, [], rest⟩

/-- Gives back the input from position `back` on, after the character at position `seen` has been
looked at. A carriage return looked at there has become a line feed; it is lost if it comes first,
and otherwise stands for itself, whether or not a line feed follows. -/
def giveBack (chars s : Text) (back seen : Nat) : Reference :=
  let part := (s.take seen).drop back
  match s.drop seen with
  | [] => ⟨chars, false, part, []⟩
  | '\r' :: rest =>
    if back == seen then ⟨chars, false, [], rest⟩ else ⟨chars, false, part ++ ['\n'], rest⟩
  | c :: rest => ⟨chars, false, part ++ [c], rest⟩

/-- Reads a reference by one of the names of a tree. In an attribute value a name without semicolon
does not count when a letter, a digit or an equals sign follows. -/
def readName (tree : NameTree) (inValue : Bool) (s : Text) : Reference :=
  match tree.follow s 0 none with
  | (n, none) =>
    let run := (s.drop n).takeWhile isAsciiAlphanum
    giveBack ['&'] s 0 (n + run.length)
  | (n, some (m, chars)) =>
    let ended := s[m - 1]? == some ';'
    let follows := match s[m]? with
      | some c => c == '=' || isAsciiAlphanum c
      | none => false
    if inValue && !ended && follows then giveBack ['&'] s 0 n else giveBack chars s m n

/-- Reads what follows an ampersand. -/
def read (inValue : Bool) (s : Text) : Reference :=
  match s with
  | [] => literal s
  | '#' :: 'x' :: r => readNumber 16 r s
  | '#' :: 'X' :: r => readNumber 16 r s
  | '#' :: r => readNumber 10 r s
  | c :: _ =>
    if c == '\t' || c == '\n' || c == '\x0c' || c == ' ' || c == '<' || c == '&' then literal s
    else readName names inValue s

theorem giveBack_length (chars s : Text) (back seen : Nat) :
    (giveBack chars s back seen).left.length ≤ s.length := by
  have hs : (s.take seen ++ s.drop seen).length = s.length := by rw [List.take_append_drop]
  have hp : ((s.take seen).drop back).length ≤ (s.take seen).length := by simp
  generalize hq : (s.take seen).drop back = part at hp
  unfold giveBack
  dsimp only
  rw [hq]
  split
  · rename_i h
    rw [h] at hs
    simp only [left, List.append_nil] at hs ⊢; omega
  · rename_i rest h
    rw [h] at hs
    simp only [List.length_append, List.length_cons] at hs
    split <;> simp only [left, List.length_append, List.length_cons, List.length_nil] <;> omega
  · rename_i c rest _ h
    rw [h] at hs
    simp only [left, List.length_append, List.length_cons, List.length_nil] at hs ⊢; omega

theorem readNumber_length (base : Nat) (digits s : Text) (h : digits.length ≤ s.length) :
    (readNumber base digits s).left.length ≤ s.length := by
  have hd := (List.dropWhile_suffix (isDigitIn base) (l := digits)).length_le
  unfold readNumber
  dsimp only
  by_cases he : (digits.takeWhile (isDigitIn base)).isEmpty
  · rw [if_pos he]; exact Nat.le_refl _
  · rw [if_neg he]
    generalize digits.dropWhile (isDigitIn base) = d at hd
    split
    · simp only [left, List.nil_append, List.length_cons] at hd ⊢; omega
    · exact Nat.le_trans hd h

theorem readName_length (tree : NameTree) (inValue : Bool) (s : Text) :
    (readName tree inValue s).left.length ≤ s.length := by
  unfold readName
  split
  · exact giveBack_length _ _ _ _
  · dsimp only
    split
    all_goals
      split
      · exact giveBack_length _ _ _ _
      · exact giveBack_length _ _ _ _

theorem read_left_le (inValue : Bool) (s : Text) :
    (read inValue s).left.length ≤ s.length := by
  unfold read
  split
  · exact Nat.le_refl _
  · exact readNumber_length _ _ _ (by simp only [List.length_cons]; omega)
  · exact readNumber_length _ _ _ (by simp only [List.length_cons]; omega)
  · exact readNumber_length _ _ _ (by simp only [List.length_cons]; omega)
  · split
    · exact Nat.le_refl _
    · exact readName_length _ _ _

end Reference

end HtmlCanon.Html
