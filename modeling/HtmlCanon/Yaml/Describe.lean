import HtmlCanon.Unicode.Property
import HtmlCanon.Yaml.Value

/-!
# Showing YAML values in messages

A message shows a value with the kind of each part in front. Strings are in double quotes;
characters that would not show on their own are given by their codes.
-/

namespace HtmlCanon.Yaml

/-- The characters that do not show on their own: controls, separators other than the space,
unassigned code points, and what joins the character before. -/
def hidden : Unicode.CharSet :=
  (((Unicode.categoryGroup 'C').union (Unicode.categoryGroup 'Z')).diff
    (Unicode.CharSet.singleton ' ')).union Unicode.graphemeExtend

/-- A character inside double quotes. -/
def quotedChar (c : Char) : String :=
  if c == '\x00' then "\\0"
  else if c == '\t' then "\\t"
  else if c == '\r' then "\\r"
  else if c == '\n' then "\\n"
  else if c == '\\' then "\\\\"
  else if c == '"' then "\\\""
  else if 0x20 ≤ c.toNat && c.toNat < 0x7F then String.singleton c
  else if hidden.contains c then "\\u\x7b" ++ String.ofList (hexDigits c.toNat) ++ "\x7d"
  else String.singleton c

/-- A string in double quotes. -/
def quoted (s : String) : String := "\"" ++ String.join (s.toList.map quotedChar) ++ "\""

/-- Texts with commas between them. -/
def commaList (ss : List String) : String := ", ".intercalate ss

namespace Value

mutual

/-- A value as messages show it. -/
def describe : Value → String
  | null => "Null"
  | bool b => "Bool(" ++ (if b then "true" else "false") ++ ")"
  | number n => "Number(" ++ n.toText ++ ")"
  | string s => "String(" ++ quoted s ++ ")"
  | sequence items => "Sequence [" ++ commaList (describeItems items) ++ "]"
  | mapping entries => "Mapping \x7b" ++ commaList (describeEntries entries) ++ "\x7d"
  | tagged t v => "TaggedValue \x7b tag: !" ++ t ++ ", value: " ++ describe v ++ " \x7d"

/-- The items of a sequence as messages show them. -/
def describeItems : List Value → List String
  | [] => []
  | v :: vs => describe v :: describeItems vs

/-- The entries of a mapping as messages show them. A key that is a string, a boolean or a number
stands there without its kind. -/
def describeEntries : List (Value × Value) → List String
  | [] => []
  | (k, v) :: es =>
    let key := match k with
      | string s => quoted s
      | bool b => if b then "true" else "false"
      | number n => n.toText
      | k => describe k
    (key ++ ": " ++ describe v) :: describeEntries es

end

end Value

end HtmlCanon.Yaml
