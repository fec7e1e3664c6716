import HtmlCanon.Unicode.Age
import HtmlCanon.Unicode.GeneralCategory
import HtmlCanon.Unicode.PropertyRuns
import HtmlCanon.Unicode.Script
import HtmlCanon.Unicode.Segment

/-!
# Properties of characters

The binary properties of characters, partly listed and partly derived from general categories, and
the search for what a name, or a name and a value, stand for.
-/

namespace HtmlCanon.Unicode

/-- The set that is listed under a name. -/
def listed (name : String) : CharSet := ((propertyRuns.lookup name).map CharSet.readRuns).getD []

/-- The characters that are small letters or look like them. -/
def lowercase : CharSet := (category "Ll").union (listed "otherlowercase")

/-- The characters that are capital letters or look like them. -/
def uppercase : CharSet := (category "Lu").union (listed "otheruppercase")

/-- The characters that have a case. -/
def cased : CharSet := lowercase.union (uppercase.union (category "Lt"))

/-- The letters and what is used like them. -/
def alphabetic : CharSet :=
  (categoryGroup 'L').union
    ((category "Nl").union (cased.union (listed "otheralphabetic")))

/-- The characters of words: alphabetic ones, marks, decimal digits, connectors and joiners. -/
def wordChars : CharSet :=
  alphabetic.union ((categoryGroup 'M').union
    ((category "Nd").union ((category "Pc").union (listed "joincontrol"))))

/-- The decimal digits. -/
def decimalDigits : CharSet := category "Nd"

/-- The characters that are blank. -/
def whiteSpace : CharSet := listed "whitespace"

/-- The characters that continue a grapheme. -/
def graphemeExtend : CharSet :=
  (category "Me").union ((category "Mn").union (listed "othergraphemeextend"))

/-- The characters that start a grapheme and show. -/
def graphemeBase : CharSet :=
  (graphemeExtend.union ((categoryGroup 'C').union ((category "Zl").union (category "Zp")))).compl

/-- The characters of syntax that no identifier holds. -/
def patternChars : CharSet := (listed "patternsyntax").union (listed "patternwhitespace")

/-- The characters that an identifier starts with. -/
def idStart : CharSet :=
  ((categoryGroup 'L').union ((category "Nl").union (listed "otheridstart"))).diff
    (patternChars.diff (listed "otheridstart"))

/-- The characters that an identifier goes on with. -/
def idContinue : CharSet :=
  (idStart.union ((category "Mn").union ((category "Mc").union
    ((category "Nd").union ((category "Pc").union (listed "otheridcontinue")))))).diff
      (patternChars.diff (listed "otheridstart"))

/-- The characters that do not count when a word is written with a capital. -/
def caseIgnorable : CharSet :=
  (category "Mn").union ((category "Me").union ((category "Cf").union
    ((category "Lm").union ((category "Sk").union (listed "caseignorableextra")))))

/-- The characters that change when they are turned into small letters. -/
def lowercased : CharSet := (category "Lu").symmDiff (listed "lowercaseddifference")

/-- The characters that change when they are turned into capital letters. -/
def uppercased : CharSet := (category "Ll").symmDiff (listed "uppercaseddifference")

/-- The characters that change at the start of a title. -/
def titlecased : CharSet := uppercased.symmDiff (listed "titlecaseddifference")

/-- The short names of properties. -/
def propertyAliases : List (String × String) := [
  ("ahex", "asciihexdigit"), ("alpha", "alphabetic"), ("bidic", "bidicontrol"), ("bidim",
  "bidimirrored"), ("ci", "caseignorable"), ("cwcf", "changeswhencasefolded"), ("cwcm",
  "changeswhencasemapped"), ("cwl", "changeswhenlowercased"), ("cwt", "changeswhentitlecased"),
  ("cwu", "changeswhenuppercased"), ("dep", "deprecated"), ("di", "defaultignorablecodepoint"),
  ("dia", "diacritic"), ("ebase", "emojimodifierbase"), ("ecomp", "emojicomponent"), ("emod",
  "emojimodifier"), ("epres", "emojipresentation"), ("ext", "extender"), ("extpict",
  "extendedpictographic"), ("grbase", "graphemebase"), ("grext", "graphemeextend"), ("grlink",
  "graphemelink"), ("hex", "hexdigit"), ("idc", "idcontinue"), ("ideo", "ideographic"), ("ids",
  "idstart"), ("idsb", "idsbinaryoperator"), ("idst", "idstrinaryoperator"), ("joinc",
  "joincontrol"), ("loe", "logicalorderexception"), ("lower", "lowercase"), ("nchar",
  "noncharactercodepoint"), ("oalpha", "otheralphabetic"), ("odi",
  "otherdefaultignorablecodepoint"), ("ogrext", "othergraphemeextend"), ("oidc",
  "otheridcontinue"), ("oids", "otheridstart"), ("olower", "otherlowercase"), ("omath",
  "othermath"), ("oupper", "otheruppercase"), ("patsyn", "patternsyntax"), ("patws",
  "patternwhitespace"), ("pcm", "prependedconcatenationmark"), ("qmark", "quotationmark"), ("ri",
  "regionalindicator"), ("sd", "softdotted"), ("space", "whitespace"), ("sterm",
  "sentenceterminal"), ("term", "terminalpunctuation"), ("uideo", "unifiedideograph"), ("upper",
  "uppercase"), ("vs", "variationselector"), ("wspace", "whitespace"), ("xidc", "xidcontinue"),
  ("xids", "xidstart")]

/-- The lists behind properties that are no properties themselves. -/
def auxiliaryLists : List String :=
  ["caseignorableextra", "lowercaseddifference", "uppercaseddifference", "titlecaseddifference",
    "casefoldeddifference", "xidstartgap", "xidcontinuegap"]

/-- The characters with the property of a name, in small letters and without separators. -/
def propertyNamed? (name : String) : Option CharSet :=
  match (propertyAliases.lookup name).getD name with
  | "alphabetic" => some alphabetic
  | "caseignorable" => some caseIgnorable
  | "cased" => some cased
  | "changeswhencasefolded" => some (lowercased.symmDiff (listed "casefoldeddifference"))
  | "changeswhencasemapped" => some (lowercased.union (uppercased.union titlecased))
  | "changeswhenlowercased" => some lowercased
  | "changeswhentitlecased" => some titlecased
  | "changeswhenuppercased" => some uppercased
  | "graphemebase" => some graphemeBase
  | "graphemeextend" => some graphemeExtend
  | "idcontinue" => some idContinue
  | "idstart" => some idStart
  | "lowercase" => some lowercase
  | "math" => some ((category "Sm").union (listed "othermath"))
  | "uppercase" => some uppercase
  | "xidcontinue" => some (idContinue.diff (listed "xidcontinuegap"))
  | "xidstart" => some (idStart.diff (listed "xidstartgap"))
  | n => if auxiliaryLists.contains n then none else (propertyRuns.lookup n).map CharSet.readRuns

/-- The name under which a property is looked up: small letters only, without separators, without
what is not ASCII and without the word "is" in front. -/
def normalizeName (t : Text) : String :=
  let hasIs := lowerText (t.take 2) == ['i', 's']
  let rest := (if hasIs then t.drop 2 else t).filter fun c =>
    c.toNat < 0x80 && c != ' ' && c != '_' && c != '-'
  if hasIs && lowerText rest == ['c'] then "isc" else String.ofList (lowerText rest)

/-- The names that stand for a general category although a property has them too. -/
def isCategoryFirst (name : String) : Bool := name == "cf" || name == "sc" || name == "lc"

/-- The characters that a lone name stands for: those of a binary property, a general category or a
script. -/
def named? (t : Text) : Option CharSet :=
  let name := normalizeName t
  let property := if isCategoryFirst name then none else propertyNamed? name
  property.or ((categoryNamed? name).or ((scriptCode? name).map script))

/-- The characters for which a property has a value. -/
def valued? (property value : Text) : Option CharSet :=
  let value := normalizeName value
  match normalizeName property with
  | "gc" | "generalcategory" => categoryNamed? value
  | "sc" | "script" => (scriptCode? value).map script
  | "scx" | "scriptextensions" => (scriptCode? value).map scriptExtension
  | "age" => agedAt? value
  | "gcb" | "graphemeclusterbreak" => graphemeClass? value
  | "wb" | "wordbreak" => wordBreak.named? value
  | "sb" | "sentencebreak" => sentenceBreak.named? value
  | _ => none

end HtmlCanon.Unicode
