import HtmlCanon.Html.Node
import HtmlCanon.Html.Token

/-!
# Names in SVG and MathML

HTML reads all names in small letters. Some names of the SVG and MathML vocabularies hold capitals,
and some attributes belong to a namespace; both are restored by list.
-/

namespace HtmlCanon.Html.Foreign

/-- The SVG elements whose names hold capitals. -/
def svgTagNames : List String :=
  ["altGlyph", "altGlyphDef", "altGlyphItem", "animateColor", "animateMotion", "animateTransform",
    "clipPath", "feBlend", "feColorMatrix", "feComponentTransfer", "feComposite",
    "feConvolveMatrix", "feDiffuseLighting", "feDisplacementMap", "feDistantLight", "feDropShadow",
    "feFlood", "feFuncA", "feFuncB", "feFuncG", "feFuncR", "feGaussianBlur", "feImage", "feMerge",
    "feMergeNode", "feMorphology", "feOffset", "fePointLight", "feSpecularLighting", "feSpotLight",
    "feTile", "feTurbulence", "foreignObject", "glyphRef", "linearGradient", "radialGradient",
    "textPath"]

/-- The SVG attributes whose names hold capitals. -/
def svgAttrNames : List String :=
  ["attributeName", "attributeType", "baseFrequency", "baseProfile", "calcMode", "clipPathUnits",
    "diffuseConstant", "edgeMode", "filterUnits", "glyphRef", "gradientTransform", "gradientUnits",
    "kernelMatrix", "kernelUnitLength", "keyPoints", "keySplines", "keyTimes", "lengthAdjust",
    "limitingConeAngle", "markerHeight", "markerUnits", "markerWidth", "maskContentUnits",
    "maskUnits", "numOctaves", "pathLength", "patternContentUnits", "patternTransform",
    "patternUnits", "pointsAtX", "pointsAtY", "pointsAtZ", "preserveAlpha", "preserveAspectRatio",
    "primitiveUnits", "refX", "refY", "repeatCount", "repeatDur", "requiredExtensions",
    "requiredFeatures", "specularConstant", "specularExponent", "spreadMethod", "startOffset",
    "stdDeviation", "stitchTiles", "surfaceScale", "systemLanguage", "tableValues", "targetX",
    "targetY", "textLength", "viewBox", "viewTarget", "xChannelSelector", "yChannelSelector",
    "zoomAndPan"]

/-- The name of a list that a name in small letters stands for, or that name itself. -/
def restore (names : List String) (name : String) : String :=
  (names.find? fun n => lowerText n.toList == name.toList).getD name

/-- The local names of the attributes in the XLink namespace. -/
def xlinkNames : List String := ["actuate", "arcrole", "href", "role", "show", "title", "type"]

/-- The local names of the attributes in the XML namespace. -/
def xmlNames : List String := ["base", "lang", "space"]

/-- An attribute of an element of a vocabulary. -/
def attr (space : Vocabulary) (a : String × Text) : Attr :=
  let name :=
    match space with
    | .svg => restore svgAttrNames a.1
    | .mathml => restore ["definitionURL"] a.1
    | .html => a.1
  match space with
  | .html => ⟨.plain, name, a.2⟩
  | _ =>
    match xlinkNames.find? fun n => "xlink:" ++ n == name with
    | some n => ⟨.xlink, n, a.2⟩
    | none =>
      match xmlNames.find? fun n => "xml:" ++ n == name with
      | some n => ⟨.xml, n, a.2⟩
      | none =>
        if name == "xmlns" then ⟨.xmlns, "xmlns", a.2⟩
        else if name == "xmlns:xlink" then ⟨.xmlns, "xlink", a.2⟩
        else ⟨.plain, name, a.2⟩

/-- The tag of an element of a vocabulary. -/
def tag (space : Vocabulary) (t : StartTag) : Tag :=
  let name := if space == .svg then restore svgTagNames t.name else t.name
  ⟨space, name, Attr.sort (t.attrs.map (attr space))⟩

/-- The HTML elements that end SVG or MathML when they start in it. -/
def breakoutNames : List String :=
  ["b", "big", "blockquote", "body", "br", "center", "code", "dd", "div", "dl", "dt", "em", "embed",
    "h1", "h2", "h3", "h4", "h5", "h6", "head", "hr", "i", "img", "li", "listing", "menu", "meta",
    "nobr", "ol", "p", "pre", "ruby", "s", "small", "span", "strong", "strike", "sub", "sup",
    "table", "tt", "u", "ul", "var"]

/-- Whether a start tag ends SVG or MathML. -/
def breaksOut (t : StartTag) : Bool :=
  t.name ∈ breakoutNames ||
    (t.name == "font" && t.attrs.any fun a => a.1 ∈ ["color", "face", "size"])

end HtmlCanon.Html.Foreign
