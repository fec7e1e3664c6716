import HtmlCanon.Html.Insertion.Body

/-!
# In SVG and MathML

Which tokens are read by the rules of SVG and MathML, and these rules.
-/

namespace HtmlCanon.Html

namespace Insertion

open Build Builder

/-- Whether a token is read by the rules of SVG and MathML. -/
def isForeign (b : Builder) (tok : Token) : Bool :=
  match tok, b.current?.bind b.tag? with
  | .finish, _ => false
  | _, none => false
  | _, some t =>
    let isText := match tok with
      | .text _ => true
      | .null => true
      | _ => false
    let isStart := match tok with
      | .start _ => true
      | _ => false
    if t.space == .html then false
    else if t.isMathText && (isText || (isStart && !starts ["mglyph", "malignmark"] tok)) then false
    else if t.isSvgHtml && (isText || isStart) then false
    else if t.space == .mathml && t.name == "annotation-xml" && starts ["svg"] tok then false
    else true

/-- Closes the innermost element of a name, cutting through SVG and MathML. `none` if an HTML
element stands in between, whose rules then apply. -/
def closeForeign (b : Builder) (n : String) : Bool → List NodeId → Option (List NodeId)
  | _, [] => some b.stack
  | _, [_] => some b.stack
  | isFirst, i :: rest =>
    if !isFirst && b.hasTag (·.space == .html) i then none
    else if b.hasTag (fun t => lowerText t.name.toList == lowerText n.toList) i then some rest
    else closeForeign b n false rest

/-- In SVG or MathML. -/
def inForeign (tok : Token) : Build Next := do
  let b ← get
  match tok with
  | .null => text ['\uFFFD']; done
  | .text t =>
    if !isSpaces t then noFrameset
    text t
    done
  | .comment t => comment t; done
  | .start t =>
    if Foreign.breaksOut t then
      pop
      popTo fun t => t.space == .html || t.isMathText || t.isSvgHtml
      return .again tok
    else
      let space := ((b.current?.bind b.tag?).map Tag.space).getD .html
      enterForeign (Foreign.tag space t) t.selfClosing
      done
  | .stop n =>
    match closeForeign b n true b.stack with
    | some stack =>
      set { b with stack }
      done
    | none => return .rulesOf b.mode tok
  | _ => done

end Insertion

end HtmlCanon.Html
