import HtmlCanon.Html.Insertion.Ending
import HtmlCanon.Html.Insertion.Foreign
import HtmlCanon.Html.Insertion.Select

/-!
# Insertion modes

The insertion mode says by which rules a token is read, unless it stands in SVG or MathML. Reading
a token goes on until it is settled.
-/

namespace HtmlCanon.Html

namespace Insertion

open Build Builder

/-- The rules of a mode. -/
def rules : InsertionMode → Token → Build Next
  | .initial => initial
  | .beforeHtml => beforeHtml
  | .beforeHead => beforeHead
  | .inHead => inHead
  | .afterHead => afterHead
  | .inBody => inBody
  | .text => inText
  | .inTable => inTable
  | .inTableText => inTableText
  | .inCaption => inCaption
  | .inColumnGroup => inColumnGroup
  | .inTableBody => inTableBody
  | .inRow => inRow
  | .inCell => inCell
  | .inSelect => inSelect
  | .inSelectInTable => inSelectInTable
  | .inTemplate => inTemplate
  | .afterBody => afterBody
  | .inFrameset => inFrameset
  | .afterFrameset => afterFrameset
  | .afterAfterBody => afterAfterBody
  | .afterAfterFrameset => afterAfterFrameset

/-- The modes that read white space and other text apart. -/
def splitsText : InsertionMode → Bool
  | .initial | .beforeHtml | .beforeHead | .inHead | .afterHead | .inColumnGroup | .afterBody
  | .inFrameset | .afterFrameset | .afterAfterBody | .afterAfterFrameset => true
  | _ => false

/-- Reads a token until it is settled, in `n` steps at most. -/
def settle : (n : Nat) → Next → Build Unit
  | 0, _ => return
  | _, .done => return
  | n + 1, .again tok => do
    let b ← get
    settle n (← if isForeign b tok then inForeign tok else rules b.mode tok)
  | n + 1, .rulesOf m tok => do
    settle n (← rules m tok)

/-- Reads a token. Every step that does not settle it closes an element or moves on to one of a
few modes. -/
def settleToken (tok : Token) : Build Unit := do
  let b ← get
  settle (8 * (b.stack.length + b.templateModes.length) + 32) (.again tok)

/-- Reads a text, in one piece or in runs of white space and of other characters. -/
def settleText (t : Text) : Build Unit := do
  match t with
  | [] => return
  | c :: r =>
    let b ← get
    if splitsText b.mode && !isForeign b (.text t) then
      let like := fun d => isMarkupSpace d == isMarkupSpace c
      settleToken (.text (c :: r.takeWhile like))
      settleText (r.dropWhile like)
    else settleToken (.text t)
termination_by t.length
decreasing_by
  have := dropWhile_length_le (fun d => isMarkupSpace d == isMarkupSpace c) r
  simp only [List.length_cons]; omega

end Insertion

namespace Build

/-- Takes in the next token of a page. -/
def accept (tok : Token) : Build Unit := do
  let b ← get
  set { b with skipNewline := false }
  match tok with
  | .fault => return
  | .doctype d =>
    if b.mode == .initial then
      putDoctype d
  | .text t =>
    Insertion.settleText (if b.skipNewline then Token.dropNewline t else t)
  | .stop _ =>
    modify fun b => { b with reading := .markup }
    Insertion.settleToken tok
  | _ => Insertion.settleToken tok
where
  /-- Puts a doctype at the top of the page. -/
  putDoctype (d : DoctypeToken) : Build Unit := do
    arena fun a =>
      let (a, i) := a.add (.doctype ⟨d.name.getD [], d.publicId.getD [], d.systemId.getD []⟩)
      a.append 0 i
    modify fun b => { b with legacy := d.isLegacy, mode := .beforeHtml }

end Build

end HtmlCanon.Html
