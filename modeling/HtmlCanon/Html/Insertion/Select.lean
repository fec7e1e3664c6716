import HtmlCanon.Html.Insertion.Table

/-!
# In selections and templates

The insertion modes of a `select` element, in which little else counts but its options, and of a
`template` element, whose first tag decides by which rules its content is read.
-/

namespace HtmlCanon.Html

namespace Insertion

open Build Builder

/-- In a selection list. -/
def inSelect (tok : Token) : Build Next := do
  let b ← get
  match tok with
  | .text t => text t; done
  | .comment t => comment t; done
  | .start t =>
    let n := t.name
    if n == "html" then return .rulesOf .inBody tok
    else if n == "option" then
      if b.currentNamed "option" then pop
      insertFor t
      done
    else if n == "optgroup" then
      if b.currentNamed "option" then pop
      if (← get).currentNamed "optgroup" then pop
      insertFor t
      done
    else if n == "select" then
      if b.inScopeNamed Tag.boundsSelectScope "select" then
        popThroughNamed "select"
        resetMode
      done
    else if n ∈ ["input", "keygen", "textarea"] then
      if b.inScopeNamed Tag.boundsSelectScope "select" then
        popThroughNamed "select"
        resetMode
        return .again tok
      else done
    else if n ∈ ["script", "template"] then inHead tok
    else done
  | .stop n =>
    if n == "optgroup" then
      if b.currentNamed "option" && (b.stack.tail.head?).any (b.hasTag (·.isHtml ["optgroup"])) then
        pop
      if (← get).currentNamed "optgroup" then pop
      done
    else if n == "option" then
      if b.currentNamed "option" then pop
      done
    else if n == "select" then
      if b.inScopeNamed Tag.boundsSelectScope "select" then
        popThroughNamed "select"
        resetMode
      done
    else if n == "template" then inHead tok
    else done
  | .finish => return .rulesOf .inBody tok
  | _ => done

/-- In a selection list in a table. -/
def inSelectInTable (tok : Token) : Build Next := do
  let names := ["caption", "table", "tbody", "tfoot", "thead", "tr", "td", "th"]
  let close : Build Next := do
    popThroughNamed "select"
    resetMode
    return .again tok
  if starts names tok then close
  else if stops names tok then
    match tok with
    | .stop n => if (← get).inScopeNamed Tag.boundsTableScope n then close else done
    | _ => done
  else return .rulesOf .inSelect tok

/-- In the content of a template. -/
def inTemplate (tok : Token) : Build Next := do
  let become (m : InsertionMode) : Build Next := do
    modify fun b => { b with templateModes := m :: b.templateModes.tail }
    againIn m tok
  match tok with
  | .text _ => return .rulesOf .inBody tok
  | .comment _ => return .rulesOf .inBody tok
  | .start t =>
    if t.name ∈ headNames then inHead tok
    else if t.name ∈ ["caption", "colgroup", "tbody", "tfoot", "thead"] then become .inTable
    else if t.name == "col" then become .inColumnGroup
    else if t.name == "tr" then become .inTableBody
    else if t.name ∈ ["td", "th"] then become .inRow
    else become .inBody
  | .stop n => if n == "template" then inHead tok else done
  | .finish =>
    if (← get).isOpen "template" then
      popThroughNamed "template"
      clearFormatting
      modify fun b => { b with templateModes := b.templateModes.tail }
      resetMode
      return .again tok
    else done
  | _ => done

end Insertion

end HtmlCanon.Html
