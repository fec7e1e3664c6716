import HtmlCanon.Html.Insertion.Body

/-!
# In tables

The insertion modes of a table and its parts. What has no place in a table is put before it.
-/

namespace HtmlCanon.Html

namespace Insertion

open Build Builder

/-- Reads a token by the rules of the body, and puts what it makes before the table. -/
def foster (tok : Token) : Build Next := do
  modify fun b => { b with fostering := true, fostered := b.fostered + 1 }
  let next ← inBody tok
  modify fun b => { b with fostering := false }
  return next

/-- In a table. -/
def inTable (tok : Token) : Build Next := do
  let b ← get
  let chars : Build Next := do
    if b.currentIs Tag.isTablePart then
      modify fun b => { b with resume := b.mode }
      againIn .inTableText tok
    else foster tok
  match tok with
  | .text _ => chars
  | .null => chars
  | .comment t => comment t; done
  | .start t =>
    let n := t.name
    if n == "caption" then
      popTo Tag.boundsTableScope
      markFormatting
      insertFor t
      mode .inCaption
      done
    else if n == "colgroup" then
      popTo Tag.boundsTableScope
      insertFor t
      mode .inColumnGroup
      done
    else if n == "col" then
      popTo Tag.boundsTableScope
      insertImplied "colgroup"
      againIn .inColumnGroup tok
    else if n ∈ ["tbody", "tfoot", "thead"] then
      popTo Tag.boundsTableScope
      insertFor t
      mode .inTableBody
      done
    else if n ∈ ["td", "th", "tr"] then
      popTo Tag.boundsTableScope
      insertImplied "tbody"
      againIn .inTableBody tok
    else if n == "table" then
      if b.inScopeNamed Tag.boundsTableScope "table" then
        popThroughNamed "table"
        resetMode
        return .again tok
      else done
    else if n ∈ ["style", "script", "template"] then inHead tok
    else if n == "input" && isHidden t then
      insertVoid t
      done
    else if n == "form" then
      if !b.isOpen "template" && b.form.isNone then
        let i ← insertClosed (htmlTag t)
        modify fun b => { b with form := some i }
      done
    else foster tok
  | .stop n =>
    if n == "table" then
      if b.inScopeNamed Tag.boundsTableScope "table" then
        popThroughNamed "table"
        resetMode
      done
    else if n ∈ ["body", "caption", "col", "colgroup", "html", "tbody", "td", "tfoot", "th",
        "thead", "tr"] then done
    else if n == "template" then inHead tok
    else foster tok
  | .finish => return .rulesOf .inBody tok
  | _ => foster tok

/-- Puts each text before the table. -/
def fosterTexts : List Text → Build Unit
  | [] => return
  | t :: ts => do
    discard (foster (.text t))
    fosterTexts ts

/-- In the text of a table, which is gathered until it ends. -/
def inTableText (tok : Token) : Build Next := do
  match tok with
  | .null => done
  | .text t =>
    modify fun b => { b with tableText := b.tableText ++ [t] }
    done
  | _ =>
    let ts := (← get).tableText
    modify fun b => { b with tableText := [] }
    -- white space stays in the table as long as no other text comes with it
    if ts.all isSpaces then ts.forM text else fosterTexts ts
    againIn (← get).resume tok

/-- In the caption of a table. -/
def inCaption (tok : Token) : Build Next := do
  if starts ["caption", "col", "colgroup", "tbody", "td", "tfoot", "th", "thead", "tr"] tok ||
      stops ["table", "caption"] tok then
    if (← get).inScopeNamed Tag.boundsTableScope "caption" then
      closeImplied Tag.isImplied
      popThroughNamed "caption"
      clearFormatting
      if stops ["caption"] tok then
        mode .inTable
        done
      else againIn .inTable tok
    else done
  else if stops ["body", "col", "colgroup", "html", "tbody", "td", "tfoot", "th", "thead", "tr"] tok
    then done
  else return .rulesOf .inBody tok

/-- In a group of columns. -/
def inColumnGroup (tok : Token) : Build Next := do
  let close : Build Next := do
    if (← get).currentNamed "colgroup" then
      pop
      againIn .inTable tok
    else done
  match tok with
  | .comment t => comment t; done
  | .finish => return .rulesOf .inBody tok
  | .start t =>
    if t.name == "html" then return .rulesOf .inBody tok
    else if t.name == "col" then insertVoid t; done
    else if t.name == "template" then inHead tok
    else close
  | .stop n =>
    if n == "colgroup" then
      if (← get).currentNamed "colgroup" then
        pop
        mode .inTable
      done
    else if n == "col" then done
    else if n == "template" then inHead tok
    else close
  | _ =>
    if let .text t := tok then
      if isSpaces t then
        text t
        return .done
    close

/-- In the body, head or foot of a table. -/
def inTableBody (tok : Token) : Build Next := do
  let b ← get
  if starts ["tr"] tok then
    popTo Tag.isBodyContext
    if let .start t := tok then insertFor t
    mode .inRow
    done
  else if starts ["th", "td"] tok then
    popTo Tag.isBodyContext
    insertImplied "tr"
    againIn .inRow tok
  else if stops ["tbody", "tfoot", "thead"] tok then
    if let .stop n := tok then
      if b.inScopeNamed Tag.boundsTableScope n then
        popTo Tag.isBodyContext
        pop
        mode .inTable
    done
  else if starts ["caption", "col", "colgroup", "tbody", "tfoot", "thead"] tok ||
      stops ["table"] tok then
    if b.inScope Tag.boundsTableScope (b.hasTag (·.isHtml ["table", "tbody", "tfoot"])) then
      popTo Tag.isBodyContext
      pop
      againIn .inTable tok
    else done
  else if stops ["body", "caption", "col", "colgroup", "html", "td", "th", "tr"] tok then done
  else return .rulesOf .inTable tok

/-- In a row of a table. -/
def inRow (tok : Token) : Build Next := do
  let b ← get
  let close : Build Next := do
    popTo Tag.isRowContext
    pop
    againIn .inTableBody tok
  let inTr := b.inScopeNamed Tag.boundsTableScope "tr"
  if starts ["th", "td"] tok then
    popTo Tag.isRowContext
    if let .start t := tok then insertFor t
    mode .inCell
    markFormatting
    done
  else if stops ["tr"] tok then
    if inTr then
      popTo Tag.isRowContext
      pop
      mode .inTableBody
    done
  else if starts ["caption", "col", "colgroup", "tbody", "tfoot", "thead", "tr"] tok ||
      stops ["table"] tok then
    if inTr then close else done
  else if stops ["tbody", "tfoot", "thead"] tok then
    match tok with
    | .stop n => if b.inScopeNamed Tag.boundsTableScope n && inTr then close else done
    | _ => done
  else if stops ["body", "caption", "col", "colgroup", "html", "td", "th"] tok then done
  else return .rulesOf .inTable tok

/-- In a cell of a table. -/
def inCell (tok : Token) : Build Next := do
  let b ← get
  if stops ["td", "th"] tok then
    if let .stop n := tok then
      if b.inScopeNamed Tag.boundsTableScope n then
        closeImplied Tag.isImplied
        popThroughNamed n
        clearFormatting
        mode .inRow
    done
  else if starts
      ["caption", "col", "colgroup", "tbody", "td", "tfoot", "th", "thead", "tr"] tok then
    if b.inScope Tag.boundsTableScope (b.hasTag Tag.isCell) then
      closeCell
      againIn .inRow tok
    else done
  else if stops ["body", "caption", "col", "colgroup", "html"] tok then done
  else if stops ["table", "tbody", "tfoot", "thead", "tr"] tok then
    match tok with
    | .stop n =>
      if b.inScopeNamed Tag.boundsTableScope n then
        closeCell
        againIn .inRow tok
      else done
    | _ => done
  else return .rulesOf .inBody tok

end Insertion

end HtmlCanon.Html
