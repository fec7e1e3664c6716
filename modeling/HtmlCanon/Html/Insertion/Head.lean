import HtmlCanon.Html.Insertion.Next

/-!
# Down to the body

The insertion modes from the start of a page to the start of its body. A tag that a page leaves out
is supplied by the token that needs it, which is then read again one mode further on.
-/

namespace HtmlCanon.Html

namespace Insertion

open Build Builder

/-- Makes the `html` element. -/
def createRoot (t : Tag) : Build Unit := do
  let i ← element t
  push i
  arena (·.append 0 i)

/-- Before anything but a doctype. -/
def initial (tok : Token) : Build Next := do
  match tok with
  | .comment t => commentIn 0 t; done
  | _ =>
    if let .text t := tok then
      if isSpaces t then return .done
    modify fun b => { b with legacy := true }
    againIn .beforeHtml tok

/-- Before the `html` element. -/
def beforeHtml (tok : Token) : Build Next := do
  match tok with
  | .comment t => commentIn 0 t; done
  | _ =>
    if let .text t := tok then
      if isSpaces t then return .done
    if let .start t := tok then
      if t.name == "html" then
        createRoot (htmlTag t)
        mode .beforeHead
        return .done
    if isStop tok && !stops ["head", "body", "html", "br"] tok then return .done
    createRoot (Tag.plain "html")
    againIn .beforeHead tok

/-- Before the `head` element. -/
def beforeHead (tok : Token) : Build Next := do
  match tok with
  | .comment t => comment t; done
  | _ =>
    if let .text t := tok then
      if isSpaces t then return .done
    if starts ["html"] tok then return .rulesOf .inBody tok
    if isStop tok && !stops ["head", "body", "html", "br"] tok then return .done
    match tok with
    | .start t =>
      if t.name == "head" then
        let i ← insert (htmlTag t)
        modify fun b => { b with head := some i, mode := .inHead }
        return .done
    | _ => pure ()
    let i ← insert (Tag.plain "head")
    modify fun b => { b with head := some i }
    againIn .inHead tok

/-- The start tags that belong into the head wherever they stand. -/
def headNames : List String :=
  ["base", "basefont", "bgsound", "link", "meta", "noframes", "script", "style", "template",
    "title"]

/-- A start tag of a template. -/
def startTemplate (t : StartTag) : Build Unit := do
  insertFor t
  markFormatting
  noFrameset
  modify fun b => { b with mode := .inTemplate, templateModes := .inTemplate :: b.templateModes }

/-- An end tag of a template. -/
def stopTemplate : Build Unit := do
  if (← get).isOpen "template" then
    closeImplied Tag.isImpliedInTemplate
    popThroughNamed "template"
    clearFormatting
    modify fun b => { b with templateModes := b.templateModes.tail }
    resetMode

/-- In the `head` element. -/
def inHead (tok : Token) : Build Next := do
  match tok with
  | .comment t => comment t; done
  | .start t =>
    if t.name == "html" then return .rulesOf .inBody tok
    else if t.name ∈ ["base", "basefont", "bgsound", "link", "meta"] then insertVoid t; done
    else if t.name == "title" then insertTextual t .escapable; done
    else if t.name ∈ ["noframes", "style", "noscript"] then insertTextual t .raw; done
    else if t.name == "script" then insertTextual t .script; done
    else if t.name == "template" then startTemplate t; done
    else if t.name == "head" then done
    else
      pop
      againIn .afterHead tok
  | .stop n =>
    if n == "head" then
      pop
      mode .afterHead
      done
    else if n == "template" then stopTemplate; done
    else if n ∈ ["body", "html", "br"] then
      pop
      againIn .afterHead tok
    else done
  | _ =>
    if let .text t := tok then
      if isSpaces t then
        text t
        return .done
    pop
    againIn .afterHead tok

/-- After the `head` element. -/
def afterHead (tok : Token) : Build Next := do
  let body : Build Next := do
    insertImplied "body"
    againIn .inBody tok
  match tok with
  | .comment t => comment t; done
  | .start t =>
    if t.name == "html" then return .rulesOf .inBody tok
    else if t.name == "body" then
      insertFor t
      noFrameset
      mode .inBody
      done
    else if t.name == "frameset" then
      insertFor t
      mode .inFrameset
      done
    else if t.name ∈ headNames then
      -- the head is open again for this one token
      let head := (← get).head.getD 0
      push head
      let next ← inHead tok
      unstack head
      return next
    else if t.name == "head" then done
    else body
  | .stop n =>
    if n == "template" then inHead tok
    else if n ∈ ["body", "html", "br"] then body
    else done
  | _ =>
    if let .text t := tok then
      if isSpaces t then
        text t
        return .done
    body

end Insertion

end HtmlCanon.Html
