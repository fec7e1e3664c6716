import HtmlCanon.Html.Insertion.Head

/-!
# In the body

The insertion modes of the body and of elements whose content is text. Blocks end paragraphs,
formatting elements go on over the ends of blocks, and list items end the item before them.
-/

namespace HtmlCanon.Html

namespace Insertion

open Build Builder

/-- Whether an `input` tag asks for a field that is not shown. -/
def isHidden (t : StartTag) : Bool :=
  t.attrs.any fun a => a.1 == "type" && lowerText a.2 == "hidden".toList

/-- Opens an SVG or MathML element, or only puts it there if its tag closes it. -/
def enterForeign (t : Tag) (closed : Bool) : Build Unit := do
  if closed then discard (insertClosed t) else discard (insert t)

/-- The blocks that end a paragraph and have no other rule. -/
def blockNames : List String :=
  ["address", "article", "aside", "blockquote", "center", "details", "dialog", "dir", "div", "dl",
    "fieldset", "figcaption", "figure", "footer", "header", "hgroup", "main", "menu", "nav", "ol",
    "p", "section", "summary", "ul"]

/-- The blocks that an end tag of their name closes. -/
def closableNames : List String :=
  ["address", "article", "aside", "blockquote", "button", "center", "details", "dialog", "dir",
    "div", "dl", "fieldset", "figcaption", "figure", "footer", "header", "hgroup", "listing",
    "main", "menu", "nav", "ol", "pre", "section", "summary", "ul"]

/-- The elements that go on over the ends of blocks. -/
def formattingNames : List String :=
  ["b", "big", "code", "em", "font", "i", "s", "small", "strike", "strong", "tt", "u"]

/-- A list item closes the one before it, unless a special element stands in between. -/
def closeItem (names : List String) : Build Unit := do
  let b ← get
  let stopsAt := fun (t : Tag) =>
    t.isHtml names || (t.isSpecial && !t.isHtml ["address", "div", "p"])
  match (b.stack.find? (b.hasTag stopsAt)).bind b.tag? with
  | some t =>
    if t.isHtml names then
      closeImpliedBut t.name
      popThroughNamed t.name
  | none => return

/-- A start tag of an `a` element closes the one that is open. -/
def closeAnchor : Build Unit := do
  let b ← get
  match b.recentFormatting.find? fun (i, _) => b.hasTag (·.isHtml ["a"]) i with
  | none => return
  | some (i, _) =>
    closeFormatting "a"
    -- the rounds may have left it open
    modify (forget i)
    unstack i

/-- Start tags in the body. -/
def startInBody (t : StartTag) : Build Next := do
  let b ← get
  let n := t.name
  if n == "html" then
    if !b.isOpen "template" then
      arena (·.addAttrs (b.stack.getLast?.getD 0) (htmlTag t).attrs)
    done
  else if n ∈ headNames then inHead (.start t)
  else if n == "body" then
    match b.body? with
    | some i =>
      if !b.isOpen "template" then
        noFrameset
        arena (·.addAttrs i (htmlTag t).attrs)
    | none => pure ()
    done
  else if n == "frameset" then
    match b.framesetOk, b.body? with
    | true, some i =>
      -- the frameset takes the place of the body
      arena (·.detach i)
      modify fun b => { b with stack := b.stack.getLast?.toList }
      insertFor t
      mode .inFrameset
    | _, _ => pure ()
    done
  else if n ∈ blockNames then
    closeParagraphInScope
    insertFor t
    done
  else if n ∈ ["h1", "h2", "h3", "h4", "h5", "h6"] then
    closeParagraphInScope
    if (← get).currentIs Tag.isHeading then pop
    insertFor t
    done
  else if n ∈ ["pre", "listing"] then
    closeParagraphInScope
    insertFor t
    modify fun b => { b with skipNewline := true, framesetOk := false }
    done
  else if n == "form" then
    if b.form.isNone || b.isOpen "template" then
      closeParagraphInScope
      let i ← insert (htmlTag t)
      if !b.isOpen "template" then modify fun b => { b with form := some i }
    done
  else if n ∈ ["li", "dd", "dt"] then
    noFrameset
    closeItem (if n == "li" then ["li"] else ["dd", "dt"])
    closeParagraphInScope
    insertFor t
    done
  else if n == "plaintext" then
    closeParagraphInScope
    insertFor t
    modify fun b => { b with reading := .plain }
    done
  else if n == "button" then
    if b.inScopeNamed Tag.boundsScope "button" then
      closeImplied Tag.isImplied
      popThroughNamed "button"
    reopenFormatting
    insertFor t
    noFrameset
    done
  else if n == "a" then
    closeAnchor
    reopenFormatting
    insertFormatting t
    done
  else if n ∈ formattingNames then
    reopenFormatting
    insertFormatting t
    done
  else if n == "nobr" then
    reopenFormatting
    if (← get).inScopeNamed Tag.boundsScope "nobr" then
      closeFormatting "nobr"
      reopenFormatting
    insertFormatting t
    done
  else if n ∈ ["applet", "marquee", "object"] then
    reopenFormatting
    insertFor t
    markFormatting
    noFrameset
    done
  else if n == "table" then
    if !b.legacy then closeParagraphInScope
    insertFor t
    noFrameset
    mode .inTable
    done
  else if n ∈ ["area", "br", "embed", "img", "keygen", "wbr", "input"] then
    reopenFormatting
    insertVoid t
    if !(n == "input" && isHidden t) then noFrameset
    done
  else if n ∈ ["param", "source", "track"] then
    insertVoid t
    done
  else if n == "hr" then
    closeParagraphInScope
    insertVoid t
    noFrameset
    done
  else if n == "image" then
    reopenFormatting
    insertVoid { t with name := "img" }
    noFrameset
    done
  else if n == "textarea" then
    modify fun b => { b with skipNewline := true, framesetOk := false }
    insertTextual t .escapable
    done
  else if n == "xmp" then
    closeParagraphInScope
    reopenFormatting
    noFrameset
    insertTextual t .raw
    done
  else if n == "iframe" then
    noFrameset
    insertTextual t .raw
    done
  else if n ∈ ["noembed", "noscript"] then
    insertTextual t .raw
    done
  else if n == "select" then
    reopenFormatting
    insertFor t
    noFrameset
    mode (if b.mode ∈ [.inTable, .inCaption, .inTableBody, .inRow, .inCell] then .inSelectInTable
      else .inSelect)
    done
  else if n ∈ ["optgroup", "option"] then
    if b.currentNamed "option" then pop
    reopenFormatting
    insertFor t
    done
  else if n ∈ ["rb", "rtc"] then
    if b.inScopeNamed Tag.boundsScope "ruby" then closeImplied Tag.isImplied
    insertFor t
    done
  else if n ∈ ["rp", "rt"] then
    if b.inScopeNamed Tag.boundsScope "ruby" then closeImpliedBut "rtc"
    insertFor t
    done
  else if n == "math" then
    enterForeign (Foreign.tag .mathml t) t.selfClosing
    done
  else if n == "svg" then
    enterForeign (Foreign.tag .svg t) t.selfClosing
    done
  else if n ∈ ["caption", "col", "colgroup", "frame", "head", "tbody", "td", "tfoot", "th", "thead",
      "tr"] then done
  else
    reopenFormatting
    insertFor t
    done

/-- End tags in the body. -/
def stopInBody (n : String) : Build Next := do
  let b ← get
  if n == "template" then inHead (.stop n)
  else if n == "body" then
    if b.inScopeNamed Tag.boundsScope "body" then mode .afterBody
    done
  else if n == "html" then
    if b.inScopeNamed Tag.boundsScope "body" then againIn .afterBody (.stop n) else done
  else if n ∈ closableNames then
    if b.inScopeNamed Tag.boundsScope n then
      closeImplied Tag.isImplied
      popThroughNamed n
    done
  else if n == "form" then
    if b.isOpen "template" then
      if b.inScopeNamed Tag.boundsScope "form" then
        closeImplied Tag.isImplied
        popThroughNamed "form"
    else
      modify fun b => { b with form := none }
      match b.form with
      | none => pure ()
      | some i =>
        -- the form may not be the innermost element, so no element is closed on its behalf
        if b.inScope Tag.boundsScope (· == i) then
          closeImplied Tag.isImplied
          unstack i
    done
  else if n == "p" then
    if !b.inScopeNamed Tag.boundsButtonScope "p" then insertImplied "p"
    closeParagraph
    done
  else if n ∈ ["li", "dd", "dt"] then
    let bounds := if n == "li" then Tag.boundsListScope else Tag.boundsScope
    if b.inScopeNamed bounds n then
      closeImpliedBut n
      popThroughNamed n
    done
  else if n ∈ ["h1", "h2", "h3", "h4", "h5", "h6"] then
    if b.inScope Tag.boundsScope (b.hasTag Tag.isHeading) then
      closeImplied Tag.isImplied
      popThrough Tag.isHeading
    done
  else if n ∈ "a" :: "nobr" :: formattingNames then
    closeFormatting n
    done
  else if n ∈ ["applet", "marquee", "object"] then
    if b.inScopeNamed Tag.boundsScope n then
      closeImplied Tag.isImplied
      popThroughNamed n
      clearFormatting
    done
  else if n == "br" then startInBody ⟨"br", [], false⟩
  else
    closeNamed n
    done

/-- In the body. -/
def inBody (tok : Token) : Build Next := do
  match tok with
  | .text t =>
    reopenFormatting
    if !isSpaces t then noFrameset
    text t
    done
  | .comment t => comment t; done
  | .start t => startInBody t
  | .stop n => stopInBody n
  | .finish =>
    if (← get).templateModes.isEmpty then done else return .rulesOf .inTemplate tok
  | _ => done

/-- In an element whose content is text. -/
def inText (tok : Token) : Build Next := do
  match tok with
  | .text t => text t; done
  | .finish =>
    pop
    againIn (← get).resume tok
  | .stop _ =>
    pop
    mode (← get).resume
    done
  | _ => done

end Insertion

end HtmlCanon.Html
