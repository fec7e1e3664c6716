import HtmlCanon.Html.Insertion.Head

/-!
# Framesets and the end of a page

The insertion modes of a frameset, and those after the body, after a frameset and after the page.
-/

namespace HtmlCanon.Html

namespace Insertion

open Build Builder

/-- After the body. -/
def afterBody (tok : Token) : Build Next := do
  match tok with
  | .comment t =>
    commentIn ((← get).stack.getLast?.getD 0) t
    done
  | .finish => done
  | _ =>
    if let .text t := tok then
      if isSpaces t then return .rulesOf .inBody tok
    if starts ["html"] tok then return .rulesOf .inBody tok
    if stops ["html"] tok then
      mode .afterAfterBody
      return .done
    againIn .inBody tok

/-- In a frameset. -/
def inFrameset (tok : Token) : Build Next := do
  match tok with
  | .comment t => comment t; done
  | .text t => (if isSpaces t then text t else pure ()); done
  | .start t =>
    if t.name == "html" then return .rulesOf .inBody tok
    else if t.name == "frameset" then insertFor t; done
    else if t.name == "frame" then insertVoid t; done
    else if t.name == "noframes" then inHead tok
    else done
  | .stop n =>
    if n == "frameset" && 1 < (← get).stack.length then
      pop
      if !(← get).currentNamed "frameset" then mode .afterFrameset
    done
  | _ => done

/-- After a frameset. -/
def afterFrameset (tok : Token) : Build Next := do
  match tok with
  | .comment t => comment t; done
  | .text t => (if isSpaces t then text t else pure ()); done
  | .start t =>
    if t.name == "html" then return .rulesOf .inBody tok
    else if t.name == "noframes" then inHead tok
    else done
  | .stop n =>
    if n == "html" then mode .afterAfterFrameset
    done
  | _ => done

/-- After the end of a page with a body. -/
def afterAfterBody (tok : Token) : Build Next := do
  match tok with
  | .comment t => commentIn 0 t; done
  | .finish => done
  | _ =>
    if let .text t := tok then
      if isSpaces t then return .rulesOf .inBody tok
    if starts ["html"] tok then return .rulesOf .inBody tok
    againIn .inBody tok

/-- After the end of a page with a frameset. -/
def afterAfterFrameset (tok : Token) : Build Next := do
  match tok with
  | .comment t => commentIn 0 t; done
  | .text t => if isSpaces t then return .rulesOf .inBody tok else done
  | .start t =>
    if t.name == "html" then return .rulesOf .inBody tok
    else if t.name == "noframes" then inHead tok
    else done
  | _ => done

end Insertion

end HtmlCanon.Html
