import HtmlCanon.Html.Insertion
import HtmlCanon.Html.LexemeLength

/-!
# Reading a page

The text of a page is cut into lexemes, whose tokens the builder takes in one by one. How the next
lexeme is read depends on what the builder has made of the last.
-/

namespace HtmlCanon.Html

namespace Build

/-- Takes in tokens in order. -/
def acceptAll : List Token → Build Unit
  | [] => return
  | t :: ts => do
    accept t
    acceptAll ts

end Build

namespace Builder

/-- Whether sections of character data count: in SVG and MathML only. -/
def allowsData (b : Builder) : Bool := b.currentIs (·.space != .html)

/-- The name of the last start tag among tokens, or else the given one. -/
def lastStart (name : Text) (ts : List Token) : Text :=
  match ts.getLast? with
  | some (.start t) => t.name.toList
  | _ => name

/-- Reads the rest of a page. `name` is the name of the last start tag. -/
def readAll (b : Builder) (name : Text) (s : Text) : Builder :=
  match s with
  | [] => ((Build.accept .finish).run b).2
  | c :: r =>
    have := Lexeme.next_length b.reading name b.allowsData c r
    let l := Lexeme.next b.reading name b.allowsData (c :: r)
    readAll ((Build.acceptAll l.tokens).run b).2 (lastStart name l.tokens) l.rest
termination_by s.length
decreasing_by exact this

end Builder

/-- A page as it was read: its top-level nodes, and how many tokens were moved out of a table. -/
structure ParsedPage where
  nodes : List Node
  fostered : Nat

/-- Reads a page. A byte-order mark at its start is skipped. -/
def parse (s : Text) : ParsedPage :=
  let b := Builder.start.readAll [] (Lexeme.dropMark s)
  ⟨b.arena.document, b.fostered⟩

end HtmlCanon.Html
