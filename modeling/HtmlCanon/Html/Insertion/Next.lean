import HtmlCanon.Html.Formatting
import HtmlCanon.Html.LegacyDoctype

/-!
# What becomes of a token

A token that is not settled by the rules of one insertion mode is read again in the mode that was
set meanwhile, or by the rules of another mode. Here are also the questions about tokens that the
rules of many modes ask.
-/

namespace HtmlCanon.Html

/-- What becomes of a token. -/
inductive Next where
  | done
  | again (t : Token)
  | rulesOf (m : InsertionMode) (t : Token)

namespace Insertion

open Build Builder

/-- A text of white space only. -/
def isSpaces (t : Text) : Bool := t.all isMarkupSpace

/-- The token is settled. -/
def done : Build Next := return .done

/-- Reads the token again in another mode. -/
def againIn (m : InsertionMode) (t : Token) : Build Next := do
  mode m
  return .again t

/-- Whether a token is a start tag with one of the given names. -/
def starts (names : List String) : Token → Bool
  | .start t => t.name ∈ names
  | _ => false

/-- Whether a token is an end tag with one of the given names. -/
def stops (names : List String) : Token → Bool
  | .stop n => n ∈ names
  | _ => false

/-- Whether a token is an end tag. -/
def isStop : Token → Bool
  | .stop _ => true
  | _ => false

end Insertion

end HtmlCanon.Html
