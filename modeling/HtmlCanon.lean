import HtmlCanon.Binary64
import HtmlCanon.Command.Arguments
import HtmlCanon.Command.Job
import HtmlCanon.Command.Memory
import HtmlCanon.Command.Outcome
import HtmlCanon.Config
import HtmlCanon.Css.Matching
import HtmlCanon.Css.Selector
import HtmlCanon.Css.Token
import HtmlCanon.Digits
import HtmlCanon.Edit.Region
import HtmlCanon.Edit.Spacing
import HtmlCanon.Edit.TextRule
import HtmlCanon.Edit.Transform
import HtmlCanon.Encoding
import HtmlCanon.Html.Address
import HtmlCanon.Html.Arena
import HtmlCanon.Html.Builder
import HtmlCanon.Html.Foreign
import HtmlCanon.Html.Formatting
import HtmlCanon.Html.Insertion
import HtmlCanon.Html.Insertion.Body
import HtmlCanon.Html.Insertion.Ending
import HtmlCanon.Html.Insertion.Foreign
import HtmlCanon.Html.Insertion.Head
import HtmlCanon.Html.Insertion.Next
import HtmlCanon.Html.Insertion.Select
import HtmlCanon.Html.Insertion.Table
import HtmlCanon.Html.LegacyDoctype
import HtmlCanon.Html.Lexeme
import HtmlCanon.Html.LexemeLength
import HtmlCanon.Html.Markup
import HtmlCanon.Html.Node
import HtmlCanon.Html.Parser
import HtmlCanon.Html.Reference
import HtmlCanon.Html.ReferenceNames
import HtmlCanon.Html.TagSets
import HtmlCanon.Html.Token
import HtmlCanon.Main
import HtmlCanon.Notice
import HtmlCanon.Page
import HtmlCanon.Page.Canonical
import HtmlCanon.Page.Layout
import HtmlCanon.Pipeline
import HtmlCanon.Proofs.Check
import HtmlCanon.Proofs.Fault
import HtmlCanon.Proofs.Html.Accept
import HtmlCanon.Proofs.Html.Arena
import HtmlCanon.Proofs.Html.Body
import HtmlCanon.Proofs.Html.Lexeme
import HtmlCanon.Proofs.Html.Reading
import HtmlCanon.Proofs.Html.Reference
import HtmlCanon.Proofs.Html.Rules
import HtmlCanon.Proofs.Page.Clean
import HtmlCanon.Proofs.Page.CleanValue
import HtmlCanon.Proofs.Page.Distinct
import HtmlCanon.Proofs.Page.Escape
import HtmlCanon.Proofs.Page.Fragment
import HtmlCanon.Proofs.Page.Outline
import HtmlCanon.Proofs.Page.Reread
import HtmlCanon.Proofs.Page.Respace
import HtmlCanon.Proofs.Page.Stable
import HtmlCanon.Proofs.Page.TextLines
import HtmlCanon.Proofs.Page.Written
import HtmlCanon.Proofs.Rule.Records
import HtmlCanon.Proofs.Rule.Spelling
import HtmlCanon.Proofs.Text
import HtmlCanon.Regex
import HtmlCanon.Regex.Brackets
import HtmlCanon.Regex.Expr
import HtmlCanon.Regex.Parser
import HtmlCanon.Regex.Program
import HtmlCanon.Regex.Reader
import HtmlCanon.Regex.Replacement
import HtmlCanon.Regex.Search
import HtmlCanon.Regex.Size
import HtmlCanon.Regex.Syntax
import HtmlCanon.Rule.Fault
import HtmlCanon.Rule.Keys
import HtmlCanon.Rule.Kind
import HtmlCanon.Rule.Record
import HtmlCanon.Rule.Selection
import HtmlCanon.Text
import HtmlCanon.Unicode.Age
import HtmlCanon.Unicode.CaseFold
import HtmlCanon.Unicode.CharSet
import HtmlCanon.Unicode.GeneralCategory
import HtmlCanon.Unicode.Property
import HtmlCanon.Unicode.PropertyRuns
import HtmlCanon.Unicode.Script
import HtmlCanon.Unicode.Segment
import HtmlCanon.Yaml.Describe
import HtmlCanon.Yaml.Document
import HtmlCanon.Yaml.Node
import HtmlCanon.Yaml.Scalar
import HtmlCanon.Yaml.ScalarText
import HtmlCanon.Yaml.Source
import HtmlCanon.Yaml.Token
import HtmlCanon.Yaml.Value
import HtmlCanon.Proofs.Rule.TextOrder
import HtmlCanon.Proofs.FaultOrder
import HtmlCanon.Proofs.Edit.Extract
import HtmlCanon.Proofs.Edit.Placed
import HtmlCanon.Proofs.Edit.Origin
import HtmlCanon.Proofs.Edit.Compose
import HtmlCanon.Proofs.Rule.Without
import HtmlCanon.Proofs.Page.Mark
import HtmlCanon.Proofs.Bytes
import HtmlCanon.Proofs.Page.Verbatim
import HtmlCanon.Proofs.Html.Within
import HtmlCanon.Proofs.Html.Tidy
import HtmlCanon.Proofs.Html.TidyBuild
import HtmlCanon.Proofs.Html.TidyRules
import HtmlCanon.Proofs.Html.Comment
import HtmlCanon.Proofs.Edit.Shape
import HtmlCanon.Proofs.Page.Comment
import HtmlCanon.Proofs.Page.Runs
import HtmlCanon.Proofs.Edit.Regions
import HtmlCanon.Proofs.Page.Repair
import HtmlCanon.Proofs.Page.Alike
import HtmlCanon.Proofs.Page.Repaired
import HtmlCanon.Proofs.Command.Written
import HtmlCanon.Proofs.Edit.Lift
import HtmlCanon.Proofs.Page.Leading
import HtmlCanon.Proofs.Page.Emptied
import HtmlCanon.Proofs.Edit.Cover
import HtmlCanon.Proofs.Page.Seams
import HtmlCanon.Proofs.Page.SplitText
import HtmlCanon.Proofs.Page.Wrapper
import HtmlCanon.Proofs.Edit.Pass
import HtmlCanon.Proofs.Edit.Excerpt
import HtmlCanon.Proofs.Edit.Plan
import HtmlCanon.Proofs.Edit.ClassNames
import HtmlCanon.Proofs.Edit.Order
import HtmlCanon.Proofs.Page.Prologue
import HtmlCanon.Proofs.Rule.Entries
import HtmlCanon.Proofs.Rule.Keys
import HtmlCanon.Proofs.Rule.Grouping
import HtmlCanon.Proofs.Rule.Written
import HtmlCanon.Proofs.Page.Returns
import HtmlCanon.Proofs.Decode
import HtmlCanon.Proofs.Edit.SpaceRuns
import HtmlCanon.Proofs.Regex.Spaces
import HtmlCanon.Proofs.Edit.Spacing
import HtmlCanon.Proofs.Page.Pattern
