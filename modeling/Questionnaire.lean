import Questionnaire.Address
import Questionnaire.Json.Decode
import Questionnaire.Answer.Basic
import Questionnaire.Answer.Instances
import Questionnaire.Document.Basic
import Questionnaire.Document.Codec
import Questionnaire.Document.Edit
import Questionnaire.Document.Import
import Questionnaire.Document.Schema
import Questionnaire.Export.Page
import Questionnaire.Export.Body
import Questionnaire.Export.Markup
import Questionnaire.Export.Script
import Questionnaire.Files.Basic
import Questionnaire.Files.Directory
import Questionnaire.Json.Reader
import Questionnaire.Json.Printer
import Questionnaire.Json.Tree
import Questionnaire.Json.Value
import Questionnaire.Main
import Questionnaire.Number.Binary64
import Questionnaire.Number.Shortest
import Questionnaire.Pattern.Basic
import Questionnaire.Pattern.Bracket
import Questionnaire.Pattern.CharSet
import Questionnaire.Pattern.Escape
import Questionnaire.Pattern.Node
import Questionnaire.Pattern.Plan
import Questionnaire.Pattern.Property
import Questionnaire.Pattern.Reach
import Questionnaire.Pattern.Reader
import Questionnaire.Program.Arguments
import Questionnaire.Program.Run
import Questionnaire.Proofs.Address
import Questionnaire.Proofs.Answer.Effect
import Questionnaire.Proofs.Answer.Instances
import Questionnaire.Proofs.Answer.Removal
import Questionnaire.Proofs.Document
import Questionnaire.Proofs.Json.Leaves
import Questionnaire.Proofs.Session.Run
import Questionnaire.Proofs.Submission.Indexed
import Questionnaire.Proofs.Submission.IndexedTree
import Questionnaire.Proofs.Submission.Interactive
import Questionnaire.Proofs.Submission.Slug
import Questionnaire.Proofs.Table
import Questionnaire.Proofs.Text.Decimal
import Questionnaire.Proofs.Visibility
import Questionnaire.Question.Basic
import Questionnaire.Question.Codec
import Questionnaire.Session
import Questionnaire.Shell
import Questionnaire.Submission.Indexed
import Questionnaire.Submission.Interactive
import Questionnaire.Table
import Questionnaire.Text.Blank
import Questionnaire.Text.Lowercase
import Questionnaire.Text.CaseTable
import Questionnaire.Text.CategoryTable
import Questionnaire.Text.Decimal
import Questionnaire.Text.Literal
import Questionnaire.Text.PropertyTable
import Questionnaire.Text.ScriptTable
import Questionnaire.Text.Utf8
import Questionnaire.Text.WordTable
import Questionnaire.Validation
import Questionnaire.Visibility
import Questionnaire.Proofs.Answer.Agreement
import Questionnaire.Proofs.Mirror
import Questionnaire.Proofs.Session.Renaming
import Questionnaire.Proofs.Document.Dependency
import Questionnaire.Proofs.Document.Edit
import Questionnaire.Proofs.Disclosure
import Questionnaire.Proofs.Json.Numbers
import Questionnaire.Proofs.Text.Utf8
import Questionnaire.Proofs.Json.Reading
import Questionnaire.Proofs.Json.Decoding
import Questionnaire.Proofs.Question.Codec
import Questionnaire.Proofs.Document.Codec
import Questionnaire.Proofs.Document.Import
import Questionnaire.Proofs.Document.Saving
import Questionnaire.Proofs.Submission.Coverage
import Questionnaire.Proofs.Submission.Completeness
import Questionnaire.Proofs.Export.Markup
import Questionnaire.Proofs.Export.Rule
import Questionnaire.Proofs.Export.Shape
import Questionnaire.Proofs.Text.Replace
import Questionnaire.Proofs.Address.Extension
import Questionnaire.Proofs.Validation.Report
import Questionnaire.Proofs.Export.Filling
import Questionnaire.Proofs.Export.Template
import Questionnaire.Proofs.Pattern.Class
import Questionnaire.Proofs.Pattern.Anchored
import Questionnaire.Proofs.Pattern.ClassMember
import Questionnaire.Proofs.Pattern.Browser
import Questionnaire.Proofs.Document.Places
import Questionnaire.Proofs.Session.Counting
import Questionnaire.Proofs.Session.Editing
import Questionnaire.Proofs.Session.Leftovers
import Questionnaire.Proofs.Export.Tags
import Questionnaire.Proofs.Export.Nesting
import Questionnaire.Proofs.Export.Addresses
import Questionnaire.Proofs.Export.Identity
import Questionnaire.Proofs.Answer.Codec
import Questionnaire.Proofs.Session.Saving
import Questionnaire.Proofs.Files.Directory
import Questionnaire.Proofs.Export.FileName
import Questionnaire.Proofs.Program.Step
import Questionnaire.Proofs.Program.Export
import Questionnaire.Proofs.Program.Launch
import Questionnaire.Proofs.Answer.Algebra
import Questionnaire.Proofs.Session.Adding
import Questionnaire.Proofs.Document.Undo
import Questionnaire.Proofs.Document.Unlinking
import Questionnaire.Proofs.Document.Issues
import Questionnaire.Proofs.Validation.Rules
import Questionnaire.Proofs.Validation.Persons
import Questionnaire.Proofs.Submission.Details
import Questionnaire.Proofs.Export.Escape
import Questionnaire.Proofs.Document.Identifiers
import Questionnaire.Proofs.Text.Blank
import Questionnaire.Proofs.Json.Compact
import Questionnaire.Proofs.Shell.Line
import Questionnaire.Proofs.Shell.Key
import Questionnaire.Proofs.Shell.Typing
import Questionnaire.Proofs.Submission.Reading
import Questionnaire.Proofs.Shell.Taking
import Questionnaire.Proofs.Text.Lowercase
import Questionnaire.Proofs.Pattern.Shorthand
import Questionnaire.Proofs.Document.Lookup
