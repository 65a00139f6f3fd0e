import Scaffold.Attribute.Basic
import Scaffold.Attribute.Set
import Scaffold.Attribute.TypeTag
import Scaffold.Attribute.Words
import Scaffold.Bundled.Actions
import Scaffold.Bundled.Pages
import Scaffold.Bundled.Tree
import Scaffold.Bundled.Users
import Scaffold.Calendar
import Scaffold.Command.Arguments
import Scaffold.Command.Generate
import Scaffold.Command.Host
import Scaffold.Command.Options
import Scaffold.Command.Output
import Scaffold.Command.Program
import Scaffold.Command.Style
import Scaffold.Command.Trouble
import Scaffold.Command.Usage
import Scaffold.Draft
import Scaffold.Failure
import Scaffold.Filesystem.Basic
import Scaffold.Filesystem.Disk
import Scaffold.Filesystem.Store
import Scaffold.Filesystem.Tree
import Scaffold.Json
import Scaffold.Main
import Scaffold.Patch
import Scaffold.Path.Basic
import Scaffold.Path.Relative
import Scaffold.Project
import Scaffold.Proofs.Attribute.Canonical
import Scaffold.Proofs.Attribute.Capitals
import Scaffold.Proofs.Attribute.Collection
import Scaffold.Proofs.Attribute.Grammar
import Scaffold.Proofs.Attribute.NormalForms
import Scaffold.Proofs.Attribute.Specification
import Scaffold.Proofs.Attribute.Words
import Scaffold.Proofs.Bundled.Declared
import Scaffold.Proofs.Bundled.FieldLines
import Scaffold.Proofs.Bundled.FieldNames
import Scaffold.Proofs.Bundled.Filled
import Scaffold.Proofs.Bundled.Nullability
import Scaffold.Proofs.Bundled.Outputs
import Scaffold.Proofs.Bundled.Rendered
import Scaffold.Proofs.Bundled.Sources
import Scaffold.Proofs.Calendar
import Scaffold.Proofs.Command.CommonOptions
import Scaffold.Proofs.Command.Completion
import Scaffold.Proofs.Command.ExitCode
import Scaffold.Proofs.Command.JsonOutput
import Scaffold.Proofs.Command.Levels
import Scaffold.Proofs.Command.Reading
import Scaffold.Proofs.Command.Spelling
import Scaffold.Proofs.Command.Surroundings
import Scaffold.Proofs.Filesystem.Calls
import Scaffold.Proofs.Filesystem.Directories
import Scaffold.Proofs.Filesystem.Keyed
import Scaffold.Proofs.Filesystem.Listing
import Scaffold.Proofs.Filesystem.Store
import Scaffold.Proofs.Filesystem.Tree
import Scaffold.Proofs.Json
import Scaffold.Proofs.Patch.Anchors
import Scaffold.Proofs.Patch.Insertion
import Scaffold.Proofs.Patch.LineEndings
import Scaffold.Proofs.Patch.Repetition
import Scaffold.Proofs.Path.Components
import Scaffold.Proofs.Path.Order
import Scaffold.Proofs.Path.Resolved
import Scaffold.Proofs.Path.Slash
import Scaffold.Proofs.Path.SlashForm
import Scaffold.Proofs.Project
import Scaffold.Proofs.Recipe.Destination
import Scaffold.Proofs.Recipe.Separation
import Scaffold.Proofs.Run.AllOrNothing
import Scaffold.Proofs.Run.Auth
import Scaffold.Proofs.Run.Containment
import Scaffold.Proofs.Run.DryRun
import Scaffold.Proofs.Run.Effect
import Scaffold.Proofs.Run.History
import Scaffold.Proofs.Run.Kept
import Scaffold.Proofs.Run.OnStore
import Scaffold.Proofs.Run.Phases
import Scaffold.Proofs.Run.TemplateOrder
import Scaffold.Proofs.Run.WriteOrder
import Scaffold.Proofs.Settings
import Scaffold.Proofs.Stage
import Scaffold.Proofs.Stage.Injection
import Scaffold.Proofs.Stage.Placement
import Scaffold.Proofs.Stage.Relocation
import Scaffold.Proofs.Stage.Target
import Scaffold.Proofs.Stamp
import Scaffold.Proofs.Template.Lexing
import Scaffold.Proofs.Template.Loop
import Scaffold.Proofs.Template.Rendering
import Scaffold.Proofs.Template.Verbatim
import Scaffold.Proofs.Templates
import Scaffold.Proofs.Text.Cutting
import Scaffold.Proofs.Text.Encoding
import Scaffold.Proofs.Text.Fields
import Scaffold.Proofs.Text.InsertedLines
import Scaffold.Proofs.Text.Insertion
import Scaffold.Proofs.Text.Lines
import Scaffold.Proofs.Text.Replacement
import Scaffold.Proofs.Text.Searching
import Scaffold.Proofs.Text.Splitting
import Scaffold.Proofs.Text.Trimming
import Scaffold.Proofs.Toml.Document
import Scaffold.Proofs.Toml.Lines
import Scaffold.Proofs.Toml.Quoted
import Scaffold.Recipe.Auth
import Scaffold.Recipe.Basic
import Scaffold.Rendering
import Scaffold.Run
import Scaffold.Settings.Basic
import Scaffold.Settings.Layers
import Scaffold.Settings.Variables
import Scaffold.Stage
import Scaffold.Stamp
import Scaffold.Template.Builtins
import Scaffold.Template.Eval
import Scaffold.Template.Operation
import Scaffold.Template.Parser
import Scaffold.Template.Program
import Scaffold.Template.Token
import Scaffold.Template.Value
import Scaffold.Templates
import Scaffold.Text.Blank
import Scaffold.Text.Case
import Scaffold.Text.CodeRange
import Scaffold.Text.Find
import Scaffold.Text.Letter
import Scaffold.Text.Line
import Scaffold.Text.Quoted
import Scaffold.Text.Raw
import Scaffold.Text.Utf8
import Scaffold.Text.Visible
import Scaffold.Toml.Quoted
import Scaffold.Toml.Reader
import Scaffold.Toml.Scalar
import Scaffold.Toml.Table
import Scaffold.Toml.Value
