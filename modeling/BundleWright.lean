import BundleWright.AccessModes
import BundleWright.Action
import BundleWright.Arguments
import BundleWright.Assembly
import BundleWright.Checked
import BundleWright.Checked.Value
import BundleWright.Collection
import BundleWright.CommandLine
import BundleWright.Datum
import BundleWright.Datum.Literal
import BundleWright.Datum.Merge
import BundleWright.Decimal
import BundleWright.Declaration
import BundleWright.Declaration.Defaults
import BundleWright.Declaration.File
import BundleWright.Declaration.Printer
import BundleWright.Declaration.Reader
import BundleWright.Dependencies
import BundleWright.Execution
import BundleWright.FileTree
import BundleWright.Graph
import BundleWright.Graph.Walk
import BundleWright.InstallTable
import BundleWright.Json.Printer
import BundleWright.Json.Reader
import BundleWright.Main
import BundleWright.Node
import BundleWright.PackageName
import BundleWright.PackagedFile
import BundleWright.Path
import BundleWright.Payload
import BundleWright.Plan
import BundleWright.Problem
import BundleWright.Proofs.Alike
import BundleWright.Proofs.Answered
import BundleWright.Proofs.Architecture
import BundleWright.Proofs.Assembly
import BundleWright.Proofs.Building
import BundleWright.Proofs.BuiltFiles
import BundleWright.Proofs.Collection
import BundleWright.Proofs.Construction
import BundleWright.Proofs.Containment
import BundleWright.Proofs.Coverage
import BundleWright.Proofs.DeclarationOrder
import BundleWright.Proofs.Declared
import BundleWright.Proofs.Defaults
import BundleWright.Proofs.Dependencies
import BundleWright.Proofs.Embedding
import BundleWright.Proofs.Execution
import BundleWright.Proofs.FailStop
import BundleWright.Proofs.Failures
import BundleWright.Proofs.FileTree.Filling
import BundleWright.Proofs.FileTree.Operations
import BundleWright.Proofs.FileTree.Sameness
import BundleWright.Proofs.FileTree.Ways
import BundleWright.Proofs.Findings
import BundleWright.Proofs.Graph.History
import BundleWright.Proofs.Graph.Reach
import BundleWright.Proofs.Graph.Recursion
import BundleWright.Proofs.Graph.Repeated
import BundleWright.Proofs.Graph.Settled
import BundleWright.Proofs.Graph.Visits
import BundleWright.Proofs.InstallDir
import BundleWright.Proofs.Installation
import BundleWright.Proofs.Isolation
import BundleWright.Proofs.LibraryDirs
import BundleWright.Proofs.Links
import BundleWright.Proofs.Merge
import BundleWright.Proofs.MergeLaws
import BundleWright.Proofs.ModeLines
import BundleWright.Proofs.ModeListing
import BundleWright.Proofs.ModeTable
import BundleWright.Proofs.ModuleNames
import BundleWright.Proofs.Multilib
import BundleWright.Proofs.NormalForm
import BundleWright.Proofs.Normalised
import BundleWright.Proofs.Orphans
import BundleWright.Proofs.OsBlocks
import BundleWright.Proofs.Outputs
import BundleWright.Proofs.PackageName
import BundleWright.Proofs.Path.Join
import BundleWright.Proofs.Path.Order
import BundleWright.Proofs.Path.Text
import BundleWright.Proofs.PlaceChecks
import BundleWright.Proofs.Placement
import BundleWright.Proofs.Plan
import BundleWright.Proofs.Propagation
import BundleWright.Proofs.PropertyRecords
import BundleWright.Proofs.Reassembly
import BundleWright.Proofs.Refusals
import BundleWright.Proofs.Registration
import BundleWright.Proofs.Repetition
import BundleWright.Proofs.Requests
import BundleWright.Proofs.Restaging
import BundleWright.Proofs.Selection
import BundleWright.Proofs.SelfContained
import BundleWright.Proofs.Separation
import BundleWright.Proofs.ShellWords
import BundleWright.Proofs.Signing
import BundleWright.Proofs.Staging
import BundleWright.Proofs.Stubs
import BundleWright.Proofs.Text.Order
import BundleWright.Proofs.Text.Words
import BundleWright.Proofs.Variants
import BundleWright.Proofs.Workspace
import BundleWright.Report
import BundleWright.Request
import BundleWright.Settings
import BundleWright.Settings.Printer
import BundleWright.Settings.Reader
import BundleWright.Settings.VariableFile
import BundleWright.Target
import BundleWright.Text.Blank
import BundleWright.Text.CellWidth
import BundleWright.Text.Digit
import BundleWright.Text.Emoji
import BundleWright.Text.Emoji.Table
import BundleWright.Text.Lower
import BundleWright.Text.Markup
import BundleWright.Text.Markup.Action
import BundleWright.Text.Printable
import BundleWright.Text.Quoted
import BundleWright.Text.ShellWord
import BundleWright.Text.Split
import BundleWright.Text.Style
import BundleWright.ToolCommand
import BundleWright.Workspace
import BundleWright.Yaml
import BundleWright.Yaml.Binary
import BundleWright.Yaml.Block
import BundleWright.Yaml.Cursor
import BundleWright.Yaml.Fault
import BundleWright.Yaml.Moment
import BundleWright.Yaml.Node
import BundleWright.Yaml.Node.Reader
import BundleWright.Yaml.Number
import BundleWright.Yaml.Plain
import BundleWright.Yaml.Quoted
import BundleWright.Yaml.Scalar
import BundleWright.Yaml.Tag
import BundleWright.Yaml.Token
import BundleWright.Yaml.Token.Lexer
import BundleWright.Yaml.Value
