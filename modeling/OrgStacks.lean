import OrgStacks.Account
import OrgStacks.Account.Selection
import OrgStacks.Build
import OrgStacks.CharSet
import OrgStacks.CommandLine
import OrgStacks.CommandLine.Arguments
import OrgStacks.CommandLine.Help
import OrgStacks.CommandLine.Needs
import OrgStacks.Compilation
import OrgStacks.Config.Basic
import OrgStacks.Config.Kind
import OrgStacks.Config.Reader
import OrgStacks.Config.Record
import OrgStacks.Config.Substitution
import OrgStacks.Config.Writer
import OrgStacks.Decimal.Shortest
import OrgStacks.Decimal.Text
import OrgStacks.FilePath
import OrgStacks.FileSource
import OrgStacks.FileTree
import OrgStacks.Json.Number
import OrgStacks.Json.Parser
import OrgStacks.Json.Printer
import OrgStacks.Json.Value
import OrgStacks.Main
import OrgStacks.NameMap
import OrgStacks.Output
import OrgStacks.Pattern.Classes
import OrgStacks.Pattern.Reader
import OrgStacks.Pattern.Regex
import OrgStacks.Pattern.Size
import OrgStacks.Policy.Document
import OrgStacks.Policy.Rendering
import OrgStacks.Problem
import OrgStacks.Problem.Codec
import OrgStacks.Proofs.Addressing
import OrgStacks.Proofs.Anchoring
import OrgStacks.Proofs.Brackets
import OrgStacks.Proofs.Building
import OrgStacks.Proofs.Clash
import OrgStacks.Proofs.Compilation
import OrgStacks.Proofs.Emission
import OrgStacks.Proofs.Escapes
import OrgStacks.Proofs.Exports
import OrgStacks.Proofs.FilePath
import OrgStacks.Proofs.FileTree
import OrgStacks.Proofs.Foresight
import OrgStacks.Proofs.Grants
import OrgStacks.Proofs.Growth
import OrgStacks.Proofs.Identity
import OrgStacks.Proofs.Inclusion
import OrgStacks.Proofs.Isolation
import OrgStacks.Proofs.Linkage
import OrgStacks.Proofs.Listing
import OrgStacks.Proofs.Literals
import OrgStacks.Proofs.LogicalIds
import OrgStacks.Proofs.Matching
import OrgStacks.Proofs.NameMap
import OrgStacks.Proofs.Outcome
import OrgStacks.Proofs.Pieces
import OrgStacks.Proofs.Registry
import OrgStacks.Proofs.Reordering
import OrgStacks.Proofs.Report
import OrgStacks.Proofs.Resource
import OrgStacks.Proofs.Retention
import OrgStacks.Proofs.Selection
import OrgStacks.Proofs.Settings
import OrgStacks.Proofs.Steady
import OrgStacks.Proofs.Tags
import OrgStacks.Proofs.TrustDocument
import OrgStacks.Proofs.Validation
import OrgStacks.Proofs.Wrapping
import OrgStacks.Proofs.Writing
import OrgStacks.Reference
import OrgStacks.Render.Expression
import OrgStacks.Render.Filter
import OrgStacks.Render.Operator
import OrgStacks.Render.Parser
import OrgStacks.Render.Run
import OrgStacks.Render.Token
import OrgStacks.Render.Value
import OrgStacks.Template
import OrgStacks.Text
import OrgStacks.Text.Case
import OrgStacks.Text.Quoted
import OrgStacks.Trust
import OrgStacks.Unicode.CaseFold
import OrgStacks.Unicode.CaseMap
import OrgStacks.Unicode.Category
import OrgStacks.Unicode.Property
import OrgStacks.Unicode.Script
import OrgStacks.Validation
import OrgStacks.Yaml.Cursor
import OrgStacks.Yaml.Document
import OrgStacks.Yaml.Node
import OrgStacks.Yaml.Printer
import OrgStacks.Yaml.Scalar
import OrgStacks.Yaml.Token
import OrgStacks.Yaml.Token.Property
import OrgStacks.Yaml.Token.Scalar
import OrgStacks.Yaml.Token.Stream
import OrgStacks.Yaml.Value
import OrgStacks.Proofs.References
import OrgStacks.Proofs.Outputs
import OrgStacks.Proofs.TemplateFiles
import OrgStacks.Proofs.Records
import OrgStacks.Proofs.RoundTrip
import OrgStacks.Proofs.PolicyDocument
import OrgStacks.Proofs.Secrets
import OrgStacks.Proofs.Replacement
import OrgStacks.Proofs.RecordFields
import OrgStacks.Proofs.Misspelling
import OrgStacks.Proofs.Fitting
import OrgStacks.Proofs.Variables
import OrgStacks.Proofs.Causes
import OrgStacks.Proofs.Consistency
import OrgStacks.Proofs.Conversion
import OrgStacks.Proofs.Containment
