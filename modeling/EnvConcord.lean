import EnvConcord.Access.Basic
import EnvConcord.Access.Dialect
import EnvConcord.Access.Example
import EnvConcord.Access.Files
import EnvConcord.Access.Registry
import EnvConcord.Access.Scan
import EnvConcord.Audit
import EnvConcord.Collection.Dict
import EnvConcord.Command.Arguments
import EnvConcord.Command.Basic
import EnvConcord.Command.Run
import EnvConcord.Command.Shell
import EnvConcord.Digest.Sha1
import EnvConcord.Document.Chars
import EnvConcord.Document.Json.Reader
import EnvConcord.Document.Json.Writer
import EnvConcord.Document.Moment
import EnvConcord.Document.Plain
import EnvConcord.Document.Source
import EnvConcord.Document.Toml.Reader
import EnvConcord.Document.Toml.Scalar
import EnvConcord.Document.Value
import EnvConcord.Document.Yaml.Cursor
import EnvConcord.Document.Yaml.Fault
import EnvConcord.Document.Yaml.Implicit
import EnvConcord.Document.Yaml.Lexer
import EnvConcord.Document.Yaml.Node
import EnvConcord.Document.Yaml.Parser
import EnvConcord.Document.Yaml.Reader
import EnvConcord.Document.Yaml.Scalar
import EnvConcord.Document.Yaml.ScalarValue
import EnvConcord.Document.Yaml.Timestamp
import EnvConcord.Document.Yaml.Token
import EnvConcord.Document.Yaml.Writer
import EnvConcord.EnvFile.Basic
import EnvConcord.EnvFile.Binding
import EnvConcord.EnvFile.Clean
import EnvConcord.EnvFile.Diff
import EnvConcord.EnvFile.Load
import EnvConcord.EnvFile.Parser
import EnvConcord.EnvFile.Printer
import EnvConcord.Glob.Brace
import EnvConcord.Glob.Ignore
import EnvConcord.Glob.Name
import EnvConcord.Glob.Resolve
import EnvConcord.Glob.Walk
import EnvConcord.Logged
import EnvConcord.Main
import EnvConcord.Number.Binary64
import EnvConcord.Number.Numeral
import EnvConcord.Number.Rounding
import EnvConcord.Number.Shortest
import EnvConcord.Pattern.Regex.Basic
import EnvConcord.Pattern.Regex.Escape
import EnvConcord.Pattern.Regex.Fault
import EnvConcord.Pattern.Regex.Matcher
import EnvConcord.Pattern.Regex.Parser
import EnvConcord.Pattern.Regex.Reader
import EnvConcord.Reconcile
import EnvConcord.Report.Audit
import EnvConcord.Report.Codes
import EnvConcord.Report.Diff
import EnvConcord.Report.Markup
import EnvConcord.Report.Options
import EnvConcord.Report.Panel
import EnvConcord.Report.Schema
import EnvConcord.Report.Styled
import EnvConcord.Report.Table
import EnvConcord.Report.Wrap
import EnvConcord.Schema.Coerce
import EnvConcord.Schema.Convert
import EnvConcord.Schema.Email
import EnvConcord.Schema.Example
import EnvConcord.Schema.Field
import EnvConcord.Schema.Issue
import EnvConcord.Schema.Printer
import EnvConcord.Schema.Reader
import EnvConcord.Schema.Source
import EnvConcord.Schema.Starter
import EnvConcord.Schema.Validate
import EnvConcord.Settings.Basic
import EnvConcord.Settings.Environment
import EnvConcord.Settings.Logging
import EnvConcord.Settings.Override
import EnvConcord.Settings.Source
import EnvConcord.Settings.Store
import EnvConcord.Text.Blank
import EnvConcord.Text.Breaks
import EnvConcord.Text.Cased
import EnvConcord.Text.CellWidth
import EnvConcord.Text.CharacterName
import EnvConcord.Text.Digits
import EnvConcord.Text.Letters
import EnvConcord.Text.Lines
import EnvConcord.Text.LowerCase
import EnvConcord.Text.NameTable
import EnvConcord.Text.Printable
import EnvConcord.Text.Quoted
import EnvConcord.Text.Ranges
import EnvConcord.Text.SameLetter
import EnvConcord.Text.Sorted
import EnvConcord.Text.UpperCase
import EnvConcord.Text.Utf8
import EnvConcord.Tree.Basic
import EnvConcord.Tree.Path
import EnvConcord.Url.Basic
import EnvConcord.Url.Combining
import EnvConcord.Url.Direction
import EnvConcord.Url.DomainTable
import EnvConcord.Url.Host
import EnvConcord.Url.Joining
import EnvConcord.Url.Punycode
import EnvConcord.Proofs.Collection.Dict
import EnvConcord.Proofs.EnvFile.Reading
import EnvConcord.Proofs.EnvFile.RoundTrip
import EnvConcord.Proofs.Access.Occurrences
import EnvConcord.Proofs.Access.Forms
import EnvConcord.Proofs.Access.Javascript
import EnvConcord.Proofs.Access.Keys
import EnvConcord.Proofs.Text.Sorted
import EnvConcord.Proofs.Access.Example
import EnvConcord.Proofs.Text.Utf8
import EnvConcord.Proofs.Tree.Writing
import EnvConcord.Proofs.EnvFile.Binding.Cut
import EnvConcord.Proofs.EnvFile.Removal
import EnvConcord.Proofs.EnvFile.Cleaning
import EnvConcord.Proofs.EnvFile.Exactness
import EnvConcord.Proofs.Collection.Traversal
import EnvConcord.Proofs.Schema.Checks
import EnvConcord.Proofs.Schema.Documents
import EnvConcord.Proofs.Schema.Findings
import EnvConcord.Proofs.Schema.SecretDefaults
import EnvConcord.Proofs.Schema.SecretValues
import EnvConcord.Proofs.Schema.Typing
import EnvConcord.Proofs.Settings.Loading
import EnvConcord.Proofs.Settings.Mapping
import EnvConcord.Proofs.Reconcile.Exact
import EnvConcord.Proofs.Reconcile.Monotone
import EnvConcord.Proofs.Access.Calls
import EnvConcord.Proofs.Access.Computed
import EnvConcord.Proofs.Reconcile.Separation
import EnvConcord.Proofs.Text.Digits
import EnvConcord.Proofs.Number.Rounding
import EnvConcord.Proofs.Number.Shortest
import EnvConcord.Proofs.Number.Numerals
import EnvConcord.Proofs.Document.Json.Strings
import EnvConcord.Proofs.Document.Json.Values
import EnvConcord.Proofs.Document.Lines
import EnvConcord.Proofs.Schema.Loading
import EnvConcord.Proofs.Document.Printed
import EnvConcord.Proofs.Settings.Saving
import EnvConcord.Proofs.EnvFile.Values
import EnvConcord.Proofs.Command.Shell
import EnvConcord.Proofs.Command.Changes
import EnvConcord.Proofs.Access.StaticReads
import EnvConcord.Proofs.Audit.Findings
import EnvConcord.Proofs.Command.ExitCode
import EnvConcord.Proofs.Glob.Choices
import EnvConcord.Proofs.EnvFile.Written
import EnvConcord.Proofs.Schema.Returning
import EnvConcord.Proofs.Schema.Membership
import EnvConcord.Proofs.EnvFile.Accounting
import EnvConcord.Proofs.EnvFile.Joined
import EnvConcord.Proofs.EnvFile.Padding
import EnvConcord.Proofs.Access.Sites
import EnvConcord.Proofs.Access.Merging
import EnvConcord.Proofs.Access.Joined
import EnvConcord.Proofs.EnvFile.DryRun
import EnvConcord.Proofs.Settings.Product
import EnvConcord.Proofs.EnvFile.Classes
import EnvConcord.Proofs.Access.Registration
import EnvConcord.Proofs.Access.Unreadable
import EnvConcord.Proofs.Report.Minimal
import EnvConcord.Proofs.Tree.Order
import EnvConcord.Proofs.Glob.Expansion
import EnvConcord.Proofs.Glob.Resolution
import EnvConcord.Proofs.Access.Distinct
import EnvConcord.Proofs.Pattern.Regex.Simple
import EnvConcord.Proofs.Schema.Addresses
