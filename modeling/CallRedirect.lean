import CallRedirect.Source
import CallRedirect.Node.Basic
import CallRedirect.Node.Row
import CallRedirect.Node.Site
import CallRedirect.Text.Join
import CallRedirect.Text.Blank
import CallRedirect.Text.Identifier
import CallRedirect.Text.Quoted
import CallRedirect.Text.Delimited
import CallRedirect.Text.Lower
import CallRedirect.Text.Ranges
import CallRedirect.Text.Digit
import CallRedirect.Text.WordRanges
import CallRedirect.Text.UnprintableRanges
import CallRedirect.Text.Inspect
import CallRedirect.Text.Literal.Fault
import CallRedirect.Text.Literal.Number
import CallRedirect.Text.Literal.Item
import CallRedirect.Text.Literal.Reading
import CallRedirect.Text.Handler
import CallRedirect.Text.WidthRanges
import CallRedirect.Text.Width
import CallRedirect.Text.Wrap
import CallRedirect.Text.EmojiNames
import CallRedirect.Text.Emoji
import CallRedirect.Text.Color
import CallRedirect.Text.Style
import CallRedirect.Text.Markup
import CallRedirect.Dialect
import CallRedirect.Failure
import CallRedirect.Replacement
import CallRedirect.Trace
import CallRedirect.Notice
import CallRedirect.Import.Specifier
import CallRedirect.Import.Declaration
import CallRedirect.Import.Reading
import CallRedirect.Document.Basic
import CallRedirect.Document.Attachment
import CallRedirect.Document.Layout
import CallRedirect.Scope.Pattern
import CallRedirect.Scope.Declaration
import CallRedirect.Scope.Table
import CallRedirect.Session.Basic
import CallRedirect.CallSite
import CallRedirect.Session.Redirect
import CallRedirect.Import.Insertion
import CallRedirect.Import.Census
import CallRedirect.Session.Ensure
import CallRedirect.Session.Edit
import CallRedirect.Settings.Basic
import CallRedirect.Settings.Value
import CallRedirect.Settings.Check
import CallRedirect.Settings.Lookup
import CallRedirect.Run
import CallRedirect.Reporter
import CallRedirect.Proofs.Encoding
import CallRedirect.Proofs.Preorder
import CallRedirect.Proofs.Nesting
import CallRedirect.Proofs.Outline
import CallRedirect.Proofs.Printing
import CallRedirect.Proofs.Patch
import CallRedirect.Proofs.Splice
import CallRedirect.Proofs.CallSites
import CallRedirect.Proofs.Recording
import CallRedirect.Proofs.Redirection
import CallRedirect.Proofs.Precedence
import CallRedirect.Proofs.Escaping
import CallRedirect.Proofs.Reporting
import CallRedirect.Proofs.Loading
import CallRedirect.Proofs.Acceptance
import CallRedirect.Proofs.Ensuring
import CallRedirect.Proofs.Supply
import CallRedirect.Proofs.Insertion
import CallRedirect.Proofs.NewImport
import CallRedirect.Proofs.EnsuredText
import CallRedirect.Proofs.Merging
import CallRedirect.Proofs.EnsuredTwice
import CallRedirect.Proofs.Resolution
import CallRedirect.Proofs.Runs
import CallRedirect.Proofs.Attaching
import CallRedirect.Proofs.Succession
import CallRedirect.Proofs.Editing
import CallRedirect.Proofs.Tracing
import CallRedirect.Proofs.TracedCalls
import CallRedirect.Proofs.Naming
import CallRedirect.Proofs.Capture
import CallRedirect.Proofs.Regrowth
import CallRedirect.Proofs.RegrownNames
import CallRedirect.Proofs.Fitting
import CallRedirect.Proofs.RegrownScopes
import CallRedirect.Proofs.RegrownCalls
import CallRedirect.Proofs.Keeping
import CallRedirect.Proofs.Stations
import CallRedirect.Proofs.Idempotence
import CallRedirect.Proofs.PatternPlaces
import CallRedirect.Proofs.Declaring
import CallRedirect.Proofs.Environments
import CallRedirect.Proofs.Shadowing
import CallRedirect.Proofs.Independence
import CallRedirect.Proofs.Cuts
import CallRedirect.Proofs.Places
import CallRedirect.Proofs.Retention
import CallRedirect.Proofs.Composition
import CallRedirect.Proofs.Outcomes
import CallRedirect.Proofs.Quoting
import CallRedirect.Proofs.Requests
import CallRedirect.Proofs.Spelling
import CallRedirect.Proofs.LineEnds
import CallRedirect.Proofs.PhaseForest
import CallRedirect.Proofs.RepeatedMerging
import CallRedirect.Proofs.Unambiguity
import CallRedirect.Proofs.Descent
import CallRedirect.Proofs.Traversal
