import Switchboard.Catalog
import Switchboard.Chat.Content
import Switchboard.Chat.Request
import Switchboard.Command.Arguments
import Switchboard.Command.Run
import Switchboard.Document.Bytes
import Switchboard.Document.Calendar
import Switchboard.Document.Cursor
import Switchboard.Document.Datum
import Switchboard.Document.Fault
import Switchboard.Document.Kind
import Switchboard.Document.Node
import Switchboard.Document.Numeral
import Switchboard.Document.Property
import Switchboard.Document.Scalar.Block
import Switchboard.Document.Scalar.Plain
import Switchboard.Document.Scalar.Quoted
import Switchboard.Document.Token
import Switchboard.Document.Value
import Switchboard.Files.Digest
import Switchboard.Files.Path
import Switchboard.Files.State
import Switchboard.Json
import Switchboard.Main
import Switchboard.Notice
import Switchboard.Number.Binary
import Switchboard.Number.Numeral
import Switchboard.Number.Shortest
import Switchboard.Pattern.Basic
import Switchboard.Pattern.CharSet
import Switchboard.Pattern.Escape
import Switchboard.Pattern.Fault
import Switchboard.Pattern.Grammar
import Switchboard.Pattern.Letter
import Switchboard.Pattern.Reader
import Switchboard.Pattern.Search
import Switchboard.Routing.Building
import Switchboard.Routing.Decision
import Switchboard.Routing.Fault
import Switchboard.Routing.Route
import Switchboard.Routing.Status
import Switchboard.Routing.Tables
import Switchboard.Rule.Basic
import Switchboard.Rule.Fault
import Switchboard.Rule.Ordered
import Switchboard.Rule.Test
import Switchboard.Session.Basic
import Switchboard.Session.Step
import Switchboard.Settings.Basic
import Switchboard.Settings.Check
import Switchboard.Settings.Load
import Switchboard.Settings.Problem
import Switchboard.Tag.Basic
import Switchboard.Tag.Extraction
import Switchboard.Tag.Removal
import Switchboard.Text.Basic
import Switchboard.Text.Blank
import Switchboard.Text.Case
import Switchboard.Text.CaseTables
import Switchboard.Text.Identifier
import Switchboard.Text.Printable
import Switchboard.Text.Quoted
import Switchboard.Text.Ranges
import Switchboard.Text.Utf8
import Switchboard.Text.Word
import Switchboard.Tier
import Switchboard.Watch.Fingerprint
import Switchboard.Watch.Hook
import Switchboard.Watch.Polling
import Switchboard.Watch.Reloader
import Switchboard.Proofs.Trimming
import Switchboard.Proofs.Joining
import Switchboard.Proofs.Blanks
import Switchboard.Proofs.Letters
import Switchboard.Proofs.Reading
import Switchboard.Proofs.Chains
import Switchboard.Proofs.Layout
import Switchboard.Proofs.Removal
import Switchboard.Proofs.Rounds
import Switchboard.Proofs.Extraction
import Switchboard.Proofs.Aliases
import Switchboard.Proofs.Lines
import Switchboard.Proofs.Contents
import Switchboard.Proofs.Stripping
import Switchboard.Proofs.Building
import Switchboard.Proofs.Totality
import Switchboard.Proofs.Stacking
import Switchboard.Proofs.Words
import Switchboard.Proofs.Changes
import Switchboard.Proofs.Checking
import Switchboard.Proofs.Following
import Switchboard.Proofs.Interrupting
import Switchboard.Proofs.Restarting
import Switchboard.Proofs.Refusing
import Switchboard.Proofs.Compiling
import Switchboard.Proofs.Covering
import Switchboard.Proofs.Bounding
import Switchboard.Proofs.Matching
import Switchboard.Proofs.Validating
import Switchboard.Proofs.Replacing
import Switchboard.Proofs.Frame
import Switchboard.Proofs.Bypassing
import Switchboard.Proofs.Foretelling
import Switchboard.Proofs.Normalizing
import Switchboard.Proofs.Spans
import Switchboard.Proofs.Tracing
import Switchboard.Proofs.Settling
import Switchboard.Proofs.Staging
import Switchboard.Proofs.Parsing
import Switchboard.Proofs.Escaping
import Switchboard.Proofs.Lowering
import Switchboard.Proofs.Padding
import Switchboard.Proofs.Measuring
import Switchboard.Proofs.Verbatim
import Switchboard.Proofs.Shadowing
import Switchboard.Proofs.Reporting
import Switchboard.Proofs.Fallback
import Switchboard.Proofs.Previewing
import Switchboard.Proofs.Recognizing
import Switchboard.Proofs.Greeting
import Switchboard.Proofs.Assigning
import Switchboard.Proofs.Barring
import Switchboard.Proofs.Waking
import Switchboard.Proofs.Hosting
import Switchboard.Proofs.Rewriting
import Switchboard.Proofs.Spacing
import Switchboard.Proofs.Listing
import Switchboard.Proofs.Options
import Switchboard.Proofs.Naming
import Switchboard.Proofs.Locating
import Switchboard.Proofs.Keeping
