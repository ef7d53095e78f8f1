import StreamPolicy.Audit.Reading
import StreamPolicy.Audit.Sink
import StreamPolicy.Command.Run
import StreamPolicy.Main
import StreamPolicy.Policy.Reading
import StreamPolicy.Proofs.Audit.Journal
import StreamPolicy.Proofs.Audit.Line
import StreamPolicy.Proofs.Audit.Reading
import StreamPolicy.Proofs.Audit.Session
import StreamPolicy.Proofs.Audit.Writing
import StreamPolicy.Proofs.Command.Agreement
import StreamPolicy.Proofs.Command.Check
import StreamPolicy.Proofs.Command.ClientLink
import StreamPolicy.Proofs.Command.Trail
import StreamPolicy.Proofs.File.Store
import StreamPolicy.Proofs.Gate.ClientLink
import StreamPolicy.Proofs.Gate.Resigning
import StreamPolicy.Proofs.Json.Compact
import StreamPolicy.Proofs.Json.Layout
import StreamPolicy.Proofs.Json.Members
import StreamPolicy.Proofs.Json.Number
import StreamPolicy.Proofs.Json.Outline
import StreamPolicy.Proofs.Json.Parts
import StreamPolicy.Proofs.Json.Reading
import StreamPolicy.Proofs.Link.Binding
import StreamPolicy.Proofs.Link.Coverage
import StreamPolicy.Proofs.Link.Escaping
import StreamPolicy.Proofs.Link.Expiry
import StreamPolicy.Proofs.Link.FilePart
import StreamPolicy.Proofs.Link.FirstLink
import StreamPolicy.Proofs.Link.PartAgreement
import StreamPolicy.Proofs.Link.Resource
import StreamPolicy.Proofs.Link.Separators
import StreamPolicy.Proofs.Link.Signing
import StreamPolicy.Proofs.Link.Token
import StreamPolicy.Proofs.Listing.Applicable
import StreamPolicy.Proofs.Listing.Frame
import StreamPolicy.Proofs.Listing.Hiding
import StreamPolicy.Proofs.Listing.Total
import StreamPolicy.Proofs.Policy.CustomRoutes
import StreamPolicy.Proofs.Policy.Mapping
import StreamPolicy.Proofs.Policy.Rereading
import StreamPolicy.Proofs.Request.Building
import StreamPolicy.Proofs.Request.Expression
import StreamPolicy.Proofs.Request.RemoteAddr
import StreamPolicy.Proofs.Route.AddressBlindness
import StreamPolicy.Proofs.Route.Coherence
import StreamPolicy.Proofs.Route.Precedence
import StreamPolicy.Proofs.Route.Provenance
import StreamPolicy.Proofs.Route.Reordering
import StreamPolicy.Proofs.Route.Spelling
import StreamPolicy.Proofs.Route.StorageLink
import StreamPolicy.Proofs.Rule.Blocks
import StreamPolicy.Proofs.Rule.BrokenMember
import StreamPolicy.Proofs.Rule.BrokenPattern
import StreamPolicy.Proofs.Rule.Comparing
import StreamPolicy.Proofs.Rule.Display
import StreamPolicy.Proofs.Rule.FirstMatch
import StreamPolicy.Proofs.Rule.Grammar
import StreamPolicy.Proofs.Rule.Grouping
import StreamPolicy.Proofs.Rule.Modes
import StreamPolicy.Proofs.Rule.Partition
import StreamPolicy.Proofs.Rule.Places
import StreamPolicy.Proofs.Rule.Reading
import StreamPolicy.Proofs.Text.Encoding
import StreamPolicy.Proofs.Text.Integer
import StreamPolicy.Proofs.Text.Lines
import StreamPolicy.Proofs.Text.Quoted
import StreamPolicy.Proofs.Text.Search
import StreamPolicy.Proofs.Text.Utf8
import StreamPolicy.Proofs.Time.Reading
