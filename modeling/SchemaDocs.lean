import SchemaDocs.Json.Parser
import SchemaDocs.Json.Printer
import SchemaDocs.Introspection.Document
import SchemaDocs.Text.Blank
import SchemaDocs.Text.Line
import SchemaDocs.Text.Sorted
import SchemaDocs.Unicode.Lower
import SchemaDocs.Unicode.Composed
import SchemaDocs.Url.Domain.Basic
import SchemaDocs.Url.Ipv6
import SchemaDocs.Page.Base
import SchemaDocs.Page.Render
import SchemaDocs.Overview
import SchemaDocs.Sdl.Schema
import SchemaDocs.Similarity
import SchemaDocs.Log.Filter
import SchemaDocs.Main
import SchemaDocs.Proofs.Schema.Target
import SchemaDocs.Proofs.Text.Delimited
import SchemaDocs.Proofs.Text.Lines
import SchemaDocs.Proofs.Text.Markup
import SchemaDocs.Proofs.Text.Folded
import SchemaDocs.Proofs.Json.Number
import SchemaDocs.Proofs.Json.Roundtrip
import SchemaDocs.Proofs.Json.Line
import SchemaDocs.Proofs.Json.Size
import SchemaDocs.Proofs.Page.Reading
import SchemaDocs.Proofs.Page.Locality
import SchemaDocs.Proofs.Page.Navigation
import SchemaDocs.Proofs.Page.Clean
import SchemaDocs.Proofs.Page.Hidden
import SchemaDocs.Proofs.Introspection.Acceptance
import SchemaDocs.Proofs.Introspection.Spelling
import SchemaDocs.Proofs.Introspection.Standard
import SchemaDocs.Proofs.Introspection.Agreement
import SchemaDocs.Proofs.Introspection.Damage
import SchemaDocs.Proofs.Sdl.Layers
import SchemaDocs.Proofs.Sdl.WellNamed
import SchemaDocs.Proofs.Url.Ipv4
import SchemaDocs.Proofs.Url.Ipv6
import SchemaDocs.Proofs.Url.Punycode
import SchemaDocs.Proofs.Url.Domain
import SchemaDocs.Proofs.Page.Base
import SchemaDocs.Proofs.Page.Rows
import SchemaDocs.Proofs.Page.Address
import SchemaDocs.Proofs.Page.Cells
import SchemaDocs.Proofs.Overview.Entries
import SchemaDocs.Proofs.CommandLine.Listing
import SchemaDocs.Proofs.CommandLine.Size
import SchemaDocs.Proofs.CommandLine.Formats
import SchemaDocs.Proofs.CommandLine.Clean
import SchemaDocs.Proofs.CommandLine.Colours
import SchemaDocs.Proofs.CommandLine.Plain
import SchemaDocs.Proofs.Similarity.Closest
import SchemaDocs.Proofs.Page.Blocks
import SchemaDocs.Proofs.Page.Header
import SchemaDocs.Proofs.Page.Nameless
import SchemaDocs.Proofs.Schema.Target
import SchemaDocs.Proofs.Url.Insertions
