import Postbox.Main
import Postbox.Proofs.Answering
import Postbox.Proofs.Faithfulness
import Postbox.Proofs.Publication
import Postbox.Service.Memory
import Postbox.Proofs.Observation
import Postbox.Proofs.Interruption
import Postbox.Proofs.Json.Spelling
import Postbox.Proofs.Json.Tokens
import Postbox.Proofs.Json.Values
import Postbox.Proofs.Utf8
import Postbox.Proofs.Address
import Postbox.Proofs.Exchange
import Postbox.Proofs.Mirror
import Postbox.Proofs.Posting
import Postbox.Proofs.Segment
import Postbox.Proofs.Opening
import Postbox.Proofs.FileTree
import Postbox.Proofs.Toml.Texts
import Postbox.Proofs.Toml.Documents
import Postbox.Proofs.Saving
import Postbox.Proofs.Failure
import Postbox.Proofs.Encoding
import Postbox.Proofs.Collection
import Postbox.Proofs.Calling
import Postbox.Proofs.Reply
import Postbox.Proofs.Reporting
import Postbox.Proofs.Heading
import Postbox.Proofs.Steps
import Postbox.Proofs.Commanding
import Postbox.Proofs.Validity
import Postbox.Proofs.Overriding
import Postbox.Proofs.Shape
import Postbox.Proofs.Level
import Postbox.Proofs.Items
import Postbox.Proofs.Parts
import Postbox.Proofs.Placement
import Postbox.Proofs.Arguments
import Postbox.Proofs.Persisting
import Postbox.Proofs.Memory.Uses
import Postbox.Proofs.Memory.Numbering
import Postbox.Proofs.Sharing
import Postbox.Proofs.Confinement
import Postbox.Proofs.Reading
import Postbox.Proofs.Text.Cutting
import Postbox.Proofs.Printable
import Postbox.Proofs.Framing
import Postbox.Proofs.Memory.Failing
import Postbox.Proofs.Json.Grammar
import Postbox.Proofs.Acceptance
import Postbox.Proofs.Text.Tables
import Postbox.Proofs.Text.Composition
import Postbox.Proofs.Text.Normal
import Postbox.Proofs.Text.Punycode
import Postbox.Proofs.Url.Alphabet
import Postbox.Proofs.Url.Names
import Postbox.Proofs.Url.Addresses
import Postbox.Proofs.Url.Hosts
import Postbox.Proofs.Url.Settled
import Postbox.Proofs.Url.Rereading
import Postbox.Proofs.Naming
import Postbox.Proofs.Typing
import Postbox.Proofs.Rows
import Postbox.Proofs.Layout
import Postbox.Proofs.Layering
import Postbox.Proofs.Calendar
import Postbox.Proofs.Decimal.Places
import Postbox.Proofs.Timestamps
import Postbox.Proofs.Milliseconds
import Postbox.Proofs.Dates
import Postbox.Proofs.Columns
import Postbox.Proofs.Refusal
