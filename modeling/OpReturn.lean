import OpReturn.Main
import OpReturn.Proofs.Envelope.Extended
import OpReturn.Proofs.Envelope.RoundTrip
import OpReturn.Proofs.Node.Status
import OpReturn.Proofs.Record.Attributes
import OpReturn.Proofs.Record.Built
import OpReturn.Proofs.Record.Canonical
import OpReturn.Proofs.Record.Chained
import OpReturn.Proofs.Record.Covered
import OpReturn.Proofs.Record.Detached
import OpReturn.Proofs.Record.Digest
import OpReturn.Proofs.Record.EntryByEntry
import OpReturn.Proofs.Record.Identity
import OpReturn.Proofs.Record.Index
import OpReturn.Proofs.Record.Later
import OpReturn.Proofs.Record.Legible
import OpReturn.Proofs.Record.Listed
import OpReturn.Proofs.Record.Message
import OpReturn.Proofs.Record.Normal
import OpReturn.Proofs.Record.Placed
import OpReturn.Proofs.Record.Rewritten
import OpReturn.Proofs.Record.Searched
import OpReturn.Proofs.Record.Stored
import OpReturn.Proofs.Record.Total
import OpReturn.Proofs.Record.Trace
import OpReturn.Proofs.Record.Verdict
import OpReturn.Proofs.Script.Modes
import OpReturn.Proofs.Script.Pushes
import OpReturn.Proofs.Script.Written
import OpReturn.Proofs.Secp256k1.Key
import OpReturn.Proofs.Secp256k1.Recovery
import OpReturn.Proofs.Server.Agreement
import OpReturn.Proofs.SignedMessage.Address
import OpReturn.Proofs.SignedMessage.Changed
import OpReturn.Proofs.SignedMessage.Published
import OpReturn.Proofs.SignedMessage.Signed
import OpReturn.Proofs.SignedMessage.Transport
import OpReturn.Proofs.SignedMessage.Verified
import OpReturn.Proofs.Success
import OpReturn.Proofs.Text.Base58
import OpReturn.Proofs.Text.Base64
import OpReturn.Proofs.Text.Decimal
import OpReturn.Proofs.Text.Hex
import OpReturn.Proofs.Text.Respelled
import OpReturn.Proofs.Text.Strict
import OpReturn.Proofs.Text.Utf8
import OpReturn.Proofs.Transaction.Appended
import OpReturn.Proofs.Transaction.Carried
import OpReturn.Proofs.Transaction.Outcome
import OpReturn.Proofs.Transaction.Outpoint
import OpReturn.Proofs.Transaction.RoundTrip
import OpReturn.Record
import OpReturn.Server.Line
import OpReturn.Server.Tools
