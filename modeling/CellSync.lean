import CellSync.Blake3
import CellSync.Bytes
import CellSync.Code
import CellSync.Command.Arguments
import CellSync.Command.Exit
import CellSync.Command.Line
import CellSync.Command.Log
import CellSync.Command.Output
import CellSync.Command.Run
import CellSync.Command.Values
import CellSync.Control
import CellSync.Digits
import CellSync.Directory
import CellSync.Entropy
import CellSync.Host
import CellSync.IoError
import CellSync.Json.Reader
import CellSync.Json.Value
import CellSync.Json.Writer
import CellSync.Login.Checkpoints
import CellSync.Login.Client
import CellSync.Login.Dialogue
import CellSync.Login.Exchange
import CellSync.Login.Host
import CellSync.Login.Message
import CellSync.Login.Secret
import CellSync.Mailbox
import CellSync.Main
import CellSync.Octets
import CellSync.Octets.Base32
import CellSync.Octets.Hex
import CellSync.Peer.Client
import CellSync.Peer.Connection
import CellSync.Peer.Delivery
import CellSync.Peer.Loopback
import CellSync.Pin.Hub
import CellSync.Pin.Request
import CellSync.Pin.Session
import CellSync.Pin.Target
import CellSync.Proofs.Digits
import CellSync.Proofs.Tx.Op
import CellSync.Proofs.Tx.RoundTrip
import CellSync.SessionError
import CellSync.TagId
import CellSync.Text.Alphanumeric
import CellSync.Text.Blank
import CellSync.Text.Cluster
import CellSync.Text.Clustering
import CellSync.Text.Columns
import CellSync.Text.Emoji
import CellSync.Text.Extending
import CellSync.Text.Ignorable
import CellSync.Text.Instant
import CellSync.Text.Joining
import CellSync.Text.Numeral
import CellSync.Text.Pattern
import CellSync.Text.Pattern.Basic
import CellSync.Text.Pattern.Depth
import CellSync.Text.Pattern.Escape
import CellSync.Text.Pattern.Matching
import CellSync.Text.Pattern.Members
import CellSync.Text.Pattern.Reader
import CellSync.Text.Quoted
import CellSync.Text.Ranges
import CellSync.Text.Record
import CellSync.Text.Span
import CellSync.Text.Unprintable
import CellSync.Text.Wide
import CellSync.Text.Width
import CellSync.Text.Wrapping
import CellSync.Tid
import CellSync.Transport.Address
import CellSync.Transport.Backlog
import CellSync.Transport.Duplex
import CellSync.Transport.Error
import CellSync.Tx.Basic
import CellSync.Tx.Error
import CellSync.Tx.Frame
import CellSync.Tx.Op
import CellSync.Tx.Reader
import CellSync.Tx.Writer
import CellSync.Proofs.Tx.Bounds
import CellSync.Proofs.Tx.Frame
import CellSync.Proofs.Tx.Canonical
import CellSync.Proofs.Tx.Stream
import CellSync.Proofs.Directory
import CellSync.Proofs.Pin.Session
import CellSync.Proofs.Pin.Following
import CellSync.Proofs.Host.Ledger
import CellSync.Proofs.Host.Interleaving
import CellSync.Proofs.Host.Delivery
import CellSync.Proofs.Host.Issuing
import CellSync.Proofs.Octets.Order
import CellSync.Proofs.Octets.Canonical
import CellSync.Proofs.Pin.Grammar
import CellSync.Proofs.Pin.Registry
import CellSync.Proofs.Pin.Disclosure
import CellSync.Proofs.Host.Closing
import CellSync.Proofs.Host.Recording
import CellSync.Proofs.Login.Agreement
import CellSync.Proofs.Mailbox
import CellSync.Proofs.Peer.Delivery
import CellSync.Proofs.Peer.Dispatch
import CellSync.Proofs.Peer.Acknowledging
import CellSync.Proofs.Peer.Answer
import CellSync.Proofs.Peer.Commit
import CellSync.Proofs.Pin.Passing
import CellSync.Proofs.Host.Limits
import CellSync.Proofs.Peer.Service
import CellSync.Proofs.Peer.Lifecycle
import CellSync.Proofs.Peer.Requests
import CellSync.Proofs.Peer.Effects
import CellSync.Proofs.Peer.Registered
import CellSync.Proofs.Peer.Sendable
import CellSync.Proofs.Tx.Torn
import CellSync.Proofs.Peer.Keeping
import CellSync.Proofs.Mailbox.Waiting
import CellSync.Proofs.Login.Secret
import CellSync.Proofs.Login.Checkpoints
import CellSync.Proofs.Host.Refusal
import CellSync.Proofs.Tx.Exact
import CellSync.Proofs.Tx.Pieces
import CellSync.Proofs.Tx.Sending
import CellSync.Proofs.Tid.Chronology
import CellSync.Proofs.Directory.Resolution
import CellSync.Proofs.Tx.Holding
import CellSync.Proofs.Command.Change
import CellSync.Proofs.Control.Payload
import CellSync.Proofs.Pin.Target
