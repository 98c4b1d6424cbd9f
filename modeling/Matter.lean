import Matter.Asn1.Der
import Matter.Base.Calendar
import Matter.Base.Digits
import Matter.Base.Exits
import Matter.Base.LittleEndian
import Matter.Base.Logs
import Matter.Base.Phases
import Matter.Base.Runs
import Matter.Base.Tables
import Matter.Bdx.Messages
import Matter.Bdx.Sender
import Matter.Ble.Delivery
import Matter.Ble.Fragments
import Matter.Ble.Overdue
import Matter.Ble.Session
import Matter.Ble.Window
import Matter.Case.Authentication
import Matter.Case.Initiator
import Matter.Case.Messages
import Matter.Case.Moves
import Matter.Case.Responder
import Matter.Cert.Binding
import Matter.Cert.Certificate
import Matter.Cert.Chain
import Matter.Cert.FromTlv
import Matter.Cert.Members
import Matter.Cert.Profile
import Matter.Cert.RoundTrip
import Matter.Cert.Tree
import Matter.Cert.X509
import Matter.Codec.Appends
import Matter.Codec.Calls
import Matter.Codec.Canonical
import Matter.Codec.Elements
import Matter.Codec.Grammar
import Matter.Codec.Members
import Matter.Codec.Parsing
import Matter.Codec.Reader
import Matter.Codec.RoundTrip
import Matter.Codec.Skip
import Matter.Codec.Slots
import Matter.Codec.Splices
import Matter.Codec.Strict
import Matter.Codec.Tlv
import Matter.Codec.Writer
import Matter.Commissioning.Anchors
import Matter.Commissioning.Attestation
import Matter.Commissioning.Checks
import Matter.Commissioning.Commands
import Matter.Commissioning.Commissioner
import Matter.Commissioning.Errors
import Matter.Commissioning.Failure
import Matter.Commissioning.Handshakes
import Matter.Commissioning.History
import Matter.Commissioning.Issuing
import Matter.Commissioning.Noc
import Matter.Commissioning.Ordering
import Matter.Commissioning.SetupCode
import Matter.Commissioning.Steps
import Matter.Commissioning.Trails
import Matter.Controller.AccessControl
import Matter.Controller.CheckIn
import Matter.Controller.Durability
import Matter.Controller.Edits
import Matter.Controller.GroupCounters
import Matter.Controller.NodeIds
import Matter.Controller.Persistence
import Matter.Controller.Provider
import Matter.Controller.Reassembler
import Matter.Controller.Rollback
import Matter.Controller.Snapshot
import Matter.Crypto.Aes
import Matter.Crypto.Ccm
import Matter.Handshake.Encoding
import Matter.Handshake.Fields
import Matter.Interaction.Accumulator
import Matter.Interaction.Ceiling
import Matter.Interaction.Invoke
import Matter.Interaction.ListWrite
import Matter.Interaction.Messages
import Matter.Interaction.Reports
import Matter.Interaction.Responses
import Matter.Pase.Agreement
import Matter.Pase.Codec
import Matter.Pase.Messages
import Matter.Pase.Moves
import Matter.Pase.Order
import Matter.Pase.Prover
import Matter.Pase.SmallSuite
import Matter.Pase.Spake2p
import Matter.Pase.Verifier
import Matter.Setup.Payload
import Matter.Transport.Debts
import Matter.Transport.Delivery
import Matter.Transport.Emission
import Matter.Transport.Exchanges
import Matter.Transport.Flood
import Matter.Transport.Framing
import Matter.Transport.Isolation
import Matter.Transport.Ledger
import Matter.Transport.Mrp
import Matter.Transport.Nonces
import Matter.Transport.Operations
import Matter.Transport.ProtocolHeader
import Matter.Transport.Registry
import Matter.Transport.ReliableTransport
import Matter.Transport.ReplayWindow
import Matter.Transport.Retransmission
import Matter.Transport.Schedule
import Matter.Transport.Secured
import Matter.Transport.Session
import Matter.Transport.Timers
import Matter.Ble.Bookkeeping
import Matter.Setup.Base38
