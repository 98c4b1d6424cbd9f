import Matter.Transport.Mrp

/-! Unsecured messages and the exchange that carries a handshake over them: one message at
a time, sent again until it is answered or acknowledged. A call is a sequence of passes
through its loop. What a pass gets from the socket is its input. -/
namespace Matter.Commissioning
open Transport hiding Error

inductive DriverError where
  | io (message : String)
  | transport (error : Transport.Error)
  | timeout (exchangeId : UInt16)
  | unexpectedSecuredMessage (sessionId : SessionId)
  deriving DecidableEq, Repr

structure UnsecuredMessage where
  messageCounter : MessageCounter
  exchangeId : UInt16
  opcode : UInt8
  protocolId : ProtocolId
  isInitiator : Bool
  ackCounter : Option MessageCounter
  sourceNodeId : Option NodeId
  destinationNodeId : Option DestNodeId
  payload : Bytes
  deriving DecidableEq, Repr

def encodeUnsecured (messageCounter : MessageCounter) (exchangeId : UInt16) (opcode : UInt8)
    (protocolId : ProtocolId) (initiator reliable : Bool) (ack : Option MessageCounter)
    (sourceNodeId : Option NodeId) (appPayload : Bytes) : Bytes :=
  let header : SecuredMessageHeader :=
    { flags := if sourceNodeId.isSome then sourcePresent else 0
      sessionId := 0
      securityFlags := 0
      messageCounter, sourceNodeId
      destinationNodeId := none }
  let protocolHeader : ProtocolHeader :=
    { exchangeFlags := { initiator, reliable }
      opcode, exchangeId, protocolId
      ackCounter := ack }
  encodeHeader header ++ encodeProtocolHeader protocolHeader ++ appPayload

def decodeUnsecured (bytes : Bytes) : Except DriverError UnsecuredMessage := do
  let (header, rest) ← (decodeHeader bytes).mapError .transport
  if header.sessionId ≠ 0 then throw (.unexpectedSecuredMessage header.sessionId)
  let (protocolHeader, app) ← (decodeProtocolHeader rest).mapError .transport
  return {
    messageCounter := header.messageCounter
    exchangeId := protocolHeader.exchangeId
    opcode := protocolHeader.opcode
    protocolId := protocolHeader.protocolId
    isInitiator := protocolHeader.exchangeFlags.initiator
    ackCounter := protocolHeader.ackCounter
    sourceNodeId := header.sourceNodeId
    destinationNodeId := header.destinationNodeId
    payload := app }

def maxHandshakeRetransmitWindow : Duration := fromMillis 60000
def unsecuredResponseTimeout : Duration := fromMillis 30000
def opcodeMrpStandaloneAck : UInt8 := 0x10
def opcodeStatusReport : UInt8 := 0x40

/-- The waits that follow the first `n`, whose sum is `total`. -/
def scheduleFrom (config : MrpConfig) (cap : Duration) (n : Nat) (total : Duration) :
    Nat → List Duration
  | 0 => []
  | fuel + 1 =>
    let d := min (config.retransmitDelay (UInt8.ofNat n) false) cap
    if n ≠ 0 ∧ cap < total + d then []
    else d :: scheduleFrom config cap (n + 1) (total + d) fuel

def handshakeSchedule (config : MrpConfig) (cap : Duration) : List Duration :=
  scheduleFrom config cap 0 0 config.maxTransmissions.toNat

inductive TransportReliability where
  | mrp
  | transportProvides
  deriving DecidableEq, Repr

structure UnsecuredExchange where
  counter : MessageCounter
  exchangeId : UInt16
  sourceNodeId : NodeId
  schedule : List Duration
  budget : Duration
  spent : Duration
  responseTimeout : Duration
  lastConsumedPeerCounter : Option MessageCounter
  reliability : TransportReliability

/-- A message that is being sent, by `send_and_recv_any` with the opcodes it awaits or by
`send_and_await_ack`. The times it was put on the wire are counted. -/
structure Sending where
  awaits : Option (List UInt8)
  counter : MessageCounter
  wire : Bytes
  attempts : Nat := 0
  acked : Bool := false
  sends : Nat := 0

/-- What the socket does in one pass: it fails, nothing comes in time, or a packet comes
after a while. A repeated send at the end of a wait may fail. -/
inductive Round where
  | failed (error : String)
  | elapsed (resend : Except String Unit)
  | packet (after : Duration) (bytes : Bytes)

inductive Pass where
  | going (x : UnsecuredExchange) (s : Sending)
  | replied (x : UnsecuredExchange) (result : Except DriverError UnsecuredMessage)
  | ended (x : UnsecuredExchange) (result : Except DriverError Bool)

inductive Heard where
  | skipped
  | undecodable (error : DriverError)
  | ack (message : UnsecuredMessage)
  | other (message : UnsecuredMessage)

namespace UnsecuredExchange

def newWithMrp (initialCounter : MessageCounter) (exchangeId : UInt16) (sourceNodeId : NodeId)
    (peerMrp : MrpConfig) (reliability : TransportReliability) : UnsecuredExchange where
  counter := initialCounter
  exchangeId := exchangeId
  sourceNodeId := sourceNodeId
  schedule := handshakeSchedule peerMrp maxHandshakeRetransmitWindow
  budget := (handshakeSchedule peerMrp maxHandshakeRetransmitWindow).sum
  spent := 0
  responseTimeout := unsecuredResponseTimeout
  lastConsumedPeerCounter := none
  reliability := reliability

/-- Time already waited is not given back. -/
def resizePeerMrp (x : UnsecuredExchange) (peerMrp : MrpConfig) : UnsecuredExchange :=
  let schedule := handshakeSchedule peerMrp maxHandshakeRetransmitWindow
  { x with budget := schedule.sum - x.spent, schedule := schedule }

/-- The message with the next counter, encoded. -/
def message (x : UnsecuredExchange) (opcode : UInt8) (appPayload : Bytes)
    (ack : Option MessageCounter) (awaits : Option (List UInt8)) : Sending × UnsecuredExchange :=
  let reliable := decide (x.reliability = .mrp)
  let wire := encodeUnsecured x.counter x.exchangeId opcode .secureChannel true reliable
    (if reliable then ack else none) (some x.sourceNodeId) appPayload
  ({ awaits, counter := x.counter, wire }, { x with counter := x.counter + 1 })

/-- Packets of secured sessions, of other exchanges and for other attempts are skipped. -/
def sieve (x : UnsecuredExchange) (packet : Bytes) : Heard :=
  if 3 ≤ packet.length ∧ (packet.getD 1 0 ≠ 0 ∨ packet.getD 2 0 ≠ 0) then .skipped
  else match decodeUnsecured packet with
    | .error e => .undecodable e
    | .ok msg =>
      if msg.exchangeId ≠ x.exchangeId then .skipped
      else if msg.destinationNodeId.any fun dest => dest ≠ .node x.sourceNodeId then .skipped
      else if msg.protocolId = .secureChannel ∧ msg.opcode = opcodeMrpStandaloneAck then .ack msg
      else .other msg

/-- Messages that were consumed before, and steps that are not awaited, are skipped too. -/
def hear (x : UnsecuredExchange) (expectedOpcodes : List UInt8) (packet : Bytes) : Heard :=
  match x.sieve packet with
  | .other msg =>
    if x.lastConsumedPeerCounter.any fun last => msg.messageCounter ≤ last then .skipped
    else if msg.protocolId = .secureChannel ∧ msg.opcode ∉ expectedOpcodes ∧
      msg.opcode ≠ opcodeStatusReport then .skipped
    else .other msg
  | heard => heard

def spend (x : UnsecuredExchange) (wait : Duration) : UnsecuredExchange :=
  { x with budget := x.budget - wait, spent := x.spent + wait }

/-- The wait after the transmissions made so far, while there is one. -/
def retransmitWait (x : UnsecuredExchange) (s : Sending) : Option Duration :=
  x.schedule[s.attempts]?.map fun d => min d x.budget

/-- The message is not sent again: the transport is reliable, or it was acknowledged. -/
def settled (x : UnsecuredExchange) (s : Sending) : Bool :=
  decide (x.reliability = .transportProvides) || s.acked

def shouldSend (x : UnsecuredExchange) (s : Sending) : Bool :=
  if x.reliability = .transportProvides then decide (s.sends = 0) else !s.acked

def recvWait (x : UnsecuredExchange) (s : Sending) : Option Duration :=
  if x.settled s then some x.responseTimeout else x.retransmitWait s

/-- A pass of `send_and_recv_any` after the send, with the wait it allows. -/
def recvWithin (x : UnsecuredExchange) (s : Sending) (expectedOpcodes : List UInt8)
    (wait : Duration) : Round → Pass
  | .failed e => .replied x (.error (.io e))
  | .packet _ bytes =>
    match x.hear expectedOpcodes bytes with
    | .skipped => .going x s
    | .undecodable e => .replied x (.error e)
    | .ack _ => .going x { s with acked := true }
    | .other msg =>
      .replied { x with lastConsumedPeerCounter := some msg.messageCounter } (.ok msg)
  | .elapsed _ =>
    if x.settled s then .replied x (.error (.timeout x.exchangeId))
    else if x.schedule.length ≤ s.attempts + 1 ∨ (x.spend wait).budget = 0 then
      .replied (x.spend wait) (.error (.timeout x.exchangeId))
    else .going (x.spend wait) { s with attempts := s.attempts + 1 }

/-- One pass of `send_and_recv_any`. -/
def recvPass (x : UnsecuredExchange) (s : Sending) (expectedOpcodes : List UInt8)
    (round : Round) : Pass :=
  let s := if x.shouldSend s then { s with sends := s.sends + 1 } else s
  match x.recvWait s with
  | none => .replied x (.error (.timeout x.exchangeId))
  | some wait => x.recvWithin s expectedOpcodes wait round

/-- One pass of `send_and_await_ack`. -/
def ackPass (x : UnsecuredExchange) (s : Sending) (round : Round) : Pass :=
  match x.retransmitWait s with
  | none => .ended x (.ok false)
  | some wait =>
    match round with
    | .failed e => .ended x (.error (.io e))
    | .packet _ bytes =>
      match x.sieve bytes with
      | .ack _ => .ended x (.ok true)
      | _ => .going x s
    | .elapsed resend =>
      if x.schedule.length ≤ s.attempts + 1 ∨ (x.spend wait).budget = 0 then
        .ended (x.spend wait) (.ok false)
      else match resend with
        | .error e => .ended (x.spend wait) (.error (.io e))
        | .ok () =>
          .going (x.spend wait) { s with attempts := s.attempts + 1, sends := s.sends + 1 }

def pass (x : UnsecuredExchange) (s : Sending) (round : Round) : Pass :=
  match s.awaits with
  | some expectedOpcodes => x.recvPass s expectedOpcodes round
  | none => x.ackPass s round

end UnsecuredExchange

/-! Handshakes. -/

/-- A handshake over one exchange: the message that is being sent, the messages that were
returned with the opcodes they were awaited under, and the time that was waited for messages
that were not acknowledged. -/
structure Handshake where
  exchange : UnsecuredExchange
  sending : Option Sending := none
  returned : List (List UInt8 × UnsecuredMessage) := []
  waited : Duration := 0

inductive Input where
  | sendAndRecvAny (opcode : UInt8) (expectedOpcodes : List UInt8) (appPayload : Bytes)
      (ack : Option MessageCounter)
  /-- The first send is made at once and may fail. -/
  | sendAndAwaitAck (opcode : UInt8) (appPayload : Bytes) (ack : Option MessageCounter)
      (send : Except String Unit)
  | sendStandaloneAck (peerCounter : MessageCounter)
  | resizePeerMrp (peerMrp : MrpConfig)
  | round (round : Round)

namespace Handshake

/-- The time that a round takes while the message is not acknowledged. -/
def elapses (h : Handshake) (s : Sending) (round : Round) : Duration :=
  if s.acked then 0
  else match round with
    | .failed _ => 0
    | .elapsed _ => (h.exchange.retransmitWait s).getD 0
    | .packet after _ => after

def receive (h : Handshake) (s : Sending) (round : Round) : Handshake :=
  let waited := h.waited + h.elapses s round
  match h.exchange.pass s round with
  | .going x s => { h with exchange := x, sending := some s, waited := waited }
  | .replied x result =>
    { exchange := x, sending := none, waited := waited
      returned := h.returned ++ match result, s.awaits with
        | .ok msg, some expected => [(expected, msg)]
        | _, _ => [] }
  | .ended x _ => { h with exchange := x, sending := none, waited := waited }

/-- The calls borrow the exchange, so one ends before the next begins. -/
def next (h : Handshake) (input : Input) : Handshake :=
  match h.sending, input with
  | some s, .round round => h.receive s round
  | none, .sendAndRecvAny opcode expectedOpcodes appPayload ack =>
    let (s, x) := h.exchange.message opcode appPayload ack (some expectedOpcodes)
    { h with exchange := x, sending := some s }
  | none, .sendAndAwaitAck opcode appPayload ack send =>
    let (s, x) := h.exchange.message opcode appPayload ack none
    if x.reliability = .transportProvides ∨ send ≠ .ok () then { h with exchange := x }
    else { h with exchange := x, sending := some { s with sends := 1 } }
  | none, .sendStandaloneAck _ =>
    if h.exchange.reliability = .transportProvides then h
    else { h with exchange := { h.exchange with counter := h.exchange.counter + 1 } }
  | none, .resizePeerMrp peerMrp => { h with exchange := h.exchange.resizePeerMrp peerMrp }
  | _, _ => h

end Handshake

end Matter.Commissioning
