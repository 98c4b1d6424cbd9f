import Matter.Transport.Mrp
import Matter.Transport.ReplayWindow
import Mathlib.Data.List.MinMax
import Mathlib.Data.Prod.Lex

/-! Secure sessions and the manager that multiplexes them: sending, receiving,
timers, and ending exchanges. A failed call returns its error beside the state it
leaves, since an inbound packet is recorded before it is processed. -/
namespace Matter.Transport
open Crypto

inductive SessionRole where
  | initiator
  | responder
deriving DecidableEq, Repr

structure SessionKeys where
  i2rKey : Bytes
  r2iKey : Bytes
deriving DecidableEq, Repr

inductive MrpEvent where
  | retransmit (sessionId : SessionId) (exchangeId : UInt16) (counter : MessageCounter)
      (packet : Bytes)
  | sendStandaloneAck (sessionId : SessionId) (exchangeId : UInt16) (packet : Bytes)
  | expired (sessionId : SessionId) (exchangeId : UInt16) (counter : MessageCounter)
  | sessionCounterExhausted (sessionId : SessionId) (exchangeId : UInt16)
      (ackCounter : MessageCounter)
deriving DecidableEq, Repr

def MrpEvent.sessionId : MrpEvent → SessionId
  | .retransmit id .. | .sendStandaloneAck id .. | .expired id .. | .sessionCounterExhausted id .. => id

structure Session where
  localId : SessionId
  peerId : SessionId
  role : SessionRole
  keys : SessionKeys
  outboundCounter : UInt32
  replayWindow : ReplayWindow
  localNonceNodeId : NodeId
  peerNonceNodeId : NodeId
  mrp : MrpState
  transportReliable : Bool
  createdSeq : UInt64

structure EncodeOutboundOutput where
  wireBytes : Bytes
  exchangeId : UInt16
  isLocalInitiator : Bool
  messageCounter : MessageCounter
  piggybackAcked : Bool
deriving DecidableEq, Repr

inductive DecodeInboundOutput where
  | appMessage (sessionId : SessionId) (exchangeId : UInt16) (isInitiator : Bool)
      (protocolId : ProtocolId) (opcode : UInt8) (payload : Bytes)
  | ackOnly (sessionId : SessionId) (exchangeId : UInt16) (ackedCounter : MessageCounter)
  | duplicateReliableAckResent (sessionId : SessionId) (exchangeId : UInt16) (ackPacket : Bytes)
deriving DecidableEq, Repr

inductive OutboundExchange where
  | new
  | byId (id : UInt16)
  | exact (exchange : ExchangeKey)
deriving DecidableEq, Repr

inductive ExchangeTarget where
  | byId (id : UInt16)
  | exact (exchange : ExchangeKey)
deriving DecidableEq, Repr

/-- What a caller asks to send. -/
structure Message where
  opcode : UInt8
  protocolId : ProtocolId
  appPayload : Bytes
  mrpFlags : MrpFlags
deriving DecidableEq, Repr

def u32Max : UInt32 := 0xFFFFFFFF

namespace Session

def outboundKey (s : Session) : Bytes :=
  match s.role with
  | .initiator => s.keys.i2rKey
  | .responder => s.keys.r2iKey

def inboundKey (s : Session) : Bytes :=
  match s.role with
  | .initiator => s.keys.r2iKey
  | .responder => s.keys.i2rKey

variable (aead : Aead)

/-- Encrypt a payload under the next counter. -/
def encryptNext (s : Session) (payload : Bytes) : Except Error Bytes :=
  encodeSecured aead (plainHeader s.peerId s.outboundCounter) payload s.outboundKey
    s.localNonceNodeId

def outboundExchange (s : Session) (nextExchangeId : UInt16) : OutboundExchange → ExchangeKey
  | .new => ⟨nextExchangeId, true⟩
  | .byId id => s.mrp.resolve id
  | .exact exchange => exchange

/-- A transport that is reliable itself overrides the caller's flag. -/
def effectiveReliable (s : Session) (message : Message) : Bool :=
  message.mrpFlags.reliable && !s.transportReliable

/-- The payload of a message with its protocol header, before anything is committed. -/
def prepare (s : Session) (nextExchangeId : UInt16) (target : OutboundExchange)
    (message : Message) : PreparedOutbound :=
  s.mrp.buildOutbound message.opcode message.protocolId
    (s.outboundExchange nextExchangeId target) message.appPayload ⟨s.effectiveReliable message⟩

/-- Record that a prepared message went out as `wireBytes`. -/
def commitSend (s : Session) (prepared : PreparedOutbound) (wireBytes : Bytes) (reliable : Bool)
    (now : Instant) : Session :=
  { s with
    mrp := (s.mrp.commitOutbound prepared).markPacketSentOn s.outboundCounter prepared.exchange
      (if reliable then wireBytes else []) reliable now
    outboundCounter := s.outboundCounter + 1 }

def encodeOn (s : Session) (nextExchangeId : UInt16) (target : OutboundExchange) (message : Message)
    (now : Instant) : Except Error EncodeOutboundOutput × Session :=
  if s.outboundCounter = u32Max then (.error .counterOverflow, s)
  else
    let prepared := s.prepare nextExchangeId target message
    match s.encryptNext aead prepared.wirePayload with
    | .error e => (.error e, s)
    | .ok wireBytes =>
      (.ok {
        wireBytes := wireBytes
        exchangeId := prepared.exchangeId
        isLocalInitiator := prepared.isLocalInitiator
        messageCounter := s.outboundCounter
        piggybackAcked := prepared.piggybackAcked },
      s.commitSend prepared wireBytes (s.effectiveReliable message) now)

def buildStandaloneAckPacket (s : Session) (exchangeId : UInt16) (ackCounter : MessageCounter)
    (isLocalInitiator : Bool) : Except Error Bytes × Session :=
  if s.outboundCounter = u32Max then (.error .counterOverflow, s)
  else
    let header := buildStandaloneAckHeader exchangeId ackCounter isLocalInitiator
    match s.encryptNext aead (encodeProtocolHeader header) with
    | .error e => (.error e, s)
    | .ok packet => (.ok packet, { s with outboundCounter := s.outboundCounter + 1 })

def answerDuplicate (s : Session) (sessionId : SessionId) (counter : MessageCounter)
    (plaintext : Bytes) (replayErr : Error) : Except Error DecodeInboundOutput × Session :=
  match decodeProtocolHeader plaintext with
  | .error e => (.error e, s)
  | .ok (header, _) =>
    if !header.exchangeFlags.reliable || s.transportReliable then (.error replayErr, s)
    else
      match s.buildStandaloneAckPacket aead header.exchangeId counter
        (!header.exchangeFlags.initiator) with
      | (.error e, s) => (.error e, s)
      | (.ok ackPacket, s) =>
        (.ok (.duplicateReliableAckResent sessionId header.exchangeId ackPacket),
          { s with mrp := s.mrp.forgetAckFor counter })

/-- A message the replay window accepted. -/
def deliver (s : Session) (sessionId : SessionId) (counter : MessageCounter) (plaintext : Bytes)
    (now : Instant) : Except Error DecodeInboundOutput × Session :=
  let processed := s.mrp.processInbound plaintext counter now
  let s := { s with mrp := processed.2 }
  match processed.1 with
  | .error e => (.error e, s)
  | .ok (.appMessage exchangeId isInitiator protocolId opcode payload) =>
    (.ok (.appMessage sessionId exchangeId isInitiator protocolId opcode payload),
      { s with mrp :=
        if s.transportReliable then
          s.mrp.cancelPendingOutboundAck (.ofInbound exchangeId isInitiator)
        else s.mrp })
  | .ok (.ackOnly exchangeId ackedCounter) => (.ok (.ackOnly sessionId exchangeId ackedCounter), s)
  | .ok (.duplicateReliable ..) => (.error .decryptionFailed, s)

/-- A packet addressed to this session, its header already parsed. The counter is
recorded before the message is processed. -/
def receive (s : Session) (packet : Bytes) (header : SecuredMessageHeader) (headerLen : Nat)
    (now : Instant) : Except Error DecodeInboundOutput × Session :=
  match decryptSecuredWithHeader aead packet header headerLen s.inboundKey s.peerNonceNodeId with
  | .error e => (.error e, s)
  | .ok plaintext =>
    match s.replayWindow.checkAndRecord header.messageCounter with
    | (.ok (), window) =>
      ({ s with replayWindow := window }).deliver header.sessionId header.messageCounter plaintext
        now
    | (.error replayErr, window) =>
      ({ s with replayWindow := window }).answerDuplicate aead header.sessionId
        header.messageCounter plaintext replayErr

/-- The header and plaintext of a packet that authenticates under the session's
inbound key. -/
def authenticate (s : Session) (packet : Bytes) : Except Error (SecuredMessageHeader × Bytes) :=
  match decodeHeader packet with
  | .error e => .error e
  | .ok (header, rest) =>
    match decryptSecuredWithHeader aead packet header (packet.length - rest.length) s.inboundKey
      s.peerNonceNodeId with
    | .error e => .error e
    | .ok plaintext => .ok (header, plaintext)

def foldTimerEvent (s : Session) (sessionId : SessionId) :
    MrpTimerEvent → Option MrpEvent × Session
  | .retransmit exchangeId counter packet =>
    (some (.retransmit sessionId exchangeId counter packet), s)
  | .expired exchangeId counter => (some (.expired sessionId exchangeId counter), s)
  | .standaloneAckDeadlineFired exchangeId ackCounter isLocalInitiator =>
    match s.buildStandaloneAckPacket aead exchangeId ackCounter isLocalInitiator with
    | (.ok packet, s) => (some (.sendStandaloneAck sessionId exchangeId packet), s)
    | (.error .counterOverflow, s) =>
      (some (.sessionCounterExhausted sessionId exchangeId ackCounter), s)
    | (.error _, s) => (none, s)

def foldTimerEvents (s : Session) (sessionId : SessionId) :
    List MrpTimerEvent → List MrpEvent × Session
  | [] => ([], s)
  | event :: rest =>
    let folded := s.foldTimerEvent aead sessionId event
    let more := folded.2.foldTimerEvents sessionId rest
    (folded.1.toList ++ more.1, more.2)

def handleTimeout (s : Session) (sessionId : SessionId) (now : Instant)
    (order : List MessageCounter) : List MrpEvent × Session :=
  let timer := s.mrp.handleTimeout now order
  ({ s with mrp := timer.2 }).foldTimerEvents aead sessionId timer.1

def targetExchange (s : Session) : ExchangeTarget → ExchangeKey
  | .byId id => s.mrp.resolve id
  | .exact exchange => exchange

def endExchange (s : Session) (sessionId : SessionId) (target : ExchangeTarget) (abort : Bool) :
    List MrpEvent × Session :=
  let exchange := s.targetExchange target
  let flushed := s.mrp.flushExchangeAcksOn exchange
  let mrp := if abort then flushed.2.closeExchangeOn exchange else flushed.2
  ({ s with mrp := mrp }).foldTimerEvents aead sessionId flushed.1

def flushAcks (s : Session) (sessionId : SessionId) : List MrpEvent × Session :=
  let flushed := s.mrp.flushAllAcks
  ({ s with mrp := flushed.2 }).foldTimerEvents aead sessionId flushed.1

theorem encryptNext_standaloneAck (s : Session) (exchangeId : UInt16) (ackCounter : MessageCounter)
    (isLocalInitiator : Bool) :
    ∃ packet, s.encryptNext aead (encodeProtocolHeader
      (buildStandaloneAckHeader exchangeId ackCounter isLocalInitiator)) = .ok packet := by
  apply encodeSecured_plain
  simp [encodeProtocolHeader, ProtocolHeader.vendorBytes, ProtocolHeader.ackBytes,
    buildStandaloneAckHeader, ProtocolId.secureChannel, maxPayloadLen]

/-- The ways a send ends. -/
inductive Encoded (aead : Aead) (s : Session) (nextExchangeId : UInt16) (target : OutboundExchange)
    (message : Message) (now : Instant) : Except Error EncodeOutboundOutput × Session → Prop where
  | overflow (spent : s.outboundCounter = u32Max) :
      Encoded aead s nextExchangeId target message now (.error .counterOverflow, s)
  | refused {e : Error} (spare : s.outboundCounter ≠ u32Max)
      (failed : s.encryptNext aead (s.prepare nextExchangeId target message).wirePayload = .error e) :
      Encoded aead s nextExchangeId target message now (.error e, s)
  | sent {wireBytes : Bytes} (spare : s.outboundCounter ≠ u32Max)
      (encrypted :
        s.encryptNext aead (s.prepare nextExchangeId target message).wirePayload = .ok wireBytes) :
      Encoded aead s nextExchangeId target message now
        (.ok {
          wireBytes := wireBytes
          exchangeId := (s.prepare nextExchangeId target message).exchangeId
          isLocalInitiator := (s.prepare nextExchangeId target message).isLocalInitiator
          messageCounter := s.outboundCounter
          piggybackAcked := (s.prepare nextExchangeId target message).piggybackAcked },
        s.commitSend (s.prepare nextExchangeId target message) wireBytes
          (s.effectiveReliable message) now)

theorem encodeOn_cases (s : Session) (nextExchangeId : UInt16) (target : OutboundExchange)
    (message : Message) (now : Instant) :
    Encoded aead s nextExchangeId target message now
      (s.encodeOn aead nextExchangeId target message now) := by
  unfold encodeOn
  split
  · exact .overflow (by assumption)
  · simp only
    split
    · exact .refused (by assumption) (by assumption)
    · exact .sent (by assumption) (by assumption)

/-- The ways a packet for a session is handled. The window changes in the second
case only. -/
inductive Received (aead : Aead) (s : Session) (packet : Bytes) (header : SecuredMessageHeader)
    (headerLen : Nat) (now : Instant) : Except Error DecodeInboundOutput × Session → Prop where
  | unauthentic (failed : decryptSecuredWithHeader aead packet header headerLen s.inboundKey
        s.peerNonceNodeId = .error e) :
      Received aead s packet header headerLen now (.error e, s)
  | fresh (authentic : decryptSecuredWithHeader aead packet header headerLen s.inboundKey
        s.peerNonceNodeId = .ok plaintext)
      (accepted : s.replayWindow.classify header.messageCounter = .ok ()) :
      Received aead s packet header headerLen now
        (({ s with replayWindow := s.replayWindow.record header.messageCounter }).deliver
          header.sessionId header.messageCounter plaintext now)
  | stale (authentic : decryptSecuredWithHeader aead packet header headerLen s.inboundKey
        s.peerNonceNodeId = .ok plaintext)
      (rejected : s.replayWindow.classify header.messageCounter = .error replayErr) :
      Received aead s packet header headerLen now
        (s.answerDuplicate aead header.sessionId header.messageCounter plaintext replayErr)

theorem receive_cases (s : Session) (packet : Bytes) (header : SecuredMessageHeader)
    (headerLen : Nat) (now : Instant) :
    Received aead s packet header headerLen now (s.receive aead packet header headerLen now) := by
  unfold receive
  split
  · exact .unauthentic (by assumption)
  · rename_i plaintext authentic
    unfold ReplayWindow.checkAndRecord
    cases verdict : s.replayWindow.classify header.messageCounter with
    | error replayErr => exact .stale authentic verdict
    | ok => exact .fresh authentic verdict

/-- The ways a message outside the window is answered. -/
inductive Answered (aead : Aead) (s : Session) (sessionId : SessionId) (counter : MessageCounter)
    (plaintext : Bytes) (replayErr : Error) : Except Error DecodeInboundOutput × Session → Prop where
  | malformed (decoded : decodeProtocolHeader plaintext = .error e) :
      Answered aead s sessionId counter plaintext replayErr (.error e, s)
  | silent (decoded : decodeProtocolHeader plaintext = .ok (header, appPayload))
      (unwanted : header.exchangeFlags.reliable = false ∨ s.transportReliable = true) :
      Answered aead s sessionId counter plaintext replayErr (.error replayErr, s)
  | overflow (decoded : decodeProtocolHeader plaintext = .ok (header, appPayload))
      (reliable : header.exchangeFlags.reliable = true) (unreliable : s.transportReliable = false)
      (spent : s.outboundCounter = u32Max) :
      Answered aead s sessionId counter plaintext replayErr (.error .counterOverflow, s)
  | resent (decoded : decodeProtocolHeader plaintext = .ok (header, appPayload))
      (reliable : header.exchangeFlags.reliable = true) (unreliable : s.transportReliable = false)
      (spare : s.outboundCounter ≠ u32Max)
      (encrypted : s.encryptNext aead (encodeProtocolHeader (buildStandaloneAckHeader
        header.exchangeId counter (!header.exchangeFlags.initiator))) = .ok ackPacket) :
      Answered aead s sessionId counter plaintext replayErr
        (.ok (.duplicateReliableAckResent sessionId header.exchangeId ackPacket),
          { s with
            outboundCounter := s.outboundCounter + 1
            mrp := s.mrp.forgetAckFor counter })

theorem answerDuplicate_cases (s : Session) (sessionId : SessionId) (counter : MessageCounter)
    (plaintext : Bytes) (replayErr : Error) :
    Answered aead s sessionId counter plaintext replayErr
      (s.answerDuplicate aead sessionId counter plaintext replayErr) := by
  unfold answerDuplicate
  split
  · exact .malformed (by assumption)
  · rename_i header appPayload decoded
    split
    · rename_i unwanted
      exact .silent decoded (by simpa using unwanted)
    · rename_i wanted
      obtain ⟨reliable, unreliable⟩ : header.exchangeFlags.reliable = true ∧
          s.transportReliable = false := by simpa using wanted
      unfold buildStandaloneAckPacket
      by_cases spent : s.outboundCounter = u32Max
      · rw [if_pos spent]
        exact .overflow decoded reliable unreliable spent
      · rw [if_neg spent]
        obtain ⟨ackPacket, encrypted⟩ := s.encryptNext_standaloneAck aead
          header.exchangeId counter (!header.exchangeFlags.initiator)
        simp only [encrypted]
        exact .resent decoded reliable unreliable spent encrypted

end Session

structure SessionManager where
  sessions : Table SessionId Session
  nextSeq : UInt64
  maxSessions : Nat
  nextExchangeId : UInt16

/-- The random draws a registration makes: the first message counter and the seed
of the retransmission jitter. -/
structure Draws where
  counterBytes : Option (Vector UInt8 4)
  jitterSeed : UInt64
deriving DecidableEq, Repr

def initialCounterFromDrbg (bytes : Vector UInt8 4) : UInt32 :=
  (UInt32.ofNat (LittleEndian.decode bytes.toList) &&& 0x0FFFFFFF) + 1

/-- Falls back to one when the generator fails. -/
def seedMessageCounter : Option (Vector UInt8 4) → UInt32
  | none => 1
  | some bytes => initialCounterFromDrbg bytes

/-- Identities and parameters of a session to be registered. A PASE session has no
node ids in its nonces and the default timing. -/
structure Registration where
  localId : SessionId
  keys : SessionKeys
  role : SessionRole
  peerSessionId : SessionId
  localNonceNodeId : NodeId := 0
  peerNonceNodeId : NodeId := 0
  mrpConfig : MrpConfig := .default

namespace SessionManager

def new (exchangeSeed : UInt16) : SessionManager where
  sessions := ∅
  nextSeq := 0
  maxSessions := 256
  nextExchangeId := exchangeSeed

/-- The session to evict: idle before busy, then the oldest. -/
def victim (m : SessionManager) : Option SessionId :=
  (m.sessions.entries.argmin fun e =>
    (toLex (e.2.mrp.hasPending, e.2.createdSeq.toNat) : Bool ×ₗ Nat)).map (·.1)

/-- The session a registration creates. -/
def freshSession (m : SessionManager) (r : Registration) (draws : Draws) : Session where
  localId := r.localId
  peerId := r.peerSessionId
  role := r.role
  keys := r.keys
  outboundCounter := seedMessageCounter draws.counterBytes
  replayWindow := .new
  localNonceNodeId := r.localNonceNodeId
  peerNonceNodeId := r.peerNonceNodeId
  mrp := .withJitterSeed r.mrpConfig draws.jitterSeed
  transportReliable := false
  createdSeq := m.nextSeq

/-- Register a session under its local id, evicting one if the table is full. -/
def register (m : SessionManager) (r : Registration) (draws : Draws) : SessionManager :=
  let sessions :=
    if m.sessions.keys.length ≥ m.maxSessions ∧ r.localId ∉ m.sessions then
      match m.victim with
      | some id => m.sessions.erase id
      | none => m.sessions
    else m.sessions
  { m with
    sessions := sessions.insert r.localId (m.freshSession r draws)
    nextSeq := m.nextSeq + 1 }

def setTransportReliable (m : SessionManager) (id : SessionId) (reliable : Bool) :
    Except Error Unit × SessionManager :=
  match m.sessions.lookup id with
  | none => (.error (.unknownSession id), m)
  | some s =>
    (.ok (), { m with sessions := m.sessions.insert id { s with transportReliable := reliable } })

variable (aead : Aead)

def encodeOn (m : SessionManager) (sessionId : SessionId) (target : OutboundExchange)
    (message : Message) (now : Instant) : Except Error EncodeOutboundOutput × SessionManager :=
  match m.sessions.lookup sessionId with
  | none => (.error (.unknownSession sessionId), m)
  | some session =>
    let encoded := session.encodeOn aead m.nextExchangeId target message now
    let nextExchangeId :=
      match encoded.1, target with
      | .ok _, .new => m.nextExchangeId + 1
      | _, _ => m.nextExchangeId
    (encoded.1, { m with
      sessions := m.sessions.insert sessionId encoded.2, nextExchangeId := nextExchangeId })

def encodeOutbound (m : SessionManager) (sessionId : SessionId) (exchangeId : Option UInt16)
    (message : Message) (now : Instant) : Except Error EncodeOutboundOutput × SessionManager :=
  let target :=
    match exchangeId with
    | none => .new
    | some id => .byId id
  m.encodeOn aead sessionId target message now

def encodeOutboundWithRole (m : SessionManager) (sessionId : SessionId) (exchangeId : UInt16)
    (isLocalInitiator : Bool) (message : Message) (now : Instant) :
    Except Error EncodeOutboundOutput × SessionManager :=
  m.encodeOn aead sessionId (.exact ⟨exchangeId, isLocalInitiator⟩) message now

def decodeInbound (m : SessionManager) (packet : Bytes) (now : Instant) :
    Except Error DecodeInboundOutput × SessionManager :=
  match decodeHeader packet with
  | .error e => (.error e, m)
  | .ok (peeked, rest) =>
    match m.sessions.lookup peeked.sessionId with
    | none => (.error (.unknownSession peeked.sessionId), m)
    | some session =>
      let decoded := session.receive aead packet peeked (packet.length - rest.length) now
      (decoded.1, { m with sessions := m.sessions.insert peeked.sessionId decoded.2 })

/-- Apply an operation to the sessions of a list one after the other, if they exist. -/
def forSessions (f : SessionId → Session → List MrpEvent × Session) (m : SessionManager) :
    List SessionId → List MrpEvent × SessionManager
  | [] => ([], m)
  | id :: rest =>
    match m.sessions.lookup id with
    | none => forSessions f m rest
    | some session =>
      let out := f id session
      let more := forSessions f { m with sessions := m.sessions.insert id out.2 } rest
      (out.1 ++ more.1, more.2)

/-- `sessionOrder` and `order` are the iteration orders of the session table and of
each session's unacknowledged messages. -/
def handleTimeout (m : SessionManager) (now : Instant) (sessionOrder : List SessionId)
    (order : SessionId → List MessageCounter) : List MrpEvent × SessionManager :=
  m.forSessions (fun id session => session.handleTimeout aead id now (order id))
    (Table.arrange sessionOrder m.sessions.keys)

def endExchange (m : SessionManager) (sessionId : SessionId) (target : ExchangeTarget)
    (abort : Bool) : List MrpEvent × SessionManager :=
  match m.sessions.lookup sessionId with
  | none => ([], m)
  | some session =>
    let ended := session.endExchange aead sessionId target abort
    (ended.1, { m with sessions := m.sessions.insert sessionId ended.2 })

def finishExchange (m : SessionManager) (sessionId : SessionId) (exchangeId : UInt16) :
    List MrpEvent × SessionManager :=
  m.endExchange aead sessionId (.byId exchangeId) false

def finishExchangeWithRole (m : SessionManager) (sessionId : SessionId) (exchangeId : UInt16)
    (isLocalInitiator : Bool) : List MrpEvent × SessionManager :=
  m.endExchange aead sessionId (.exact ⟨exchangeId, isLocalInitiator⟩) false

def abortExchange (m : SessionManager) (sessionId : SessionId) (exchangeId : UInt16) :
    List MrpEvent × SessionManager :=
  m.endExchange aead sessionId (.byId exchangeId) true

def abortExchangeWithRole (m : SessionManager) (sessionId : SessionId) (exchangeId : UInt16)
    (isLocalInitiator : Bool) : List MrpEvent × SessionManager :=
  m.endExchange aead sessionId (.exact ⟨exchangeId, isLocalInitiator⟩) true

def flushSessionAcks (m : SessionManager) (sessionId : SessionId) :
    List MrpEvent × SessionManager :=
  match m.sessions.lookup sessionId with
  | none => ([], m)
  | some session =>
    let flushed := session.flushAcks aead sessionId
    (flushed.1, { m with sessions := m.sessions.insert sessionId flushed.2 })

/-- Sessions are flushed in ascending order of their ids. -/
def flushPendingAcks (m : SessionManager) : List MrpEvent × SessionManager :=
  m.forSessions (fun id session => session.flushAcks aead id)
    (m.sessions.keys.insertionSort (· ≤ ·))

/-- Every session, and all else the manager keeps, is as it was. -/
structure Untouched (m after : SessionManager) : Prop where
  sessions : ∀ id, after.sessions.lookup id = m.sessions.lookup id
  others : after = { m with sessions := after.sessions }

/-- What a send to `target` leaves behind. -/
def Spends (m : SessionManager) (target : OutboundExchange) :
    Except Error EncodeOutboundOutput × SessionManager → Prop
  | (.error _, after) => m.Untouched after
  | (.ok out, after) =>
    if target = .new then
      out.exchangeId = m.nextExchangeId ∧ after.nextExchangeId = m.nextExchangeId + 1
    else after.nextExchangeId = m.nextExchangeId

theorem untouched_store {m : SessionManager} (found : m.sessions.lookup sessionId = some s) :
    m.Untouched { m with sessions := m.sessions.insert sessionId s } := by
  constructor
  · intro other
    by_cases same : other = sessionId
    · subst same
      rw [AList.lookup_insert, found]
    · exact AList.lookup_insert_ne same
  · rfl

theorem encodeOn_spends (m : SessionManager) (sessionId : SessionId)
    (target : OutboundExchange) (message : Message) (now : Instant) :
    m.Spends target (m.encodeOn aead sessionId target message now) := by
  unfold encodeOn
  split
  · exact ⟨fun _ => rfl, rfl⟩
  · rename_i session found
    have encoded := session.encodeOn_cases aead m.nextExchangeId target message now
    generalize session.encodeOn aead m.nextExchangeId target message now = result at encoded
    cases encoded with
    | overflow spent | refused spare failed => exact untouched_store found
    | sent spare encrypted =>
      cases target with
      | new => exact ⟨rfl, rfl⟩
      | byId id => rfl
      | exact exchange => rfl

theorem failed_send_changes_nothing (m : SessionManager) (sessionId : SessionId)
    (message : Message) (now : Instant) :
    (∀ exchangeId, m.Spends (exchangeId.elim .new .byId)
      (m.encodeOutbound aead sessionId exchangeId message now)) ∧
    ∀ exchangeId isLocalInitiator, m.Spends (.exact ⟨exchangeId, isLocalInitiator⟩)
      (m.encodeOutboundWithRole aead sessionId exchangeId isLocalInitiator message now) := by
  constructor
  · intro exchangeId
    cases exchangeId with
    | none => exact encodeOn_spends aead m sessionId .new message now
    | some id => exact encodeOn_spends aead m sessionId (.byId id) message now
  · intro exchangeId isLocalInitiator
    exact encodeOn_spends aead m sessionId (.exact ⟨exchangeId, isLocalInitiator⟩) message now

end SessionManager

end Matter.Transport
