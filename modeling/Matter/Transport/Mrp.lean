import Matter.Base.Tables
import Matter.Transport.ProtocolHeader
import Mathlib.Data.Finset.Card
import Mathlib.Data.List.Sort

/-! The message reliability protocol of one session: retransmission of reliable
messages until acknowledged, and the acknowledgements owed to the peer. Time is
in nanoseconds. Functions that a caller observes return their result beside the
new state. -/
namespace Matter.Transport

abbrev Instant := Nat
abbrev Duration := Nat

def fromMillis (ms : Nat) : Duration := ms * 1000000

def asMillis (d : Duration) : Nat := min (d / 1000000) (2 ^ 64 - 1)

def maxExchangesPerSession : Nat := 256
def maxDisplacedAcks : Nat := 32

structure MrpConfig where
  initialActive : Duration
  initialIdle : Duration
  backoffFactor : Float32
  maxTransmissions : UInt8
  backoffJitter : Float32
  standaloneAckDeadline : Duration
  idleThreshold : Duration

namespace MrpConfig

def default : MrpConfig where
  initialActive := fromMillis 300
  initialIdle := fromMillis 500
  backoffFactor := 1.6
  maxTransmissions := 5
  backoffJitter := 0.25
  standaloneAckDeadline := fromMillis 200
  idleThreshold := fromMillis 4000

def powi (base : Float32) : Nat → Float32
  | 0 => 1
  | n + 1 => powi base n * base

def retransmitDelay (config : MrpConfig) (sendsDone : UInt8) (peerActive : Bool) : Duration :=
  let base := if peerActive then config.initialActive else config.initialIdle
  let withMarginMs := min (asMillis base * 1127) (2 ^ 64 - 1) / 1024
  let exponent := min (sendsDone.toNat - 1) 4
  let scaledMs := ((UInt64.ofNat withMarginMs).toFloat32 * powi config.backoffFactor exponent).toUInt64
  fromMillis scaledMs.toNat

end MrpConfig

/-- Stretch a delay by a draw of the xorshift generator `state`. -/
def jitterWith (state : UInt64) (config : MrpConfig) (delay : Duration) : Duration × UInt64 :=
  if config.backoffJitter ≤ 0 then (delay, state)
  else
    let state := state ^^^ (state >>> 12)
    let state := state ^^^ (state <<< 25)
    let state := state ^^^ (state >>> 27)
    let draw := state * 0x2545F4914F6CDD1D
    let unit := (draw >>> 56).toUInt8.toFloat32 / 256
    let jittered := ((UInt64.ofNat (asMillis delay)).toFloat32 *
      (1 + config.backoffJitter * unit)).toUInt64
    (fromMillis jittered.toNat, state)

structure MrpFlags where
  reliable : Bool := false
deriving DecidableEq, Repr

/-- An exchange of a session. Either side may have opened one under the same id. -/
structure ExchangeKey where
  id : UInt16
  isLocalInitiator : Bool
deriving DecidableEq, Repr

namespace ExchangeKey

def ofInbound (exchangeId : UInt16) (peerIsInitiator : Bool) : ExchangeKey :=
  ⟨exchangeId, !peerIsInitiator⟩

/-- By id, the peer's exchange before ours. -/
def Le (a b : ExchangeKey) : Prop :=
  a.id < b.id ∨ (a.id = b.id ∧ (a.isLocalInitiator = true → b.isLocalInitiator = true))

instance : DecidableRel Le := fun _ _ => inferInstanceAs (Decidable (_ ∨ _))

end ExchangeKey

namespace ProtocolHeader

def inboundExchange (header : ProtocolHeader) : ExchangeKey :=
  .ofInbound header.exchangeId header.exchangeFlags.initiator

/-- The message carries an acknowledgement and nothing else. The protocol it
belongs to is not looked at. -/
def isStandaloneAck (header : ProtocolHeader) (appPayload : Bytes) : Bool :=
  header.exchangeFlags.ack && header.opcode == standaloneAck && appPayload.isEmpty &&
    !header.exchangeFlags.reliable

end ProtocolHeader

inductive MrpTimerEvent where
  | retransmit (exchangeId : UInt16) (counter : MessageCounter) (packet : Bytes)
  | standaloneAckDeadlineFired (exchangeId : UInt16) (ackCounter : MessageCounter)
      (isLocalInitiator : Bool)
  | expired (exchangeId : UInt16) (counter : MessageCounter)
deriving DecidableEq, Repr

inductive InboundOutcome where
  | appMessage (exchangeId : UInt16) (isInitiator : Bool) (protocolId : ProtocolId)
      (opcode : UInt8) (payload : Bytes)
  | ackOnly (exchangeId : UInt16) (ackedCounter : MessageCounter)
  | duplicateReliable (exchangeId : UInt16) (peerCounter : MessageCounter)
      (isLocalInitiator : Bool)
deriving DecidableEq, Repr

structure PreparedOutbound where
  wirePayload : Bytes
  exchangeId : UInt16
  isLocalInitiator : Bool
  piggybackAcked : Bool
deriving DecidableEq, Repr

def PreparedOutbound.exchange (p : PreparedOutbound) : ExchangeKey :=
  ⟨p.exchangeId, p.isLocalInitiator⟩

/-- A reliable message of ours the peer has not acknowledged. -/
structure PendingAck where
  packetBytes : Bytes
  exchange : ExchangeKey
  nextAttempt : Instant
  attemptsRemaining : UInt8
deriving DecidableEq, Repr

/-- An acknowledgement we owe the peer. -/
structure PendingOutboundAck where
  ackCounter : MessageCounter
  deadline : Instant
deriving DecidableEq, Repr

def PendingOutboundAck.fired (p : PendingOutboundAck) (exchange : ExchangeKey) : MrpTimerEvent :=
  .standaloneAckDeadlineFired exchange.id p.ackCounter exchange.isLocalInitiator

structure RecentInbound where
  exchangeId : UInt16
  counter : MessageCounter
  isLocalInitiator : Bool
deriving DecidableEq, Repr

structure MrpState where
  pendingAcks : Table MessageCounter PendingAck
  pendingOutboundAcks : Table ExchangeKey PendingOutboundAck
  displacedAcks : List (ExchangeKey × PendingOutboundAck)
  recentReliable : Vector (Option RecentInbound) 32
  recentNextSlot : Fin 32
  exchanges : Finset ExchangeKey
  lastOutbound : Option Instant
  lastPeerActivity : Option Instant
  config : MrpConfig
  jitter : UInt64

namespace MrpState

def bare (config : MrpConfig) : MrpState where
  pendingAcks := ∅
  pendingOutboundAcks := ∅
  displacedAcks := []
  recentReliable := .replicate 32 none
  recentNextSlot := 0
  exchanges := ∅
  lastOutbound := none
  lastPeerActivity := none
  config := config
  jitter := 1

def withJitterSeed (config : MrpConfig) (seed : UInt64) : MrpState :=
  { bare config with jitter := if seed = 0 then 1 else seed }

def isPeerActive (s : MrpState) (now : Instant) : Bool :=
  match s.lastPeerActivity with
  | some t => now - t < s.config.idleThreshold
  | none => false

/-- The exchange an id without a role stands for: ours if it is tracked. -/
def resolve (s : MrpState) (id : UInt16) : ExchangeKey :=
  if ⟨id, true⟩ ∈ s.exchanges then ⟨id, true⟩ else ⟨id, false⟩

def exchangeIsIdle (s : MrpState) (exchange : ExchangeKey) : Bool :=
  let hasPendingRetransmit := s.pendingAcks.entries.any fun e => e.2.exchange = exchange
  let hasBufferedAck := (s.pendingOutboundAcks.lookup exchange).isSome ||
    s.displacedAcks.any fun e => e.1 = exchange
  !hasPendingRetransmit && !hasBufferedAck

def reclaimIfIdle (s : MrpState) (exchange : ExchangeKey) : MrpState :=
  if s.exchangeIsIdle exchange then { s with exchanges := s.exchanges.erase exchange } else s

def buildOutbound (s : MrpState) (opcode : UInt8) (protocolId : ProtocolId)
    (exchange : ExchangeKey) (appPayload : Bytes) (mrpFlags : MrpFlags) : PreparedOutbound :=
  let ackCounter := (s.pendingOutboundAcks.lookup exchange).map (·.ackCounter)
  let header : ProtocolHeader := {
    exchangeFlags := {
      ack := ackCounter.isSome
      initiator := exchange.isLocalInitiator
      reliable := mrpFlags.reliable }
    opcode := opcode
    exchangeId := exchange.id
    protocolId := protocolId
    ackCounter := ackCounter }
  { wirePayload := encodeProtocolHeader header ++ appPayload
    exchangeId := exchange.id
    isLocalInitiator := exchange.isLocalInitiator
    piggybackAcked := ackCounter.isSome }

def commitOutbound (s : MrpState) (prepared : PreparedOutbound) : MrpState :=
  { s with
    exchanges := insert prepared.exchange s.exchanges
    pendingOutboundAcks :=
      if prepared.piggybackAcked then s.pendingOutboundAcks.erase prepared.exchange
      else s.pendingOutboundAcks }

def markPacketSentOn (s : MrpState) (counter : MessageCounter) (exchange : ExchangeKey)
    (packetBytes : Bytes) (reliable : Bool) (now : Instant) : MrpState :=
  let s := { s with lastOutbound := some now }
  if !reliable then s.reclaimIfIdle exchange
  else
    let initial := s.config.retransmitDelay 0 (s.isPeerActive now)
    let drawn := jitterWith s.jitter s.config initial
    { s with
      jitter := drawn.2
      pendingAcks := s.pendingAcks.insert counter {
        packetBytes := packetBytes
        exchange := exchange
        nextAttempt := now + drawn.1
        attemptsRemaining := UInt8.ofNat (s.config.maxTransmissions.toNat - 1) } }

def hasPending (s : MrpState) : Bool :=
  !s.pendingAcks.entries.isEmpty || !s.pendingOutboundAcks.entries.isEmpty ||
    !s.displacedAcks.isEmpty

def pollTimeout (s : MrpState) : Option Instant :=
  let retransmit := (s.pendingAcks.entries.map (·.2.nextAttempt)).min?
  let standalone := (s.pendingOutboundAcks.entries.map (·.2.deadline)).min?
  let displaced := (s.displacedAcks.map (·.2.deadline)).min?
  ([retransmit, standalone, displaced].filterMap id).min?

/-- What a timer call has done so far. -/
structure TimerPass where
  state : MrpState
  events : List MrpTimerEvent := []
  toRemove : List MessageCounter := []
  reclaimCandidates : List ExchangeKey := []

/-- One unacknowledged message at its turn in the pass. -/
def visitPending (now : Instant) (peerActive : Bool) (pass : TimerPass) (counter : MessageCounter) :
    TimerPass :=
  match pass.state.pendingAcks.lookup counter with
  | none => pass
  | some pending =>
    if pending.nextAttempt > now then pass
    else if pending.attemptsRemaining = 0 then
      { pass with
        events := pass.events ++ [.expired pending.exchange.id counter]
        toRemove := pass.toRemove ++ [counter]
        reclaimCandidates := pass.reclaimCandidates ++ [pending.exchange] }
    else
      let s := pass.state
      let remaining := pending.attemptsRemaining - 1
      let sendsDone := UInt8.ofNat (s.config.maxTransmissions.toNat - 1 - remaining.toNat)
      let drawn := jitterWith s.jitter s.config (s.config.retransmitDelay sendsDone peerActive)
      { pass with
        events := pass.events ++ [.retransmit pending.exchange.id counter pending.packetBytes]
        state := { s with
          jitter := drawn.2
          pendingAcks := s.pendingAcks.insert counter { pending with
            attemptsRemaining := remaining, nextAttempt := now + drawn.1 } } }

/-- The messages whose attempts ran out leave after the pass. -/
def removeExpired (pass : TimerPass) : TimerPass :=
  { pass with state := { pass.state with
    pendingAcks := pass.toRemove.foldl (fun t c => t.erase c) pass.state.pendingAcks } }

/-- Displaced acknowledgements that are due, in their order. -/
def fireDisplaced (now : Instant) (pass : TimerPass) : TimerPass :=
  let due := pass.state.displacedAcks.filter fun e => e.2.deadline ≤ now
  { pass with
    state := { pass.state with
      displacedAcks := pass.state.displacedAcks.filter fun e => ¬ e.2.deadline ≤ now }
    events := pass.events ++ due.map fun e => e.2.fired e.1
    reclaimCandidates := pass.reclaimCandidates ++ due.map (·.1) }

/-- A buffered acknowledgement that is due. -/
def fireBuffered (pass : TimerPass) (exchange : ExchangeKey) : TimerPass :=
  match pass.state.pendingOutboundAcks.lookup exchange with
  | none => pass
  | some p =>
    { pass with
      state := { pass.state with
        pendingOutboundAcks := pass.state.pendingOutboundAcks.erase exchange }
      events := pass.events ++ [p.fired exchange]
      reclaimCandidates := pass.reclaimCandidates ++ [exchange] }

def dueExchanges (s : MrpState) (now : Instant) : List ExchangeKey :=
  ((s.pendingOutboundAcks.entries.filter fun e => e.2.deadline ≤ now).map (·.1)).insertionSort
    ExchangeKey.Le

/-- A timer call before idle exchanges are reclaimed. `order` is the order in which
the unacknowledged messages are iterated. -/
def timerPass (s : MrpState) (now : Instant) (order : List MessageCounter) : TimerPass :=
  let pass := (Table.arrange order s.pendingAcks.keys).foldl
    (visitPending now (s.isPeerActive now)) { state := s }
  let pass := fireDisplaced now (removeExpired pass)
  (pass.state.dueExchanges now).foldl fireBuffered pass

def handleTimeout (s : MrpState) (now : Instant) (order : List MessageCounter) :
    List MrpTimerEvent × MrpState :=
  let pass := s.timerPass now order
  (pass.events, pass.reclaimCandidates.foldl reclaimIfIdle pass.state)

/-- The peer acknowledges our message `counter` on `exchange`. The message may have
been sent on another exchange. -/
def settle (s : MrpState) (exchange : ExchangeKey) (counter : MessageCounter) : MrpState :=
  match s.pendingAcks.lookup counter with
  | none => s
  | some acked =>
    let s := { s with pendingAcks := s.pendingAcks.erase counter }
    if acked.exchange ≠ exchange then s.reclaimIfIdle acked.exchange else s

/-- Owe the peer an acknowledgement of `counter`. One already buffered on the
exchange is displaced, or dropped when the displaced queue is full. -/
def owe (s : MrpState) (exchange : ExchangeKey) (counter : MessageCounter) (now : Instant) :
    MrpState :=
  let fresh : PendingOutboundAck := ⟨counter, now + s.config.standaloneAckDeadline⟩
  let displaced :=
    match s.pendingOutboundAcks.lookup exchange with
    | none => s.displacedAcks
    | some older =>
      if s.displacedAcks.length < maxDisplacedAcks then
        s.displacedAcks ++ [(exchange, { older with deadline := now })]
      else s.displacedAcks
  { s with
    pendingOutboundAcks := s.pendingOutboundAcks.insert exchange fresh
    displacedAcks := displaced }

def rememberReliable (s : MrpState) (recent : RecentInbound) : MrpState :=
  { s with
    recentReliable := s.recentReliable.set s.recentNextSlot (some recent)
    recentNextSlot := s.recentNextSlot + 1 }

def applyAck (s : MrpState) (exchange : ExchangeKey) (header : ProtocolHeader) : MrpState :=
  if header.exchangeFlags.ack then
    match header.ackCounter with
    | some counter => s.settle exchange counter
    | none => s
  else s

def noteReliable (s : MrpState) (exchange : ExchangeKey) (header : ProtocolHeader)
    (peerCounter : MessageCounter) (now : Instant) : MrpState :=
  if header.exchangeFlags.reliable then
    (s.owe exchange peerCounter now).rememberReliable
      ⟨header.exchangeId, peerCounter, !header.exchangeFlags.initiator⟩
  else s

def track (s : MrpState) (exchange : ExchangeKey) : MrpState :=
  { s with exchanges := insert exchange s.exchanges }

def noteActivity (s : MrpState) (now : Instant) : MrpState :=
  { s with lastPeerActivity := some now }

def processInbound (s : MrpState) (decryptedPayload : Bytes) (peerCounter : MessageCounter)
    (now : Instant) : Except Error InboundOutcome × MrpState :=
  let s := s.noteActivity now
  match decodeProtocolHeader decryptedPayload with
  | .error e => (.error e, s)
  | .ok (header, appPayload) =>
    let exchange := header.inboundExchange
    if exchange ∉ s.exchanges ∧ s.exchanges.card ≥ maxExchangesPerSession then
      (.error .exchangeTableFull, s)
    else
      let s := (s.track exchange).applyAck exchange header
      if header.isStandaloneAck appPayload then
        (.ok (.ackOnly header.exchangeId (header.ackCounter.getD 0)), s.reclaimIfIdle exchange)
      else
        let s := s.noteReliable exchange header peerCounter now
        (.ok (.appMessage header.exchangeId header.exchangeFlags.initiator header.protocolId
          header.opcode appPayload), s.reclaimIfIdle exchange)

def cancelPendingOutboundAck (s : MrpState) (exchange : ExchangeKey) : MrpState :=
  { s with
    pendingOutboundAcks := s.pendingOutboundAcks.erase exchange
    displacedAcks := s.displacedAcks.filter fun e => e.1 ≠ exchange }

def closeExchangeOn (s : MrpState) (exchange : ExchangeKey) : MrpState :=
  { s with
    exchanges := s.exchanges.erase exchange
    pendingAcks := s.pendingAcks.retain fun _ p => p.exchange ≠ exchange
    pendingOutboundAcks := s.pendingOutboundAcks.erase exchange
    displacedAcks := s.displacedAcks.filter fun e => e.1 ≠ exchange }

def flushExchangeAcksOn (s : MrpState) (exchange : ExchangeKey) : List MrpTimerEvent × MrpState :=
  let mine := s.displacedAcks.filter fun e => e.1 = exchange
  let events := mine.map fun e => e.2.fired e.1
  let buffered := (s.pendingOutboundAcks.lookup exchange).toList.map (·.fired exchange)
  let s := { s with
    displacedAcks := s.displacedAcks.filter fun e => e.1 ≠ exchange
    pendingOutboundAcks := s.pendingOutboundAcks.erase exchange }
  (events ++ buffered, s.reclaimIfIdle exchange)

/-- Flush the exchanges of a list one after the other. -/
def flushExchanges (s : MrpState) : List ExchangeKey → List MrpTimerEvent × MrpState
  | [] => ([], s)
  | exchange :: rest =>
    let flushed := s.flushExchangeAcksOn exchange
    let more := flushExchanges flushed.2 rest
    (flushed.1 ++ more.1, more.2)

def flushAllAcks (s : MrpState) : List MrpTimerEvent × MrpState :=
  let exchanges := s.pendingOutboundAcks.keys ++ s.displacedAcks.map (·.1)
  s.flushExchanges (exchanges.insertionSort ExchangeKey.Le).dedup

def forgetAckFor (s : MrpState) (counter : MessageCounter) : MrpState :=
  let buffered := (s.pendingOutboundAcks.entries.filter fun e => e.2.ackCounter = counter).map (·.1)
  let displaced := (s.displacedAcks.filter fun e => e.2.ackCounter = counter).map (·.1)
  let s := { s with
    pendingOutboundAcks := buffered.foldl (fun t exchange => t.erase exchange) s.pendingOutboundAcks
    displacedAcks := s.displacedAcks.filter fun e => e.2.ackCounter ≠ counter }
  (buffered ++ displaced).foldl reclaimIfIdle s

inductive Inbound (s : MrpState) (payload : Bytes) (peerCounter : MessageCounter) (now : Instant) :
    Except Error InboundOutcome × MrpState → Prop where
  | malformed (decoded : decodeProtocolHeader payload = .error e) :
      Inbound s payload peerCounter now (.error e, s.noteActivity now)
  | full (decoded : decodeProtocolHeader payload = .ok (header, appPayload))
      (unknown : header.inboundExchange ∉ s.exchanges)
      (crowded : s.exchanges.card ≥ maxExchangesPerSession) :
      Inbound s payload peerCounter now (.error .exchangeTableFull, s.noteActivity now)
  | ackOnly (decoded : decodeProtocolHeader payload = .ok (header, appPayload))
      (room : header.inboundExchange ∈ s.exchanges ∨ s.exchanges.card < maxExchangesPerSession)
      (standalone : header.isStandaloneAck appPayload = true) :
      Inbound s payload peerCounter now
        (.ok (.ackOnly header.exchangeId (header.ackCounter.getD 0)),
          (((s.noteActivity now).track header.inboundExchange).applyAck header.inboundExchange
            header).reclaimIfIdle header.inboundExchange)
  | app (decoded : decodeProtocolHeader payload = .ok (header, appPayload))
      (room : header.inboundExchange ∈ s.exchanges ∨ s.exchanges.card < maxExchangesPerSession)
      (message : header.isStandaloneAck appPayload = false) :
      Inbound s payload peerCounter now
        (.ok (.appMessage header.exchangeId header.exchangeFlags.initiator header.protocolId
          header.opcode appPayload),
          ((((s.noteActivity now).track header.inboundExchange).applyAck header.inboundExchange
            header).noteReliable header.inboundExchange header peerCounter now).reclaimIfIdle
              header.inboundExchange)

theorem processInbound_cases (s : MrpState) (payload : Bytes) (peerCounter : MessageCounter)
    (now : Instant) :
    Inbound s payload peerCounter now (s.processInbound payload peerCounter now) := by
  simp only [processInbound]
  split
  · exact .malformed (by assumption)
  · rename_i header appPayload decoded
    split
    · rename_i refused
      exact .full decoded refused.1 refused.2
    · rename_i admitted
      have room : header.inboundExchange ∈ s.exchanges ∨
          s.exchanges.card < maxExchangesPerSession := by
        by_cases known : header.inboundExchange ∈ s.exchanges
        · exact Or.inl known
        · exact Or.inr (Nat.lt_of_not_ge fun crowded => admitted ⟨known, crowded⟩)
      split
      · exact .ackOnly decoded room (by assumption)
      · rename_i message
        exact .app decoded room (Bool.eq_false_iff.mpr message)

/-- What every stage of a timer call preserves holds at its end. -/
theorem timerPass_induction {P : TimerPass → Prop} (start : P { state := s })
    (visit : ∀ pass active c, P pass → P (visitPending now active pass c))
    (remove : ∀ pass, P pass → P (removeExpired pass))
    (displaced : ∀ pass, P pass → P (fireDisplaced now pass))
    (buffered : ∀ pass k, P pass → P (fireBuffered pass k)) (order : List MessageCounter) :
    P (s.timerPass now order) := by
  have visited : ∀ (cs : List MessageCounter) active pass, P pass →
      P (cs.foldl (visitPending now active) pass) := by
    intro cs active
    induction cs with
    | nil => exact fun _ holds => holds
    | cons c cs ih => exact fun pass holds => ih _ (visit pass active c holds)
  have fired : ∀ (ks : List ExchangeKey) pass, P pass → P (ks.foldl fireBuffered pass) := by
    intro ks
    induction ks with
    | nil => exact fun _ holds => holds
    | cons k ks ih => exact fun pass holds => ih _ (buffered pass k holds)
  exact fired _ _ (displaced _ (remove _ (visited _ _ _ start)))

end MrpState

end Matter.Transport
