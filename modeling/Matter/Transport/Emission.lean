import Matter.Transport.Retransmission

/-! The packets a session encrypts. Whatever happens to it, the new packets go out
under consecutive counters, a failed call leaves the counter alone, and at the last
counter an acknowledgement is reported as exhausted instead of being sent. -/
namespace Matter.Transport
open Crypto MrpState

namespace Session

/-- `t` is `s` with another counter, replay window and protocol state. -/
def Continues (s t : Session) : Prop :=
  t = { s with
    outboundCounter := t.outboundCounter, replayWindow := t.replayWindow, mrp := t.mrp }

variable {aead : Aead} {s t u : Session}

theorem Continues.refl (s : Session) : Continues s s := rfl

theorem Continues.trans (first : Continues s t) (second : Continues t u) : Continues s u := by
  rw [first] at second
  exact second

theorem Continues.encryptNext (continues : Continues s t) (c : UInt32) (payload : Bytes) :
    ({ t with outboundCounter := c }).encryptNext aead payload =
      ({ s with outboundCounter := c }).encryptNext aead payload := by
  rw [continues]
  rfl

theorem Continues.transportReliable (continues : Continues s t) :
    t.transportReliable = s.transportReliable := by
  rw [continues]

/-- `packets` are `payloads` encrypted by `s` under the consecutive counters from
`c` up to `c'`, none of them the last counter. -/
inductive Sealed (aead : Aead) (s : Session) :
    UInt32 → List Bytes → List Bytes → UInt32 → Prop where
  | nil (c : UInt32) : Sealed aead s c [] [] c
  | cons (spare : c ≠ u32Max)
      (encrypted : ({ s with outboundCounter := c }).encryptNext aead payload = .ok packet)
      (rest : Sealed aead s (c + 1) payloads packets c') :
      Sealed aead s c (payload :: payloads) (packet :: packets) c'

variable {c c' c'' : UInt32} {payloads payloads' packets packets' : List Bytes}

theorem Sealed.single (spare : c ≠ u32Max)
    (encrypted : ({ s with outboundCounter := c }).encryptNext aead payload = .ok packet) :
    Sealed aead s c [payload] [packet] (c + 1) :=
  .cons spare encrypted (.nil _)

theorem Sealed.append (first : Sealed aead s c payloads packets c')
    (second : Sealed aead s c' payloads' packets' c'') :
    Sealed aead s c (payloads ++ payloads') (packets ++ packets') c'' := by
  induction first with
  | nil => exact second
  | cons spare encrypted _ ih => exact .cons spare encrypted (ih second)

theorem Sealed.congr (encrypted : Sealed aead t c payloads packets c') (continues : Continues s t) :
    Sealed aead s c payloads packets c' := by
  induction encrypted with
  | nil => exact .nil _
  | cons spare encrypted _ ih =>
    rw [continues.encryptNext] at encrypted
    exact .cons spare encrypted ih

theorem toNat_succ (spare : c ≠ u32Max) : (c + 1).toNat = c.toNat + 1 := by
  have bound : c.toNat ≠ 4294967295 := fun same => spare (UInt32.toNat_inj.mp same)
  have limit := c.toNat_lt
  rw [UInt32.toNat_add]
  simp only [UInt32.reduceToNat]
  omega

section
variable (encrypted : Sealed aead s c payloads packets c')
include encrypted

theorem Sealed.counter_le : c ≤ c' := by
  induction encrypted with
  | nil => exact UInt32.le_refl _
  | cons spare _ _ ih =>
    have step := toNat_succ spare
    rw [UInt32.le_iff_toNat_le] at ih ⊢
    omega

theorem Sealed.counterOf_mem :
    ∀ packet ∈ packets, ∃ n, counterOf packet = some n ∧ c ≤ n ∧ n < c' ∧ n ≠ u32Max := by
  induction encrypted with
  | nil => simp
  | @cons c payloads packets c' payload packet spare encrypted rest ih =>
    have step := toNat_succ spare
    have after := UInt32.le_iff_toNat_le.mp rest.counter_le
    intro p member
    rcases List.mem_cons.mp member with rfl | later
    · refine ⟨c, counterOf_encodeSecured encrypted, UInt32.le_refl c, ?_, spare⟩
      rw [UInt32.lt_iff_toNat_lt]
      omega
    · obtain ⟨n, carries, low, high, below⟩ := ih p later
      refine ⟨n, carries, ?_, high, below⟩
      rw [UInt32.le_iff_toNat_le] at low ⊢
      omega

theorem Sealed.pairwise :
    packets.Pairwise fun p q => ∃ m n, counterOf p = some m ∧ counterOf q = some n ∧ m < n := by
  induction encrypted with
  | nil => exact .nil
  | @cons c payloads packets c' payload packet spare encrypted rest ih =>
    refine .cons ?_ ih
    intro q member
    obtain ⟨n, carries, low, _⟩ := rest.counterOf_mem q member
    refine ⟨c, n, counterOf_encodeSecured encrypted, carries, ?_⟩
    have step := toNat_succ spare
    rw [UInt32.le_iff_toNat_le] at low
    rw [UInt32.lt_iff_toNat_lt]
    omega

end

theorem Sealed.exhausted (encrypted : Sealed aead s u32Max payloads packets c) :
    payloads = [] ∧ packets = [] ∧ c = u32Max := by
  cases encrypted with
  | nil => exact ⟨rfl, rfl, rfl⟩
  | cons spare => exact absurd rfl spare

end Session

namespace MrpEvent

def newPacket : MrpEvent → Option Bytes
  | .sendStandaloneAck _ _ packet => some packet
  | _ => none

def repeated : MrpEvent → Option (MessageCounter × Bytes)
  | .retransmit _ _ counter packet => some (counter, packet)
  | _ => none

def exhausted : MrpEvent → Option MessageCounter
  | .sessionCounterExhausted _ _ ackCounter => some ackCounter
  | _ => none

end MrpEvent

namespace MrpTimerEvent

def ack : MrpTimerEvent → Option (ExchangeKey × MessageCounter)
  | .standaloneAckDeadlineFired exchangeId ackCounter isLocalInitiator =>
    some (⟨exchangeId, isLocalInitiator⟩, ackCounter)
  | _ => none

def repeated : MrpTimerEvent → Option (MessageCounter × Bytes)
  | .retransmit _ counter packet => some (counter, packet)
  | _ => none

end MrpTimerEvent

def ackPayload (ack : ExchangeKey × MessageCounter) : Bytes :=
  encodeProtocolHeader (buildStandaloneAckHeader ack.1.id ack.2 ack.1.isLocalInitiator)

namespace Session
variable {aead : Aead}

/-- What folding timer events comes to: the acknowledgements that are due go out in
order until the counter is exhausted, and the others are reported. -/
structure Folded (aead : Aead) (s : Session) (events : List MrpTimerEvent)
    (out : List MrpEvent × Session) (emitted spent : List (ExchangeKey × MessageCounter)) :
    Prop where
  due : events.filterMap (·.ack) = emitted ++ spent
  encrypted : Sealed aead s s.outboundCounter (emitted.map ackPayload)
    (out.1.filterMap (·.newPacket)) out.2.outboundCounter
  reported : out.1.filterMap (·.exhausted) = spent.map (·.2)
  exhausted : spent ≠ [] → out.2.outboundCounter = u32Max
  repeated : out.1.filterMap (·.repeated) = events.filterMap (·.repeated)
  after : out.2 = { s with outboundCounter := out.2.outboundCounter }

theorem foldTimerEvents_folded (aead : Aead) (s : Session) (sessionId : SessionId)
    (events : List MrpTimerEvent) :
    ∃ emitted spent,
      Folded aead s events (s.foldTimerEvents aead sessionId events) emitted spent := by
  induction events generalizing s with
  | nil => exact ⟨[], [], rfl, .nil _, rfl, fun none => absurd rfl none, rfl, rfl⟩
  | cons event rest ih =>
    cases event with
    | retransmit exchangeId counter packet =>
      obtain ⟨emitted, spent, folded⟩ := ih s
      refine ⟨emitted, spent, folded.due, folded.encrypted, folded.reported, folded.exhausted, ?_,
        folded.after⟩
      exact congrArg (_ :: ·) folded.repeated
    | expired exchangeId counter =>
      obtain ⟨emitted, spent, folded⟩ := ih s
      exact ⟨emitted, spent, folded.due, folded.encrypted, folded.reported, folded.exhausted,
        folded.repeated, folded.after⟩
    | standaloneAckDeadlineFired exchangeId ackCounter isLocalInitiator =>
      by_cases full : s.outboundCounter = u32Max
      · obtain ⟨emitted, spent, folded⟩ := ih s
        have nothing := folded.encrypted
        rw [full] at nothing
        obtain ⟨none, _, last⟩ := nothing.exhausted
        obtain rfl := List.map_eq_nil_iff.mp none
        refine ⟨[], (⟨exchangeId, isLocalInitiator⟩, ackCounter) :: spent, ?_⟩
        simp only [foldTimerEvents, foldTimerEvent, buildStandaloneAckPacket, if_pos full]
        constructor
        · exact congrArg (_ :: ·) folded.due
        · exact folded.encrypted
        · exact congrArg (_ :: ·) folded.reported
        · exact fun _ => last
        · exact folded.repeated
        · exact folded.after
      · obtain ⟨packet, encrypted⟩ := s.encryptNext_standaloneAck aead exchangeId ackCounter
          isLocalInitiator
        obtain ⟨emitted, spent, folded⟩ := ih { s with outboundCounter := s.outboundCounter + 1 }
        have next : Continues s { s with outboundCounter := s.outboundCounter + 1 } := rfl
        refine ⟨(⟨exchangeId, isLocalInitiator⟩, ackCounter) :: emitted, spent, ?_⟩
        simp only [foldTimerEvents, foldTimerEvent, buildStandaloneAckPacket, if_neg full, encrypted]
        constructor
        · exact congrArg (_ :: ·) folded.due
        · exact .cons full encrypted (folded.encrypted.congr next)
        · exact folded.reported
        · exact folded.exhausted
        · exact folded.repeated
        · exact folded.after

end Session

namespace Session
variable {aead : Aead} {id : SessionId} {s : Session}

/-- The calls that only report events: their timer events and protocol state. -/
inductive Reports (s : Session) : Act → List MrpTimerEvent → MrpState → Prop where
  | timeout (now : Instant) (order : List MessageCounter) :
      Reports s (.timeout now order) (s.mrp.handleTimeout now order).1
        (s.mrp.handleTimeout now order).2
  | finish (target : ExchangeTarget) :
      Reports s (.endExchange target false) (s.mrp.flushExchangeAcksOn (s.targetExchange target)).1
        (s.mrp.flushExchangeAcksOn (s.targetExchange target)).2
  | abort (target : ExchangeTarget) :
      Reports s (.endExchange target true) (s.mrp.flushExchangeAcksOn (s.targetExchange target)).1
        ((s.mrp.flushExchangeAcksOn (s.targetExchange target)).2.closeExchangeOn
          (s.targetExchange target))
  | flush : Reports s .flush s.mrp.flushAllAcks.1 s.mrp.flushAllAcks.2

/-- Everything a session can do in one step. -/
inductive Steps (aead : Aead) (s : Session) : Act → Outcome → Session → Prop where
  | overflow (spent : s.outboundCounter = u32Max) :
      Steps aead s (.send nextExchangeId target message now) (.sent (.error .counterOverflow)) s
  | refused (spare : s.outboundCounter ≠ u32Max)
      (failed : s.encryptNext aead (s.prepare nextExchangeId target message).wirePayload = .error e) :
      Steps aead s (.send nextExchangeId target message now) (.sent (.error e)) s
  | sent (spare : s.outboundCounter ≠ u32Max)
      (encrypted : s.encryptNext aead (s.prepare nextExchangeId target message).wirePayload =
        .ok output.wireBytes)
      (piggyback :
        output.piggybackAcked = (s.prepare nextExchangeId target message).piggybackAcked) :
      Steps aead s (.send nextExchangeId target message now) (.sent (.ok output))
        (s.commitSend (s.prepare nextExchangeId target message) output.wireBytes
          (s.effectiveReliable message) now)
  | unauthentic (failed : s.authenticate aead packet = .error e) :
      Steps aead s (.receive packet now) (.received (.error e)) s
  | rejected {mrp : MrpState} (authentic : s.authenticate aead packet = .ok (header, plaintext))
      (accepted : s.replayWindow.classify header.messageCounter = .ok ())
      (inbound : s.mrp.Inbound plaintext header.messageCounter now (.error e, mrp)) :
      Steps aead s (.receive packet now) (.received (.error e))
        { s with replayWindow := s.replayWindow.record header.messageCounter, mrp := mrp }
  | acked {mrp : MrpState} (authentic : s.authenticate aead packet = .ok (header, plaintext))
      (accepted : s.replayWindow.classify header.messageCounter = .ok ())
      (inbound : s.mrp.Inbound plaintext header.messageCounter now
        (.ok (.ackOnly exchangeId ackedCounter), mrp)) :
      Steps aead s (.receive packet now)
        (.received (.ok (.ackOnly header.sessionId exchangeId ackedCounter)))
        { s with replayWindow := s.replayWindow.record header.messageCounter, mrp := mrp }
  | delivered {mrp : MrpState} (authentic : s.authenticate aead packet = .ok (header, plaintext))
      (accepted : s.replayWindow.classify header.messageCounter = .ok ())
      (inbound : s.mrp.Inbound plaintext header.messageCounter now
        (.ok (.appMessage exchangeId isInitiator protocolId opcode payload), mrp)) :
      Steps aead s (.receive packet now)
        (.received (.ok (.appMessage header.sessionId exchangeId isInitiator protocolId opcode
          payload)))
        { s with
          replayWindow := s.replayWindow.record header.messageCounter
          mrp := if s.transportReliable then
            mrp.cancelPendingOutboundAck (.ofInbound exchangeId isInitiator) else mrp }
  | unanswered (authentic : s.authenticate aead packet = .ok (header, plaintext))
      (stale : s.replayWindow.classify header.messageCounter = .error replayErr)
      (answered : Answered aead s header.sessionId header.messageCounter plaintext replayErr
        (.error e, s)) :
      Steps aead s (.receive packet now) (.received (.error e)) s
  | resent (authentic : s.authenticate aead packet = .ok (header, plaintext))
      (stale : s.replayWindow.classify header.messageCounter = .error replayErr)
      (decoded : decodeProtocolHeader plaintext = .ok (message, appPayload))
      (reliable : message.exchangeFlags.reliable = true) (unreliable : s.transportReliable = false)
      (spare : s.outboundCounter ≠ u32Max)
      (encrypted : s.encryptNext aead
        (ackPayload (message.inboundExchange, header.messageCounter)) = .ok ackPacket) :
      Steps aead s (.receive packet now)
        (.received (.ok (.duplicateReliableAckResent header.sessionId message.exchangeId ackPacket)))
        { s with
          outboundCounter := s.outboundCounter + 1
          mrp := s.mrp.forgetAckFor header.messageCounter }
  | fired {mrp : MrpState} (reports : Reports s act events mrp)
      (folded : Folded aead { s with mrp := mrp } events out emitted spent) :
      Steps aead s act (.fired out.1) out.2

theorem steps_send (nextExchangeId : UInt16) (target : OutboundExchange) (message : Message)
    (now : Instant) :
    Steps aead s (.send nextExchangeId target message now)
      (.sent (s.encodeOn aead nextExchangeId target message now).1)
      (s.encodeOn aead nextExchangeId target message now).2 := by
  have cases := s.encodeOn_cases aead nextExchangeId target message now
  generalize s.encodeOn aead nextExchangeId target message now = result at cases ⊢
  cases cases with
  | overflow spent => exact .overflow spent
  | refused spare failed => exact .refused spare failed
  | sent spare encrypted => exact .sent spare encrypted rfl

theorem steps_deliver (authentic : s.authenticate aead packet = .ok (header, plaintext))
    (accepted : s.replayWindow.classify header.messageCounter = .ok ()) :
    Steps aead s (.receive packet now)
      (.received (({ s with
        replayWindow := s.replayWindow.record header.messageCounter }).deliver header.sessionId
          header.messageCounter plaintext now).1)
      (({ s with
        replayWindow := s.replayWindow.record header.messageCounter }).deliver header.sessionId
          header.messageCounter plaintext now).2 := by
  have inbound := s.mrp.processInbound_cases plaintext header.messageCounter now
  unfold deliver
  generalize s.mrp.processInbound plaintext header.messageCounter now = result at inbound ⊢
  obtain ⟨outcome, mrp⟩ := result
  cases outcome with
  | error e => exact .rejected authentic accepted inbound
  | ok outcome =>
    cases outcome with
    | appMessage exchangeId isInitiator protocolId opcode payload =>
      exact .delivered authentic accepted inbound
    | ackOnly exchangeId ackedCounter => exact .acked authentic accepted inbound
    | duplicateReliable => cases inbound

theorem steps_answer (authentic : s.authenticate aead packet = .ok (header, plaintext))
    (stale : s.replayWindow.classify header.messageCounter = .error replayErr) :
    Steps aead s (.receive packet now)
      (.received (s.answerDuplicate aead header.sessionId header.messageCounter plaintext
        replayErr).1)
      (s.answerDuplicate aead header.sessionId header.messageCounter plaintext replayErr).2 := by
  have answered := s.answerDuplicate_cases aead header.sessionId header.messageCounter
    plaintext replayErr
  generalize s.answerDuplicate aead header.sessionId header.messageCounter plaintext replayErr =
    result at answered ⊢
  cases answered with
  | malformed decoded => exact .unanswered authentic stale (.malformed decoded)
  | silent decoded unwanted => exact .unanswered authentic stale (.silent decoded unwanted)
  | overflow decoded reliable unreliable spent =>
    exact .unanswered authentic stale (.overflow decoded reliable unreliable spent)
  | resent decoded reliable unreliable spare encrypted =>
    exact .resent authentic stale decoded reliable unreliable spare encrypted

theorem steps_receive (packet : Bytes) (now : Instant) :
    Steps aead s (.receive packet now) (s.perform aead id (.receive packet now)).1
      (s.perform aead id (.receive packet now)).2 := by
  simp only [perform]
  cases parsed : decodeHeader packet with
  | error e =>
    apply Steps.unauthentic
    simp [authenticate, parsed]
  | ok result =>
    obtain ⟨header, rest⟩ := result
    have cases := s.receive_cases aead packet header (packet.length - rest.length) now
    simp only
    generalize s.receive aead packet header (packet.length - rest.length) now = result at cases ⊢
    cases cases with
    | unauthentic failed =>
      apply Steps.unauthentic
      simp [authenticate, parsed, failed]
    | fresh authentic accepted =>
      exact steps_deliver (by simp only [authenticate, parsed, authentic]) accepted
    | stale authentic rejected =>
      exact steps_answer (by simp only [authenticate, parsed, authentic]) rejected

theorem steps_fired {mrp : MrpState} (reports : Reports s act events mrp) :
    Steps aead s act (.fired (({ s with mrp := mrp }).foldTimerEvents aead id events).1)
      (({ s with mrp := mrp }).foldTimerEvents aead id events).2 := by
  obtain ⟨emitted, spent, folded⟩ := ({ s with mrp := mrp } : Session).foldTimerEvents_folded aead id
    events
  exact .fired reports folded

theorem step_steps (aead : Aead) (id : SessionId) (s : Session) (act : Act) :
    Steps aead s act (s.step aead id act).outcome (s.step aead id act).after := by
  cases act with
  | send nextExchangeId target message now => exact steps_send nextExchangeId target message now
  | receive packet now => exact steps_receive packet now
  | timeout now order => exact steps_fired (.timeout now order)
  | endExchange target abort =>
    cases abort with
    | false => exact steps_fired (.finish target)
    | true => exact steps_fired (.abort target)
  | flush => exact steps_fired .flush

def deliveredMrp (s : Session) (message : ProtocolHeader) (counter : MessageCounter)
    (now : Instant) : MrpState :=
  ((((s.mrp.noteActivity now).track message.inboundExchange).applyAck message.inboundExchange
    message).noteReliable message.inboundExchange message counter now).reclaimIfIdle
      message.inboundExchange

section Packets
variable {packet plaintext appPayload : Bytes} {header : SecuredMessageHeader}
variable {message : ProtocolHeader} {now : Instant}

section
variable (authentic : s.authenticate aead packet = .ok (header, plaintext))
include authentic

theorem of_authenticate :
    ∃ rest, decodeHeader packet = .ok (header, rest) ∧
      decryptSecuredWithHeader aead packet header (packet.length - rest.length) s.inboundKey
        s.peerNonceNodeId = .ok plaintext := by
  unfold authenticate at authentic
  split at authentic
  · cases authentic
  · rename_i parsed
    split at authentic
    · cases authentic
    · rename_i opened
      cases authentic
      exact ⟨_, parsed, opened⟩

theorem perform_receive
    (received : ∀ headerLen, decryptSecuredWithHeader aead packet header headerLen s.inboundKey
      s.peerNonceNodeId = .ok plaintext → s.receive aead packet header headerLen now = parsed) :
    s.perform aead id (.receive packet now) = (.received parsed.1, parsed.2) := by
  obtain ⟨rest, decoded, opened⟩ := of_authenticate authentic
  simp [perform, decoded, received _ opened]

theorem perform_fresh (accepted : s.replayWindow.classify header.messageCounter = .ok ()) :
    let delivered := ({ s with
      replayWindow := s.replayWindow.record header.messageCounter }).deliver header.sessionId
        header.messageCounter plaintext now
    s.perform aead id (.receive packet now) = (.received delivered.1, delivered.2) := by
  apply perform_receive authentic
  intro headerLen opened
  simp [receive, opened, ReplayWindow.checkAndRecord, accepted]

theorem perform_stale (stale : s.replayWindow.classify header.messageCounter = .error replayErr) :
    let answered := s.answerDuplicate aead header.sessionId header.messageCounter plaintext replayErr
    s.perform aead id (.receive packet now) = (.received answered.1, answered.2) := by
  apply perform_receive authentic
  intro headerLen opened
  simp [receive, opened, ReplayWindow.checkAndRecord, stale]

end

/-- The header of a message that is authentic, fresh and well formed. -/
def freshMessage (aead : Aead) (s : Session) (packet : Bytes) : Option ProtocolHeader :=
  match s.authenticate aead packet with
  | .error _ => none
  | .ok (header, plaintext) =>
    match s.replayWindow.classify header.messageCounter, decodeProtocolHeader plaintext with
    | .ok (), .ok (message, _) => some message
    | _, _ => none

theorem freshMessage_eq (authentic : s.authenticate aead packet = .ok (header, plaintext))
    (accepted : s.replayWindow.classify header.messageCounter = .ok ())
    (decoded : decodeProtocolHeader plaintext = .ok (message, appPayload)) :
    s.freshMessage aead packet = some message := by
  simp [freshMessage, authentic, accepted, decoded]

theorem of_freshMessage (fresh : s.freshMessage aead packet = some message) :
    ∃ header plaintext appPayload, s.authenticate aead packet = .ok (header, plaintext) ∧
      s.replayWindow.classify header.messageCounter = .ok () ∧
      decodeProtocolHeader plaintext = .ok (message, appPayload) := by
  unfold freshMessage at fresh
  split at fresh
  · cases fresh
  · rename_i header plaintext authentic
    split at fresh
    · rename_i accepted decoded
      cases fresh
      exact ⟨header, plaintext, _, authentic, accepted, decoded⟩
    · cases fresh

section
variable (authentic : s.authenticate aead packet = .ok (header, plaintext))
  (accepted : s.replayWindow.classify header.messageCounter = .ok ())
  (decoded : decodeProtocolHeader plaintext = .ok (message, appPayload))
include authentic accepted decoded

/-- A fresh message with room for its exchange is delivered. -/
theorem perform_delivers
    (room : message.inboundExchange ∈ s.mrp.exchanges ∨
      s.mrp.exchanges.card < maxExchangesPerSession)
    (payload : message.isStandaloneAck appPayload = false) :
    s.perform aead id (.receive packet now) =
      (.received (.ok (.appMessage header.sessionId message.exchangeId
        message.exchangeFlags.initiator message.protocolId message.opcode appPayload)),
      { s with
        replayWindow := s.replayWindow.record header.messageCounter
        mrp := if s.transportReliable then
            (s.deliveredMrp message header.messageCounter now).cancelPendingOutboundAck
              message.inboundExchange
          else s.deliveredMrp message header.messageCounter now }) := by
  have admitted : ¬ (message.inboundExchange ∉ s.mrp.exchanges ∧
      s.mrp.exchanges.card ≥ maxExchangesPerSession) := by
    rintro ⟨unknown, crowded⟩
    rcases room with known | spare
    · exact unknown known
    · omega
  rw [perform_fresh authentic accepted]
  simp only [deliver, processInbound, decoded, noteActivity, if_neg admitted,
    payload, Bool.false_eq_true, if_false]
  rfl

/-- A fresh message on a new exchange is refused when the table is full, but its
counter is recorded. -/
theorem perform_refuses (unknown : message.inboundExchange ∉ s.mrp.exchanges)
    (crowded : maxExchangesPerSession ≤ s.mrp.exchanges.card) :
    s.perform aead id (.receive packet now) =
      (.received (.error .exchangeTableFull),
      { s with
        replayWindow := s.replayWindow.record header.messageCounter
        mrp := s.mrp.noteActivity now }) := by
  have processed : s.mrp.processInbound plaintext header.messageCounter now =
      (.error .exchangeTableFull, s.mrp.noteActivity now) := by
    simp only [processInbound, decoded]
    exact if_pos ⟨unknown, crowded⟩
  rw [perform_fresh authentic accepted]
  simp [deliver, processed]

end

/-- A message the window rejects is acknowledged again if it asks for it, and fails
for want of a counter. -/
theorem perform_answers (authentic : s.authenticate aead packet = .ok (header, plaintext))
    (stale : s.replayWindow.classify header.messageCounter = .error replayErr)
    (decoded : decodeProtocolHeader plaintext = .ok (message, appPayload))
    (reliable : message.exchangeFlags.reliable = true) (unreliable : s.transportReliable = false) :
    (s.outboundCounter = u32Max →
      (s.perform aead id (.receive packet now)).1 = .received (.error .counterOverflow)) ∧
    (s.outboundCounter ≠ u32Max → ∃ ackPacket,
      (s.perform aead id (.receive packet now)).1 = .received (.ok (.duplicateReliableAckResent
        header.sessionId message.exchangeId ackPacket)) ∧
      s.encryptNext aead (ackPayload (message.inboundExchange, header.messageCounter)) =
        .ok ackPacket) := by
  rw [perform_stale authentic stale]
  simp only [answerDuplicate, decoded, reliable, unreliable, Bool.not_true, Bool.or_self,
    Bool.false_eq_true, if_false, buildStandaloneAckPacket]
  constructor
  · intro spent
    simp [if_pos spent]
  · intro spare
    obtain ⟨ackPacket, encrypted⟩ := s.encryptNext_standaloneAck aead message.exchangeId
      header.messageCounter (!message.exchangeFlags.initiator)
    simp only [if_neg spare, encrypted]
    exact ⟨ackPacket, rfl, encrypted⟩

end Packets

end Session

namespace Outcome

def newPackets : Outcome → List Bytes
  | .sent (.ok output) => [output.wireBytes]
  | .received (.ok (.duplicateReliableAckResent _ _ ackPacket)) => [ackPacket]
  | .fired events => events.filterMap (·.newPacket)
  | _ => []

def retransmits : Outcome → List (MessageCounter × Bytes)
  | .fired events => events.filterMap (·.repeated)
  | _ => []

/-- The acknowledgements a call reports as not sent for want of a counter. -/
def exhausted : Outcome → List MessageCounter
  | .fired events => events.filterMap (·.exhausted)
  | _ => []

end Outcome

namespace Session
variable {aead : Aead} {id : SessionId} {s t : Session} {act : Act} {outcome : Outcome}

theorem Steps.continues (steps : Steps aead s act outcome t) : Continues s t := by
  cases steps with
  | fired reports folded =>
    rw [folded.after]
    rfl
  | overflow | refused | sent | unauthentic | rejected | acked | delivered | unanswered | resent =>
    rfl

theorem Steps.encrypted (steps : Steps aead s act outcome t) :
    ∃ payloads, Sealed aead s s.outboundCounter payloads outcome.newPackets t.outboundCounter := by
  cases steps with
  | sent spare encrypted => exact ⟨_, .single spare encrypted⟩
  | resent authentic stale decoded reliable unreliable spare encrypted =>
    exact ⟨_, .single spare encrypted⟩
  | @fired act events out emitted spent mrp reports folded =>
    have same : Continues s { s with mrp := mrp } := rfl
    exact ⟨_, folded.encrypted.congr same⟩
  | overflow | refused | unauthentic | rejected | acked | delivered | unanswered =>
    exact ⟨[], .nil _⟩

theorem Reports.retains {mrp : MrpState} (reports : Reports s act events mrp) :
    s.mrp.Retains mrp := by
  cases reports with
  | timeout now order => exact (handleTimeout_repeats order).1
  | finish target => exact .of_eq flushExchangeAcksOn_pendingAcks
  | abort target =>
    exact .trans (.of_eq flushExchangeAcksOn_pendingAcks) closeExchangeOn_retains
  | flush => exact .of_eq flushAllAcks_pendingAcks

theorem Steps.stored (steps : Steps aead s act outcome t) (stored : t.mrp.Stores c packet) :
    s.mrp.Stores c packet ∨
      (c = s.outboundCounter ∧ packet ∈ outcome.newPackets ∧ counterOf packet = some c) := by
  cases steps with
  | overflow | refused | unauthentic | unanswered => exact Or.inl stored
  | sent spare encrypted =>
    rcases commitSend_stores stored with old | ⟨same, rfl⟩
    · exact Or.inl old
    · subst same
      exact Or.inr ⟨rfl, List.mem_singleton_self _, counterOf_encodeSecured encrypted⟩
  | rejected authentic accepted inbound | acked authentic accepted inbound =>
    exact Or.inl (stored.of_retains inbound.retains)
  | delivered authentic accepted inbound =>
    refine Or.inl (MrpState.Stores.of_retains inbound.retains ?_)
    split at stored <;> exact stored
  | resent =>
    exact Or.inl (stored.of_retains (.of_eq forgetAckFor_pendingAcks))
  | fired reports folded =>
    rw [folded.after] at stored
    exact Or.inl (stored.of_retains reports.retains)

theorem Reports.stored {mrp : MrpState} (reports : Reports s act events mrp)
    (member : .retransmit x c packet ∈ events) : s.mrp.Stores c packet := by
  cases reports with
  | timeout now order => exact (handleTimeout_repeats order).2 x c packet member
  | finish target | abort target =>
    obtain ⟨p, k, fires⟩ := flushExchangeAcksOn_acks member
    cases fires
  | flush =>
    obtain ⟨p, k, fires⟩ := flushExchanges_acks member
    cases fires

theorem Steps.repeats (steps : Steps aead s act outcome t) :
    ∀ e ∈ outcome.retransmits, s.mrp.Stores e.1 e.2 := by
  intro e member
  cases steps with
  | fired reports folded =>
    simp only [Outcome.retransmits, folded.repeated, List.mem_filterMap] at member
    obtain ⟨event, inside, repeated⟩ := member
    cases event with
    | retransmit x c packet =>
      cases repeated
      exact reports.stored inside
    | standaloneAckDeadlineFired | expired => cases repeated
  | overflow | refused | sent | unauthentic | rejected | acked | delivered | unanswered | resent =>
    cases member

end Session

end Matter.Transport
