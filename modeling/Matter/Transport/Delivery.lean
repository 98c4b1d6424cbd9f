import Matter.Crypto.Aes
import Matter.Transport.Flood
import Matter.Transport.Ledger

/-! What an acknowledgement says. Piggybacked and standalone acknowledgements are of
delivered messages. A duplicate is acknowledged without looking back, so it was
delivered exactly if the exchange table had room for it when it first arrived: its
counter is recorded before the table is consulted. -/
namespace Matter.Transport
open Crypto

/-- The packet an act hands to the session. -/
def Act.packet : Act → Option Bytes
  | .receive packet _ => some packet
  | _ => none

def Outcome.delivered : Outcome → Bool
  | .received (.ok (.appMessage ..)) => true
  | _ => false

def Outcome.answered : Outcome → Bool
  | .received (.ok (.duplicateReliableAckResent ..)) => true
  | _ => false

def Step.Delivers (step : Step) (packet : Bytes) : Prop :=
  step.act.packet = some packet ∧ step.outcome.delivered = true

/-- The packet arrives in the step and the replay window accepts it. -/
def Step.Hears (aead : Aead) (step : Step) (packet : Bytes) : Prop :=
  step.act.packet = some packet ∧ (step.heard aead).isSome = true

namespace Session
variable {aead : Aead} {id : SessionId} {s t : Session} {act : Act} {outcome : Outcome}

/-- The packet is a fresh message on a new exchange, and the table is full. -/
def refuses (aead : Aead) (s : Session) (packet : Bytes) : Bool :=
  (s.freshMessage aead packet).any fun message =>
    message.inboundExchange ∉ s.mrp.exchanges ∧ s.mrp.exchanges.card ≥ maxExchangesPerSession

/-- Only debts are acknowledged, except in the answer to a duplicate. -/
theorem Steps.acknowledged_owed (steps : Steps aead s act outcome t)
    (unreliable : s.transportReliable = false) (unanswered : outcome.answered = false) :
    ∀ e ∈ Step.acknowledged aead ⟨s, act, outcome, t⟩, e ∈ s.mrp.owed := by
  intro e member
  obtain ⟨spent, _, perm⟩ := steps.balanced unreliable
  cases outcome with
  | received result =>
    cases result with
    | error => cases member
    | ok output =>
      cases output with
      | appMessage | ackOnly => cases member
      | duplicateReliableAckResent => cases unanswered
  | sent result | fired events =>
    have inside : e ∈ s.mrp.owed ++ [] := by
      apply perm.mem_iff.mpr
      exact List.mem_append_right _ (List.mem_append_left _ member)
    rwa [List.append_nil] at inside

theorem Continues.authenticate (continues : Continues s t) (packet : Bytes) :
    t.authenticate aead packet = s.authenticate aead packet := by
  rw [continues]
  rfl

theorem trace_continues {step : Step} (member : step ∈ s.trace aead id acts) :
    Continues s step.before := by
  induction acts generalizing s with
  | nil => cases member
  | cons act acts ih =>
    rcases List.mem_cons.mp member with rfl | later
    · exact .refl s
    · exact (step_steps aead id s act).continues.trans (ih later)

theorem run_continues (aead : Aead) (id : SessionId) (s : Session) (acts : List Act) :
    Continues s (s.run aead id acts) := by
  induction acts generalizing s with
  | nil => exact .refl s
  | cons act acts ih => exact (step_steps aead id s act).continues.trans (ih _)

section Packets
variable {packet plaintext appPayload : Bytes} {header : SecuredMessageHeader}
variable {message : ProtocolHeader} {now : Instant}

/-- A fresh message is delivered unless it is refused. -/
theorem step_delivered (authentic : s.authenticate aead packet = .ok (header, plaintext))
    (accepted : s.replayWindow.classify header.messageCounter = .ok ())
    (decoded : decodeProtocolHeader plaintext = .ok (message, appPayload))
    (payload : message.isStandaloneAck appPayload = false) :
    (s.step aead id (.receive packet now)).outcome.delivered = !s.refuses aead packet := by
  rw [refuses, freshMessage_eq authentic accepted decoded, Option.any_some]
  by_cases room : message.inboundExchange ∈ s.mrp.exchanges ∨
      s.mrp.exchanges.card < maxExchangesPerSession
  · have performed : s.perform aead id (.receive packet now) = _ :=
      perform_delivers authentic accepted decoded room payload
    have outcome : (s.step aead id (.receive packet now)).outcome = _ :=
      congrArg Prod.fst performed
    rw [outcome]
    have kept : ¬ (message.inboundExchange ∉ s.mrp.exchanges ∧
        s.mrp.exchanges.card ≥ maxExchangesPerSession) := by
      rintro ⟨unknown, crowded⟩
      rcases room with known | spare
      · exact unknown known
      · omega
    rw [decide_eq_false kept]
    rfl
  · obtain ⟨unknown, crowded⟩ := not_or.mp room
    have performed : s.perform aead id (.receive packet now) = _ :=
      perform_refuses authentic accepted decoded unknown (Nat.le_of_not_lt crowded)
    have outcome : (s.step aead id (.receive packet now)).outcome = _ :=
      congrArg Prod.fst performed
    have refused : message.inboundExchange ∉ s.mrp.exchanges ∧
        s.mrp.exchanges.card ≥ maxExchangesPerSession := ⟨unknown, Nat.le_of_not_lt crowded⟩
    rw [outcome, decide_eq_true refused]
    rfl

/-- A delivered message is fresh. -/
theorem Steps.heard_of_delivered (steps : Steps aead s (.receive packet now) outcome t)
    (delivered : outcome.delivered = true) :
    (Step.heard aead ⟨s, .receive packet now, outcome, t⟩).isSome = true := by
  cases steps with
  | delivered authentic accepted =>
    rw [Step.heard_of_accepted authentic accepted]
    rfl
  | unauthentic | rejected | acked | unanswered | resent | fired => cases delivered

end Packets

end Session

open Session

theorem eq_of_nodup_filterMap {l : List α} (distinct : (l.filterMap f).Nodup) (member : a ∈ l)
    (member' : a' ∈ l) (value : f a = some b) (value' : f a' = some b) : a = a' := by
  induction l with
  | nil => cases member
  | cons x l ih =>
    have later : ∀ {y : α}, y ∈ l → f y = some b → b ∈ l.filterMap f :=
      fun inside gives => List.mem_filterMap.mpr ⟨_, inside, gives⟩
    rw [filterMap_cons_toList] at distinct
    obtain ⟨_, rest, apart⟩ := List.nodup_append.mp distinct
    rcases List.mem_cons.mp member with rfl | inside <;>
      rcases List.mem_cons.mp member' with rfl | inside'
    · rfl
    · exact absurd rfl (apart b (by simp [value]) b (later inside' value'))
    · exact absurd rfl (apart b (by simp [value']) b (later inside value))
    · exact ih rest inside inside'

namespace Session
variable {aead : Aead} {id : SessionId} {s : Session}
variable {packet plaintext appPayload : Bytes} {header : SecuredMessageHeader}
variable {message : ProtocolHeader}

theorem heard_delivered {step : Step} (taken : step = step.before.step aead id step.act)
    (authentic : step.before.authenticate aead packet = .ok (header, plaintext))
    (decoded : decodeProtocolHeader plaintext = .ok (message, appPayload))
    (reliable : message.exchangeFlags.reliable = true) (hears : step.Hears aead packet) :
    step.heard aead = some header.messageCounter ∧
      step.outcome.delivered = !step.before.refuses aead packet := by
  obtain ⟨before, act, outcome, after⟩ := step
  obtain ⟨carries, fresh⟩ := hears
  cases act with
  | receive p now =>
    cases carries
    cases verdict : before.replayWindow.classify header.messageCounter with
    | error replayErr =>
      rw [Step.heard_of_stale authentic verdict] at fresh
      cases fresh
    | ok =>
      have payload : message.isStandaloneAck appPayload = false := by
        simp [ProtocolHeader.isStandaloneAck, reliable]
      refine ⟨Step.heard_of_accepted authentic verdict, ?_⟩
      rw [taken]
      exact step_delivered authentic verdict decoded payload
  | send | timeout | endExchange | flush => cases carries

/-- A fresh message that asks for an acknowledgement is delivered in a run exactly if
it is not refused when it is heard. -/
theorem trace_delivers (represents : s.replayWindow.Represents accepted) {first : Step}
    (member : first ∈ s.trace aead id acts)
    (authentic : s.authenticate aead packet = .ok (header, plaintext))
    (decoded : decodeProtocolHeader plaintext = .ok (message, appPayload))
    (reliable : message.exchangeFlags.reliable = true) (hears : first.Hears aead packet) :
    (∃ step ∈ s.trace aead id acts, step.Delivers packet) ↔
      first.before.refuses aead packet = false := by
  have each : ∀ step ∈ s.trace aead id acts, step.Hears aead packet →
      step.heard aead = some header.messageCounter ∧
        step.outcome.delivered = !step.before.refuses aead packet := by
    intro step inside
    apply heard_delivered (mem_trace inside) _ decoded reliable
    rw [(trace_continues inside).authenticate, authentic]
  obtain ⟨heard, delivered⟩ := each first member hears
  constructor
  · rintro ⟨step, inside, carries, done⟩
    have again : step.Hears aead packet := by
      refine ⟨carries, ?_⟩
      obtain ⟨before, act, outcome, after⟩ := step
      have steps := step_steps aead id before act
      rw [← mem_trace inside] at steps
      cases act with
      | receive p now => exact steps.heard_of_delivered done
      | send | timeout | endExchange | flush => cases carries
    have same := eq_of_nodup_filterMap (trace_heard aead id represents acts).1 inside member
      (each step inside again).1 heard
    rw [same, delivered] at done
    exact Bool.not_eq_true' _ |>.mp done
  · intro admitted
    refine ⟨first, member, hears.1, ?_⟩
    rw [delivered, admitted]
    rfl

/-- A duplicate that is answered is well formed and asks for an acknowledgement. -/
theorem of_answered (answered : (s.step aead id act).outcome.answered = true)
    (carries : act.packet = some packet) :
    ∃ header plaintext message appPayload,
      s.authenticate aead packet = .ok (header, plaintext) ∧
      decodeProtocolHeader plaintext = .ok (message, appPayload) ∧
      message.exchangeFlags.reliable = true := by
  have steps := step_steps aead id s act
  generalize (s.step aead id act).outcome = outcome at steps answered
  generalize (s.step aead id act).after = t at steps
  cases steps with
  | resent authentic stale decoded reliable =>
    cases carries
    exact ⟨_, _, _, _, authentic, decoded, reliable⟩
  | overflow | refused | sent | unauthentic | rejected | acked | delivered | unanswered | fired =>
    cases answered

end Session

namespace SessionManager

/-- The operation brings session `id` a fresh message it has no room for. -/
def Refuses (aead : Aead) (id : SessionId) (m : SessionManager) (op : Operation) : Prop :=
  ∃ s act packet, m.sessions.lookup id = some s ∧ op.actOn id m.nextExchangeId = some act ∧
    act.packet = some packet ∧ s.refuses aead packet = true

end SessionManager

open SessionManager in
/-- In every run after a registration: what is acknowledged, other than in the answer
to a duplicate, was delivered before. A duplicate that is answered, and was fresh when
it first arrived, was delivered exactly if it was not refused then for want of room in
the exchange table. So in a run that refuses no fresh message, acknowledged means
delivered. -/
theorem acknowledged_means_delivered (aead : Aead) (m : SessionManager) (r : Registration)
    (draws : Draws) (ops : List Operation) :
    let start := m.register r draws
    let steps := start.trace aead r.localId ops
    (∀ pre step post, steps = pre ++ step :: post →
      (step.outcome.answered = false →
        ∀ e ∈ step.acknowledged aead, ∃ first ∈ pre, first.promise aead = some e) ∧
      (step.outcome.answered = true → ∀ packet, step.act.packet = some packet →
        ∀ first ∈ pre, first.Hears aead packet →
          ((∃ earlier ∈ pre, earlier.Delivers packet) ↔
            first.before.refuses aead packet = false))) ∧
    (Runs.EveryStep (next aead) (fun m op => ¬ Refuses aead r.localId m op) start ops →
      ∀ pre step post, steps = pre ++ step :: post → step.outcome.answered = true →
        ∀ packet, step.act.packet = some packet → (∃ first ∈ pre, first.Hears aead packet) →
          ∃ earlier ∈ pre, earlier.Delivers packet) := by
  intro start steps
  have session := SessionManager.run_session aead (m.lookup_register r draws) ops
  generalize (m.register r draws).acts aead r.localId ops = acts at session
  obtain ⟨(traced : steps = _), _⟩ := session
  have split : ∀ pre step post, steps = pre ++ step :: post →
      (step.outcome.answered = false →
        ∀ e ∈ step.acknowledged aead, ∃ first ∈ pre, first.promise aead = some e) ∧
      (step.outcome.answered = true → ∀ packet, step.act.packet = some packet →
        ∀ first ∈ pre, first.Hears aead packet →
          ((∃ earlier ∈ pre, earlier.Delivers packet) ↔
            first.before.refuses aead packet = false)) := by
    intro pre step post whole
    rw [traced] at whole
    obtain ⟨front, act, rfl, rfl⟩ := trace_split whole
    have continues := (m.freshSession r draws).run_continues aead r.localId front
    constructor
    · intro unanswered e member
      have owed := (step_steps aead r.localId _ act).acknowledged_owed
        continues.transportReliable unanswered e member
      obtain ⟨spent, _, perm⟩ := trace_balances (s := m.freshSession r draws) aead r.localId
        rfl front
      have made := perm.mem_iff.mpr (List.mem_append_left _ owed)
      exact List.mem_filterMap.mp made
    · intro answered packet carries first inside hears
      obtain ⟨header, plaintext, message, appPayload, authentic, decoded, reliable⟩ :=
        of_answered answered carries
      rw [continues.authenticate] at authentic
      exact trace_delivers ReplayWindow.represents_new inside authentic decoded reliable hears
  refine ⟨split, ?_⟩
  intro roomy pre step post whole answered packet carries
  rintro ⟨first, member, hears⟩
  apply ((split pre step post whole).2 answered packet carries first member hears).mpr
  have inside : first ∈ steps := by
    rw [whole]
    exact List.mem_append_left _ member
  obtain ⟨before, op, within, found, addressed, _⟩ :=
    of_mem_trace (m.lookup_register r draws) inside
  apply Bool.eq_false_iff.mpr
  intro refused
  exact roomy before op within ⟨first.before, first.act, packet, found, addressed, hears.1, refused⟩

section Again
variable {aead : Aead} {m : SessionManager} {s : Session}

theorem Session.counterOf_request (aead : Aead) (s : Session) (counter : MessageCounter)
    (exchangeId : UInt16) : counterOf (s.request aead counter exchangeId) = some counter := by
  obtain ⟨rest, parsed, _⟩ := of_authenticate
    (authenticate_request (s := s) counter exchangeId : s.authenticate aead _ = _)
  rw [counterOf, parsed]
  rfl

/-- The request that finds the table full is not part of the flood. -/
theorem SessionManager.notMem_flood (now : Instant) :
    .decodeInbound (s.request aead 257 256) now ∉ flood aead s maxExchangesPerSession := by
  intro member
  obtain ⟨i, inside, same⟩ := List.mem_map.mp member
  obtain ⟨packet, _⟩ := Operation.decodeInbound.inj same
  have counters := congrArg counterOf packet
  rw [counterOf_request, counterOf_request] at counters
  have numbers := congrArg UInt32.toNat (Option.some.inj counters)
  have bound := List.mem_range.mp inside
  unfold maxExchangesPerSession at bound
  rw [UInt32.toNat_ofNat'] at numbers
  simp only [UInt32.reduceToNat] at numbers
  omega

/-- The same request again is acknowledged, though it was refused. -/
theorem SessionManager.decodeInbound_again (aead : Aead)
    (found : m.sessions.lookup s.localId = some s) (start : s.Flooded 0)
    (unreliable : s.transportReliable = false) :
    let packet := s.request aead 257 256
    let first := (m.run aead (flood aead s maxExchangesPerSession)).decodeInbound aead packet 0
    ∃ ackPacket, (first.2.decodeInbound aead packet 0).1 =
        .ok (.duplicateReliableAckResent s.localId 256 ackPacket) ∧
      s.ackOf aead ackPacket = some (⟨256, false⟩, 257) := by
  intro packet first
  obtain ⟨_, t, left, continues, heard, spare⟩ := decodeInbound_flooded aead found start
  have same : t.localId = s.localId := by rw [continues]
  have sent : t.request aead 257 256 = packet := continues.request 257 256
  rw [← same] at left
  obtain ⟨answer, _⟩ := decodeInbound_request aead left 257 256 0
  have stale : t.replayWindow.classify 257 = .error (.replayedCounter 257) := by
    rw [ReplayWindow.classify, heard]
    rfl
  have answers : (t.outboundCounter = u32Max → (t.perform aead t.localId (.receive
      (t.request aead 257 256) 0)).1 = _) ∧ _ :=
    perform_answers (authenticate_request 257 256) stale (decode_request 256)
      rfl (continues.transportReliable.trans unreliable)
  obtain ⟨ackPacket, outcome, encrypted⟩ := answers.2 spare
  refine ⟨ackPacket, ?_, ?_⟩
  · rw [← same, ← sent]
    exact Outcome.received.inj (answer.trans outcome)
  · have read := (ackOf_encryptNext encrypted).trans (ackIn_ackPayload _)
    rw [continues] at read
    exact read

end Again

open SessionManager in
/-- A message that was refused is acknowledged when it is sent again. -/
theorem refused_message_is_acknowledged :
    let start := (SessionManager.new 1).register pairing pairingDraws
    let s := (SessionManager.new 1).freshSession pairing pairingDraws
    let packet := s.request Aead.aes128Ccm 257 256
    let ops := SessionManager.flood Aead.aes128Ccm s maxExchangesPerSession
    let first := (start.run Aead.aes128Ccm ops).decodeInbound Aead.aes128Ccm packet 0
    (∀ now, .decodeInbound packet now ∉ ops) ∧ first.1 = .error .exchangeTableFull ∧
    ∃ ackPacket, (first.2.decodeInbound Aead.aes128Ccm packet 0).1 =
        .ok (.duplicateReliableAckResent s.localId 256 ackPacket) ∧
      s.ackOf Aead.aes128Ccm ackPacket = some (⟨256, false⟩, 257) := by
  have found : ((SessionManager.new 1).register pairing pairingDraws).sessions.lookup
      ((SessionManager.new 1).freshSession pairing pairingDraws).localId = some _ :=
    lookup_register _ _ _
  have empty : ((SessionManager.new 1).freshSession pairing pairingDraws).Flooded 0 :=
    ⟨by decide, rfl, rfl, fun _ member => absurd member (Finset.notMem_empty _)⟩
  exact ⟨fun now => notMem_flood now, (decodeInbound_flooded Aead.aes128Ccm found empty).1,
    decodeInbound_again Aead.aes128Ccm found empty rfl⟩

/-! What is handed to the application. -/

/-- The step hands over what the packet holds under the keys of the session. -/
def Step.HandsOver (aead : Aead) (s : Session) (step : Step) (packet : Bytes) : Prop :=
  ∃ header plaintext message appPayload,
    s.authenticate aead packet = .ok (header, plaintext) ∧
    decodeProtocolHeader plaintext = .ok (message, appPayload) ∧
    step.heard aead = some header.messageCounter ∧
    step.outcome = .received (.ok (.appMessage header.sessionId message.exchangeId
      message.exchangeFlags.initiator message.protocolId message.opcode appPayload))

theorem Session.handsOver_of_delivers {s : Session} {id : SessionId} {step : Step}
    (member : step ∈ s.trace aead id acts) (delivers : step.Delivers packet) :
    step.HandsOver aead s packet := by
  have taken := mem_trace member
  have continues := trace_continues member
  obtain ⟨before, act, outcome, after⟩ := step
  obtain ⟨carries, delivered⟩ := delivers
  have steps := step_steps aead id before act
  rw [← taken] at steps
  change Steps aead before act outcome after at steps
  cases steps with
  | delivered authentic accepted inbound =>
    cases carries
    cases inbound with
    | app decoded =>
      refine ⟨_, _, _, _, ?_, decoded, Step.heard_of_accepted authentic accepted, rfl⟩
      rw [← continues.authenticate, authentic]
  | overflow | refused | sent | unauthentic | rejected | acked | unanswered | resent | fired =>
    cases delivered

open SessionManager in
/-- In every run after a registration, what is handed over was encrypted under the keys of
the session, and no two packets that are handed over have the same counter. -/
theorem delivered_at_most_once (aead : Aead) (m : SessionManager) (r : Registration)
    (draws : Draws) (ops : List Operation) :
    let steps := (m.register r draws).trace aead r.localId ops
    (∀ step ∈ steps, ∀ packet, step.Delivers packet →
      step.HandsOver aead (m.freshSession r draws) packet) ∧
    steps.Pairwise fun earlier later => ∀ p q, earlier.Delivers p → later.Delivers q →
      counterOf p ≠ counterOf q := by
  intro steps
  have traced : steps = _ := (run_session aead (m.lookup_register r draws) ops).1
  generalize (m.register r draws).acts aead r.localId ops = acts at traced
  have fresh := (trace_heard (s := m.freshSession r draws) aead r.localId
    ReplayWindow.represents_new acts).1
  rw [traced]
  refine ⟨fun step member packet => handsOver_of_delivers member, ?_⟩
  refine (List.pairwise_filterMap.mp fresh).imp_of_mem ?_
  intro earlier later member member' apart p q delivers delivers' same
  obtain ⟨_, _, _, _, authentic, _, heard, _⟩ := handsOver_of_delivers member delivers
  obtain ⟨_, _, _, _, authentic', _, heard', _⟩ := handsOver_of_delivers member' delivers'
  obtain ⟨_, parsed, _⟩ := of_authenticate authentic
  obtain ⟨_, parsed', _⟩ := of_authenticate authentic'
  rw [counterOf, counterOf, parsed, parsed'] at same
  exact apart _ heard _ heard' (Option.some.inj same)

end Matter.Transport
