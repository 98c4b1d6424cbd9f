import Matter.Transport.Debts

/-! Every acknowledgement is accounted for. A delivered message that asks for one
incurs a debt, and along every run of the manager each debt is still owed, or was
discharged by one packet, or was dropped from a full queue, or fell due when the
session had no counter left. -/
namespace Matter.Transport
open Crypto

/-- The acknowledgement a message of ours carries, with its exchange. -/
def ackIn (payload : Bytes) : Option (ExchangeKey × MessageCounter) :=
  match decodeProtocolHeader payload with
  | .error _ => none
  | .ok (header, _) =>
    header.ackCounter.map fun c => (⟨header.exchangeId, header.exchangeFlags.initiator⟩, c)

theorem ackIn_encode (header : ProtocolHeader) (tail : Bytes)
    (plain : header.exchangeFlags.secureExtension = false) :
    ackIn (encodeProtocolHeader header ++ tail) =
      header.ackCounter.map fun c => (⟨header.exchangeId, header.exchangeFlags.initiator⟩, c) := by
  rw [ackIn, decodeProtocolHeader_encode header tail plain]
  rfl

theorem ackIn_ackPayload (debt : ExchangeKey × MessageCounter) :
    ackIn (ackPayload debt) = some debt := by
  have read := ackIn_encode (buildStandaloneAckHeader debt.1.id debt.2 debt.1.isLocalInitiator) []
    rfl
  exact read

/-- A message carries the acknowledgement buffered on its exchange. -/
theorem MrpState.ackIn_buildOutbound (s : MrpState) (opcode : UInt8) (protocolId : ProtocolId)
    (k : ExchangeKey) (appPayload : Bytes) (flags : MrpFlags) :
    (ackIn (s.buildOutbound opcode protocolId k appPayload flags).wirePayload).toList =
      s.bufferedOn k := by
  unfold buildOutbound bufferedOn
  rw [ackIn_encode _ _ rfl]
  cases s.pendingOutboundAcks.lookup k <;> rfl

namespace Session
variable {aead : Aead} {s : Session}

/-- The acknowledgement in a packet of this session, read with its own key. -/
def ackOf (aead : Aead) (s : Session) (packet : Bytes) : Option (ExchangeKey × MessageCounter) :=
  match decodeHeader packet with
  | .error _ => none
  | .ok (header, rest) =>
    match decryptSecuredWithHeader aead packet header (packet.length - rest.length) s.outboundKey
      s.localNonceNodeId with
    | .error _ => none
    | .ok payload => ackIn payload

theorem ackOf_encryptNext (encrypted : s.encryptNext aead payload = .ok packet) :
    s.ackOf aead packet = ackIn payload := by
  obtain ⟨body, parsed, opened⟩ := decode_encodeSecured encrypted
  simp [ackOf, parsed, opened]

theorem Sealed.filterMap_ackOf (encrypted : Sealed aead s c payloads packets c') :
    packets.filterMap (s.ackOf aead) = payloads.filterMap ackIn := by
  induction encrypted with
  | nil => rfl
  | cons spare encrypted _ ih =>
    have read := ackOf_encryptNext encrypted
    rw [List.filterMap_cons, List.filterMap_cons, ← read, ih]
    rfl

/-- The debt an authentic message asks to incur. -/
def asks (aead : Aead) (s : Session) (packet : Bytes) : Option (ExchangeKey × MessageCounter) :=
  match s.authenticate aead packet with
  | .error _ => none
  | .ok (header, plaintext) =>
    match decodeProtocolHeader plaintext with
    | .error _ => none
    | .ok (message, _) =>
      if message.exchangeFlags.reliable then
        some (message.inboundExchange, header.messageCounter)
      else none

end Session

namespace Step
variable (aead : Aead) (step : Step)

/-- The debt incurred by delivering a message. -/
def promise : Option (ExchangeKey × MessageCounter) :=
  match step.outcome, step.act with
  | .received (.ok (.appMessage ..)), .receive packet _ => step.before.asks aead packet
  | _, _ => none

/-- The acknowledgements in the packets built in the step. -/
def acknowledged : List (ExchangeKey × MessageCounter) :=
  step.outcome.newPackets.filterMap (step.before.ackOf aead)

/-- The debts the step discharges. An answer to a duplicate discharges what is owed
for its counter. -/
def discharged : List (ExchangeKey × MessageCounter) :=
  match step.outcome with
  | .received _ => step.before.mrp.owed.filter fun e => e.2 ∈ (step.acknowledged aead).map (·.2)
  | _ => step.acknowledged aead

/-- The debts dropped for a new one because the queue is full. -/
def dropped : List (ExchangeKey × MessageCounter) :=
  (step.promise aead).toList.flatMap fun e => step.before.mrp.dropped e.1

/-- The counter of an authentic message that arrives. -/
def arrival : Option MessageCounter :=
  match step.act with
  | .receive packet _ =>
    (step.before.authenticate aead packet).toOption.map (·.1.messageCounter)
  | _ => none

/-- The counter of an authentic message that the replay window accepts. -/
def heard : Option MessageCounter :=
  (step.arrival aead).filter fun c => (step.before.replayWindow.classify c).isOk

/-- The counter of an authentic message that the replay window rejects. -/
def duplicate : Option MessageCounter :=
  (step.arrival aead).filter fun c => !(step.before.replayWindow.classify c).isOk

variable {aead} {s t : Session} {packet plaintext : Bytes} {header : SecuredMessageHeader}
variable {now : Instant} {outcome : Outcome}

theorem arrival_eq (authentic : s.authenticate aead packet = .ok (header, plaintext)) :
    arrival aead ⟨s, .receive packet now, outcome, t⟩ = some header.messageCounter := by
  simp only [arrival, authentic]
  rfl

theorem heard_of_accepted (authentic : s.authenticate aead packet = .ok (header, plaintext))
    (accepted : s.replayWindow.classify header.messageCounter = .ok ()) :
    heard aead ⟨s, .receive packet now, outcome, t⟩ = some header.messageCounter := by
  rw [heard, arrival_eq authentic, Option.filter_some, accepted]
  rfl

variable {replayErr : Error}

section
variable (authentic : s.authenticate aead packet = .ok (header, plaintext))
  (stale : s.replayWindow.classify header.messageCounter = .error replayErr)
include authentic stale

theorem heard_of_stale : heard aead ⟨s, .receive packet now, outcome, t⟩ = none := by
  rw [heard, arrival_eq authentic, Option.filter_some, stale]
  rfl

theorem duplicate_of_stale :
    duplicate aead ⟨s, .receive packet now, outcome, t⟩ = some header.messageCounter := by
  rw [duplicate, arrival_eq authentic, Option.filter_some, stale]
  rfl

end

end Step

open Step

/-- What was owed or incurred is still owed, or discharged, dropped or exhausted. An
exhausted debt is reported by its counter only. -/
def Balances (before incurred after discharged dropped : List (ExchangeKey × MessageCounter))
    (exhausted : List MessageCounter) : Prop :=
  ∃ spent, spent.map (·.2) = exhausted ∧
    (before ++ incurred).Perm (after ++ (discharged ++ (dropped ++ spent)))

theorem Balances.refl (owed : List (ExchangeKey × MessageCounter)) :
    Balances owed [] owed [] [] [] :=
  ⟨[], rfl, List.Perm.refl _⟩

theorem Balances.trans (first : Balances a i b d p x) (second : Balances b i' c d' p' x') :
    Balances a (i ++ i') c (d ++ d') (p ++ p') (x ++ x') := by
  obtain ⟨spent, rfl, one⟩ := first
  obtain ⟨spent', rfl, two⟩ := second
  refine ⟨spent ++ spent', List.map_append, ?_⟩
  apply List.perm_iff_count.mpr
  intro e
  have before := List.perm_iff_count.mp one e
  have after := List.perm_iff_count.mp two e
  simp only [List.count_append] at before after ⊢
  omega

namespace Session
variable {aead : Aead} {id : SessionId} {s t : Session} {act : Act} {outcome : Outcome}

theorem asks_eq (authentic : s.authenticate aead packet = .ok (header, plaintext))
    (decoded : decodeProtocolHeader plaintext = .ok (message, appPayload)) :
    s.asks aead packet = if message.exchangeFlags.reliable then
      some (message.inboundExchange, header.messageCounter) else none := by
  simp [asks, authentic, decoded]

theorem Reports.owed {mrp : MrpState} (reports : Reports s act events mrp) :
    s.mrp.owed.Perm (events.filterMap (·.ack) ++ mrp.owed) := by
  cases reports with
  | timeout now order => exact s.mrp.owed_handleTimeout now order
  | finish target => exact s.mrp.owed_flushExchangeAcksOn _
  | abort target =>
    rw [MrpState.owed_closeExchangeOn]
    exact s.mrp.owed_flushExchangeAcksOn _
  | flush => exact s.mrp.owed_flushExchanges _

end Session

def Step.Balanced (aead : Aead) (step : Step) : Prop :=
  Balances step.before.mrp.owed (step.promise aead).toList step.after.mrp.owed
    (step.discharged aead) (step.dropped aead) step.outcome.exhausted

theorem Step.discharged_of_silent {step : Step} (aead : Aead)
    (silent : step.outcome.newPackets = []) : step.discharged aead = [] := by
  have nothing : step.acknowledged aead = [] := by
    rw [acknowledged, silent]
    rfl
  unfold discharged
  split <;> simp [nothing]

/-- A step that builds no packet and delivers no message that asks for an
acknowledgement keeps the debts. -/
theorem Step.balanced_of_silent {step : Step} (silent : step.outcome.newPackets = [])
    (unspent : step.outcome.exhausted = []) (none : step.promise aead = none)
    (same : step.after.mrp.owed = step.before.mrp.owed) : step.Balanced aead := by
  rw [Balanced, same, discharged_of_silent aead silent, unspent, dropped, none]
  exact .refl _

namespace Session
variable {aead : Aead} {id : SessionId} {s t : Session} {act : Act} {outcome : Outcome}

theorem balanced_sent
    (encrypted : s.encryptNext aead (s.prepare nextExchangeId target message).wirePayload =
      .ok output.wireBytes) :
    Step.Balanced aead ⟨s, .send nextExchangeId target message now, .sent (.ok output),
      s.commitSend (s.prepare nextExchangeId target message) output.wireBytes
        (s.effectiveReliable message) now⟩ := by
  have buffered := s.mrp.ackIn_buildOutbound message.opcode message.protocolId
    (s.outboundExchange nextExchangeId target) message.appPayload ⟨s.effectiveReliable message⟩
  have taken := s.mrp.owed_commitOutbound message.opcode message.protocolId message.appPayload
    ⟨s.effectiveReliable message⟩ (k := s.outboundExchange nextExchangeId target)
  refine ⟨[], rfl, ?_⟩
  have carried : discharged aead ⟨s, .send nextExchangeId target message now,
      .sent (.ok output), s.commitSend (s.prepare nextExchangeId target message) output.wireBytes
        (s.effectiveReliable message) now⟩ =
      s.mrp.bufferedOn (s.outboundExchange nextExchangeId target) := by
    rw [← buffered]
    simp only [discharged, acknowledged, Outcome.newPackets, List.filterMap_cons,
      List.filterMap_nil, ackOf_encryptNext encrypted]
    unfold prepare
    cases ackIn _ <;> rfl
  rw [carried]
  simp only [promise, dropped, commitSend, MrpState.owed_markPacketSentOn,
    Option.toList_none, List.flatMap_nil, List.append_nil]
  exact taken.trans List.perm_append_comm

theorem balanced_delivered {header : SecuredMessageHeader}
    (authentic : s.authenticate aead packet = .ok (header, plaintext))
    (decoded : decodeProtocolHeader plaintext = .ok (message, appPayload))
    (same : t.mrp = s.deliveredMrp message header.messageCounter now) :
    Step.Balanced aead ⟨s, .receive packet now, .received (.ok (.appMessage sessionId exchangeId
      isInitiator protocolId opcode appPayload)), t⟩ := by
  have asked := asks_eq authentic decoded
  cases reliable : message.exchangeFlags.reliable with
  | false =>
    apply balanced_of_silent rfl rfl
    · simp [promise, asked, reliable]
    · simp only [same, deliveredMrp, MrpState.owed_reclaimIfIdle, MrpState.noteReliable, reliable,
        Bool.false_eq_true, if_false, MrpState.owed_applyAck]
      rfl
  | true =>
    have incurred := (((s.mrp.noteActivity now).track message.inboundExchange).applyAck
      message.inboundExchange message).owed_owe message.inboundExchange header.messageCounter now
    rw [MrpState.dropped_applyAck, MrpState.owed_applyAck] at incurred
    refine ⟨[], rfl, ?_⟩
    rw [discharged_of_silent aead rfl]
    simp only [promise, dropped, asked, reliable, if_true, same, deliveredMrp, MrpState.noteReliable,
      MrpState.owed_reclaimIfIdle, Option.toList_some, List.flatMap_cons, List.flatMap_nil,
      List.append_nil, List.nil_append]
    exact incurred

section
variable (steps : Steps aead s act outcome t)
include steps

theorem Steps.balanced (unreliable : s.transportReliable = false) :
    Step.Balanced aead ⟨s, act, outcome, t⟩ := by
  cases steps with
  | overflow | refused | unauthentic | unanswered =>
    exact balanced_of_silent rfl rfl rfl rfl
  | sent spare encrypted => exact balanced_sent encrypted
  | rejected authentic accepted inbound =>
    apply balanced_of_silent rfl rfl rfl
    cases inbound with
    | malformed | full => rfl
  | acked authentic accepted inbound =>
    apply balanced_of_silent rfl rfl rfl
    cases inbound with
    | ackOnly =>
      simp only [MrpState.owed_reclaimIfIdle, MrpState.owed_applyAck]
      rfl
  | delivered authentic accepted inbound =>
    simp only [unreliable]
    cases inbound with
    | @app message appPayload decoded room payload =>
      exact balanced_delivered authentic decoded rfl
  | @resent packet header plaintext replayErr message appPayload ackPacket now authentic stale
      decoded reliable unreliable' spare encrypted =>
    have read : s.ackOf aead ackPacket = some (message.inboundExchange, header.messageCounter) :=
      (ackOf_encryptNext encrypted).trans (ackIn_ackPayload _)
    refine ⟨[], rfl, ?_⟩
    have forgotten := s.mrp.owed_forgetAckFor header.messageCounter
    simp only [promise, discharged, acknowledged, dropped, Outcome.newPackets,
      List.filterMap_cons, List.filterMap_nil, read]
    simpa using forgotten.trans List.perm_append_comm
  | @fired act events out emitted spent mrp reports folded =>
    have same : Continues s { s with mrp := mrp } := rfl
    have sent : discharged aead ⟨s, act, .fired out.1, out.2⟩ = emitted := by
      have read := (folded.encrypted.congr same).filterMap_ackOf
      have each : (emitted.map ackPayload).filterMap ackIn = emitted := by
        rw [List.filterMap_map]
        have some : ackIn ∘ ackPayload = some := funext ackIn_ackPayload
        rw [some, List.filterMap_some]
      exact read.trans each
    have taken := reports.owed
    rw [folded.due] at taken
    refine ⟨spent, folded.reported.symm, ?_⟩
    rw [sent, folded.after]
    simp only [promise, dropped, Option.toList_none, List.flatMap_nil, List.append_nil,
      List.nil_append]
    exact taken.trans List.perm_append_comm

/-- An answer to a duplicate is the only packet that discharges no debt. -/
theorem Steps.acknowledged_le (c : MessageCounter) :
    let step : Step := ⟨s, act, outcome, t⟩
    ((step.acknowledged aead).map (·.2)).count c ≤
      ((step.discharged aead).map (·.2)).count c + (step.duplicate aead).toList.count c := by
  intro step
  cases steps with
  | @resent packet header plaintext replayErr message appPayload ackPacket now authentic stale
      decoded reliable unreliable spare encrypted =>
    have read : s.ackOf aead ackPacket = some (message.inboundExchange, header.messageCounter) :=
      (ackOf_encryptNext encrypted).trans (ackIn_ackPayload _)
    have acked : step.acknowledged aead = [(message.inboundExchange, header.messageCounter)] := by
      simp [step, acknowledged, Outcome.newPackets, read]
    have twice : step.duplicate aead = some header.messageCounter :=
      duplicate_of_stale authentic stale
    rw [acked, twice]
    exact Nat.le_add_left _ _
  | unauthentic | rejected | acked | delivered | unanswered => exact Nat.zero_le _
  | overflow | refused | sent | fired => exact Nat.le_add_right _ _

/-- A fresh message is new to the window and then known to it. Nothing else changes
the window. -/
theorem Steps.window (represents : s.replayWindow.Represents accepted) :
    let step : Step := ⟨s, act, outcome, t⟩
    (step.heard aead = none ∧ t.replayWindow = s.replayWindow) ∨
      ∃ c, step.heard aead = some c ∧ c ∉ accepted ∧ t.replayWindow.Represents (insert c accepted) := by
  cases steps with
  | overflow | refused | sent => exact Or.inl ⟨rfl, rfl⟩
  | unauthentic failed =>
    refine Or.inl ⟨?_, rfl⟩
    simp only [heard, arrival, failed]
    rfl
  | rejected authentic accepted inbound | acked authentic accepted inbound
  | delivered authentic accepted inbound =>
    exact Or.inr ⟨_, heard_of_accepted authentic accepted, represents.fresh_notMem accepted,
      represents.record accepted⟩
  | unanswered authentic stale | resent authentic stale =>
    exact Or.inl ⟨heard_of_stale authentic stale, rfl⟩
  | fired reports folded =>
    refine Or.inl ⟨?_, ?_⟩
    · cases reports <;> rfl
    · rw [folded.after]

theorem Steps.heard_of_promise (promised : promise aead ⟨s, act, outcome, t⟩ = some e) :
    heard aead ⟨s, act, outcome, t⟩ = some e.2 := by
  cases steps with
  | delivered authentic accepted inbound =>
    cases inbound with
    | app decoded =>
      simp only [promise, asks_eq authentic decoded] at promised
      split at promised
      · cases promised
        exact heard_of_accepted authentic accepted
      · cases promised
  | overflow | refused | sent | unauthentic | rejected | acked | unanswered | resent | fired =>
    cases promised

end

end Session

section Runs
variable (aead : Aead) (steps : List Step)

def promised : List (ExchangeKey × MessageCounter) := steps.filterMap (·.promise aead)

def acknowledged : List (ExchangeKey × MessageCounter) := steps.flatMap (·.acknowledged aead)

def discharged : List (ExchangeKey × MessageCounter) := steps.flatMap (·.discharged aead)

def dropped : List (ExchangeKey × MessageCounter) := steps.flatMap (·.dropped aead)

/-- The counters of the debts that fell due when no counter was left. -/
def exhausted : List MessageCounter := steps.flatMap (·.outcome.exhausted)

def duplicates : List MessageCounter := steps.filterMap (·.duplicate aead)

def heard : List MessageCounter := steps.filterMap (·.heard aead)

end Runs

theorem filterMap_cons_toList (f : α → Option β) (a : α) (l : List α) :
    (a :: l).filterMap f = (f a).toList ++ l.filterMap f := by
  rw [List.filterMap_cons]
  cases f a <;> rfl

namespace Session
variable {aead : Aead} {id : SessionId} {s : Session}

section
variable (aead : Aead) (id : SessionId)

theorem trace_balances (unreliable : s.transportReliable = false) (acts : List Act) :
    Balances s.mrp.owed (promised aead (s.trace aead id acts)) (s.run aead id acts).mrp.owed
      (discharged aead (s.trace aead id acts)) (dropped aead (s.trace aead id acts))
      (exhausted (s.trace aead id acts)) := by
  induction acts generalizing s with
  | nil => exact .refl _
  | cons act acts ih =>
    have steps := step_steps aead id s act
    have later := ih (steps.continues.transportReliable.trans unreliable)
    have both := Balances.trans (steps.balanced unreliable) later
    rw [promised, trace, filterMap_cons_toList]
    exact both

theorem trace_acknowledged_le (s : Session) (acts : List Act) (c : MessageCounter) :
    ((acknowledged aead (s.trace aead id acts)).map (·.2)).count c ≤
      ((discharged aead (s.trace aead id acts)).map (·.2)).count c +
        (duplicates aead (s.trace aead id acts)).count c := by
  induction acts generalizing s with
  | nil => exact Nat.zero_le _
  | cons act acts ih =>
    have now : (((s.step aead id act).acknowledged aead).map (·.2)).count c ≤
        (((s.step aead id act).discharged aead).map (·.2)).count c +
          ((s.step aead id act).duplicate aead).toList.count c :=
      (step_steps aead id s act).acknowledged_le c
    have later := ih (s.step aead id act).after
    simp only [acknowledged, discharged, duplicates, trace, List.flatMap_cons,
      filterMap_cons_toList, List.map_append, List.count_append] at later ⊢
    omega

theorem trace_heard (represents : s.replayWindow.Represents accepted) (acts : List Act) :
    (heard aead (s.trace aead id acts)).Nodup ∧
      ∀ c ∈ heard aead (s.trace aead id acts), c ∉ accepted := by
  induction acts generalizing s accepted with
  | nil => exact ⟨List.nodup_nil, fun _ member => absurd member List.not_mem_nil⟩
  | cons act acts ih =>
    rw [heard, trace, filterMap_cons_toList]
    rcases (step_steps aead id s act).window represents with ⟨none, same⟩ | ⟨c, some, new, after⟩
    · have first : (s.step aead id act).heard aead = Option.none := none
      rw [first]
      rw [← same] at represents
      exact ih represents
    · have first : (s.step aead id act).heard aead = Option.some c := some
      rw [first]
      obtain ⟨distinct, unknown⟩ := ih after
      constructor
      · apply List.nodup_cons.mpr
        exact ⟨fun again => unknown c again (Set.mem_insert c accepted), distinct⟩
      · intro c' member
        rcases List.mem_cons.mp member with rfl | later
        · exact new
        · exact fun old => unknown c' later (Set.mem_insert_of_mem c old)

theorem trace_promised (s : Session) (acts : List Act) :
    ((promised aead (s.trace aead id acts)).map (·.2)).Sublist
      (heard aead (s.trace aead id acts)) := by
  induction acts generalizing s with
  | nil => exact List.Sublist.refl _
  | cons act acts ih =>
    have later := ih (s.step aead id act).after
    rw [promised, heard, trace, filterMap_cons_toList, filterMap_cons_toList, List.map_append]
    apply List.Sublist.append _ later
    cases made : (s.step aead id act).promise aead with
    | none => exact List.nil_sublist _
    | some e =>
      have first : (s.step aead id act).heard aead = some e.2 :=
        (step_steps aead id s act).heard_of_promise made
      rw [first]
      exact List.Sublist.refl _

end

end Session

/-- In every run after a registration, each delivered message that asked for an
acknowledgement is in exactly one condition: it is owed, on its own exchange; or
discharged by one packet, on that exchange; or dropped; or fell due without a counter
left. At most one packet and one more for each duplicate acknowledge a counter. -/
theorem acknowledgements_are_conserved (aead : Aead) (m : SessionManager) (r : Registration)
    (draws : Draws) (ops : List Operation) :
    let start := m.register r draws
    let steps := start.trace aead r.localId ops
    ∃ s, (start.run aead ops).sessions.lookup r.localId = some s ∧
      (∀ k c, (k, c) ∈ promised aead steps →
        (s.mrp.owed.map (·.2)).count c + ((discharged aead steps).map (·.2)).count c +
          ((dropped aead steps).map (·.2)).count c + (exhausted steps).count c = 1 ∧
        ∀ j, (j, c) ∈ s.mrp.owed ++ (discharged aead steps ++ dropped aead steps) → j = k) ∧
      ∀ c, ((acknowledged aead steps).map (·.2)).count c ≤ 1 + (duplicates aead steps).count c := by
  intro start steps
  have session := SessionManager.run_session aead (m.lookup_register r draws) ops
  generalize (m.register r draws).acts aead r.localId ops = acts at session
  obtain ⟨(traced : steps = _), ran⟩ := session
  have balances := Session.trace_balances (s := m.freshSession r draws) aead r.localId rfl acts
  have bound := Session.trace_acknowledged_le aead r.localId (m.freshSession r draws) acts
  have once := (Session.trace_promised aead r.localId (m.freshSession r draws) acts).nodup
    (Session.trace_heard aead r.localId ReplayWindow.represents_new acts).1
  rw [← traced] at balances bound once
  obtain ⟨spent, reported, perm⟩ := balances
  have counts : ∀ c, ((promised aead steps).map (·.2)).count c =
      (((m.freshSession r draws).run aead r.localId acts).mrp.owed.map (·.2)).count c +
        ((discharged aead steps).map (·.2)).count c + ((dropped aead steps).map (·.2)).count c +
        (exhausted steps).count c := by
    intro c
    have total := List.perm_iff_count.mp (perm.map (·.2)) c
    simp only [List.map_append, List.count_append, reported] at total
    have none : (m.freshSession r draws).mrp.owed = [] := rfl
    rw [none] at total
    simp only [List.map_nil, List.count_nil] at total
    omega
  refine ⟨_, ran, ?_, ?_⟩
  · intro k c made
    have one := List.count_eq_one_of_mem once (List.mem_map.mpr ⟨(k, c), made, rfl⟩)
    constructor
    · exact (counts c).symm.trans one
    · intro j member
      have also : (j, c) ∈ promised aead steps := by
        apply perm.mem_iff.mpr
        simp only [List.mem_append] at member ⊢
        tauto
      exact congrArg Prod.fst (List.inj_on_of_nodup_map once also made rfl)
  · intro c
    have limit := List.nodup_iff_count_le_one.mp once c
    have most := bound c
    have total := counts c
    omega

end Matter.Transport
