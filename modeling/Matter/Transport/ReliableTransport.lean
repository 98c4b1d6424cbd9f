import Matter.Crypto.Aes
import Matter.Transport.Flood

/-! Sessions over a transport that is reliable itself. No message is ever
retransmitted and no acknowledgement is ever owed, whatever the peer sends. The
exchange of a message that asks for an acknowledgement is not reclaimed, however:
the acknowledgement is cancelled after the exchange was found busy. -/
namespace Matter.Transport
open Crypto

namespace MrpState

/-- No message is unacknowledged and no acknowledgement is owed. -/
def Quiet (s : MrpState) : Prop :=
  s.pendingAcks = ∅ ∧ s.pendingOutboundAcks = ∅ ∧ s.displacedAcks = []

/-- The protocol does nothing: no work, no deadline, no tracked exchange. -/
def Off (s : MrpState) : Prop :=
  s.Quiet ∧ s.pollTimeout = none ∧ s.exchanges = ∅

variable {s : MrpState} {k : ExchangeKey} {now : Instant} {counter : MessageCounter}

section
variable (quiet : s.Quiet)
include quiet

theorem Quiet.pollTimeout : s.pollTimeout = none := by
  obtain ⟨pending, buffered, displaced⟩ := quiet
  simp [MrpState.pollTimeout, pending, buffered, displaced]

theorem Quiet.not_busy : ¬ s.Busy k := by
  obtain ⟨pending, buffered, displaced⟩ := quiet
  simp [Busy, pending, buffered, displaced]

theorem Quiet.reclaimIfIdle : s.reclaimIfIdle k = { s with exchanges := s.exchanges.erase k } :=
  if_pos (exchangeIsIdle_iff.mpr quiet.not_busy)

theorem Quiet.applyAck (header : ProtocolHeader) : s.applyAck k header = s := by
  have nothing : ∀ c, s.settle k c = s := by
    simp [settle, quiet.1]
  unfold MrpState.applyAck
  split
  · split
    · exact nothing _
    · rfl
  · rfl

theorem Quiet.cancel_noteReliable (header : ProtocolHeader) :
    (((s.noteReliable k header counter now).reclaimIfIdle k).cancelPendingOutboundAck k).Quiet := by
  obtain ⟨pending, buffered, displaced⟩ := quiet
  cases reliable : header.exchangeFlags.reliable with
  | false =>
    have empty : (∅ : Table ExchangeKey PendingOutboundAck).erase k = ∅ := rfl
    simp [Quiet, cancelPendingOutboundAck, noteReliable, reliable, pending, buffered, displaced,
      empty]
  | true =>
    have empty : ∀ p : PendingOutboundAck,
        (AList.singleton k p : Table ExchangeKey PendingOutboundAck).erase k = ∅ := by
      intro p
      apply AList.ext
      simp [AList.erase, List.kerase]
    simp [Quiet, cancelPendingOutboundAck, noteReliable, reliable, rememberReliable, owe, pending,
      buffered, displaced, empty]

theorem Quiet.handleTimeout (now : Instant) (order : List MessageCounter) :
    (s.handleTimeout now order).1 = [] ∧ (s.handleTimeout now order).2.Quiet ∧
      (s.handleTimeout now order).2.exchanges = s.exchanges := by
  have still : (s.timerPass now order).state.Quiet ∧
      (s.timerPass now order).state.exchanges = s.exchanges ∧
      (s.timerPass now order).events = [] ∧ (s.timerPass now order).toRemove = [] ∧
      (s.timerPass now order).reclaimCandidates = [] := by
    apply timerPass_induction (P := fun pass => pass.state.Quiet ∧
      pass.state.exchanges = s.exchanges ∧ pass.events = [] ∧ pass.toRemove = [] ∧
      pass.reclaimCandidates = [])
    · exact ⟨quiet, rfl, rfl, rfl, rfl⟩
    · rintro pass active c ⟨calm, rest⟩
      simp only [visitPending, calm.1, AList.lookup_empty]
      exact ⟨calm, rest⟩
    · rintro pass ⟨calm, same, events, gone, none⟩
      simp only [removeExpired, gone, List.foldl_nil]
      exact ⟨calm, same, events, trivial, none⟩
    · rintro pass ⟨⟨pending, buffered, displaced⟩, same, events, gone, none⟩
      simp only [fireDisplaced, displaced, List.filter_nil, List.map_nil, List.append_nil]
      exact ⟨⟨pending, buffered, rfl⟩, same, events, gone, none⟩
    · rintro pass k ⟨calm, rest⟩
      simp only [fireBuffered, calm.2.1, AList.lookup_empty]
      exact ⟨calm, rest⟩
  obtain ⟨calm, same, events, _, none⟩ := still
  simp only [MrpState.handleTimeout, events, none, List.foldl_nil]
  exact ⟨trivial, calm, same⟩

theorem Quiet.flushExchangeAcksOn :
    s.flushExchangeAcksOn k = ([], { s with exchanges := s.exchanges.erase k }) := by
  obtain ⟨pending, buffered, displaced⟩ := quiet
  have empty : s.pendingOutboundAcks.erase k = s.pendingOutboundAcks := by
    rw [buffered]
    rfl
  have filtered : s.displacedAcks.filter (fun e => e.1 ≠ k) = s.displacedAcks := by
    rw [displaced, List.filter_nil]
  have same : { s with
      displacedAcks := s.displacedAcks.filter fun e => e.1 ≠ k
      pendingOutboundAcks := s.pendingOutboundAcks.erase k } = s := by
    rw [empty, filtered]
  simp only [MrpState.flushExchangeAcksOn, same]
  rw [Quiet.reclaimIfIdle ⟨pending, buffered, displaced⟩, displaced, buffered]
  rfl

theorem Quiet.flushAllAcks : s.flushAllAcks = ([], s) := by
  obtain ⟨pending, buffered, displaced⟩ := quiet
  simp [MrpState.flushAllAcks, buffered, displaced, flushExchanges]

theorem Quiet.closeExchangeOn : (s.closeExchangeOn k).Quiet := by
  obtain ⟨pending, buffered, displaced⟩ := quiet
  refine ⟨?_, ?_, ?_⟩
  · simp only [MrpState.closeExchangeOn, pending]
    rfl
  · simp only [MrpState.closeExchangeOn, buffered]
    rfl
  · simp [MrpState.closeExchangeOn, displaced]

end

end MrpState

namespace Session
variable {aead : Aead} {id : SessionId} {s t : Session} {act : Act} {outcome : Outcome}

/-- The act delivers a fresh message that asks for an acknowledgement. -/
def HearsReliable (aead : Aead) (s : Session) (act : Act) : Prop :=
  ∃ packet now message, act = .receive packet now ∧ s.freshMessage aead packet = some message ∧
    message.exchangeFlags.reliable = true

theorem effectiveReliable_eq (reliable : s.transportReliable = true) (message : Message) :
    s.effectiveReliable message = false := by
  simp [effectiveReliable, reliable]

/-- A send leaves no work, and its exchange is reclaimed at once. -/
theorem commitSend_quiet (quiet : s.mrp.Quiet) (prepared : PreparedOutbound) (wireBytes : Bytes)
    (now : Instant) :
    (s.commitSend prepared wireBytes false now).mrp.Quiet ∧
      (s.commitSend prepared wireBytes false now).mrp.exchanges ⊆ s.mrp.exchanges := by
  obtain ⟨pending, buffered, displaced⟩ := quiet
  have committed : ({ s.mrp.commitOutbound prepared with
      lastOutbound := some now } : MrpState).Quiet := by
    refine ⟨pending, ?_, displaced⟩
    simp only [MrpState.commitOutbound, buffered]
    split <;> rfl
  have sent : (s.commitSend prepared wireBytes false now).mrp =
      { s.mrp.commitOutbound prepared with
        lastOutbound := some now
        exchanges := (insert prepared.exchange s.mrp.exchanges).erase prepared.exchange } :=
    committed.reclaimIfIdle
  rw [sent]
  refine ⟨committed, ?_⟩
  rw [Finset.erase_insert_eq_erase]
  exact Finset.erase_subset _ _

theorem Reports.quiet {mrp : MrpState} (reports : Reports s act events mrp) (quiet : s.mrp.Quiet) :
    mrp.Quiet ∧ mrp.exchanges ⊆ s.mrp.exchanges := by
  cases reports with
  | timeout now order =>
    obtain ⟨_, still, same⟩ := quiet.handleTimeout now order
    exact ⟨still, same.subset⟩
  | finish target =>
    rw [quiet.flushExchangeAcksOn]
    exact ⟨quiet, Finset.erase_subset _ _⟩
  | abort target =>
    rw [quiet.flushExchangeAcksOn]
    refine ⟨MrpState.Quiet.closeExchangeOn quiet, ?_⟩
    exact (Finset.erase_subset _ _).trans (Finset.erase_subset _ _)
  | flush =>
    rw [quiet.flushAllAcks]
    exact ⟨quiet, Finset.Subset.refl _⟩

end Session

namespace MrpState
variable {s : MrpState} {payload : Bytes} {counter : MessageCounter} {now : Instant}

theorem Quiet.track (quiet : s.Quiet) (now : Instant) (k : ExchangeKey) :
    ((s.noteActivity now).track k).Quiet := quiet

/-- A message that is not delivered, or delivered without asking for an
acknowledgement, leaves the table as it was or smaller. -/
theorem Quiet.inbound (quiet : s.Quiet) (inbound : s.Inbound payload counter now (result, t))
    (unasked : ∀ header appPayload, decodeProtocolHeader payload = .ok (header, appPayload) →
      header.exchangeFlags.reliable = false) : t.Quiet ∧ t.exchanges ⊆ s.exchanges := by
  have reclaimed : ∀ k, ((s.noteActivity now).track k).reclaimIfIdle k =
      { (s.noteActivity now).track k with
        exchanges := (insert k s.exchanges).erase k } :=
    fun k => (quiet.track now k).reclaimIfIdle
  cases inbound with
  | malformed | full => exact ⟨quiet, Finset.Subset.refl _⟩
  | @ackOnly header appPayload decoded =>
    rw [(quiet.track now _).applyAck, reclaimed]
    refine ⟨quiet, ?_⟩
    rw [Finset.erase_insert_eq_erase]
    exact Finset.erase_subset _ _
  | @app header appPayload decoded =>
    have plain : ∀ u : MrpState, u.noteReliable header.inboundExchange header counter now = u :=
      fun u => if_neg (by simp [unasked header appPayload decoded])
    rw [plain, (quiet.track now _).applyAck, reclaimed]
    refine ⟨quiet, ?_⟩
    rw [Finset.erase_insert_eq_erase]
    exact Finset.erase_subset _ _

theorem standaloneAck_unreliable {header : ProtocolHeader}
    (standalone : header.isStandaloneAck appPayload = true) :
    header.exchangeFlags.reliable = false := by
  simp only [ProtocolHeader.isStandaloneAck, Bool.and_eq_true, Bool.not_eq_true'] at standalone
  exact standalone.2

end MrpState

namespace Session
variable {aead : Aead} {id : SessionId} {s t : Session} {act : Act} {outcome : Outcome}

theorem Steps.quiet (steps : Steps aead s act outcome t) (reliable : s.transportReliable = true)
    (quiet : s.mrp.Quiet) : t.mrp.Quiet := by
  cases steps with
  | overflow | refused | unauthentic | unanswered => exact quiet
  | sent =>
    rw [effectiveReliable_eq reliable]
    exact (commitSend_quiet quiet _ _ _).1
  | rejected authentic accepted inbound =>
    cases inbound with
    | malformed | full => exact quiet
  | acked authentic accepted inbound =>
    cases inbound with
    | ackOnly decoded room standalone =>
      rw [(quiet.track _ _).applyAck, (quiet.track _ _).reclaimIfIdle]
      exact quiet
  | delivered authentic accepted inbound =>
    simp only [reliable, if_true]
    cases inbound with
    | app decoded room message =>
      rw [(quiet.track _ _).applyAck]
      exact (quiet.track _ _).cancel_noteReliable _
  | resent authentic stale decoded wanted unreliable =>
    rw [reliable] at unreliable
    cases unreliable
  | fired reports folded =>
    rw [folded.after]
    exact (reports.quiet quiet).1

/-- Without a fresh message that asks for an acknowledgement, no exchange is added. -/
theorem Steps.exchanges_subset (steps : Steps aead s act outcome t)
    (reliable : s.transportReliable = true) (quiet : s.mrp.Quiet)
    (unheard : ¬ s.HearsReliable aead act) : t.mrp.exchanges ⊆ s.mrp.exchanges := by
  cases steps with
  | overflow | refused | unauthentic | unanswered => exact Finset.Subset.refl _
  | sent =>
    rw [effectiveReliable_eq reliable]
    exact (commitSend_quiet quiet _ _ _).2
  | rejected authentic accepted inbound =>
    cases inbound with
    | malformed | full => exact Finset.Subset.refl _
  | acked authentic accepted inbound =>
    have whole := inbound
    cases inbound with
    | ackOnly decoded room standalone =>
      apply (quiet.inbound whole _).2
      intro message appPayload same
      rw [decoded] at same
      cases same
      exact MrpState.standaloneAck_unreliable standalone
  | @delivered packet _ plaintext now _ _ _ _ _ _ authentic accepted inbound =>
    simp only [reliable, if_true]
    apply (quiet.inbound inbound _).2
    intro message appPayload decoded
    apply Bool.eq_false_iff.mpr
    intro asks
    exact unheard ⟨packet, now, message, rfl, freshMessage_eq authentic accepted decoded, asks⟩
  | resent authentic stale decoded wanted unreliable =>
    rw [reliable] at unreliable
    cases unreliable
  | fired reports folded =>
    rw [folded.after]
    exact (reports.quiet quiet).2

/-- A fresh message that asks for an acknowledgement leaves its exchange behind. -/
theorem exchanges_ne_empty (reliable : s.transportReliable = true)
    (room : s.mrp.exchanges.card < maxExchangesPerSession)
    (heard : s.HearsReliable aead act) : (s.step aead id act).after.mrp.exchanges ≠ ∅ := by
  obtain ⟨packet, now, message, rfl, fresh, asks⟩ := heard
  obtain ⟨header, plaintext, appPayload, authentic, accepted, decoded⟩ := of_freshMessage fresh
  have payload : message.isStandaloneAck appPayload = false := by
    apply Bool.eq_false_iff.mpr
    intro standalone
    rw [MrpState.standaloneAck_unreliable standalone] at asks
    cases asks
  have performed : s.perform aead id (.receive packet now) = _ :=
    perform_delivers authentic accepted decoded (Or.inr room) payload
  have after : (s.step aead id (.receive packet now)).after = _ := congrArg Prod.snd performed
  rw [after]
  simp only [reliable, if_true]
  exact Finset.ne_empty_of_mem (mem_deliveredMrp asks header.messageCounter now)

theorem authenticate_error (failed : s.authenticate aead packet = .error e) :
    e = .decryptionFailed ∨ ∃ n, e = .malformedHeader n := by
  unfold authenticate at failed
  split at failed
  · cases failed
    exact Or.inr (decodeHeader_error (by assumption))
  · split at failed
    · rename_i undecrypted
      cases failed
      unfold decryptSecuredWithHeader at undecrypted
      split at undecrypted
      · cases undecrypted
        exact Or.inr ⟨_, rfl⟩
      · split at undecrypted <;> cases undecrypted
        exact Or.inl rfl
    · cases failed

theorem Steps.crowded (steps : Steps aead s act (.received (.error .exchangeTableFull)) t) :
    maxExchangesPerSession ≤ s.mrp.exchanges.card := by
  cases steps with
  | unauthentic failed =>
    rcases authenticate_error failed with other | ⟨n, other⟩ <;> cases other
  | rejected authentic accepted inbound =>
    cases inbound with
    | malformed failed =>
      obtain ⟨n, other⟩ := decodeProtocolHeader_error failed
      cases other
    | full decoded unknown crowded => exact crowded
  | unanswered authentic stale answered =>
    cases answered with
    | malformed failed =>
      obtain ⟨n, other⟩ := decodeProtocolHeader_error failed
      cases other
    | silent =>
      unfold ReplayWindow.classify at stale
      split_ifs at stale <;> cases stale

end Session

namespace SessionManager
variable {aead : Aead} {id : SessionId}

/-- The operation brings session `id` a fresh message that asks for an
acknowledgement. -/
def HearsReliable (aead : Aead) (id : SessionId) (m : SessionManager) (op : Operation) : Prop :=
  ∃ s act, m.sessions.lookup id = some s ∧ op.actOn id m.nextExchangeId = some act ∧
    s.HearsReliable aead act

/-- Session `id` is on a reliable transport and has no work and no deadline. -/
def Quiet (id : SessionId) (m : SessionManager) : Prop :=
  ∃ s, m.sessions.lookup id = some s ∧ s.transportReliable = true ∧ s.mrp.Quiet ∧
    s.mrp.pollTimeout = none

/-- The protocol of session `id` is off altogether. -/
def Off (id : SessionId) (m : SessionManager) : Prop :=
  ∃ s, m.sessions.lookup id = some s ∧ s.mrp.Off

theorem Quiet.next (m : SessionManager) (op : Operation) (quiet : Quiet id m) :
    Quiet id (m.next aead op) := by
  obtain ⟨s, found, reliable, calm, none⟩ := quiet
  have projected : Projects aead id m s op := projects found op
  cases projected with
  | keeps ignored after => exact ⟨s, after, reliable, calm, none⟩
  | acts act addressed after outcome =>
    have steps := Session.step_steps aead id s act
    have still := steps.quiet reliable calm
    exact ⟨_, after, steps.continues.transportReliable.trans reliable, still, still.pollTimeout⟩

theorem Off.next_iff (m : SessionManager) (op : Operation) (quiet : Quiet id m) (off : Off id m) :
    Off id (m.next aead op) ↔ ¬ HearsReliable aead id m op := by
  obtain ⟨s, found, reliable, calm, none⟩ := quiet
  obtain ⟨t, same, _, _, empty⟩ := off
  obtain rfl : s = t := Option.some.inj (found.symm.trans same)
  have projected : Projects aead id m s op := projects found op
  cases projected with
  | keeps ignored after =>
    constructor
    · rintro _ ⟨t, act, _, addressed, _⟩
      rw [ignored] at addressed
      cases addressed
    · intro _
      exact ⟨s, after, calm, none, empty⟩
  | acts act addressed after outcome =>
    have steps := Session.step_steps aead id s act
    have still := steps.quiet reliable calm
    constructor
    · rintro ⟨t, found', _, _, empty'⟩ ⟨u, act', same', addressed', heard⟩
      obtain rfl : s = u := Option.some.inj (found.symm.trans same')
      obtain rfl : act = act' := Option.some.inj (addressed.symm.trans addressed')
      obtain rfl := Option.some.inj (after.symm.trans found')
      refine Session.exchanges_ne_empty reliable ?_ heard empty'
      rw [empty]
      decide
    · intro unheard
      have kept := steps.exchanges_subset reliable calm
        fun heard => unheard ⟨s, act, found, addressed, heard⟩
      rw [empty] at kept
      exact ⟨_, after, still, still.pollTimeout, Finset.subset_empty.mp kept⟩

/-- Registering a session and marking its transport as reliable. -/
def registerReliable (m : SessionManager) (r : Registration) (draws : Draws) : SessionManager :=
  ((m.register r draws).setTransportReliable r.localId true).2

section
variable (m : SessionManager) (r : Registration) (draws : Draws)

theorem lookup_registerReliable :
    (m.registerReliable r draws).sessions.lookup r.localId =
      some { m.freshSession r draws with transportReliable := true } := by
  simp [registerReliable, setTransportReliable, m.lookup_register r draws]

theorem off_registerReliable : Off r.localId (m.registerReliable r draws) :=
  ⟨_, m.lookup_registerReliable r draws, ⟨rfl, rfl, rfl⟩, rfl, rfl⟩

theorem quiet_registerReliable : Quiet r.localId (m.registerReliable r draws) :=
  ⟨_, m.lookup_registerReliable r draws, rfl, ⟨rfl, rfl, rfl⟩, rfl⟩

end

end SessionManager

open SessionManager in
/-- On a reliable transport no message is ever retransmitted and no acknowledgement
owed. The exchange table stays empty in a run exactly if the peer never sends a fresh
message that asks for an acknowledgement, and then no message is refused. -/
theorem reliable_transport_off (aead : Aead) (m : SessionManager) (r : Registration)
    (draws : Draws) (ops : List Operation) :
    let start := m.registerReliable r draws
    let unasked := Runs.EveryStep (next aead) (fun m op => ¬ HearsReliable aead r.localId m op)
      start ops
    Runs.EveryState (next aead) (Quiet r.localId) start ops ∧
    (Runs.EveryState (next aead) (Off r.localId) start ops ↔ unasked) ∧
    (unasked → ∀ step ∈ start.trace aead r.localId ops,
      step.outcome ≠ .received (.error .exchangeTableFull)) := by
  intro start unasked
  have exactly : Runs.EveryState (next aead) (Off r.localId) start ops ↔ unasked :=
    Runs.everyState_iff_everyStep Quiet.next Off.next_iff (m.quiet_registerReliable r draws)
      (m.off_registerReliable r draws) ops
  refine ⟨?_, exactly, ?_⟩
  · intro pre _
    exact Runs.invariant Quiet.next (m.quiet_registerReliable r draws) pre
  · intro along step member full
    obtain ⟨pre, op, within, before, addressed, taken⟩ :=
      of_mem_trace (m.lookup_registerReliable r draws) member
    obtain ⟨s, found, _, _, empty⟩ := exactly.mpr along pre
      ((List.prefix_append pre [op]).trans within)
    obtain rfl : s = step.before := Option.some.inj (found.symm.trans before)
    have steps := Session.step_steps aead r.localId step.before step.act
    rw [← taken, full] at steps
    have crowded := steps.crowded
    rw [empty] at crowded
    exact absurd crowded (by decide)

open SessionManager in
/-- Over a reliable transport too, requests of the peer leave exchanges behind until
a message on another exchange is refused. -/
theorem reliable_transport_leaks :
    let start := (SessionManager.new 1).registerReliable pairing pairingDraws
    let s := { (SessionManager.new 1).freshSession pairing pairingDraws with
      transportReliable := true }
    let flooded := start.run Aead.aes128Ccm (SessionManager.flood Aead.aes128Ccm s 256)
    (∃ t, (start.run Aead.aes128Ccm (SessionManager.flood Aead.aes128Ccm s 1)).sessions.lookup 1 =
      some t ∧ t.mrp.exchanges.card = 1) ∧
    (flooded.decodeInbound Aead.aes128Ccm (s.request Aead.aes128Ccm 257 256) 0).1 =
      .error .exchangeTableFull := by
  intro start s flooded
  have found : start.sessions.lookup s.localId = some s := lookup_registerReliable _ _ _
  have empty : s.Flooded 0 := ⟨by decide, rfl, rfl, fun _ member => absurd member (Finset.notMem_empty _)⟩
  constructor
  · obtain ⟨t, after, fills, _⟩ := run_flood_session Aead.aes128Ccm found empty (n := 1) (by decide)
    exact ⟨t, after, fills.filled⟩
  · exact (decodeInbound_flooded Aead.aes128Ccm found empty).1

end Matter.Transport
