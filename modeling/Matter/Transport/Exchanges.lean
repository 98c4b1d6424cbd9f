import Matter.Transport.Isolation
import Matter.Transport.Nonces

/-! The exchange table and the work that keeps an exchange in it. Every function
of the protocol touches the work of a few exchanges and reclaims those that became
idle, so the table holds exactly the exchanges with work. -/
namespace Matter.Transport
open Crypto

namespace MrpState

/-- The exchange has an unacknowledged message, or an acknowledgement is owed on it. -/
def Busy (s : MrpState) (k : ExchangeKey) : Prop :=
  (∃ e ∈ s.pendingAcks.entries, e.2.exchange = k) ∨
    (∃ e ∈ s.pendingOutboundAcks.entries, e.1 = k) ∨ ∃ e ∈ s.displacedAcks, e.1 = k

/-- The table holds every busy exchange, and besides them only some of `extra`. -/
structure Loose (s : MrpState) (extra : List ExchangeKey) : Prop where
  tracked : ∀ k, s.Busy k → k ∈ s.exchanges
  busy : ∀ k ∈ s.exchanges, s.Busy k ∨ k ∈ extra

/-- The table holds exactly the exchanges with work. -/
def Tracked (s : MrpState) : Prop := ∀ k, k ∈ s.exchanges ↔ s.Busy k

variable {s t : MrpState} {j k : ExchangeKey} {extra more : List ExchangeKey}

theorem loose_nil_iff : Loose s [] ↔ Tracked s := by
  constructor
  · intro loose k
    constructor
    · intro member
      simpa using loose.busy k member
    · exact loose.tracked k
  · intro tracked
    constructor
    · intro k busy
      exact (tracked k).mpr busy
    · intro k member
      exact Or.inl ((tracked k).mp member)

theorem exchangeIsIdle_iff : s.exchangeIsIdle k = true ↔ ¬ s.Busy k := by
  simp only [exchangeIsIdle, Busy, Bool.and_eq_true, Bool.not_eq_true', Bool.or_eq_false_iff,
    List.any_eq_false, decide_eq_true_eq, not_or, not_exists, not_and]
  refine and_congr_right fun _ => and_congr_left fun _ => ?_
  constructor
  · intro absent e member same
    subst same
    have found := Table.lookup_eq_some.mpr member
    simp [found] at absent
  · intro absent
    cases found : s.pendingOutboundAcks.lookup k with
    | none => rfl
    | some p => exact absurd rfl (absent ⟨k, p⟩ (Table.lookup_eq_some.mp found))

theorem busy_iff : s.Busy k ↔ ¬ (s.view k).Idle := by
  rw [← exchangeIsIdle_view, exchangeIsIdle_iff, not_not]

theorem tracked_iff : Tracked s ↔ ∀ k, (s.view k).tracked ↔ ¬ (s.view k).Idle :=
  forall_congr' fun _ => iff_congr Iff.rfl busy_iff

/-- Work may disappear on exchanges of `more` only, and none appears. -/
theorem Loose.shrink (loose : Loose s extra) (more : List ExchangeKey)
    (same : t.exchanges = s.exchanges) (fewer : ∀ k, (s.view k).Idle → (t.view k).Idle)
    (kept : ∀ k, (t.view k).Idle → k ∉ more → (s.view k).Idle) : Loose t (more ++ extra) := by
  constructor
  · intro k busy
    rw [same]
    exact loose.tracked k (busy_iff.mpr fun idle => busy_iff.mp busy (fewer k idle))
  · intro k member
    rw [same] at member
    by_cases idle : (t.view k).Idle
    · right
      by_cases gone : k ∈ more
      · exact List.mem_append_left extra gone
      · rcases loose.busy k member with busy | listed
        · exact absurd (kept k idle gone) (busy_iff.mp busy)
        · exact List.mem_append_right more listed
    · exact Or.inl (busy_iff.mpr idle)

theorem Loose.mono (loose : Loose s extra) (included : extra ⊆ more) : Loose s more :=
  ⟨loose.tracked, fun k member => (loose.busy k member).imp_right fun listed => included listed⟩

theorem Loose.reclaim (loose : Loose s (k :: extra)) : Loose (s.reclaimIfIdle k) extra := by
  unfold reclaimIfIdle
  split
  · rename_i idle
    have quiet := exchangeIsIdle_iff.mp idle
    constructor
    · intro j busy
      have different : j ≠ k := by
        rintro rfl
        exact quiet busy
      exact Finset.mem_erase.mpr ⟨different, loose.tracked j busy⟩
    · intro j member
      obtain ⟨different, before⟩ := Finset.mem_erase.mp member
      rcases loose.busy j before with busy | listed
      · exact Or.inl busy
      · exact Or.inr ((List.mem_cons.mp listed).resolve_left different)
  · rename_i active
    refine ⟨loose.tracked, fun j member => ?_⟩
    rcases loose.busy j member with busy | listed
    · exact Or.inl busy
    · rcases List.mem_cons.mp listed with rfl | later
      · exact Or.inl (not_not.mp fun quiet => active (exchangeIsIdle_iff.mpr quiet))
      · exact Or.inr later

theorem reclaimIfIdle_of_busy (busy : s.Busy k) : s.reclaimIfIdle k = s :=
  if_neg fun idle => exchangeIsIdle_iff.mp idle busy

theorem Loose.reclaimAll (loose : Loose s (ks ++ extra)) :
    Loose (ks.foldl reclaimIfIdle s) extra := by
  induction ks generalizing s with
  | nil => exact loose
  | cons k ks ih => exact ih loose.reclaim

section
variable (loose : Loose s extra)
include loose

theorem Loose.eraseBuffered (ks : List ExchangeKey) :
    Loose { s with pendingOutboundAcks := ks.foldl (fun t k => t.erase k) s.pendingOutboundAcks }
      (ks ++ extra) := by
  refine loose.shrink ks rfl ?_ ?_
  · rintro k ⟨buffered, rest⟩
    refine ⟨?_, rest⟩
    simp only [view, Table.lookup_eraseAll]
    split
    · rfl
    · exact buffered
  · rintro k ⟨buffered, rest⟩ kept
    simp only [view, Table.lookup_eraseAll, if_neg kept] at buffered
    exact ⟨buffered, rest⟩

theorem Loose.filterDisplaced (keep : ExchangeKey × PendingOutboundAck → Bool)
    (listed : ∀ e ∈ s.displacedAcks, keep e = false → e.1 ∈ more) :
    Loose { s with displacedAcks := s.displacedAcks.filter keep } (more ++ extra) := by
  refine loose.shrink more rfl ?_ ?_
  · rintro k ⟨buffered, displaced, rest⟩
    refine ⟨buffered, ?_, rest⟩
    simp only [view, List.filter_eq_nil_iff] at displaced ⊢
    exact fun e member => displaced e (List.mem_of_mem_filter member)
  · rintro k ⟨buffered, displaced, rest⟩ kept
    refine ⟨buffered, ?_, rest⟩
    simp only [view, List.filter_eq_nil_iff] at displaced ⊢
    intro e member here
    cases stays : keep e with
    | true => exact displaced e (List.mem_filter.mpr ⟨member, stays⟩) here
    | false => exact kept (of_decide_eq_true here ▸ listed e member stays)

theorem Loose.erasePending (cs : List MessageCounter)
    (listed : ∀ c ∈ cs, ∀ p, s.pendingAcks.lookup c = some p → p.exchange ∈ more) :
    Loose { s with pendingAcks := cs.foldl (fun t c => t.erase c) s.pendingAcks }
      (more ++ extra) := by
  refine loose.shrink more rfl ?_ ?_
  · rintro k ⟨buffered, displaced, answered⟩
    refine ⟨buffered, displaced, fun c => ?_⟩
    simp only [view, Table.lookup_eraseAll]
    split
    · rfl
    · exact answered c
  · rintro k ⟨buffered, displaced, answered⟩ kept
    refine ⟨buffered, displaced, fun c => ?_⟩
    have after := answered c
    simp only [view, Table.lookup_eraseAll, Option.filter_eq_none_iff] at after ⊢
    intro p found here
    by_cases removed : c ∈ cs
    · exact kept (of_decide_eq_true here ▸ listed c removed p found)
    · exact after p (by rwa [if_neg removed]) here

/-- Rescheduling a message changes no exchange's work. -/
theorem Loose.reschedule (found : s.pendingAcks.lookup c = some p) (same : q.exchange = p.exchange)
    (jitter : UInt64) :
    Loose { s with jitter := jitter, pendingAcks := s.pendingAcks.insert c q } extra := by
  have entry : ∀ k c', ((s.pendingAcks.insert c q).lookup c').filter (·.exchange = k) = none ↔
      (s.pendingAcks.lookup c').filter (·.exchange = k) = none := by
    intro k c'
    by_cases here : c' = c
    · subst here
      simp [found, same]
    · rw [AList.lookup_insert_ne here]
  refine loose.shrink [] rfl ?_ ?_
  · rintro k ⟨buffered, displaced, answered⟩
    exact ⟨buffered, displaced, fun c' => (entry k c').mpr (answered c')⟩
  · rintro k ⟨buffered, displaced, answered⟩ _
    exact ⟨buffered, displaced, fun c' => (entry k c').mp (answered c')⟩

end

/-- A call about one exchange that ends by reclaiming it. -/
theorem tracked_reclaim (others : ∀ j, j ≠ k → ((t.view j).tracked ↔ ¬ (t.view j).Idle))
    (known : ¬ (t.view k).Idle → k ∈ t.exchanges) : Tracked (t.reclaimIfIdle k) := by
  rw [tracked_iff]
  intro j
  by_cases same : j = k
  · subst same
    rw [view_reclaim_self]
    exact and_iff_right_of_imp known
  · rw [view_reclaimIfIdle same]
    exact others j same

/-- An acknowledgement does not reclaim the exchange it arrived on. -/
theorem mem_settle (known : k ∈ s.exchanges) (c : MessageCounter) :
    k ∈ (s.settle k c).exchanges := by
  unfold MrpState.settle
  split
  · exact known
  simp only
  split
  · rename_i different
    unfold reclaimIfIdle
    split
    · exact Finset.mem_erase.mpr ⟨Ne.symm different, known⟩
    · exact known
  · exact known

theorem mem_applyAck (known : k ∈ s.exchanges) (header : ProtocolHeader) :
    k ∈ (s.applyAck k header).exchanges := by
  unfold MrpState.applyAck
  split
  · split
    · exact mem_settle known _
    · exact known
  · exact known

/-- A message that asks for an acknowledgement keeps its exchange busy. -/
theorem busy_noteReliable (reliable : header.exchangeFlags.reliable = true) (c : MessageCounter)
    (now : Instant) : (s.noteReliable k header c now).Busy k := by
  unfold MrpState.noteReliable
  rw [if_pos reliable]
  exact Or.inr (Or.inl ⟨_, Table.mem_entries_insert.mpr (Or.inl rfl), rfl⟩)

@[simp] theorem noteReliable_exchanges (header : ProtocolHeader) (c : MessageCounter)
    (now : Instant) : (s.noteReliable k header c now).exchanges = s.exchanges := by
  unfold MrpState.noteReliable
  split <;> rfl

theorem live_settled {v : ExchangeView} (live : v.tracked ↔ ¬ v.Idle) (c : MessageCounter) :
    (v.settled c).tracked ↔ ¬ (v.settled c).Idle := by
  cases found : v.unacknowledged c with
  | none => rwa [ExchangeView.settled_of_missing found]
  | some p =>
    have busy : v.tracked := live.mpr fun idle => by simp [idle.2.2 c] at found
    change v.tracked ∧ ¬ ((v.unacknowledged c).isSome ∧ (v.without c).Idle) ↔ ¬ (v.without c).Idle
    simp [busy, found]

theorem live_applyAck (tracked : Tracked s) (other : j ≠ k) (header : ProtocolHeader) :
    (((s.track k).applyAck k header).view j).tracked ↔
      ¬ (((s.track k).applyAck k header).view j).Idle := by
  have live := tracked_iff.mp tracked j
  rw [view_applyAck other, view_track other]
  cases header.acked with
  | none => exact live
  | some c => exact live_settled live c

theorem Inbound.tracked (inbound : s.Inbound payload c now result) (tracked : Tracked s) :
    Tracked result.2 := by
  have noted : Tracked (s.noteActivity now) := tracked
  cases inbound with
  | malformed | full => exact noted
  | @ackOnly header appPayload decoded room standalone =>
    apply tracked_reclaim
    · exact fun j other => live_applyAck noted other header
    · exact fun _ => mem_applyAck (Finset.mem_insert_self _ _) header
  | @app header appPayload decoded room message =>
    apply tracked_reclaim
    · intro j other
      rw [view_noteReliable other]
      exact live_applyAck noted other header
    · intro _
      rw [noteReliable_exchanges]
      exact mem_applyAck (Finset.mem_insert_self _ _) header

section
variable (tracked : Tracked s)
include tracked

theorem tracked_send (prepared : PreparedOutbound) (unused : c ∉ s.pendingAcks) (packet : Bytes)
    (reliable : Bool) (now : Instant) :
    Tracked ((s.commitOutbound prepared).markPacketSentOn c prepared.exchange packet reliable
      now) := by
  have known : prepared.exchange ∈ (s.commitOutbound prepared).exchanges :=
    Finset.mem_insert_self _ _
  rw [tracked_iff] at tracked
  cases reliable with
  | false =>
    apply tracked_reclaim
    · intro j other
      exact (s.view_commitOutbound other).symm ▸ tracked j
    · exact fun _ => known
  | true =>
    rw [tracked_iff]
    intro j
    by_cases same : j = prepared.exchange
    · subst same
      refine iff_of_true known fun idle => ?_
      have entry := idle.2.2 c
      simp [view, markPacketSentOn] at entry
    · have fresh : ((s.commitOutbound prepared).view j).unacknowledged c = none := by
        rw [view_commitOutbound same]
        simp [view, AList.lookup_eq_none.mpr unused]
      rw [view_markPacketSentOn same fun _ => fresh, view_commitOutbound same]
      exact tracked j

theorem tracked_flushExchangeAcksOn (k : ExchangeKey) : Tracked (s.flushExchangeAcksOn k).2 := by
  rw [tracked_iff] at tracked
  change Tracked ((s.cancelPendingOutboundAck k).reclaimIfIdle k)
  apply tracked_reclaim
  · intro j other
    rw [view_cancelPendingOutboundAck other]
    exact tracked j
  · intro busy
    apply (tracked k).mpr
    rintro ⟨_, _, answered⟩
    exact busy ⟨AList.lookup_erase _ _, by simp [view, cancelPendingOutboundAck], answered⟩

theorem tracked_flushExchanges (ks : List ExchangeKey) : Tracked (s.flushExchanges ks).2 := by
  induction ks generalizing s with
  | nil => exact tracked
  | cons k ks ih => exact ih (tracked_flushExchangeAcksOn tracked k)

theorem tracked_flushAllAcks : Tracked s.flushAllAcks.2 :=
  tracked_flushExchanges tracked _

theorem tracked_closeExchangeOn (k : ExchangeKey) : Tracked (s.closeExchangeOn k) := by
  rw [tracked_iff] at tracked ⊢
  intro j
  by_cases same : j = k
  · subst same
    refine iff_of_false (Finset.notMem_erase j _) (not_not.mpr ⟨AList.lookup_erase _ _, ?_, ?_⟩)
    · simp [view, closeExchangeOn]
    · simp [view, lookup_closeExchangeOn]
  · rw [view_closeExchangeOn same]
    exact tracked j

theorem tracked_forgetAckFor (c : MessageCounter) : Tracked (s.forgetAckFor c) := by
  rw [← loose_nil_iff] at tracked ⊢
  have filtered := tracked.filterDisplaced (fun e => e.2.ackCounter ≠ c)
    (by
      intro e member forgotten
      have due : e.2.ackCounter = c := by simpa using forgotten
      exact List.mem_map.mpr ⟨e, List.mem_filter.mpr ⟨member, decide_eq_true due⟩, rfl⟩)
  have erased := filtered.eraseBuffered
    ((s.pendingOutboundAcks.entries.filter fun e => e.2.ackCounter = c).map (·.1))
  rw [← List.append_assoc] at erased
  exact erased.reclaimAll

end

/-- During a timer call the table is off by the candidates for reclaiming only. -/
structure Passing (pass : TimerPass) : Prop where
  loose : Loose pass.state pass.reclaimCandidates
  expired : ∀ c ∈ pass.toRemove, ∀ p, pass.state.pendingAcks.lookup c = some p →
    p.exchange ∈ pass.reclaimCandidates

variable {pass : TimerPass}

section
variable (passing : Passing pass)
include passing

theorem Passing.visitPending (active : Bool) (c : MessageCounter) :
    Passing (visitPending now active pass c) := by
  unfold MrpState.visitPending
  split
  · exact passing
  rename_i pending found
  split
  · exact passing
  split
  · constructor
    · exact passing.loose.mono (List.subset_append_left _ _)
    · intro c' member p lookup
      rcases List.mem_append.mp member with old | new
      · exact List.mem_append_left _ (passing.expired c' old p lookup)
      · obtain rfl := List.mem_singleton.mp new
        rw [found] at lookup
        cases lookup
        exact List.mem_append_right _ List.mem_cons_self
  · constructor
    · apply passing.loose.reschedule found
      rfl
    · intro c' member p lookup
      by_cases here : c' = c
      · subst here
        rw [AList.lookup_insert] at lookup
        cases lookup
        exact passing.expired c' member pending found
      · rw [AList.lookup_insert_ne here] at lookup
        exact passing.expired c' member p lookup

theorem Passing.removeExpired : Passing (removeExpired pass) := by
  constructor
  · apply (passing.loose.erasePending pass.toRemove passing.expired).mono
    intro j member
    rcases List.mem_append.mp member with listed | listed <;> exact listed
  · intro c (member : c ∈ pass.toRemove) p lookup
    simp only [MrpState.removeExpired, Table.lookup_eraseAll, if_pos member] at lookup
    cases lookup

theorem Passing.fireDisplaced (now : Instant) : Passing (fireDisplaced now pass) := by
  constructor
  · have filtered := passing.loose.filterDisplaced (fun e => ¬ e.2.deadline ≤ now)
      (by
        intro e member fired
        have due : e.2.deadline ≤ now := by simpa using fired
        exact List.mem_map.mpr ⟨e, List.mem_filter.mpr ⟨member, decide_eq_true due⟩, rfl⟩)
    apply filtered.mono
    intro j member
    exact List.mem_append.mpr (List.mem_append.mp member).symm
  · intro c member p lookup
    exact List.mem_append_left _ (passing.expired c member p lookup)

theorem Passing.fireBuffered (k : ExchangeKey) : Passing (fireBuffered pass k) := by
  unfold MrpState.fireBuffered
  split
  · exact passing
  · constructor
    · apply (passing.loose.eraseBuffered [k]).mono
      intro j member
      exact List.mem_append.mpr (List.mem_append.mp member).symm
    · intro c member p lookup
      exact List.mem_append_left _ (passing.expired c member p lookup)

end

theorem tracked_handleTimeout (tracked : Tracked s) (now : Instant) (order : List MessageCounter) :
    Tracked (s.handleTimeout now order).2 := by
  rw [← loose_nil_iff] at tracked ⊢
  have start : Passing { state := s } := by
    constructor
    · exact tracked
    · intro c member
      cases member
  have passing : Passing (s.timerPass now order) := by
    apply timerPass_induction start
    · exact fun _ active c held => held.visitPending active c
    · exact fun _ held => held.removeExpired
    · exact fun _ held => held.fireDisplaced now
    · exact fun _ k held => held.fireBuffered k
  have loose := passing.loose
  rw [← List.append_nil (s.timerPass now order).reclaimCandidates] at loose
  exact loose.reclaimAll

end MrpState

namespace Session
variable {aead : Aead} {id : SessionId} {s t : Session} {act : Act} {outcome : Outcome}

/-- The exchange of a delivered message that asks for an acknowledgement is tracked. -/
theorem mem_deliveredMrp (reliable : message.exchangeFlags.reliable = true) (c : MessageCounter)
    (now : Instant) : message.inboundExchange ∈ (s.deliveredMrp message c now).exchanges := by
  unfold deliveredMrp
  rw [MrpState.reclaimIfIdle_of_busy (MrpState.busy_noteReliable reliable c now),
    MrpState.noteReliable_exchanges]
  exact MrpState.mem_applyAck (Finset.mem_insert_self _ _) message

/-- Without an acknowledgement in it, such a message changes nothing else in the table. -/
theorem deliveredMrp_exchanges (reliable : message.exchangeFlags.reliable = true)
    (plain : message.exchangeFlags.ack = false) (c : MessageCounter) (now : Instant) :
    (s.deliveredMrp message c now).exchanges = insert message.inboundExchange s.mrp.exchanges := by
  have untouched : ∀ u : MrpState, u.applyAck message.inboundExchange message = u :=
    fun u => if_neg (by simp [plain])
  unfold deliveredMrp
  rw [MrpState.reclaimIfIdle_of_busy (MrpState.busy_noteReliable reliable c now),
    MrpState.noteReliable_exchanges, untouched]
  rfl

/-- Every unacknowledged message was sent under an earlier counter. -/
def Numbered (s : Session) : Prop :=
  ∀ c packet, s.mrp.Stores c packet → c < s.outboundCounter

theorem Steps.numbered (steps : Steps aead s act outcome t) (numbered : s.Numbered) :
    t.Numbered := by
  intro c packet stored
  obtain ⟨payloads, encrypted⟩ := steps.encrypted
  rcases steps.stored stored with old | ⟨_, new, carries⟩
  · exact UInt32.lt_of_lt_of_le (numbered c packet old) encrypted.counter_le
  · obtain ⟨n, carried, _, below, _⟩ := encrypted.counterOf_mem packet new
    rw [carries] at carried
    cases carried
    exact below

theorem Numbered.unused (numbered : s.Numbered) : s.outboundCounter ∉ s.mrp.pendingAcks := by
  intro used
  obtain ⟨p, member⟩ := Table.mem_iff_entry.mp used
  exact UInt32.lt_irrefl _ (numbered _ p.packetBytes ⟨_, member, rfl, rfl⟩)

theorem Reports.tracked {mrp : MrpState} (reports : Reports s act events mrp)
    (tracked : s.mrp.Tracked) : mrp.Tracked := by
  cases reports with
  | timeout now order => exact MrpState.tracked_handleTimeout tracked now order
  | finish target => exact MrpState.tracked_flushExchangeAcksOn tracked _
  | abort target =>
    exact MrpState.tracked_closeExchangeOn (MrpState.tracked_flushExchangeAcksOn tracked _) _
  | flush => exact MrpState.tracked_flushAllAcks tracked

/-- On a transport that is not reliable itself, every step keeps the table equal to
the exchanges with work. -/
theorem Steps.tracked (steps : Steps aead s act outcome t) (numbered : s.Numbered)
    (unreliable : s.transportReliable = false) (tracked : s.mrp.Tracked) : t.mrp.Tracked := by
  cases steps with
  | overflow | refused | unauthentic | unanswered => exact tracked
  | sent => exact MrpState.tracked_send tracked _ numbered.unused _ _ _
  | rejected authentic accepted inbound | acked authentic accepted inbound =>
    exact inbound.tracked tracked
  | delivered authentic accepted inbound =>
    simp only [unreliable, Bool.false_eq_true, if_false]
    exact inbound.tracked tracked
  | resent => exact MrpState.tracked_forgetAckFor tracked _
  | fired reports folded =>
    rw [folded.after]
    exact reports.tracked tracked

theorem run_tracked (aead : Aead) (id : SessionId) (acts : List Act) (numbered : s.Numbered)
    (unreliable : s.transportReliable = false) (tracked : s.mrp.Tracked) :
    (s.run aead id acts).mrp.Tracked := by
  have kept : (s.run aead id acts).Numbered ∧
      (s.run aead id acts).transportReliable = false ∧ (s.run aead id acts).mrp.Tracked := by
    apply Runs.invariant (P := fun s : Session => s.Numbered ∧ s.transportReliable = false ∧
      s.mrp.Tracked)
    · rintro s act ⟨numbered, unreliable, tracked⟩
      have steps := step_steps aead id s act
      exact ⟨steps.numbered numbered, steps.continues.transportReliable.trans unreliable,
        steps.tracked numbered unreliable tracked⟩
    · exact ⟨numbered, unreliable, tracked⟩
  exact kept.2.2

end Session

theorem SessionManager.freshSession_numbered (m : SessionManager) (r : Registration)
    (draws : Draws) : (m.freshSession r draws).Numbered := by
  rintro c packet ⟨e, member, _⟩
  cases member

theorem SessionManager.freshSession_tracked (m : SessionManager) (r : Registration)
    (draws : Draws) : (m.freshSession r draws).mrp.Tracked := by
  intro k
  constructor
  · intro member
    cases member
  · rintro (⟨e, member, _⟩ | ⟨e, member, _⟩ | ⟨e, member, _⟩) <;> cases member

/-- After every run, the exchange table of a registered session holds exactly the
exchanges with an unacknowledged message or an owed acknowledgement. -/
theorem exchanges_are_live_work (aead : Aead) (m : SessionManager) (r : Registration)
    (draws : Draws) (ops : List Operation) :
    ∃ s, ((m.register r draws).run aead ops).sessions.lookup r.localId = some s ∧
      ∀ k, k ∈ s.mrp.exchanges ↔
        (∃ e ∈ s.mrp.pendingAcks.entries, e.2.exchange = k) ∨
          (∃ e ∈ s.mrp.pendingOutboundAcks.entries, e.1 = k) ∨
          ∃ e ∈ s.mrp.displacedAcks, e.1 = k := by
  obtain ⟨_, ran⟩ := SessionManager.run_session aead (m.lookup_register r draws) ops
  exact ⟨_, ran, Session.run_tracked aead r.localId _ (m.freshSession_numbered r draws) rfl
    (m.freshSession_tracked r draws)⟩

end Matter.Transport
