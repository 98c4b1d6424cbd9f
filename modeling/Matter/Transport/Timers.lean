import Matter.Transport.Debts
import Matter.Transport.Schedule

/-! When a session's timer is due and what a timer call does. The deadline that is
polled and the work that a call finds due are computed apart from each other, over
the messages not acknowledged and the two collections of acknowledgements owed. -/
namespace Matter.Transport

instance : Std.Total ExchangeKey.Le where
  total a b := by
    unfold ExchangeKey.Le
    rcases Nat.lt_trichotomy a.id.toNat b.id.toNat with less | same | more
    · exact Or.inl (Or.inl (UInt16.lt_iff_toNat_lt.mpr less))
    · have ids := UInt16.toNat_inj.mp same
      cases a.isLocalInitiator <;> simp [ids]
    · exact Or.inr (Or.inl (UInt16.lt_iff_toNat_lt.mpr more))

instance : IsTrans ExchangeKey ExchangeKey.Le where
  trans a b c := by
    unfold ExchangeKey.Le
    simp only [UInt16.lt_iff_toNat_lt, ← UInt16.toNat_inj]
    grind

namespace MrpState

/-- The call fired the acknowledgements that were due, the displaced ones first and the
buffered ones by exchange, and left alone what was not due. -/
structure FiresDue (s : MrpState) (now : Instant) (fired : List MrpTimerEvent × MrpState) : Prop where
  displaced : fired.2.displacedAcks = s.displacedAcks.filter fun e => ¬ e.2.deadline ≤ now
  buffered : ∀ k, fired.2.pendingOutboundAcks.lookup k =
    (s.pendingOutboundAcks.lookup k).filter fun p => ¬ p.deadline ≤ now
  waiting : ∀ c p, s.pendingAcks.lookup c = some p → now < p.nextAttempt →
    fired.2.pendingAcks.lookup c = some p
  emitted : ∃ (messages : List MrpTimerEvent) (due : List (Σ _ : ExchangeKey, PendingOutboundAck)),
    fired.1 = messages ++ (s.displacedAcks.filter fun e => e.2.deadline ≤ now).map
      (fun e => e.2.fired e.1) ++ due.map (fun e => e.2.fired e.1) ∧
    (∀ event ∈ messages, event.ack = none) ∧
    due.Perm (s.pendingOutboundAcks.entries.filter fun e => e.2.deadline ≤ now) ∧
    due.Pairwise fun e f => e.1.Le f.1

/-- Visiting the messages touches no acknowledgement owed and fires none. -/
structure Visited (s : MrpState) (pass : TimerPass) : Prop where
  displaced : pass.state.displacedAcks = s.displacedAcks
  buffered : pass.state.pendingOutboundAcks = s.pendingOutboundAcks
  silent : ∀ event ∈ pass.events, event.ack = none

variable {s : MrpState} {pass : TimerPass} {now : Instant}

theorem Visited.visitPending (visited : Visited s pass) (active : Bool) (c : MessageCounter) :
    Visited s (visitPending now active pass c) := by
  have adds (event : MrpTimerEvent) (none : event.ack = none) :
      ∀ e ∈ pass.events ++ [event], e.ack = Option.none := by
    intro e member
    rcases List.mem_append.mp member with before | here
    · exact visited.silent e before
    · rw [List.mem_singleton.mp here, none]
  unfold MrpState.visitPending
  split
  · exact visited
  split
  · exact visited
  split
  · exact ⟨visited.displaced, visited.buffered, adds _ rfl⟩
  · exact ⟨visited.displaced, visited.buffered, adds _ rfl⟩

theorem Visited.all (visited : Visited s pass) (active : Bool) (counters : List MessageCounter) :
    Visited s (counters.foldl (MrpState.visitPending now active) pass) := by
  induction counters generalizing pass with
  | nil => exact visited
  | cons c counters ih => exact ih (visited.visitPending active c)

/-- The entries of the exchanges of a list. -/
def among (owed : Table ExchangeKey PendingOutboundAck) (ks : List ExchangeKey) :
    List (Σ _ : ExchangeKey, PendingOutboundAck) :=
  ks.filterMap fun k => (owed.lookup k).map (⟨k, ·⟩)

theorem fireAll_eq (distinct : ks.Nodup) (pass : TimerPass) :
    (ks.foldl fireBuffered pass).events =
        pass.events ++ (among pass.state.pendingOutboundAcks ks).map (fun e => e.2.fired e.1) ∧
      (ks.foldl fireBuffered pass).state = { pass.state with
        pendingOutboundAcks := ks.foldl (fun t k => t.erase k) pass.state.pendingOutboundAcks } := by
  induction ks generalizing pass with
  | nil => simp [among]
  | cons k ks ih =>
    obtain ⟨absent, distinct⟩ := List.nodup_cons.mp distinct
    obtain ⟨events, state⟩ := ih distinct (fireBuffered pass k)
    rw [List.foldl_cons, List.foldl_cons, events, state]
    unfold fireBuffered
    cases found : pass.state.pendingOutboundAcks.lookup k with
    | none => simp [among, found, Table.erase_of_lookup_none found]
    | some p =>
      refine ⟨?_, rfl⟩
      have rest : among (pass.state.pendingOutboundAcks.erase k) ks =
          among pass.state.pendingOutboundAcks ks := by
        apply List.filterMap_congr
        intro j member
        rw [AList.lookup_erase_ne (ne_of_mem_of_not_mem member absent)]
      simp only [rest]
      simp [among, found]

theorem among_due (s : MrpState) (now : Instant) :
    (among s.pendingOutboundAcks (s.dueExchanges now)).Perm
      (s.pendingOutboundAcks.entries.filter fun e => e.2.deadline ≤ now) := by
  have sorted : (among s.pendingOutboundAcks (s.dueExchanges now)).Perm
      (among s.pendingOutboundAcks
        ((s.pendingOutboundAcks.entries.filter fun e => e.2.deadline ≤ now).map (·.1))) :=
    (List.perm_insertionSort ExchangeKey.Le _).filterMap _
  refine sorted.trans (List.Perm.of_eq ?_)
  rw [among, List.filterMap_map]
  have own : ∀ e ∈ s.pendingOutboundAcks.entries.filter fun e => e.2.deadline ≤ now,
      ((s.pendingOutboundAcks.lookup e.1).map (⟨e.1, ·⟩)) = some e := by
    intro e member
    rw [Table.lookup_eq_some.mpr (List.mem_filter.mp member).1]
    rfl
  exact (List.filterMap_congr own).trans List.filterMap_some

theorem nodup_dueExchanges (s : MrpState) (now : Instant) : (s.dueExchanges now).Nodup := by
  apply (List.perm_insertionSort ExchangeKey.Le _).nodup_iff.mpr
  exact List.Nodup.sublist (List.filter_sublist.map _) s.pendingOutboundAcks.keys_nodup

theorem mem_dueExchanges :
    k ∈ s.dueExchanges now ↔ ∃ p, s.pendingOutboundAcks.lookup k = some p ∧ p.deadline ≤ now := by
  simp [dueExchanges, List.mem_insertionSort, Table.lookup_eq_some]

theorem reclaimAll_keeps (ks : List ExchangeKey) :
    (ks.foldl reclaimIfIdle s).pendingOutboundAcks = s.pendingOutboundAcks ∧
      (ks.foldl reclaimIfIdle s).displacedAcks = s.displacedAcks := by
  induction ks generalizing s with
  | nil => exact ⟨rfl, rfl⟩
  | cons k ks ih => simpa using ih (s := s.reclaimIfIdle k)

/-- A message is left alone before its time, and an event is about one at its time. -/
theorem handleTimeout_message (s : MrpState) (now : Instant) (order : List MessageCounter)
    (c : MessageCounter) :
    (∀ p, s.pendingAcks.lookup c = some p → now < p.nextAttempt →
      (s.handleTimeout now order).2.pendingAcks.lookup c = some p) ∧
    ((s.handleTimeout now order).1.filter (·.concerns c) ≠ [] ↔
      ∃ p, s.pendingAcks.lookup c = some p ∧ p.nextAttempt ≤ now) := by
  have progress := handleTimeout_progresses s now order c
  generalize s.pendingAcks.lookup c = before, (s.handleTimeout now order).1.filter (·.concerns c) =
    events, (s.handleTimeout now order).2.pendingAcks.lookup c = after at progress ⊢
  cases progress with
  | absent => simp
  | waits early unsettled => simpa using early now order rfl
  | settled ends => cases ends
  | repeats nextAttempt call due left | expires call due spent =>
    cases call
    simp [due, Nat.not_lt.mpr due]

theorem handleTimeout_firesDue (s : MrpState) (now : Instant) (order : List MessageCounter) :
    FiresDue s now (s.handleTimeout now order) := by
  have visited : Visited s ((Table.arrange order s.pendingAcks.keys).foldl
      (visitPending now (s.isPeerActive now)) { state := s }) := by
    apply Visited.all
    exact ⟨rfl, rfl, fun _ none => absurd none List.not_mem_nil⟩
  have message := s.handleTimeout_message now order
  unfold handleTimeout timerPass at *
  generalize (Table.arrange order s.pendingAcks.keys).foldl
    (visitPending now (s.isPeerActive now)) { state := s } = pass at visited message ⊢
  obtain ⟨displaced, buffered, silent⟩ := visited
  have due : (fireDisplaced now (removeExpired pass)).state.dueExchanges now = s.dueExchanges now := by
    simp [fireDisplaced, removeExpired, dueExchanges, buffered]
  obtain ⟨events, state⟩ := fireAll_eq (s.nodup_dueExchanges now)
    (fireDisplaced now (removeExpired pass))
  dsimp only at message ⊢
  rw [due] at message ⊢
  constructor
  · simp only [(reclaimAll_keeps _).2, state]
    simp [fireDisplaced, removeExpired, displaced]
  · intro k
    simp only [(reclaimAll_keeps _).1, state, Table.lookup_eraseAll, mem_dueExchanges]
    simp only [fireDisplaced, removeExpired, buffered]
    cases s.pendingOutboundAcks.lookup k with
    | none => simp
    | some p => by_cases past : p.deadline ≤ now <;> simp [past, Option.filter]
  · intro c p found early
    exact (message c).1 p found early
  · refine ⟨pass.events, among s.pendingOutboundAcks (s.dueExchanges now), ?_, silent, s.among_due now, ?_⟩
    · rw [events]
      simp [fireDisplaced, removeExpired, displaced, buffered]
    · apply (List.pairwise_insertionSort ExchangeKey.Le _).filterMap
      intro a b le e first f second
      obtain ⟨p, _, rfl⟩ := Option.map_eq_some_iff.mp first
      obtain ⟨q, _, rfl⟩ := Option.map_eq_some_iff.mp second
      exact le

theorem min_due {deadlines : List Nat} :
    (∃ t, deadlines.min? = some t ∧ t ≤ now) ↔ ∃ t ∈ deadlines, t ≤ now := by
  constructor
  · rintro ⟨t, least, past⟩
    exact ⟨t, List.min?_mem least, past⟩
  · rintro ⟨t, member, past⟩
    obtain ⟨least, found⟩ := Option.isSome_iff_exists.mp (List.isSome_min?_of_mem member)
    exact ⟨least, found, Nat.le_trans ((List.min?_eq_some_iff.mp found).2 t member) past⟩

/-- Something is due. -/
def Due (s : MrpState) (now : Instant) : Prop :=
  (∃ e ∈ s.pendingAcks.entries, e.2.nextAttempt ≤ now) ∨
    (∃ e ∈ s.pendingOutboundAcks.entries, e.2.deadline ≤ now) ∨
    ∃ e ∈ s.displacedAcks, e.2.deadline ≤ now

theorem pollTimeout_due : (∃ t, s.pollTimeout = some t ∧ t ≤ now) ↔ s.Due now := by
  unfold pollTimeout Due
  simp [id, or_and_right, exists_or, @eq_comm _ (some _), min_due]

theorem handleTimeout_due (order : List MessageCounter) :
    (s.handleTimeout now order).1 ≠ [] ↔ s.Due now := by
  obtain ⟨messages, due, events, silent, entries, _⟩ := (s.handleTimeout_firesDue now order).emitted
  have message (c) := (s.handleTimeout_message now order c).2
  constructor
  · intro nonempty
    obtain ⟨event, member⟩ := List.exists_mem_of_ne_nil _ nonempty
    have concerned (c) (about : event.concerns c = true) : s.Due now := by
      obtain ⟨p, found, past⟩ := (message c).mp
        (List.ne_nil_of_mem (List.mem_filter.mpr ⟨member, about⟩))
      exact Or.inl ⟨⟨c, p⟩, Table.lookup_eq_some.mp found, past⟩
    cases kind : event with
    | retransmit id c packet
    | expired id c => exact concerned c (by simp [kind, MrpTimerEvent.concerns])
    | standaloneAckDeadlineFired id c role =>
      rw [events] at member
      rcases List.mem_append.mp member with front | buffered
      · rcases List.mem_append.mp front with message | displaced
        · cases kind ▸ silent event message
        · obtain ⟨e, found, _⟩ := List.mem_map.mp displaced
          obtain ⟨inside, past⟩ := List.mem_filter.mp found
          exact Or.inr (Or.inr ⟨e, inside, of_decide_eq_true past⟩)
      · obtain ⟨e, found, _⟩ := List.mem_map.mp buffered
        obtain ⟨inside, past⟩ := List.mem_filter.mp (entries.mem_iff.mp found)
        exact Or.inr (Or.inl ⟨e, inside, of_decide_eq_true past⟩)
  · rintro (⟨e, inside, past⟩ | ⟨e, inside, past⟩ | ⟨e, inside, past⟩)
    · intro nothing
      apply (message e.1).mpr ⟨e.2, Table.lookup_eq_some.mpr inside, past⟩
      rw [nothing]
      rfl
    · have found := entries.mem_iff.mpr (List.mem_filter.mpr ⟨inside, decide_eq_true past⟩)
      rw [events]
      exact List.ne_nil_of_mem (List.mem_append_right _ (List.mem_map_of_mem found))
    · have found : e ∈ s.displacedAcks.filter fun e => e.2.deadline ≤ now :=
        List.mem_filter.mpr ⟨inside, decide_eq_true past⟩
      rw [events]
      exact List.ne_nil_of_mem
        (List.mem_append_left _ (List.mem_append_right _ (List.mem_map_of_mem found)))

theorem timers_agree (s : MrpState) (now : Instant) (order : List MessageCounter) :
    ((s.handleTimeout now order).1 ≠ [] ↔ ∃ t, s.pollTimeout = some t ∧ t ≤ now) ∧
      FiresDue s now (s.handleTimeout now order) :=
  ⟨(handleTimeout_due order).trans pollTimeout_due.symm, s.handleTimeout_firesDue now order⟩

end MrpState
end Matter.Transport
