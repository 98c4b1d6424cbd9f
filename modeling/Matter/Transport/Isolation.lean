import Matter.Transport.Schedule

/-! What the calls on one exchange do to another one of the session. Two exchanges
may share an id and differ in the role we play, and all tables of the session hold
the entries of both. -/
namespace Matter.Transport

@[ext] structure ExchangeView where
  tracked : Prop
  buffered : Option PendingOutboundAck
  displaced : List (ExchangeKey × PendingOutboundAck)
  unacknowledged : MessageCounter → Option PendingAck

open ExchangeView

/-- Nothing is left to do on the exchange. -/
def ExchangeView.Idle (v : ExchangeView) : Prop :=
  v.buffered = none ∧ v.displaced = [] ∧ ∀ c, v.unacknowledged c = none

def ExchangeView.without (v : ExchangeView) (c : MessageCounter) : ExchangeView :=
  { v with unacknowledged := Function.update v.unacknowledged c none }

/-- The peer acknowledged our message `c`. The exchange is given up if that was the
last work on it. -/
def ExchangeView.settled (v : ExchangeView) (c : MessageCounter) : ExchangeView :=
  { v.without c with tracked := v.tracked ∧ ¬ ((v.unacknowledged c).isSome ∧ (v.without c).Idle) }

theorem ExchangeView.without_of_missing {v : ExchangeView} (missing : v.unacknowledged c = none) :
    v.without c = v := by
  rw [without, ← missing, Function.update_eq_self]

theorem ExchangeView.settled_of_missing {v : ExchangeView} (missing : v.unacknowledged c = none) :
    v.settled c = v := by
  simp [settled, missing, without_of_missing missing]

def ProtocolHeader.acked (header : ProtocolHeader) : Option MessageCounter :=
  if header.exchangeFlags.ack then header.ackCounter else none

namespace MrpState

def view (s : MrpState) (k : ExchangeKey) : ExchangeView where
  tracked := k ∈ s.exchanges
  buffered := s.pendingOutboundAcks.lookup k
  displaced := s.displacedAcks.filter (·.1 = k)
  unacknowledged c := (s.pendingAcks.lookup c).filter (·.exchange = k)

variable {s : MrpState} {j k : ExchangeKey}

theorem view_reclaimIfIdle (other : j ≠ k) : (s.reclaimIfIdle k).view j = s.view j := by
  unfold reclaimIfIdle
  split
  · simp [view, other]
  · rfl

theorem view_track (other : j ≠ k) : (s.track k).view j = s.view j := by
  simp [view, track, other]

theorem filter_displaced (other : j ≠ k) (acks : List (ExchangeKey × PendingOutboundAck)) :
    (acks.filter (·.1 ≠ k)).filter (·.1 = j) = acks.filter (·.1 = j) := by
  rw [List.filter_filter]
  apply List.filter_congr
  intro e _
  by_cases same : e.1 = j
  · simp [same, other]
  · simp [same]

theorem view_commitOutbound (other : j ≠ prepared.exchange) :
    (s.commitOutbound prepared).view j = s.view j := by
  unfold commitOutbound
  split
  · simp [view, other, AList.lookup_erase_ne other]
  · simp [view, other]

section
variable (other : j ≠ k)
include other

theorem view_markPacketSentOn (fresh : reliable = true → (s.view j).unacknowledged counter = none) :
    (s.markPacketSentOn counter k packet reliable now).view j = s.view j := by
  cases reliable with
  | false => exact view_reclaimIfIdle other
  | true =>
    refine ExchangeView.ext rfl rfl rfl (funext fun c => ?_)
    simp only [view, markPacketSentOn, Bool.not_true, Bool.false_eq_true, if_false]
    by_cases same : c = counter
    · subst same
      have unused := fresh rfl
      simp only [view] at unused
      rw [AList.lookup_insert, unused]
      simp [Option.filter, Ne.symm other]
    · rw [AList.lookup_insert_ne same]

theorem view_cancelPendingOutboundAck : (s.cancelPendingOutboundAck k).view j = s.view j := by
  simp only [view, cancelPendingOutboundAck, filter_displaced other, AList.lookup_erase_ne other]

theorem view_flushExchangeAcksOn : (s.flushExchangeAcksOn k).2.view j = s.view j := by
  exact (view_reclaimIfIdle other).trans (s.view_cancelPendingOutboundAck other)

theorem view_closeExchangeOn : (s.closeExchangeOn k).view j = s.view j := by
  have table : (j ∈ s.exchanges.erase k) = (j ∈ s.exchanges) := by simp [other]
  refine ExchangeView.ext table (AList.lookup_erase_ne other) (filter_displaced other _)
    (funext fun c => ?_)
  simp only [view, lookup_closeExchangeOn]
  cases s.pendingAcks.lookup c with
  | none => rfl
  | some p =>
    by_cases same : p.exchange = k
    · simp [Option.filter, same, Ne.symm other]
    · simp [Option.filter, same]

theorem view_noteReliable (header : ProtocolHeader) :
    (s.noteReliable k header c now).view j = s.view j := by
  unfold noteReliable
  split
  · have queue : (s.owe k c now).displacedAcks.filter (·.1 = j) = s.displacedAcks.filter (·.1 = j) := by
      unfold owe
      cases s.pendingOutboundAcks.lookup k with
      | none => rfl
      | some older =>
        dsimp only
        split
        · simp [Ne.symm other]
        · rfl
    have slot : (s.owe k c now).pendingOutboundAcks.lookup j = s.pendingOutboundAcks.lookup j :=
      AList.lookup_insert_ne other
    exact ExchangeView.ext rfl slot queue rfl
  · rfl

end

theorem exchangeIsIdle_view : s.exchangeIsIdle k = true ↔ (s.view k).Idle := by
  simp only [exchangeIsIdle, ExchangeView.Idle, view, Bool.and_eq_true, Bool.not_eq_true',
    Bool.or_eq_false_iff, List.any_eq_false, decide_eq_true_eq, Option.isSome_eq_false_iff,
    Option.isNone_iff_eq_none, List.filter_eq_nil_iff, Option.filter_eq_none_iff]
  rw [and_comm, and_assoc]
  refine and_congr_right fun _ => and_congr_right fun _ => ?_
  constructor
  · intro absent c p found
    exact absent ⟨c, p⟩ (Table.lookup_eq_some.mp found)
  · intro absent e member
    exact absent e.1 e.2 (Table.lookup_eq_some.mpr member)

theorem view_reclaim_self (s : MrpState) (k : ExchangeKey) :
    (s.reclaimIfIdle k).view k =
      { s.view k with tracked := (s.view k).tracked ∧ ¬ (s.view k).Idle } := by
  unfold reclaimIfIdle
  split
  · rename_i idle
    refine ExchangeView.ext ?_ rfl rfl rfl
    simp only [exchangeIsIdle_view.mp idle, not_true_eq_false, and_false]
    exact eq_false (Finset.notMem_erase k s.exchanges)
  · rename_i busy
    simp [exchangeIsIdle_view.not.mp busy]

theorem view_erasePending (s : MrpState) (j : ExchangeKey) (c : MessageCounter) :
    ({ s with pendingAcks := s.pendingAcks.erase c } : MrpState).view j = (s.view j).without c := by
  refine ExchangeView.ext rfl rfl rfl (funext fun counter => ?_)
  by_cases same : counter = c
  · subst same
    simp [view, without]
  · simp [view, without, same, AList.lookup_erase_ne same]

theorem view_settle (other : j ≠ k) (c : MessageCounter) :
    (s.settle k c).view j = (s.view j).settled c := by
  unfold settle
  cases found : s.pendingAcks.lookup c with
  | none =>
    exact (settled_of_missing (by simp [view, found])).symm
  | some acked =>
    dsimp only
    by_cases here : acked.exchange = j
    · have entry : ((s.view j).unacknowledged c).isSome := by simp [view, found, here]
      rw [here, if_pos other, view_reclaim_self, view_erasePending]
      simp [settled, entry, without]
    · have missing : (s.view j).unacknowledged c = none := by simp [view, found, here]
      rw [settled_of_missing missing, ← without_of_missing missing,
        ← view_erasePending]
      split
      · exact view_reclaimIfIdle (Ne.symm here)
      · rfl

theorem view_applyAck (other : j ≠ k) (header : ProtocolHeader) :
    (s.applyAck k header).view j = header.acked.elim (s.view j) (s.view j).settled := by
  unfold applyAck ProtocolHeader.acked
  split
  · cases header.ackCounter with
    | none => rfl
    | some c => exact view_settle other c
  · rfl

theorem view_processInbound (decoded : decodeProtocolHeader payload = .ok (header, appPayload))
    (other : j ≠ header.inboundExchange) (peerCounter : MessageCounter) (now : Instant) :
    (s.processInbound payload peerCounter now).2.view j = s.view j ∨
      (s.processInbound payload peerCounter now).2.view j =
        header.acked.elim (s.view j) (s.view j).settled := by
  have inbound := s.processInbound_cases payload peerCounter now
  generalize s.processInbound payload peerCounter now = result at inbound ⊢
  have noted : (s.noteActivity now).view j = s.view j := rfl
  cases inbound with
  | malformed failed | full _ _ _ => exact Or.inl noted
  | ackOnly same _ _ =>
    cases decoded.symm.trans same
    right
    rw [view_reclaimIfIdle other, view_applyAck other, view_track other, noted]
  | app same _ _ =>
    cases decoded.symm.trans same
    right
    rw [view_reclaimIfIdle other, view_noteReliable other, view_applyAck other, view_track other, noted]

theorem exchanges_are_isolated (s : MrpState) (k j : ExchangeKey) (other : j ≠ k) :
    (∀ prepared, prepared.exchange = k → (s.commitOutbound prepared).view j = s.view j) ∧
    (∀ counter packet reliable now,
      (reliable = true → (s.view j).unacknowledged counter = none) →
        (s.markPacketSentOn counter k packet reliable now).view j = s.view j) ∧
    (s.flushExchangeAcksOn k).2.view j = s.view j ∧
    (s.closeExchangeOn k).view j = s.view j ∧
    (s.cancelPendingOutboundAck k).view j = s.view j ∧
    ∀ payload header appPayload peerCounter now,
      decodeProtocolHeader payload = .ok (header, appPayload) → header.inboundExchange = k →
        match header.acked with
        | none => (s.processInbound payload peerCounter now).2.view j = s.view j
        | some c =>
          (s.processInbound payload peerCounter now).2.view j = s.view j ∨
            (s.processInbound payload peerCounter now).2.view j = (s.view j).settled c := by
  refine ⟨?_, ?_, view_flushExchangeAcksOn other, view_closeExchangeOn other,
    view_cancelPendingOutboundAck other, ?_⟩
  · rintro prepared rfl
    exact view_commitOutbound other
  · intro counter packet reliable now fresh
    exact view_markPacketSentOn other fresh
  · rintro payload header appPayload peerCounter now decoded rfl
    have seen := s.view_processInbound decoded other peerCounter now
    split
    · rename_i silent
      simpa [silent] using seen
    · rename_i c acked
      simpa [acked] using seen

/-- Two exchanges under one id, one of them with a message that is not acknowledged. -/
theorem roles_are_isolated :
    let s := (bare .default).markPacketSentOn 5 ⟨1, false⟩ [7] true 0
    ((s.view ⟨1, false⟩).unacknowledged 5).isSome ∧
      (s.markPacketSentOn 6 ⟨1, true⟩ [8] true 0).view ⟨1, false⟩ = s.view ⟨1, false⟩ ∧
      (s.closeExchangeOn ⟨1, true⟩).view ⟨1, false⟩ = s.view ⟨1, false⟩ := by
  intro s
  obtain ⟨_, marks, _, closes, _⟩ := exchanges_are_isolated s ⟨1, true⟩ ⟨1, false⟩ (by decide)
  refine ⟨by simp [s, view, markPacketSentOn, Option.filter], marks 6 [8] true 0 fun _ => ?_, closes⟩
  have absent : s.pendingAcks.lookup 6 = (∅ : Table MessageCounter PendingAck).lookup 6 :=
    AList.lookup_insert_ne (by decide)
  simp [view, absent]

/-- A counter that is used twice takes the message of the other exchange out. -/
theorem reused_counter_drops_message :
    ¬ ∀ (s : MrpState) (k j : ExchangeKey), j ≠ k → ∀ counter packet reliable now,
      (s.markPacketSentOn counter k packet reliable now).view j = s.view j := by
  intro isolated
  have same := isolated ((bare .default).markPacketSentOn 5 ⟨1, false⟩ [] true 0) ⟨1, true⟩ ⟨1, false⟩
    (by decide) 5 [] true 0
  have entry := congrArg (fun v => (v.unacknowledged 5).isSome) same
  simp [view, markPacketSentOn, Option.filter] at entry

end MrpState
end Matter.Transport
