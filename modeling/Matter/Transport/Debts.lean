import Matter.Transport.Emission

/-! The acknowledgements a session owes its peer. One per exchange is buffered, and
the older ones it displaced wait in a queue. Every function of the protocol keeps
them, or adds one, or takes some out and reports them to its caller. -/
namespace Matter.Transport
namespace MrpState

/-- The acknowledgements owed, each with the exchange it belongs to. -/
def owed (s : MrpState) : List (ExchangeKey × MessageCounter) :=
  s.pendingOutboundAcks.entries.map (fun e => (e.1, e.2.ackCounter)) ++
    s.displacedAcks.map fun e => (e.1, e.2.ackCounter)

def bufferedOn (s : MrpState) (k : ExchangeKey) : List (ExchangeKey × MessageCounter) :=
  (s.pendingOutboundAcks.lookup k).toList.map fun p => (k, p.ackCounter)

/-- What is dropped when another acknowledgement becomes due on the exchange. -/
def dropped (s : MrpState) (k : ExchangeKey) : List (ExchangeKey × MessageCounter) :=
  if s.displacedAcks.length < maxDisplacedAcks then [] else s.bufferedOn k

variable {s t : MrpState} {k : ExchangeKey} {c : MessageCounter} {now : Instant}

theorem owed_congr (buffered : t.pendingOutboundAcks = s.pendingOutboundAcks)
    (displaced : t.displacedAcks = s.displacedAcks) : t.owed = s.owed := by
  simp [owed, buffered, displaced]

@[simp] theorem owed_reclaimIfIdle : (s.reclaimIfIdle k).owed = s.owed :=
  owed_congr reclaimIfIdle_pendingOutboundAcks reclaimIfIdle_displacedAcks

@[simp] theorem owed_reclaimAll (ks : List ExchangeKey) :
    (ks.foldl reclaimIfIdle s).owed = s.owed := by
  induction ks generalizing s with
  | nil => rfl
  | cons k ks ih => rw [List.foldl_cons, ih, owed_reclaimIfIdle]

theorem owed_erase (s : MrpState) (k : ExchangeKey) :
    s.owed.Perm (s.bufferedOn k ++
      ({ s with pendingOutboundAcks := s.pendingOutboundAcks.erase k } : MrpState).owed) := by
  unfold owed bufferedOn
  cases found : s.pendingOutboundAcks.lookup k with
  | none =>
    rw [Table.erase_of_lookup_none found]
    rfl
  | some p =>
    have taken := (Table.entries_perm_of_lookup found).map
      (fun e => ((e.1, e.2.ackCounter) : ExchangeKey × MessageCounter))
    exact taken.append_right _

theorem owed_filterDisplaced (s : MrpState) (due : ExchangeKey × PendingOutboundAck → Bool) :
    s.owed.Perm ((s.displacedAcks.filter due).map (fun e => (e.1, e.2.ackCounter)) ++
      ({ s with displacedAcks := s.displacedAcks.filter fun e => !due e } : MrpState).owed) := by
  have split := (List.filter_append_perm due s.displacedAcks).map
    (fun e => ((e.1, e.2.ackCounter) : ExchangeKey × MessageCounter))
  rw [List.map_append] at split
  unfold owed
  apply List.Perm.trans (split.symm.append_left _)
  rw [← List.append_assoc, ← List.append_assoc]
  exact List.perm_append_comm.append_right _

theorem filterMap_ack_fired (acks : List (ExchangeKey × PendingOutboundAck)) :
    (acks.map fun e => e.2.fired e.1).filterMap (·.ack) =
      acks.map fun e => (e.1, e.2.ackCounter) := by
  rw [List.filterMap_map]
  exact congrFun List.filterMap_eq_map' acks

/-- Sending takes out the acknowledgement buffered on the exchange. -/
theorem owed_commitOutbound (opcode : UInt8) (protocolId : ProtocolId) (appPayload : Bytes)
    (flags : MrpFlags) :
    s.owed.Perm (s.bufferedOn k ++
      (s.commitOutbound (s.buildOutbound opcode protocolId k appPayload flags)).owed) := by
  cases found : s.pendingOutboundAcks.lookup k with
  | none =>
    have kept : (s.commitOutbound (s.buildOutbound opcode protocolId k appPayload flags)).owed =
        s.owed := by
      apply owed_congr
      · simp [commitOutbound, buildOutbound, found]
      · rfl
    rw [kept, bufferedOn, found]
    rfl
  | some p =>
    have taken : (s.commitOutbound (s.buildOutbound opcode protocolId k appPayload flags)).owed =
        ({ s with pendingOutboundAcks := s.pendingOutboundAcks.erase k } : MrpState).owed := by
      apply owed_congr
      · simp [commitOutbound, buildOutbound, found, PreparedOutbound.exchange]
      · rfl
    rw [taken]
    exact s.owed_erase k

@[simp] theorem owed_markPacketSentOn (packetBytes : Bytes) (reliable : Bool) :
    (s.markPacketSentOn c k packetBytes reliable now).owed = s.owed := by
  unfold markPacketSentOn
  split
  · rw [owed_reclaimIfIdle]
    rfl
  · rfl

section
variable (header : ProtocolHeader)

/-- An acknowledgement of the peer's concerns our messages only. -/
theorem applyAck_keeps :
    (s.applyAck k header).pendingOutboundAcks = s.pendingOutboundAcks ∧
      (s.applyAck k header).displacedAcks = s.displacedAcks := by
  unfold applyAck settle
  repeat' split
  all_goals simp

@[simp] theorem owed_applyAck : (s.applyAck k header).owed = s.owed :=
  owed_congr (applyAck_keeps header).1 (applyAck_keeps header).2

theorem dropped_applyAck : (s.applyAck k header).dropped k = s.dropped k := by
  obtain ⟨buffered, displaced⟩ := s.applyAck_keeps (k := k) header
  simp [dropped, bufferedOn, buffered, displaced]

end

section
variable (s : MrpState)

/-- A new debt displaces the one buffered on its exchange, or drops it. -/
theorem owed_owe (k : ExchangeKey) (c : MessageCounter) (now : Instant) :
    (s.owed ++ [(k, c)]).Perm ((s.owe k c now).owed ++ s.dropped k) := by
  have displaced : (s.displacedAcks.map (fun e => (e.1, e.2.ackCounter)) ++ s.bufferedOn k).Perm
      ((s.owe k c now).displacedAcks.map (fun e => (e.1, e.2.ackCounter)) ++ s.dropped k) := by
    unfold owe dropped bufferedOn
    cases s.pendingOutboundAcks.lookup k with
    | none => simp
    | some older =>
      by_cases room : s.displacedAcks.length < maxDisplacedAcks <;> simp [room]
  have after : (s.owe k c now).owed = (k, c) ::
      ((s.pendingOutboundAcks.erase k).entries.map (fun e => (e.1, e.2.ackCounter)) ++
        (s.owe k c now).displacedAcks.map fun e => (e.1, e.2.ackCounter)) := rfl
  rw [after]
  apply List.perm_iff_count.mpr
  intro x
  have moved := List.perm_iff_count.mp displaced x
  have taken := List.perm_iff_count.mp (s.owed_erase k) x
  simp only [owed, List.count_append, List.count_cons, List.count_nil] at taken moved ⊢
  omega

/-- A flush takes out what is owed on the exchange. -/
theorem owed_flushExchangeAcksOn (k : ExchangeKey) :
    s.owed.Perm ((s.flushExchangeAcksOn k).1.filterMap (·.ack) ++ (s.flushExchangeAcksOn k).2.owed) := by
  have buffered : ((s.pendingOutboundAcks.lookup k).toList.map (·.fired k)).filterMap (·.ack) =
      s.bufferedOn k := by
    unfold bufferedOn
    cases s.pendingOutboundAcks.lookup k <;> rfl
  have queue := s.owed_filterDisplaced fun e => e.1 = k
  have slot := owed_erase { s with displacedAcks := s.displacedAcks.filter fun e => !decide (e.1 = k) } k
  simp only [flushExchangeAcksOn, List.filterMap_append, filterMap_ack_fired, buffered,
    owed_reclaimIfIdle, ne_eq, decide_not, List.append_assoc]
  exact queue.trans (slot.append_left _)

theorem owed_flushExchanges (ks : List ExchangeKey) :
    s.owed.Perm ((s.flushExchanges ks).1.filterMap (·.ack) ++ (s.flushExchanges ks).2.owed) := by
  induction ks generalizing s with
  | nil => exact List.Perm.refl _
  | cons k ks ih =>
    simp only [flushExchanges, List.filterMap_append, List.append_assoc]
    exact (s.owed_flushExchangeAcksOn k).trans ((ih _).append_left _)

/-- Closing an exchange after its flush loses no acknowledgement. -/
theorem owed_closeExchangeOn (k : ExchangeKey) :
    ((s.flushExchangeAcksOn k).2.closeExchangeOn k).owed = (s.flushExchangeAcksOn k).2.owed := by
  apply owed_congr
  · simp only [closeExchangeOn, flushExchangeAcksOn, reclaimIfIdle_pendingOutboundAcks]
    exact Table.erase_of_lookup_none (AList.lookup_erase _ _)
  · simp [closeExchangeOn, flushExchangeAcksOn, reclaimIfIdle_displacedAcks]

/-- A timer call takes out what is due. -/
theorem owed_handleTimeout (now : Instant) (order : List MessageCounter) :
    s.owed.Perm ((s.handleTimeout now order).1.filterMap (·.ack) ++
      (s.handleTimeout now order).2.owed) := by
  have pass : s.owed.Perm ((s.timerPass now order).events.filterMap (·.ack) ++
      (s.timerPass now order).state.owed) := by
    apply timerPass_induction (P := fun pass =>
      s.owed.Perm (pass.events.filterMap (·.ack) ++ pass.state.owed))
    · exact List.Perm.refl _
    · intro pass active c held
      have quiet : ∀ event : MrpTimerEvent, event.ack = none → ∀ t : MrpState, t.owed = pass.state.owed →
          s.owed.Perm ((pass.events ++ [event]).filterMap (·.ack) ++ t.owed) := by
        intro event none t same
        simpa [none, same] using held
      unfold visitPending
      split
      · exact held
      split
      · exact held
      split
      · exact quiet _ rfl _ rfl
      · exact quiet _ rfl _ rfl
    · exact fun _ held => held
    · intro pass held
      have queue := pass.state.owed_filterDisplaced fun e => e.2.deadline ≤ now
      simp only [fireDisplaced, List.filterMap_append, filterMap_ack_fired, decide_not,
        List.append_assoc]
      exact held.trans (queue.append_left _)
    · intro pass k held
      unfold fireBuffered
      split
      · exact held
      · rename_i p found
        have slot := pass.state.owed_erase k
        rw [bufferedOn, found] at slot
        simp only [List.filterMap_append, List.append_assoc]
        exact held.trans (slot.append_left _)
  simp only [handleTimeout, owed_reclaimAll]
  exact pass

/-- Forgetting a counter takes out every debt under it. -/
theorem owed_forgetAckFor (c : MessageCounter) :
    s.owed.Perm (s.owed.filter (fun e => e.2 = c) ++ (s.forgetAckFor c).owed) := by
  let emptied : MrpState := { s with
    pendingOutboundAcks := ((s.pendingOutboundAcks.entries.filter fun e =>
      e.2.ackCounter = c).map (·.1)).foldl (fun t k => t.erase k) s.pendingOutboundAcks
    displacedAcks := s.displacedAcks.filter fun e => e.2.ackCounter ≠ c }
  have after : (s.forgetAckFor c).owed = emptied.owed := owed_reclaimAll _
  have buffered : emptied.pendingOutboundAcks.entries.Perm
      (s.pendingOutboundAcks.entries.filter fun e => e.2.ackCounter ≠ c) := by
    apply (List.perm_ext_iff_of_nodup (Table.nodup_entries _)
      ((Table.nodup_entries _).filter _)).mpr
    intro e
    rw [Table.mem_entries_eraseAll, List.mem_filter, and_comm]
    apply and_congr_right
    intro member
    rw [decide_eq_true_eq, not_iff_not, List.mem_map]
    constructor
    · rintro ⟨other, matching, key⟩
      obtain ⟨inside, due⟩ := List.mem_filter.mp matching
      obtain rfl := s.pendingOutboundAcks.nodupKeys.eq_of_fst_eq inside member key
      exact of_decide_eq_true due
    · intro due
      exact ⟨e, List.mem_filter.mpr ⟨member, decide_eq_true due⟩, rfl⟩
  have kept : (s.owed.filter fun e => !decide (e.2 = c)).Perm emptied.owed := by
    unfold owed
    rw [List.filter_append, List.filter_map, List.filter_map]
    apply List.Perm.append
    · simpa [Function.comp_def] using
        buffered.symm.map fun e => ((e.1, e.2.ackCounter) : ExchangeKey × MessageCounter)
    · simp [emptied, Function.comp_def]
  rw [after]
  exact (List.filter_append_perm (fun e => decide (e.2 = c)) s.owed).symm.trans (kept.append_left _)

end

end MrpState
end Matter.Transport
