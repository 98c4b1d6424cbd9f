import Matter.Transport.Schedule

/-! The unacknowledged messages of a session. Only a reliable send adds one; every
other function keeps the packets that are there or drops them, and a
retransmission repeats the packet stored under its counter. -/
namespace Matter.Transport
namespace MrpState

/-- Every unacknowledged message of `t` is one of `s`, with the same packet. -/
def Retains (s t : MrpState) : Prop :=
  ∀ e ∈ t.pendingAcks.entries, ∃ e' ∈ s.pendingAcks.entries,
    e'.1 = e.1 ∧ e'.2.packetBytes = e.2.packetBytes

variable {s t u : MrpState} {k : ExchangeKey} {counter : MessageCounter} {now : Instant}

theorem Retains.of_eq (same : t.pendingAcks = s.pendingAcks) : Retains s t := by
  intro e member
  rw [same] at member
  exact ⟨e, member, rfl, rfl⟩

theorem Retains.trans (first : Retains s t) (second : Retains t u) : Retains s u := by
  intro e member
  obtain ⟨e', before, key, packet⟩ := second e member
  obtain ⟨e'', start, key', packet'⟩ := first e' before
  exact ⟨e'', start, key'.trans key, packet'.trans packet⟩

theorem Retains.of_filter (keep : MessageCounter → PendingAck → Bool)
    (entry : ∀ c, t.pendingAcks.lookup c = (s.pendingAcks.lookup c).filter (keep c)) :
    Retains s t := by
  intro e member
  have found := Table.lookup_eq_some.mpr member
  rw [entry, Option.filter_eq_some_iff] at found
  exact ⟨e, Table.lookup_eq_some.mp found.1, rfl, rfl⟩

theorem Inbound.retains (inbound : s.Inbound payload counter now result) : Retains s result.2 := by
  cases inbound with
  | malformed | full => exact .of_eq rfl
  | ackOnly | app =>
    apply Retains.of_filter
    intro c
    simp only [reclaimIfIdle_pendingAcks, noteReliable_pendingAcks, lookup_applyAck]
    rfl

theorem closeExchangeOn_retains : Retains s (s.closeExchangeOn k) :=
  .of_filter _ (lookup_closeExchangeOn s k)

/-- The packet is stored in `s` under the counter. -/
def Stores (s : MrpState) (counter : MessageCounter) (packet : Bytes) : Prop :=
  ∃ e ∈ s.pendingAcks.entries, e.1 = counter ∧ e.2.packetBytes = packet

theorem Stores.of_retains (retains : Retains s t) (stored : t.Stores counter packet) :
    s.Stores counter packet := by
  obtain ⟨e, member, rfl, rfl⟩ := stored
  obtain ⟨e', before, key, bytes⟩ := retains e member
  exact ⟨e', before, key, bytes⟩

theorem handleTimeout_repeats (order : List MessageCounter) :
    Retains s (s.handleTimeout now order).2 ∧
      ∀ x c packet, .retransmit x c packet ∈ (s.handleTimeout now order).1 → s.Stores c packet := by
  constructor
  · rintro ⟨c, p⟩ member
    have progress := handleTimeout_progresses s now order c
    rw [Table.lookup_eq_some.mpr member] at progress
    generalize before : s.pendingAcks.lookup c = entry,
      (s.handleTimeout now order).1.filter (·.concerns c) = events at progress
    cases progress with
    | waits | repeats => exact ⟨⟨c, _⟩, Table.lookup_eq_some.mp before, rfl, rfl⟩
  · intro x c packet member
    have mine : .retransmit x c packet ∈ (s.handleTimeout now order).1.filter (·.concerns c) :=
      List.mem_filter.mpr ⟨member, by simp [MrpTimerEvent.concerns]⟩
    have progress := handleTimeout_progresses s now order c
    generalize before : s.pendingAcks.lookup c = entry,
      (s.handleTimeout now order).1.filter (·.concerns c) = events,
      (s.handleTimeout now order).2.pendingAcks.lookup c = after at progress mine
    cases progress with
    | absent | waits | settled => cases mine
    | expires => simp at mine
    | repeats =>
      simp only [List.mem_singleton, MrpTimerEvent.retransmit.injEq] at mine
      exact ⟨⟨c, _⟩, Table.lookup_eq_some.mp before, rfl, mine.2.2.symm⟩

end MrpState

theorem Session.commitSend_stores {s : Session}
    (stored : (s.commitSend prepared wireBytes reliable now).mrp.Stores c packet) :
    s.mrp.Stores c packet ∨ (c = s.outboundCounter ∧ packet = wireBytes) := by
  obtain ⟨e, member, rfl, rfl⟩ := stored
  cases reliable with
  | false =>
    simp only [commitSend, MrpState.markPacketSentOn, Bool.not_false, if_true,
      MrpState.reclaimIfIdle_pendingAcks] at member
    exact Or.inl ⟨e, member, rfl, rfl⟩
  | true =>
    rcases Table.mem_entries_insert.mp member with rfl | ⟨_, old⟩
    · exact Or.inr ⟨rfl, rfl⟩
    · exact Or.inl ⟨e, old, rfl, rfl⟩

end Matter.Transport
