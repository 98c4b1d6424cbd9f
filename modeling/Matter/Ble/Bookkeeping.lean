import Matter.Ble.Delivery

/-! What the fields of a session say about each other, whatever is called on it and however
the calls exit. A first fragment is copied whole, so only a segment size that leaves room for
it keeps the receive buffer under its cap. -/
namespace Matter.Ble.BtpSession
open Exits Runs

/-- The fields that are set and cleared together, and the bounds on the two buffers. -/
structure Kept (s : BtpSession) : Prop where
  owed : s.unackedRx.isSome = s.ackDueAt.isSome
  awaited : s.expectingAck = s.txUnackedSince.isSome
  newest : s.expectingAck = true → s.txNewestUnacked = s.txNextSeq - 1
  sent : 0 < s.txSent → ∃ msg, s.txPending = some msg ∧ s.txSent < msg.length
  buffered : s.rxBuf.length ≤ rxReassemblyCap
  sized : 6 ≤ s.segmentSize.toNat

/-- What a session in the state answers: the acknowledgements it takes, in wrapping order,
and the size of what it emits. -/
structure Answers (s : BtpSession) : Prop where
  acks : s.expectingAck = true → ∀ ack, (∃ t, (receiveAck ack).run s = .ok () t) ↔
    ack - s.txOldestUnacked ≤ s.txNewestUnacked - s.txOldestUnacked
  writes : ∀ now packet, (s.nextGattWrite now).1 = some packet →
    packet.length ≤ s.segmentSize.toNat
  timeouts : ∀ now packet t, (handleTimeout now).run s = .ok (some packet) t →
    packet.length ≤ s.segmentSize.toNat

/-- What is read of an indication leaves no more than the cap for a first fragment. -/
def Fits (s : BtpSession) : Call → Prop
  | .onIndication packet _ => min s.segmentSize.toNat packet.length ≤ rxReassemblyCap + 4
  | _ => True

variable {s : BtpSession}

theorem validAck_iff (s : BtpSession) (ack : UInt8) :
    s.validAck ack = true ↔ ack - s.txOldestUnacked ≤ s.txNewestUnacked - s.txOldestUnacked := by
  have first := ack.toNat_lt
  have third := s.txNewestUnacked.toNat_lt
  unfold validAck
  split <;> simp only [ge_iff_le, Bool.and_eq_true, Bool.or_eq_true, decide_eq_true_eq,
    UInt8.le_iff_toNat_le, UInt8.toNat_sub] at * <;> omega

theorem Kept.answers (kept : Kept s) : Answers s where
  acks expecting ack := by
    rw [← validAck_iff, receiveAck_run]
    have test : s.sendWindow.accepts ack = (s.expectingAck && s.validAck ack) := rfl
    split <;> simp_all
  writes now packet written := by
    obtain same | ⟨msg, _, _, wrote⟩ := s.nextGattWrite_cases now
    · rw [same] at written
      cases written
    · rw [wrote] at written
      cases written
      exact s.nextFragment_length _ kept.sized
  timeouts now packet t sent := by
    have exits := s.timesOut now
    rw [sent] at exits
    cases exits with
    | acked => exact Nat.le_trans (by decide : 3 ≤ 6) kept.sized

theorem kept_receipt (fits : packet.length ≤ rxReassemblyCap + 4) : Receipt packet Kept where
  counted _ kept := { kept with }
  stored _ _ _ bounded kept := { kept with buffered := bounded fits }
  ended _ kept := { kept with }
  owes _ _ _ kept := { kept with owed := rfl }

theorem Kept.acknowledged (kept : Kept s) (expecting : s.expectingAck = true) (ack : UInt8) :
    Kept (s.acknowledged ack) := by
  refine { kept with awaited := ?_, newest := fun _ => kept.newest expecting }
  have since := kept.awaited
  by_cases last : s.txNewestUnacked = ack <;>
    simp_all [BtpSession.acknowledged, SendWindow.acknowledge, sendWindow]

theorem Kept.onIndication (kept : Kept s) (packet : Bytes) (now : Instant)
    (fits : min s.segmentSize.toNat packet.length ≤ rxReassemblyCap + 4) :
    Kept (final ((onIndication packet now).run s)) := by
  rw [← List.length_take] at fits
  have receipt := kept_receipt fits
  simp only [BtpSession.onIndication, EStateM.run_bind, EStateM.run_get]
  generalize packet.take s.segmentSize.toNat = packet at receipt ⊢
  unfold byteAt
  cases packet[0]? with
  | none => exact kept
  | some flags =>
    simp only [EStateM.run_pure]
    split
    · cases packet[1]? with
      | none => exact kept
      | some ack =>
        simp only [EStateM.run_bind, EStateM.run_pure, receiveAck_run]
        by_cases accepted : s.sendWindow.accepts ack = true
        · rw [if_pos accepted]
          have expecting := ((Bool.and_eq_true _ _).mp accepted).1
          exact receiveFragment_stable receipt flags now (by decide) _
            (kept.acknowledged expecting ack)
        · rw [if_neg accepted]
          exact kept
    · exact receiveFragment_stable receipt flags now (Nat.le_refl 1) s kept

theorem Kept.piggyback (kept : Kept s) : Kept s.piggyback := by
  unfold BtpSession.piggyback
  split
  · exact { kept with owed := rfl }
  · exact kept

theorem Kept.depart (kept : Kept s) (now : Instant) : Kept (s.depart now) := by
  unfold BtpSession.depart registerOutboundSeq
  have since := kept.awaited
  cases expecting : s.expectingAck <;>
    exact { kept with awaited := by simp_all, newest := by simp_all }

theorem Kept.nextGattWrite (kept : Kept s) (now : Instant) : Kept (s.nextGattWrite now).2 := by
  obtain same | ⟨msg, pending, _, written⟩ := s.nextGattWrite_cases now
  · rw [same]
    exact kept
  · rw [written]
    have departed := kept.piggyback.depart now
    have still : (s.piggyback.depart now).txPending = some msg ∧
        (s.piggyback.depart now).txSent = s.txSent := by
      unfold BtpSession.depart registerOutboundSeq BtpSession.piggyback
      constructor <;> split <;> split <;> first | exact pending | rfl
    generalize s.piggyback.depart now = t at departed still
    obtain whole | ⟨n, part, _, short⟩ := s.nextShare_cases msg kept.sized
    · rw [whole]
      exact { departed with sent := nofun }
    · rw [part]
      refine { departed with sent := fun _ => ⟨msg, still.1, ?_⟩ }
      change t.txSent + n < msg.length
      rwa [still.2]

theorem Kept.handleTimeout (kept : Kept s) (now : Instant) :
    Kept (final ((handleTimeout now).run s)) := by
  have exits := s.timesOut now
  generalize (BtpSession.handleTimeout now).run s = exit at exits ⊢
  cases exits with
  | overdue | idle => exact kept
  | disarmed unowed => exact { kept with owed := by rw [unowed]; rfl }
  | acked => exact kept.piggyback.depart now

theorem Kept.perform (kept : Kept s) (fits : s.Fits call) : Kept (s.perform call) := by
  cases call with
  | onIndication packet now => exact kept.onIndication packet now fits
  | queueMessage sdu =>
    obtain ran | ran | ⟨_, ran⟩ := s.queueMessage_cases sdu <;> rw [BtpSession.perform, ran]
    · exact kept
    · exact kept
    · exact { kept with sent := by rintro ⟨⟩ }
  | nextGattWrite now => exact kept.nextGattWrite now
  | gattWriteCompleted now => exact { kept with }
  | handleTimeout now => exact kept.handleTimeout now

theorem kept_new (role : Role) (segmentSize : UInt16) (window : UInt8) (now : Instant) :
    Kept (new role segmentSize window now) := by
  have sized := Link.segmentSize_new role segmentSize window now
  cases role with
  | central => exact ⟨rfl, rfl, nofun, nofun, Nat.zero_le _, sized⟩
  | peripheral => exact ⟨rfl, rfl, fun _ => (by decide : (0 : UInt8) = 1 - 1), nofun,
    Nat.zero_le _, sized⟩

/-- In every run whose indications leave room for a first fragment the fields agree, in every
state. -/
theorem bookkeeping (role : Role) (segmentSize : UInt16) (window : UInt8) (now : Instant)
    (calls : List Call)
    (fits : EveryStep perform Fits (new role segmentSize window now) calls) :
    EveryState perform (fun s => Kept s ∧ Answers s) (new role segmentSize window now) calls :=
  (everyState_of_guard (fun _ _ kept fits => Kept.perform kept fits)
    (kept_new role segmentSize window now) fits).imp fun _ kept => ⟨kept, kept.answers⟩

theorem bookkeeping_exchange :
    EveryState perform (fun s => Kept s ∧ Answers s) (new .central 20 6 0) (exchange 0) := by
  refine bookkeeping .central 20 6 0 _ ?_
  simp only [exchange, everyStep_cons, everyStep_nil, Fits]
  decide

/-- The first fragment of an empty message, with 2049 bytes of padding. -/
def padded : Bytes := [flagStart, 1, 0, 0] ++ List.replicate 2049 0

theorem padding_exceeds_cap : ¬ EveryState perform (fun s => Kept s ∧ Answers s)
    (new .central 4000 6 0) [.onIndication padded 0] := by
  intro every
  have buffered := (every _ (List.prefix_refl _)).1.buffered
  exact absurd buffered (by decide +kernel)

end Matter.Ble.BtpSession
