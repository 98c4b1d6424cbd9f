import Mathlib.Tactic.Set
import Matter.Base.Runs
import Matter.Ble.Session

/-! Flow control of a BTP session. The transmit half of a session is a window
over eight-bit sequence numbers; `Tracks` relates it to two unbounded counters,
the fragments acknowledged and the fragments sent. The credit recomputed from an
acknowledgement is one too large exactly when the newest fragment has wrapped
past 255 and the acknowledged one has not, and the window theorem says which
runs are affected. -/
namespace Matter.Ble
open Exits Runs

/-- The fields of `BtpSession` that sequence numbering and flow control of
departing fragments depend on. -/
structure SendWindow where
  next : UInt8
  oldest : UInt8
  newest : UInt8
  expecting : Bool
  credit : UInt8
  limit : UInt8
  deriving DecidableEq, Repr

namespace SendWindow

def depart (t : SendWindow) : SendWindow where
  next := t.next + 1
  oldest := if t.expecting then t.oldest else t.next
  newest := t.next
  expecting := true
  credit := saturatingSub t.credit 1
  limit := t.limit

def accepts (t : SendWindow) (ack : UInt8) : Bool :=
  t.expecting &&
    if t.newest ≥ t.oldest then ack ≤ t.newest && ack ≥ t.oldest
    else ack ≤ t.newest || ack ≥ t.oldest

def acknowledge (t : SendWindow) (ack : UInt8) : SendWindow where
  next := t.next
  oldest := if t.newest = ack then ack else ack + 1
  newest := t.newest
  expecting := t.newest ≠ ack
  credit :=
    if 255 < ack.toNat + t.limit.toNat ∧ t.newest < ack then ack + t.limit - t.newest + 1
    else ack + t.limit - t.newest
  limit := t.limit

def outstanding (t : SendWindow) : Nat :=
  if t.expecting then (t.newest - t.oldest).toNat + 1 else 0

/-- The window after `sent` fragments of which the first `acked` are acknowledged. -/
structure Tracks (t : SendWindow) (acked sent : Nat) : Prop where
  le : acked ≤ sent
  next : t.next = UInt8.ofNat sent
  expecting : t.expecting = decide (acked < sent)
  oldest : acked < sent → t.oldest = UInt8.ofNat acked
  newest : acked < sent → t.newest = UInt8.ofNat (sent - 1)

variable {t : SendWindow} {acked sent : Nat}

section
variable (tracks : t.Tracks acked sent)
include tracks

theorem Tracks.outstanding_eq (short : sent ≤ acked + 256) : t.outstanding = sent - acked := by
  unfold outstanding
  by_cases waiting : acked < sent
  · simp only [tracks.expecting, waiting, decide_true, if_true, tracks.oldest waiting,
      tracks.newest waiting, UInt8.toNat_sub, UInt8.toNat_ofNat']
    omega
  · simp only [tracks.expecting, waiting, decide_false, Bool.false_eq_true, if_false]
    omega

theorem Tracks.depart : t.depart.Tracks acked (sent + 1) := by
  have le := tracks.le
  refine ⟨by omega, ?_, ?_, fun _ => ?_, fun _ => ?_⟩
  · simp only [SendWindow.depart, tracks.next]
    exact (UInt8.ofNat_add sent 1).symm
  · simp only [SendWindow.depart, decide_eq_true (show acked < sent + 1 by omega)]
  · simp only [SendWindow.depart, tracks.expecting, decide_eq_true_eq]
    split
    · exact tracks.oldest ‹_›
    · rw [tracks.next, show sent = acked by omega]
  · exact tracks.next

/-- The wrapped interval test accepts exactly the numbers of outstanding fragments. -/
theorem Tracks.accepts_iff (short : sent < acked + 256) (ack : UInt8) :
    t.accepts ack = true ↔ ∃ m, acked ≤ m ∧ m < sent ∧ ack = UInt8.ofNat m := by
  unfold accepts
  by_cases waiting : acked < sent
  · have bound := ack.toNat_lt
    simp only [tracks.expecting, waiting, decide_true, Bool.true_and, tracks.oldest waiting,
      tracks.newest waiting, ← UInt8.toNat_inj, UInt8.toNat_ofNat', ge_iff_le,
      UInt8.le_iff_toNat_le]
    constructor
    · intro inside
      refine ⟨acked + (ack.toNat + 256 - acked % 256) % 256, by omega, ?_, by omega⟩
      split at inside <;> simp only [Bool.and_eq_true, Bool.or_eq_true, decide_eq_true_eq]
        at inside <;> omega
    · rintro ⟨m, above, below, same⟩
      split <;> simp only [Bool.and_eq_true, Bool.or_eq_true, decide_eq_true_eq] <;> omega
  · simp only [tracks.expecting, waiting, decide_false, Bool.false_and, Bool.false_eq_true,
      false_iff, not_exists]
    omega

theorem Tracks.acknowledge (short : sent < acked + 256) (above : acked ≤ m) (below : m < sent) :
    (t.acknowledge (UInt8.ofNat m)).Tracks (m + 1) sent := by
  have newest := tracks.newest (by omega)
  have last : t.newest = UInt8.ofNat m ↔ m + 1 = sent := by
    simp only [newest, ← UInt8.toNat_inj, UInt8.toNat_ofNat']
    omega
  refine ⟨by omega, tracks.next, ?_, fun rest => ?_, fun _ => newest⟩
  · simp only [SendWindow.acknowledge, ne_eq, last, decide_eq_decide]
    omega
  · simp only [SendWindow.acknowledge, last, show ¬ m + 1 = sent by omega, if_false]
    exact (UInt8.ofNat_add m 1).symm

theorem Tracks.credit_acknowledge (above : acked ≤ m) (below : m < sent)
    (small : t.limit.toNat < 128) (fits : sent ≤ m + 1 + t.limit.toNat) :
    (t.acknowledge (UInt8.ofNat m)).credit.toNat + sent =
      m + 1 + t.limit.toNat + (if t.newest < UInt8.ofNat m then 1 else 0) := by
  have newest := tracks.newest (by omega)
  have wrapped : t.newest < UInt8.ofNat m ↔ (sent - 1) % 256 < m % 256 := by
    simp only [newest, UInt8.lt_iff_toNat_lt, UInt8.toNat_ofNat']
  have carry : (sent - 1) % 256 < m % 256 → 255 < m % 256 + t.limit.toNat := by omega
  simp only [SendWindow.acknowledge, wrapped, UInt8.toNat_ofNat']
  by_cases past : (sent - 1) % 256 < m % 256
  · simp only [past, carry past, and_self, if_true, newest, UInt8.toNat_add, UInt8.toNat_sub,
      UInt8.toNat_ofNat', UInt8.toNat_one]
    omega
  · simp only [past, and_false, if_false, newest, UInt8.toNat_add, UInt8.toNat_sub,
      UInt8.toNat_ofNat']
    omega

end

/-- Of `sent` fragments the first `acked` are acknowledged, and credit plus
outstanding fragments is the negotiated window plus `extra`. -/
structure Metered (t : SendWindow) (window extra acked sent : Nat) : Prop where
  limit : t.limit.toNat = window
  small : window ≤ 6
  atMost : extra ≤ 1
  tracks : t.Tracks acked sent
  sum : sent + t.credit.toNat = acked + window + extra

namespace Metered
variable {t : SendWindow} {window extra acked sent : Nat}

section
variable (metered : t.Metered window extra acked sent)
include metered

theorem short : sent < acked + 256 := by
  obtain ⟨_, small, atMost, _, sum⟩ := metered
  omega

theorem outstanding_add : t.outstanding + t.credit.toNat = window + extra := by
  have known := metered.tracks.outstanding_eq (Nat.le_of_lt metered.short)
  have le := metered.tracks.le
  have sum := metered.sum
  omega

theorem depart (credit : t.credit ≠ 0) : t.depart.Metered window extra acked (sent + 1) := by
  obtain ⟨limit, small, atMost, tracks, sum⟩ := metered
  have debit : t.depart.credit.toNat = t.credit.toNat - 1 := saturatingSub_toNat t.credit 1
  have positive : t.credit.toNat ≠ 0 := fun zero => credit (UInt8.toNat_inj.mp zero)
  exact ⟨limit, small, atMost, tracks.depart, by omega⟩

theorem acknowledge (above : acked ≤ m) (below : m < sent) :
    (t.acknowledge (UInt8.ofNat m)).Metered window
      (if t.newest < UInt8.ofNat m then 1 else 0) (m + 1) sent := by
  have short := metered.short
  obtain ⟨limit, small, atMost, tracks, sum⟩ := metered
  have recomputed := tracks.credit_acknowledge above below (by omega) (by omega)
  refine ⟨limit, small, by split <;> omega, tracks.acknowledge short above below, ?_⟩
  rw [Nat.add_comm, recomputed, limit]

end

end Metered
end SendWindow

namespace BtpSession

def sendWindow (s : BtpSession) : SendWindow :=
  ⟨s.txNextSeq, s.txOldestUnacked, s.txNewestUnacked, s.expectingAck, s.remoteWindow,
    s.localWindowMax⟩

/-- Emitted and not yet acknowledged fragments, as the sequence numbers tell. -/
def outstanding (s : BtpSession) : Nat :=
  if s.expectingAck then (s.txNewestUnacked - s.txOldestUnacked).toNat + 1 else 0

theorem sendWindow_depart (s : BtpSession) (now : Instant) :
    (s.depart now).sendWindow = s.sendWindow.depart := by
  cases expecting : s.expectingAck <;>
    simp [depart, registerOutboundSeq, sendWindow, SendWindow.depart, expecting]

theorem toUInt8_and_255 (x : UInt16) : (x &&& 0xff).toUInt8 = x.toUInt8 := by
  apply UInt8.toNat_inj.mp
  have mask : (0xff : UInt16).toNat = 2 ^ 8 - 1 := rfl
  simp only [UInt16.toNat_toUInt8, UInt16.toNat_and, mask, Nat.and_two_pow_sub_one_eq_mod]
  omega

/-- In eight bits, subtracting `newest + 255` is subtracting `newest` and adding one. -/
theorem adjustRemoteWindow_eq (s : BtpSession) (ack : UInt8) :
    s.adjustRemoteWindow ack = (s.sendWindow.acknowledge ack).credit := by
  have carry : (255 : UInt16) < ack.toUInt16 + s.localWindowMax.toUInt16 ↔
      255 < ack.toNat + s.localWindowMax.toNat := by
    have ackBound := ack.toNat_lt
    have maxBound := s.localWindowMax.toNat_lt
    have top : (255 : UInt16).toNat = 255 := rfl
    simp only [UInt16.lt_iff_toNat_lt, UInt16.toNat_add, UInt8.toNat_toUInt16, top]
    omega
  have past : s.txNewestUnacked.toUInt16 < ack.toUInt16 ↔ s.txNewestUnacked < ack := by
    simp
  simp only [adjustRemoteWindow, SendWindow.acknowledge, sendWindow, toUInt8_and_255, gt_iff_lt,
    carry, past]
  by_cases wrapped : 255 < ack.toNat + s.localWindowMax.toNat ∧ s.txNewestUnacked < ack
  · have minusOne : UInt16.toUInt8 255 = -1 := rfl
    simp only [wrapped, and_self, if_true, UInt16.toUInt8_sub, UInt16.toUInt8_add,
      UInt8.toUInt8_toUInt16, minusOne]
    grind
  · simp [wrapped]

/-- The session after `receive_ack` accepts `ack`. -/
def acknowledged (s : BtpSession) (ack : UInt8) : BtpSession :=
  { s with
    txOldestUnacked := (s.sendWindow.acknowledge ack).oldest
    expectingAck := (s.sendWindow.acknowledge ack).expecting
    txUnackedSince := if s.txNewestUnacked = ack then none else s.txUnackedSince
    remoteWindow := (s.sendWindow.acknowledge ack).credit }

theorem receiveAck_run (s : BtpSession) (ack : UInt8) :
    (receiveAck ack).run s =
      if s.sendWindow.accepts ack then .ok () (s.acknowledged ack)
      else .error (.invalidAck ack) s := by
  unfold acknowledged
  rw [← adjustRemoteWindow_eq]
  have test : s.sendWindow.accepts ack = (s.expectingAck && s.validAck ack) := rfl
  rw [test]
  cases expecting : s.expectingAck
  · simp [receiveAck, expecting]
  · cases valid : s.validAck ack
    · simp [receiveAck, expecting, valid]
    · by_cases last : s.txNewestUnacked = ack <;>
        simp [receiveAck, expecting, valid, last, SendWindow.acknowledge, sendWindow,
          adjustRemoteWindow]

/-- What sending and acknowledging change. -/
def outbound (s : BtpSession) : SendWindow × Option Instant := (s.sendWindow, s.txUnackedSince)

/-- `P` survives what the receipt of a fragment writes. The buffer is under its cap when
`packet` leaves room for a header. -/
structure Receipt (packet : Bytes) (P : BtpSession → Prop) : Prop where
  counted : ∀ s, P s → P { s with rxNextSeq := s.rxNextSeq + 1 }
  stored : ∀ s buf len, (packet.length ≤ rxReassemblyCap + 4 → buf.length ≤ rxReassemblyCap) →
    P s → P { s with rxBuf := buf, rxExpectedLen := len }
  ended : ∀ s, P s → P { s with rxExpectedLen := none }
  owes : ∀ s seq now, P s → P (s.oweAck seq now)

theorem byteAt_stable (packet : Bytes) (i : Nat) : Stable P (byteAt packet i) := by
  unfold byteAt
  split
  · exact .pure _
  · exact .throw _

theorem reassemble_stable (receipt : Receipt packet P) (flags : UInt8) (header : 2 ≤ idx) :
    Stable P (reassemble flags packet idx) := by
  intro s held
  simp only [reassemble, EStateM.run_bind, EStateM.run_get]
  split
  · split
    · exact held
    · split
      · exact held
      · rename_i room
        exact receipt.stored s _ _ (fun _ => by simpa using room) held
  · split
    · exact held
    · unfold byteAt
      cases packet[idx]? with
      | none => exact held
      | some lo =>
        cases packet[idx + 1]? with
        | none => exact held
        | some hi =>
          simp only [pure_bind]
          split
          · exact held
          · refine receipt.stored s _ _ (fun fits => ?_) held
            rw [List.length_drop]
            omega

theorem takeMessage_stable (receipt : Receipt packet P) : Stable P takeMessage := by
  intro s held
  simp only [takeMessage, EStateM.run_bind, EStateM.run_get, EStateM.run_set]
  split
  · exact receipt.ended s held
  · exact receipt.stored s _ _ (fun _ => Nat.zero_le _) held

theorem receiveFragment_stable (receipt : Receipt packet P) (flags : UInt8) (now : Instant)
    (header : 1 ≤ idx) : Stable P (receiveFragment flags packet idx now) := by
  refine .bind (byteAt_stable _ _) fun seq => .bind .get fun s => ?_
  have owes : Stable P (modify fun s => s.oweAck seq now : BtpM PUnit) :=
    .modify fun s => receipt.owes s seq now
  split
  · exact .throw _
  · refine .bind (.modify receipt.counted) fun _ => ?_
    split
    · exact .bind owes fun _ => .pure _
    · refine .bind (reassemble_stable receipt _ (by omega)) fun _ => .bind owes fun _ => ?_
      split
      · exact .pure _
      · exact takeMessage_stable receipt

theorem receiveFragment_keeps (flags : UInt8) (packet : Bytes) (now : Instant) (header : 1 ≤ idx) :
    Keeps outbound (receiveFragment flags packet idx now) := by
  intro s
  refine receiveFragment_stable (P := fun t => t.outbound = s.outbound) ?_ flags now header s rfl
  exact ⟨fun _ same => same, fun _ _ _ _ same => same, fun _ same => same, fun _ _ _ same => same⟩

/-- The acknowledgement number `on_indication` reads from `packet` and accepts. -/
def acceptedAck (s : BtpSession) (packet : Bytes) : Option UInt8 :=
  match packet.take s.segmentSize.toNat with
  | flags :: ack :: _ =>
    if flags &&& flagAck ≠ 0 ∧ s.expectingAck ∧ s.validAck ack then some ack else none
  | _ => none

/-- Whatever an indication holds and however it exits, the send half sees only
the acknowledgement it carried. -/
theorem outbound_onIndication (s : BtpSession) (packet : Bytes) (now : Instant) :
    (final ((onIndication packet now).run s)).outbound =
      match s.acceptedAck packet with
      | some ack => (s.acknowledged ack).outbound
      | none => s.outbound := by
  simp only [onIndication, acceptedAck, EStateM.run_bind, EStateM.run_get]
  match packet.take s.segmentSize.toNat with
  | [] => rfl
  | [flags] =>
    by_cases acked : flags &&& flagAck = 0
    · simpa [byteAt, acked] using receiveFragment_keeps flags [flags] now (Nat.le_refl 1) s
    · simp [byteAt, acked]
  | flags :: ack :: rest =>
    by_cases acked : flags &&& flagAck = 0
    · simpa [byteAt, acked] using receiveFragment_keeps flags (flags :: ack :: rest) now (Nat.le_refl 1) s
    · have test : s.sendWindow.accepts ack = (s.expectingAck && s.validAck ack) := rfl
      cases valid : s.expectingAck && s.validAck ack
      · have rejected : ¬ (s.expectingAck = true ∧ s.validAck ack = true) := by
          simpa using valid
        simp [byteAt, acked, receiveAck_run, test, valid, rejected]
      · have accepted : s.expectingAck = true ∧ s.validAck ack = true := by simpa using valid
        simp [byteAt, acked, receiveAck_run, test, accepted]
        exact receiveFragment_keeps _ _ now (by decide) _

theorem sendWindow_onIndication (s : BtpSession) (packet : Bytes) (now : Instant) :
    (final ((onIndication packet now).run s)).sendWindow =
      match s.acceptedAck packet with
      | some ack => s.sendWindow.acknowledge ack
      | none => s.sendWindow := by
  have seen := congrArg (·.1) (s.outbound_onIndication packet now)
  cases read : s.acceptedAck packet with
  | some ack | none =>
    rw [read] at seen
    exact seen

/-- The calls a driver makes on a session. -/
inductive Call where
  | onIndication (packet : Bytes) (now : Instant)
  | queueMessage (sdu : Bytes)
  | nextGattWrite (now : Instant)
  | gattWriteCompleted (now : Instant)
  | handleTimeout (now : Instant)
  deriving DecidableEq, Repr

def perform (s : BtpSession) : Call → BtpSession
  | .onIndication packet now => final ((onIndication packet now).run s)
  | .queueMessage sdu => final ((queueMessage sdu).run s)
  | .nextGattWrite now => (s.nextGattWrite now).2
  | .gattWriteCompleted now => s.gattWriteCompleted now
  | .handleTimeout now => final ((handleTimeout now).run s)

section
variable (s : BtpSession)

theorem queueMessage_cases (sdu : Bytes) :
    (queueMessage sdu).run s = .error .messageInFlight s ∨
      (queueMessage sdu).run s = .error .reassemblyOverflow s ∨ s.txPending = none ∧
        (queueMessage sdu).run s = .ok () { s with txPending := some sdu, txSent := 0 } := by
  cases pending : s.txPending with
  | some msg => simp [queueMessage, pending]
  | none => by_cases long : sdu.length > 65535 <;> simp [queueMessage, pending, long]

theorem sendWindow_queueMessage (sdu : Bytes) :
    (final ((queueMessage sdu).run s)).sendWindow = s.sendWindow := by
  obtain ran | ran | ⟨_, ran⟩ := s.queueMessage_cases sdu <;> rw [ran] <;> rfl

theorem sendWindow_piggyback : s.piggyback.sendWindow = s.sendWindow := by
  unfold piggyback
  split <;> rfl

theorem sendWindow_advance (payloadLen : Nat) (ending : Bool) :
    (s.advance payloadLen ending).sendWindow = s.sendWindow := by
  cases ending <;> rfl

end

/-- Flow control sees a call as nothing at all or as one departure, and a
departure needs credit. -/
def DepartsWithin (s t : BtpSession) : Prop :=
  t.sendWindow = s.sendWindow ∨ (s.remoteWindow ≠ 0 ∧ t.sendWindow = s.sendWindow.depart)

theorem nextGattWrite_cases (s : BtpSession) (now : Instant) :
    s.nextGattWrite now = (none, s) ∨ ∃ msg, s.txPending = some msg ∧ s.remoteWindow ≠ 0 ∧
      s.nextGattWrite now = (some (s.nextFragment msg),
        (s.piggyback.depart now).advance (s.nextShare msg).1 (s.nextShare msg).2) := by
  unfold nextGattWrite
  split
  · exact .inl rfl
  · split
    · exact .inl rfl
    · rename_i msg pending
      split
      · exact .inl rfl
      · rename_i credit
        split
        · exact .inl rfl
        · exact .inr ⟨msg, pending, credit, rfl⟩

inductive TimesOut (s : BtpSession) (now : Instant) :
    EStateM.Result BtpError BtpSession (Option Bytes) → Prop
  | overdue (late : s.ackOverdue now = true) : TimesOut s now (.error .ackTimedOut s)
  | idle : TimesOut s now (.ok none s)
  | disarmed (unowed : s.unackedRx = none) : TimesOut s now (.ok none { s with ackDueAt := none })
  | acked (owed : s.unackedRx = some ackNum) (credit : s.remoteWindow ≠ 0) :
    TimesOut s now (.ok (some [flagAck, ackNum, s.txNextSeq]) (s.piggyback.depart now))

section
variable (s : BtpSession) (now : Instant)

theorem timesOut : TimesOut s now ((handleTimeout now).run s) := by
  simp only [handleTimeout, EStateM.run_bind, EStateM.run_get]
  split
  · exact .overdue ‹_›
  · split
    · split
      · exact .disarmed ‹_›
      · split
        · exact .idle
        · rename_i owed blocked
          exact .acked owed fun closed => blocked (.inr closed)
    · exact .idle

theorem departsWithin_nextGattWrite : DepartsWithin s (s.nextGattWrite now).2 := by
  obtain same | ⟨msg, _, credit, written⟩ := s.nextGattWrite_cases now
  · exact .inl (congrArg (·.2.sendWindow) same)
  · refine .inr ⟨credit, ?_⟩
    rw [written, sendWindow_advance, sendWindow_depart, sendWindow_piggyback]

theorem departsWithin_handleTimeout : DepartsWithin s (final ((handleTimeout now).run s)) := by
  have exits := s.timesOut now
  generalize (handleTimeout now).run s = exit at exits ⊢
  cases exits with
  | overdue | idle | disarmed => exact .inl rfl
  | acked _ credit =>
    refine .inr ⟨credit, ?_⟩
    exact (sendWindow_depart _ now).trans (congrArg _ (sendWindow_piggyback s))

end

/-- How far credit overshoots the window after a call. -/
def surplus (s : BtpSession) (extra : Nat) : Call → Nat
  | .onIndication packet _ =>
    match s.acceptedAck packet with
    | some ack => if s.txNewestUnacked < ack then 1 else 0
    | none => extra
  | _ => extra

theorem accepts_of_acceptedAck {s : BtpSession} (accepted : s.acceptedAck packet = some n) :
    s.sendWindow.accepts n = true := by
  unfold acceptedAck at accepted
  split at accepted
  · split at accepted
    · rename_i valid
      cases accepted
      exact (Bool.and_eq_true _ _).mpr valid.2
    · cases accepted
  · cases accepted

theorem DepartsWithin.metered (departs : DepartsWithin s t)
    (metered : s.sendWindow.Metered window extra acked sent) :
    ∃ sent, t.sendWindow.Metered window extra acked sent := by
  rcases departs with same | ⟨credit, same⟩
  · exact ⟨sent, same ▸ metered⟩
  · exact ⟨sent + 1, same ▸ metered.depart credit⟩

theorem metered_perform {s : BtpSession} (metered : s.sendWindow.Metered window extra acked sent)
    (call : Call) :
    ∃ acked sent, (s.perform call).sendWindow.Metered window (s.surplus extra call) acked sent := by
  cases call with
  | onIndication packet now =>
    simp only [perform, surplus, sendWindow_onIndication]
    cases read : s.acceptedAck packet with
    | some ack =>
      have accepted := accepts_of_acceptedAck read
      obtain ⟨m, above, below, rfl⟩ := (metered.tracks.accepts_iff metered.short ack).mp accepted
      exact ⟨m + 1, sent, metered.acknowledge above below⟩
    | none => exact ⟨acked, sent, metered⟩
  | queueMessage sdu => exact ⟨acked, sent, (sendWindow_queueMessage s sdu).symm ▸ metered⟩
  | nextGattWrite now => exact ⟨acked, (departsWithin_nextGattWrite s now).metered metered⟩
  | gattWriteCompleted now => exact ⟨acked, sent, metered⟩
  | handleTimeout now => exact ⟨acked, (departsWithin_handleTimeout s now).metered metered⟩

theorem max_one {window : UInt8} (positive : 1 ≤ window) : max window 1 = window := by
  by_cases one : window ≤ 1
  · exact (if_pos one).trans (UInt8.le_antisymm positive one)
  · exact if_neg one

/-- A central starts with nothing sent, a peripheral with the handshake response
outstanding on top of a full window. -/
theorem metered_new (role : Role) (segmentSize : UInt16) {window : UInt8} (now : Instant)
    (bounds : 1 ≤ window ∧ window ≤ 6) :
    (new role segmentSize window now).sendWindow.Metered window.toNat
      (if role = .central then 0 else 1) 0 (if role = .central then 0 else 1) := by
  have floor := max_one bounds.1
  have small := UInt8.le_iff_toNat_le.mp bounds.2
  cases role with
  | central =>
    refine ⟨by simp only [new, sendWindow, floor], small, by simp, ⟨Nat.le_refl 0, rfl, rfl, ?_, ?_⟩, ?_⟩
    · simp
    · simp
    · simp [new, sendWindow, floor]
  | peripheral =>
    refine ⟨by simp only [new, sendWindow, floor], small, by simp, ⟨by simp, rfl, rfl, ?_, ?_⟩, ?_⟩
    · exact fun _ => rfl
    · exact fun _ => rfl
    · simp [new, sendWindow, floor]
      omega

/-- A call keeps the window exact unless it accepts an acknowledgement of a
fragment numbered before the wrap while the newest one is numbered past it. -/
def CreditsExactly (s : BtpSession) (call : Call) : Prop :=
  ∀ packet now, call = .onIndication packet now →
    ∀ ack, s.acceptedAck packet = some ack → ack ≤ s.txNewestUnacked

theorem surplus_eq_zero_iff (s : BtpSession) (call : Call) :
    s.surplus 0 call = 0 ↔ s.CreditsExactly call := by
  unfold CreditsExactly
  cases call with
  | onIndication packet now =>
    cases read : s.acceptedAck packet with
    | some ack | none => simp [surplus, read]
  | _ => simp [surplus]

instance (s : BtpSession) (call : Call) : Decidable (s.CreditsExactly call) :=
  decidable_of_iff _ (surplus_eq_zero_iff s call)

/-- The send window of a central is respected throughout a run precisely when
every call credits exactly. -/
theorem window_respected_iff (segmentSize : UInt16) (window : UInt8) (now : Instant)
    (bounds : 1 ≤ window ∧ window ≤ 6) (calls : List Call) :
    EveryState perform (fun s => s.outstanding + s.remoteWindow.toNat = window.toNat)
        (new .central segmentSize window now) calls ↔
      EveryStep perform CreditsExactly (new .central segmentSize window now) calls := by
  have initial := metered_new .central segmentSize now bounds
  have preserves : ∀ (s : BtpSession) call,
      (∃ extra acked sent, s.sendWindow.Metered window.toNat extra acked sent) →
      ∃ extra acked sent, (s.perform call).sendWindow.Metered window.toNat extra acked sent := by
    rintro s call ⟨extra, acked, sent, metered⟩
    exact ⟨_, metered_perform metered call⟩
  refine everyState_iff_everyStep preserves ?_ ⟨_, _, _, initial⟩ initial.outstanding_add calls
  rintro s call ⟨extra, acked, sent, metered⟩ respected
  obtain rfl : extra = 0 := Nat.add_left_cancel (metered.outstanding_add.symm.trans respected)
  obtain ⟨acked', sent', after⟩ := metered_perform metered call
  have sum' := after.outstanding_add
  rw [← surplus_eq_zero_iff]
  change (s.perform call).sendWindow.outstanding + (s.perform call).sendWindow.credit.toNat = _ ↔ _
  omega

/-- One message sent and acknowledged at once: the fragment numbered `k`, then
the peer's standalone acknowledgement of it. -/
def exchange (k : Nat) : List Call :=
  [.queueMessage [], .nextGattWrite 0, .gattWriteCompleted 0,
    .onIndication [flagAck, UInt8.ofNat k, UInt8.ofNat (k + 1)] 0]

theorem window_respected_by_exchange :
    EveryState perform (fun s => s.outstanding + s.remoteWindow.toNat = (6 : UInt8).toNat)
      (new .central 20 6 0) (exchange 0) := by
  refine (window_respected_iff 20 6 0 (by decide) (exchange 0)).mpr ?_
  simp only [exchange, everyStep_cons, everyStep_nil, and_true]
  decide

def exchanged (k : Nat) : BtpSession :=
  { new .central 6 2 0 with
    rxNextSeq := UInt8.ofNat (k + 1)
    unackedRx := some (UInt8.ofNat k)
    ackDueAt := some (if k = 0 then ackSendTimeout else 0)
    txNextSeq := UInt8.ofNat k
    txOldestUnacked := UInt8.ofNat (k - 1)
    txNewestUnacked := UInt8.ofNat (k - 1) }

theorem run_exchange : ∀ k < 255, run perform (exchanged k) (exchange k) = exchanged (k + 1) := by
  decide +kernel

theorem run_exchanges (bound : n ≤ 255) :
    run perform (new .central 6 2 0) ((List.range n).flatMap exchange) = exchanged n := by
  induction n with
  | zero => rfl
  | succ n ih =>
    rw [List.range_succ, List.flatMap_append, run_append, ih (by omega), List.flatMap_cons,
      List.flatMap_nil, List.append_nil]
    exact run_exchange n (by omega)

/-- After 255 exchanges fragments 255 and 0 depart, the peer acknowledges only
255, and the credit then lets two more leave beside the one still outstanding. -/
def acrossWrap : List Call :=
  (List.range 255).flatMap exchange ++
  [.queueMessage [], .nextGattWrite 0, .gattWriteCompleted 0,
    .onIndication [flagStart ||| flagEnd, 0, 0, 0] 0,
    .queueMessage [], .nextGattWrite 0, .gattWriteCompleted 0,
    .onIndication [flagAck, 255, 1] 0,
    .queueMessage [], .nextGattWrite 0, .gattWriteCompleted 0,
    .onIndication [flagStart ||| flagEnd, 2, 0, 0] 0,
    .queueMessage [], .nextGattWrite 0]

theorem window_exceeded_across_wrap :
    (run perform (new .central 6 2 0) acrossWrap).outstanding = 3 ∧
      ¬ EveryState perform (fun s => s.outstanding + s.remoteWindow.toNat = (2 : UInt8).toNat)
        (new .central 6 2 0) acrossWrap := by
  have three : (run perform (new .central 6 2 0) acrossWrap).outstanding = 3 := by
    rw [acrossWrap, run_append, run_exchanges (Nat.le_refl _)]
    decide +kernel
  refine ⟨three, fun every => ?_⟩
  have sum := every acrossWrap (List.prefix_refl _)
  have two : (2 : UInt8).toNat = 2 := rfl
  omega

end BtpSession
end Matter.Ble
