import Mathlib.Data.List.DropRight
import Matter.Ble.Window

/-! The acknowledgement timeout of a BTP session. A session is watched together with
its unacknowledged fragments and the instants they were emitted at. One timestamp
stands for all of them: it is set when a fragment leaves an idle session, and an
acknowledgement of some of the fragments does not move it. -/
namespace Matter.Ble
open Exits Runs BtpSession

/-- A session and its unacknowledged fragments, the oldest first. -/
structure Watched where
  session : BtpSession
  sent : List (UInt8 × Instant)

namespace Watched

def new (role : Role) (segmentSize : UInt16) (window : UInt8) (now : Instant) : Watched where
  session := .new role segmentSize window now
  sent := if role = .peripheral then [(0, now)] else []

/-- A call that emits a packet under the next sequence number does so at an instant. -/
def emits (s : BtpSession) : Call → Option Instant
  | .nextGattWrite now => (s.nextGattWrite now).1.map fun _ => now
  | .handleTimeout now =>
    match (handleTimeout now).run s with
    | .ok (some _) _ => some now
    | _ => none
  | _ => none

/-- An accepted acknowledgement is cumulative. -/
def next (w : Watched) (call : Call) : Watched where
  session := w.session.perform call
  sent :=
    match call with
    | .onIndication packet _ =>
      match w.session.acceptedAck packet with
      | some ack => w.sent.rtakeWhile (·.1 ≠ ack)
      | none => w.sent
    | call => w.sent ++ ((emits w.session call).map fun now => (w.session.txNextSeq, now)).toList

/-- Only a fragment that is unacknowledged for 15 s ends the session. -/
def Sound (w : Watched) : Prop :=
  ∀ now s, (handleTimeout now).run w.session = .error .ackTimedOut s →
    ∃ fragment ∈ w.sent, fragment.2 + ackTimeout ≤ now

/-- An acknowledgement that the call accepts leaves no fragment outstanding. -/
def AcksAll (w : Watched) : Call → Prop
  | .onIndication packet _ => ∀ ack, w.session.acceptedAck packet = some ack →
      ack = w.session.txNewestUnacked
  | _ => True

/-- The timestamp is that of the oldest unacknowledged fragment. -/
structure Anchored (w : Watched) : Prop where
  expecting : w.session.expectingAck = true ↔ w.sent ≠ []
  since : ∀ first ∈ w.sent.head?, w.session.txUnackedSince = some first.2
  newest : ∀ last ∈ w.sent.getLast?, last.1 = w.session.txNewestUnacked

theorem Anchored.sound (anchored : Anchored w) : w.Sound := by
  intro now s ended
  have overdue : w.session.ackOverdue now = true := by
    have exits := w.session.timesOut now
    rw [ended] at exits
    cases exits with
    | overdue late => exact late
  obtain ⟨expecting, elapsed⟩ := (Bool.and_eq_true _ _).mp overdue
  obtain ⟨first, rest, sent⟩ := List.exists_cons_of_ne_nil (anchored.expecting.mp expecting)
  have since := anchored.since first (by rw [sent]; rfl)
  rw [since, Option.any_some] at elapsed
  exact ⟨first, sent ▸ List.mem_cons_self, of_decide_eq_true elapsed⟩

variable {s t : BtpSession} {fragments : List (UInt8 × Instant)}

theorem Anchored.congr (anchored : Anchored ⟨s, fragments⟩) (same : t.outbound = s.outbound) :
    Anchored ⟨t, fragments⟩ := by
  simp only [outbound, sendWindow, Prod.mk.injEq, SendWindow.mk.injEq] at same
  obtain ⟨⟨_, _, newest, expecting, _, _⟩, since⟩ := same
  exact ⟨expecting ▸ anchored.expecting, since ▸ anchored.since, newest ▸ anchored.newest⟩

theorem Anchored.depart (anchored : Anchored ⟨s, fragments⟩) (now : Instant) :
    Anchored ⟨s.depart now, fragments ++ [(s.txNextSeq, now)]⟩ := by
  constructor
  · unfold BtpSession.depart registerOutboundSeq
    split <;> simp_all
  · intro first found
    cases fragments with
    | nil =>
      have idle : s.expectingAck = false := by simpa using anchored.expecting
      obtain rfl : (s.txNextSeq, now) = first := by simpa using found
      simp [BtpSession.depart, registerOutboundSeq, idle]
    | cons oldest rest =>
      have busy : s.expectingAck = true := anchored.expecting.mpr (List.cons_ne_nil _ _)
      obtain rfl : oldest = first := by simpa using found
      simpa [BtpSession.depart, registerOutboundSeq, busy] using anchored.since oldest rfl
  · intro last found
    obtain rfl : (s.txNextSeq, now) = last := by simpa using found
    rfl

theorem outbound_depart (s : BtpSession) (now : Instant) : (s.depart now).outbound =
    (s.sendWindow.depart, if s.expectingAck then s.txUnackedSince else some now) := by
  rw [outbound, sendWindow_depart]
  cases expecting : s.expectingAck <;> simp [BtpSession.depart, registerOutboundSeq, expecting]

theorem outbound_departed (s : BtpSession) (now : Instant) :
    (s.piggyback.depart now).outbound = (s.depart now).outbound := by
  rw [outbound_depart, outbound_depart, sendWindow_piggyback]
  unfold piggyback
  split <;> rfl

theorem outbound_advance (s : BtpSession) (payloadLen : Nat) (ending : Bool) :
    (s.advance payloadLen ending).outbound = s.outbound := by
  cases ending <;> rfl

theorem Anchored.nextGattWrite (anchored : Anchored ⟨s, fragments⟩) (now : Instant) :
    (next ⟨s, fragments⟩ (.nextGattWrite now)).Anchored := by
  simp only [next, emits, perform]
  obtain same | ⟨msg, _, _, written⟩ := s.nextGattWrite_cases now
  · rw [same]
    simpa using anchored
  · rw [written]
    refine (anchored.depart now).congr ?_
    rw [outbound_advance, outbound_departed]

theorem Anchored.handleTimeout (anchored : Anchored ⟨s, fragments⟩) (now : Instant) :
    (next ⟨s, fragments⟩ (.handleTimeout now)).Anchored := by
  have unsent : Anchored ⟨s, fragments ++ []⟩ := by rwa [List.append_nil]
  have exits := s.timesOut now
  simp only [next, emits, perform]
  generalize (BtpSession.handleTimeout now).run s = exit at exits ⊢
  cases exits with
  | overdue | idle | disarmed => exact unsent.congr rfl
  | acked => exact (anchored.depart now).congr (outbound_departed s now)

theorem Anchored.next (anchored : Anchored w) (all : w.AcksAll call) : (w.next call).Anchored := by
  obtain ⟨s, fragments⟩ := w
  have unsent : Anchored ⟨s, fragments ++ []⟩ := by rwa [List.append_nil]
  cases call with
  | onIndication packet now =>
    have outbound := s.outbound_onIndication packet now
    simp only [Watched.next, perform]
    cases read : s.acceptedAck packet with
    | none =>
      rw [read] at outbound
      exact anchored.congr outbound
    | some ack =>
      rw [read] at outbound
      obtain rfl := all ack read
      have settled : fragments.rtakeWhile (·.1 ≠ s.txNewestUnacked) = [] := by
        apply List.rtakeWhile_eq_nil_iff.mpr
        intro some
        simpa using anchored.newest _ (List.getLast?_eq_some_getLast some)
      simp only [settled]
      refine Anchored.congr ⟨?_, by simp, by simp⟩ outbound
      simp [acknowledged, SendWindow.acknowledge, sendWindow]
  | queueMessage sdu =>
    refine unsent.congr ?_
    obtain ran | ran | ⟨_, ran⟩ := s.queueMessage_cases sdu <;> rw [perform, ran] <;> rfl
  | nextGattWrite now => exact anchored.nextGattWrite now
  | gattWriteCompleted now => exact unsent.congr rfl
  | handleTimeout now => exact anchored.handleTimeout now

theorem anchored_new (role : Role) (segmentSize : UInt16) (window : UInt8) (now : Instant) :
    (new role segmentSize window now).Anchored := by
  cases role with
  | central => exact ⟨by simp [new, BtpSession.new], nofun, nofun⟩
  | peripheral =>
    constructor
    · simp [new, BtpSession.new]
    · rintro _ ⟨⟩
      rfl
    · rintro _ ⟨⟩
      rfl

theorem ack_timeout_sound (role : Role) (segmentSize : UInt16) (window : UInt8) (now : Instant)
    (calls : List Call) (all : EveryStep next AcksAll (new role segmentSize window now) calls) :
    EveryState next Sound (new role segmentSize window now) calls :=
  (everyState_of_guard (fun _ _ => Anchored.next) (anchored_new role segmentSize window now)
    all).imp fun _ => Anchored.sound

/-- Fragment 0 is acknowledged 14.5 s after it left, when fragment 1 is half a second old. -/
def pipelined : List Call :=
  [.queueMessage [], .nextGattWrite 0, .gattWriteCompleted 0, .queueMessage [], .nextGattWrite 14000,
    .gattWriteCompleted 14000, .onIndication [flagAck, 0, 1] 14500]

theorem pipelined_session_ended : ¬ EveryState next Sound (new .central 20 6 0) pipelined := by
  intro sound
  have overdue : (run next (new .central 20 6 0) pipelined).session.ackOverdue 15000 = true := by
    decide +kernel
  have young : (run next (new .central 20 6 0) pipelined).sent = [(1, 14000)] := by decide +kernel
  obtain ⟨fragment, unacknowledged, old⟩ := sound pipelined (List.prefix_refl _) 15000 _
    (by simp [handleTimeout, overdue]; rfl)
  rw [young, List.mem_singleton] at unacknowledged
  subst unacknowledged
  exact absurd old (by decide)

theorem ack_timeout_sound_exchange : EveryState next Sound (new .central 20 6 0) (exchange 0) := by
  apply ack_timeout_sound
  simp only [exchange, everyStep_cons, everyStep_nil, and_true]
  refine ⟨trivial, trivial, trivial, fun ack accepted => ?_⟩
  exact (Option.some.inj accepted).symm

end Watched
end Matter.Ble
