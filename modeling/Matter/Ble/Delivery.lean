import Mathlib.Logic.Function.Basic
import Matter.Ble.Fragments

/-! End-to-end delivery over a link. Two sessions are joined by lossless FIFO
channels; an endpoint is what the argument sees of a session, and `Flow` relates
the sender, the packets in flight and the receiver of one direction through four
unbounded counters. Every action keeps both flows, whatever the interleaving and
however often sequence numbers wrap. -/
namespace Matter.Ble
open Exits Runs

def Role.peer : Role → Role
  | central => peripheral
  | peripheral => central

@[simp] theorem Role.peer_peer (role : Role) : role.peer.peer = role := by
  cases role <;> rfl

@[simp] theorem Role.peer_ne (role : Role) : role.peer ≠ role := by
  cases role <;> decide

@[simp] theorem Role.ne_peer (role : Role) : role ≠ role.peer :=
  role.peer_ne.symm

theorem Role.forall_iff {P : Role → Prop} (role : Role) :
    (∀ other, P other) ↔ P role ∧ P role.peer := by
  constructor
  · exact fun all => ⟨all role, all role.peer⟩
  · rintro ⟨here, there⟩ other
    cases role <;> cases other <;> assumption

/-- What delivery depends on of a session. -/
structure Endpoint where
  window : SendWindow
  pending : Option Bytes
  cursor : Nat
  expects : UInt8
  owed : Option UInt8
  assembly : Assembly
  segment : UInt16

def BtpSession.endpoint (s : BtpSession) : Endpoint :=
  ⟨s.sendWindow, s.txPending, s.txSent, s.rxNextSeq, s.unackedRx, s.assembly, s.segmentSize⟩

namespace Endpoint
open BtpSession (progress)

/-- A fragment leaves: it is numbered next, settles the owed acknowledgement and
moves the fragmenter. -/
structure Emits (x x' : Endpoint) (f : Fragment) : Prop where
  credit : x.window.credit ≠ 0
  window : x'.window = x.window.depart
  seq : f.seq = x.window.next
  ack : f.ack = x.owed
  owed : x'.owed = none
  expects : x'.expects = x.expects
  assembly : x'.assembly = x.assembly
  segment : x'.segment = x.segment
  fits : f.encode.length ≤ x.segment.toNat
  data : ∃ message, (progress x.pending x.cursor).receive f.body =
      some (progress x'.pending x'.cursor, message) ∧
    message.toList ++ x'.pending.toList = x.pending.toList
  fragmenting : ∀ msg ∈ x'.pending, msg ∈ x.pending ∧ x'.cursor ≤ msg.length

/-- A fragment arrives: its acknowledgement reaches the window, its body the
reassembler, and it is owed an acknowledgement. -/
structure Accepts (y y' : Endpoint) (f : Fragment) (message : Option Bytes) : Prop where
  window : y'.window = (f.ack.map y.window.acknowledge).getD y.window
  expects : y'.expects = y.expects + 1
  owed : y'.owed = some y.expects
  assembly : y.assembly.receive f.body = some (y'.assembly, message)
  pending : y'.pending = y.pending
  cursor : y'.cursor = y.cursor
  segment : y'.segment = y.segment

/-- The fragmenter is within a message that the peer can reassemble. -/
def Fragmenting (x : Endpoint) : Prop :=
  6 ≤ x.segment.toNat ∧ ∀ msg ∈ x.pending, msg.length ≤ rxReassemblyCap ∧ x.cursor ≤ msg.length

end Endpoint

namespace BtpSession

/-- The endpoint after a packet departed, before the fragmenter moves. -/
theorem endpoint_departed (s : BtpSession) (now : Instant) :
    (s.piggyback.depart now).endpoint =
      { s.endpoint with window := s.sendWindow.depart, owed := none } := by
  have window : (s.piggyback.depart now).sendWindow = s.sendWindow.depart := by
    rw [sendWindow_depart, sendWindow_piggyback]
  unfold endpoint
  rw [window]
  cases owed : s.unackedRx <;> cases expecting : s.expectingAck <;>
    simp [piggyback, owed, depart, registerOutboundSeq, expecting, assembly]

/-- A call that may put a packet on the wire: nothing the endpoint shows, or one
departing fragment. -/
def Departs (s : BtpSession) (outcome : Option Bytes × BtpSession) : Prop :=
  (outcome.1 = none ∧ outcome.2.endpoint = s.endpoint) ∨
    ∃ f, outcome.1 = some (Fragment.encode f) ∧ s.endpoint.Emits outcome.2.endpoint f

theorem endpoint_advance (s : BtpSession) (payloadLen : Nat) (ending : Bool) :
    (s.advance payloadLen ending).endpoint =
      if ending then { s.endpoint with pending := none, cursor := 0 }
      else { s.endpoint with cursor := s.endpoint.cursor + payloadLen } := by
  cases ending <;> rfl

theorem emits_nextFragment {s : BtpSession} (now : Instant) (ready : s.endpoint.Fragmenting)
    (pending : s.txPending = some msg) (credit : s.remoteWindow ≠ 0) :
    s.endpoint.Emits
      ((s.piggyback.depart now).advance (s.nextShare msg).1 (s.nextShare msg).2).endpoint
      ⟨s.unackedRx, s.txNextSeq, s.nextBody msg⟩ := by
  obtain ⟨sized, within⟩ := ready
  obtain ⟨bound, cursor⟩ := within msg pending
  have fits := s.nextFragment_length msg sized
  rw [nextFragment_eq] at fits
  have received := receive_nextBody pending sized bound cursor
  rw [endpoint_advance, endpoint_departed]
  rcases s.nextShare_cases msg sized with share | ⟨n, share, _, short⟩
  · rw [share] at received ⊢
    refine ⟨credit, rfl, rfl, rfl, rfl, rfl, rfl, rfl, fits, ⟨some msg, received, ?_⟩, ?_⟩
    · exact (congrArg Option.toList pending).symm
    · intro other absent
      cases absent
  · rw [share] at received ⊢
    refine ⟨credit, rfl, rfl, rfl, rfl, rfl, rfl, rfl, fits, ⟨none, received, rfl⟩, ?_⟩
    intro other member
    obtain rfl : msg = other := Option.some.inj (pending.symm.trans member)
    exact ⟨pending, Nat.le_of_lt short⟩

theorem nextGattWrite_departs (s : BtpSession) (now : Instant)
    (ready : s.endpoint.Fragmenting) : s.Departs (s.nextGattWrite now) := by
  obtain same | ⟨msg, pending, credit, written⟩ := s.nextGattWrite_cases now
  · rw [same]
    exact .inl ⟨rfl, rfl⟩
  · rw [written]
    exact .inr ⟨_, congrArg some (s.nextFragment_eq msg),
      emits_nextFragment now ready pending credit⟩

/-- `handle_timeout` as its caller sees it: a packet to send, if any. -/
def timeoutOutcome (s : BtpSession) (now : Instant) : Option Bytes × BtpSession :=
  match (handleTimeout now).run s with
  | .ok packet t => (packet, t)
  | .error _ t => (none, t)

theorem timeoutOutcome_departs (s : BtpSession) (now : Instant)
    (ready : s.endpoint.Fragmenting) : s.Departs (s.timeoutOutcome now) := by
  have exits := s.timesOut now
  unfold timeoutOutcome
  generalize (handleTimeout now).run s = exit at exits ⊢
  cases exits with
  | overdue | idle => exact .inl ⟨rfl, rfl⟩
  | disarmed unowed => exact .inl ⟨rfl, by simp [endpoint, assembly, sendWindow, unowed]⟩
  | @acked ackNum owed credit =>
    refine .inr ⟨⟨some ackNum, s.txNextSeq, .standalone⟩, by simp [encode_standalone], ?_⟩
    rw [endpoint_departed]
    have fits : 3 ≤ s.segmentSize.toNat := Nat.le_trans (by decide) ready.1
    exact ⟨credit, rfl, rfl, owed.symm, rfl, rfl, rfl, rfl, fits, ⟨none, rfl, rfl⟩,
      fun msg member => ⟨member, (ready.2 msg member).2⟩⟩

end BtpSession

namespace Endpoint
open BtpSession (progress)

/-- One direction of the link, from `x` to `y`: `sent` fragments left `x`, of
which `y` received the first `received` and `x` knows the first `acked` to be
acknowledged; the acknowledgements `y` emitted cover the first `frontier`. -/
structure FlowAt (x y : Endpoint) (flight back : List Fragment) (queued delivered : List Bytes)
    (window acked sent received frontier : Nat) : Prop where
  metered : ∃ extra, x.window.Metered window extra acked sent
  received_le : received ≤ sent
  acked_le : acked ≤ frontier
  frontier_le : frontier ≤ received
  numbered : flight.map (·.seq) = (List.range' received (sent - received)).map UInt8.ofNat
  expects : y.expects = UInt8.ofNat received
  owed : y.owed = if frontier < received then some (UInt8.ofNat (received - 1)) else none
  acks : ∃ numbers : List Nat, back.filterMap (·.ack) = numbers.map UInt8.ofNat ∧
    numbers.Pairwise (· < ·) ∧ ∀ m ∈ numbers, acked ≤ m ∧ m < frontier
  data : ∃ messages, y.assembly.feed (flight.map (·.body)) =
      some (progress x.pending x.cursor, messages) ∧
    delivered ++ messages ++ x.pending.toList = queued
  fragmenting : x.Fragmenting
  fits : ∀ f ∈ flight, f.encode.length ≤ y.segment.toNat
  segment : x.segment = y.segment

def Flow (x y : Endpoint) (flight back : List Fragment) (queued delivered : List Bytes)
    (window : Nat) : Prop :=
  ∃ acked sent received frontier,
    FlowAt x y flight back queued delivered window acked sent received frontier

variable {x x' y y' : Endpoint} {flight back : List Fragment} {queued delivered : List Bytes}
variable {window : Nat} {f : Fragment} {message : Option Bytes}

theorem Flow.emitted_sender (flow : Flow x y flight back queued delivered window)
    (emits : x.Emits x' f) : Flow x' y (flight ++ [f]) back queued delivered window := by
  obtain ⟨acked, sent, received, frontier, held⟩ := flow
  obtain ⟨extra, metered⟩ := held.metered
  obtain ⟨messages, fed, streamed⟩ := held.data
  obtain ⟨message, consumed, split⟩ := emits.data
  have le := held.received_le
  refine ⟨acked, sent + 1, received, frontier, ?_⟩
  refine ⟨⟨extra, ?_⟩, by omega, held.acked_le, held.frontier_le, ?_, held.expects, held.owed,
    held.acks, ?_, ?_, ?_, ?_⟩
  · rw [emits.window]
    exact metered.depart emits.credit
  · have seq : f.seq = UInt8.ofNat sent := emits.seq.trans metered.tracks.next
    rw [show sent + 1 - received = (sent - received) + 1 by omega, List.range'_concat]
    simp only [List.map_append, held.numbered, List.map_cons, List.map_nil, seq]
    rw [show received + 1 * (sent - received) = sent by omega]
  · refine ⟨messages ++ message.toList, ?_, ?_⟩
    · rw [List.map_append]
      exact Assembly.feed_concat fed consumed
    · rw [← streamed, ← split]
      simp
  · refine ⟨emits.segment ▸ held.fragmenting.1, fun msg member => ?_⟩
    obtain ⟨before, cursor⟩ := emits.fragmenting msg member
    exact ⟨(held.fragmenting.2 msg before).1, cursor⟩
  · intro g member
    rcases List.mem_append.mp member with earlier | new
    · exact held.fits g earlier
    · obtain rfl := List.mem_singleton.mp new
      exact held.segment ▸ emits.fits
  · rw [emits.segment, held.segment]

theorem Flow.emitted_receiver (flow : Flow x y flight back queued delivered window)
    (emits : y.Emits y' f) : Flow x y' flight (back ++ [f]) queued delivered window := by
  obtain ⟨acked, sent, received, frontier, held⟩ := flow
  obtain ⟨numbers, listed, increasing, within⟩ := held.acks
  have acked_le := held.acked_le
  have frontier_le := held.frontier_le
  have ack := emits.ack.trans held.owed
  refine ⟨acked, sent, received, received, held.metered, held.received_le, by omega,
    Nat.le_refl _, held.numbered, emits.expects ▸ held.expects, by simp [emits.owed], ?_, ?_,
    held.fragmenting, ?_, ?_⟩
  · by_cases due : frontier < received
    · refine ⟨numbers ++ [received - 1], by simp [listed, ack, due], ?_, ?_⟩
      · refine List.pairwise_append.mpr ⟨increasing, List.pairwise_singleton _ _, ?_⟩
        intro m member last new
        obtain rfl := List.mem_singleton.mp new
        have bound := within m member
        omega
      · intro m member
        rcases List.mem_append.mp member with earlier | new
        · have bound := within m earlier
          omega
        · obtain rfl := List.mem_singleton.mp new
          omega
    · refine ⟨numbers, by simp [listed, ack, due], increasing, fun m member => ?_⟩
      have bound := within m member
      omega
  · rw [emits.assembly]
    exact held.data
  · rw [emits.segment]
    exact held.fits
  · rw [emits.segment]
    exact held.segment

/-- The oldest packet in flight is numbered and formed as the receiver expects. -/
theorem Flow.receivable (flow : Flow x y (f :: flight) back queued delivered window) :
    f.seq = y.expects ∧ f.encode.length ≤ y.segment.toNat ∧
      ∃ next message, y.assembly.receive f.body = some (next, message) := by
  obtain ⟨acked, sent, received, frontier, held⟩ := flow
  obtain ⟨messages, fed, streamed⟩ := held.data
  obtain ⟨next, message, later, consumed, _, _⟩ := Assembly.feed_cons fed
  refine ⟨?_, held.fits f (List.mem_cons_self ..), next, message, consumed⟩
  have numbered := held.numbered
  cases more : sent - received with
  | zero => simp [more] at numbered
  | succ n =>
    rw [more, List.range'_succ] at numbered
    rw [held.expects]
    simpa using And.left (List.cons.inj numbered)

theorem Flow.accepted_receiver (flow : Flow x y (f :: flight) back queued delivered window)
    (accepts : y.Accepts y' f message) :
    Flow x y' flight back queued (delivered ++ message.toList) window := by
  obtain ⟨acked, sent, received, frontier, held⟩ := flow
  obtain ⟨messages, fed, streamed⟩ := held.data
  obtain ⟨next, first, later, consumed, fedRest, rfl⟩ := Assembly.feed_cons fed
  obtain ⟨rfl, rfl⟩ : next = y'.assembly ∧ first = message := by
    simpa using consumed.symm.trans accepts.assembly
  have numbered := held.numbered
  have frontier_le := held.frontier_le
  cases more : sent - received with
  | zero => simp [more] at numbered
  | succ n =>
    rw [more, List.range'_succ] at numbered
    refine ⟨acked, sent, received + 1, frontier, held.metered, by omega, held.acked_le, by omega,
      ?_, ?_, ?_, held.acks, ⟨later, fedRest, ?_⟩, held.fragmenting, ?_, ?_⟩
    · rw [show sent - (received + 1) = n by omega]
      exact (List.cons.inj numbered).2
    · rw [accepts.expects, held.expects]
      exact (UInt8.ofNat_add received 1).symm
    · rw [accepts.owed, held.expects, if_pos (by omega), Nat.add_sub_cancel]
    · rw [← streamed]
      simp
    · rw [accepts.segment]
      exact fun g member => held.fits g (List.mem_cons_of_mem _ member)
    · rw [accepts.segment]
      exact held.segment

/-- The acknowledgement the oldest returning packet carries is outstanding. -/
theorem Flow.acknowledgeable (flow : Flow x y flight (f :: back) queued delivered window) :
    ∀ ack ∈ f.ack, x.window.accepts ack = true := by
  obtain ⟨acked, sent, received, frontier, held⟩ := flow
  obtain ⟨extra, metered⟩ := held.metered
  obtain ⟨numbers, listed, increasing, within⟩ := held.acks
  have received_le := held.received_le
  have frontier_le := held.frontier_le
  intro ack carried
  rw [List.filterMap_cons_some carried] at listed
  cases numbers with
  | nil => simp at listed
  | cons m rest =>
    have bound := within m (List.mem_cons_self ..)
    refine (metered.tracks.accepts_iff metered.short ack).mpr ⟨m, by omega, by omega, ?_⟩
    simpa using And.left (List.cons.inj listed)

theorem Flow.accepted_sender (flow : Flow x y flight (f :: back) queued delivered window)
    (accepts : x.Accepts x' f message) : Flow x' y flight back queued delivered window := by
  obtain ⟨acked, sent, received, frontier, held⟩ := flow
  obtain ⟨extra, metered⟩ := held.metered
  obtain ⟨numbers, listed, increasing, within⟩ := held.acks
  have received_le := held.received_le
  have frontier_le := held.frontier_le
  have fragmenting : x'.Fragmenting := by
    unfold Fragmenting
    rw [accepts.segment, accepts.pending, accepts.cursor]
    exact held.fragmenting
  have data : ∃ messages, y.assembly.feed (flight.map (·.body)) =
      some (progress x'.pending x'.cursor, messages) ∧
        delivered ++ messages ++ x'.pending.toList = queued := by
    rw [accepts.pending, accepts.cursor]
    exact held.data
  have segment : x'.segment = y.segment := accepts.segment.trans held.segment
  cases carried : f.ack with
  | none =>
    rw [List.filterMap_cons_none carried] at listed
    have window : x'.window = x.window := by simpa [carried] using accepts.window
    exact ⟨acked, sent, received, frontier, ⟨extra, window ▸ metered⟩, held.received_le,
      held.acked_le, held.frontier_le, held.numbered, held.expects, held.owed,
      ⟨numbers, listed, increasing, within⟩, data, fragmenting, held.fits, segment⟩
  | some ack =>
    rw [List.filterMap_cons_some carried] at listed
    cases numbers with
    | nil => simp at listed
    | cons m rest =>
      obtain ⟨rfl, listedRest⟩ := List.cons.inj listed
      obtain ⟨least, increasing⟩ := List.pairwise_cons.mp increasing
      have bound := within m (List.mem_cons_self ..)
      have window : x'.window = x.window.acknowledge (UInt8.ofNat m) := by
        simpa [carried] using accepts.window
      refine ⟨m + 1, sent, received, frontier, ⟨_, window ▸ metered.acknowledge (by omega) (by omega)⟩,
        held.received_le, by omega, held.frontier_le, held.numbered, held.expects, held.owed,
        ⟨rest, listedRest, increasing, fun k member => ?_⟩, data, fragmenting, held.fits, segment⟩
      exact ⟨least k member, (within k (List.mem_cons_of_mem _ member)).2⟩

section
variable (flow : Flow x y flight back queued delivered window)
include flow

theorem Flow.queued_sender (idle : x.pending = none) (small : sdu.length ≤ rxReassemblyCap) :
    Flow { x with pending := some sdu, cursor := 0 } y flight back (queued ++ [sdu]) delivered
      window := by
  obtain ⟨acked, sent, received, frontier, held⟩ := flow
  obtain ⟨messages, fed, streamed⟩ := held.data
  rw [idle] at fed streamed
  refine ⟨acked, sent, received, frontier, held.metered, held.received_le, held.acked_le,
    held.frontier_le, held.numbered, held.expects, held.owed, held.acks,
    ⟨messages, fed, ?_⟩, ⟨held.fragmenting.1, ?_⟩, held.fits, held.segment⟩
  · rw [← streamed]
    simp
  · intro msg member
    cases member
    exact ⟨small, Nat.zero_le _⟩

theorem Flow.queued_receiver :
    Flow x { y with pending := some sdu, cursor := 0 } flight back queued delivered window := by
  obtain ⟨acked, sent, received, frontier, held⟩ := flow
  exact ⟨acked, sent, received, frontier, held.metered, held.received_le, held.acked_le,
    held.frontier_le, held.numbered, held.expects, held.owed, held.acks, held.data,
    held.fragmenting, held.fits, held.segment⟩

theorem Flow.delivered_in_order : delivered <+: queued := by
  obtain ⟨acked, sent, received, frontier, held⟩ := flow
  obtain ⟨messages, _, streamed⟩ := held.data
  exact ⟨messages ++ x.pending.toList, by rw [← streamed, List.append_assoc]⟩

end

end Endpoint

namespace BtpSession

theorem onIndication_accepts (now : Instant)
    (acked : ∀ ack ∈ f.ack, s.endpoint.window.accepts ack = true)
    (receivable : f.seq = s.endpoint.expects ∧ f.encode.length ≤ s.endpoint.segment.toNat ∧
      ∃ next message, s.endpoint.assembly.receive f.body = some (next, message)) :
    ∃ message t, (onIndication f.encode now).run s = .ok message t ∧
      s.endpoint.Accepts t.endpoint f message := by
  obtain ⟨numbered, fits, next, message, received⟩ := receivable
  obtain ⟨t, ran, receives, window⟩ := onIndication_encode now fits acked numbered received
  obtain ⟨counted, owed, rfl, sized, pending, sent⟩ := receives
  exact ⟨message, t, ran, window, counted, owed, received, pending, sent, sized⟩

end BtpSession

/-- Both ends of a link: each role's session, the packets it sent that are still
in flight, the messages its `queue_message` took and its `on_indication`
returned, and every error `on_indication` returned. -/
structure Link where
  session : Role → BtpSession
  flight : Role → List Bytes
  queued : Role → List Bytes
  delivered : Role → List Bytes
  errors : List BtpError

inductive Action where
  | queue (role : Role) (sdu : Bytes)
  | write (role : Role) (now : Instant)
  | completed (role : Role) (now : Instant)
  | timeout (role : Role) (now : Instant)
  | deliver (sender : Role) (now : Instant)

namespace Link
open Function (update)

def new (segmentSize : UInt16) (window : UInt8) (now : Role → Instant) : Link where
  session role := .new role segmentSize window (now role)
  flight _ := []
  queued _ := []
  delivered _ := []
  errors := []

/-- `role` moves to the outcome's session and its packet goes on the wire. -/
def post (link : Link) (role : Role) (outcome : Option Bytes × BtpSession) : Link :=
  { link with
    session := update link.session role outcome.2
    flight := update link.flight role (link.flight role ++ outcome.1.toList) }

def act (link : Link) : Action → Link
  | .queue role sdu =>
    match (BtpSession.queueMessage sdu).run (link.session role) with
    | .ok _ s => { link with
        session := update link.session role s
        queued := update link.queued role (link.queued role ++ [sdu]) }
    | .error _ s => { link with session := update link.session role s }
  | .write role now => link.post role ((link.session role).nextGattWrite now)
  | .completed role now =>
    { link with session := update link.session role ((link.session role).gattWriteCompleted now) }
  | .timeout role now => link.post role ((link.session role).timeoutOutcome now)
  | .deliver sender now =>
    match link.flight sender with
    | [] => link
    | packet :: rest =>
      match (BtpSession.onIndication packet now).run (link.session sender.peer) with
      | .ok message s => { link with
          session := update link.session sender.peer s
          flight := update link.flight sender rest
          delivered := update link.delivered sender.peer
            (link.delivered sender.peer ++ message.toList) }
      | .error e s => { link with
          session := update link.session sender.peer s
          flight := update link.flight sender rest
          errors := link.errors ++ [e] }

/-- Messages the peer has room to reassemble. -/
def Small : Action → Prop
  | .queue _ sdu => sdu.length ≤ rxReassemblyCap
  | _ => True

/-- What is in flight encodes fragments, and both directions flow. -/
structure Sound (link : Link) (window : Nat) : Prop where
  flows : ∃ fragments : Role → List Fragment,
    (∀ role, link.flight role = (fragments role).map Fragment.encode) ∧
    ∀ role, Endpoint.Flow (link.session role).endpoint (link.session role.peer).endpoint
      (fragments role) (fragments role.peer) (link.queued role) (link.delivered role.peer) window
  clean : link.errors = []

theorem endpoint_update {session : Role → BtpSession} (same : s.endpoint = (session role).endpoint)
    (other : Role) : (update session role s other).endpoint = (session other).endpoint := by
  by_cases here : other = role
  · subst here
    rw [Function.update_self, same]
  · rw [Function.update_of_ne here]

section
variable {link : Link} (sound : link.Sound window)
include sound

theorem Sound.unmoved (same : s.endpoint = (link.session role).endpoint) :
    ({ link with session := update link.session role s } : Link).Sound window := by
  obtain ⟨⟨fragments, encoded, flows⟩, clean⟩ := sound
  refine ⟨⟨fragments, encoded, fun other => ?_⟩, clean⟩
  simp only [endpoint_update same]
  exact flows other

theorem Sound.post (departs : (link.session role).Departs outcome) :
    (link.post role outcome).Sound window := by
  rcases departs with ⟨silent, same⟩ | ⟨f, packet, emits⟩
  · have unchanged : link.post role outcome =
        { link with session := update link.session role outcome.2 } := by
      simp [Link.post, silent]
    rw [unchanged]
    exact sound.unmoved same
  · obtain ⟨⟨fragments, encoded, flows⟩, clean⟩ := sound
    refine ⟨⟨update fragments role (fragments role ++ [f]), ?_, ?_⟩, clean⟩
    · refine (Role.forall_iff role).mpr ⟨?_, ?_⟩
      · simp [Link.post, packet, encoded]
      · simp [Link.post, encoded]
    · refine (Role.forall_iff role).mpr ⟨?_, ?_⟩
      · simpa [Link.post] using (flows role).emitted_sender emits
      · have back := flows role.peer
        rw [Role.peer_peer] at back
        simpa [Link.post] using back.emitted_receiver emits

theorem Sound.queue (role : Role) (small : sdu.length ≤ rxReassemblyCap) :
    (link.act (.queue role sdu)).Sound window := by
  obtain ran | ran | ⟨idle, ran⟩ := (link.session role).queueMessage_cases sdu
  · simp only [act, ran]
    exact sound.unmoved rfl
  · simp only [act, ran]
    exact sound.unmoved rfl
  · obtain ⟨⟨fragments, encoded, flows⟩, clean⟩ := sound
    simp only [act, ran]
    refine ⟨⟨fragments, encoded, (Role.forall_iff role).mpr ⟨?_, ?_⟩⟩, clean⟩
    · simp
      exact (flows role).queued_sender idle small
    · have back := flows role.peer
      rw [Role.peer_peer] at back
      simp
      exact back.queued_receiver

theorem Sound.deliver (sender : Role) (now : Instant) :
    (link.act (.deliver sender now)).Sound window := by
  obtain ⟨⟨fragments, encoded, flows⟩, clean⟩ := sound
  cases flying : fragments sender with
  | nil =>
    have empty : link.flight sender = [] := by rw [encoded, flying, List.map_nil]
    simp only [act, empty]
    exact ⟨⟨fragments, encoded, flows⟩, clean⟩
  | cons f rest =>
    have next : link.flight sender = f.encode :: rest.map Fragment.encode := by
      rw [encoded, flying, List.map_cons]
    have forth := flows sender
    have back := flows sender.peer
    rw [flying] at forth
    rw [Role.peer_peer, flying] at back
    obtain ⟨message, s, ran, accepts⟩ := BtpSession.onIndication_accepts now
      back.acknowledgeable forth.receivable
    simp only [act, next, ran]
    refine ⟨⟨update fragments sender rest, ?_, ?_⟩, clean⟩
    · refine (Role.forall_iff sender).mpr ⟨?_, ?_⟩
      · simp
      · simp [encoded]
    · refine (Role.forall_iff sender).mpr ⟨?_, ?_⟩
      · simpa using forth.accepted_receiver accepts
      · simpa using back.accepted_sender accepts

theorem Sound.act (small : Small action) : (link.act action).Sound window := by
  have ready : ∀ role, (link.session role).endpoint.Fragmenting := by
    obtain ⟨⟨fragments, encoded, flows⟩, clean⟩ := sound
    intro role
    obtain ⟨acked, sent, received, frontier, held⟩ := flows role
    exact held.fragmenting
  cases action with
  | queue role sdu => exact sound.queue role small
  | write role now => exact sound.post (BtpSession.nextGattWrite_departs _ now (ready role))
  | completed role now => exact sound.unmoved rfl
  | timeout role now => exact sound.post (BtpSession.timeoutOutcome_departs _ now (ready role))
  | deliver sender now => exact sound.deliver sender now

end

theorem segmentSize_new (role : Role) (segmentSize : UInt16) (window : UInt8) (now : Instant) :
    6 ≤ (BtpSession.new role segmentSize window now).segmentSize.toNat := by
  have floor : (6 : UInt16) ≤ max segmentSize minSegmentSize := by
    by_cases small : segmentSize ≤ minSegmentSize
    · rw [show max segmentSize minSegmentSize = minSegmentSize from if_pos small]
      decide
    · rw [show max segmentSize minSegmentSize = segmentSize from if_neg small]
      exact (UInt16.le_total _ _).resolve_right small
  cases role <;> exact UInt16.le_iff_toNat_le.mp floor

theorem sound_new (segmentSize : UInt16) {window : UInt8} (now : Role → Instant)
    (bounds : 1 ≤ window ∧ window ≤ 6) : (new segmentSize window now).Sound window.toNat := by
  have fragmenting : ∀ role, ((new segmentSize window now).session role).endpoint.Fragmenting := by
    intro role
    refine ⟨segmentSize_new role segmentSize window (now role), ?_⟩
    cases role <;> exact fun msg absent => nomatch absent
  refine ⟨⟨fun _ => [], fun _ => rfl, (Role.forall_iff .central).mpr ⟨?_, ?_⟩⟩, rfl⟩
  · have metered := BtpSession.metered_new .central segmentSize (now .central) bounds
    exact ⟨0, 0, 0, 0, ⟨_, metered⟩, Nat.le_refl _, Nat.le_refl _, Nat.le_refl _, rfl, rfl, rfl,
      ⟨[], rfl, .nil, by simp⟩, ⟨[], rfl, rfl⟩, fragmenting _, by simp, rfl⟩
  · have metered := BtpSession.metered_new .peripheral segmentSize (now .peripheral) bounds
    exact ⟨0, 1, 1, 0, ⟨_, metered⟩, Nat.le_refl _, Nat.le_refl _, Nat.zero_le _, rfl, rfl, rfl,
      ⟨[], rfl, .nil, by simp⟩, ⟨[], rfl, rfl⟩, fragmenting _, by simp, rfl⟩

/-- Over any interleaving nothing is lost, merged, duplicated or reordered, and
no indication is rejected. -/
theorem delivery (segmentSize : UInt16) {window : UInt8} (now : Role → Instant)
    (bounds : 1 ≤ window ∧ window ≤ 6) (actions : List Action)
    (small : ∀ action ∈ actions, Small action) :
    (run act (new segmentSize window now) actions).errors = [] ∧
      ∀ role, (run act (new segmentSize window now) actions).delivered role.peer <+:
        (run act (new segmentSize window now) actions).queued role := by
  have along : EveryStep act (fun _ action => Small action) (new segmentSize window now) actions :=
    fun pre action within => small action (within.subset (by simp))
  have sound : (run act (new segmentSize window now) actions).Sound window.toNat :=
    invariant_of_guard (P := fun link => link.Sound window.toNat)
      (fun _ _ sound small => sound.act small) (sound_new segmentSize now bounds) along
  obtain ⟨⟨fragments, encoded, flows⟩, clean⟩ := sound
  exact ⟨clean, fun role => (flows role).delivered_in_order⟩

/-- A message of nine bytes over a link of segment size 6, back and forth. -/
def conversation : List Action :=
  [.queue .central [1, 2, 3, 4, 5, 6, 7, 8, 9], .write .central 0, .deliver .central 1,
    .completed .central 1, .write .central 1, .deliver .central 2, .completed .central 2,
    .write .central 3, .deliver .central 3, .completed .central 3, .timeout .peripheral 2600,
    .deliver .peripheral 2601]

example : (run act (new 6 6 fun _ => 0) conversation).delivered .peripheral =
    [[1, 2, 3, 4, 5, 6, 7, 8, 9]] := by
  decide

theorem delivery_conversation :
    (run act (new 6 6 fun _ => 0) conversation).errors = [] ∧
      ∀ role, (run act (new 6 6 fun _ => 0) conversation).delivered role.peer <+:
        (run act (new 6 6 fun _ => 0) conversation).queued role :=
  delivery 6 (fun _ => 0) (by decide) conversation (by simp [conversation, Small, rxReassemblyCap])

end Link
end Matter.Ble
