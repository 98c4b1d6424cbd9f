import Matter.Base.Runs
import Matter.Commissioning.Unsecured

/-! Handshakes over an unsecured exchange, whatever comes in on the socket: how often a
message is sent and how long is waited for it, what makes the exchange stop, and what it
returns. A packet that is skipped sends the message again and starts its wait anew, the time
before any packet is not charged, any acknowledgement stops a message, and a message of
another protocol is returned. -/
namespace Matter.Commissioning
open Runs Transport UnsecuredExchange
variable {round : Round}

/-- The time that is waited if a message is sent as often as its schedule says. -/
def scheduleTotal (config : MrpConfig) : Duration :=
  (handshakeSchedule config maxHandshakeRetransmitWindow).sum

def Pass.exchange : Pass → UnsecuredExchange
  | .going x _ | .replied x _ | .ended x _ => x

/-- What a packet is to the call that is being made. -/
def Sending.hear (s : Sending) (x : UnsecuredExchange) (packet : Bytes) : Heard :=
  match s.awaits with
  | some expectedOpcodes => x.hear expectedOpcodes packet
  | none => match x.sieve packet with
    | .ack msg => .ack msg
    | _ => .skipped

/-- The message as it goes out at the start of a pass, which `send_and_await_ack` has done
before. -/
def Sending.resent (s : Sending) : Sending :=
  if s.awaits.isSome then { s with sends := s.sends + 1 } else s

namespace Handshake

/-- No message is sent more often than its schedule says, and the waits fit in the window. -/
def Bounded (h : Handshake) : Prop :=
  (∀ s ∈ h.sending, s.sends ≤ h.exchange.schedule.length) ∧ h.waited ≤ maxHandshakeRetransmitWindow

/-- No packet is skipped while a message is not acknowledged, and a new schedule has an
entry. -/
def Undisturbed (h : Handshake) (input : Input) : Prop :=
  match h.sending, input with
  | some s, .round (.packet _ bytes) => s.acked = true ∨ s.hear h.exchange bytes ≠ .skipped
  | none, .resizePeerMrp peerMrp => peerMrp.maxTransmissions ≠ 0
  | _, _ => True

/-- The time before a packet that ends the wait for a message is not charged. -/
def unchargedBy (h : Handshake) (input : Input) : Duration :=
  match h.sending, input with
  | some s, .round (.packet after _) => if s.acked then 0 else after
  | _, _ => 0

def uncharged (h : Handshake) : List Input → Duration
  | [] => 0
  | input :: rest => h.unchargedBy input + (h.next input).uncharged rest

/-- The schedule, if the input brings one, does not take longer. -/
def Fits (total : Duration) : Input → Prop
  | .resizePeerMrp peerMrp => scheduleTotal peerMrp ≤ total
  | _ => True

/-- The message can be sent once more before its attempts are used up. -/
structure Paced (x : UnsecuredExchange) (s : Sending) : Prop where
  sends : s.sends ≤ x.schedule.length
  unacked : s.acked = false → s.attempts < x.schedule.length ∧
    s.sends + s.awaits.toList.length ≤ s.attempts + 1
  terminal : s.awaits = none → s.acked = false

/-- What is charged and what is left come to no more than the total. -/
structure Sound (total : Duration) (h : Handshake) : Prop where
  mrp : h.exchange.reliability = .mrp
  entry : 0 < h.exchange.schedule.length
  fits : h.exchange.spent + h.exchange.budget ≤ total
  paced : ∀ s ∈ h.sending, Paced h.exchange s

variable {h : Handshake} {s : Sending} {x : UnsecuredExchange}

theorem retransmitWait_eq (room : s.attempts < x.schedule.length) :
    ∃ wait, x.retransmitWait s = some wait ∧ wait ≤ x.budget := by
  refine ⟨min x.schedule[s.attempts] x.budget, ?_, Nat.min_le_right _ _⟩
  simp [retransmitWait, List.getElem?_eq_getElem room]

theorem recvPass_unacked (mrp : x.reliability = .mrp) (unacked : s.acked = false)
    (waits : x.retransmitWait s = some wait) :
    x.recvPass s expected round =
      x.recvWithin { s with sends := s.sends + 1 } expected wait round := by
  have sends : x.shouldSend s = true := by simp [shouldSend, mrp, unacked]
  have same : x.recvWait { s with sends := s.sends + 1 } = some wait := by
    simp only [recvWait, settled, mrp, unacked]
    exact waits
  simp [recvPass, sends, same]

inductive Went (x : UnsecuredExchange) (s : Sending) : Round → Pass → Prop where
  | heard (awaits : s.awaits = some expected) (hears : x.hear expected bytes = .other msg) :
      Went x s (.packet after bytes)
        (.replied { x with lastConsumedPeerCounter := some msg.messageCounter } (.ok msg))
  | going : Went x s r (.going { x with budget := b, spent := t } s')
  | failed : Went x s r (.replied { x with budget := b, spent := t } (.error e))
  | ended (terminal : s.awaits = none) :
      Went x s r (.ended { x with budget := b, spent := t } result)

theorem recvWithin_went (awaits : s.awaits = some expected) (s' : Sending) :
    Went x s round (x.recvWithin s' expected wait round) := by
  cases round with
  | failed e => exact .failed
  | packet after bytes =>
    simp only [recvWithin]
    split
    · exact .going
    · exact .failed
    · exact .going
    · exact .heard awaits ‹_›
  | elapsed resend =>
    simp only [recvWithin]
    split
    · exact .failed
    · split
      · exact .failed
      · exact .going

theorem pass_went (x : UnsecuredExchange) (s : Sending) (round : Round) :
    Went x s round (x.pass s round) := by
  unfold UnsecuredExchange.pass
  split
  · unfold recvPass
    dsimp only
    split
    · exact .failed
    · exact recvWithin_went ‹_› _
  · rename_i terminal
    unfold ackPass
    split
    · exact .ended terminal
    · cases round with
      | failed e => exact .ended terminal
      | packet after bytes =>
        dsimp only
        split
        · exact .ended terminal
        · exact .going
      | elapsed resend =>
        dsimp only
        split
        · exact .ended terminal
        · split
          · exact .ended terminal
          · exact .going

/-- The ways in which a pass of a message that is not acknowledged goes. -/
inductive Passed (x : UnsecuredExchange) (s : Sending) (wait : Duration) : Round → Pass → Prop where
  | failed (stops : p = .replied x (.error (.io e)) ∨ p = .ended x (.error (.io e))) :
      Passed x s wait (.failed e) p
  | skipped (hears : s.hear x bytes = .skipped) :
      Passed x s wait (.packet after bytes) (.going x s.resent)
  | undecodable (hears : s.hear x bytes = .undecodable e) :
      Passed x s wait (.packet after bytes) (.replied x (.error e))
  | acked (asked : s.awaits.isSome) (hears : s.hear x bytes = .ack msg) :
      Passed x s wait (.packet after bytes) (.going x { s.resent with acked := true })
  | confirmed (hears : s.hear x bytes = .ack msg) :
      Passed x s wait (.packet after bytes) (.ended x (.ok true))
  | replied (hears : s.hear x bytes = .other msg) :
      Passed x s wait (.packet after bytes)
        (.replied { x with lastConsumedPeerCounter := some msg.messageCounter } (.ok msg))
  | usedUp (up : x.schedule.length ≤ s.attempts + 1 ∨ x.budget ≤ wait)
      (stops : p = .replied (x.spend wait) (.error (.timeout x.exchangeId)) ∨
        p = .ended (x.spend wait) (.ok false)) :
      Passed x s wait (.elapsed resend) p
  | unsent (terminal : s.awaits = none)
      (more : ¬ (x.schedule.length ≤ s.attempts + 1 ∨ x.budget ≤ wait)) :
      Passed x s wait (.elapsed (.error e)) (.ended (x.spend wait) (.error (.io e)))
  | again (more : ¬ (x.schedule.length ≤ s.attempts + 1 ∨ x.budget ≤ wait))
      (sent : s.awaits = none → resend = .ok ()) :
      Passed x s wait (.elapsed resend)
        (.going (x.spend wait) { s with attempts := s.attempts + 1, sends := s.sends + 1 })

theorem pass_passed (round : Round) (mrp : x.reliability = .mrp) (unacked : s.acked = false)
    (waits : x.retransmitWait s = some wait) : Passed x s wait round (x.pass s round) := by
  have empty : (x.spend wait).budget = 0 ↔ x.budget ≤ wait := by
    simp [spend, Nat.sub_eq_zero_iff_le]
  cases awaits : s.awaits with
  | none =>
    simp only [UnsecuredExchange.pass, awaits, ackPass, waits, empty]
    cases round with
    | failed e => exact .failed (.inr rfl)
    | elapsed resend =>
      dsimp only
      split
      · rename_i up
        exact .usedUp up (.inr rfl)
      · rename_i more
        cases resend with
        | error e => exact .unsent awaits more
        | ok sent => simpa only [awaits] using Passed.again more fun _ => rfl
    | packet after bytes =>
      dsimp only
      split
      · rename_i msg heard
        have acked : s.hear x bytes = .ack msg := by simp only [Sending.hear, awaits, heard]
        exact .confirmed acked
      · have skipped : s.hear x bytes = .skipped := by
          simp [Sending.hear, awaits]
        have once : s.resent = s := by simp [Sending.resent, awaits]
        have passed : Passed x s wait (.packet after bytes) (.going x s.resent) := .skipped skipped
        rwa [once] at passed
  | some expected =>
    have resent : s.resent = { s with sends := s.sends + 1 } := by simp [Sending.resent, awaits]
    have unsettled : x.settled s.resent = false := by simp [settled, mrp, resent, unacked]
    have hears : ∀ bytes, s.hear x bytes = x.hear expected bytes := by simp [Sending.hear, awaits]
    have passes : x.pass s round = x.recvWithin s.resent expected wait round := by
      rw [resent, ← recvPass_unacked mrp unacked waits]
      simp [UnsecuredExchange.pass, awaits]
    rw [passes]
    cases round with
    | failed e => exact .failed (.inl rfl)
    | elapsed resend =>
      simp only [recvWithin, unsettled, Bool.false_eq_true, if_false, empty]
      rw [resent]
      split
      · rename_i up
        exact .usedUp up (.inl rfl)
      · rename_i more
        exact .again more fun terminal => by simp [terminal] at awaits
    | packet after bytes =>
      simp only [recvWithin, ← hears]
      split
      · exact .skipped ‹_›
      · exact .undecodable ‹_›
      · exact .acked (by rw [awaits]; rfl) ‹_›
      · exact .replied ‹_›

section Sums
variable {spent budget wait total waited uncharged window : Nat}

/-- A wait that runs to its end is taken from the budget. -/
theorem fits_spend (fits : spent + budget ≤ total) (short : wait ≤ budget) :
    spent + wait + (budget - wait) ≤ total := by
  omega

theorem waited_le (prompt : waited + uncharged + total ≤ window + spent)
    (fits : spent + budget ≤ total) : waited ≤ window := by
  omega

end Sums

theorem Passed.fits (passed : Passed x s wait round p) (fits : x.spent + x.budget ≤ total)
    (short : wait ≤ x.budget) : p.exchange.spent + p.exchange.budget ≤ total := by
  have later : (x.spend wait).spent + (x.spend wait).budget ≤ total := fits_spend fits short
  cases passed with
  | failed stops => rcases stops with rfl | rfl <;> exact fits
  | skipped | undecodable | acked | confirmed | replied => exact fits
  | usedUp up stops => rcases stops with rfl | rfl <;> exact later
  | unsent | again => exact later

/-- A packet that is not skipped ends the sending; a wait that runs out takes one attempt. -/
theorem Passed.paced (passed : Passed x s wait round (.going x' s')) (pace : Paced x s)
    (unacked : s.acked = false)
    (heard : ∀ after bytes, round = .packet after bytes → s.hear x bytes ≠ .skipped) :
    Paced x s' := by
  obtain ⟨sends, count, terminal⟩ := pace
  obtain ⟨room, count⟩ := count unacked
  generalize next : Pass.going x' s' = p at passed
  cases passed with
  | failed stops | usedUp _ stops => rcases stops with rfl | rfl <;> cases next
  | undecodable | confirmed | replied | unsent => cases next
  | skipped hears => exact absurd hears (heard _ _ rfl)
  | acked asked hears =>
    cases next
    have once : s.awaits.toList.length = 1 := by
      obtain ⟨expected, awaits⟩ := Option.isSome_iff_exists.mp asked
      simp [awaits]
    rw [Sending.resent, if_pos asked]
    refine ⟨?_, by simp, fun terminal => ?_⟩
    · dsimp only
      omega
    · rw [terminal] at asked
      cases asked
  | again more sent =>
    cases next
    have entries : s.attempts + 1 < x.schedule.length := by omega
    refine ⟨?_, fun _ => ⟨entries, ?_⟩, terminal⟩
    · dsimp only
      omega
    · dsimp only
      omega

theorem Sound.bounded (sound : h.Sound total)
    (prompt : h.waited + later + total ≤ maxHandshakeRetransmitWindow + h.exchange.spent) :
    h.Bounded :=
  ⟨fun s current => (sound.paced s current).sends, waited_le prompt sound.fits⟩

end Handshake

open Commissioning.Handshake

/-- A handshake before its first message. -/
def Handshake.start (initialCounter : MessageCounter) (exchangeId : UInt16) (sourceNodeId : NodeId)
    (peerMrp : MrpConfig) (reliability : TransportReliability) : Handshake :=
  { exchange := .newWithMrp initialCounter exchangeId sourceNodeId peerMrp reliability }

/-- A peer that is sent each message once. -/
def onceOnly : MrpConfig := { MrpConfig.default with maxTransmissions := 1 }

/-- An acknowledgement of the message that was sent under the counter. -/
def ackOf (counter : MessageCounter) : Bytes :=
  encodeUnsecured 1 1 opcodeMrpStandaloneAck .secureChannel false false (some counter) none []

namespace Handshake

/-- The attempts or the budget are used up, or will be with this pass. -/
def UsedUp (x : UnsecuredExchange) (s : Sending) (round : Round) : Prop :=
  x.schedule.length ≤ s.attempts ∨ ∃ resend wait, round = .elapsed resend ∧
    x.retransmitWait s = some wait ∧ (x.schedule.length ≤ s.attempts + 1 ∨ x.budget ≤ wait)

/-- An acknowledgement of the message's own counter, on its exchange. -/
def Acknowledges (x : UnsecuredExchange) (s : Sending) (round : Round) : Prop :=
  ∃ after bytes msg, round = .packet after bytes ∧ decodeUnsecured bytes = .ok msg ∧
    msg.exchangeId = x.exchangeId ∧ msg.ackCounter = some s.counter

def Stops : Pass → Prop
  | .going _ s => s.acked = true
  | _ => True

/-- The message is of the secure channel, and of an awaited opcode or a status report. -/
def Awaited (s : Sending) (msg : UnsecuredMessage) : Prop :=
  msg.protocolId = .secureChannel ∧
    ∃ expected ∈ s.awaits, msg.opcode ∈ expected ∨ msg.opcode = opcodeStatusReport

def StopsRightly (h : Handshake) (input : Input) : Prop :=
  ∀ s round, h.sending = some s → input = .round round → s.acked = false →
    h.exchange.reliability = .mrp →
    (Stops (h.exchange.pass s round) →
      (∃ x msg, h.exchange.pass s round = .replied x (.ok msg) ∧ Awaited s msg) ∨
        UsedUp h.exchange s round ∨ Acknowledges h.exchange s round) ∧
    ∀ x, h.exchange.pass s round = .ended x (.ok true) → Acknowledges h.exchange s round

/-- The socket does not fail, every packet that is not for another session or exchange can be
decoded, every acknowledgement is of the message's own counter, and so is every reply of another
protocol. -/
def Confirms (h : Handshake) (input : Input) : Prop :=
  ∀ s round, h.sending = some s → input = .round round → s.acked = false →
    h.exchange.reliability = .mrp → UsedUp h.exchange s round ∨
    match round with
    | .failed _ => False
    | .elapsed resend => s.awaits = none → resend = .ok ()
    | .packet _ bytes => match s.hear h.exchange bytes with
      | .undecodable _ => False
      | .ack msg => msg.ackCounter = some s.counter
      | .other msg => msg.protocolId = .secureChannel ∨ msg.ackCounter = some s.counter
      | .skipped => True

variable {h : Handshake} {s : Sending} {x : UnsecuredExchange} {msg : UnsecuredMessage}

/-- What is heard of a packet is what it holds, and it is for this exchange and attempt. -/
def Hears (x : UnsecuredExchange) (bytes : Bytes) : Heard → Prop
  | .skipped => True
  | .undecodable e => decodeUnsecured bytes = .error e
  | .ack msg | .other msg => decodeUnsecured bytes = .ok msg ∧ msg.exchangeId = x.exchangeId ∧
      (msg.destinationNodeId = none ∨ msg.destinationNodeId = some (.node x.sourceNodeId))

theorem sieve_hears (x : UnsecuredExchange) (bytes : Bytes) : Hears x bytes (x.sieve bytes) := by
  unfold sieve
  split
  · trivial
  · split
    · assumption
    · rename_i msg decoded
      split
      · trivial
      · rename_i own
        split
        · trivial
        · rename_i addressed
          have destination : msg.destinationNodeId = none ∨
              msg.destinationNodeId = some (.node x.sourceNodeId) := by
            cases dest : msg.destinationNodeId with
            | none => exact .inl rfl
            | some node =>
              rw [dest] at addressed
              simp only [Option.any_some, decide_eq_true_eq, not_not] at addressed
              exact .inr (congrArg some addressed)
          split <;> exact ⟨decoded, not_not.mp own, destination⟩

theorem hear_hears (x : UnsecuredExchange) (s : Sending) (bytes : Bytes) :
    Hears x bytes (s.hear x bytes) := by
  have sieved := sieve_hears x bytes
  unfold Sending.hear
  split
  · unfold hear
    split
    · rename_i other
      split
      · trivial
      · split
        · trivial
        · rwa [other] at sieved
    · exact sieved
  · split
    · rename_i ack
      rwa [ack] at sieved
    · trivial

/-- The message that was heard decides. -/
theorem acknowledges_iff (heard : s.hear x bytes = .ack msg ∨ s.hear x bytes = .other msg) :
    Acknowledges x s (.packet after bytes) ↔ msg.ackCounter = some s.counter := by
  have hears := hear_hears x s bytes
  have holds : decodeUnsecured bytes = .ok msg ∧ msg.exchangeId = x.exchangeId := by
    rcases heard with heard | heard <;> rw [heard] at hears <;> exact ⟨hears.1, hears.2.1⟩
  obtain ⟨decoded, own⟩ := holds
  constructor
  · rintro ⟨_, _, msg', same, decoded', _, ack⟩
    cases same
    rw [decoded] at decoded'
    cases decoded'
    exact ack
  · intro ack
    exact ⟨after, bytes, msg, rfl, decoded, own, ack⟩

theorem hear_other (heard : x.hear expected bytes = .other msg) :
    x.sieve bytes = .other msg ∧
      (∀ last, x.lastConsumedPeerCounter = some last → last < msg.messageCounter) ∧
      (msg.protocolId = .secureChannel →
        msg.opcode ∈ expected ∨ msg.opcode = opcodeStatusReport) := by
  unfold hear at heard
  split at heard
  · rename_i sieved
    split at heard
    · cases heard
    · rename_i fresh
      split at heard
      · cases heard
      · rename_i awaited
        cases heard
        refine ⟨sieved, ?_, ?_⟩
        · intro last consumed
          rw [consumed] at fresh
          simpa using fresh
        · intro channel
          by_contra unawaited
          exact awaited ⟨channel, not_or.mp unawaited⟩
  · rename_i none
    exact absurd heard (none msg)

/-- The protocol of the reply that was heard decides. -/
theorem awaited_iff (heard : s.hear x bytes = .other msg) :
    Awaited s msg ↔ msg.protocolId = .secureChannel := by
  refine ⟨And.left, fun channel => ⟨channel, ?_⟩⟩
  unfold Sending.hear at heard
  split at heard
  · rename_i expected awaits
    exact ⟨expected, awaits, (hear_other heard).2.2 channel⟩
  · split at heard <;> cases heard

theorem stopsRightly_iff : h.StopsRightly input ↔ h.Confirms input := by
  refine forall_congr' fun s => forall_congr' fun round => forall_congr' fun current =>
    forall_congr' fun same => forall_congr' fun unacked => forall_congr' fun mrp => ?_
  generalize h.exchange = x at *
  by_cases room : s.attempts < x.schedule.length
  · obtain ⟨wait, waits, short⟩ := retransmitWait_eq room
    have passed := pass_passed round mrp unacked waits
    have resent : s.resent.acked = false := by
      unfold Sending.resent
      split <;> exact unacked
    generalize x.pass s round = p at passed ⊢
    cases passed with
    | failed stops =>
      rcases stops with rfl | rfl <;> simp [Stops, Acknowledges]
    | skipped hears => simp [Stops, resent, hears]
    | @undecodable bytes _ _ hears =>
      have undecoded := hear_hears x s bytes
      rw [hears] at undecoded
      simp only [Hears] at undecoded
      simp [Stops, hears, Acknowledges, undecoded]
    | acked asked hears => simp [Stops, hears, acknowledges_iff (.inl hears)]
    | @confirmed bytes msg after hears =>
      have early : ¬ UsedUp x s (.packet after bytes) := by simp [UsedUp, room]
      simp [Stops, hears, acknowledges_iff (.inl hears), early]
    | @replied bytes msg after hears =>
      have early : ¬ UsedUp x s (.packet after bytes) := by simp [UsedUp, room]
      simp [Stops, hears, awaited_iff hears, acknowledges_iff (.inr hears), early]
    | @usedUp p resend up stops =>
      have used : UsedUp x s (.elapsed resend) := .inr ⟨resend, wait, rfl, waits, up⟩
      rcases stops with rfl | rfl <;> simp [Stops, used]
    | @unsent e terminal more =>
      have early : ¬ UsedUp x s (.elapsed (.error e)) := by
        rintro (out | ⟨_, wait', _, waits', up⟩)
        · omega
        · obtain rfl := Option.some.inj (waits.symm.trans waits')
          exact more up
      simp [Stops, Acknowledges, early, terminal]
    | again more sent =>
      simp only [Stops, unacked, Bool.false_eq_true, false_implies, true_and]
      exact ⟨fun _ => .inr sent, fun _ => nofun⟩
  · have used : UsedUp x s round := .inl (Nat.le_of_not_lt room)
    have spent : ∀ s : Sending, ¬ s.attempts < x.schedule.length → x.retransmitWait s = none := by
      intro s out
      simp [retransmitWait, List.getElem?_eq_none (Nat.le_of_not_lt out)]
    have unconfirmed : ∀ x', x.pass s round ≠ .ended x' (.ok true) := by
      intro x' confirmed
      have went := pass_went x s round
      rw [confirmed] at went
      cases went with
      | ended terminal =>
        simp [UnsecuredExchange.pass, terminal, ackPass, spent s room] at confirmed
    simp [used, unconfirmed]

end Handshake

theorem own_acknowledgement_stops_iff (start : Handshake) (inputs : List Input) :
    EveryStep next Handshake.StopsRightly start inputs ↔
      EveryStep next Handshake.Confirms start inputs :=
  forall_congr' fun _ => forall_congr' fun _ => forall_congr' fun _ => stopsRightly_iff

/-- The acknowledgement is of an earlier message. -/
theorem late_acknowledgement_stops :
    ¬ EveryStep next Handshake.StopsRightly (.start 7 1 1 onceOnly .mrp)
      [.sendAndRecvAny 0x20 [0x21] [] none, .round (.packet 0 (ackOf 6))] := by
  intro stops
  have confirms := stopsRightly_iff.mp (stops [.sendAndRecvAny 0x20 [0x21] [] none] _
    (List.prefix_refl _))
  rcases confirms _ _ rfl rfl rfl rfl with (out | ⟨_, _, same, _⟩) | own
  · exact absurd out (by decide)
  · cases same
  · have same : (some 6 : Option MessageCounter) = some 7 := own
    exact absurd same (by decide)

/-! What is returned. -/

/-- A message of this exchange and attempt, which was awaited or closes the handshake. -/
structure UnsecuredMessage.Answers (msg : UnsecuredMessage) (x : UnsecuredExchange)
    (expectedOpcodes : List UInt8) : Prop where
  unsecured : ∃ packet header rest, decodeUnsecured packet = .ok msg ∧
    decodeHeader packet = .ok (header, rest) ∧ header.sessionId = 0
  protocolId : msg.protocolId = .secureChannel
  exchangeId : msg.exchangeId = x.exchangeId
  destination : msg.destinationNodeId = none ∨ msg.destinationNodeId = some (.node x.sourceNodeId)
  opcode : msg.opcode ∈ expectedOpcodes ∨ msg.opcode = opcodeStatusReport

namespace Handshake

def Answered (h : Handshake) : Prop :=
  (∀ r ∈ h.returned, r.2.Answers h.exchange r.1) ∧
    h.returned.Pairwise fun earlier later => earlier.2.messageCounter < later.2.messageCounter

def Channelled (h : Handshake) (input : Input) : Prop :=
  ∀ after bytes msg, input = .round (.packet after bytes) → h.exchange.sieve bytes = .other msg →
    msg.protocolId = .secureChannel

variable {h : Handshake} {s : Sending} {x : UnsecuredExchange} {msg : UnsecuredMessage}

/-- The counters of what was returned do not exceed the one that is remembered. -/
structure Records (h : Handshake) : Prop where
  answered : h.Answered
  counters : ∀ r ∈ h.returned, ∃ last, h.exchange.lastConsumedPeerCounter = some last ∧
    r.2.messageCounter ≤ last

theorem Records.congr {h' : Handshake} (records : h.Records) (returned : h'.returned = h.returned)
    (id : h'.exchange.exchangeId = h.exchange.exchangeId)
    (node : h'.exchange.sourceNodeId = h.exchange.sourceNodeId)
    (last : h'.exchange.lastConsumedPeerCounter = h.exchange.lastConsumedPeerCounter) :
    h'.Records := by
  obtain ⟨⟨answers, increasing⟩, counters⟩ := records
  refine ⟨⟨?_, returned ▸ increasing⟩, ?_⟩
  · intro r member
    obtain ⟨unsecured, protocolId, exchangeId, destination, opcode⟩ := answers r (returned ▸ member)
    exact ⟨unsecured, protocolId, id ▸ exchangeId, node ▸ destination, opcode⟩
  · rw [returned, last]
    exact counters

theorem decodeUnsecured_session (decoded : decodeUnsecured bytes = .ok msg) :
    ∃ header rest, decodeHeader bytes = .ok (header, rest) ∧ header.sessionId = 0 := by
  unfold decodeUnsecured at decoded
  cases read : decodeHeader bytes with
  | error e =>
    rw [read] at decoded
    cases decoded
  | ok parts =>
    obtain ⟨header, rest⟩ := parts
    refine ⟨header, rest, rfl, ?_⟩
    by_contra secured
    rw [read] at decoded
    simp only [Except.mapError, bind, Except.bind, ne_eq, secured, not_false_eq_true,
      if_true] at decoded
    cases decoded

theorem records_returned (records : h.Records)
    (channelled : h.Channelled (.round (.packet after bytes)))
    (heard : h.exchange.hear expected bytes = .other msg) :
    ({ h with
      exchange := { h.exchange with lastConsumedPeerCounter := some msg.messageCounter }
      returned := h.returned ++ [(expected, msg)] } : Handshake).Records := by
  obtain ⟨sieved, fresh, awaited⟩ := hear_other heard
  have hears := sieve_hears h.exchange bytes
  rw [sieved] at hears
  obtain ⟨decoded, own, addressed⟩ := hears
  obtain ⟨⟨answers, increasing⟩, counters⟩ := records
  have channel := channelled after bytes msg rfl sieved
  have earlier : ∀ r ∈ h.returned, r.2.messageCounter < msg.messageCounter := by
    intro r member
    obtain ⟨last, consumed, le⟩ := counters r member
    exact UInt32.lt_of_le_of_lt le (fresh last consumed)
  refine ⟨⟨?_, ?_⟩, ?_⟩
  · intro r member
    rcases List.mem_append.mp member with before | here
    · obtain ⟨unsecured, protocolId, exchangeId, destination, opcode⟩ := answers r before
      exact ⟨unsecured, protocolId, exchangeId, destination, opcode⟩
    · obtain rfl := List.mem_singleton.mp here
      obtain ⟨header, rest, read, unsecured⟩ := decodeUnsecured_session decoded
      have session : ∃ packet header rest, decodeUnsecured packet = .ok msg ∧
          decodeHeader packet = .ok (header, rest) ∧ header.sessionId = 0 :=
        ⟨bytes, header, rest, decoded, read, unsecured⟩
      exact ⟨session, channel, own, addressed, awaited channel⟩
  · refine List.pairwise_append.mpr ⟨increasing, List.pairwise_singleton _ _, ?_⟩
    intro r member last here
    obtain rfl := List.mem_singleton.mp here
    exact earlier r member
  · intro r member
    refine ⟨msg.messageCounter, rfl, ?_⟩
    rcases List.mem_append.mp member with before | here
    · exact UInt32.le_of_lt (earlier r before)
    · obtain rfl := List.mem_singleton.mp here
      exact UInt32.le_refl _

theorem records_receive (records : h.Records) (channelled : h.Channelled (.round round)) :
    (h.receive s round).Records := by
  have went := pass_went h.exchange s round
  unfold receive
  generalize h.exchange.pass s round = p at went
  cases went with
  | heard awaits hears =>
    have returned := records_returned records channelled hears
    simp only [awaits]
    exact returned.congr rfl rfl rfl rfl
  | going | ended => exact records.congr rfl rfl rfl rfl
  | failed => exact records.congr (List.append_nil _) rfl rfl rfl

theorem records_next (records : h.Records) (channelled : h.Channelled input) :
    (h.next input).Records := by
  unfold next
  split
  · exact records_receive records channelled
  · exact records.congr rfl rfl rfl rfl
  · dsimp only
    split <;> exact records.congr rfl rfl rfl rfl
  · split
    · exact records
    · exact records.congr rfl rfl rfl rfl
  · exact records.congr rfl rfl rfl rfl
  · exact records

end Handshake

theorem handshake_returns_own_reply (initialCounter : MessageCounter) (exchangeId : UInt16)
    (sourceNodeId : NodeId) (peerMrp : MrpConfig) (reliability : TransportReliability)
    (inputs : List Input) (channelled : EveryStep next Handshake.Channelled
      (.start initialCounter exchangeId sourceNodeId peerMrp reliability) inputs) :
    EveryState next Handshake.Answered
      (.start initialCounter exchangeId sourceNodeId peerMrp reliability) inputs := by
  have start :
      (start initialCounter exchangeId sourceNodeId peerMrp reliability).Records :=
    ⟨⟨nofun, .nil⟩, nofun⟩
  exact (everyState_of_guard (fun _ _ => records_next) start channelled).imp
    fun _ records => records.answered

def fromPeer (counter : MessageCounter) (opcode : UInt8) (protocol : ProtocolId) : Bytes :=
  encodeUnsecured counter 1 opcode protocol false true none none []

/-- Two steps. The first reply comes once more during the second. -/
def twoSteps : List Input :=
  let first := fromPeer 5 0x21 .secureChannel
  [.sendAndRecvAny 0x20 [0x21] [] none, .round (.packet 0 first),
    .sendAndRecvAny 0x22 [0x23] [] (some 5), .round (.packet 0 first),
    .round (.packet 0 (fromPeer 6 0x23 .secureChannel))]

theorem handshake_returns_own_reply_once :
    (run next (start 1 1 1 onceOnly .mrp) twoSteps).returned.length = 2 ∧
      EveryState next Handshake.Answered (.start 1 1 1 onceOnly .mrp) twoSteps := by
  refine ⟨by decide, handshake_returns_own_reply 1 1 1 onceOnly .mrp twoSteps ?_⟩
  simp only [twoSteps, everyStep_cons]
  refine ⟨nofun, ?_, nofun, ?_, ?_, everyStep_nil⟩ <;>
  · intro after bytes msg same heard
    cases same
    cases heard
    rfl

theorem stray_status_returned :
    ¬ EveryState next Handshake.Answered (.start 1 1 1 onceOnly .mrp)
      [.sendAndRecvAny 0x20 [0x21] [] none,
        .round (.packet 0 (fromPeer 5 0x01 .interactionModel))] := by
  intro answered
  have answers := (answered _ (List.prefix_refl _)).1 _ List.mem_cons_self
  exact absurd answers.protocolId (by decide)

end Matter.Commissioning
