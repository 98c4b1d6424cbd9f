import Matter.Transport.Operations

/-! The retransmission schedule of one reliable message. A message registered under a
counter is repeated a fixed number of times and then expires, one event for each timer
call that finds it due, unless an acknowledgement or the end of its exchange takes it
out first. Nothing else that happens to the session touches it. -/
namespace Matter.Transport

open Table
/-- The calls that change the protocol state of a session. An exchange named by its id
alone is looked up when the call is made. -/
inductive MrpOperation where
  | noteLocalExchange (id : UInt16)
  | prepareOutbound (opcode : UInt8) (protocolId : ProtocolId) (target : ExchangeTarget)
      (appPayload : Bytes) (mrpFlags : MrpFlags)
  | commitOutbound (prepared : PreparedOutbound)
  | markPacketSent (counter : MessageCounter) (target : ExchangeTarget) (packet : Bytes)
      (reliable : Bool) (now : Instant)
  | handleTimeout (now : Instant) (order : List MessageCounter)
  | processInbound (payload : Bytes) (peerCounter : MessageCounter) (now : Instant)
  | cancelPendingOutboundAck (exchange : ExchangeKey)
  | closeExchange (target : ExchangeTarget)
  | flushExchangeAcks (target : ExchangeTarget)
  | flushAllAcks
  | forgetAckFor (counter : MessageCounter)

/-- The call registers a reliable message under the counter. -/
def MrpOperation.registers (c : MessageCounter) : MrpOperation → Bool
  | .markPacketSent counter _ _ reliable _ => counter = c && reliable
  | _ => false

/-- The event is about our message `c`. -/
def MrpTimerEvent.concerns (c : MessageCounter) : MrpTimerEvent → Bool
  | .retransmit _ counter _ => counter = c
  | .expired _ counter => counter = c
  | .standaloneAckDeadlineFired .. => false

open MrpTimerEvent

/-- The events that remain for a message under the counter `c`. -/
def PendingAck.schedule (p : PendingAck) (c : MessageCounter) : List MrpTimerEvent :=
  List.replicate p.attemptsRemaining.toNat (.retransmit p.exchange.id c p.packetBytes) ++
    [.expired p.exchange.id c]

namespace MrpState

def targetExchange (s : MrpState) : ExchangeTarget → ExchangeKey
  | .byId id => s.resolve id
  | .exact exchange => exchange

def noteLocalExchange (s : MrpState) (id : UInt16) : MrpState := s.track ⟨id, true⟩

def prepareOutbound (s : MrpState) (opcode : UInt8) (protocolId : ProtocolId)
    (exchange : ExchangeKey) (appPayload : Bytes) (mrpFlags : MrpFlags) : MrpState :=
  s.commitOutbound (s.buildOutbound opcode protocolId exchange appPayload mrpFlags)

/-- The timer events a call reports, and the state it leaves. -/
def perform (s : MrpState) : MrpOperation → List MrpTimerEvent × MrpState
  | .noteLocalExchange id => ([], s.noteLocalExchange id)
  | .prepareOutbound opcode protocolId target appPayload mrpFlags =>
    ([], s.prepareOutbound opcode protocolId (s.targetExchange target) appPayload mrpFlags)
  | .commitOutbound prepared => ([], s.commitOutbound prepared)
  | .markPacketSent counter target packet reliable now =>
    ([], s.markPacketSentOn counter (s.targetExchange target) packet reliable now)
  | .handleTimeout now order => s.handleTimeout now order
  | .processInbound payload peerCounter now => ([], (s.processInbound payload peerCounter now).2)
  | .cancelPendingOutboundAck exchange => ([], s.cancelPendingOutboundAck exchange)
  | .closeExchange target => ([], s.closeExchangeOn (s.targetExchange target))
  | .flushExchangeAcks target => s.flushExchangeAcksOn (s.targetExchange target)
  | .flushAllAcks => s.flushAllAcks
  | .forgetAckFor counter => ([], s.forgetAckFor counter)

def next (s : MrpState) (op : MrpOperation) : MrpState := (s.perform op).2

def run (s : MrpState) (ops : List MrpOperation) : MrpState := Runs.run next s ops

/-- The timer events of a run that are about the message `c`, in order. -/
def eventsFor (s : MrpState) (c : MessageCounter) : List MrpOperation → List MrpTimerEvent
  | [] => []
  | op :: ops => (s.perform op).1.filter (·.concerns c) ++ (s.next op).eventsFor c ops

/-- The call processes a message of the peer that acknowledges `c`. -/
def acknowledges (s : MrpState) (c : MessageCounter) : MrpOperation → Bool
  | .processInbound payload peerCounter now =>
    match decodeProtocolHeader payload, (s.processInbound payload peerCounter now).1 with
    | .ok (header, _), .ok _ => header.exchangeFlags.ack && header.ackCounter = some c
    | _, _ => false
  | _ => false

/-- The call aborts the exchange. -/
def closes (s : MrpState) (exchange : ExchangeKey) : MrpOperation → Bool
  | .closeExchange target => s.targetExchange target = exchange
  | _ => false

/-- The call ends the retransmission of `c`, which was sent on `exchange`. -/
def settles (s : MrpState) (c : MessageCounter) (exchange : ExchangeKey) (op : MrpOperation) : Bool :=
  s.acknowledges c op || s.closes exchange op

/-- What a call does to the message under `c`: the entry before it, the events about it
that the call reports, and the entry after it. -/
inductive Progresses (s : MrpState) (c : MessageCounter) (op : MrpOperation) :
    Option PendingAck → List MrpTimerEvent → Option PendingAck → Prop where
  | absent : Progresses s c op none [] none
  | waits (early : ∀ now order, op = .handleTimeout now order → now < p.nextAttempt)
      (unsettled : s.settles c p.exchange op = false) : Progresses s c op (some p) [] (some p)
  | settled (settles : s.settles c p.exchange op = true) :
      Progresses s c op (some p) [] none
  | repeats (nextAttempt : Instant)
      (call : op = .handleTimeout now order) (due : p.nextAttempt ≤ now)
      (left : p.attemptsRemaining ≠ 0) :
      Progresses s c op (some p) [.retransmit p.exchange.id c p.packetBytes]
        (some { p with
          attemptsRemaining := p.attemptsRemaining - 1, nextAttempt := nextAttempt })
  | expires (call : op = .handleTimeout now order) (due : p.nextAttempt ≤ now)
      (spent : p.attemptsRemaining = 0) :
      Progresses s c op (some p) [.expired p.exchange.id c] none

variable {s : MrpState} {k : ExchangeKey} {c : MessageCounter} {op : MrpOperation}

@[simp] theorem reclaimIfIdle_pendingAcks : (s.reclaimIfIdle k).pendingAcks = s.pendingAcks := by
  unfold reclaimIfIdle
  split <;> rfl

@[simp] theorem reclaimIfIdle_pendingOutboundAcks :
    (s.reclaimIfIdle k).pendingOutboundAcks = s.pendingOutboundAcks := by
  unfold reclaimIfIdle
  split <;> rfl

@[simp] theorem reclaimIfIdle_displacedAcks :
    (s.reclaimIfIdle k).displacedAcks = s.displacedAcks := by
  unfold reclaimIfIdle
  split <;> rfl

@[simp] theorem reclaimAll_pendingAcks (ks : List ExchangeKey) :
    (ks.foldl reclaimIfIdle s).pendingAcks = s.pendingAcks := by
  induction ks generalizing s with
  | nil => rfl
  | cons k ks ih => rw [List.foldl_cons, ih, reclaimIfIdle_pendingAcks]

@[simp] theorem noteReliable_pendingAcks (header : ProtocolHeader) :
    (s.noteReliable k header c now).pendingAcks = s.pendingAcks := by
  unfold noteReliable
  split <;> rfl

@[simp] theorem flushExchangeAcksOn_pendingAcks :
    (s.flushExchangeAcksOn k).2.pendingAcks = s.pendingAcks := by
  simp [flushExchangeAcksOn, reclaimIfIdle_pendingAcks]

theorem flushExchanges_pendingAcks (ks : List ExchangeKey) :
    (s.flushExchanges ks).2.pendingAcks = s.pendingAcks := by
  induction ks generalizing s with
  | nil => rfl
  | cons k ks ih => simp only [flushExchanges, ih, flushExchangeAcksOn_pendingAcks]

@[simp] theorem flushAllAcks_pendingAcks : s.flushAllAcks.2.pendingAcks = s.pendingAcks :=
  flushExchanges_pendingAcks _

theorem flushExchangeAcksOn_acks (member : event ∈ (s.flushExchangeAcksOn k).1) :
    ∃ (p : PendingOutboundAck) (j : ExchangeKey), event = p.fired j := by
  rcases List.mem_append.mp member with displaced | buffered
  · obtain ⟨e, _, rfl⟩ := List.mem_map.mp displaced
    exact ⟨e.2, e.1, rfl⟩
  · obtain ⟨p, _, rfl⟩ := List.mem_map.mp buffered
    exact ⟨p, k, rfl⟩

theorem flushExchanges_acks (member : event ∈ (s.flushExchanges ks).1) :
    ∃ (p : PendingOutboundAck) (j : ExchangeKey), event = p.fired j := by
  induction ks generalizing s with
  | nil => cases member
  | cons k ks ih =>
    rcases List.mem_append.mp member with first | later
    · exact flushExchangeAcksOn_acks first
    · exact ih later

@[simp] theorem forgetAckFor_pendingAcks : (s.forgetAckFor c).pendingAcks = s.pendingAcks := by
  simp [forgetAckFor, reclaimAll_pendingAcks]

section Timer
variable {now : Instant} {active : Bool} {pass : TimerPass}

/-- The part of a timer call that is about the message `c`. -/
def TimerPass.about (pass : TimerPass) (c : MessageCounter) :
    Option PendingAck × List MrpTimerEvent × Bool :=
  (pass.state.pendingAcks.lookup c, pass.events.filter (·.concerns c), decide (c ∈ pass.toRemove))

theorem visitPending_other (other : counter ≠ c) :
    (visitPending now active pass counter).about c = pass.about c := by
  unfold visitPending
  split
  · rfl
  split
  · rfl
  split
  · simp [TimerPass.about, List.filter_append, concerns, other, Ne.symm other]
  · simp [TimerPass.about, List.filter_append, concerns, other,
      AList.lookup_insert_ne (Ne.symm other)]

theorem visitAll_other (counters : List MessageCounter) (absent : c ∉ counters) :
    (counters.foldl (visitPending now active) pass).about c = pass.about c := by
  induction counters generalizing pass with
  | nil => rfl
  | cons counter counters ih =>
    obtain ⟨different, later⟩ := List.ne_and_not_mem_of_not_mem_cons absent
    rw [List.foldl_cons, ih later, visitPending_other (Ne.symm different)]

theorem fired_about {fired : TimerPass} (acks : List (ExchangeKey × PendingOutboundAck))
    (same : fired.state.pendingAcks = pass.state.pendingAcks)
    (added : fired.events = pass.events ++ acks.map fun e => e.2.fired e.1)
    (removed : fired.toRemove = pass.toRemove) : fired.about c = pass.about c := by
  have silent : (acks.map fun e => e.2.fired e.1).filter (·.concerns c) = [] := by
    apply List.filter_eq_nil_iff.mpr
    intro event member
    obtain ⟨e, _, rfl⟩ := List.mem_map.mp member
    simp [PendingOutboundAck.fired, concerns]
  simp [TimerPass.about, same, added, removed, silent]

theorem fireBuffered_about (k : ExchangeKey) : (fireBuffered pass k).about c = pass.about c := by
  unfold fireBuffered
  split
  · rfl
  · rename_i p found
    exact fired_about [(k, p)] rfl rfl rfl

theorem fireAll_about (ks : List ExchangeKey) :
    (ks.foldl fireBuffered pass).about c = pass.about c := by
  induction ks generalizing pass with
  | nil => rfl
  | cons k ks ih => rw [List.foldl_cons, ih, fireBuffered_about]

/-- What a timer call does about `c` is decided when it visits the messages. -/
theorem handleTimeout_about (s : MrpState) (now : Instant) (order : List MessageCounter)
    (c : MessageCounter) :
    let visited := ((arrange order s.pendingAcks.keys).foldl
      (visitPending now (s.isPeerActive now)) { state := s }).about c
    (s.handleTimeout now order).1.filter (·.concerns c) = visited.2.1 ∧
      (s.handleTimeout now order).2.pendingAcks.lookup c =
        if visited.2.2 then none else visited.1 := by
  generalize passed : (arrange order s.pendingAcks.keys).foldl
    (visitPending now (s.isPeerActive now)) { state := s } = pass
  intro visited
  have fired : (s.timerPass now order).about c = (removeExpired pass).about c := by
    simp only [timerPass, passed, fireAll_about]
    exact fired_about _ rfl rfl rfl
  have lookup := congrArg (·.1) fired
  have events := congrArg (·.2.1) fired
  simp only [TimerPass.about] at lookup events
  constructor
  · exact events
  · simp [handleTimeout, reclaimAll_pendingAcks, lookup, removeExpired, lookup_eraseAll,
      visited, TimerPass.about]

theorem visited_absent (absent : s.pendingAcks.lookup c = none) (order : List MessageCounter) :
    ((arrange order s.pendingAcks.keys).foldl (visitPending now active)
      { state := s }).about c = (none, [], false) := by
  have unlisted : c ∉ arrange order s.pendingAcks.keys := by
    rw [mem_arrange, ← AList.mem_keys]
    exact AList.lookup_eq_none.mp absent
  rw [visitAll_other _ unlisted]
  simp [TimerPass.about, absent]

/-- Every message is visited once, and the visits of the others do not concern it. -/
theorem visited_present (found : s.pendingAcks.lookup c = some p) (now : Instant) (active : Bool)
    (order : List MessageCounter) :
    ∃ pass : TimerPass, pass.about c = (some p, [], false) ∧
      ((arrange order s.pendingAcks.keys).foldl (visitPending now active)
        { state := s }).about c = (visitPending now active pass c).about c := by
  have listed : c ∈ arrange order s.pendingAcks.keys := by
    rw [mem_arrange, ← AList.mem_keys, ← AList.lookup_isSome, found]
    rfl
  have distinct : (arrange order s.pendingAcks.keys).Nodup :=
    nodup_arrange s.pendingAcks.keys_nodup
  obtain ⟨front, back, split⟩ := List.append_of_mem listed
  rw [split] at distinct ⊢
  obtain ⟨_, tail, apart⟩ := List.nodup_append.mp distinct
  have before : c ∉ front := fun member => apart c member c List.mem_cons_self rfl
  have after : c ∉ back := (List.nodup_cons.mp tail).1
  refine ⟨front.foldl (visitPending now active) { state := s }, ?_, ?_⟩
  · rw [visitAll_other front before]
    simp [TimerPass.about, found]
  · rw [List.foldl_append, List.foldl_cons, visitAll_other back after]

/-- The visit of a message: too early, the last one, or one more transmission. -/
theorem visitPending_self (fresh : pass.about c = (some p, [], false)) (now : Instant)
    (active : Bool) :
    (now < p.nextAttempt ∧ (visitPending now active pass c).about c = (some p, [], false)) ∨
    (p.nextAttempt ≤ now ∧ p.attemptsRemaining = 0 ∧ (visitPending now active pass c).about c =
      (some p, [.expired p.exchange.id c], true)) ∨
    (p.nextAttempt ≤ now ∧ p.attemptsRemaining ≠ 0 ∧
      ∃ nextAttempt, (visitPending now active pass c).about c =
        (some { p with
            attemptsRemaining := p.attemptsRemaining - 1, nextAttempt := nextAttempt },
          [.retransmit p.exchange.id c p.packetBytes], false)) := by
  simp only [TimerPass.about, Prod.mk.injEq, decide_eq_false_iff_not] at fresh
  obtain ⟨found, silent, kept⟩ := fresh
  unfold visitPending
  rw [found]
  simp only
  split
  · rename_i early
    simp only [TimerPass.about, found, silent, decide_eq_false kept]
    exact Or.inl ⟨early, trivial⟩
  · rename_i due
    split
    · rename_i spent
      right; left
      refine ⟨Nat.le_of_not_lt due, spent, ?_⟩
      simp only [TimerPass.about, found, List.filter_append, silent]
      simp [concerns]
    · rename_i left
      right; right
      refine ⟨Nat.le_of_not_lt due, left, _, Prod.ext (AList.lookup_insert _)
        (Prod.ext ?_ (decide_eq_false kept))⟩
      simp only [TimerPass.about, List.filter_append, silent]
      simp [concerns]

theorem handleTimeout_progresses (s : MrpState) (now : Instant) (order : List MessageCounter)
    (c : MessageCounter) :
    Progresses s c (.handleTimeout now order) (s.pendingAcks.lookup c)
      ((s.handleTimeout now order).1.filter (·.concerns c))
      ((s.handleTimeout now order).2.pendingAcks.lookup c) := by
  obtain ⟨events, after⟩ := s.handleTimeout_about now order c
  rw [events, after]
  cases found : s.pendingAcks.lookup c with
  | none =>
    rw [visited_absent found]
    exact .absent
  | some p =>
    obtain ⟨pass, fresh, visited⟩ := visited_present found now (s.isPeerActive now) order
    rw [visited]
    rcases visitPending_self fresh now (s.isPeerActive now) with
      ⟨early, about⟩ | ⟨due, spent, about⟩ | ⟨due, left, nextAttempt, about⟩
    · rw [about]
      refine .waits ?_ rfl
      rintro _ _ ⟨⟩
      exact early
    · rw [about]
      exact .expires rfl due spent
    · rw [about]
      exact .repeats nextAttempt rfl due left

end Timer

theorem filter_const (p : Option PendingAck) (keep : Bool) :
    (p.filter fun _ => keep) = if keep then p else none := by
  cases p <;> cases keep <;> rfl

/-- A call other than a timer call reports nothing about `c`. Its entry leaves exactly
if the call settles it. -/
theorem Progresses.untimed (untimed : ∀ now order, op ≠ .handleTimeout now order)
    (entry : after = p.filter fun q => !s.settles c q.exchange op) :
    Progresses s c op p [] after := by
  subst entry
  cases p with
  | none => exact .absent
  | some q =>
    cases settled : s.settles c q.exchange op with
    | true =>
      rw [Option.filter_some, settled]
      exact .settled settled
    | false =>
      rw [Option.filter_some, settled]
      refine .waits ?_ settled
      intro now order call
      exact absurd call (untimed now order)

theorem Progresses.kept (p : Option PendingAck) (untimed : ∀ now order, op ≠ .handleTimeout now order)
    (unsettled : ∀ exchange, s.settles c exchange op = false) : Progresses s c op p [] p := by
  apply Progresses.untimed untimed
  simp [unsettled, filter_const]

section
variable (s : MrpState)

theorem lookup_settle (k : ExchangeKey) (counter c : MessageCounter) :
    (s.settle k counter).pendingAcks.lookup c =
      if counter = c then none else s.pendingAcks.lookup c := by
  by_cases same : counter = c
  · subst same
    cases found : s.pendingAcks.lookup counter with
    | none => simp only [settle, found, if_true]
    | some acked =>
      simp only [settle, found, if_true]
      split <;> simp
  · rw [if_neg same]
    cases found : s.pendingAcks.lookup counter with
    | none => simp only [settle, found]
    | some acked =>
      simp only [settle, found]
      split <;> simp [AList.lookup_erase_ne (Ne.symm same)]

theorem lookup_applyAck (k : ExchangeKey) (header : ProtocolHeader) (c : MessageCounter) :
    (s.applyAck k header).pendingAcks.lookup c = (s.pendingAcks.lookup c).filter fun _ =>
      !(header.exchangeFlags.ack && decide (header.ackCounter = some c)) := by
  rw [filter_const]
  unfold applyAck
  cases header.exchangeFlags.ack with
  | false => simp
  | true =>
    cases header.ackCounter with
    | none => simp
    | some counter => simp [lookup_settle]

/-- An accepted message takes out the entry it acknowledges; a refused one takes out
none. -/
theorem lookup_processInbound (payload : Bytes) (peerCounter : MessageCounter) (now : Instant)
    (c : MessageCounter) :
    (s.processInbound payload peerCounter now).2.pendingAcks.lookup c =
      (s.pendingAcks.lookup c).filter fun _ =>
        !s.acknowledges c (.processInbound payload peerCounter now) := by
  have cases := processInbound_cases s payload peerCounter now
  simp only [acknowledges]
  generalize s.processInbound payload peerCounter now = result at cases ⊢
  cases cases with
  | malformed decoded | full decoded =>
    simp only [decoded, filter_const, Bool.not_false, if_true]
    rfl
  | ackOnly decoded | app decoded =>
    simp only [decoded, reclaimIfIdle_pendingAcks, noteReliable_pendingAcks, lookup_applyAck]
    rfl

theorem lookup_closeExchangeOn (k : ExchangeKey) (c : MessageCounter) :
    (s.closeExchangeOn k).pendingAcks.lookup c =
      (s.pendingAcks.lookup c).filter fun q => q.exchange ≠ k := by
  apply Option.ext
  intro q
  rw [Option.filter_eq_some_iff]
  exact (lookup_eq_some.trans mem_entries_retain).trans
    (and_congr_left' lookup_eq_some.symm)

end

/-- Registering another message, or sending one that is not reliable, does not touch
`c`. -/
theorem lookup_markPacketSentOn (other : (decide (counter = c) && reliable) = false) :
    (s.markPacketSentOn counter k packet reliable now).pendingAcks.lookup c =
      s.pendingAcks.lookup c := by
  cases reliable with
  | false => simp [markPacketSentOn]
  | true =>
    have different : c ≠ counter := by
      rintro rfl
      simp at other
    exact AList.lookup_insert_ne different

/-- Every call either leaves a message alone, settles it, or reports the next event of
its schedule. -/
theorem perform_progresses (s : MrpState) (op : MrpOperation) (other : op.registers c = false) :
    Progresses s c op (s.pendingAcks.lookup c) ((s.perform op).1.filter (·.concerns c))
      ((s.next op).pendingAcks.lookup c) := by
  have silent : ∀ {events : List MrpTimerEvent},
      (∀ event ∈ events, ∃ (p : PendingOutboundAck) (j : ExchangeKey), event = p.fired j) →
      events.filter (·.concerns c) = [] := by
    intro events acks
    apply List.filter_eq_nil_iff.mpr
    intro event member
    obtain ⟨p, j, rfl⟩ := acks event member
    simp [PendingOutboundAck.fired, concerns]
  cases op with
  | noteLocalExchange | prepareOutbound | commitOutbound | cancelPendingOutboundAck =>
    exact .kept _ (fun _ _ => nofun) fun _ => rfl
  | markPacketSent counter target packet reliable now =>
    simp only [next, perform, lookup_markPacketSentOn other]
    exact .kept _ (fun _ _ => nofun) fun _ => rfl
  | handleTimeout now order => exact s.handleTimeout_progresses now order c
  | processInbound payload peerCounter now =>
    refine .untimed nofun ?_
    rw [next, perform, lookup_processInbound]
    simp [settles, closes]
  | closeExchange target =>
    refine .untimed nofun ?_
    rw [next, perform, lookup_closeExchangeOn]
    simp [settles, acknowledges, closes, eq_comm]
  | flushExchangeAcks target =>
    simp only [next, perform, flushExchangeAcksOn_pendingAcks,
      silent fun _ => flushExchangeAcksOn_acks]
    exact .kept _ (fun _ _ => nofun) fun _ => rfl
  | flushAllAcks =>
    have quiet : s.flushAllAcks.1.filter (·.concerns c) = [] := silent fun _ => flushExchanges_acks
    simp only [next, perform, flushAllAcks_pendingAcks, quiet]
    exact .kept _ (fun _ _ => nofun) fun _ => rfl
  | forgetAckFor counter =>
    simp only [next, perform, forgetAckFor_pendingAcks]
    exact .kept _ (fun _ _ => nofun) fun _ => rfl

/-- The events that remain for the message under `c`: none if it is not pending. -/
def remaining (s : MrpState) (c : MessageCounter) : List MrpTimerEvent :=
  (s.pendingAcks.lookup c).elim [] (·.schedule c)

theorem schedule_repeats {p : PendingAck} (left : p.attemptsRemaining ≠ 0) (nextAttempt : Instant) :
    p.schedule c = .retransmit p.exchange.id c p.packetBytes ::
      ({ p with attemptsRemaining := p.attemptsRemaining - 1, nextAttempt := nextAttempt } :
        PendingAck).schedule c := by
  have positive : p.attemptsRemaining.toNat ≠ 0 := fun zero => left (UInt8.toNat_inj.mp zero)
  have some : (1 : UInt8) ≤ p.attemptsRemaining :=
    UInt8.le_iff_toNat_le.mpr (Nat.pos_of_ne_zero positive)
  have fewer : (p.attemptsRemaining - 1).toNat = p.attemptsRemaining.toNat - 1 :=
    UInt8.toNat_sub_of_le _ _ some
  simp only [PendingAck.schedule, fewer]
  obtain ⟨n, count⟩ := Nat.exists_eq_succ_of_ne_zero positive
  rw [count]
  rfl

/-- Unless it settles the message, a call reports a part of what remains and leaves the
rest. -/
theorem remaining_next (s : MrpState) (other : op.registers c = false) :
    (∃ q, s.pendingAcks.lookup c = some q ∧ s.settles c q.exchange op = true ∧
      (s.perform op).1.filter (·.concerns c) = [] ∧ (s.next op).remaining c = []) ∨
    s.remaining c = (s.perform op).1.filter (·.concerns c) ++ (s.next op).remaining c := by
  have progress := s.perform_progresses op other
  simp only [remaining]
  generalize (s.perform op).1.filter (·.concerns c) = events at progress ⊢
  generalize (s.next op).pendingAcks.lookup c = after at progress ⊢
  generalize s.pendingAcks.lookup c = before at progress ⊢
  cases progress with
  | absent | waits => exact Or.inr rfl
  | @settled q settles => exact Or.inl ⟨q, rfl, settles, rfl, rfl⟩
  | repeats nextAttempt call due left => exact Or.inr (schedule_repeats left nextAttempt)
  | expires call due spent =>
    refine Or.inr ?_
    simp [PendingAck.schedule, spent]

/-- The message under `c`, if it is pending, was sent on `exchange`. -/
def SentOn (s : MrpState) (c : MessageCounter) (exchange : ExchangeKey) : Prop :=
  ∀ q, s.pendingAcks.lookup c = some q → q.exchange = exchange

variable {exchange : ExchangeKey}

theorem SentOn.next (sent : s.SentOn c exchange) (other : op.registers c = false) :
    (s.next op).SentOn c exchange := by
  have progress := s.perform_progresses op other
  unfold SentOn at sent ⊢
  generalize (s.perform op).1.filter (·.concerns c) = events at progress
  generalize (s.next op).pendingAcks.lookup c = after at progress ⊢
  generalize s.pendingAcks.lookup c = before at progress sent
  cases progress with
  | absent | settled | expires => exact fun q found => nomatch found
  | waits => exact sent
  | @repeats _ _ p =>
    intro q found
    cases found
    exact sent p rfl

/-- A call that settles the message leaves nothing of its schedule. -/
theorem SentOn.remaining_settled (sent : s.SentOn c exchange) (other : op.registers c = false)
    (settles : s.settles c exchange op = true) : (s.next op).remaining c = [] := by
  have progress := s.perform_progresses op other
  unfold SentOn at sent
  unfold remaining
  generalize (s.perform op).1.filter (·.concerns c) = events at progress
  generalize (s.next op).pendingAcks.lookup c = after at progress ⊢
  generalize s.pendingAcks.lookup c = before at progress sent
  cases progress with
  | absent | settled | expires => rfl
  | waits early unsettled =>
    rw [sent _ rfl, settles] at unsettled
    cases unsettled
  | repeats nextAttempt call =>
    subst call
    cases settles

theorem SentOn.run (sent : s.SentOn c exchange) (ops : List MrpOperation)
    (once : ∀ op ∈ ops, op.registers c = false) : (s.run ops).SentOn c exchange := by
  induction ops generalizing s with
  | nil => exact sent
  | cons op ops ih =>
    have later := sent.next (once op List.mem_cons_self)
    exact ih later fun op member => once op (List.mem_cons_of_mem _ member)

theorem eventsFor_scheduled (s : MrpState) (once : ∀ op ∈ ops, op.registers c = false) :
    s.eventsFor c ops <+: s.remaining c := by
  induction ops generalizing s with
  | nil => exact List.nil_prefix
  | cons op ops ih =>
    have rest := ih (s.next op) fun op member => once op (List.mem_cons_of_mem _ member)
    rcases s.remaining_next (once op List.mem_cons_self) with
      ⟨q, _, _, silent, nothing⟩ | emitted
    · rw [nothing, List.prefix_nil] at rest
      rw [eventsFor, silent, rest]
      exact List.nil_prefix
    · rw [eventsFor, emitted]
      exact (List.prefix_append_right_inj _).mpr rest

/-- While nothing settles the message, what was reported and what remains make up its
schedule. -/
theorem SentOn.eventsFor_remaining (sent : s.SentOn c exchange)
    (once : ∀ op ∈ ops, op.registers c = false)
    (unsettled : Runs.EveryStep MrpState.next (fun s op => s.settles c exchange op = false) s ops) :
    s.eventsFor c ops ++ (s.run ops).remaining c = s.remaining c := by
  induction ops generalizing s with
  | nil => rfl
  | cons op ops ih =>
    obtain ⟨head, tail⟩ := (Runs.everyStep_cons op ops).mp unsettled
    have other := once op List.mem_cons_self
    have rest := ih (sent.next other) (fun op member => once op (List.mem_cons_of_mem _ member)) tail
    rcases s.remaining_next other with ⟨q, found, settles, _⟩ | emitted
    · rw [sent q found, head] at settles
      cases settles
    · rw [eventsFor, emitted, List.append_assoc, ← rest]
      rfl

theorem eventsFor_append (s : MrpState) (first second : List MrpOperation) :
    s.eventsFor c (first ++ second) = s.eventsFor c first ++ (s.run first).eventsFor c second := by
  induction first generalizing s with
  | nil => rfl
  | cons op ops ih => simp only [List.cons_append, eventsFor, ih, List.append_assoc, run, Runs.run_cons]

/-- A timer call late enough reports the next event of the schedule. -/
theorem late_timeout (s : MrpState) (c : MessageCounter) :
    ∃ deadline, ∀ later, deadline ≤ later → ∀ order,
      s.eventsFor c [.handleTimeout later order] = (s.remaining c).take 1 := by
  refine ⟨(s.pendingAcks.lookup c).elim 0 (·.nextAttempt), fun later reached order => ?_⟩
  have progress := s.perform_progresses (c := c) (.handleTimeout later order) rfl
  simp only [eventsFor, List.append_nil, remaining]
  generalize (s.perform (.handleTimeout later order)).1.filter (·.concerns c) = events at progress ⊢
  generalize (s.next (.handleTimeout later order)).pendingAcks.lookup c = after at progress
  generalize s.pendingAcks.lookup c = before at progress reached ⊢
  cases progress with
  | absent => rfl
  | waits early => exact absurd reached (Nat.not_le_of_lt (early later order rfl))
  | settled settles => cases settles
  | repeats nextAttempt call due left =>
    simp [schedule_repeats left nextAttempt]
  | expires call due spent => simp [PendingAck.schedule, spent]

theorem remaining_markPacketSentOn (s : MrpState) (c : MessageCounter) (exchange : ExchangeKey)
    (packet : Bytes) (now : Instant) :
    (s.markPacketSentOn c exchange packet true now).remaining c =
      List.replicate (s.config.maxTransmissions.toNat - 1) (.retransmit exchange.id c packet) ++
        [.expired exchange.id c] := by
  have small := s.config.maxTransmissions.toNat_lt
  have found : (s.markPacketSentOn c exchange packet true now).pendingAcks.lookup c = _ :=
    AList.lookup_insert _
  rw [remaining, found]
  simp only [Option.elim_some, PendingAck.schedule, UInt8.toNat_ofNat']
  rw [Nat.mod_eq_of_lt (by omega)]

end MrpState

/-- A reliable message is repeated at most `maxTransmissions - 1` times, with the packet
it was registered with, and then expires. Without an acknowledgement and while its
exchange is not aborted, every timer call that is late enough reports the next event
of that schedule; afterwards there is no event about it any more. -/
theorem retransmissions_are_bounded (s : MrpState) (c : MessageCounter) (exchange : ExchangeKey)
    (packet : Bytes) (now : Instant) (ops : List MrpOperation)
    (once : ∀ op ∈ ops, op.registers c = false) :
    let registered := s.markPacketSentOn c exchange packet true now
    let schedule := List.replicate (s.config.maxTransmissions.toNat - 1)
      (retransmit exchange.id c packet) ++ [.expired exchange.id c]
    registered.eventsFor c ops <+: schedule ∧
    (Runs.EveryStep MrpState.next (fun s op => s.settles c exchange op = false) registered ops →
      ∃ deadline, ∀ later, deadline ≤ later → ∀ order,
        registered.eventsFor c (ops ++ [.handleTimeout later order]) =
          schedule.take ((registered.eventsFor c ops).length + 1)) ∧
    (∀ pre op post, ops = pre ++ op :: post →
      (registered.run pre).settles c exchange op = true →
      ((registered.run pre).next op).eventsFor c post = []) := by
  intro registered schedule
  have starts : registered.remaining c = schedule :=
    s.remaining_markPacketSentOn c exchange packet now
  have sent : registered.SentOn c exchange := by
    intro q found
    have entry : registered.pendingAcks.lookup c = _ := AList.lookup_insert _
    rw [entry] at found
    cases found
    rfl
  refine ⟨?_, ?_, ?_⟩
  · rw [← starts]
    exact registered.eventsFor_scheduled once
  · intro unsettled
    have whole := sent.eventsFor_remaining once unsettled
    rw [starts] at whole
    obtain ⟨deadline, reports⟩ := (registered.run ops).late_timeout c
    refine ⟨deadline, fun later reached order => ?_⟩
    rw [MrpState.eventsFor_append, reports later reached order, ← whole, List.take_length_add_append]
  · rintro pre op post rfl settles
    have before : ∀ op' ∈ pre, op'.registers c = false :=
      fun op' member => once op' (List.mem_append_left _ member)
    have after : ∀ op' ∈ post, op'.registers c = false :=
      fun op' member => once op' (List.mem_append_right _ (List.mem_cons_of_mem _ member))
    have other := once op (List.mem_append_right _ List.mem_cons_self)
    have nothing := (sent.run pre before).remaining_settled other settles
    have rest := ((registered.run pre).next op).eventsFor_scheduled after
    rwa [nothing, List.prefix_nil] at rest

theorem default_schedule_bounded :
    ((MrpState.bare .default).markPacketSentOn 9 ⟨1, true⟩ [1] true 0).eventsFor 9
        [.flushAllAcks, .handleTimeout 1000000000 []] <+:
      List.replicate 4 (retransmit 1 9 [1]) ++ [.expired 1 9] :=
  (retransmissions_are_bounded (.bare .default) 9 ⟨1, true⟩ [1] 0
    [.flushAllAcks, .handleTimeout 1000000000 []] (by decide)).1

/-- A second message under the counter takes the place of the first, whose packet is never
repeated. -/
theorem reused_counter_breaks_schedule :
    ∃ later, ¬ ((MrpState.bare .default).markPacketSentOn 9 ⟨1, true⟩ [1] true 0).eventsFor 9
        [.markPacketSent 9 (.exact ⟨2, true⟩) [2] true 0, .handleTimeout later []] <+:
      List.replicate 4 (retransmit 1 9 [1]) ++ [.expired 1 9] := by
  let first := (MrpState.bare .default).markPacketSentOn 9 ⟨1, true⟩ [1] true 0
  obtain ⟨deadline, reports⟩ := (first.markPacketSentOn 9 ⟨2, true⟩ [2] true 0).late_timeout 9
  refine ⟨deadline, fun scheduled => ?_⟩
  have other : first.eventsFor 9
      [.markPacketSent 9 (.exact ⟨2, true⟩) [2] true 0, .handleTimeout deadline []] =
      [.retransmit 2 9 [2]] := by
    rw [MrpState.remaining_markPacketSentOn] at reports
    exact reports deadline (Nat.le_refl _) []
  rw [other] at scheduled
  exact absurd scheduled (by decide)

end Matter.Transport
