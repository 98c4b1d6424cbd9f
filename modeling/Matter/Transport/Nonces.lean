import Matter.Transport.Emission

/-! Nonces are never reused. Along every run of the manager a session's new packets
carry strictly increasing counters below the last one, a retransmission repeats the
bytes sent under its counter, and an exhausted session reports every refusal. -/
namespace Matter.Transport
open Crypto

def newPackets (steps : List Step) : List Bytes :=
  steps.flatMap (·.outcome.newPackets)

/-- How a call reports that it lacks `needed` counters. -/
def Outcome.ReportsExhaustion (needed : Nat) : Outcome → Prop
  | .sent result => result = .error .counterOverflow
  | .received result => result = .error .counterOverflow
  | .fired events => needed ≤ (events.filterMap (·.exhausted)).length

namespace Session
variable {aead : Aead} {id : SessionId} {s : Session}

/-- Every stored packet was sent, under the counter it is stored under. -/
def SentBefore (s : Session) (sent : List Bytes) : Prop :=
  ∀ c packet, s.mrp.Stores c packet → packet ∈ sent ∧ counterOf packet = some c

theorem SentBefore.step (before : s.SentBefore sent) (act : Act) :
    (s.step aead id act).after.SentBefore (sent ++ (s.step aead id act).outcome.newPackets) := by
  intro c packet stored
  rcases (step_steps aead id s act).stored stored with old | ⟨_, new, carries⟩
  · obtain ⟨member, carries⟩ := before c packet old
    exact ⟨List.mem_append_left _ member, carries⟩
  · exact ⟨List.mem_append_right _ new, carries⟩

theorem trace_encrypted (aead : Aead) (id : SessionId) (s : Session) (acts : List Act) :
    ∃ payloads, Sealed aead s s.outboundCounter payloads (newPackets (s.trace aead id acts))
      (s.run aead id acts).outboundCounter := by
  induction acts generalizing s with
  | nil => exact ⟨[], .nil _⟩
  | cons act acts ih =>
    obtain ⟨first, now⟩ := (step_steps aead id s act).encrypted
    obtain ⟨rest, later⟩ := ih (s.step aead id act).after
    exact ⟨first ++ rest, now.append (later.congr (step_steps aead id s act).continues)⟩

/-- A retransmission repeats a packet of an earlier step, or one sent before the run. -/
theorem trace_repeats (before : s.SentBefore sent) {step : Step}
    (split : s.trace aead id acts = pre ++ step :: post) :
    ∀ e ∈ step.outcome.retransmits, e.2 ∈ sent ++ newPackets pre ∧ counterOf e.2 = some e.1 := by
  induction acts generalizing s sent pre with
  | nil => simp [trace] at split
  | cons act acts ih =>
    cases pre with
    | nil =>
      obtain ⟨rfl, _⟩ := List.cons.inj split
      intro e member
      obtain ⟨inside, carries⟩ := before e.1 e.2 ((step_steps aead id s act).repeats e member)
      exact ⟨List.mem_append_left _ inside, carries⟩
    | cons first pre =>
      obtain ⟨rfl, later⟩ := List.cons.inj split
      intro e member
      obtain ⟨inside, carries⟩ := ih (before.step act) later e member
      rw [List.append_assoc] at inside
      exact ⟨inside, carries⟩

theorem Steps.exhausted (steps : Steps aead s act outcome t) (spent : s.outboundCounter = u32Max) :
    outcome.newPackets = [] ∧ t.outboundCounter = u32Max := by
  obtain ⟨payloads, encrypted⟩ := steps.encrypted
  rw [spent] at encrypted
  exact encrypted.exhausted.2

theorem Sealed.length_eq (encrypted : Sealed aead s c payloads packets c') :
    payloads.length = packets.length := by
  induction encrypted with
  | nil => rfl
  | cons _ _ _ ih => rw [List.length_cons, List.length_cons, ih]

theorem length_newPacket_le (s : Session) (events : List MrpTimerEvent) :
    ((s.foldTimerEvents aead id events).1.filterMap (·.newPacket)).length ≤
      (events.filterMap (·.ack)).length := by
  obtain ⟨emitted, spent, folded⟩ := s.foldTimerEvents_folded aead id events
  rw [← folded.encrypted.length_eq, folded.due, List.length_map, List.length_append]
  exact Nat.le_add_right _ _

theorem length_exhausted_eq (aead : Aead) (id : SessionId) (s : Session)
    (full : s.outboundCounter = u32Max) (events : List MrpTimerEvent) :
    ((s.foldTimerEvents aead id events).1.filterMap (·.exhausted)).length =
      (events.filterMap (·.ack)).length := by
  obtain ⟨emitted, spent, folded⟩ := s.foldTimerEvents_folded aead id events
  have nothing := folded.encrypted
  rw [full] at nothing
  obtain rfl := List.map_eq_nil_iff.mp nothing.exhausted.1
  rw [folded.reported, folded.due, List.length_map, List.nil_append]

/-- A duplicate that would be answered is refused by an exhausted session. -/
theorem exhausted_receive (full : s.outboundCounter = u32Max)
    (needs : (({ s with outboundCounter := spare }).step aead id
      (.receive packet now)).outcome.newPackets ≠ []) :
    (s.step aead id (.receive packet now)).outcome = .received (.error .counterOverflow) := by
  have would := step_steps aead id { s with outboundCounter := spare } (.receive packet now)
  generalize (({ s with outboundCounter := spare }).step aead id (.receive packet now)).outcome = out
    at would needs
  generalize (({ s with outboundCounter := spare }).step aead id (.receive packet now)).after = t
    at would
  cases would with
  | unauthentic | rejected | acked | delivered | unanswered => exact absurd rfl needs
  | fired reports => cases reports
  | resent authentic stale decoded reliable unreliable =>
    have same : s.authenticate aead packet = .ok _ := authentic
    exact (perform_answers same stale decoded reliable unreliable).1 full

/-- What would need a counter reports that there is none. -/
theorem exhausted_step (full : s.outboundCounter = u32Max)
    (needs : (({ s with outboundCounter := spare }).step aead id act).outcome.newPackets ≠ []) :
    (s.step aead id act).outcome.ReportsExhaustion
      (({ s with outboundCounter := spare }).step aead id act).outcome.newPackets.length := by
  cases act with
  | send nextExchangeId target message now =>
    simp [step, perform, encodeOn, if_pos full, Outcome.ReportsExhaustion]
  | receive packet now =>
    rw [exhausted_receive full needs]
    rfl
  | timeout now order =>
    have due := length_exhausted_eq aead id { s with mrp := (s.mrp.handleTimeout now order).2 } full
      (s.mrp.handleTimeout now order).1
    exact (length_newPacket_le _ _).trans_eq due.symm
  | endExchange target abort =>
    have due := fun mrp => length_exhausted_eq aead id { s with mrp := mrp } full
      (s.mrp.flushExchangeAcksOn (s.targetExchange target)).1
    exact (length_newPacket_le _ _).trans_eq (due _).symm
  | flush =>
    have due := length_exhausted_eq aead id { s with mrp := s.mrp.flushAllAcks.2 } full
      s.mrp.flushAllAcks.1
    exact (length_newPacket_le _ _).trans_eq due.symm

end Session

/-- In every run after a registration: counters of new packets increase and stay
below the last one, retransmissions repeat earlier packets under their counters, and
at the last counter whatever would need another one reports the exhaustion. -/
theorem nonces_never_reused (aead : Aead) (m : SessionManager) (r : Registration) (draws : Draws)
    (ops : List Operation) :
    let steps := (m.register r draws).trace aead r.localId ops
    ((newPackets steps).Pairwise fun p q =>
      ∃ c d, counterOf p = some c ∧ counterOf q = some d ∧ c < d) ∧
    (∀ packet ∈ newPackets steps, ∃ c, counterOf packet = some c ∧ c ≠ u32Max) ∧
    ∀ pre step post, steps = pre ++ step :: post →
      (∀ e ∈ step.outcome.retransmits, e.2 ∈ newPackets pre ∧ counterOf e.2 = some e.1) ∧
      (step.before.outboundCounter = u32Max →
        step.outcome.newPackets = [] ∧ step.after.outboundCounter = u32Max ∧
        ∀ spare, (({ step.before with outboundCounter := spare }).step aead r.localId
            step.act).outcome.newPackets ≠ [] →
          step.outcome.ReportsExhaustion (({ step.before with outboundCounter := spare }).step aead
            r.localId step.act).outcome.newPackets.length) := by
  obtain ⟨traced, _⟩ := SessionManager.run_session aead (m.lookup_register r draws) ops
  generalize (m.register r draws).acts aead r.localId ops = acts at traced
  obtain ⟨payloads, encrypted⟩ := (m.freshSession r draws).trace_encrypted aead r.localId acts
  have start : (m.freshSession r draws).SentBefore [] := by
    rintro c packet ⟨e, member, _⟩
    cases member
  simp only [traced]
  refine ⟨encrypted.pairwise, ?_, ?_⟩
  · intro packet member
    obtain ⟨c, carries, _, _, below⟩ := encrypted.counterOf_mem packet member
    exact ⟨c, carries, below⟩
  · intro pre step post split
    constructor
    · exact Session.trace_repeats start split
    · intro full
      have member : step ∈ (m.freshSession r draws).trace aead r.localId acts := by
        rw [split]
        simp
      have taken := Session.mem_trace member
      have steps := Session.step_steps aead r.localId step.before step.act
      rw [← taken] at steps
      obtain ⟨quiet, stays⟩ := steps.exhausted full
      refine ⟨quiet, stays, fun spare needs => ?_⟩
      rw [taken]
      exact Session.exhausted_step full needs

end Matter.Transport
