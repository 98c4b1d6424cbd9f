import Matter.Base.Logs

/-! Objects that follow a protocol. The protocol says which kind of call may come
next; an object conforms if it takes such a call or dies of it, and refuses every
other call without a trace. What holds of one call is lifted to whole runs. -/
namespace Matter.Phases
open Runs Logs
variable {P K M C R E : Type}

/-- An automaton over the kinds of calls. -/
structure Protocol (P K : Type) where
  initial : P
  next : P → K → Option P

def Protocol.after (protocol : Protocol P K) : P → List K → Option P
  | p, [] => some p
  | p, k :: kinds => (protocol.next p k).bind fun p => protocol.after p kinds

theorem Protocol.after_concat (protocol : Protocol P K) (p : P) (kinds : List K) (k : K) :
    protocol.after p (kinds ++ [k]) = (protocol.after p kinds).bind fun q => protocol.next q k := by
  induction kinds generalizing p with
  | nil =>
    cases following : protocol.next p k <;> simp [after, following]
  | cons first kinds ih =>
    rw [List.cons_append, after, after]
    cases protocol.next p first with
    | none => rfl
    | some q => exact ih q

/-- What a call leaves behind. -/
def step (call : M → C → Except E R × M) (m : M) (c : C) : M := (call m c).2

/-- A call with its result. -/
def event (call : M → C → Except E R × M) (m : M) (c : C) : C × Except E R := (c, (call m c).1)

/-- The call was made and returned this. -/
def Returned (c : C) (r : R) (e : C × Except E R) : Prop := e = (c, .ok r)

/-- A call that returned along a run is one of the run's calls. -/
theorem called_of_along (along : Along kinds (log (step call) (event call) m calls))
    (mem : Returned c r ∈ kinds) : c ∈ calls := by
  obtain ⟨_, within, rfl⟩ := along.exists_of_mem mem
  obtain ⟨earlier, later, split⟩ := List.append_of_mem within
  obtain ⟨pre, a, post, rfl, -, same⟩ := log_split split
  obtain rfl : c = a := congrArg Prod.fst same
  exact List.mem_append_right _ List.mem_cons_self

/-- The calls that succeeded, with what they returned. -/
def accepted (l : List (C × Except E R)) : List (C × R) :=
  l.filterMap fun (c, result) =>
    match result with
    | .ok r => some (c, r)
    | .error _ => none

theorem accepted_concat_ok (l : List (C × Except E R)) (c : C) (r : R) :
    accepted (l ++ [(c, .ok r)]) = accepted l ++ [(c, r)] := by
  simp [accepted]

theorem accepted_concat_error (l : List (C × Except E R)) (c : C) (e : E) :
    accepted (l ++ [(c, .error e)]) = accepted l := by
  simp [accepted]

section Conformance
variable (protocol : Protocol P K) (kind : C → K) (call : M → C → Except E R × M)

/-- The phase of the protocol after the successful calls of a history. -/
def phase (l : List (C × Except E R)) : Option P :=
  protocol.after protocol.initial ((accepted l).map fun taken => kind taken.1)

/-- How the calls of a run that meet `guard` follow the protocol: `InPhase` are
the objects in step with a phase, `Dead` those a failure has left behind. -/
structure Conforms (guard : P → C → Prop) (refusal : E → Prop) (InPhase : P → M → Prop)
    (Dead : M → Prop) : Prop where
  refuses : ∀ {p m c}, InPhase p m → guard p c → protocol.next p (kind c) = none →
    ∃ e, refusal e ∧ call m c = (.error e, m)
  takes : ∀ {p m c q}, InPhase p m → guard p c → protocol.next p (kind c) = some q →
    (∃ r, (call m c).1 = .ok r ∧ InPhase q (call m c).2) ∨
    (∃ e, (call m c).1 = .error e ∧ Dead (call m c).2)
  dead : ∀ {m} c, Dead m → ∃ e, refusal e ∧ call m c = (.error e, m)

/-- Each call of the run meets `guard` in the phase it is made in. -/
def Guarded (guard : P → C → Prop) (m : M) (calls : List C) : Prop :=
  ∀ pre c, pre ++ [c] <+: calls →
    ∀ p, phase protocol kind (log (step call) (event call) m pre) = some p → guard p c

variable {protocol kind call} {guard : P → C → Prop} {refusal : E → Prop}
  {InPhase : P → M → Prop} {Dead : M → Prop} {m : M}

theorem Guarded.mono (guarded : Guarded protocol kind call guard m calls)
    (within : shorter <+: calls) : Guarded protocol kind call guard m shorter :=
  fun pre c inner => guarded pre c (inner.trans within)

/-- A run keeps the object in step with its history, or has killed it. -/
theorem Conforms.along (conforms : Conforms protocol kind call guard refusal InPhase Dead)
    (initial : InPhase protocol.initial m) (guarded : Guarded protocol kind call guard m calls) :
    (∃ p, phase protocol kind (log (step call) (event call) m calls) = some p ∧
      InPhase p (run (step call) m calls)) ∨ Dead (run (step call) m calls) := by
  induction calls using List.reverseRecOn with
  | nil => exact .inl ⟨protocol.initial, rfl, initial⟩
  | append_singleton calls c ih =>
    have here := guarded calls c (List.prefix_refl _)
    rw [log_concat, run_concat]
    rcases ih (guarded.mono (List.prefix_append _ _)) with ⟨p, reached, inPhase⟩ | dead
    · cases following : protocol.next p (kind c) with
      | none =>
        obtain ⟨e, _, same⟩ := conforms.refuses inPhase (here p reached) following
        left
        rw [event, step, same, phase, accepted_concat_error]
        exact ⟨p, reached, inPhase⟩
      | some q =>
        rcases conforms.takes inPhase (here p reached) following with
          ⟨r, isOk, inNext⟩ | ⟨e, isError, isDead⟩
        · left
          refine ⟨q, ?_, inNext⟩
          rw [phase] at reached ⊢
          rw [event, isOk, accepted_concat_ok, List.map_append, List.map_singleton,
            Protocol.after_concat, reached]
          exact following
        · exact .inr isDead
    · obtain ⟨e, _, same⟩ := conforms.dead c dead
      right
      rw [step, same]
      exact dead

theorem Conforms.dead_along (conforms : Conforms protocol kind call guard refusal InPhase Dead)
    (dead : Dead m) (calls : List C) : Dead (run (step call) m calls) :=
  Runs.invariant (fun m c dead => by
    obtain ⟨e, _, same⟩ := conforms.dead c dead
    rw [step, same]
    exact dead) dead calls

variable (protocol kind call refusal) in
/-- A run in the order of the protocol: a call it does not allow next is refused
and changes nothing, and one that it allows but that fails leaves an object that
never finishes. -/
structure Ordered (Finished : M → Prop) (m : M) (calls : List C) : Prop where
  refused : ∀ pre c p, pre ++ [c] <+: calls →
    phase protocol kind (log (step call) (event call) m pre) = some p →
    protocol.next p (kind c) = none →
    ∃ e, refusal e ∧ call (run (step call) m pre) c = (.error e, run (step call) m pre)
  failed : ∀ pre c p q e, pre ++ [c] <+: calls →
    phase protocol kind (log (step call) (event call) m pre) = some p →
    protocol.next p (kind c) = some q →
    (call (run (step call) m pre) c).1 = .error e →
    ∀ later, ¬ Finished (run (step call) m (pre ++ c :: later))

theorem Conforms.ordered (conforms : Conforms protocol kind call guard refusal InPhase Dead)
    (initial : InPhase protocol.initial m) (unfinished : ∀ m, Dead m → ¬ Finished m)
    (guarded : Guarded protocol kind call guard m calls) :
    Ordered protocol kind call refusal Finished m calls where
  refused pre c p within reached notNext := by
    have before := guarded.mono ((List.prefix_append pre [c]).trans within)
    rcases conforms.along initial before with ⟨p', reached', inPhase⟩ | dead
    · obtain rfl : p = p' := Option.some.inj (reached.symm.trans reached')
      exact conforms.refuses inPhase (guarded pre c within p reached) notNext
    · exact conforms.dead c dead
  failed pre c p q e within reached following isError later := by
    have before := guarded.mono ((List.prefix_append pre [c]).trans within)
    have dead : Dead (step call (run (step call) m pre) c) := by
      rcases conforms.along initial before with ⟨p', reached', inPhase⟩ | dead
      · obtain rfl : p = p' := Option.some.inj (reached.symm.trans reached')
        rcases conforms.takes inPhase (guarded pre c within p reached) following with
          ⟨r, isOk, _⟩ | ⟨_, _, isDead⟩
        · rw [isOk] at isError
          cases isError
        · exact isDead
      · obtain ⟨_, _, same⟩ := conforms.dead c dead
        rw [step, same]
        exact dead
    rw [run_append, run_cons]
    exact unfinished _ (conforms.dead_along dead later)

end Conformance

end Matter.Phases
