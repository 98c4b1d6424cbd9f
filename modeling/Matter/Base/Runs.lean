import Mathlib.Tactic.Ring

/-! Finite runs of a deterministic machine. A property of every reachable state
is proved once from its preservation, and a property that fails exactly on a
recognisable kind of step is characterised over whole runs. -/
namespace Matter.Runs
variable {S A : Type}

/-- The state after performing `ops` in order. -/
def run (step : S → A → S) (s : S) (ops : List A) : S :=
  ops.foldl step s

variable {step : S → A → S} {s : S}

@[simp] theorem run_nil : run step s [] = s := rfl

@[simp] theorem run_cons (a : A) (ops : List A) :
    run step s (a :: ops) = run step (step s a) ops := rfl

theorem run_append (first second : List A) :
    run step s (first ++ second) = run step (run step s first) second := by
  simp [run]

theorem run_concat (ops : List A) (a : A) : run step s (ops ++ [a]) = step (run step s ops) a := by
  rw [run_append, run_cons, run_nil]

/-- `P` holds initially and after each operation of the run. -/
def EveryState (step : S → A → S) (P : S → Prop) (s : S) (ops : List A) : Prop :=
  ∀ pre, pre <+: ops → P (run step s pre)

/-- Each operation of the run meets `guard` in the state it is performed in. -/
def EveryStep (step : S → A → S) (guard : S → A → Prop) (s : S) (ops : List A) : Prop :=
  ∀ pre a, pre ++ [a] <+: ops → guard (run step s pre) a

theorem everyStep_nil {guard : S → A → Prop} : EveryStep step guard s [] := by
  intro pre a within
  simp at within

theorem everyStep_cons {guard : S → A → Prop} (a : A) (ops : List A) :
    EveryStep step guard s (a :: ops) ↔ guard s a ∧ EveryStep step guard (step s a) ops := by
  constructor
  · intro along
    refine ⟨along [] a (by simp), fun pre b within => ?_⟩
    exact along (a :: pre) b (by simpa using within)
  · rintro ⟨head, tail⟩ pre b within
    cases pre with
    | nil =>
      obtain rfl : b = a := by simpa using within
      exact head
    | cons c pre =>
      obtain ⟨rfl, inner⟩ : c = a ∧ pre ++ [b] <+: ops := by simpa using within
      exact tail pre b inner

theorem everyState_cons (a : A) (ops : List A) :
    EveryState step P s (a :: ops) ↔ P s ∧ EveryState step P (step s a) ops := by
  constructor
  · intro every
    refine ⟨every [] List.nil_prefix, fun pre within => ?_⟩
    exact every (a :: pre) (by simpa using within)
  · rintro ⟨head, tail⟩ pre within
    cases pre with
    | nil => exact head
    | cons c pre =>
      obtain ⟨rfl, inner⟩ : c = a ∧ pre <+: ops := by simpa using within
      exact tail pre inner

/-- Induction over runs whose steps are restricted by `guard`. -/
theorem invariant_of_guard {P : S → Prop} {guard : S → A → Prop}
    (preserves : ∀ s a, P s → guard s a → P (step s a)) (initial : P s)
    (along : EveryStep step guard s ops) : P (run step s ops) := by
  induction ops generalizing s with
  | nil => exact initial
  | cons a ops ih =>
    obtain ⟨head, tail⟩ := (everyStep_cons a ops).mp along
    exact ih (preserves s a initial head) tail

/-- What such a run keeps holds in each of its states. -/
theorem everyState_of_guard {guard : S → A → Prop}
    (preserves : ∀ s a, P s → guard s a → P (step s a)) (initial : P s)
    (along : EveryStep step guard s ops) : EveryState step P s ops := by
  intro pre within
  refine invariant_of_guard preserves initial fun first a inside => ?_
  exact along first a (inside.trans within)

theorem EveryState.imp (every : EveryState step P s ops) (weaker : ∀ s, P s → Q s) :
    EveryState step Q s ops :=
  fun pre within => weaker _ (every pre within)

theorem invariant {P : S → Prop} (preserves : ∀ s a, P s → P (step s a))
    (initial : P s) (ops : List A) : P (run step s ops) := by
  have along : EveryStep step (fun _ _ => True) s ops := fun _ _ _ => trivial
  exact invariant_of_guard (fun s a held _ => preserves s a held) initial along

/-- Exactness: when a step from a good state stays good precisely if it meets
`guard`, a run is good throughout precisely if all its steps meet `guard`. -/
theorem everyState_iff_everyStep {Inv P : S → Prop} {guard : S → A → Prop}
    (preserves : ∀ s a, Inv s → Inv (step s a))
    (exact : ∀ s a, Inv s → P s → (P (step s a) ↔ guard s a))
    (inv : Inv s) (initial : P s) (ops : List A) :
    EveryState step P s ops ↔ EveryStep step guard s ops := by
  induction ops generalizing s with
  | nil =>
    constructor
    · exact fun _ => everyStep_nil
    · intro _ pre within
      obtain rfl : pre = [] := by simpa using within
      exact initial
  | cons a ops ih =>
    rw [everyState_cons, everyStep_cons]
    constructor
    · rintro ⟨_, every⟩
      have good : P (step s a) := every [] List.nil_prefix
      exact ⟨(exact s a inv initial).mp good, (ih (preserves s a inv) good).mp every⟩
    · rintro ⟨head, along⟩
      have good := (exact s a inv initial).mpr head
      exact ⟨initial, (ih (preserves s a inv) good).mpr along⟩

end Matter.Runs
