import Mathlib.Tactic.Ring

/-! Fallible code: what a successful run went through, and frame contracts for
the stateful kind. A frame covers the success and the error exit alike, so an
early return that has already written part of the state is not lost. Nothing here
refers to a particular program. -/
namespace Matter.Exits
variable {ε σ τ α β : Type}

theorem of_bind_ok {next : α → Except ε β} (ran : (m >>= next) = .ok b) :
    ∃ a, m = .ok a ∧ next a = .ok b := by
  cases m with
  | error e => cases ran
  | ok a => exact ⟨a, rfl, ran⟩

theorem bind_ok {next : α → Except ε β} :
    (m >>= next) = .ok b ↔ ∃ a, m = .ok a ∧ next a = .ok b := by
  constructor
  · exact of_bind_ok
  · rintro ⟨a, rfl, rest⟩
    exact rest

theorem of_bind_pure {f : α → β} {m : Except ε α} (ran : (m >>= fun a => pure (f a)) = .ok b) :
    ∃ a, m = .ok a ∧ f a = b := by
  obtain ⟨a, first, done⟩ := of_bind_ok ran
  exact ⟨a, first, Except.ok.inj done⟩

/-- A check, and a value that is read and kept. -/
theorem of_checked {f : β → γ} {read : Except ε β} {check : Except ε α}
    (ran : (check >>= fun _ => read >>= fun b => pure (f b)) = .ok c) :
    ∃ b, read = .ok b ∧ f b = c := by
  obtain ⟨_, _, ran⟩ := of_bind_ok ran
  exact of_bind_pure ran

theorem forall₂_of_mapM {f : α → Except ε β} (mapped : l.mapM f = .ok bs) :
    List.Forall₂ (fun a b => f a = .ok b) l bs := by
  induction l generalizing bs with
  | nil =>
    cases mapped
    exact .nil
  | cons a rest ih =>
    rw [List.mapM_cons] at mapped
    obtain ⟨b, first, mapped⟩ := of_bind_ok mapped
    obtain ⟨others, later, mapped⟩ := of_bind_ok mapped
    cases mapped
    exact .cons first (ih later)

theorem ok_of_isOk {m : Except ε α} (isOk : m.isOk = true) : ∃ a, m = .ok a := by
  cases m with
  | error e => cases isOk
  | ok a => exact ⟨a, rfl⟩

theorem throw_ne_ok (e : ε) (a : α) : (throw e : Except ε α) ≠ .ok a := nofun

theorem unless_throw_ok [Decidable p] :
    (if p then (throw e : Except ε α) >>= onward else rest) = .ok b ↔ ¬ p ∧ rest = .ok b := by
  by_cases left : p
  · rw [if_pos left]
    exact ⟨nofun, fun both => absurd left both.1⟩
  · rw [if_neg left]
    exact ⟨fun ran => ⟨left, ran⟩, fun both => both.2⟩

theorem throw_if_ok [Decidable p] :
    (if p then throw e else pure () : Except ε PUnit) = .ok u ↔ ¬ p := by
  by_cases left : p
  · rw [if_pos left]
    exact ⟨nofun, fun stays => absurd left stays⟩
  · rw [if_neg left]
    exact ⟨fun _ => left, fun _ => rfl⟩

theorem map_ok {m : Except ε α} : m.map f = .ok b ↔ ∃ a, m = .ok a ∧ f a = b := by
  cases m <;> simp [Except.map]

theorem mapError_ok {m : Except ε α} : m.mapError f = .ok a ↔ m = .ok a := by
  cases m <;> simp [Except.mapError]

/-- The state a computation leaves behind, whichever way it exits. -/
def final : EStateM.Result ε σ α → σ
  | .ok _ s => s
  | .error _ s => s

@[simp] theorem final_ok (a : α) (s : σ) : final (.ok a s : EStateM.Result ε σ α) = s := rfl

@[simp] theorem final_error (e : ε) (s : σ) : final (.error e s : EStateM.Result ε σ α) = s := rfl

@[simp] theorem run_throw (e : ε) (s : σ) :
    (throw e : EStateM ε σ α).run s = .error e s := rfl

@[simp] theorem run_map (f : α → β) (m : EStateM ε σ α) (s : σ) :
    (f <$> m).run s = match m.run s with
      | .ok a t => .ok (f a) t
      | .error e t => .error e t := rfl

theorem run_bind_ok {m : EStateM ε σ α} (ran : m.run s = .ok a t) :
    (m >>= next).run s = (next a).run t := by
  rw [EStateM.run_bind, ran]

theorem run_bind_error {m : EStateM ε σ α} (ran : m.run s = .error e t) :
    (m >>= next).run s = .error e t := by
  rw [EStateM.run_bind, ran]

/-- Two sequences agree when their parts do along the run. -/
theorem run_bind_congr {next next' : α → EStateM ε σ β} (first : m.run s = m'.run s)
    (rest : ∀ a t, m.run s = .ok a t → (next a).run t = (next' a).run t) :
    (m >>= next).run s = (m' >>= next').run s := by
  rw [EStateM.run_bind, EStateM.run_bind, ← first]
  cases ran : m.run s with
  | ok a t => exact rest a t ran
  | error e t => rfl

theorem of_run_bind_ok {m : EStateM ε σ α} (ran : (m >>= next).run s = .ok b u) :
    ∃ a t, m.run s = .ok a t ∧ (next a).run t = .ok b u := by
  rw [EStateM.run_bind] at ran
  cases first : m.run s with
  | ok a t =>
    rw [first] at ran
    exact ⟨a, t, rfl, ran⟩
  | error e t =>
    rw [first] at ran
    cases ran

/-- No exit of `m` loses `P`. -/
def Stable (P : σ → Prop) (m : EStateM ε σ α) : Prop :=
  ∀ s, P s → P (final (m.run s))

/-- No exit of `m` changes what `view` sees of the state. -/
def Keeps (view : σ → τ) (m : EStateM ε σ α) : Prop :=
  ∀ s, view (final (m.run s)) = view s

variable {P : σ → Prop}

theorem Stable.pure (a : α) : Stable P (Pure.pure a : EStateM ε σ α) :=
  fun _ held => held

theorem Stable.throw (e : ε) : Stable P (MonadExcept.throw e : EStateM ε σ α) :=
  fun _ held => held

theorem Stable.get : Stable P (get : EStateM ε σ σ) :=
  fun _ held => held

theorem Stable.modify (updates : ∀ s, P s → P (f s)) : Stable P (modify f : EStateM ε σ PUnit) :=
  fun s held => updates s held

theorem Stable.bind (first : Stable P m) (rest : ∀ a, Stable P (next a)) :
    Stable P (m >>= next) := by
  intro s held
  have head := first s held
  rw [EStateM.run_bind]
  cases ran : m.run s with
  | ok a t =>
    rw [ran] at head
    exact rest a t head
  | error e t =>
    rw [ran] at head
    exact head

end Matter.Exits
