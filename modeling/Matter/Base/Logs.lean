import Mathlib.Data.List.Forall2
import Mathlib.Data.List.Induction
import Matter.Base.Runs

/-! The log of a run: an event for every operation, made from the state it was
performed in. `Along` says that a log has events of given kinds in a given order;
it survives later events, so what a machine must have done before it acts is
proved by following the milestones one at a time. -/
namespace Matter.Logs
open Runs
variable {S A E : Type}

/-- The events of performing `ops` in order. -/
def log (step : S → A → S) (event : S → A → E) : S → List A → List E
  | _, [] => []
  | s, a :: ops => event s a :: log step event (step s a) ops

variable {step : S → A → S} {event : S → A → E} {s : S}

theorem log_append (first second : List A) :
    log step event s (first ++ second) =
      log step event s first ++ log step event (run step s first) second := by
  induction first generalizing s with
  | nil => rfl
  | cons a first ih => rw [List.cons_append, log, ih, log, run_cons, List.cons_append]

theorem log_concat (ops : List A) (a : A) :
    log step event s (ops ++ [a]) = log step event s ops ++ [event (run step s ops) a] := by
  rw [log_append]
  rfl

/-- An event of the log is the event of an operation, and the events before it
are those of the operations before that one. -/
theorem log_split (split : log step event s ops = earlier ++ e :: later) :
    ∃ pre a post, ops = pre ++ a :: post ∧ earlier = log step event s pre ∧
      e = event (run step s pre) a := by
  induction ops generalizing s earlier with
  | nil => simp [log] at split
  | cons a ops ih =>
    cases earlier with
    | nil =>
      cases split
      exact ⟨[], a, ops, rfl, rfl, rfl⟩
    | cons first earlier =>
      obtain ⟨rfl, rest⟩ := List.cons.inj split
      obtain ⟨pre, b, post, rfl, rfl, rfl⟩ := ih rest
      exact ⟨a :: pre, b, post, rfl, rfl, rfl⟩

theorem mem_log (first : List A) (a : A) (rest : List A) :
    event (run step s first) a ∈ log step event s (first ++ a :: rest) := by
  rw [log_append, log]
  exact List.mem_append_right _ List.mem_cons_self

/-- Induction over runs with their logs. -/
theorem invariant {P : List E → S → Prop}
    (preserves : ∀ l s a, P l s → P (l ++ [event s a]) (step s a)) (initial : P [] s)
    (ops : List A) : P (log step event s ops) (run step s ops) := by
  induction ops using List.reverseRecOn with
  | nil => exact initial
  | append_singleton ops a ih =>
    rw [log_concat, run_concat]
    exact preserves _ _ a ih

/-- The log has events of the given kinds, in this order. -/
def Along (kinds : List (E → Prop)) (l : List E) : Prop :=
  ∃ events, events.Sublist l ∧ List.Forall₂ (fun kind e => kind e) kinds events

namespace Along
variable {kinds : List (E → Prop)} {l : List E}

theorem nil : Along [] l := ⟨[], List.nil_sublist l, .nil⟩

theorem extend (along : Along kinds l) (more : List E) : Along kinds (l ++ more) := by
  obtain ⟨events, within, each⟩ := along
  exact ⟨events, within.trans (List.sublist_append_left l more), each⟩

theorem concat (along : Along kinds l) (here : kind e) : Along (kinds ++ [kind]) (l ++ [e]) := by
  obtain ⟨events, within, each⟩ := along
  exact ⟨events ++ [e], within.append (List.Sublist.refl [e]), List.rel_append each (.cons here .nil)⟩

theorem of_append (along : Along (first ++ second) l) : Along first l := by
  obtain ⟨events, within, each⟩ := along
  refine ⟨events.take first.length, (List.take_sublist _ _).trans within, ?_⟩
  have taken := List.forall₂_take first.length each
  rwa [List.take_left'] at taken
  rfl

theorem next (along : Along (kinds.take n) l) (following : kinds[n]? = some kind) (here : kind e) :
    Along (kinds.take (n + 1)) (l ++ [e]) := by
  have grown := along.concat here
  rwa [List.take_add_one, following, Option.toList_some]

theorem take_of_le (along : Along (kinds.take n) l) (le : m ≤ n) : Along (kinds.take m) l := by
  have split : kinds.take n = kinds.take m ++ (kinds.take n).drop m := by
    nth_rewrite 1 [← List.take_append_drop m (kinds.take n)]
    rw [List.take_take, Nat.min_eq_left le]
  rw [split] at along
  exact along.of_append

/-- All milestones but the last were reached before the last event. -/
theorem of_concat (along : Along (kinds ++ [kind]) (l ++ [e])) : Along kinds l := by
  obtain ⟨events, within, each⟩ := along
  obtain ⟨first, last, rfl, firstWithin, lastWithin⟩ := List.sublist_append_iff.mp within
  have size := each.length_eq
  have lastSize := lastWithin.length_le
  simp only [List.length_append, List.length_singleton] at size lastSize
  have taken := List.forall₂_take kinds.length each
  rw [List.take_left' rfl, List.take_append_of_le_length (by omega)] at taken
  exact ⟨first.take kinds.length, (List.take_sublist _ _).trans firstWithin, taken⟩

theorem imp (along : Along kinds l)
    (weaker : List.Forall₂ (fun kind kind' => ∀ e, kind e → kind' e) kinds kinds') :
    Along kinds' l := by
  obtain ⟨events, within, each⟩ := along
  refine ⟨events, within, ?_⟩
  clear within
  induction weaker generalizing events with
  | nil => exact each
  | cons head tail ih =>
    cases each with
    | cons here each => exact .cons (head _ here) (ih _ each)

theorem exists_of_mem (along : Along kinds l) (mem : kind ∈ kinds) : ∃ e ∈ l, kind e := by
  obtain ⟨events, within, each⟩ := along
  induction each with
  | nil => cases mem
  | cons here each ih =>
    rcases List.mem_cons.mp mem with rfl | later
    · exact ⟨_, within.subset List.mem_cons_self, here⟩
    · exact ih later ((List.sublist_cons_self _ _).trans within)

end Along

end Matter.Logs
