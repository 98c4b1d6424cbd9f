import Mathlib.Data.List.Pairwise
import Matter.Codec.Canonical
import Matter.Codec.Members

/-! Records with one slot for each context tag. A parser that fills the slots of
a record from members in ascending order keeps the list of these members. -/
namespace Matter.Codec
open Value Exits

/-- The order of context tags. -/
def Tag.Before : Tag → Tag → Prop
  | .context a, .context b => a < b
  | _, _ => False

/-- Every member has a context tag above those of the members before it. -/
def Ascending (members : List (Tag × Value)) : Prop :=
  members.Pairwise fun first second => first.1.Before second.1

/-- The members of the slots that are filled. -/
def arranged (slots : List (UInt8 × Option Value)) : List (Tag × Value) :=
  slots.filterMap fun (tag, value) => value.map (Prod.mk (.context tag))

structure Fills (slots slots' : List (UInt8 × Option Value)) (tag : UInt8) (value : Value) :
    Prop where
  split : ∃ before old after, slots = before ++ (tag, old) :: after ∧
    slots' = before ++ (tag, some value) :: after

section Slots
variable {slots slots' : List (UInt8 × Option Value)} {tag : UInt8} {value : Value}

theorem Fills.of_set (i : Nat) (here : slots[i]? = some (tag, old))
    (set : slots' = slots.set i (tag, some value)) : Fills slots slots' tag value := by
  obtain ⟨bound, same⟩ := List.getElem?_eq_some_iff.mp here
  refine ⟨slots.take i, old, slots.drop (i + 1), ?_, ?_⟩
  · rw [← same, List.getElem_cons_drop, List.take_append_drop]
  · rw [set, List.set_eq_take_append_cons_drop, if_pos bound]

@[simp] theorem arranged_nil : arranged [] = [] := rfl

@[simp] theorem arranged_append (first second : List (UInt8 × Option Value)) :
    arranged (first ++ second) = arranged first ++ arranged second :=
  List.filterMap_append ..

theorem mem_arranged :
    member ∈ arranged slots ↔ ∃ tag value, (tag, some value) ∈ slots ∧
      member = (.context tag, value) := by
  simp only [arranged, List.mem_filterMap, Prod.exists, Option.map_eq_some_iff]
  constructor
  · rintro ⟨tag, _, found, value, rfl, rfl⟩
    exact ⟨tag, value, found, rfl⟩
  · rintro ⟨tag, value, found, rfl⟩
    exact ⟨tag, some value, found, value, rfl, rfl⟩

theorem ascending_arranged (sorted : (slots.map Prod.fst).Pairwise (· < ·)) :
    Ascending (arranged slots) := by
  rw [List.pairwise_map] at sorted
  refine List.Pairwise.filterMap _ ?_ sorted
  rintro ⟨a, first⟩ ⟨b, second⟩ below _ isFirst _ isSecond
  obtain ⟨_, _, rfl⟩ := Option.map_eq_some_iff.mp isFirst
  obtain ⟨_, _, rfl⟩ := Option.map_eq_some_iff.mp isSecond
  exact below

/-- A slot above all that are filled adds its member at the end. -/
theorem arranged_fill (sorted : (slots.map Prod.fst).Pairwise (· < ·))
    (fills : Fills slots slots' tag value)
    (above : ∀ member ∈ arranged slots, member.1.Before (.context tag)) :
    arranged slots' = arranged slots ++ [(.context tag, value)] := by
  obtain ⟨before, old, after, rfl, rfl⟩ := fills.split
  rw [List.map_append, List.map_cons, List.pairwise_append, List.pairwise_cons] at sorted
  have unfilled : ∀ {t v}, (t, some v) ∈ before ++ (tag, old) :: after → t < tag :=
    fun found => above _ (mem_arranged.mpr ⟨_, _, found, rfl⟩)
  have here : old = none := by
    cases old with
    | none => rfl
    | some v => exact absurd (unfilled (t := tag) (v := v) (by simp)) (UInt8.lt_irrefl _)
  have later : arranged after = [] := by
    refine List.eq_nil_iff_forall_not_mem.mpr fun member listed => ?_
    obtain ⟨t, v, found, rfl⟩ := mem_arranged.mp listed
    have below := unfilled (t := t) (v := v) (by simp [found])
    have beyond := sorted.2.1.1 t (List.mem_map_of_mem found)
    exact UInt8.lt_irrefl _ (UInt8.lt_trans below beyond)
  have single : ∀ first rest, arranged ((tag, first) :: rest) =
      (first.map (Prod.mk (.context tag))).toList ++ arranged rest := by
    intro first rest
    cases first <;> rfl
  rw [arranged_append, arranged_append, single, single, later, here]
  simp

theorem encodeMembers_arranged_cons (slot : Option Value) :
    encodeMembers (arranged ((tag, slot) :: slots)) =
      (slot.map (encode (.context tag))).getD [] ++ encodeMembers (arranged slots) := by
  cases slot <;> simp [arranged, encodeMembers]

end Slots

section Folds
variable {ε σ : Type} {scalar : σ → Tag → ValueRef → Except ε σ}
  {container : σ → Tag → ContainerKind → List (Tag × Value) → Except ε σ}

open TlvReader

theorem foldMembers_cons {rest : List (Tag × Value)}
    (ran : foldMembers scalar container s ((tag, value) :: rest) = .ok s') :
    ∃ middle, foldMembers scalar container middle rest = .ok s' ∧
      ((∃ ref, value = ofRef ref ∧ scalar s tag ref = .ok middle) ∨
        ∃ kind members, Permitted kind members ∧ value = ofMembers kind members ∧
          container s tag kind members = .ok middle) := by
  rw [foldMembers] at ran
  obtain ⟨ref, rfl⟩ | ⟨kind, members, permitted, rfl⟩ := value.eq_ofRef_or_ofMembers
  · rw [view_ofRef] at ran
    obtain ⟨middle, first, onward⟩ := of_bind_ok ran
    exact ⟨middle, onward, .inl ⟨ref, rfl, first⟩⟩
  · rw [view_ofMembers permitted] at ran
    obtain ⟨middle, first, onward⟩ := of_bind_ok ran
    exact ⟨middle, onward, .inr ⟨kind, members, permitted, rfl, first⟩⟩

theorem foldMembers_invariant {P : σ → Prop}
    (scalars : ∀ {s tag value s'}, scalar s tag value = .ok s' → P s → P s')
    (containers : ∀ {s tag kind members s'}, container s tag kind members = .ok s' → P s → P s')
    (ran : foldMembers scalar container s members = .ok s') (holds : P s) : P s' := by
  induction members generalizing s with
  | nil =>
    cases ran
    exact holds
  | cons member rest ih =>
    obtain ⟨middle, onward, ⟨_, _, step⟩ | ⟨_, _, _, _, step⟩⟩ := foldMembers_cons ran
    · exact ih onward (scalars step holds)
    · exact ih onward (containers step holds)

/-- A fold whose steps fill the slots of the members. -/
structure FillsSlots (scalar : σ → Tag → ValueRef → Except ε σ)
    (container : σ → Tag → ContainerKind → List (Tag × Value) → Except ε σ)
    (slots : σ → List (UInt8 × Option Value)) (good : Tag × Value → Prop) : Prop where
  sorted : ∀ s, ((slots s).map Prod.fst).Pairwise (· < ·)
  scalar : ∀ {s tag value s'}, good (tag, ofRef value) → scalar s tag value = .ok s' →
    ∃ t, tag = .context t ∧ Fills (slots s) (slots s') t (ofRef value)
  container : ∀ {s tag kind members s'}, good (tag, ofMembers kind members) →
    Permitted kind members → container s tag kind members = .ok s' →
    ∃ t, tag = .context t ∧ Fills (slots s) (slots s') t (ofMembers kind members)

/-- Such a fold over ascending members keeps the members. -/
theorem FillsSlots.arranged_eq (fills : FillsSlots scalar container slots good)
    (ran : foldMembers scalar container s members = .ok s') (each : ∀ member ∈ members, good member)
    (ascending : Ascending (arranged (slots s) ++ members)) :
    arranged (slots s') = arranged (slots s) ++ members := by
  induction members generalizing s with
  | nil =>
    cases ran
    exact (List.append_nil _).symm
  | cons member rest ih =>
    obtain ⟨tag, value⟩ := member
    obtain ⟨first, others⟩ := List.forall_mem_cons.mp each
    obtain ⟨middle, onward, step⟩ := foldMembers_cons ran
    have filled : ∃ t, tag = .context t ∧ Fills (slots s) (slots middle) t value := by
      obtain ⟨ref, rfl, step⟩ | ⟨kind, inner, permitted, rfl, step⟩ := step
      · exact fills.scalar first step
      · exact fills.container first permitted step
    obtain ⟨t, rfl, filled⟩ := filled
    have above := (List.pairwise_append.mp ascending).2.2
    have grown := arranged_fill (fills.sorted s) filled fun member found =>
      above member found _ List.mem_cons_self
    have split : arranged (slots s) ++ (Tag.context t, value) :: rest =
        arranged (slots middle) ++ rest := by
      rw [grown, List.append_assoc, List.singleton_append]
    rw [split] at ascending ⊢
    exact ih onward others ascending

end Folds

/-! What the reader keeps has no separators, and keeps the order. -/
namespace Value

theorem beforeIs1Members_eq_map (members : List (Tag × Value)) :
    beforeIs1Members members = members.map fun member => (member.1, member.2.beforeIs1) := by
  induction members with
  | nil => rfl
  | cons member rest ih => rw [beforeIs1Members, ih, List.map_cons]

theorem clean_beforeIs1 (value : Value) : value.beforeIs1.Clean := by
  induction value using ref_or_members with
  | ref value =>
    rw [beforeIs1_ofRef]
    cases value with
    | utf8 text => exact text.is1_notMem_beforeIs1
    | _ => simp [ValueRef.beforeIs1, ofRef, Clean]
  | members kind members permitted ih =>
    rw [beforeIs1_ofMembers, clean_ofMembers, cleanMembers_iff, beforeIs1Members_eq_map]
    intro _ listed
    obtain ⟨member, found, rfl⟩ := List.mem_map.mp listed
    exact ih member found

theorem cleanMembers_beforeIs1 (members : List (Tag × Value)) :
    CleanMembers (beforeIs1Members members) := by
  rw [cleanMembers_iff, beforeIs1Members_eq_map]
  intro _ found
  obtain ⟨member, _, rfl⟩ := List.mem_map.mp found
  exact clean_beforeIs1 member.2

theorem ascending_beforeIs1 (ascending : Ascending members) :
    Ascending (beforeIs1Members members) := by
  rw [beforeIs1Members_eq_map]
  exact List.pairwise_map.mpr ascending

end Value

end Matter.Codec
