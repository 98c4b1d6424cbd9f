import Mathlib.Data.Finmap
import Mathlib.Data.List.Dedup

/-! Finite maps as association lists with distinct keys, and the order in which a
hash map is iterated. That order is not fixed by the map: a traversal is given a
hint. -/
namespace Matter

abbrev Table (κ ν : Type) := AList fun _ : κ => ν

namespace Table
variable {κ ν : Type} [DecidableEq κ]

/-- The keys named by `hint` in its order, then the others. -/
def arrange (hint keys : List κ) : List κ :=
  hint.dedup.filter (· ∈ keys) ++ keys.filter (· ∉ hint)

@[simp] theorem mem_arrange {a : κ} : a ∈ arrange hint keys ↔ a ∈ keys := by
  simp only [arrange, List.mem_append, List.mem_filter, List.mem_dedup, decide_eq_true_eq]
  by_cases named : a ∈ hint <;> simp [named]

theorem nodup_arrange {hint keys : List κ} (distinct : keys.Nodup) : (arrange hint keys).Nodup := by
  apply List.Nodup.append
  · exact (List.nodup_dedup hint).filter _
  · exact distinct.filter _
  · intro a first second
    simp only [List.mem_filter, List.mem_dedup, decide_eq_true_eq] at first second
    exact second.2 first.1

theorem arrange_perm {hint keys : List κ} (distinct : keys.Nodup) :
    (arrange hint keys).Perm keys :=
  (List.perm_ext_iff_of_nodup (nodup_arrange distinct) distinct).mpr fun _ => mem_arrange

variable {t : Table κ ν} {a : κ} {b : ν}

theorem lookup_eq_some : t.lookup a = some b ↔ ⟨a, b⟩ ∈ t.entries :=
  AList.mem_lookup_iff

theorem mem_iff_entry : a ∈ t ↔ ∃ b, ⟨a, b⟩ ∈ t.entries := by
  rw [← AList.lookup_isSome, Option.isSome_iff_exists]
  simp [lookup_eq_some]

/-- Taking out the entry under a key. -/
theorem entries_perm_of_lookup (found : t.lookup a = some b) :
    t.entries.Perm (⟨a, b⟩ :: (t.erase a).entries) := by
  have member : a ∈ t.entries.keys := List.mem_keys_of_mem (lookup_eq_some.mp found)
  obtain ⟨b', front, back, _, whole, erased⟩ := List.exists_of_kerase member
  have entry : t.lookup a = some b' := by
    apply lookup_eq_some.mpr
    rw [whole]
    simp
  obtain rfl : b' = b := by
    rw [entry] at found
    exact Option.some.inj found
  have rest : (t.erase a).entries = front ++ back := erased
  rw [rest, whole]
  exact List.perm_middle

theorem erase_of_lookup_none (missing : t.lookup a = none) : t.erase a = t := by
  apply AList.ext
  exact List.kerase_of_notMem_keys (AList.lookup_eq_none.mp missing)

theorem mem_entries_erase : e ∈ (t.erase a).entries ↔ e.1 ≠ a ∧ e ∈ t.entries := by
  obtain ⟨k, v⟩ := e
  rw [← lookup_eq_some, ← lookup_eq_some]
  by_cases same : k = a
  · subst same
    simp
  · rw [AList.lookup_erase_ne same]
    exact ⟨fun found => ⟨same, found⟩, fun found => found.2⟩

theorem mem_entries_insert :
    e ∈ (t.insert a b).entries ↔ e = ⟨a, b⟩ ∨ (e.1 ≠ a ∧ e ∈ t.entries) := by
  rw [← mem_entries_erase]
  exact List.mem_cons

theorem entries_insert : (t.insert a b).entries = ⟨a, b⟩ :: (t.erase a).entries := rfl

theorem mem_entries_eraseAll {ks : List κ} :
    e ∈ (ks.foldl (fun t k => t.erase k) t).entries ↔ e.1 ∉ ks ∧ e ∈ t.entries := by
  induction ks generalizing t with
  | nil => simp
  | cons k ks ih =>
    rw [List.foldl_cons, ih, mem_entries_erase, List.mem_cons, not_or]
    tauto

theorem lookup_eraseAll (ks : List κ) (t : Table κ ν) (a : κ) :
    (ks.foldl (fun t k => t.erase k) t).lookup a = if a ∈ ks then none else t.lookup a := by
  induction ks generalizing t with
  | nil => simp
  | cons k ks ih =>
    rw [List.foldl_cons, ih]
    by_cases later : a ∈ ks
    · simp [later]
    · by_cases same : a = k
      · subst same
        simp [later]
      · simp [later, same, AList.lookup_erase_ne same]

omit [DecidableEq κ] in
theorem nodup_entries (t : Table κ ν) : t.entries.Nodup :=
  t.nodupKeys.nodup

theorem length_keys_insert (t : Table κ ν) (a : κ) (b : ν) :
    (t.insert a b).keys.length = if a ∈ t then t.keys.length else t.keys.length + 1 := by
  rw [AList.keys_insert, List.length_cons]
  split
  · rename_i present
    have listed : a ∈ t.keys := AList.mem_keys.mp present
    rw [List.length_erase_of_mem listed]
    have := List.length_pos_of_mem listed
    omega
  · rename_i absent
    rw [List.erase_of_not_mem fun listed => absent (AList.mem_keys.mpr listed)]

theorem length_keys_erase (t : Table κ ν) (a : κ) :
    (t.erase a).keys.length = if a ∈ t then t.keys.length - 1 else t.keys.length := by
  rw [AList.keys_erase]
  split
  · rename_i present
    exact List.length_erase_of_mem (AList.mem_keys.mp present)
  · rename_i absent
    rw [List.erase_of_not_mem fun listed => absent (AList.mem_keys.mpr listed)]

theorem mem_of_lookup (found : t.lookup a = some b) : a ∈ t := by
  rw [← AList.lookup_isSome, found]
  rfl

/-- Keep the entries that meet a condition. -/
def retain (keep : κ → ν → Bool) (t : Table κ ν) : Table κ ν where
  entries := t.entries.filter fun e => keep e.1 e.2
  nodupKeys := t.nodupKeys.sublist List.filter_sublist

omit [DecidableEq κ] in
@[simp] theorem mem_entries_retain :
    e ∈ (t.retain keep).entries ↔ e ∈ t.entries ∧ keep e.1 e.2 = true :=
  List.mem_filter

end Table
end Matter
