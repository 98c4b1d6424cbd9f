import Matter.Codec.Parsing

/-! The strict close. A reader that has opened the first container of its input and is
then finished has seen one complete element of the grammar and nothing else. -/
namespace Matter.Codec
open Exits

/-- An element that opens a container is cut at its header in one way. -/
theorem Nested.tail (nested : Nested (n + 1) element) (tagged : tag.length = form.size)
    (written : element = controlOctet form (.container kind) :: tag ++ rest) : IsTail n rest := by
  cases nested with
  | scalar _ valid =>
    obtain ⟨_, rfl⟩ := controlOctet_inj (List.cons.inj written).1
    exact valid.elim
  | container tagged' inner =>
    obtain ⟨control, bytes⟩ := List.cons.inj written
    obtain ⟨rfl, _⟩ := controlOctet_inj control
    exact ⟨_, (List.append_inj bytes (tagged'.trans tagged.symm)).2.symm, inner⟩

namespace TlvReader

/-- The two results of `next` that a strict close depends on. -/
theorem nextRef_inversion (bound : r.InBounds) (ran : nextRef.run r = .ok found r') :
    (found = none → r.isEmpty = true) ∧ ∀ tag kind, found = some (.containerStart tag kind) →
      ∃ form bytes, bytes.length = TagControl.size form ∧
        r.rest = controlOctet form (.container kind) :: bytes ++ r'.rest := by
  rw [nextRef, run_bind_ok (EStateM.run_get _)] at ran
  split at ran
  · rename_i empty
    cases ran
    exact ⟨fun _ => empty, by simp⟩
  obtain ⟨control, r₁, byteRan, restRan⟩ := of_run_bind_ok ran
  simp only at restRan
  split at restRan
  · split at restRan
    · cases restRan
    split at restRan
    · cases restRan
    cases restRan
    exact ⟨by simp, by simp⟩
  obtain ⟨_, r₂, tagRan, bodyRan⟩ := of_run_bind_ok restRan
  obtain ⟨_, ⟨form, bytes, tagged, written⟩, here, _⟩ := header_takes bound byteRan tagRan
  rw [nextTagged, run_bind_ok (EStateM.run_get _)] at bodyRan
  cases opens : containerKind (control &&& elementTypeMask) with
  | none =>
    rw [opens] at bodyRan
    obtain ⟨_, _, _, rest⟩ := of_run_bind_ok bodyRan
    cases rest
    exact ⟨by simp, by simp⟩
  | some kind =>
    rw [opens] at bodyRan
    simp only at bodyRan
    split at bodyRan
    · cases bodyRan
    cases bodyRan
    rw [written _ (containerKind_some opens)] at here
    refine ⟨by simp, ?_⟩
    rintro _ _ ⟨⟩
    exact ⟨form, bytes, tagged, here⟩

theorem finish_iff (bound : r.InBounds) (opened : r.depth = 1) :
    (∃ r', finish.run r = .ok () r') ↔ IsTail (maxDepth - 1) r.rest := by
  constructor
  · rintro ⟨r', ran⟩
    rw [finish, run_bind_ok (EStateM.run_get _), opened] at ran
    obtain ⟨_, r₁, closeRan, restRan⟩ := of_run_bind_ok ran
    obtain ⟨_, r₂, skipRan, modifyRan⟩ := of_run_bind_ok closeRan
    obtain ⟨_, tail, shape, here⟩ := skipContainerBody_takes bound skipRan
    cases modifyRan
    rw [run_bind_ok (EStateM.run_get _)] at restRan
    split at restRan
    · rename_i empty
      have none : r₂.rest = [] := List.drop_eq_nil_iff.mpr (of_decide_eq_true empty)
      rw [here, none, List.append_nil, ← opened]
      exact shape
    · cases restRan
  · rintro ⟨members, same, each⟩
    have closes := closes_nested (d := 1) each (Nat.le_refl _)
    apply ClosesAll.finish _ bound
    rw [opened, same, ← List.append_nil (_ ++ _)]
    exact .cons closes .nil

/-- Read the first element, then finish. -/
def strict : ReaderM Unit := do
  let _ ← nextRef
  finish

theorem parseWhole_strict (opens : nextRef.run (new b) = .ok (some element) r) :
    parseWhole strict b = .ok () ↔ ∃ r', finish.run r = .ok () r' := by
  rw [parseWhole_ok]
  exact ⟨fun ⟨r', ran⟩ => ⟨r', (run_bind_ok opens).symm.trans ran⟩,
    fun ⟨r', ran⟩ => ⟨r', (run_bind_ok opens).trans ran⟩⟩

/-- Before more input the first element is the same, and what follows the container is left. -/
theorem strict_longer (opens : nextRef.run (new b) = .ok (some element) r)
    (accepted : parseWhole strict b = .ok ()) (extends_ : b.bytes <+: longer.bytes)
    (differs : longer.bytes ≠ b.bytes) : parseWhole strict longer = .error .trailingData := by
  have settled := nextRef_settled (Nat.zero_le _) opens
  obtain ⟨r', ran⟩ := (parseWhole_strict opens).mp accepted
  have same : r.input = b := settled.onward.input
  have more : b.bytes.length < longer.bytes.length := by
    refine Nat.lt_of_le_of_ne extends_.length_le fun length => differs ?_
    exact (extends_.eq_of_length length).symm
  obtain ⟨s, failed⟩ := finish_longer settled.onward.within ran (same ▸ extends_) (same ▸ more)
  have first : nextRef.run (new longer) = _ := settled.again longer extends_
  have whole : strict.run (new longer) = _ := (run_bind_ok first).trans failed
  rw [parseWhole, whole]

theorem strict_close (b : Octets) (tag : Tag) (kind : ContainerKind) (r : TlvReader)
    (opens : nextRef.run (new b) = .ok (some (.containerStart tag kind)) r) :
    (parseWhole strict b = .ok () ↔ Nested maxDepth b.bytes) ∧
      (parseWhole strict b = .ok () →
        (∀ cut : Octets, cut.bytes <+: b.bytes → cut.bytes ≠ b.bytes → cut.bytes ≠ [] →
          ∃ e, parseWhole strict cut = .error e) ∧
        ∀ longer : Octets, b.bytes <+: longer.bytes → longer.bytes ≠ b.bytes →
          parseWhole strict longer = .error .trailingData) := by
  have start : (new b).InBounds := Nat.zero_le _
  have accepted := nextRef_sound start opens
  obtain ⟨form, bytes, tagged, written⟩ := (nextRef_inversion start opens).2 tag kind rfl
  refine ⟨?_, fun whole => ⟨fun cut within differs filled => ?_, fun longer => strict_longer opens whole⟩⟩
  · rw [parseWhole_strict opens, finish_iff accepted.within accepted.nests.1]
    constructor
    · rintro ⟨members, same, each⟩
      rw [show b.bytes = _ from written, same]
      exact .container tagged each
    · intro nested
      exact nested.tail tagged written
  · cases verdict : parseWhole strict cut with
    | error e => exact ⟨e, rfl⟩
    | ok _ =>
      obtain ⟨r', ran⟩ := parseWhole_ok.mp verdict
      obtain ⟨found, r₁, first, _⟩ := of_run_bind_ok ran
      cases found with
      | none =>
        have empty := (nextRef_inversion (Nat.zero_le _) first).1 rfl
        exact absurd (List.eq_nil_of_length_eq_zero (Nat.le_zero.mp (of_decide_eq_true empty))) filled
      | some element =>
        have failed := strict_longer first verdict within differs.symm
        rw [whole] at failed
        cases failed

def emptyStruct : Octets := ⟨[0x15, 0x18], by decide⟩

def flagStruct : Octets := ⟨[0x15, 0x29, 0x00, 0x18], by decide⟩

theorem strict_close_flagStruct :
    Nested maxDepth flagStruct.bytes ∧
      ∀ longer : Octets, flagStruct.bytes <+: longer.bytes → longer.bytes ≠ flagStruct.bytes →
        parseWhole strict longer = .error .trailingData := by
  have whole : parseWhole strict flagStruct = .ok () := by decide +kernel
  obtain ⟨nested, refuses⟩ := strict_close flagStruct .anonymous .struct _ rfl
  exact ⟨nested.mp whole, (refuses whole).2⟩

/-- An input without a first element is finished too. -/
theorem strict_accepts_nothing :
    parseWhole strict emptyStruct = .ok () ∧
      ¬ ∀ cut : Octets, cut.bytes <+: emptyStruct.bytes → cut.bytes ≠ emptyStruct.bytes →
        ∃ e, parseWhole strict cut = .error e := by
  refine ⟨by decide +kernel, fun refuses => ?_⟩
  obtain ⟨e, failed⟩ := refuses ⟨[], by decide⟩ List.nil_prefix (by decide)
  cases failed

end TlvReader
end Matter.Codec
