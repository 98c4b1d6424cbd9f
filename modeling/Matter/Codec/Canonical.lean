import Matter.Codec.RoundTrip

/-! What the reader accepts. Re-encoding an accepted input is possible, never longer, and
reads back as the same tree. -/
namespace Matter.Codec
open Exits LittleEndian

namespace TlvReader
open Value

/-- What the metered loop over a container's children has added when it reaches the end
marker. -/
structure Collected (kind : ContainerKind) (r : TlvReader) (added : List (Tag × Value))
    (r' : TlvReader) : Prop where
  input : r'.input = r.input
  within : r'.InBounds
  depth : r'.depth + 1 = r.depth
  size : r.pos + (encodeMembers added).length + 1 ≤ r'.pos
  permitted : Permitted kind added
  clean : CleanMembers added
  nesting : r.depth ≤ maxDepth → r.depth + nestingMembers added ≤ maxDepth
  paid : countMembers added + r'.elementBudget = r.elementBudget

/-- A value lies between two positions of a reader, and its elements are paid for. -/
structure Took (r : TlvReader) (tag : Tag) (value : Value) (r' : TlvReader) : Prop where
  input : r'.input = r.input
  within : r'.InBounds
  depth : r'.depth = r.depth
  size : r.pos + (value.encode tag).length ≤ r'.pos
  clean : value.Clean
  nesting : r.depth ≤ maxDepth → r.depth + value.nesting ≤ maxDepth
  paid : value.count + r'.elementBudget = r.elementBudget

theorem Collected.cons (took : Took r tag value r₁) (allowed : ¬ (kind = .array ∧ tag ≠ .anonymous))
    (rest : Collected kind r₁ added r') : Collected kind r ((tag, value) :: added) r' := by
  refine ⟨rest.input.trans took.input, rest.within, rest.depth.trans took.depth, ?_, ?_,
    ⟨took.clean, rest.clean⟩, ?_, ?_⟩
  · have first := took.size
    have more := rest.size
    simp only [encodeMembers, List.length_append]
    omega
  · intro isArray member found
    cases found with
    | head =>
      by_contra tagged
      exact allowed ⟨isArray, tagged⟩
    | tail _ later => exact rest.permitted isArray member later
  · intro bound
    have first := took.nesting bound
    have more := rest.nesting (by rw [took.depth]; exact bound)
    rw [took.depth] at more
    simp only [nestingMembers]
    omega
  · have first := took.paid
    have more := rest.paid
    simp only [countMembers]
    omega

theorem chargeNow_sound (ran : chargeNow.run r = .ok () r') :
    ∃ left, r.elementBudget = left + 1 ∧ r' = r.funded left := by
  rw [chargeNow_run] at ran
  split at ran
  · cases ran
  · cases ran
    exact ⟨r.elementBudget - 1, by omega, rfl⟩

theorem meteredChild_sound (step : Accepted r element r₁)
    (ran : (meteredChild members element).run r₁ = .ok value r')
    (sound : ∀ {kind r children r'}, r.InBounds → (members kind).run r = .ok children r' →
      Collected kind r children r') : Took r element.tag value r' := by
  cases element with
  | containerEnd => cases ran
  | scalar tag ref =>
    obtain ⟨_, r₂, charged, rest⟩ := of_run_bind_ok ran
    obtain ⟨left, funds, rfl⟩ := chargeNow_sound charged
    cases rest
    obtain ⟨sameDepth, clean⟩ : r₁.depth = r.depth ∧ (ofRef ref).Clean := step.nests
    refine ⟨step.input, step.within, sameDepth, ?_, clean, ?_, ?_⟩
    · rw [encode_ofRef]
      exact step.size
    · rw [nesting_ofRef]
      exact id
    · rw [count_ofRef, ← step.budget, funds, Nat.add_comm]
      rfl
  | containerStart tag kind =>
    obtain ⟨_, r₂, charged, opened⟩ := of_run_bind_ok ran
    obtain ⟨left, funds, rfl⟩ := chargeNow_sound charged
    obtain ⟨children, r₃, ranMembers, rest⟩ := of_run_bind_ok opened
    cases rest
    have body : Collected kind (r₁.funded left) children r' := sound step.within ranMembers
    obtain ⟨deeper, shallow⟩ : r₁.depth = r.depth + 1 ∧ r.depth < maxDepth := step.nests
    have closed : r'.depth + 1 = r₁.depth := body.depth
    refine ⟨body.input.trans step.input, body.within, by omega, ?_,
      (clean_ofMembers kind children).mpr body.clean, ?_, ?_⟩
    · have header := step.size
      have inside : r₁.pos + (encodeMembers children).length + 1 ≤ r'.pos := body.size
      simp only [ElementRef.size] at header
      rw [encode_ofMembers _ body.permitted, enclose, List.length_append, List.length_append,
        List.length_singleton]
      simp only [ElementRef.tag]
      omega
    · have inside : r₁.depth ≤ maxDepth → r₁.depth + nestingMembers children ≤ maxDepth :=
        body.nesting
      rw [nesting_ofMembers body.permitted]
      omega
    · have inside : _ = left := body.paid
      rw [count_ofMembers body.permitted, ← step.budget, funds]
      omega

theorem meteredMembers_sound (bound : r.InBounds)
    (ran : (meteredMembers kind fuel acc).run r = .ok members r') :
    ∃ added, members = acc ++ added ∧ Collected kind r added r' := by
  induction fuel generalizing kind acc members r r' with
  | zero => cases ran
  | succ fuel ih =>
    have ranNext := ran
    obtain ⟨found, r₁, next, rest⟩ := of_run_bind_ok ranNext
    cases found with
    | none => cases rest
    | some element =>
      have step := nextRef_sound bound next
      by_cases ends : element = .containerEnd
      · subst ends
        cases rest
        have size := step.size
        exact ⟨[], (List.append_nil _).symm, step.input, step.within, step.nests, size, nofun,
          trivial, id, (Nat.zero_add _).trans step.budget⟩
      by_cases tagged : kind = .array ∧ element.tag ≠ .anonymous
      · rw [(@refused _ _ _ next ends kind true fuel 0 acc tagged).2] at ran
        cases ran
      rw [meteredMembers_child next ends tagged] at ran
      obtain ⟨value, r₂, ranChild, ranMore⟩ := of_run_bind_ok ran
      have took : Took r element.tag value r₂ := meteredChild_sound step ranChild fun bound ran => by
        obtain ⟨_, rfl, body⟩ := ih bound ran
        exact body
      obtain ⟨added, rfl, more⟩ := ih took.within ranMore
      exact ⟨(element.tag, value) :: added, by simp, .cons took tagged more⟩

theorem meteredValue_sound (bound : r.InBounds) (ran : meteredValue.run r = .ok (tag, value) r') :
    Took r tag value r' := by
  have ranNext := ran
  obtain ⟨found, r₁, next, rest⟩ := of_run_bind_ok ranNext
  cases found with
  | none => cases rest
  | some element =>
    by_cases ends : element = .containerEnd
    · subst ends
      cases rest
    rw [meteredValue_child next ends] at ran
    obtain ⟨_, r₂, ranChild, last⟩ := of_run_bind_ok ran
    cases last
    refine meteredChild_sound (nextRef_sound bound next) ranChild fun bound ran => ?_
    obtain ⟨_, rfl, body⟩ := meteredMembers_sound bound ran
    exact body

/-- What `read_value` returns has no more elements than it may read, counted or not. -/
theorem readValue_sound (bound : r.InBounds) (ran : readValue.run r = .ok (tag, value) r') :
    ∃ left, Took r tag value (r'.funded left) := by
  obtain ⟨a, s, left, free, metered, _⟩ | ⟨e, s, left, failed, _⟩ :=
    readValue_metered bound (.inl rfl)
  · cases ran.symm.trans free
    exact ⟨left, meteredValue_sound bound metered⟩
  · cases ran.symm.trans failed

/-- What `read_value` accepts re-encodes to no more bytes than it was read from,
and the new encoding reads back as the same tagged tree. -/
theorem writeValue_readValue {input : Octets} {tag : Tag} {value : Value} {r : TlvReader}
    (accepted : readValue.run (new input) = .ok (tag, value) r) :
    ∃ output : Octets, (TlvWriter.writeValue tag value).run [] = .ok () output.bytes ∧
      output.bytes.length ≤ r.pos ∧
      ∃ r', readValue.run (new output) = .ok (tag, value) r' ∧
        r'.pos = output.bytes.length ∧ r'.depth = 0 := by
  obtain ⟨left, decoded⟩ := readValue_sound (inBounds_new input) accepted
  have size : (value.encode tag).length ≤ r.pos := (Nat.zero_add _).symm.trans_le decoded.size
  have within : r.pos ≤ input.bytes.length := by
    have inside := decoded.within
    rw [InBounds, decoded.input] at inside
    exact inside
  have shallow : value.nesting ≤ maxDepth :=
    (Nat.zero_add _).symm.trans_le (decoded.nesting (Nat.zero_le _))
  have few : value.count ≤ defaultElementBudget := Nat.le_of_add_right_le decoded.paid.le
  have addressable : (value.encode tag).length < allocLimit :=
    Nat.lt_of_le_of_lt (size.trans within) input.addressable
  let output : Octets := ⟨value.encode tag, addressable⟩
  have here : output.bytes = value.encode tag ++ [] := (List.append_nil _).symm
  obtain ⟨r', run, _, moved, depth⟩ := (readValue_new here).good
    ((Nat.zero_add _).trans_le shallow) few
  rw [beforeIs1_eq decoded.clean] at run
  exact ⟨output, (TlvWriter.writeValue_writes tag value).shallow shallow [], size, r', run,
    moved.trans (Nat.zero_add _), depth⟩

/-- A structure that spells a tag, a number and a string length wider than the
writer would, with text behind a separator, and bytes behind its end. -/
def wideInput : Octets :=
  ⟨[0x15, 0x65, 7, 0, 0, 0, 5, 0, 0x2d, 1, 4, 0, 0x68, 0x69, 0x1f, 0x78, 0x18, 0xff], by decide⟩

theorem writeValue_readValue_wide :
    ∃ value r, readValue.run (new wideInput) = .ok (.anonymous, value) r ∧ r.pos = 17 ∧
      ∃ output : Octets, (TlvWriter.writeValue .anonymous value).run [] = .ok () output.bytes ∧
        output.bytes.length ≤ r.pos ∧
        ∃ r', readValue.run (new output) = .ok (.anonymous, value) r' ∧
          r'.pos = output.bytes.length ∧ r'.depth = 0 := by
  have accepted : readValue.run (new wideInput) = .ok (.anonymous, _) _ := rfl
  exact ⟨_, _, accepted, rfl, writeValue_readValue accepted⟩

end TlvReader
end Matter.Codec
