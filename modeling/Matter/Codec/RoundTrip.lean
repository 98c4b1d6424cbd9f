import Matter.Codec.Budget

/-! Reading back what the writer wrote. The reader inverts the encoding of every
tree up to the text behind IS1 separators, stops right behind it, and refuses
the trees that nest too deep, which are the trees the writer refuses, and those that
have more elements than it may read. -/
namespace Matter.Codec
open Exits

namespace TlvReader
open Value

/-- What becomes of something at depth `d` that nests so deep and has so many elements, with a budget
of `b` elements: it is good, or it fails at the first element that is too deep or too many. -/
structure Judged (d b nesting count : Nat) (good : Prop) (fails : Error → Prop) : Prop where
  good : d + nesting ≤ maxDepth → count ≤ b → good
  deep : maxDepth < d + nesting → count ≤ b → fails .containerTooDeep
  spent : d + nesting ≤ maxDepth → b < count → fails .elementBudgetExceeded

namespace Judged
variable {good good' : Prop} {fails fails' : Error → Prop}

theorem seq (first : Judged d b n c good fails) (stops : ∀ e, fails e → fails' e)
    (rest : good → Judged d (b - c) n' c' good' fails') :
    Judged d b (max n n') (c + c') good' fails' := by
  constructor
  · intro shallow paid
    exact (rest (first.good (by omega) (by omega))).good (by omega) (by omega)
  · intro deep paid
    by_cases here : d + n ≤ maxDepth
    · exact (rest (first.good here (by omega))).deep (by omega) (by omega)
    · exact stops _ (first.deep (by omega) (by omega))
  · intro shallow many
    by_cases paid : c ≤ b
    · exact (rest (first.good (by omega) paid)).spent (by omega) (by omega)
    · exact stops _ (first.spent (by omega) (by omega))

theorem nest (full : maxDepth ≤ d → fails .containerTooDeep)
    (broke : d < maxDepth → b = 0 → fails .elementBudgetExceeded)
    (inside : ∀ left, d < maxDepth → b = left + 1 → Judged (d + 1) left n c good fails) :
    Judged d b (1 + n) (1 + c) good fails := by
  constructor
  · intro shallow paid
    exact (inside (b - 1) (by omega) (by omega)).good (by omega) (by omega)
  · intro deep paid
    by_cases here : maxDepth ≤ d
    · exact full here
    · exact (inside (b - 1) (by omega) (by omega)).deep (by omega) (by omega)
  · intro shallow many
    by_cases empty : b = 0
    · exact broke (by omega) empty
    · exact (inside (b - 1) (by omega) (by omega)).spent (by omega) (by omega)

theorem imp (judged : Judged d b n c good fails) (better : d + n ≤ maxDepth → c ≤ b → good → good')
    (worse : ∀ e, fails e → fails' e) : Judged d b n c good' fails' :=
  ⟨fun shallow paid => better shallow paid (judged.good shallow paid),
    fun deep paid => worse _ (judged.deep deep paid),
    fun shallow many => worse _ (judged.spent shallow many)⟩

end Judged

/-- The metered loop of a container of `kind` in front of the encoding of its members. -/
def ReadsBack (fuel : Nat) : Prop :=
  ∀ (acc : List (Tag × Value)) {kind : ContainerKind} {members : List (Tag × Value)}
    {r : TlvReader} {tail : Bytes}, r.InBounds →
    r.rest = encodeMembers members ++ ElementType.endOfContainer.code :: tail →
    Permitted kind members → r.remaining < fuel → 0 < r.depth → r.depth ≤ maxDepth →
    Judged r.depth r.elementBudget (nestingMembers members) (countMembers members)
      (∃ r', (meteredMembers kind fuel acc).run r = .ok (acc ++ beforeIs1Members members) r' ∧
        Moved r r' ((encodeMembers members).length + 1) (r.depth - 1)
          (r.elementBudget - countMembers members))
      fun e => ∃ r', (meteredMembers kind fuel acc).run r = .error e r'

/-- The next element is part of a value under `tag`, and what follows it has this outcome. -/
def Child (fuel : TlvReader → Nat) (r : TlvReader) (tag : Tag)
    (outcome : EStateM.Result Error TlvReader Value) : Prop :=
  ∃ element r₁, nextRef.run r = .ok (some element) r₁ ∧ element ≠ .containerEnd ∧
    element.tag = tag ∧
    (meteredChild (fun kind => meteredMembers kind (fuel r₁) []) element).run r₁ = outcome

theorem child_judged {value : Value} (back : ∀ r₁, ReadsBack (fuel r₁))
    (fueled : ∀ r₁, r₁.remaining < r.remaining → r₁.remaining < fuel r₁) (bound : r.InBounds)
    (here : r.rest = value.encode tag ++ tail) (opened : r.depth ≤ maxDepth) :
    Judged r.depth r.elementBudget value.nesting value.count
      (∃ r', Child fuel r tag (.ok value.beforeIs1 r') ∧
        Moved r r' (value.encode tag).length r.depth (r.elementBudget - value.count))
      fun e => (∃ r', nextRef.run r = .error e r') ∨ ∃ r', Child fuel r tag (.error e r') := by
  obtain ⟨ref, rfl⟩ | ⟨kind, members, permitted, rfl⟩ := value.eq_ofRef_or_ofMembers
  · rw [encode_ofRef] at here
    obtain ⟨r₁, next, moved⟩ := nextRef_scalar bound here
    have charged := chargeNow_run r₁
    rw [moved.budget] at charged
    rw [nesting_ofRef, count_ofRef, encode_ofRef, beforeIs1_ofRef]
    refine ⟨fun _ paid => ?_, fun deep => by omega, fun _ spent => ?_⟩
    · rw [if_neg (by omega)] at charged
      exact ⟨_, ⟨_, _, next, by simp, rfl, run_bind_ok charged⟩, moved.input, moved.pos, moved.depth,
        rfl⟩
    · rw [if_pos (by omega)] at charged
      exact .inr ⟨_, _, _, next, by simp, rfl, run_bind_error charged⟩
  · rw [encode_ofMembers tag permitted, enclose] at here ⊢
    simp only [List.append_assoc] at here
    rw [nesting_ofMembers permitted, count_ofMembers permitted]
    refine .nest (fun full => ?_) (fun shallow empty => ?_) fun left shallow funds => ?_
    · obtain ⟨r', failed⟩ := nextRef_tooDeep bound here full
      exact .inl ⟨r', failed⟩
    · obtain ⟨r₁, next, moved⟩ := nextRef_start bound here shallow
      have charged := (chargeNow_run r₁).trans (if_pos (moved.budget.trans empty))
      exact .inr ⟨_, _, _, next, by simp, rfl, run_bind_error charged⟩
    · obtain ⟨r₁, next, moved⟩ := nextRef_start bound here shallow
      have charged := chargeNow_run r₁
      rw [moved.budget, funds, if_neg (Nat.succ_ne_zero left)] at charged
      have inside : Moved r (r₁.funded left) _ (r.depth + 1) left :=
        ⟨moved.input, moved.pos, moved.depth, rfl⟩
      have shorter := fueled r₁ ((nextRef_sound bound next).remaining_lt (Nat.lt_succ_self _))
      have judged := back r₁ [] (inside.inBounds bound here) (inside.rest_eq here) permitted shorter
        (by rw [inside.depth]; omega) (by rw [inside.depth]; omega)
      rw [inside.depth, inside.budget] at judged
      refine judged.imp (fun _ _ read => ?_) fun e failed => ?_
      · obtain ⟨r₂, run, closed⟩ := read
        have whole := inside.trans closed
        refine ⟨r₂, ⟨_, _, next, by simp, rfl, ?_⟩, whole.input, ?_, ?_, ?_⟩
        · rw [meteredChild, run_bind_ok charged]
          exact (run_bind_ok run).trans (by rw [beforeIs1_ofMembers]; rfl)
        · rw [whole.pos]
          simp
        · rw [whole.depth, Nat.add_sub_cancel]
        · rw [whole.budget]
          omega
      · obtain ⟨r₂, failed⟩ := failed
        refine .inr ⟨r₂, _, _, next, by simp, rfl, ?_⟩
        rw [meteredChild, run_bind_ok charged]
        exact run_bind_error failed

theorem meteredMembers_encode (fuel : Nat) : ReadsBack fuel := by
  induction fuel with
  | zero =>
    intro acc kind members r tail _ _ _ fueled
    exact absurd fueled (Nat.not_lt_zero _)
  | succ fuel ih =>
    intro acc kind members r tail bound here permitted fueled opened shallow
    cases members with
    | nil =>
      refine ⟨fun _ _ => ?_, fun deep => ?_, fun _ spent => absurd spent (Nat.not_lt_zero _)⟩
      · obtain ⟨r₁, next, moved⟩ := nextRef_end bound here opened
        refine ⟨r₁, ?_, moved⟩
        rw [meteredMembers, run_bind_ok next, beforeIs1Members, List.append_nil]
        rfl
      · simp only [nestingMembers] at deep
        omega
    | cons member rest =>
      obtain ⟨tag, value⟩ := member
      simp only [encodeMembers, List.append_assoc] at here
      have allowed : ¬ (kind = .array ∧ tag ≠ .anonymous) :=
        fun refused => refused.2 (permitted refused.1 (tag, value) List.mem_cons_self)
      refine (child_judged (fun _ => ih) (fun r₁ less => by omega) bound here shallow).seq
        (fun e failed => ?_) fun read => ?_
      · obtain ⟨r', failed⟩ | ⟨r', element, r₁, next, inside, rfl, failed⟩ := failed
        · exact ⟨r', run_bind_error failed⟩
        · exact ⟨r', (meteredMembers_child next inside allowed).trans (run_bind_error failed)⟩
      · obtain ⟨r', ⟨element, r₁, next, inside, rfl, run⟩, moved⟩ := read
        have step : (meteredMembers kind (fuel + 1) acc).run r = _ :=
          (meteredMembers_child next inside allowed).trans (run_bind_ok run)
        have positive := encode_length_pos element.tag value
        have less : r'.remaining < fuel := by
          rw [remaining_eq, here, List.length_append] at fueled
          rw [remaining_eq, moved.rest_eq here]
          omega
        have judged := ih (acc ++ [(element.tag, value.beforeIs1)]) (moved.inBounds bound here)
          (moved.rest_eq here)
          (fun isArray member found => permitted isArray member (List.mem_cons_of_mem _ found)) less
          (by rw [moved.depth]; exact opened) (by rw [moved.depth]; exact shallow)
        rw [moved.depth, moved.budget] at judged
        rw [step]
        refine judged.imp (fun _ _ read => ?_) fun _ => id
        obtain ⟨r₂, run, closed⟩ := read
        have whole := moved.trans closed
        refine ⟨r₂, ?_, whole.input, ?_, whole.depth, ?_⟩
        · rw [run]
          simp [beforeIs1Members]
        · rw [whole.pos, encodeMembers, List.length_append, Nat.add_assoc]
        · rw [whole.budget, countMembers, Nat.sub_sub]

/-- The decode of one value in front of its encoding, counted or not. -/
theorem readValue_judged {value : Value} (bound : r.InBounds)
    (here : r.rest = value.encode tag ++ tail) (opened : r.depth ≤ maxDepth) :
    Judged r.depth r.elementBudget value.nesting value.count
      (∃ r', readValue.run r = .ok (tag, value.beforeIs1) r' ∧ r'.input = r.input ∧
        r'.pos = r.pos + (value.encode tag).length ∧ r'.depth = r.depth)
      fun e => ∃ r', readValue.run r = .error e r' := by
  have judged := child_judged (fun r₁ => meteredMembers_encode (r₁.remaining + 1))
    (fun _ _ => Nat.lt_succ_self _) bound here opened
  have mirrored := readValue_metered bound (.inl rfl)
  refine judged.imp (fun _ _ read => ?_) fun e failed => ?_
  · obtain ⟨r', ⟨element, r₁, next, inside, rfl, run⟩, moved⟩ := read
    have metered : meteredValue.run r = .ok (element.tag, value.beforeIs1) r' :=
      (meteredValue_child next inside).trans (run_bind_ok run)
    obtain ⟨a, s, x, ran, same, _⟩ | ⟨e, s, x, _, same⟩ := mirrored
    · cases metered.symm.trans same
      exact ⟨s, ran, moved.input, moved.pos, moved.depth⟩
    · cases metered.symm.trans same
  · have metered : ∃ r', meteredValue.run r = .error e r' := by
      obtain ⟨r', failed⟩ | ⟨r', element, r₁, next, inside, rfl, failed⟩ := failed
      · exact ⟨r', run_bind_error failed⟩
      · exact ⟨r', (meteredValue_child next inside).trans (run_bind_error failed)⟩
    obtain ⟨r', metered⟩ := metered
    obtain ⟨a, s, x, _, same, _⟩ | ⟨e, s, x, ran, same⟩ := mirrored
    · cases metered.symm.trans same
    · cases metered.symm.trans same
      exact ⟨s, ran⟩

theorem readValue_new {input : Octets} {value : Value}
    (here : input.bytes = value.encode tag ++ tail) :
    Judged 0 defaultElementBudget value.nesting value.count
      (∃ r', readValue.run (new input) = .ok (tag, value.beforeIs1) r' ∧ r'.input = input ∧
        r'.pos = 0 + (value.encode tag).length ∧ r'.depth = 0)
      fun e => ∃ r', readValue.run (new input) = .error e r' :=
  readValue_judged (inBounds_new input) here (Nat.zero_le _)

/-- The writer writes the trees that nest at most `MAX_DEPTH` deep, the reader
returns each of them from in front of anything, and both refuse all others. -/
theorem readValue_writeValue (tag : Tag) (value : Value) :
    (value.nesting ≤ maxDepth → value.count ≤ defaultElementBudget → value.Clean →
      ∃ output, (TlvWriter.writeValue tag value).run [] = .ok () output ∧
        ∀ (s : Bytes) (input : Octets), input.bytes = output ++ s →
          ∃ r, readValue.run (new input) = .ok (tag, value) r ∧
            r.input = input ∧ r.pos = output.length ∧ r.rest = s ∧ r.depth = 0) ∧
    ((∃ error left, (TlvWriter.writeValue tag value).run [] = .error error left) ↔
      maxDepth < value.nesting) ∧ (maxDepth < value.nesting →
      (∃ left, (TlvWriter.writeValue tag value).run [] = .error .containerTooDeep left) ∧
      (value.count ≤ defaultElementBudget →
        ∀ (s : Bytes) (input : Octets), input.bytes = value.encode tag ++ s →
          ∃ r, readValue.run (new input) = .error .containerTooDeep r)) := by
  have writes := TlvWriter.writeValue_writes tag value
  refine ⟨?_, ?_, ?_⟩
  · intro shallow few clean
    refine ⟨value.encode tag, writes.shallow shallow [], ?_⟩
    intro s input here
    obtain ⟨r, run, same, moved, depth⟩ := (readValue_new here).good
      ((Nat.zero_add _).trans_le shallow) few
    rw [beforeIs1_eq clean] at run
    refine ⟨r, run, same, moved.trans (Nat.zero_add _), ?_, depth⟩
    rw [rest, same, moved]
    exact (congrArg (List.drop _) here).trans (by simp)
  · constructor
    · rintro ⟨error, left, failed⟩
      by_contra shallow
      have wrote := writes.shallow (Nat.not_lt.mp shallow) []
      rw [failed] at wrote
      cases wrote
    · intro deep
      obtain ⟨left, failed⟩ := writes.deep deep []
      exact ⟨_, left, failed⟩
  · intro deep
    refine ⟨writes.deep deep [], ?_⟩
    intro few s input here
    exact (readValue_new here).deep (deep.trans_eq (Nat.zero_add _).symm) few

/-- A structure with a string, a negative number and an array of containers. -/
def sample : Value :=
  .struct [(.context 1, .utf8 ⟨"id", by decide⟩), (.commonProfile 70000, .int (-200)),
    (.context 2, .array [.list [(.anonymous, .null)], .struct []])]

theorem readValue_writeValue_sample :
    ∃ output, (TlvWriter.writeValue .anonymous sample).run [] = .ok () output ∧
      ∀ (s : Bytes) (input : Octets), input.bytes = output ++ s →
        ∃ r, readValue.run (new input) = .ok (.anonymous, sample) r ∧
          r.input = input ∧ r.pos = output.length ∧ r.rest = s ∧ r.depth = 0 :=
  (readValue_writeValue .anonymous sample).1
    (by simp [sample, nesting, nestingMembers, nestingElements, maxDepth])
    (by simp [sample, count, countMembers, countElements, defaultElementBudget])
    (by simp [sample, Clean, CleanMembers, CleanElements]; decide)

end TlvReader
end Matter.Codec
