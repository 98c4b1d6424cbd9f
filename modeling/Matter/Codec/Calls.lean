import Matter.Codec.Canonical

/-! Sequences of calls on one reader. `next` and `skip_container` do not use the element budget,
and between them every `read_value` answers as the metered reader does. -/
namespace Matter.Codec
open Exits

namespace TlvReader
open Value

theorem blindAt_skipContainer (bound : r.InBounds) : BlindAt r skipContainer := by
  have body : BlindAt r skipContainerBody := by
    refine .getting (fun _ => rfl) ?_
    refine (BlindAt.of_positional bound (positional_skipLoop _ 1)).bind fun _ r₁ inside => ?_
    exact .modifying ⟨rfl, Nat.le_refl _, inside⟩ fun _ => rfl
  exact body.bind fun _ r₁ inside => .modifying ⟨rfl, Nat.le_refl _, inside⟩ fun _ => rfl

inductive Call where
  | readValue
  | next
  | skipContainer
  deriving DecidableEq

inductive Answer where
  | tree (tag : Tag) (value : Value)
  | element (found : Option ElementRef)
  | skipped

def Call.perform (read : ReaderM (Tag × Value)) : Call → ReaderM Answer
  | .readValue => do
    let (tag, value) ← read
    return .tree tag value
  | .next => do return .element (← nextRef)
  | .skipContainer => do
    TlvReader.skipContainer
    return .skipped

/-- What a sequence of calls on one reader returns, up to and including the first `read_value`
that fails. -/
def answers (read : ReaderM (Tag × Value)) : List Call → TlvReader → List (Except Error Answer)
  | [], _ => []
  | call :: calls, r =>
    match (call.perform read).run r with
    | .ok answer r' => .ok answer :: answers read calls r'
    | .error e r' => .error e :: if call = .readValue then [] else answers read calls r'

def Answer.materialised : Answer → Nat
  | .tree _ value => value.count
  | _ => 0

def materialised : List (Except Error Answer) → Nat
  | [] => 0
  | .ok answer :: rest => answer.materialised + materialised rest
  | .error _ :: rest => materialised rest

theorem BlindAt.kept (blind : BlindAt r m) : (final (m.run r)).elementBudget = r.elementBudget := by
  have same : m.run r = fund r.elementBudget (m.run r) := blind.same r.elementBudget
  rw [same]
  cases m.run r <;> rfl

theorem Covers.onward (covers : Covers r x) (onward : Onward r r')
    (kept : r'.elementBudget = r.elementBudget) : Covers r' x := by
  have less := onward.remaining_le
  rw [Covers, kept]
  exact covers.imp_right fun both => ⟨less.trans both.1, less.trans both.2⟩

/-- Only `read_value` uses the budget. -/
theorem Call.streams {call : Call} (streams : call ≠ .readValue) (read : ReaderM (Tag × Value))
    (bound : r.InBounds) : BlindAt r (call.perform read) ∧
      call.perform read = call.perform meteredValue ∧
      ∀ {answer r'}, (call.perform read).run r = .ok answer r' → answer.materialised = 0 := by
  cases call with
  | readValue => exact absurd rfl streams
  | next =>
    refine ⟨(blindAt_nextRef bound).bind fun _ _ later => .pure later _, rfl, fun ran => ?_⟩
    obtain ⟨found, r₁, _, last⟩ := of_run_bind_ok ran
    cases last
    rfl
  | skipContainer =>
    refine ⟨(blindAt_skipContainer bound).bind fun _ _ later => .pure later _, rfl, fun ran => ?_⟩
    obtain ⟨_, r₁, _, last⟩ := of_run_bind_ok ran
    cases last
    rfl

/-- The calls on a reader with another budget that covers what is left. -/
theorem answers_covered (calls : List Call) (bound : r.InBounds) (covers : Covers r x) :
    answers readValue calls r = answers meteredValue calls (r.funded x) ∧
      materialised (answers meteredValue calls (r.funded x)) ≤ x := by
  induction calls generalizing r x with
  | nil => exact ⟨rfl, Nat.zero_le _⟩
  | cons call calls ih =>
    by_cases streams : call = .readValue
    · subst streams
      obtain ⟨⟨tag, value⟩, r', left, ran, metered, onward, later⟩ | ⟨e, r', left, ran, metered⟩ :=
        readValue_metered bound covers
      · have paid : value.count + left = x :=
          (meteredValue_sound (show (r.funded x).InBounds from bound) metered).paid
        have ran' : (Call.readValue.perform readValue).run r = .ok (.tree tag value) r' :=
          run_bind_ok ran
        have metered' : (Call.readValue.perform meteredValue).run (r.funded x) =
            .ok (.tree tag value) (r'.funded left) := run_bind_ok metered
        obtain ⟨same, few⟩ := ih onward.within later
        rw [answers, ran', answers, metered']
        exact ⟨congrArg _ same, paid ▸ Nat.add_le_add_left few _⟩
      · have ran' : (Call.readValue.perform readValue).run r = .error e r' := run_bind_error ran
        have metered' : (Call.readValue.perform meteredValue).run (r.funded x) =
            .error e (r'.funded left) := run_bind_error metered
        rw [answers, ran', answers, metered']
        exact ⟨rfl, Nat.zero_le _⟩
    · obtain ⟨blind, same, none⟩ := Call.streams streams readValue bound
      have later := ih blind.onward.within (covers.onward blind.onward blind.kept)
      have again := blind.same x
      cases ran : (call.perform readValue).run r with
      | ok answer r' =>
        rw [ran] at later again
        rw [answers, ran, answers, ← same, again]
        refine ⟨congrArg _ later.1, ?_⟩
        show answer.materialised + _ ≤ x
        rw [none ran, Nat.zero_add]
        exact later.2
      | error e r' =>
        rw [ran] at later again
        rw [answers, ran, answers, ← same, again]
        simp only [fund, if_neg streams]
        exact ⟨congrArg _ later.1, later.2⟩

/-- The fast path and the local budgets cannot be observed. -/
theorem answers_metered (input : Octets) (budget : Nat) (calls : List Call) :
    answers readValue calls (withElementBudget input budget) =
        answers meteredValue calls (withElementBudget input budget) ∧
      materialised (answers readValue calls (withElementBudget input budget)) ≤ budget := by
  have bound : (withElementBudget input budget).InBounds := Nat.zero_le _
  obtain ⟨same, few⟩ := answers_covered calls bound (.inl rfl)
  rw [← same] at few
  exact ⟨same, few⟩

end TlvReader
end Matter.Codec
