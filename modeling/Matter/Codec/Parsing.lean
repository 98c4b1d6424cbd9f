import Matter.Codec.Nesting

/-! Parsers written as loops over the streaming reader. A parser moves forward
only, and what it reads successfully it reads in the same way when more input
follows; a parser that also calls `finish` therefore accepts no proper extension
of what it accepts. -/
namespace Matter.Codec
open Exits

/-- A parser over the streaming reader with an error type of its own. -/
abbrev ParserM (ε : Type) := EStateM ε TlvReader

namespace TlvReader
variable {ε α β σ : Type}

/-- The same reader over other input. -/
def before (r : TlvReader) (longer : Octets) : TlvReader := { r with input := longer }

/-- From `r` the parser succeeds with `a` at `r'`, whatever follows the input. -/
structure Settled (m : ParserM ε α) (r : TlvReader) (a : α) (r' : TlvReader) : Prop where
  onward : Onward r r'
  again : ∀ longer : Octets, r.input.bytes <+: longer.bytes →
    m.run (r.before longer) = .ok a (r'.before longer)

/-- Every success of the parser is settled by the bytes it has consumed. -/
def Forward (m : ParserM ε α) : Prop :=
  ∀ r a r', r.InBounds → m.run r = .ok a r' → Settled m r a r'

theorem Settled.bind (first : Settled m r a r₁) (second : Settled (next a) r₁ b r') :
    Settled (m >>= next) r b r' := by
  refine ⟨first.onward.trans second.onward, fun longer extends_ => ?_⟩
  rw [run_bind_ok (first.again longer extends_)]
  exact second.again longer (first.onward.input ▸ extends_)

namespace Forward
variable {m : ParserM ε α} {next : α → ParserM ε β}

theorem pure (a : α) : Forward (Pure.pure a : ParserM ε α) := by
  intro r b r' bound ran
  cases ran
  exact ⟨.refl bound, fun longer _ => rfl⟩

theorem throw (e : ε) : Forward (MonadExcept.throw e : ParserM ε α) := by
  intro r a r' _ ran
  cases ran

theorem bind (first : Forward m) (second : ∀ a, Forward (next a)) : Forward (m >>= next) := by
  intro r b r' bound ran
  obtain ⟨a, r₁, head, tail⟩ := of_run_bind_ok ran
  have settled := first r a r₁ bound head
  exact settled.bind (second a r₁ b r' settled.onward.within tail)

theorem bind_pure {f : α → β} (first : Forward m) : Forward (m >>= fun a => Pure.pure (f a)) :=
  first.bind fun a => .pure (f a)

theorem ite [Decidable p] (yes : Forward m) (no : Forward m') : Forward (if p then m else m') := by
  split
  · exact yes
  · exact no

end Forward

theorem getElem?_extends {i : Nat} (extends_ : short <+: long) (found : short[i]? = some b) :
    long[i]? = some b := by
  obtain ⟨more, rfl⟩ := extends_
  rw [List.getElem?_append_left (List.getElem?_eq_some_iff.mp found).1]
  exact found

theorem slice_extends {short long : Octets} (extends_ : short.bytes <+: long.bytes)
    (inside : start + n ≤ short.bytes.length) : long.slice start n = short.slice start n := by
  obtain ⟨more, same⟩ := extends_
  simp only [Octets.slice, ← same, Octets.mk.injEq]
  rw [List.drop_append_of_le_length (by omega), List.take_append_of_le_length]
  rw [List.length_drop]
  omega

theorem forward_nextByte : Forward nextByte := by
  intro r b r' bound ran
  rw [nextByte_run] at ran
  cases found : r.input.bytes[r.pos]? with
  | none =>
    rw [found] at ran
    cases ran
  | some c =>
    rw [found] at ran
    cases ran
    refine ⟨⟨rfl, Nat.le_add_right _ _, (List.getElem?_eq_some_iff.mp found).1⟩, ?_⟩
    intro longer extends_
    rw [nextByte_run]
    simp [before, getElem?_extends extends_ found, advance]

theorem forward_nextBytes (n : Nat) : Forward (nextBytes n) := by
  intro r octets r' bound ran
  rw [nextBytes_run] at ran
  split at ran
  · cases ran
  · rename_i small
    split at ran
    · cases ran
    · rename_i inside
      cases ran
      refine ⟨⟨rfl, Nat.le_add_right _ _, Nat.not_lt.mp inside⟩, ?_⟩
      intro longer extends_
      have size := extends_.length_le
      have fits : ¬ (r.before longer).pos + n ≥ usizeLimit := small
      have there : ¬ (r.before longer).pos + n > (r.before longer).input.bytes.length := by
        simp only [before]
        omega
      have same : (r.before longer).input.slice (r.before longer).pos n = r.input.slice r.pos n :=
        slice_extends extends_ (Nat.not_lt.mp inside)
      rw [nextBytes_run, if_neg fits, if_neg there, same]
      rfl

theorem forward_position : Forward position := by
  intro r at_ r' bound ran
  cases ran
  exact ⟨.refl bound, fun _ _ => rfl⟩

theorem composed_forward : Composed fun _ m => Forward m :=
  ⟨.pure, .throw, .bind, forward_position, forward_nextByte, forward_nextBytes⟩

theorem forward_modify (keeps : ∀ r, (f r).input = r.input ∧ (f r).pos = r.pos)
    (commutes : ∀ r longer, f (r.before longer) = (f r).before longer) :
    Forward (modify f : ParserM ε PUnit) := by
  intro r a r' bound ran
  cases ran
  obtain ⟨input, pos⟩ := keeps r
  refine ⟨⟨input, Nat.le_of_eq pos.symm, ?_⟩, fun longer _ => ?_⟩
  · unfold InBounds at bound ⊢
    rw [input, pos]
    exact bound
  · exact congrArg (EStateM.Result.ok PUnit.unit) (commutes r longer)

theorem forward_modify_bind (keeps : ∀ r, (f r).input = r.input ∧ (f r).pos = r.pos)
    (commutes : ∀ r longer, f (r.before longer) = (f r).before longer) (rest : Forward next) :
    Forward (modify f >>= fun _ => next) :=
  (forward_modify keeps commutes).bind fun _ => rest

theorem forward_nextFilled (r : TlvReader) : Forward (nextFilled r) :=
  (composed_forward.readElement r.depth).bind fun _ =>
    forward_modify_bind (fun _ => ⟨rfl, rfl⟩) (fun _ _ => rfl) (.pure _)

theorem isEmpty_before {r : TlvReader} (filled : r.isEmpty = false)
    (extends_ : r.input.bytes <+: longer.bytes) : (r.before longer).isEmpty = false := by
  have size := extends_.length_le
  simp only [isEmpty, ge_iff_le, decide_eq_false_iff_not, before] at filled ⊢
  omega

/-- An element that is there stays there when more input follows. -/
theorem nextRef_settled {r r' : TlvReader} (bound : r.InBounds)
    (ran : nextRef.run r = .ok (some element) r') : Settled nextRef r (some element) r' := by
  rw [nextRef_run] at ran
  split at ran
  · cases ran
  · rename_i filled
    have settled := forward_nextFilled r r _ r' bound ran
    refine ⟨settled.onward, fun longer extends_ => ?_⟩
    have more := isEmpty_before (Bool.not_eq_true _ ▸ filled) extends_
    rw [nextRef_run, more, if_neg Bool.false_ne_true]
    exact settled.again longer extends_

/-- A loop whose fuel is the input that is left, and that more fuel does not change. -/
theorem forward_fueled {m : Nat → ParserM ε α}
    (settled : ∀ {fuel fuel' r a r'}, fuel ≤ fuel' → r.InBounds → (m fuel).run r = .ok a r' →
      Settled (m fuel') r a r') : Forward (do let r ← get; m (r.remaining + 1)) := by
  intro r a r' bound ran
  refine ⟨(settled (Nat.le_refl _) bound ran).onward, fun longer extends_ => ?_⟩
  have room : r.remaining + 1 ≤ (r.before longer).remaining + 1 := by
    have size := extends_.length_le
    simp only [remaining, before]
    omega
  exact (settled room bound ran).again longer extends_

theorem rest_before {r : TlvReader} {longer : Octets} (bound : r.InBounds)
    (extends_ : r.input.bytes <+: longer.bytes) : ∃ more, (r.before longer).rest = r.rest ++ more := by
  obtain ⟨more, same⟩ := extends_
  exact ⟨more, by simp only [rest, before, ← same, List.drop_append_of_le_length bound]⟩

/-- The bytes of a skip are those of the grammar, which are the same before more input. -/
theorem forward_skipContainerBody : Forward skipContainerBody := by
  intro r _ r' bound ran
  obtain ⟨inside, _, ⟨members, rfl, each⟩, here⟩ := skipContainerBody_takes bound ran
  have closes : Closes r.depth _ := closes_nested each (Nat.le_refl _)
  have skipped := closes.skipContainerBody bound rfl inside here
  rw [ran] at skipped
  cases skipped
  refine ⟨⟨rfl, Nat.le_add_right _ _, inBounds_advance bound here⟩, fun longer extends_ => ?_⟩
  obtain ⟨more, here'⟩ := rest_before bound extends_
  rw [here, List.append_assoc] at here'
  exact closes.skipContainerBody (bound.trans extends_.length_le) rfl inside here'

theorem forward_skipContainer : Forward skipContainer :=
  forward_skipContainerBody.bind fun _ => forward_modify (fun _ => ⟨rfl, rfl⟩) fun _ _ => rfl

/-- The span of a skipped container ends where the reader stands. -/
theorem skipContainerSpan_settled (bound : r.InBounds)
    (ran : skipContainerSpan.run r = .ok span r') :
    Settled skipContainerSpan r span r' ∧ span.stop = r'.pos := by
  rw [skipContainerSpan, run_bind_ok (EStateM.run_get _)] at ran
  cases header : r.lastSpan with
  | none =>
    rw [header] at ran
    cases ran
  | some span₀ =>
    rw [header] at ran
    simp only at ran
    split at ran
    · cases ran
    · rename_i fresh
      obtain ⟨_, r₁, bodyRan, restRan⟩ := of_run_bind_ok ran
      have body := forward_skipContainerBody r () r₁ bound bodyRan
      cases restRan
      refine ⟨⟨⟨body.onward.input, body.onward.pos, body.onward.within⟩,
        fun longer extends_ => ?_⟩, rfl⟩
      rw [skipContainerSpan, run_bind_ok (EStateM.run_get _),
        show (r.before longer).lastSpan = some span₀ from header]
      simp only
      rw [if_neg (show ¬ (!(r.before longer).lastWasContainerStart) = true from fresh)]
      exact run_bind_ok (body.again longer extends_)

theorem spanBytes_before {r : TlvReader} (extends_ : r.input.bytes <+: longer.bytes)
    (inside : stop ≤ r.input.bytes.length) :
    (r.before longer).spanBytes start stop = r.spanBytes start stop := by
  have more : stop ≤ (r.before longer).input.bytes.length := inside.trans extends_.length_le
  by_cases ordered : start ≤ stop
  · rw [spanBytes, if_pos ⟨ordered, more⟩, spanBytes, if_pos ⟨ordered, inside⟩]
    exact congrArg Octets.bytes (slice_extends extends_ (by omega))
  · rw [spanBytes, if_neg fun both => ordered both.1, spanBytes,
      if_neg fun both => ordered both.1]

theorem forward_closeAll (depth : Nat) : Forward (closeAll depth) := by
  induction depth with
  | zero => exact .pure _
  | succ depth ih =>
    refine forward_skipContainerBody.bind fun _ => ?_
    exact forward_modify_bind (fun _ => ⟨rfl, rfl⟩) (fun _ _ => rfl) ih

/-- Every success of the parser has used up the input: with more input it fails. -/
def Closing (m : ParserM ε α) : Prop :=
  ∀ r a r', r.InBounds → m.run r = .ok a r' → ∀ longer : Octets, r.input.bytes <+: longer.bytes →
    r.input.bytes.length < longer.bytes.length → ∃ e s, m.run (r.before longer) = .error e s

theorem finish_longer (bound : r.InBounds) (ran : finish.run r = .ok a r')
    (extends_ : r.input.bytes <+: longer.bytes)
    (more : r.input.bytes.length < longer.bytes.length) :
    ∃ s, finish.run (r.before longer) = .error .trailingData s := by
  rw [finish, run_bind_ok (EStateM.run_get _)] at ran
  obtain ⟨_, r₁, closeRan, _⟩ := of_run_bind_ok ran
  have closed := forward_closeAll r.depth r () r₁ bound closeRan
  have left : (r₁.before longer).isEmpty = false := by
    have within := closed.onward.within
    unfold InBounds at within
    rw [closed.onward.input] at within
    simp only [isEmpty, before, ge_iff_le, decide_eq_false_iff_not]
    omega
  refine ⟨r₁.before longer, ?_⟩
  have again : (closeAll (r.before longer).depth).run (r.before longer) = _ :=
    closed.again longer extends_
  rw [finish, run_bind_ok (EStateM.run_get _), run_bind_ok again,
    run_bind_ok (EStateM.run_get _), left]
  rfl

theorem closing_finish : Closing finish :=
  fun _ _ _ bound ran _ extends_ more => ⟨_, finish_longer bound ran extends_ more⟩

namespace Closing
variable {m : ParserM ε α} {next : α → ParserM ε β}

theorem throw (e : ε) : Closing (MonadExcept.throw e : ParserM ε α) := by
  intro r a r' _ ran
  cases ran

/-- Once the input is used up, nothing that is done after brings it back. -/
theorem followed (closing : Closing m) : Closing (m >>= next) := by
  intro r b r' bound ran longer extends_ more
  obtain ⟨a, r₁, head, _⟩ := of_run_bind_ok ran
  obtain ⟨e, s, failed⟩ := closing r a r₁ bound head longer extends_ more
  exact ⟨e, s, run_bind_error failed⟩

theorem bind (first : Forward m) (rest : ∀ a, Closing (next a)) : Closing (m >>= next) := by
  intro r b r' bound ran longer extends_ more
  obtain ⟨a, r₁, head, tail⟩ := of_run_bind_ok ran
  have settled := first r a r₁ bound head
  have same := settled.onward.input
  obtain ⟨e, s, failed⟩ := rest a r₁ b r' settled.onward.within tail longer (same ▸ extends_)
    (same ▸ more)
  exact ⟨e, s, (run_bind_ok (settled.again longer extends_)).trans failed⟩

theorem ite [Decidable p] (yes : Closing m) (no : Closing m') : Closing (if p then m else m') := by
  split
  · exact yes
  · exact no

end Closing

/-- `?` on a codec error. -/
def fromCodec (wrap : Error → ε) (m : ReaderM α) : ParserM ε α := fun r =>
  match m r with
  | .ok a r' => .ok a r'
  | .error e r' => .error (wrap e) r'

theorem fromCodec_run (wrap : Error → ε) (m : ReaderM α) (r : TlvReader) :
    (fromCodec wrap m).run r =
      match m.run r with
      | .ok a r' => .ok a r'
      | .error e r' => .error (wrap e) r' := rfl

theorem fromCodec_ok : (fromCodec wrap m).run r = .ok a r' ↔ m.run r = .ok a r' := by
  rw [fromCodec_run]
  cases m.run r <;> simp

theorem Settled.fromCodec (settled : Settled m r a r') : Settled (fromCodec wrap m) r a r' :=
  ⟨settled.onward, fun longer extends_ => fromCodec_ok.mpr (settled.again longer extends_)⟩

theorem Forward.fromCodec (forward : Forward m) :
    Forward (fromCodec wrap m) :=
  fun r a r' bound ran => (forward r a r' bound (fromCodec_ok.mp ran)).fromCodec

theorem Closing.fromCodec (closing : Closing m) : Closing (fromCodec wrap m) := by
  intro r a r' bound ran longer extends_ more
  obtain ⟨e, s, failed⟩ := closing r a r' bound (fromCodec_ok.mp ran) longer extends_ more
  exact ⟨wrap e, s, by rw [fromCodec_run, failed]⟩

/-- `next`, where the end of the input is the error `cut`. -/
def nextElement (wrap : Error → ε) (cut : ε) : ParserM ε ElementRef := do
  match ← fromCodec wrap nextRef with
  | none => throw cut
  | some element => return element

theorem nextElement_ok :
    (nextElement wrap cut).run r = .ok element r' ↔ nextRef.run r = .ok (some element) r' := by
  constructor
  · intro ran
    obtain ⟨found, r₁, head, tail⟩ := of_run_bind_ok ran
    cases found with
    | none => cases tail
    | some other =>
      cases tail
      exact fromCodec_ok.mp head
  · intro ran
    exact run_bind_ok (fromCodec_ok.mpr ran)

theorem forward_nextElement (wrap : Error → ε) (cut : ε) : Forward (nextElement wrap cut) := by
  intro r element r' bound ran
  have settled := nextRef_settled bound (nextElement_ok.mp ran)
  exact ⟨settled.onward, fun longer extends_ =>
    nextElement_ok.mpr (settled.again longer extends_)⟩

/-- One round of a loop: another with new locals, or out of it. -/
inductive Flow (σ α : Type) where
  | again (state : σ)
  | leave (result : α)

/-- `loop { match r.next()? { .. } }` with the local variables `σ`. -/
def loopElements (wrap : Error → ε) (cut : ε) (step : σ → ElementRef → ParserM ε (Flow σ α)) :
    Nat → σ → ParserM ε α
  | 0, _ => throw cut
  | fuel + 1, state => do
    let element ← nextElement wrap cut
    match ← step state element with
    | .again state => loopElements wrap cut step fuel state
    | .leave result => return result

def elements (wrap : Error → ε) (cut : ε) (step : σ → ElementRef → ParserM ε (Flow σ α))
    (init : σ) : ParserM ε α := do
  let r ← get
  loopElements wrap cut step (r.remaining + 1) init

section Loops
variable {wrap : Error → ε} {cut : ε} {step : σ → ElementRef → ParserM ε (Flow σ α)}
  (steps : ∀ state element, Forward (step state element))
include steps

theorem loopElements_settled (enough : fuel ≤ fuel') (bound : r.InBounds)
    (ran : (loopElements wrap cut step fuel state).run r = .ok a r') :
    Settled (loopElements wrap cut step fuel' state) r a r' := by
  induction fuel generalizing fuel' state r with
  | zero => cases ran
  | succ fuel ih =>
    obtain ⟨fuel', rfl⟩ : ∃ n, fuel' = n + 1 := ⟨fuel' - 1, by omega⟩
    obtain ⟨element, r₁, nextRan, restRan⟩ := of_run_bind_ok ran
    obtain ⟨flow, r₂, stepRan, tailRan⟩ := of_run_bind_ok restRan
    have next := forward_nextElement wrap cut r element r₁ bound nextRan
    have stepped := steps state element r₁ flow r₂ next.onward.within stepRan
    refine next.bind (stepped.bind ?_)
    cases flow with
    | again state => exact ih (Nat.le_of_succ_le_succ enough) stepped.onward.within tailRan
    | leave result => exact Forward.pure result r₂ a r' stepped.onward.within tailRan

theorem forward_elements (init : σ) : Forward (elements wrap cut step init) :=
  forward_fueled fun enough bound ran => loopElements_settled steps enough bound ran

end Loops

def parseWhole (m : ParserM ε α) (input : Octets) : Except ε α :=
  match m.run (new input) with
  | .ok a _ => .ok a
  | .error e _ => .error e

theorem parseWhole_ok {input : Octets} :
    parseWhole m input = .ok a ↔ ∃ r, m.run (new input) = .ok a r := by
  unfold parseWhole
  cases m.run (new input) <;> simp

/-- A parser that accepts a message accepts nothing that is longer or shorter by
a cut. -/
def OnlyComplete (parse : Octets → Except ε α) : Prop :=
  ∀ message a, parse message = .ok a →
    (∀ cut : Octets, cut.bytes <+: message.bytes → cut.bytes ≠ message.bytes →
      ∃ e, parse cut = .error e) ∧
    ∀ longer : Octets, message.bytes <+: longer.bytes → longer.bytes ≠ message.bytes →
      ∃ e, parse longer = .error e

theorem Closing.rejects (closing : Closing m) (accepted : parseWhole m message = .ok a)
    (extends_ : message.bytes <+: longer.bytes) (differs : longer.bytes ≠ message.bytes) :
    ∃ e, parseWhole m longer = .error e := by
  obtain ⟨r, ran⟩ := parseWhole_ok.mp accepted
  have more : message.bytes.length < longer.bytes.length := by
    refine Nat.lt_of_le_of_ne extends_.length_le fun same => differs ?_
    exact (extends_.eq_of_length same).symm
  obtain ⟨e, s, failed⟩ := closing (new message) a r (Nat.zero_le _) ran longer extends_ more
  refine ⟨e, ?_⟩
  have start : (new message).before longer = new longer := rfl
  rw [start] at failed
  rw [parseWhole, failed]

/-- A cut message that is accepted would make the whole one an extension of it. -/
theorem Closing.onlyComplete (closing : Closing m) : OnlyComplete (parseWhole m) := by
  intro message a accepted
  refine ⟨fun cut within differs => ?_, fun longer => closing.rejects accepted⟩
  cases verdict : parseWhole m cut with
  | error e => exact ⟨e, rfl⟩
  | ok b =>
    obtain ⟨e, failed⟩ := closing.rejects verdict within differs.symm
    rw [accepted] at failed
    cases failed

end TlvReader
end Matter.Codec
