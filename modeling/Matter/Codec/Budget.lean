import Matter.Codec.Accepts

/-! The element budget of the tree reader. The metered reader charges its budget for every
element when it is decoded. The reader mirrors the budget in a local variable instead, and
when it has no more input than budget left it does not count at all. It cannot be told from
the metered one: every element takes a byte, so the budget lasts. -/
namespace Matter.Codec
open Exits EStateM

def ElementRef.tag : ElementRef → Tag
  | .scalar tag _ => tag
  | .containerStart tag _ => tag
  | .containerEnd => .anonymous

namespace TlvReader
open Value

/-- Two readers at the same position of the same input. -/
structure Same (r s : TlvReader) : Prop where
  input : s.input = r.input
  pos : s.pos = r.pos

theorem Same.advance (same : Same r s) (n : Nat) : Same (r.advance n) (s.advance n) :=
  ⟨same.input, congrArg (· + n) same.pos⟩

def settle (r : TlvReader) : Except Error α → EStateM.Result Error TlvReader α
  | .ok a => .ok a r
  | .error e => .error e r

/-- At the depths of `P`, what `m` does depends on the input and the position only, and the
position is all it changes, within the input. -/
def Positional (P : Nat → Prop) (m : ReaderM α) : Prop :=
  ∀ r, P r.depth → ∃ n out, (r.InBounds → (r.advance n).InBounds) ∧
    ∀ s, Same r s → P s.depth → m.run s = settle (s.advance n) out

namespace Positional
variable {P : Nat → Prop}

theorem pure (a : α) : Positional P (Pure.pure a) :=
  fun _ _ => ⟨0, .ok a, id, fun _ _ _ => rfl⟩

theorem throw (error : Error) : Positional P (MonadExcept.throw error : ReaderM α) :=
  fun _ _ => ⟨0, .error error, id, fun _ _ _ => rfl⟩

theorem bind (first : Positional P m) (second : ∀ a, Positional P (next a)) :
    Positional P (m >>= next) := by
  intro r deep
  obtain ⟨n, out, within, ran⟩ := first r deep
  cases out with
  | error e => exact ⟨n, .error e, within, fun s same deep => run_bind_error (ran s same deep)⟩
  | ok a =>
    obtain ⟨k, out, within', ran'⟩ := second a (r.advance n) deep
    rw [advance_advance] at within'
    refine ⟨n + k, out, within' ∘ within, fun s same deep => ?_⟩
    rw [run_bind_ok (ran s same deep), ran' _ (same.advance n) deep, advance_advance]

theorem getting (same : ∀ {r s}, Same r s → P r.depth → P s.depth → f s = f r)
    (inside : ∀ r, P r.depth → Positional P (f r)) : Positional P (get >>= f) := by
  intro r deep
  obtain ⟨n, out, within, ran⟩ := inside r deep r deep
  refine ⟨n, out, within, fun s alike deep' => ?_⟩
  rw [run_bind_ok (run_get _), same alike deep deep']
  exact ran s alike deep'

end Positional

theorem positional_position : Positional P position :=
  fun r _ => ⟨0, .ok r.pos, id, fun s same _ => same.pos ▸ position_run s⟩

theorem positional_nextByte : Positional P nextByte := by
  intro r _
  cases found : r.input.bytes[r.pos]? with
  | none =>
    refine ⟨0, .error .unexpectedEof, id, fun s same _ => ?_⟩
    rw [nextByte_run, same.input, same.pos, found]
    rfl
  | some b =>
    refine ⟨1, .ok b, fun _ => (List.getElem?_eq_some_iff.mp found).1, fun s same _ => ?_⟩
    rw [nextByte_run, same.input, same.pos, found]
    rfl

theorem positional_nextBytes (k : Nat) : Positional P (nextBytes k) := by
  intro r _
  by_cases large : r.pos + k ≥ usizeLimit
  · refine ⟨0, .error .lengthOverflow, id, fun s same _ => ?_⟩
    rw [nextBytes_run, same.pos, if_pos large]
    rfl
  · by_cases short : r.pos + k > r.input.bytes.length
    · refine ⟨0, .error .unexpectedEof, id, fun s same _ => ?_⟩
      rw [nextBytes_run, same.input, same.pos, if_neg large, if_pos short]
      rfl
    · refine ⟨k, .ok (r.input.slice r.pos k), fun _ => Nat.not_lt.mp short, fun s same _ => ?_⟩
      rw [nextBytes_run, same.input, same.pos, if_neg large, if_neg short]
      rfl

/-- A property of reading programs that the primitives have and sequencing keeps. -/
structure Composed (P : (α : Type) → ReaderM α → Prop) : Prop where
  pure {α : Type} (a : α) : P α (Pure.pure a)
  throw {α : Type} (e : Error) : P α (MonadExcept.throw e)
  bind {α β : Type} {m : ReaderM α} {next : α → ReaderM β} (first : P α m)
    (second : ∀ a, P β (next a)) : P β (m >>= next)
  position : P Nat position
  nextByte : P UInt8 nextByte
  nextBytes (n : Nat) : P Octets (nextBytes n)

namespace Composed
variable {P : (α : Type) → ReaderM α → Prop} (composed : Composed P)
include composed

theorem map (f : α → β) (known : P α m) : P β (do return f (← m)) :=
  composed.bind known fun a => composed.pure (f a)

theorem readLe (n : Nat) : P Nat (readLe n) := composed.map _ (composed.nextBytes n)

theorem readU16Le : P UInt16 readU16Le := composed.map _ (composed.readLe 2)

theorem readU32Le : P UInt32 readU32Le := composed.map _ (composed.readLe 4)

theorem readTag (control : UInt8) : P Tag (readTag control) := by
  rw [TlvReader.readTag]
  split
  · exact composed.pure _
  · exact composed.map _ composed.nextByte
  · exact composed.map _ composed.readU16Le
  · exact composed.map _ composed.readU32Le
  · exact composed.map _ composed.readU16Le
  · exact composed.map _ composed.readU32Le
  · exact composed.bind composed.readU16Le fun _ => composed.bind composed.readU16Le fun _ =>
      composed.map _ composed.readU16Le
  · exact composed.bind composed.readU16Le fun _ => composed.bind composed.readU16Le fun _ =>
      composed.map _ composed.readU32Le
  · exact composed.throw _

theorem readNumber (width : Width) : P Nat (readNumber width) := by
  cases width with
  | w8 => exact composed.map _ composed.nextByte
  | _ => exact composed.readLe _

theorem readUtf8Ref (len : Nat) : P ValueRef (readUtf8Ref len) := by
  refine composed.bind (composed.nextBytes len) fun octets => ?_
  split
  · exact composed.throw _
  · exact composed.pure _

theorem readValueBodyRef (elemType : UInt8) : P ValueRef (readValueBodyRef elemType) := by
  rw [TlvReader.readValueBodyRef]
  split
  · exact composed.pure _
  · exact composed.pure _
  · exact composed.map _ (composed.readNumber _)
  · exact composed.map _ (composed.readNumber _)
  · exact composed.map _ composed.readU32Le
  · exact composed.map _ (composed.map _ (composed.readLe 8))
  · exact composed.bind (composed.readNumber _) composed.readUtf8Ref
  · exact composed.bind (composed.readNumber _) fun _ => composed.map _ (composed.nextBytes _)
  · exact composed.throw _

theorem readElement (depth : Nat) : P (ElementRef × Nat) (readElement depth) := by
  refine composed.bind composed.nextByte fun control => ?_
  simp only
  split
  · split
    · exact composed.throw _
    split
    · exact composed.throw _
    · exact composed.map _ composed.position
  refine composed.bind (composed.readTag control) fun tag => ?_
  refine composed.bind composed.position fun body => ?_
  split
  · split
    · exact composed.throw _
    · exact composed.pure _
  · exact composed.map _ (composed.readValueBodyRef _)

theorem discard (n : Nat) : P Unit (do let _ ← TlvReader.nextBytes n) :=
  composed.map _ (composed.nextBytes n)

theorem skipValueBody (elemType : UInt8) : P Unit (skipValueBody elemType) := by
  rw [TlvReader.skipValueBody]
  split
  · exact composed.discard _
  · exact composed.discard _
  · exact composed.discard _
  · exact composed.discard _
  · exact composed.discard _
  · exact composed.discard _
  · exact composed.bind (composed.readNumber _) composed.discard
  · exact composed.bind (composed.readNumber _) composed.discard
  · exact composed.throw _

end Composed

theorem composed_positional : Composed fun _ m => Positional P m :=
  ⟨.pure, .throw, .bind, positional_position, positional_nextByte, positional_nextBytes⟩

theorem Same.isEmpty (same : Same r s) : s.isEmpty = r.isEmpty := by
  simp [TlvReader.isEmpty, same.input, same.pos]

theorem positional_skipLoop (fuel k : Nat) : Positional (d = ·) (skipLoop fuel k) := by
  induction fuel generalizing k with
  | zero =>
    cases k with
    | zero => exact .pure _
    | succ k => exact .throw _
  | succ fuel ih =>
    cases k with
    | zero => exact .pure _
    | succ k =>
      refine .getting (fun same here there => ?_) fun r _ => ?_
      · rw [same.isEmpty, ← here, ← there]
      split
      · exact .throw _
      refine positional_nextByte.bind fun control => ?_
      simp only
      split
      · split
        · exact .throw _
        split
        · exact .throw _
        · exact ih k
      refine (composed_positional.readTag control).bind fun tag => ?_
      split
      · split
        · exact .throw _
        · exact ih (k + 2)
      · exact (composed_positional.skipValueBody _).bind fun _ => ih (k + 1)

/-- The same reader with another budget. -/
def funded (r : TlvReader) (budget : Nat) : TlvReader := { r with elementBudget := budget }

/-- A result over the reader with another budget. -/
def fund (budget : Nat) : EStateM.Result Error TlvReader α → EStateM.Result Error TlvReader α
  | .ok a r => .ok a (r.funded budget)
  | .error e r => .error e (r.funded budget)

/-- From `r` the program does not use the budget, and it does not move back. -/
structure BlindAt (r : TlvReader) (m : ReaderM α) : Prop where
  same : ∀ budget, m.run (r.funded budget) = fund budget (m.run r)
  onward : Onward r (final (m.run r))

namespace BlindAt
variable {m : ReaderM α} {next : α → ReaderM β} {r : TlvReader}

theorem pure (bound : r.InBounds) (a : α) : BlindAt r (Pure.pure a) :=
  ⟨fun _ => rfl, .refl bound⟩

theorem throw (bound : r.InBounds) (e : Error) : BlindAt r (MonadExcept.throw e : ReaderM α) :=
  ⟨fun _ => rfl, .refl bound⟩

theorem of_positional (bound : r.InBounds) (positional : Positional (r.depth = ·) m) :
    BlindAt r m := by
  obtain ⟨n, out, within, ran⟩ := positional r rfl
  have here := ran r ⟨rfl, rfl⟩ rfl
  have moved : Onward r (r.advance n) := ⟨rfl, Nat.le_add_right _ _, within bound⟩
  constructor
  · intro budget
    rw [here, ran (r.funded budget) ⟨rfl, rfl⟩ rfl]
    cases out <;> rfl
  · rw [here]
    cases out <;> exact moved

theorem bind (first : BlindAt r m) (second : ∀ a r', r'.InBounds → BlindAt r' (next a)) :
    BlindAt r (m >>= next) := by
  obtain ⟨same, onward⟩ := first
  cases ran : m.run r with
  | ok a r' =>
    rw [ran] at same onward
    have later := second a r' onward.within
    refine ⟨fun budget => ?_, ?_⟩
    · rw [run_bind_ok ran, run_bind_ok (same budget)]
      exact later.same budget
    · rw [run_bind_ok ran]
      exact onward.trans later.onward
  | error e r' =>
    rw [ran] at same onward
    refine ⟨fun budget => ?_, ?_⟩
    · rw [run_bind_error ran]
      exact run_bind_error (same budget)
    · rw [run_bind_error ran]
      exact onward

theorem getting (same : ∀ budget, f (r.funded budget) = f r) (inside : BlindAt r (f r)) :
    BlindAt r (get >>= f) := by
  refine ⟨fun budget => ?_, inside.onward⟩
  rw [run_bind_ok (run_get _), same]
  exact inside.same budget

theorem modifying (onward : Onward r (f r))
    (same : ∀ budget, f (r.funded budget) = (f r).funded budget) :
    BlindAt r (modify f : ReaderM PUnit) :=
  ⟨fun budget => congrArg (EStateM.Result.ok PUnit.unit) (same budget), onward⟩

end BlindAt

theorem blindAt_nextRef (bound : r.InBounds) : BlindAt r nextRef := by
  have filled : BlindAt r (nextFilled r) := by
    refine (BlindAt.of_positional bound (composed_positional.readElement r.depth)).bind ?_
    intro _ _ inside
    refine (BlindAt.modifying ⟨rfl, Nat.le_refl _, inside⟩ fun _ => rfl).bind fun _ _ later => ?_
    exact .pure later _
  constructor
  · intro budget
    rw [nextRef_run, nextRef_run r, show (r.funded budget).isEmpty = r.isEmpty from rfl]
    split
    · rfl
    · exact filled.same budget
  · rw [nextRef_run]
    split
    · exact .refl bound
    · exact filled.onward

/-- Charge one element. -/
def chargeNow : ReaderM Unit := do
  let r ← get
  if r.elementBudget = 0 then throw .elementBudgetExceeded
  else set (r.funded (r.elementBudget - 1))

theorem chargeNow_run (r : TlvReader) : chargeNow.run r =
    if r.elementBudget = 0 then .error .elementBudgetExceeded r
    else .ok () (r.funded (r.elementBudget - 1)) := by
  rw [chargeNow, run_bind_ok (run_get _)]
  split <;> rfl

/-- The value of an element that was decoded; `members` reads the children of a container. -/
def meteredChild (members : ContainerKind → ReaderM (List (Tag × Value))) :
    ElementRef → ReaderM Value
  | .scalar _ value => do
    chargeNow
    return ofRef value
  | .containerStart _ kind => do
    chargeNow
    return ofMembers kind (← members kind)
  | .containerEnd => throw .unclosedContainer

def meteredMembers (kind : ContainerKind) : Nat → List (Tag × Value) → ReaderM (List (Tag × Value))
  | 0, _ => throw .unclosedContainer
  | fuel + 1, acc => do
    match ← nextRef with
    | none => throw .unclosedContainer
    | some .containerEnd => return acc
    | some element =>
      if kind = .array ∧ element.tag ≠ .anonymous then throw .nonAnonymousArrayTag
      else
        let value ← meteredChild (fun kind => meteredMembers kind fuel []) element
        meteredMembers kind fuel (acc ++ [(element.tag, value)])

/-- `read_value` with a budget that is charged for every element. -/
def meteredValue : ReaderM (Tag × Value) := do
  match ← nextRef with
  | none => throw .unexpectedEof
  | some .containerEnd => throw .unexpectedEndOfContainer
  | some element =>
    let r ← get
    let value ← meteredChild (fun kind => meteredMembers kind (r.remaining + 1) []) element
    return (element.tag, value)

/-- A result paired with the budget in the reader it leaves behind. -/
def counting (m : ReaderM α) : ReaderM (α × Nat) := do
  let a ← m
  return (a, (← get).elementBudget)

/-- What follows the step that has returned an element: its value, and the local budget. -/
def readChild (charge : Bool) (fuel budget : Nat) : ElementRef → ReaderM (Value × Nat)
  | .scalar _ value => do return (ofRef value, ← chargeElement charge budget)
  | .containerStart _ kind => do
    let budget ← chargeElement charge budget
    syncBudget charge budget
    let opened ← get
    let child ← counting (readMembers charge kind fuel opened.elementBudget [])
    return (ofMembers kind child.1, if charge then child.2 else budget)
  | .containerEnd => throw .unclosedContainer

theorem chargeElement_state (ran : (chargeElement charge budget).run r = .ok left r') : r = r' := by
  unfold chargeElement at ran
  split at ran
  · cases ran
    rfl
  · split at ran <;> cases ran
    rfl

section Element
variable {element : ElementRef} {r r' : TlvReader} (next : nextRef.run r = .ok (some element) r')
  (inside : element ≠ .containerEnd)
include next inside

theorem readMembers_child (allowed : ¬ (kind = .array ∧ element.tag ≠ .anonymous)) :
    (readMembers charge kind (fuel + 1) budget acc).run r =
      (readChild charge fuel budget element >>= fun child =>
        readMembers charge kind fuel child.2 (acc ++ [(element.tag, child.1)])).run r' := by
  rw [readMembers, run_bind_ok next]
  cases element with
  | containerEnd => exact absurd rfl inside
  | _ =>
    simp only [ElementRef.tag] at allowed
    simp [if_neg allowed, readChild, counting, bind_assoc, ElementRef.tag]

theorem meteredMembers_child (allowed : ¬ (kind = .array ∧ element.tag ≠ .anonymous)) :
    (meteredMembers kind (fuel + 1) acc).run r =
      (meteredChild (fun kind => meteredMembers kind fuel []) element >>= fun value =>
        meteredMembers kind fuel (acc ++ [(element.tag, value)])).run r' := by
  rw [meteredMembers, run_bind_ok next]
  cases element with
  | containerEnd => exact absurd rfl inside
  | _ => simp only [if_neg allowed]

theorem refused (tagged : kind = .array ∧ element.tag ≠ .anonymous) :
    (readMembers charge kind (fuel + 1) budget acc).run r = .error .nonAnonymousArrayTag r' ∧
      (meteredMembers kind (fuel + 1) acc).run r = .error .nonAnonymousArrayTag r' := by
  rw [readMembers, run_bind_ok next, meteredMembers, run_bind_ok next]
  cases element with
  | containerEnd => exact absurd rfl inside
  | _ =>
    exact ⟨congrArg (run · r') (if_pos tagged), congrArg (run · r') (if_pos tagged)⟩

theorem meteredValue_child : meteredValue.run r = (do
      let value ← meteredChild (fun kind => meteredMembers kind (r'.remaining + 1) []) element
      return (element.tag, value)).run r' := by
  rw [meteredValue, run_bind_ok next]
  cases element with
  | containerEnd => exact absurd rfl inside
  | _ => rfl

theorem readValueInner_child :
    (readValueInner charge).run r = (do
      let child ← readChild charge (r'.remaining + 1) r'.elementBudget element
      syncBudget charge child.2
      return (element.tag, child.1)).run r' := by
  rw [readValueInner, run_bind_ok next]
  cases element with
  | containerEnd => exact absurd rfl inside
  | scalar tag value =>
    simp only [readChild, bind_assoc, pure_bind, run_bind_ok (run_get _)]
    rfl
  | containerStart tag kind =>
    simp only [readChild, readContainerBody, counting, bind_assoc, pure_bind,
      run_bind_ok (run_get _)]
    refine run_bind_congr rfl fun left r₂ charged => ?_
    obtain rfl := chargeElement_state charged
    refine run_bind_congr rfl fun _ r₃ synced => ?_
    have same : r₃.remaining = r'.remaining := by
      cases synced
      cases charge <;> rfl
    simp only [run_bind_ok (run_get _), same]
    refine run_bind_congr rfl fun children r₄ _ => ?_
    cases charge <;> rfl

end Element

/-- The metered budget `x` next to a decode from `start` that is at `r` with the local budget `b`:
they are equal, or `b` is not used and `x` covers the rest of the input. -/
def Tracks (charge : Bool) (start : TlvReader) (b : Nat) (r : TlvReader) (x : Nat) : Prop :=
  if charge then x = b else r.elementBudget = start.elementBudget ∧ r.remaining ≤ x

theorem Tracks.charged (tracks : Tracks charge r b r x) (step : Accepted r element r') :
    if charge then x = b else r'.remaining < x := by
  cases charge with
  | true => exact tracks
  | false => exact step.remaining_lt (Nat.lt_succ_of_le tracks.2)

/-- The outcomes of a decode from `start` and of the metered one. -/
inductive Mirrors (charge : Bool) (start : TlvReader) :
    EStateM.Result Error TlvReader (α × Nat) → EStateM.Result Error TlvReader α → Prop
  | ok {a : α} {b : Nat} {r : TlvReader} {x : Nat} (onward : Onward start r)
    (tracks : Tracks charge start b r x) : Mirrors charge start (.ok (a, b) r) (.ok a (r.funded x))
  | error {e : Error} {r : TlvReader} {x : Nat} :
    Mirrors charge start (.error e r) (.error e (r.funded x))

namespace Mirrors

theorem bind {next : α × Nat → ReaderM (β × Nat)} {next' : α → ReaderM β}
    (first : Mirrors charge start (m.run r) (m'.run s))
    (rest : ∀ {a b r x}, Onward start r → Tracks charge start b r x →
      Mirrors charge start ((next (a, b)).run r) ((next' a).run (r.funded x))) :
    Mirrors charge start ((m >>= next).run r) ((m' >>= next').run s) := by
  rw [run_bind, run_bind]
  generalize m.run r = ours, m'.run s = metered at first
  cases first with
  | ok onward tracks => exact rest onward tracks
  | error => exact .error

theorem after (mirrors : Mirrors charge r ours metered) (onward : Onward start r)
    (kept : charge = false → r.elementBudget = start.elementBudget) :
    Mirrors charge start ours metered := by
  cases mirrors with
  | error => exact .error
  | ok further tracks =>
    refine .ok (onward.trans further) ?_
    cases charge with
    | true => exact tracks
    | false => exact ⟨tracks.1.trans (kept rfl), tracks.2⟩

/-- From where a decode has come, it goes on as one that starts there. -/
theorem resume (onward : Onward start r) (tracks : Tracks charge start b r x)
    (later : Tracks charge r b r x → Mirrors charge r ours metered) :
    Mirrors charge start ours metered := by
  cases charge with
  | true => exact (later tracks).after onward nofun
  | false => exact (later ⟨rfl, tracks.2⟩).after onward fun _ => tracks.1

theorem elim (mirrors : Mirrors charge start ((counting m).run s) metered) :
    (∃ a r x, m.run s = .ok a r ∧ metered = .ok a (r.funded x) ∧ Onward start r ∧
      Tracks charge start r.elementBudget r x) ∨
      ∃ e r x, m.run s = .error e r ∧ metered = .error e (r.funded x) := by
  rw [counting, run_bind] at mirrors
  cases ran : m.run s with
  | ok a t =>
    rw [ran] at mirrors
    cases mirrors with
    | ok onward tracks => exact .inl ⟨_, _, _, rfl, rfl, onward, tracks⟩
  | error e t =>
    rw [ran] at mirrors
    cases mirrors with
    | error => exact .inr ⟨_, _, _, rfl, rfl⟩

end Mirrors

theorem readChild_mirrors {element : ElementRef} (bound : r.InBounds)
    (enough : if charge then x = b else r.remaining < x)
    (members : ∀ {kind r x}, r.InBounds → Tracks charge r r.elementBudget r x →
      Mirrors charge r ((counting (readMembers charge kind fuel r.elementBudget [])).run r)
        ((meteredMembers kind fuel []).run (r.funded x))) :
    Mirrors charge r ((readChild charge fuel b element).run r)
      ((meteredChild (fun kind => meteredMembers kind fuel []) element).run (r.funded x)) := by
  cases charge with
  | true =>
    obtain rfl : x = b := enough
    cases x with
    | zero => cases element <;> exact .error
    | succ x =>
      cases element with
      | containerEnd => exact .error
      | scalar tag value => exact .ok (.refl bound) rfl
      | containerStart tag kind =>
        have body := @members kind (r.funded x) x bound rfl
        have opened : Onward r (r.funded x) := ⟨rfl, Nat.le_refl _, bound⟩
        show Mirrors true r ((counting (readMembers true kind fuel x []) >>= fun child =>
          pure (ofMembers kind child.1, child.2)).run (r.funded x))
          ((meteredMembers kind fuel [] >>= fun children => pure (ofMembers kind children)).run
            (r.funded x))
        exact (body.after opened nofun).bind .ok
  | false =>
    obtain ⟨x, rfl⟩ : ∃ n, x = n + 1 := ⟨x - 1, (Nat.sub_add_cancel (Nat.zero_lt_of_lt enough)).symm⟩
    have lasts : r.remaining ≤ x := Nat.le_of_lt_succ enough
    cases element with
    | containerEnd => exact .error
    | scalar tag value => exact .ok (.refl bound) ⟨rfl, lasts⟩
    | containerStart tag kind =>
      exact (members bound ⟨rfl, lasts⟩).bind fun onward tracks => .ok onward tracks

theorem readMembers_mirrors (fuel : Nat) (bound : r.InBounds) (tracks : Tracks charge r b r x) :
    Mirrors charge r ((counting (readMembers charge kind fuel b acc)).run r)
      ((meteredMembers kind fuel acc).run (r.funded x)) := by
  induction fuel generalizing kind b acc r x with
  | zero => exact .error
  | succ fuel ih =>
    have again := (blindAt_nextRef bound).same x
    unfold counting
    cases ran : nextRef.run r with
    | error e r' =>
      rw [ran] at again
      rw [readMembers, bind_assoc, run_bind_error ran, meteredMembers, run_bind_error again]
      exact .error
    | ok found r' =>
      rw [ran] at again
      cases found with
      | none =>
        rw [readMembers, bind_assoc, run_bind_ok ran, meteredMembers, run_bind_ok again]
        exact .error
      | some element =>
        have step := nextRef_sound bound ran
        have enough := tracks.charged step
        by_cases ends : element = .containerEnd
        · subst ends
          rw [readMembers, bind_assoc, run_bind_ok ran, meteredMembers, run_bind_ok again]
          cases charge with
          | true =>
            obtain rfl : x = b := tracks
            exact .ok (r := r'.funded x) ⟨step.input, step.onward.pos, step.within⟩ rfl
          | false => exact .ok step.onward ⟨step.budget, Nat.le_of_lt enough⟩
        by_cases tagged : kind = .array ∧ element.tag ≠ .anonymous
        · rw [run_bind_error (refused ran ends tagged).1,
            (@refused _ _ _ again ends kind true fuel 0 acc tagged).2]
          exact .error
        · rw [run_bind, readMembers_child ran ends tagged, ← run_bind, bind_assoc,
            meteredMembers_child again ends tagged]
          refine .bind ((readChild_mirrors step.within enough ih).after step.onward
            fun _ => step.budget) ?_
          exact fun onward tracks => .resume onward tracks fun tracks => ih onward.within tracks

theorem readValueInner_mirrors (bound : r.InBounds) (tracks : Tracks charge r r.elementBudget r x) :
    Mirrors charge r ((counting (readValueInner charge)).run r) (meteredValue.run (r.funded x)) := by
  have again := (blindAt_nextRef bound).same x
  unfold counting
  cases ran : nextRef.run r with
  | error e r' =>
    rw [ran] at again
    rw [readValueInner, bind_assoc, run_bind_error ran, meteredValue, run_bind_error again]
    exact .error
  | ok found r' =>
    rw [ran] at again
    by_cases legal : ∃ element, found = some element ∧ element ≠ .containerEnd
    · obtain ⟨element, rfl, inside⟩ := legal
      have step := nextRef_sound bound ran
      rw [run_bind, readValueInner_child ran inside, ← run_bind, bind_assoc,
        meteredValue_child again inside, step.budget]
      refine .bind ((readChild_mirrors step.within (tracks.charged step) (readMembers_mirrors _)).after
        step.onward fun _ => step.budget) fun onward tracks => ?_
      cases charge with
      | true => exact .ok ⟨onward.input, onward.pos, onward.within⟩ tracks
      | false => exact .ok onward tracks
    · rw [readValueInner, bind_assoc, run_bind_ok ran, meteredValue, run_bind_ok again]
      match found, legal with
      | none, _ | some .containerEnd, _ => exact .error
      | some (.scalar ..), legal
      | some (.containerStart ..), legal => exact absurd ⟨_, rfl, nofun⟩ legal

/-- A metered budget is that of the reader, or both cover the rest of the input. -/
def Covers (r : TlvReader) (x : Nat) : Prop :=
  x = r.elementBudget ∨ r.remaining ≤ x ∧ r.remaining ≤ r.elementBudget

/-- `read_value` next to the metered reader. -/
theorem readValue_metered (bound : r.InBounds) (covers : Covers r x) :
    (∃ a r' x', readValue.run r = .ok a r' ∧ meteredValue.run (r.funded x) = .ok a (r'.funded x') ∧
      Onward r r' ∧ Covers r' x') ∨
      ∃ e r' x', readValue.run r = .error e r' ∧
        meteredValue.run (r.funded x) = .error e (r'.funded x') := by
  have chosen : readValue.run r = (readValueInner (r.remaining > r.elementBudget)).run r := rfl
  by_cases charged : r.remaining > r.elementBudget
  · have same : x = r.elementBudget := covers.resolve_right fun both => by omega
    rw [chosen, decide_eq_true charged]
    obtain ⟨a, r', x', ran, metered, onward, tracks⟩ | failed :=
      (@readValueInner_mirrors true _ _ bound same).elim
    · exact .inl ⟨a, r', x', ran, metered, onward, .inl tracks⟩
    · exact .inr failed
  · have enough : r.remaining ≤ x := by
      obtain rfl | both := covers
      · exact Nat.not_lt.mp charged
      · exact both.1
    rw [chosen, decide_eq_false charged]
    obtain ⟨a, r', x', ran, metered, onward, kept, lasts⟩ | failed :=
      (@readValueInner_mirrors false _ _ bound ⟨rfl, enough⟩).elim
    · refine .inl ⟨a, r', x', ran, metered, onward, .inr ⟨lasts, ?_⟩⟩
      rw [kept]
      exact onward.remaining_le.trans (Nat.not_lt.mp charged)
    · exact .inr failed

end TlvReader
end Matter.Codec
