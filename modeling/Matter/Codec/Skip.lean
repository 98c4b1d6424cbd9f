import Matter.Codec.Canonical

/-! Skipping a container against walking through it. `skip_container_body` is a
second parser of the element grammar with a nesting counter of its own; one
element at a time it accepts what `next` accepts and fails as `next` fails,
except that it does not validate the text of strings. -/
namespace Matter.Codec
open Exits LittleEndian EStateM

namespace TlvReader

/-- A body as the skip sees it: nothing is kept and text is not validated. -/
def unobserved : EStateM.Result Error TlvReader α → EStateM.Result Error TlvReader Unit
  | .ok _ r => .ok () r
  | .error e r => if e = .invalidUtf8 then .ok () r else .error e r

theorem unobserved_bind_pure (m : ReaderM α) (f : α → β) (r : TlvReader) :
    unobserved ((m >>= fun a => pure (f a)).run r) = unobserved (m.run r) := by
  rw [run_bind]
  cases m.run r <;> rfl

/-- The skip takes a number of any width with `next_bytes`. -/
theorem unobserved_readNumber (width : Width) (bound : r.InBounds) :
    unobserved ((readNumber width).run r) = unobserved ((nextBytes width.bytes).run r) := by
  cases width with
  | w8 =>
    have small := bound.lt_usizeLimit
    rw [readNumber, unobserved_bind_pure, nextByte_run, Width.bytes, nextBytes_run,
      if_neg (by omega)]
    cases found : r.input.bytes[r.pos]? with
    | none =>
      have past := List.getElem?_eq_none_iff.mp found
      rw [if_pos (by omega)]
      rfl
    | some b =>
      have inside := (List.getElem?_eq_some_iff.mp found).1
      rw [if_neg (by omega)]
      rfl
  | _ => exact unobserved_bind_pure _ _ r

theorem nextBytes_ne_invalidUtf8 (n : Nat) (r r' : TlvReader) :
    (nextBytes n).run r ≠ .error .invalidUtf8 r' := by
  rw [nextBytes_run]
  split
  · simp
  · split <;> simp

theorem nextBytes_discard (n : Nat) (r : TlvReader) :
    (do let _ ← nextBytes n : ReaderM Unit).run r = unobserved ((nextBytes n).run r) := by
  rw [run_bind]
  cases ran : (nextBytes n).run r with
  | ok octets r' => rfl
  | error e r' =>
    have other : e ≠ .invalidUtf8 := fun same => nextBytes_ne_invalidUtf8 n r r' (same ▸ ran)
    simp [unobserved, if_neg other]

theorem nextBytes_zero (bound : r.InBounds) :
    (do let _ ← nextBytes 0 : ReaderM Unit).run r = .ok () r := by
  have small := bound.lt_usizeLimit
  unfold InBounds at bound
  rw [nextBytes_discard, nextBytes_run, if_neg (by omega), if_neg (by omega)]
  rfl

theorem unobserved_readUtf8Ref (len : Nat) (r : TlvReader) :
    unobserved ((readUtf8Ref len).run r) = unobserved ((nextBytes len).run r) := by
  rw [readUtf8Ref, run_bind]
  cases ran : (nextBytes len).run r with
  | ok octets r' =>
    simp only
    cases Text.ofUtf8? octets <;> rfl
  | error e r' => rfl

theorem readNumber_ne_invalidUtf8 (width : Width) (r r' : TlvReader) :
    (readNumber width).run r ≠ .error .invalidUtf8 r' := by
  intro failed
  cases width with
  | w8 =>
    rw [readNumber, run_bind, nextByte_run] at failed
    cases found : r.input.bytes[r.pos]? <;> rw [found] at failed <;> cases failed
  | _ =>
    change (readLe _).run r = _ at failed
    rw [readLe, run_bind] at failed
    split at failed
    · cases failed
    · rename_i ran
      cases failed
      exact nextBytes_ne_invalidUtf8 _ _ _ ran

theorem payload_run (width : Width) {read : Nat → ReaderM ValueRef} (r : TlvReader)
    (same : ∀ len s, unobserved ((read len).run s) = unobserved ((nextBytes len).run s)) :
    (do let _ ← nextBytes (← readPayloadLen width) : ReaderM Unit).run r =
      unobserved ((readPayloadLen width >>= read).run r) := by
  rw [run_bind, run_bind]
  cases ran : (readPayloadLen width).run r with
  | ok len s =>
    simp only [same]
    exact nextBytes_discard len s
  | error e s =>
    have other : e ≠ .invalidUtf8 := fun text => readNumber_ne_invalidUtf8 width r s (text ▸ ran)
    simp [unobserved, if_neg other]

theorem skipValueBody_run (elemType : UInt8) {r : TlvReader} (bound : r.InBounds) :
    (skipValueBody elemType).run r = unobserved ((readValueBodyRef elemType).run r) := by
  rw [skipValueBody, readValueBodyRef]
  cases ElementType.ofCode? elemType with
  | none => rfl
  | some type =>
    cases type with
    | bool b | null => exact nextBytes_zero bound
    | uint width | int width =>
      rw [nextBytes_discard, unobserved_bind_pure, unobserved_readNumber width bound]
    | float32 =>
      rw [nextBytes_discard, unobserved_bind_pure, readU32Le, unobserved_bind_pure, readLe,
        unobserved_bind_pure]
    | float64 =>
      simp only
      rw [nextBytes_discard, unobserved_bind_pure, readU64Le, unobserved_bind_pure, readLe,
        unobserved_bind_pure]
    | utf8 width => exact payload_run width r unobserved_readUtf8Ref
    | bytes width => exact payload_run width r fun len s => unobserved_bind_pure _ _ s
    | container kind => rfl
    | endOfContainer => rfl

/-- How a walk through a container's elements ends when no element is malformed. -/
inductive Walked where
  | closed
  | endOfInput
  deriving DecidableEq, Repr

/-- Call `next` until `open` containers are closed. -/
def walk : Nat → Nat → ReaderM Walked
  | _, 0 => return .closed
  | 0, _ => return .endOfInput
  | fuel + 1, depth + 1 => do
    match ← nextRef with
    | none => return .endOfInput
    | some .containerEnd => walk fuel depth
    | some (.containerStart _ _) => walk fuel (depth + 2)
    | some (.scalar _ _) => walk fuel (depth + 1)

/-- Call `next` until the matching end of the container that was just opened. -/
def walkContainer : ReaderM Walked := do
  let r ← get
  walk (r.remaining + 1) 1

/-- The skip at local nesting `k + 1` next to a walk that has opened `k` containers
inside the one being skipped. -/
structure Aligned (k : Nat) (s w : TlvReader) : Prop where
  same : Same s w
  depth : w.depth = s.depth + k

/-- How the walk ends when the skip has ended in a given way. -/
def Agrees (depth : Nat) (walked : EStateM.Result Error TlvReader Walked) :
    EStateM.Result Error TlvReader Unit → Prop
  | .ok _ s =>
    (∃ w, walked = .ok .closed w ∧ w.pos = s.pos ∧ w.depth + 1 = depth) ∨
      ∃ w, walked = .error .invalidUtf8 w ∧ w.pos ≤ s.pos
  | .error e s =>
    (∃ w, walked = .error e w ∧ w.pos = s.pos) ∨
      (∃ w, walked = .error .invalidUtf8 w ∧ w.pos ≤ s.pos) ∨
      (e = .unclosedContainer ∧ ∃ w, walked = .ok .endOfInput w ∧ w.pos = s.pos)

/-- The skip moves the position and nothing else, however it ends. -/
theorem skipLoop_advances (fuel k : Nat) (s : TlvReader) :
    ∃ n, final ((skipLoop fuel k).run s) = s.advance n := by
  obtain ⟨n, out, _, ran⟩ := positional_skipLoop fuel k s rfl
  refine ⟨n, ?_⟩
  rw [ran s ⟨rfl, rfl⟩ rfl]
  cases out <;> rfl

theorem agrees_garbled {depth : Nat} (garbled : walked = .error .invalidUtf8 w)
    (before : w.pos ≤ (final skipped).pos) : Agrees depth walked skipped := by
  cases skipped with
  | ok _ s => exact .inr ⟨w, garbled, before⟩
  | error e s => exact .inr (.inl ⟨w, garbled, before⟩)

/-- Both read the same octets; only the depth and the text of strings tell them apart. -/
theorem skipLoop_walk (fuel k : Nat) (aligned : Aligned k s w) :
    Agrees s.depth ((walk fuel (k + 1)).run w) ((skipLoop fuel (k + 1)).run s) := by
  induction fuel generalizing k s w with
  | zero => exact .inr (.inr ⟨rfl, w, rfl, aligned.same.pos⟩)
  | succ fuel ih =>
    obtain ⟨same, depth⟩ := aligned
    have self : Same s s := ⟨rfl, rfl⟩
    rw [skipLoop, run_bind_ok (run_get _), walk, nextRef, bind_assoc,
      run_bind_ok (run_get _), same.isEmpty]
    cases filled : s.isEmpty with
    | true => exact .inr (.inr ⟨rfl, w, rfl, same.pos⟩)
    | false =>
    have bound : s.InBounds := Nat.le_of_lt (by simpa [isEmpty] using filled)
    rw [if_neg Bool.false_ne_true, if_neg Bool.false_ne_true, bind_assoc]
    obtain ⟨n, read, within, byte⟩ := @positional_nextByte (fun _ => True) s trivial
    have self₁ := self.advance n
    have same₁ := same.advance n
    cases read with
    | error e =>
      rw [run_bind_error (byte s self trivial), run_bind_error (byte w same trivial)]
      exact .inl ⟨_, rfl, same₁.pos⟩
    | ok control =>
    rw [run_bind_ok (byte s self trivial), run_bind_ok (byte w same trivial)]
    by_cases isEnd : control &&& elementTypeMask = ElementType.endOfContainer.code
    -- an end marker, or what looks like one
    · simp only [if_pos isEnd]
      by_cases bare : control &&& tagControlMask = TagControl.anonymous.bits
      · simp only [if_neg (not_not.mpr bare)]
        by_cases top : w.depth = 0
        · rw [if_pos top, if_pos ⟨by omega, by omega⟩]
          exact .inl ⟨_, rfl, same₁.pos⟩
        · rw [if_neg top, if_neg (by omega), bind_assoc, run_bind_ok (run_modify ..)]
          cases k with
          | zero =>
            have closed : ∀ r, (walk fuel 0).run r = .ok .closed r := by
              cases fuel <;> exact fun _ => rfl
            have skipped : (skipLoop fuel 0).run (s.advance n) = .ok () (s.advance n) := by
              cases fuel <;> rfl
            rw [skipped]
            exact .inl ⟨_, closed _, same₁.pos, show w.depth - 1 + 1 = s.depth by omega⟩
          | succ k =>
            exact ih k ⟨⟨same₁.input, same₁.pos⟩, show w.depth - 1 = s.depth + k by omega⟩
      · simp only [if_pos bare]
        exact .inl ⟨_, rfl, same₁.pos⟩
    · simp only [if_neg isEnd, bind_assoc]
      obtain ⟨m, read, within', tagged⟩ :=
        @Composed.readTag _ (@composed_positional fun _ => True) control (s.advance n) trivial
      have self₂ := self₁.advance m
      have same₂ := same₁.advance m
      cases read with
      | error e =>
        rw [run_bind_error (tagged _ self₁ trivial), run_bind_error (tagged _ same₁ trivial)]
        exact .inl ⟨_, rfl, same₂.pos⟩
      | ok tag =>
      rw [run_bind_ok (tagged _ self₁ trivial), run_bind_ok (tagged _ same₁ trivial), nextTagged,
        bind_assoc, run_bind_ok (run_get _)]
      cases opens : containerKind (control &&& elementTypeMask) with
      | some kind =>
        simp only
        by_cases full : ((w.advance n).advance m).depth ≥ maxDepth
        · rw [if_pos full]
          rw [show ((w.advance n).advance m).depth = w.depth from rfl, depth] at full
          rw [if_pos (by omega)]
          exact .inl ⟨_, rfl, same₂.pos⟩
        · rw [if_neg full]
          rw [show ((w.advance n).advance m).depth = w.depth from rfl, depth] at full
          rw [if_neg (by omega)]
          exact ih (k + 1) ⟨⟨same₂.input, same₂.pos⟩, congrArg (· + 1) depth⟩
      | none =>
        -- the skip passes over text that the walk refuses
        obtain ⟨j, read, _, body⟩ := @Composed.readValueBodyRef _ (@composed_positional fun _ => True)
          (control &&& elementTypeMask) ((s.advance n).advance m) trivial
        have same₃ := same₂.advance j
        have passed := skipValueBody_run (control &&& elementTypeMask) (within' (within bound))
        rw [body _ self₂ trivial] at passed
        simp only [bind_assoc]
        cases read with
        | ok value =>
          rw [run_bind_ok passed, run_bind_ok (body _ same₂ trivial)]
          exact ih k ⟨⟨same₃.input, same₃.pos⟩, depth⟩
        | error e =>
          rw [run_bind_error (body _ same₂ trivial)]
          rw [settle, unobserved] at passed
          by_cases text : e = .invalidUtf8
          · rw [if_pos text] at passed
            rw [run_bind_ok passed]
            obtain ⟨i, moved⟩ := skipLoop_advances fuel (k + 1) (((s.advance n).advance m).advance j)
            refine agrees_garbled (congrArg (EStateM.Result.error · _) text) (same₃.pos.trans_le ?_)
            rw [moved]
            exact Nat.le_add_right _ i
          · rw [if_neg text] at passed
            rw [run_bind_error passed]
            exact .inl ⟨_, rfl, same₃.pos⟩

/-- The reader behind a container that was skipped. -/
def skipped (r : TlvReader) : TlvReader :=
  { r with
    depth := r.depth - 1
    lastSpan := r.lastSpan.map fun header => { header with stop := r.pos }
    lastWasContainerStart := false }

theorem skipContainer_run (r : TlvReader) :
    skipContainer.run r =
      match (skipLoop (r.remaining + 1) 1).run r with
      | .ok _ s => .ok () s.skipped
      | .error e s => .error e s := by
  rw [skipContainer, skipContainerBody, bind_assoc, run_bind_ok (run_get _), bind_assoc]
  cases ran : (skipLoop (r.remaining + 1) 1).run r with
  | ok _ s =>
    rw [run_bind_ok ran]
    rfl
  | error e s => rw [run_bind_error ran]

/-- Skipping against walking to the matching end, from any reader, so also from
one that has just returned the start of a container: the same position and depth
or the same error, except where a string inside is not UTF-8, and except that
the walk meets the end of the input as `None`. -/
theorem skipContainer_walkContainer (r : TlvReader) :
    (∀ w, walkContainer.run r = .ok .closed w →
      ∃ s, skipContainer.run r = .ok () s ∧ s.pos = w.pos ∧ s.depth = w.depth) ∧
    (∀ s, skipContainer.run r = .ok () s →
      (∃ w, walkContainer.run r = .ok .closed w ∧ w.pos = s.pos ∧ w.depth = s.depth) ∨
      ∃ w, walkContainer.run r = .error .invalidUtf8 w) ∧ (∀ e s, skipContainer.run r = .error e s →
      (∃ w, walkContainer.run r = .error e w) ∨
      (∃ w, walkContainer.run r = .error .invalidUtf8 w ∧ w.pos ≤ s.pos) ∨
      (e = .unclosedContainer ∧ ∃ w, walkContainer.run r = .ok .endOfInput w)) := by
  have aligned : Aligned 0 r r := ⟨⟨rfl, rfl⟩, rfl⟩
  have agrees : Agrees r.depth (walkContainer.run r) _ := skipLoop_walk (r.remaining + 1) 0 aligned
  have skips := skipContainer_run r
  obtain ⟨n, moved⟩ := skipLoop_advances (r.remaining + 1) 1 r
  cases ran : (skipLoop (r.remaining + 1) 1).run r with
  | ok _ s =>
    rw [ran] at agrees skips moved
    have depth : s.depth = (r.advance n).depth := congrArg TlvReader.depth moved
    simp only [advance] at depth
    refine ⟨?_, ?_, ?_⟩
    · intro w walked
      obtain ⟨v, closed, pos, open_⟩ | ⟨v, garbled, _⟩ := agrees
      · rw [walked] at closed
        cases closed
        refine ⟨_, skips, pos.symm, ?_⟩
        show s.depth - 1 = w.depth
        omega
      · rw [walked] at garbled
        cases garbled
    · intro t skipped
      rw [skips] at skipped
      cases skipped
      obtain ⟨w, closed, pos, open_⟩ | ⟨w, garbled, _⟩ := agrees
      · refine .inl ⟨w, closed, pos, ?_⟩
        show w.depth = s.depth - 1
        omega
      · exact .inr ⟨w, garbled⟩
    · intro e t failed
      rw [skips] at failed
      cases failed
  | error e s =>
    rw [ran] at agrees skips
    refine ⟨?_, ?_, ?_⟩
    · intro w walked
      rw [walked] at agrees
      obtain ⟨v, failed, _⟩ | ⟨v, garbled, _⟩ | ⟨_, v, ended, _⟩ := agrees
      · cases failed
      · cases garbled
      · cases ended
    · intro t skipped
      rw [skips] at skipped
      cases skipped
    · intro e' t failed
      rw [skips] at failed
      cases failed
      obtain ⟨w, failed, _⟩ | garbled | ⟨unclosed, w, ended, _⟩ := agrees
      · exact .inl ⟨w, failed⟩
      · exact .inr (.inl garbled)
      · exact .inr (.inr ⟨unclosed, w, ended⟩)

/-- A string that is not UTF-8 stops the walk, not the skip. -/
example :
    let input : Octets := ⟨[0x15, 0x0c, 0x01, 0xff, 0x18], by decide⟩
    let r := final (nextRef.run (new input))
    final (skipContainer.run r) = ((new input).advance 5).returning 0 1 false ∧
      walkContainer.run r = .error .invalidUtf8 (r.advance 3) :=
  ⟨rfl, rfl⟩

end TlvReader
end Matter.Codec
