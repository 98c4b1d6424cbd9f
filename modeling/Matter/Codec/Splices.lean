import Matter.Codec.Members

/-! Elements that are passed on as bytes. An element of the grammar may spell its
integers and lengths wider than it has to, so it is not the encoding of a value; the
raw skip still finds its end, and the span it reports is the body of the container. -/
namespace Matter.Codec
open Exits LittleEndian

/-- One complete anonymous structure whose members nest at most `n` deep. -/
def IsStruct (n : Nat) (element : Bytes) : Prop :=
  ∃ members : List Bytes, element = enclose .anonymous .struct members.flatten ∧
    ∀ member ∈ members, Nested n member

namespace TlvReader

theorem Closes.skipContainerSpan (closes : Closes d body) (bound : r.InBounds)
    (opened : r.depth = d) (positive : 0 < d) (here : r.rest = body ++ tail)
    (started : r.lastSpan = some header) (fresh : r.lastWasContainerStart = true) :
    ∃ r', skipContainerSpan.run r = .ok { header with stop := r.pos + body.length } r' ∧
      Moved r r' body.length (d - 1) r.elementBudget := by
  have skipped := closes.skipContainerBody bound opened positive here
  rw [TlvReader.skipContainerSpan, run_bind_ok (EStateM.run_get _), started]
  simp only [fresh, Bool.not_true, Bool.false_eq_true, if_false]
  rw [run_bind_ok skipped, run_bind_ok (EStateM.run_get _), run_bind_ok (EStateM.run_set ..)]
  exact ⟨_, rfl, rfl, rfl, congrArg (· - 1) opened, rfl⟩

/-- A container that is opened and then taken as a span: its body is read off as it
stands. -/
theorem nextRef_span (bound : r.InBounds)
    (here : r.rest = encodeTag tag (.container kind) ++ (body ++ tail))
    (shallow : r.depth < maxDepth) (closes : Closes (r.depth + 1) body) :
    ∃ opened span r', nextRef.run r = .ok (some (.containerStart tag kind)) opened ∧
      skipContainerSpan.run opened = .ok span r' ∧ r'.spanBytes span.bodyStart span.stop = body ∧
      Moved r r' (encodeTag tag (.container kind) ++ body).length r.depth r.elementBudget := by
  have bound' := inBounds_advance bound here
  have here' := rest_advance here
  have inside := inBounds_advance bound' here'
  have opens := nextRef_opens bound here shallow
  generalize sized : (encodeTag tag (.container kind)).length = h at *
  obtain ⟨r', skipped, moved⟩ := closes.skipContainerSpan (r := r.entered h) bound' rfl
    (Nat.succ_pos _) here' rfl rfl
  refine ⟨_, _, r', opens, skipped, ?_, ?_⟩
  · have cut : (r'.input.slice (r.pos + h) body.length).bytes = body := by
      rw [moved.input, Octets.slice]
      exact (congrArg (List.take body.length) here').trans List.take_left
    have whole : r.pos + h + body.length ≤ r'.input.bytes.length := by
      rw [moved.input]
      exact inside
    rw [spanBytes, if_pos ⟨Nat.le_add_right _ _, whole⟩]
    exact (congrArg (fun n => (r'.input.slice (r.pos + h) n).bytes) (Nat.add_sub_cancel_left ..)).trans
      cut
  · rw [List.length_append, sized]
    have first : Moved r (r.entered h) h (r.depth + 1) r.elementBudget := ⟨rfl, rfl, rfl, rfl⟩
    exact first.trans moved

section Rounds
variable {ε σ α : Type} {wrap : Error → ε} {cut : ε} {d : Nat}
  {step : σ → ElementRef → ParserM ε (Flow σ α)}

/-- Rounds of a loop that go on: each takes some bytes. -/
inductive Rounds (wrap : Error → ε) (cut : ε) (step : σ → ElementRef → ParserM ε (Flow σ α))
    (d : Nat) : σ → Bytes → σ → Prop
  | nil (s : σ) : Rounds wrap cut step d s [] s
  | cons {s s' t : σ} {first rest : Bytes} (some : 0 < first.length)
    (here : Denotes (nextElement wrap cut >>= step s) d first (.ok (.again s')) d)
    (later : Rounds wrap cut step d s' rest t) : Rounds wrap cut step d s (first ++ rest) t

theorem Rounds.append (first : Rounds wrap cut step d s a t) (second : Rounds wrap cut step d t b u) :
    Rounds wrap cut step d s (a ++ b) u := by
  induction first with
  | nil s => exact second
  | cons some here later ih =>
    rw [List.append_assoc]
    exact .cons some here (ih second)

theorem Rounds.one (some : 0 < bytes.length)
    (here : Denotes (nextElement wrap cut >>= step s) d bytes (.ok (.again s')) d) :
    Rounds wrap cut step d s bytes s' := by
  have one := Rounds.cons some here (.nil s')
  rwa [List.append_nil] at one

theorem Denotes.then (head : Denotes m d first (.ok a) e)
    (tail : Denotes (next a) e second verdict f) :
    Denotes (m >>= next) d (first ++ second) verdict f :=
  head.bind (g := fun _ => verdict) (by rintro _ ⟨⟩; exact tail)

theorem Denotes.then_pure (head : Denotes m d first (.ok a) e) (rest : next a = Pure.pure b) :
    Denotes (m >>= next) d first (.ok b) e := by
  rw [← List.append_nil first]
  exact head.then (rest ▸ .pure b e)

theorem loopElements_succ (fuel : Nat) (s : σ) :
    loopElements wrap cut step (fuel + 1) s = (nextElement wrap cut >>= step s) >>= fun flow =>
      match flow with
      | .again state => loopElements wrap cut step fuel state
      | .leave result => return result := by
  rw [loopElements, bind_assoc]
  refine congrArg _ (funext fun element => congrArg _ (funext fun flow => ?_))
  cases flow <;> rfl

theorem Rounds.denotes_loop (rounds : Rounds wrap cut step d s bytes t)
    (last : Denotes (nextElement wrap cut >>= step t) d ending (.ok (.leave a)) left)
    (fueled : bytes.length < fuel) :
    Denotes (loopElements wrap cut step fuel s) d (bytes ++ ending) (.ok a) left := by
  induction rounds generalizing fuel with
  | nil s =>
    obtain ⟨fuel, rfl⟩ : ∃ less, fuel = less + 1 := ⟨fuel - 1, by omega⟩
    rw [loopElements_succ, List.nil_append, ← List.append_nil ending]
    exact last.then (.pure a left)
  | cons some here later ih =>
    rw [List.length_append] at fueled
    obtain ⟨fuel, rfl⟩ : ∃ less, fuel = less + 1 := ⟨fuel - 1, by omega⟩
    rw [loopElements_succ, List.append_assoc]
    exact here.then (ih last (by omega))

/-- A loop that takes some bytes round by round, and leaves in its last round. -/
theorem Rounds.denotes_elements (rounds : Rounds wrap cut step d s bytes t)
    (last : Denotes (nextElement wrap cut >>= step t) d ending (.ok (.leave a)) left) :
    Denotes (elements wrap cut step s) d (bytes ++ ending) (.ok a) left := by
  intro r tail bound opened here
  have size := congrArg List.length here
  simp only [List.length_append] at size
  exact rounds.denotes_loop last (by rw [remaining_eq]; omega) r tail bound opened here

/-- On the last `bytes` of a message, with `d` containers open, `m` succeeds. -/
def Concludes (m : ParserM ε α) (d : Nat) (bytes : Bytes) (a : α) : Prop :=
  ∀ r, r.InBounds → r.depth = d → r.rest = bytes → ∃ r', m.run r = .ok a r'

theorem Denotes.conclude (head : Denotes m d front (.ok a) e) (tail : Concludes (next a) e ending b) :
    Concludes (m >>= next) d (front ++ ending) b := by
  intro r bound opened here
  have ended := head r ending bound opened here
  generalize ran : m.run r = result at ended
  cases ended with
  | @ok r₁ _ moved =>
    obtain ⟨r', ended⟩ := tail r₁ (moved.inBounds bound here) moved.depth (moved.rest_eq here)
    exact ⟨r', by rw [run_bind_ok ran, ended]⟩

theorem concludes_finish (closes : ClosesAll d bytes) (a : α) :
    Concludes (do fromCodec wrap finish; return a) d bytes a := by
  rintro r bound rfl rfl
  obtain ⟨r', finished⟩ := closes.finish bound
  exact ⟨r', by rw [run_bind_ok (fromCodec_ok.mpr finished)]; rfl⟩

theorem Concludes.parseWhole (concludes : Concludes m 0 message.bytes a) :
    parseWhole m message = .ok a :=
  parseWhole_ok.mpr (concludes (new message) (inBounds_new message) rfl rfl)

end Rounds

end TlvReader
end Matter.Codec
