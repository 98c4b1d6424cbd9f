import Matter.Codec.Skip

/-! The raw skip against the grammar. An element of the grammar may spell its integers
and lengths wider than it has to, so it is not the encoding of a value; the skip still
finds its end, and the bytes it has passed over when it succeeds are the members of a
container in the grammar, through the end marker. -/
namespace Matter.Codec
open Exits LittleEndian

/-- One complete element whose containers nest at most `n` deep. -/
inductive Nested : Nat → Bytes → Prop
  | scalar {n : Nat} {form : TagControl} {type : ElementType} {tag body : Bytes}
    (tagged : tag.length = form.size) (valid : IsBody type body) :
    Nested n (controlOctet form type :: tag ++ body)
  | container {n : Nat} {form : TagControl} {kind : ContainerKind} {tag : Bytes}
    {children : List Bytes} (tagged : tag.length = form.size)
    (inner : ∀ child ∈ children, Nested n child) :
    Nested (n + 1) (controlOctet form (.container kind) :: tag ++
      (children.flatten ++ [ElementType.endOfContainer.code]))

/-- The rest of an open container whose members nest at most `n` deep, through its end. -/
def IsTail (n : Nat) (tail : Bytes) : Prop :=
  ∃ members : List Bytes, tail = members.flatten ++ [ElementType.endOfContainer.code] ∧
    ∀ member ∈ members, Nested n member

theorem IsTail.cons (nested : Nested n member) (shape : IsTail n tail) :
    IsTail n (member ++ tail) := by
  obtain ⟨members, rfl, each⟩ := shape
  exact ⟨member :: members, by simp, List.forall_mem_cons.mpr ⟨nested, each⟩⟩

namespace TlvReader

/-- `m` succeeds on the next `n` bytes, whatever they are. -/
def Skims (m : ReaderM α) (n : Nat) : Prop :=
  ∀ bytes : Bytes, bytes.length = n → ∃ a, Reads m bytes a

theorem Skims.bind (head : Skims m k) (tail : ∀ a, Skims (next a) l) :
    Skims (m >>= next) (k + l) := by
  intro bytes size
  obtain ⟨a, first⟩ := head (bytes.take k) (by simp; omega)
  obtain ⟨b, second⟩ := tail a (bytes.drop k) (by simp; omega)
  have whole := first.bind second
  rw [List.take_append_drop] at whole
  exact ⟨b, whole⟩

theorem Skims.map {m : ReaderM α} (skims : Skims m n) (f : α → β) : Skims (f <$> m) n := by
  intro bytes size
  obtain ⟨a, reads⟩ := skims bytes size
  exact ⟨f a, reads.map f⟩

theorem skims_pure (a : α) : Skims (pure a) 0 := by
  intro bytes size
  obtain rfl := List.eq_nil_of_length_eq_zero size
  exact ⟨a, .pure a⟩

theorem skims_nextByte : Skims nextByte 1 := by
  intro bytes size
  obtain ⟨b, rfl⟩ := List.length_eq_one_iff.mp size
  exact ⟨b, reads_nextByte b⟩

theorem skims_readLe (short : n < allocLimit) : Skims (readLe n) n := by
  rintro bytes rfl
  exact ⟨_, reads_readLe_raw bytes short⟩

theorem skims_readU16Le : Skims readU16Le 2 := by
  have raw : Skims (readLe 2) 2 := skims_readLe (by decide)
  simpa [readU16Le] using raw.map UInt16.ofNat

theorem skims_readU32Le : Skims readU32Le 4 := by
  have raw : Skims (readLe 4) 4 := skims_readLe (by decide)
  simpa [readU32Le] using raw.map UInt32.ofNat

theorem skims_readTag (form : TagControl) (type : ElementType) :
    Skims (readTag (controlOctet form type)) form.size := by
  simp only [readTag, controlOctet_form, TagControl.ofBits?_bits]
  cases form with
  | anonymous => exact skims_pure _
  | context => exact skims_nextByte.bind fun _ => skims_pure _
  | commonProfile2 | implicitProfile2 => exact skims_readU16Le.bind fun _ => skims_pure _
  | commonProfile4 | implicitProfile4 => exact skims_readU32Le.bind fun _ => skims_pure _
  | fullyQualified6 =>
    exact skims_readU16Le.bind fun _ => skims_readU16Le.bind fun _ =>
      skims_readU16Le.bind fun _ => skims_pure _
  | fullyQualified8 =>
    exact skims_readU16Le.bind fun _ => skims_readU16Le.bind fun _ =>
      skims_readU32Le.bind fun _ => skims_pure _

theorem reads_discard (bytes : Bytes) (size : bytes.length = n) :
    Reads (do let _ ← nextBytes n : ReaderM Unit) bytes () := by
  subst size
  intro r tail bound here
  have within := inBounds_advance bound here
  have small := within.lt_usizeLimit
  unfold InBounds at within
  simp only [advance] at within small
  have ran := nextBytes_run bytes.length r
  rw [if_neg (by omega), if_neg (by omega)] at ran
  exact run_bind_ok ran

theorem reads_skipString (sized : body.length = width.bytes + decode (body.take width.bytes)) :
    Reads (do let _ ← nextBytes (← readPayloadLen width) : ReaderM Unit) body () := by
  have field := reads_readNumber_raw width (body.take width.bytes) (by simp; omega)
  have string := reads_discard (body.drop width.bytes)
    (n := decode (body.take width.bytes)) (by simp; omega)
  rw [← List.take_append_drop width.bytes body]
  exact field.bind string

theorem reads_skipValueBody (valid : IsBody type body) :
    Reads (skipValueBody type.code) body () := by
  simp only [skipValueBody, ElementType.ofCode?_code]
  cases type with
  | int width | uint width => exact reads_discard body valid
  | bool b => exact reads_discard body (congrArg List.length valid)
  | float32 | float64 => exact reads_discard body valid
  | utf8 width | bytes width => exact reads_skipString valid
  | null => exact reads_discard body (congrArg List.length valid)
  | container kind | endOfContainer => exact valid.elim

/-- One round of the skip, up to the end of a tag. -/
theorem skipLoop_tagged (bound : r.InBounds) (here : r.rest = controlOctet form type :: tag ++ tail)
    (tagged : tag.length = form.size) (other : type ≠ .endOfContainer) (fuel k : Nat) :
    (skipLoop (fuel + 1) (k + 1)).run r =
      (match containerKind type.code with
        | some _ =>
          if r.depth + (k + 1) > maxDepth then throw .containerTooDeep else skipLoop fuel (k + 2)
        | none => do
          skipValueBody type.code
          skipLoop fuel (k + 1) : ReaderM Unit).run (r.advance (tag.length + 1)) := by
  obtain ⟨found, reads⟩ := skims_readTag form type tag tagged
  have control := reads_nextByte (controlOctet form type) r (tag ++ tail) bound here
  have split : r.rest = [controlOctet form type] ++ (tag ++ tail) := here
  have toTag := reads _ tail (inBounds_advance bound split) (rest_advance split)
  have differs : type.code ≠ ElementType.endOfContainer.code :=
    fun same => other (ElementType.code_inj same)
  rw [skipLoop, run_bind_ok (EStateM.run_get r), isEmpty_eq_false here, if_neg Bool.false_ne_true,
    run_bind_ok control]
  simp only [controlOctet_type, if_neg differs]
  rw [List.length_singleton, advance_advance, Nat.add_comm 1] at toTag
  exact run_bind_ok toTag

theorem skipLoop_end (bound : r.InBounds) (here : r.rest = ElementType.endOfContainer.code :: tail)
    (inside : 0 < r.depth + k) (fuel : Nat) :
    (skipLoop (fuel + 1) (k + 1)).run r = (skipLoop fuel k).run (r.advance 1) := by
  have control := reads_nextByte ElementType.endOfContainer.code r tail bound here
  rw [skipLoop, run_bind_ok (EStateM.run_get r), isEmpty_eq_false here, if_neg Bool.false_ne_true,
    run_bind_ok control, if_pos (by decide), if_neg (by decide), if_neg (by omega)]
  rfl

/-- With `d` containers open, those of the skip included, the skip passes over `bytes`. -/
def Passes (d : Nat) (bytes : Bytes) : Prop :=
  ∀ r k tail, r.InBounds → r.depth + k = d → r.rest = bytes ++ tail →
    ∃ rounds ≤ bytes.length, ∀ fuel, (skipLoop (fuel + rounds) (k + 1)).run r =
      (skipLoop fuel (k + 1)).run (r.advance bytes.length)

theorem Passes.append (first : Passes d a) (second : Passes d b) : Passes d (a ++ b) := by
  intro r k tail bound opened here
  rw [List.append_assoc] at here
  obtain ⟨m, few, passed⟩ := first r k _ bound opened here
  obtain ⟨n, few', passed'⟩ := second _ k tail (inBounds_advance bound here) opened
    (rest_advance here)
  refine ⟨n + m, by rw [List.length_append]; omega, fun fuel => ?_⟩
  rw [← Nat.add_assoc, passed, passed', advance_advance, List.length_append]

theorem Passes.flatten {children : List Bytes} (each : ∀ child ∈ children, Passes d child) :
    Passes d children.flatten := by
  induction children with
  | nil =>
    intro r k tail bound opened here
    exact ⟨0, Nat.le_refl _, fun fuel => rfl⟩
  | cons child rest ih =>
    obtain ⟨first, others⟩ := List.forall_mem_cons.mp each
    exact first.append (ih others)

/-- The skip passes over every element it has room for. -/
theorem passes_of_nested (nested : Nested n element) (fits : n ≤ maxDepth - d) :
    Passes d element := by
  induction nested generalizing d with
  | @scalar n form type tag body tagged valid =>
    intro r k tail bound opened here
    have scalar : containerKind type.code = none := by
      simp only [containerKind, ElementType.ofCode?_code]
      cases type <;> first | rfl | exact valid.elim
    have other : type ≠ .endOfContainer := by rintro rfl; exact valid
    rw [List.append_assoc] at here
    have skipped := reads_skipValueBody valid _ tail (inBounds_advance bound here)
      (rest_advance here)
    refine ⟨1, by simp, fun fuel => ?_⟩
    rw [skipLoop_tagged bound here tagged other, scalar]
    rw [List.length_cons] at skipped
    rw [run_bind_ok skipped, advance_advance, List.length_append, List.length_cons]
  | @container n form kind tag children tagged inner ih =>
    intro r k tail bound opened here
    have inside : Passes (d + 1) children.flatten :=
      .flatten fun child member => ih child member (by omega)
    rw [List.append_assoc, List.append_assoc] at here
    have bound' := inBounds_advance bound here
    have here' := rest_advance here
    obtain ⟨rounds, few, passed⟩ := inside _ (k + 1) _ bound'
      (show r.depth + (k + 1) = d + 1 by omega) here'
    have closes := skipLoop_end (k := k + 1) (inBounds_advance bound' here') (rest_advance here')
      (Nat.add_pos_right _ k.succ_pos)
    refine ⟨1 + rounds + 1, by simp only [List.length_append, List.length_cons]; omega, fun fuel => ?_⟩
    rw [← Nat.add_assoc, ← Nat.add_assoc, skipLoop_tagged bound here tagged (by simp),
      containerKind_code]
    simp only [if_neg (show ¬ r.depth + (k + 1) > maxDepth by omega)]
    rw [List.length_cons] at passed closes
    rw [passed, closes, advance_advance, advance_advance]
    simp only [List.length_append, List.length_cons, List.length_nil]

/-- The rest of an open container, through its end. -/
def Closes (d : Nat) (body : Bytes) : Prop :=
  ∃ members, body = members ++ [ElementType.endOfContainer.code] ∧ Passes d members

theorem closes_end (d : Nat) : Closes d [ElementType.endOfContainer.code] :=
  ⟨[], rfl, fun _ _ _ _ _ _ => ⟨0, Nat.le_refl _, fun _ => rfl⟩⟩

theorem closes_nested {members : List Bytes} (each : ∀ member ∈ members, Nested n member)
    (fits : n ≤ maxDepth - d) :
    Closes d (members.flatten ++ [ElementType.endOfContainer.code]) :=
  ⟨_, rfl, .flatten fun member found => passes_of_nested (each member found) fits⟩

theorem Closes.skipContainerBody (closes : Closes d body) (bound : r.InBounds)
    (opened : r.depth = d) (positive : 0 < d) (here : r.rest = body ++ tail) :
    skipContainerBody.run r = .ok () { r.advance body.length with depth := r.depth - 1 } := by
  obtain ⟨members, rfl, passes⟩ := closes
  rw [List.append_assoc] at here
  obtain ⟨rounds, few, passed⟩ := passes r 0 _ bound opened here
  have ends := skipLoop_end (k := 0) (inBounds_advance bound here) (rest_advance here)
    (show 0 < r.depth + 0 by omega)
  have size := congrArg List.length here
  simp only [List.length_append, List.length_singleton] at size
  have fueled : r.remaining + 1 = (r.remaining - rounds - 1) + 1 + 1 + rounds := by
    rw [remaining_eq]
    omega
  have ran : (skipLoop (r.remaining + 1) 1).run r =
      .ok () (r.advance (members.length + 1)) := by
    rw [fueled, passed, ends, advance_advance]
    rfl
  rw [TlvReader.skipContainerBody, run_bind_ok (EStateM.run_get r), run_bind_ok ran,
    List.length_append]
  rfl

/-- The rest of a message with `d` containers open, through their ends. -/
inductive ClosesAll : Nat → Bytes → Prop
  | nil : ClosesAll 0 []
  | cons {d : Nat} {body rest : Bytes} (here : Closes (d + 1) body) (later : ClosesAll d rest) :
    ClosesAll (d + 1) (body ++ rest)

theorem ClosesAll.closeAll (closes : ClosesAll d bytes) (bound : r.InBounds) (opened : r.depth = d)
    (here : r.rest = bytes) : ∃ r', (closeAll d).run r = .ok () r' ∧ r'.rest = [] := by
  induction closes generalizing r with
  | nil => exact ⟨r, rfl, here⟩
  | cons first later ih =>
    have skipped := first.skipContainerBody bound opened (Nat.succ_pos _) here
    obtain ⟨r', closed, done⟩ := ih (r := { r.advance _ with
        depth := r.depth - 1, lastWasContainerStart := false })
      (inBounds_advance bound here) (by simp [opened]) (rest_advance here)
    refine ⟨r', ?_, done⟩
    rw [TlvReader.closeAll, run_bind_ok skipped, run_bind_ok (EStateM.run_modify ..)]
    exact closed

theorem ClosesAll.finish (closes : ClosesAll r.depth r.rest) (bound : r.InBounds) :
    ∃ r', finish.run r = .ok () r' := by
  obtain ⟨r', closed, done⟩ := closes.closeAll bound rfl rfl
  have empty : r'.isEmpty = true := by
    have short := List.drop_eq_nil_iff.mp done
    simp only [isEmpty, ge_iff_le, decide_eq_true_eq]
    exact short
  rw [TlvReader.finish, run_bind_ok (EStateM.run_get _), run_bind_ok closed,
    run_bind_ok (EStateM.run_get _), if_pos empty]
  exact ⟨r', rfl⟩

/-- What a program has taken, between two positions. -/
def Takes (r r' : TlvReader) (Q : Bytes → Prop) : Prop :=
  ∃ bytes, Q bytes ∧ r.rest = bytes ++ r'.rest ∧ r' = r.advance bytes.length

theorem Takes.then (first : Takes r r₁ P) (second : Takes r₁ r' Q)
    (both : ∀ a b, P a → Q b → R (a ++ b)) : Takes r r' R := by
  obtain ⟨a, here, split, rfl⟩ := first
  obtain ⟨b, later, split', rfl⟩ := second
  refine ⟨a ++ b, both a b here later, ?_, ?_⟩
  · rw [split, split', List.append_assoc]
  · rw [advance_advance, List.length_append]

theorem Takes.depth (takes : Takes r r' Q) : r'.depth = r.depth := by
  obtain ⟨_, _, _, rfl⟩ := takes
  rfl

theorem Takes.inBounds (takes : Takes r r' Q) (bound : r.InBounds) : r'.InBounds := by
  obtain ⟨bytes, _, here, rfl⟩ := takes
  exact inBounds_advance bound here

theorem Consumes.takes (consumes : Consumes m Q) (bound : r.InBounds) (ran : m.run r = .ok a r') :
    Takes r r' fun bytes => Q a bytes.length := by
  obtain ⟨n, rfl, within, known⟩ := consumes r a r' ran
  have size : (r.rest.take n).length = n := by
    have inside := within bound
    unfold InBounds at inside
    simp only [advance] at inside
    simp only [rest, List.length_take, List.length_drop]
    omega
  refine ⟨r.rest.take n, ?_, ?_, ?_⟩
  · show Q a (r.rest.take n).length
    rwa [size]
  · simp only [rest, advance, ← List.drop_drop, List.take_append_drop]
  · rw [size]

theorem discard_takes (shape : ∀ bytes : Bytes, bytes.length = n → Q bytes) (bound : r.InBounds)
    (ran : (do let _ ← nextBytes n : ReaderM Unit).run r = .ok () r') : Takes r r' Q := by
  obtain ⟨_, r₁, bytesRan, rest⟩ := of_run_bind_ok ran
  cases rest
  obtain ⟨bytes, ⟨size, _⟩, here⟩ := (consumes_nextBytes n).takes bound bytesRan
  exact ⟨bytes, shape bytes size, here⟩

theorem skipString_takes (bound : r.InBounds)
    (ran : (do let _ ← nextBytes (← readPayloadLen width) : ReaderM Unit).run r = .ok () r') :
    Takes r r' fun body => body.length = width.bytes + decode (body.take width.bytes) := by
  obtain ⟨len, r₁, fieldRan, stringRan⟩ := of_run_bind_ok ran
  have field := (consumes_readNumber width).takes bound fieldRan
  have string := discard_takes (fun _ => id) (field.inBounds bound) stringRan
  obtain ⟨bytes, ⟨size, _⟩, here, _⟩ := field
  have known := reads_readNumber_raw width bytes size r _ bound here
  rw [show (readNumber width).run r = .ok len r₁ from fieldRan] at known
  cases known
  refine Takes.then ⟨bytes, rfl, here, rfl⟩ string fun a b same known => ?_
  subst same
  rw [List.length_append, known, List.take_left' size, size]

theorem skipValueBody_takes (bound : r.InBounds) (ran : (skipValueBody code).run r = .ok () r') :
    ∃ type, ElementType.ofCode? code = some type ∧ Takes r r' (IsBody type) := by
  rw [skipValueBody] at ran
  cases found : ElementType.ofCode? code with
  | none =>
    rw [found] at ran
    cases ran
  | some type =>
    rw [found] at ran
    refine ⟨type, rfl, ?_⟩
    cases type with
    | int width | uint width => exact discard_takes (fun _ => id) bound ran
    | bool b => exact discard_takes (fun _ => List.eq_nil_of_length_eq_zero) bound ran
    | float32 | float64 => exact discard_takes (fun _ => id) bound ran
    | utf8 width | bytes width => exact skipString_takes bound ran
    | null => exact discard_takes (fun _ => List.eq_nil_of_length_eq_zero) bound ran
    | container kind => cases ran
    | endOfContainer => cases ran

theorem or_masks (control : UInt8) :
    control &&& tagControlMask ||| control &&& elementTypeMask = control := by
  cases control with
  | ofBitVec bits => exact congrArg UInt8.ofBitVec (by revert bits; decide +kernel)

theorem controlOctet_of {control : UInt8}
    (form : TagControl.ofBits? (control &&& tagControlMask) = some f)
    (type : ElementType.ofCode? (control &&& elementTypeMask) = some t) :
    control = controlOctet f t := by
  have high : f.bits = control &&& tagControlMask := by simpa using List.find?_some form
  have low : t.code = control &&& elementTypeMask := by simpa using List.find?_some type
  rw [controlOctet, high, low, or_masks]

theorem nextByte_takes {control : UInt8} (shape : Q [control]) (bound : r.InBounds)
    (ran : nextByte.run r = .ok control r') : Takes r r' Q := by
  obtain ⟨bytes, one, here, rfl⟩ := consumes_nextByte.takes bound ran
  obtain ⟨b, rfl⟩ := List.length_eq_one_iff.mp one
  have first := reads_nextByte b r _ bound here
  rw [ran] at first
  cases first
  exact ⟨_, shape, here, rfl⟩

/-- A control octet and a tag that were read are the header of an element. -/
theorem header_takes {control : UInt8} (bound : r.InBounds)
    (byteRan : nextByte.run r = .ok control r₁) (tagRan : (readTag control).run r₁ = .ok found r') :
    Takes r r' fun bytes => ∃ form tag, tag.length = form.size ∧
      ∀ type, ElementType.ofCode? (control &&& elementTypeMask) = some type →
        bytes = controlOctet form type :: tag := by
  have byte : Takes r r₁ (· = [control]) := nextByte_takes rfl bound byteRan
  refine byte.then ((consumes_readTag control).takes (byte.inBounds bound) tagRan) ?_
  rintro _ tag rfl ⟨form, written, size, _⟩
  refine ⟨form, tag, size, fun type known => ?_⟩
  rw [controlOctet_of written known]
  rfl

theorem containerKind_some (opens : containerKind code = some kind) :
    ElementType.ofCode? code = some (.container kind) := by
  unfold containerKind at opens
  split at opens
  · cases opens
    assumption
  · cases opens

/-- A skip that succeeds has first passed over the rest of the innermost container. -/
theorem skipLoop_takes {r r' : TlvReader} (bound : r.InBounds)
    (ran : (skipLoop fuel (k + 1)).run r = .ok () r') :
    ∃ less r₁, less < fuel ∧ 0 < r.depth + k ∧ Takes r r₁ (IsTail (maxDepth - (r.depth + k))) ∧
      (skipLoop less k).run r₁ = .ok () r' := by
  induction fuel using Nat.strongRecOn generalizing k r with
  | _ fuel ih =>
  obtain _ | fuel := fuel
  · cases ran
  have shorter := Nat.lt_succ_self fuel
  rw [skipLoop, run_bind_ok (EStateM.run_get _)] at ran
  split at ran
  · cases ran
  obtain ⟨control, r₁, byteRan, restRan⟩ := of_run_bind_ok ran
  simp only at restRan
  split at restRan
  · rename_i isEnd
    split at restRan
    · cases restRan
    rename_i bare
    split at restRan
    · cases restRan
    have marker : control = controlOctet .anonymous .endOfContainer :=
      controlOctet_of (by rw [not_not.mp bare, TagControl.ofBits?_bits])
        (by rw [isEnd, ElementType.ofCode?_code])
    have tail : IsTail (maxDepth - (r.depth + k)) [control] := ⟨[], by rw [marker]; rfl, by simp⟩
    exact ⟨fuel, r₁, shorter, by omega, nextByte_takes tail bound byteRan, restRan⟩
  · obtain ⟨_, r₂, tagRan, bodyRan⟩ := of_run_bind_ok restRan
    have header := header_takes bound byteRan tagRan
    have element : ∃ less r₃, less < fuel + 1 ∧ Takes r r₃ (Nested (maxDepth - (r.depth + k))) ∧
        (skipLoop less (k + 1)).run r₃ = .ok () r' := by
      cases opens : containerKind (control &&& elementTypeMask) with
      | some kind =>
        rw [opens] at bodyRan
        simp only at bodyRan
        split at bodyRan
        · cases bodyRan
        obtain ⟨less, r₃, smaller, _, inner, later⟩ :=
          ih fuel shorter (header.inBounds bound) bodyRan
        rw [header.depth] at inner
        refine ⟨less, r₃, smaller.trans shorter, header.then inner ?_, later⟩
        rintro _ _ ⟨form, tag, tagged, written⟩ ⟨children, rfl, each⟩
        rw [written _ (containerKind_some opens),
          show maxDepth - (r.depth + k) = maxDepth - (r.depth + (k + 1)) + 1 by omega]
        exact .container tagged each
      | none =>
        rw [opens] at bodyRan
        obtain ⟨_, r₃, skipRan, later⟩ := of_run_bind_ok bodyRan
        obtain ⟨type, known, body⟩ := skipValueBody_takes (header.inBounds bound) skipRan
        refine ⟨fuel, r₃, shorter, header.then body ?_, later⟩
        rintro _ _ ⟨form, tag, tagged, written⟩ valid
        rw [written type known]
        exact .scalar tagged valid
    obtain ⟨less, r₃, smaller, here, later⟩ := element
    obtain ⟨less', r₄, smaller', inside, rest, last⟩ := ih less smaller (here.inBounds bound) later
    rw [here.depth] at inside rest
    exact ⟨less', r₄, smaller'.trans smaller, inside, here.then rest fun _ _ => IsTail.cons, last⟩

theorem skipContainerBody_takes (bound : r.InBounds) (ran : skipContainerBody.run r = .ok () r') :
    0 < r.depth ∧ ∃ tail, IsTail (maxDepth - r.depth) tail ∧ r.rest = tail ++ r'.rest := by
  rw [skipContainerBody, run_bind_ok (EStateM.run_get _)] at ran
  obtain ⟨_, r₁, loopRan, rest⟩ := of_run_bind_ok ran
  obtain ⟨less, r₂, _, inside, ⟨tail, shape, here, _⟩, last⟩ := skipLoop_takes bound loopRan
  cases rest
  rw [skipLoop] at last
  cases last
  exact ⟨inside, tail, shape, here⟩

end TlvReader
end Matter.Codec
