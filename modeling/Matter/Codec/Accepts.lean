import Mathlib.Data.List.TakeWhile
import Matter.Codec.Grammar

/-! What one step of the reader accepts. Every method that succeeds moves on by at least
as many bytes as the writer spends on what it returned; of a string the reader keeps what
stands before the first IS1 separator. -/
namespace Matter.Codec
open Exits LittleEndian

namespace Value

mutual

/-- What the reader keeps of a tree. -/
def beforeIs1 : Value → Value
  | utf8 text => utf8 text.beforeIs1
  | struct members => struct (beforeIs1Members members)
  | array elements => array (beforeIs1Elements elements)
  | list members => list (beforeIs1Members members)
  | value => value

def beforeIs1Members : List (Tag × Value) → List (Tag × Value)
  | [] => []
  | (tag, value) :: rest => (tag, value.beforeIs1) :: beforeIs1Members rest

def beforeIs1Elements : List Value → List Value
  | [] => []
  | value :: rest => value.beforeIs1 :: beforeIs1Elements rest

end

mutual

/-- No string of the tree has an IS1 separator. -/
def Clean : Value → Prop
  | utf8 text => Text.is1 ∉ text.string.toList
  | struct members => CleanMembers members
  | array elements => CleanElements elements
  | list members => CleanMembers members
  | _ => True

def CleanMembers : List (Tag × Value) → Prop
  | [] => True
  | (_, value) :: rest => value.Clean ∧ CleanMembers rest

def CleanElements : List Value → Prop
  | [] => True
  | value :: rest => value.Clean ∧ CleanElements rest

end

theorem beforeIs1_ofRef (value : ValueRef) : (ofRef value).beforeIs1 = ofRef value.beforeIs1 := by
  cases value <;> simp only [ofRef, beforeIs1, ValueRef.beforeIs1]

theorem beforeIs1Elements_map_snd (members : List (Tag × Value)) :
    beforeIs1Elements (members.map Prod.snd) = (beforeIs1Members members).map Prod.snd := by
  induction members with
  | nil => simp [beforeIs1Elements, beforeIs1Members]
  | cons member rest ih => simp [beforeIs1Elements, beforeIs1Members, ih]

theorem beforeIs1_ofMembers (kind : ContainerKind) (members : List (Tag × Value)) :
    (ofMembers kind members).beforeIs1 = ofMembers kind (beforeIs1Members members) := by
  cases kind <;> simp only [ofMembers, beforeIs1, beforeIs1Elements_map_snd]

theorem beforeIs1Members_append (a b : List (Tag × Value)) :
    beforeIs1Members (a ++ b) = beforeIs1Members a ++ beforeIs1Members b := by
  induction a with
  | nil => rfl
  | cons member rest ih => simp only [List.cons_append, beforeIs1Members, ih]

theorem cleanMembers_iff (members : List (Tag × Value)) :
    CleanMembers members ↔ ∀ member ∈ members, member.2.Clean := by
  induction members with
  | nil => simp [CleanMembers]
  | cons member rest ih => simp [CleanMembers, ih]

theorem cleanElements_map_snd (members : List (Tag × Value)) :
    CleanElements (members.map Prod.snd) ↔ CleanMembers members := by
  induction members with
  | nil => simp [CleanElements, CleanMembers]
  | cons member rest ih => simp [CleanElements, CleanMembers, ih]

theorem clean_ofMembers (kind : ContainerKind) (members : List (Tag × Value)) :
    (ofMembers kind members).Clean ↔ CleanMembers members := by
  cases kind <;> simp only [ofMembers, Clean, cleanElements_map_snd]

theorem beforeIs1Members_eq (each : ∀ member ∈ members, member.2.beforeIs1 = member.2) :
    beforeIs1Members members = members := by
  induction members with
  | nil => rfl
  | cons member rest ih =>
    have first := each member (List.mem_cons_self ..)
    simp [beforeIs1Members, first, ih fun m found => each m (List.mem_cons_of_mem _ found)]

end Value

theorem Text.beforeIs1_eq {text : Text} (clean : is1 ∉ text.string.toList) :
    text.beforeIs1 = text := by
  have whole : text.string.toList.takeWhile (· ≠ is1) = text.string.toList := by
    rw [List.takeWhile_eq_self_iff]
    intro c found
    exact decide_eq_true fun same => clean (same ▸ found)
  obtain ⟨string, addressable⟩ := text
  simp only [beforeIs1, mk.injEq]
  rw [whole, String.ofList_toList]

theorem Text.beforeIs1_eq_iff (text : Text) : text.beforeIs1 = text ↔ is1 ∉ text.string.toList := by
  refine ⟨fun same found => ?_, Text.beforeIs1_eq⟩
  have strings := congrArg (fun t : Text => t.string.toList) same
  simp only [Text.beforeIs1, String.toList_ofList] at strings
  have different := List.takeWhile_eq_self_iff.mp strings is1 found
  exact absurd rfl (of_decide_eq_true different)

theorem Value.beforeIs1_eq {value : Value} (clean : value.Clean) : value.beforeIs1 = value := by
  induction value using ref_or_members with
  | ref value =>
    cases value with
    | utf8 text => simp only [ofRef, beforeIs1, Text.beforeIs1_eq (by simpa [ofRef, Clean] using clean)]
    | _ => simp only [ofRef, beforeIs1]
  | members kind members permitted ih =>
    rw [clean_ofMembers, cleanMembers_iff] at clean
    rw [beforeIs1_ofMembers, beforeIs1Members_eq fun m found => ih m found (clean m found)]

namespace TlvReader
open Value

/-- Whenever `m` succeeds it has only moved forward, within the input, and `Q`
relates its result to the number of bytes. -/
def Consumes (m : ReaderM α) (Q : α → Nat → Prop) : Prop :=
  ∀ r a r', m.run r = .ok a r' →
    ∃ n, r' = r.advance n ∧ (r.InBounds → r'.InBounds) ∧ Q a n

namespace Consumes
variable {m : ReaderM α} {next : α → ReaderM β} {P : α → Nat → Prop} {Q : β → Nat → Prop}

theorem pure (known : P a 0) : Consumes (Pure.pure a) P := by
  intro r b r' ran
  cases ran
  exact ⟨0, rfl, id, known⟩

theorem throw (error : Error) : Consumes (MonadExcept.throw error : ReaderM α) P := by
  intro r a r' ran
  cases ran

theorem bind (first : Consumes m P)
    (second : ∀ a k, P a k → Consumes (next a) fun b n => Q b (k + n)) :
    Consumes (m >>= next) Q := by
  intro r b r' ran
  obtain ⟨a, middle, ranFirst, ranSecond⟩ := of_run_bind_ok ran
  obtain ⟨k, rfl, bound₁, known₁⟩ := first r a middle ranFirst
  obtain ⟨n, rfl, bound₂, known₂⟩ := second a k known₁ _ b r' ranSecond
  exact ⟨k + n, advance_advance r k n, bound₂ ∘ bound₁, known₂⟩

theorem map (consumes : Consumes m P) (known : ∀ a n, P a n → Q (f a) n) :
    Consumes (f <$> m) Q := by
  rw [map_eq_pure_bind]
  exact consumes.bind fun a k here => pure (known a k here)

end Consumes

theorem consumes_nextByte : Consumes nextByte fun _ n => n = 1 := by
  intro r b r' ran
  rw [nextByte_run] at ran
  cases found : r.input.bytes[r.pos]? with
  | none =>
    rw [found] at ran
    cases ran
  | some byte =>
    rw [found] at ran
    cases ran
    have inside := (List.getElem?_eq_some_iff.mp found).1
    exact ⟨1, rfl, fun _ => inside, rfl⟩

theorem consumes_nextBytes (k : Nat) :
    Consumes (nextBytes k) fun octets n => n = k ∧ octets.bytes.length = k := by
  intro r octets r' ran
  rw [nextBytes_run] at ran
  split at ran
  · cases ran
  · split at ran
    · cases ran
    · rename_i _ inside
      cases ran
      have bound : r.pos + k ≤ r.input.bytes.length := Nat.not_lt.mp inside
      refine ⟨k, rfl, fun _ => bound, rfl, ?_⟩
      simp only [Octets.slice, List.length_take, List.length_drop]
      omega

theorem consumes_readLe (k : Nat) : Consumes (readLe k) fun v n => n = k ∧ v < 256 ^ k := by
  rw [readLe, bind_pure_comp]
  refine (consumes_nextBytes k).map fun octets n known => ⟨known.1, ?_⟩
  rw [← known.2]
  exact decode_lt _

theorem consumes_readU16Le : Consumes readU16Le fun _ n => n = 2 := by
  rw [readU16Le, bind_pure_comp]
  exact (consumes_readLe 2).map fun _ _ known => known.1

theorem consumes_readU32Le : Consumes readU32Le fun _ n => n = 4 := by
  rw [readU32Le, bind_pure_comp]
  exact (consumes_readLe 4).map fun _ _ known => known.1

theorem consumes_readU64Le : Consumes readU64Le fun _ n => n = 8 := by
  rw [readU64Le, bind_pure_comp]
  exact (consumes_readLe 8).map fun _ _ known => known.1

theorem consumes_readNumber (width : Width) :
    Consumes (readNumber width) fun v n => n = width.bytes ∧ v < 256 ^ width.bytes := by
  cases width with
  | w8 =>
    rw [readNumber, bind_pure_comp]
    exact consumes_nextByte.map fun b _ known => ⟨known, b.toNat_lt⟩
  | _ => exact consumes_readLe _

theorem toUInt32_short (n : UInt16) : n.toUInt32.toNat < 2 ^ 16 := by
  rw [UInt16.toNat_toUInt32]
  exact n.toNat_lt

/-- The form says how many bytes there are; the writer's form is never longer than the one that
was read. -/
theorem consumes_readTag (control : UInt8) :
    Consumes (readTag control) fun tag n =>
      ∃ form, TagControl.ofBits? (control &&& tagControlMask) = some form ∧ n = form.size ∧
        tag.form.size ≤ form.size := by
  rw [readTag]
  cases TagControl.ofBits? (control &&& tagControlMask) with
  | none => exact .throw _
  | some form =>
    cases form with
    | anonymous => exact .pure ⟨_, rfl, rfl, Nat.le_refl _⟩
    | context =>
      exact consumes_nextByte.bind fun b _ one => .pure ⟨_, rfl, one, Nat.le_refl _⟩
    | commonProfile2 | implicitProfile2 =>
      refine consumes_readU16Le.bind fun v _ two => .pure ⟨_, rfl, two, ?_⟩
      rw [Tag.form, if_pos (toUInt32_short v)]
    | commonProfile4 | implicitProfile4 =>
      refine consumes_readU32Le.bind fun v _ four => .pure ⟨_, rfl, four, ?_⟩
      simp only [Tag.form]
      split <;> decide
    | fullyQualified6 =>
      refine consumes_readU16Le.bind fun vendor _ two => ?_
      refine consumes_readU16Le.bind fun profile _ four => ?_
      refine consumes_readU16Le.bind fun v _ six => .pure ⟨_, rfl, ?_, ?_⟩
      · subst two four six
        rfl
      · rw [Tag.form, if_pos (toUInt32_short v)]
    | fullyQualified8 =>
      refine consumes_readU16Le.bind fun vendor _ two => ?_
      refine consumes_readU16Le.bind fun profile _ four => ?_
      refine consumes_readU32Le.bind fun v _ eight => .pure ⟨_, rfl, ?_, ?_⟩
      · subst two four eight
        rfl
      · simp only [Tag.form]
        split <;> decide

end TlvReader

theorem Width.least_le [DecidablePred fits] {width : Width} (enough : fits width.bytes) :
    (Width.least fits).bytes ≤ width.bytes := by
  unfold Width.least
  cases width with
  | w8 => rw [if_pos (show fits 1 from enough)]
  | w16 =>
    split
    · decide
    · rw [if_pos (show fits 2 from enough)]
  | w32 =>
    split
    · decide
    · split
      · decide
      · rw [if_pos (show fits 4 from enough)]
  | w64 => exact Width.bytes_le _

theorem Width.signed_inRange (width : Width) (fits : n < 256 ^ width.bytes) :
    InRange width.bytes (signed width.bytes n) := by
  cases width <;> exact LittleEndian.signed_inRange fits

theorem Width.inRange_widest {width : Width} (fits : InRange width.bytes v) : InRange 8 v := by
  cases width <;> (unfold InRange at fits ⊢; simp only [Width.bytes] at fits; omega)

namespace Text

theorem is1_notMem_beforeIs1 (text : Text) : is1 ∉ text.beforeIs1.string.toList := by
  intro found
  simp only [beforeIs1, String.toList_ofList] at found
  have passed := List.mem_takeWhile_imp found
  simp at passed

theorem length_beforeIs1_le (text : Text) : text.beforeIs1.bytes.length ≤ text.bytes.length := by
  rw [length_bytes, length_bytes]
  exact utf8ByteSize_takeWhile_le text.string _

theorem length_ofUtf8? (valid : ofUtf8? octets = some text) :
    text.bytes.length = octets.bytes.length := by
  unfold ofUtf8? at valid
  simp only at valid
  split at valid
  · cases valid
    rw [length_bytes]
    rfl
  · cases valid

end Text

theorem length_lengthPrefixed_le {width : Width} (fits : len < 256 ^ width.bytes)
    (shorter : bytes.length ≤ len) : (lengthPrefixed bytes).length ≤ width.bytes + len := by
  have narrow : (Width.ofUnsigned bytes.length).bytes ≤ width.bytes :=
    Width.least_le (Nat.lt_of_le_of_lt shorter fits)
  simp only [lengthPrefixed, List.length_append, length_encode]
  omega

namespace TlvReader
open Value

theorem consumes_readUtf8Ref {width : Width} (fits : len < 256 ^ width.bytes) :
    Consumes (readUtf8Ref len) fun value n =>
      value.body.length ≤ width.bytes + n ∧ (ofRef value).Clean := by
  refine (consumes_nextBytes len).bind fun octets k known => ?_
  split
  · exact .throw _
  · rename_i text valid
    refine .pure ⟨?_, ?_⟩
    · have shorter := Nat.le_trans text.length_beforeIs1_le (Text.length_ofUtf8? valid).le
      rw [known.1]
      exact length_lengthPrefixed_le fits (known.2 ▸ shorter)
    · exact text.is1_notMem_beforeIs1

theorem consumes_readBytesRef {width : Width} (fits : len < 256 ^ width.bytes) :
    Consumes (readBytesRef len) fun value n =>
      value.body.length ≤ width.bytes + n ∧ (ofRef value).Clean := by
  rw [readBytesRef, bind_pure_comp]
  refine (consumes_nextBytes len).map fun octets n known => ⟨?_, trivial⟩
  rw [known.1]
  exact length_lengthPrefixed_le fits known.2.le

/-- The writer's body of a scalar is never longer than the one that was read. -/
theorem consumes_readValueBodyRef (elemType : UInt8) :
    Consumes (readValueBodyRef elemType) fun value n =>
      value.body.length ≤ n ∧ (ofRef value).Clean := by
  rw [readValueBodyRef]
  split
  · exact .pure ⟨Nat.le_refl _, trivial⟩
  · exact .pure ⟨Nat.le_refl _, trivial⟩
  · rename_i width _
    rw [bind_pure_comp]
    refine (consumes_readNumber width).map fun v n known => ⟨?_, trivial⟩
    have small : v < 2 ^ 64 := Nat.lt_of_lt_of_le known.2 (by cases width <;> decide)
    have same : (UInt64.ofNat v).toNat = v := by
      rw [UInt64.toNat_ofNat']
      exact Nat.mod_eq_of_lt small
    have narrow : (Width.ofUnsigned v).bytes ≤ width.bytes := Width.least_le known.2
    simp only [ValueRef.body, same, length_encode]
    omega
  · rename_i width _
    rw [bind_pure_comp]
    refine (consumes_readNumber width).map fun v n known => ⟨?_, trivial⟩
    have fits := width.signed_inRange known.2
    have same : (Int64.ofInt (signed width.bytes v)).toInt = signed width.bytes v := by
      have wide := Width.inRange_widest fits
      unfold InRange at wide
      exact Int64.toInt_ofInt_of_le (by omega) (by omega)
    have narrow : (Width.ofSigned (signed width.bytes v)).bytes ≤ width.bytes := Width.least_le fits
    simp only [ValueRef.body, same, length_encode]
    omega
  · rw [bind_pure_comp]
    refine consumes_readU32Le.map fun v n known => ⟨?_, trivial⟩
    simp [ValueRef.body, known]
  · rw [bind_pure_comp]
    refine consumes_readU64Le.map fun v n known => ⟨?_, trivial⟩
    simp [ValueRef.body, known]
  · rename_i width _
    refine (consumes_readNumber width).bind fun len k known => ?_
    rw [known.1]
    exact consumes_readUtf8Ref known.2
  · rename_i width _
    refine (consumes_readNumber width).bind fun len k known => ?_
    rw [known.1]
    exact consumes_readBytesRef known.2
  · exact .throw _

end TlvReader

/-- What the writer spends on one step of the streaming reader. -/
def ElementRef.size : ElementRef → Nat
  | .scalar tag value => (value.encode tag).length
  | .containerStart tag kind => (encodeTag tag (.container kind)).length
  | .containerEnd => 1

/-- How the open containers change with an element. -/
def ElementRef.Nests (before after : Nat) : ElementRef → Prop
  | .scalar _ value => after = before ∧ (Value.ofRef value).Clean
  | .containerStart _ _ => after = before + 1 ∧ before < maxDepth
  | .containerEnd => after + 1 = before

/-- The open containers after an element. -/
def ElementRef.after (depth : Nat) : ElementRef → Nat
  | .scalar _ _ => depth
  | .containerStart _ _ => depth + 1
  | .containerEnd => depth - 1

def ElementRef.opens : ElementRef → Bool
  | .containerStart _ _ => true
  | _ => false

namespace TlvReader
open Value

def position : ReaderM Nat := do return (← get).pos

theorem position_run (r : TlvReader) : position.run r = .ok r.pos r := rfl

/-- An element and where its body starts, without the reader's account of it. -/
def readElement (depth : Nat) : ReaderM (ElementRef × Nat) := do
  let control ← nextByte
  let elemType := control &&& elementTypeMask
  if elemType = ElementType.endOfContainer.code then
    if control &&& tagControlMask ≠ TagControl.anonymous.bits then
      throw (.invalidTagControl (control &&& tagControlMask))
    else if depth = 0 then throw .unexpectedEndOfContainer
    else return (.containerEnd, ← position)
  else
    let tag ← readTag control
    let body ← position
    match containerKind elemType with
    | some kind =>
      if depth ≥ maxDepth then throw .containerTooDeep
      else return (.containerStart tag kind, body)
    | none => return (.scalar tag (← readValueBodyRef elemType), body)

/-- What `next_ref` does when there is input left at `r`. -/
def nextFilled (r : TlvReader) : ReaderM (Option ElementRef) := do
  let (element, body) ← readElement r.depth
  modify fun s => ({ s with depth := element.after s.depth }).returning r.pos body element.opens
  return some element

theorem nextRef_run (r : TlvReader) :
    nextRef.run r = if r.isEmpty then .ok none r else (nextFilled r).run r := by
  rw [nextRef, run_bind_ok (EStateM.run_get _)]
  split
  · rfl
  rw [nextFilled, readElement, bind_assoc]
  refine run_bind_congr rfl fun control r₁ byteRan => ?_
  obtain ⟨_, rfl, _⟩ := consumes_nextByte _ _ _ byteRan
  simp only
  split
  · split
    · rfl
    split <;> rfl
  rw [bind_assoc]
  refine run_bind_congr rfl fun tag r₂ tagRan => ?_
  obtain ⟨_, rfl, _⟩ := consumes_readTag control _ _ _ tagRan
  rw [nextTagged, run_bind_ok (EStateM.run_get _), bind_assoc, run_bind_ok (position_run _)]
  cases containerKind (control &&& elementTypeMask) with
  | some kind =>
    simp only
    by_cases deep : r.depth ≥ maxDepth
    · rw [if_pos deep, if_pos (show ((r.advance _).advance _).depth ≥ maxDepth from deep)]
      rfl
    · rw [if_neg deep, if_neg (show ¬ ((r.advance _).advance _).depth ≥ maxDepth from deep)]
      rfl
  | none =>
    rw [bind_assoc]
    exact run_bind_congr rfl fun _ _ _ => rfl

theorem consumes_position : Consumes position fun _ n => n = 0 := by
  intro r at_ r' ran
  cases ran
  exact ⟨0, rfl, id, rfl⟩

theorem consumes_readElement (depth : Nat) :
    Consumes (readElement depth) fun found n =>
      found.1.size ≤ n ∧ found.1.Nests depth (found.1.after depth) := by
  refine consumes_nextByte.bind fun control _ one => ?_
  simp only
  split
  · split
    · exact .throw _
    split
    · exact .throw _
    · rename_i opened
      refine consumes_position.bind fun _ _ still => .pure ⟨?_, ?_⟩
      · subst one still
        exact Nat.le_refl _
      · exact Nat.sub_add_cancel (Nat.pos_of_ne_zero opened)
  refine (consumes_readTag control).bind fun tag _ ⟨form, _, sized, shorter⟩ => ?_
  refine consumes_position.bind fun _ _ still => ?_
  have header := length_encodeTag tag
  split
  · rename_i kind _
    split
    · exact .throw _
    · rename_i shallow
      refine .pure ⟨?_, rfl, Nat.not_le.mp shallow⟩
      have tagged := header (.container kind)
      rw [ElementRef.size]
      omega
  · refine (consumes_readValueBodyRef _).bind fun value _ ⟨spent, clean⟩ => .pure ⟨?_, rfl, clean⟩
    have tagged := header value.type
    simp only [ElementRef.size, ValueRef.encode, List.length_append]
    omega

/-- `element` is what lies between two positions of a reader. -/
structure Accepted (r : TlvReader) (element : ElementRef) (r' : TlvReader) : Prop where
  input : r'.input = r.input
  budget : r'.elementBudget = r.elementBudget
  within : r'.InBounds
  size : r.pos + element.size ≤ r'.pos
  nests : element.Nests r.depth r'.depth

theorem nextRef_sound (bound : r.InBounds) (ran : nextRef.run r = .ok (some element) r') :
    Accepted r element r' := by
  rw [nextRef_run] at ran
  split at ran
  · cases ran
  · obtain ⟨found, r₁, readRan, restRan⟩ := of_run_bind_ok ran
    obtain ⟨n, rfl, within, size, nests⟩ := consumes_readElement r.depth r found r₁ readRan
    cases restRan
    exact ⟨rfl, rfl, within bound, Nat.add_le_add_left size _, nests⟩

theorem encode_length_pos (tag : Tag) (value : Value) : 0 < (value.encode tag).length := by
  obtain ⟨ref, rfl⟩ | ⟨kind, members, permitted, rfl⟩ := value.eq_ofRef_or_ofMembers
  · rw [encode_ofRef, ValueRef.encode, List.length_append, length_encodeTag]
    omega
  · rw [encode_ofMembers tag permitted, enclose, List.length_append, List.length_append,
      length_encodeTag]
    omega

theorem elementSize_pos (element : ElementRef) : 0 < element.size := by
  cases element with
  | scalar tag value =>
    rw [ElementRef.size, ← encode_ofRef]
    exact encode_length_pos tag (ofRef value)
  | containerStart tag kind =>
    rw [ElementRef.size, length_encodeTag]
    exact Nat.succ_pos _
  | containerEnd => exact Nat.one_pos

theorem Accepted.remaining_lt (step : Accepted r element r') (enough : r.remaining < fuel + 1) :
    r'.remaining < fuel := by
  have moved := step.size
  have positive := elementSize_pos element
  have within := step.within
  unfold InBounds at within
  rw [step.input] at within
  simp only [remaining, step.input] at enough ⊢
  omega

/-- A later position of the same input. -/
structure Onward (r r' : TlvReader) : Prop where
  input : r'.input = r.input
  pos : r.pos ≤ r'.pos
  within : r'.InBounds

namespace Onward
variable {r r' r'' : TlvReader}

theorem refl (bound : r.InBounds) : Onward r r := ⟨rfl, Nat.le_refl _, bound⟩

theorem trans (first : Onward r r') (second : Onward r' r'') : Onward r r'' :=
  ⟨second.input.trans first.input, first.pos.trans second.pos, second.within⟩

theorem remaining_le (onward : Onward r r') : r'.remaining ≤ r.remaining := by
  have later := onward.pos
  simp only [remaining, onward.input]
  omega

end Onward

theorem Accepted.onward (step : Accepted r element r') : Onward r r' :=
  ⟨step.input, (Nat.le_add_right _ _).trans step.size, step.within⟩

theorem remaining_eq (r : TlvReader) : r.remaining = r.rest.length := by
  simp [remaining, rest]

theorem inBounds_new (input : Octets) : (new input).InBounds := Nat.zero_le _

end TlvReader
end Matter.Codec
