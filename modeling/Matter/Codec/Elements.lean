import Matter.Codec.Reader
import Matter.Codec.Writer

/-! One element at a time. `Reads` says that a reader method consumes given bytes
and returns a given result, and composes along the monad; the tag, payload and
element lemmas follow the writer's encoding byte for byte. -/
namespace Matter.Codec
open Exits LittleEndian

/-- How many bytes of tag follow the control octet. -/
def TagControl.size : TagControl → Nat
  | anonymous => 0
  | context => 1
  | commonProfile2 => 2
  | commonProfile4 => 4
  | implicitProfile2 => 2
  | implicitProfile4 => 4
  | fullyQualified6 => 6
  | fullyQualified8 => 8

def Tag.form : Tag → TagControl
  | anonymous => .anonymous
  | context _ => .context
  | commonProfile n => if n.toNat < 2 ^ 16 then .commonProfile2 else .commonProfile4
  | implicitProfile n => if n.toNat < 2 ^ 16 then .implicitProfile2 else .implicitProfile4
  | fullyQualified _ _ tag => if tag.toNat < 2 ^ 16 then .fullyQualified6 else .fullyQualified8

theorem ElementType.code_inj {type type' : ElementType} (same : type.code = type'.code) :
    type = type' := by
  have found := ofCode?_code type
  rw [same, ofCode?_code] at found
  exact (Option.some.inj found).symm

namespace TlvReader

/-- The input that is still to be consumed. -/
def rest (r : TlvReader) : Bytes := r.input.bytes.drop r.pos

def InBounds (r : TlvReader) : Prop := r.pos ≤ r.input.bytes.length

theorem rest_advance {r : TlvReader} (here : r.rest = bytes ++ tail) :
    (r.advance bytes.length).rest = tail := by
  unfold rest at here
  simp only [rest, advance, ← List.drop_drop, here, List.drop_left]

theorem inBounds_advance {r : TlvReader} (bound : r.InBounds) (here : r.rest = bytes ++ tail) :
    (r.advance bytes.length).InBounds := by
  have size := congrArg List.length here
  simp only [rest, List.length_drop, List.length_append] at size
  unfold InBounds at bound ⊢
  simp only [advance]
  omega

theorem advance_advance (r : TlvReader) (m n : Nat) :
    (r.advance m).advance n = r.advance (m + n) := by
  simp only [advance, Nat.add_assoc]

/-- From any position before `bytes`, `m` consumes exactly them and returns `a`. -/
def Reads (m : ReaderM α) (bytes : Bytes) (a : α) : Prop :=
  ∀ r tail, r.InBounds → r.rest = bytes ++ tail → m.run r = .ok a (r.advance bytes.length)

theorem Reads.pure (a : α) : Reads (Pure.pure a) [] a :=
  fun _ _ _ _ => rfl

theorem Reads.bind {m : ReaderM α} {a : α} (head : Reads m first a) (tail : Reads (next a) second b) :
    Reads (m >>= next) (first ++ second) b := by
  intro r after bound here
  rw [List.append_assoc] at here
  rw [run_bind_ok (head r _ bound here),
    tail _ after (inBounds_advance bound here) (rest_advance here), advance_advance,
    List.length_append]

theorem Reads.map {a : α} (reads : Reads m bytes a) (f : α → β) : Reads (f <$> m) bytes (f a) := by
  intro r tail bound here
  rw [run_map, reads r tail bound here]

theorem nextByte_run (r : TlvReader) :
    nextByte.run r =
      match r.input.bytes[r.pos]? with
      | none => .error .unexpectedEof r
      | some b => .ok b (r.advance 1) := by
  cases found : r.input.bytes[r.pos]? <;> simp [nextByte, found]

theorem nextBytes_run (n : Nat) (r : TlvReader) :
    (nextBytes n).run r =
      if r.pos + n ≥ usizeLimit then .error .lengthOverflow r
      else if r.pos + n > r.input.bytes.length then .error .unexpectedEof r
      else .ok (r.input.slice r.pos n) (r.advance n) := by
  by_cases large : r.pos + n ≥ usizeLimit
  · simp [nextBytes, large]
  · by_cases short : r.pos + n > r.input.bytes.length <;> simp [nextBytes, large, short]

/-- Positions within the input are far from the range of `usize`. -/
theorem InBounds.lt_usizeLimit {r : TlvReader} (bound : r.InBounds) : r.pos + 1 < usizeLimit := by
  have addressable := r.input.addressable
  have alloc : allocLimit = 2 ^ 63 := rfl
  have usize : usizeLimit = 2 ^ 64 := rfl
  unfold InBounds at bound
  omega

theorem reads_nextByte (b : UInt8) : Reads nextByte [b] b := by
  intro r tail _ here
  have found : r.input.bytes[r.pos]? = some b := by
    rw [← Nat.add_zero r.pos, ← List.getElem?_drop]
    exact congrArg (·[0]?) here
  rw [nextByte_run, found]
  rfl

theorem reads_nextBytes (octets : Octets) :
    Reads (nextBytes octets.bytes.length) octets.bytes octets := by
  intro r tail bound here
  have within := inBounds_advance bound here
  have small := within.lt_usizeLimit
  have slice : r.input.slice r.pos octets.bytes.length = octets := by
    unfold rest at here
    simp only [Octets.slice, here, List.take_left]
  unfold InBounds at within
  simp only [advance] at within small
  rw [nextBytes_run, if_neg (by omega), if_neg (by omega), slice]

theorem reads_readLe_raw (bytes : Bytes) (short : bytes.length < allocLimit) :
    Reads (readLe bytes.length) bytes (decode bytes) := by
  have raw := (reads_nextBytes ⟨bytes, short⟩).map fun octets => decode octets.bytes
  simpa [readLe] using raw

theorem reads_readLe (fits : n < 256 ^ width) (small : width ≤ 8) :
    Reads (readLe width) (encode width n) n := by
  have raw := reads_readLe_raw (encode width n) (by rw [length_encode, allocLimit]; omega)
  rwa [length_encode, decode_encode fits] at raw

theorem reads_readU16Le (n : UInt16) : Reads readU16Le (encode 2 n.toNat) n := by
  have fits : n.toNat < 256 ^ 2 := n.toNat_lt
  simpa [readU16Le] using (reads_readLe fits (by decide)).map UInt16.ofNat

theorem reads_readU32Le (n : UInt32) : Reads readU32Le (encode 4 n.toNat) n := by
  have fits : n.toNat < 256 ^ 4 := n.toNat_lt
  simpa [readU32Le] using (reads_readLe fits (by decide)).map UInt32.ofNat

theorem reads_readU64Le (n : UInt64) : Reads readU64Le (encode 8 n.toNat) n := by
  have fits : n.toNat < 256 ^ 8 := n.toNat_lt
  simpa [readU64Le] using (reads_readLe fits (by decide)).map UInt64.ofNat

/-- A wide number that fits in two bytes is written in two. -/
theorem reads_readU16Le_wide {n : UInt32} (short : n.toNat < 2 ^ 16) :
    Reads (do return (← readU16Le).toUInt32) (encode 2 n.toNat) n := by
  have narrow : n.toUInt16.toNat = n.toNat := by
    rw [UInt32.toNat_toUInt16]
    omega
  have wide : n.toUInt16.toUInt32 = n := by
    apply UInt32.toNat_inj.mp
    rw [UInt16.toNat_toUInt32, narrow]
  have reads := (reads_readU16Le n.toUInt16).map UInt16.toUInt32
  rw [narrow, wide] at reads
  simpa using reads

/-- The header of a tag: its control octet, bytes that do not depend on the element type, and
how the reader takes them. -/
theorem reads_readTag (tag : Tag) :
    ∃ payload, payload.length = tag.form.size ∧ ∀ type,
      encodeTag tag type = controlOctet tag.form type :: payload ∧
        Reads (readTag (controlOctet tag.form type)) payload tag := by
  simp only [readTag, controlOctet_form, TagControl.ofBits?_bits]
  cases tag with
  | anonymous => exact ⟨[], rfl, fun _ => ⟨rfl, .pure _⟩⟩
  | context n =>
    refine ⟨[n], rfl, fun _ => ⟨rfl, ?_⟩⟩
    simpa [Tag.form] using (reads_nextByte n).map Tag.context
  | commonProfile n =>
    by_cases short : n.toNat < 2 ^ 16
    · simp only [encodeTag, Tag.form, if_pos short]
      refine ⟨encode 2 n.toNat, rfl, fun _ => ⟨rfl, ?_⟩⟩
      simpa using (reads_readU16Le_wide short).map Tag.commonProfile
    · simp only [encodeTag, Tag.form, if_neg short]
      refine ⟨encode 4 n.toNat, rfl, fun _ => ⟨rfl, ?_⟩⟩
      simpa using (reads_readU32Le n).map Tag.commonProfile
  | implicitProfile n =>
    by_cases short : n.toNat < 2 ^ 16
    · simp only [encodeTag, Tag.form, if_pos short]
      refine ⟨encode 2 n.toNat, rfl, fun _ => ⟨rfl, ?_⟩⟩
      simpa using (reads_readU16Le_wide short).map Tag.implicitProfile
    · simp only [encodeTag, Tag.form, if_neg short]
      refine ⟨encode 4 n.toNat, rfl, fun _ => ⟨rfl, ?_⟩⟩
      simpa using (reads_readU32Le n).map Tag.implicitProfile
  | fullyQualified vendor profile n =>
    by_cases short : n.toNat < 2 ^ 16
    · simp only [encodeTag, Tag.form, if_pos short, List.cons_append, List.append_assoc]
      refine ⟨encode 2 vendor.toNat ++ (encode 2 profile.toNat ++ encode 2 n.toNat), rfl,
        fun _ => ⟨rfl, (reads_readU16Le vendor).bind ((reads_readU16Le profile).bind ?_)⟩⟩
      simpa using (reads_readU16Le_wide short).map (Tag.fullyQualified vendor profile)
    · simp only [encodeTag, Tag.form, if_neg short, List.cons_append, List.append_assoc]
      refine ⟨encode 2 vendor.toNat ++ (encode 2 profile.toNat ++ encode 4 n.toNat), rfl,
        fun _ => ⟨rfl, (reads_readU16Le vendor).bind ((reads_readU16Le profile).bind ?_)⟩⟩
      simpa using (reads_readU32Le n).map (Tag.fullyQualified vendor profile)

end TlvReader

open ElementType

theorem encodeTag_shape (tag : Tag) :
    ∃ payload, payload.length = tag.form.size ∧
      ∀ type, encodeTag tag type = controlOctet tag.form type :: payload := by
  obtain ⟨payload, sized, header⟩ := TlvReader.reads_readTag tag
  exact ⟨payload, sized, fun type => (header type).1⟩

theorem Width.bytes_le (width : Width) : width.bytes ≤ 8 := by
  cases width <;> decide

theorem Width.least_fits (fits : Nat → Prop) [DecidablePred fits] (widest : fits 8) :
    fits (Width.least fits).bytes := by
  unfold Width.least
  split
  · assumption
  · split
    · assumption
    · split <;> assumption

theorem Width.ofUnsigned_fits (bound : n < 2 ^ 64) : n < 256 ^ (Width.ofUnsigned n).bytes :=
  Width.least_fits (n < 256 ^ ·) bound

theorem Width.ofSigned_fits (bound : InRange 8 v) : InRange (Width.ofSigned v).bytes v :=
  Width.least_fits (InRange · v) bound

theorem inRange_toInt (n : Int64) : InRange 8 n.toInt := by
  have low := n.le_toInt
  have high := n.toInt_lt
  exact ⟨by omega, by omega⟩

namespace Text

theorem ofUtf8?_bytes (octets : Octets) (same : octets.bytes = text.bytes) :
    ofUtf8? octets = some text := by
  obtain ⟨string, addressable⟩ := text
  have array : (⟨octets.bytes.toArray⟩ : ByteArray) = string.toByteArray := by
    rw [same]
    simp [bytes]
  simp only [ofUtf8?]
  rw [dif_pos (array ▸ string.isValidUTF8)]
  congr 2
  exact String.toByteArray_inj.mp array

end Text

/-- What the reader keeps of a scalar: text ends at the first IS1 separator. -/
def ValueRef.beforeIs1 : ValueRef → ValueRef
  | .utf8 text => .utf8 text.beforeIs1
  | value => value

namespace TlvReader

theorem reads_readNumber_raw (width : Width) (bytes : Bytes) (size : bytes.length = width.bytes) :
    Reads (readNumber width) bytes (decode bytes) := by
  have wide : Reads (readLe width.bytes) bytes (decode bytes) := by
    rw [← size]
    exact reads_readLe_raw bytes (by have := width.bytes_le; simp only [allocLimit]; omega)
  cases width with
  | w8 =>
    obtain ⟨b, rfl⟩ := List.length_eq_one_iff.mp size
    simpa [readNumber, decode] using (reads_nextByte b).map UInt8.toNat
  | w16 => exact wide
  | w32 => exact wide
  | w64 => exact wide

theorem reads_readNumber (width : Width) (fits : n < 256 ^ width.bytes) :
    Reads (readNumber width) (encode width.bytes n) n := by
  have raw := reads_readNumber_raw width (encode width.bytes n) (length_encode _ _)
  rwa [decode_encode fits] at raw

theorem reads_lengthPrefixed (octets : Octets)
    (payload : Reads (next octets.bytes.length) octets.bytes a) :
    Reads (readPayloadLen (Width.ofUnsigned octets.bytes.length) >>= next)
      (lengthPrefixed octets.bytes) a := by
  have addressable := octets.addressable
  have alloc : allocLimit = 2 ^ 63 := rfl
  exact (reads_readNumber _ (Width.ofUnsigned_fits (by omega))).bind payload

theorem reads_readValueBodyRef (value : ValueRef) :
    Reads (readValueBodyRef value.type.code) value.body value.beforeIs1 := by
  simp only [readValueBodyRef, ofCode?_code]
  cases value with
  | bool b | null => exact .pure _
  | uint n =>
    have fits : n.toNat < 256 ^ (Width.ofUnsigned n.toNat).bytes := Width.ofUnsigned_fits n.toNat_lt
    simpa [ValueRef.type, ValueRef.body, ValueRef.beforeIs1] using
      (reads_readNumber _ fits).map fun m => ValueRef.uint (UInt64.ofNat m)
  | int n =>
    have back := signed_pattern (Width.ofSigned_fits (inRange_toInt n))
    have reads := (reads_readNumber (Width.ofSigned n.toInt) (pattern_lt _ n.toInt)).map
      fun m => ValueRef.int (Int64.ofInt (signed (Width.ofSigned n.toInt).bytes m))
    rw [back, Int64.ofInt_toInt] at reads
    simpa [ValueRef.type, ValueRef.body, ValueRef.beforeIs1] using reads
  | float bits =>
    simpa [ValueRef.type, ValueRef.body, ValueRef.beforeIs1] using
      (reads_readU32Le bits).map ValueRef.float
  | double bits =>
    simpa [ValueRef.type, ValueRef.body, ValueRef.beforeIs1] using
      (reads_readU64Le bits).map ValueRef.double
  | utf8 text =>
    have addressable : text.bytes.length < allocLimit := text.length_bytes ▸ text.addressable
    refine reads_lengthPrefixed ⟨text.bytes, addressable⟩ ?_
    intro r tail bound here
    rw [readUtf8Ref, run_bind_ok (reads_nextBytes ⟨text.bytes, addressable⟩ r tail bound here),
      Text.ofUtf8?_bytes _ rfl]
    simp [ValueRef.beforeIs1]
  | bytes octets =>
    refine reads_lengthPrefixed octets ?_
    simpa [readBytesRef, ValueRef.beforeIs1] using (reads_nextBytes octets).map ValueRef.bytes

/-- The reader has moved `n` bytes on, with `depth` containers open and `budget`
elements left to materialise. -/
structure Moved (r r' : TlvReader) (n depth budget : Nat) : Prop where
  input : r'.input = r.input
  pos : r'.pos = r.pos + n
  depth : r'.depth = depth
  budget : r'.elementBudget = budget

namespace Moved
variable {r r' r'' : TlvReader} {m n d e b c : Nat}

theorem trans (first : Moved r r' m d b) (second : Moved r' r'' n e c) :
    Moved r r'' (m + n) e c :=
  ⟨second.input.trans first.input, by rw [second.pos, first.pos, Nat.add_assoc], second.depth,
    second.budget⟩

theorem rest_eq {bytes tail : Bytes} (moved : Moved r r' bytes.length d b)
    (here : r.rest = bytes ++ tail) : r'.rest = tail := by
  rw [← rest_advance here]
  simp only [rest, moved.input, moved.pos, advance]

theorem inBounds {bytes tail : Bytes} (moved : Moved r r' bytes.length d b) (bound : r.InBounds)
    (here : r.rest = bytes ++ tail) : r'.InBounds := by
  have within := inBounds_advance bound here
  unfold InBounds at within ⊢
  rw [moved.input, moved.pos]
  exact within

end Moved

theorem isEmpty_eq_false {r : TlvReader} (here : r.rest = b :: tail) : r.isEmpty = false := by
  have size := congrArg List.length here
  simp only [rest, List.length_drop, List.length_cons] at size
  simp only [isEmpty, ge_iff_le, decide_eq_false_iff_not]
  omega

theorem nextRef_tagged {r : TlvReader} (bound : r.InBounds)
    (here : r.rest = encodeTag tag type ++ tail) (other : type ≠ .endOfContainer) :
    nextRef.run r = (nextTagged r.pos type.code tag).run (r.advance (encodeTag tag type).length) := by
  obtain ⟨payload, _, both⟩ := reads_readTag tag
  obtain ⟨header, reads⟩ := both type
  rw [header] at here ⊢
  have filled := isEmpty_eq_false here
  have control := reads_nextByte (controlOctet tag.form type) r (payload ++ tail) bound here
  have differs : type.code ≠ endOfContainer.code :=
    fun same => other (code_inj same)
  have split : r.rest = [controlOctet tag.form type] ++ (payload ++ tail) := here
  have tagged := reads _ tail (inBounds_advance bound split) (rest_advance split)
  rw [nextRef, run_bind_ok (EStateM.run_get r), filled, if_neg Bool.false_ne_true,
    run_bind_ok control, controlOctet_type, if_neg differs, run_bind_ok tagged,
    List.length_singleton, advance_advance, List.length_cons, Nat.add_comm]

theorem nextRef_scalar {r : TlvReader} {value : ValueRef} (bound : r.InBounds)
    (here : r.rest = value.encode tag ++ tail) :
    ∃ r', nextRef.run r = .ok (some (.scalar tag value.beforeIs1)) r' ∧
      Moved r r' (value.encode tag).length r.depth r.elementBudget := by
  rw [ValueRef.encode, List.append_assoc] at here
  have scalar : containerKind value.type.code = none := by
    simp only [containerKind, ofCode?_code]
    cases value <;> rfl
  have other : value.type ≠ .endOfContainer := by cases value <;> simp [ValueRef.type]
  have body := reads_readValueBodyRef value _ tail (inBounds_advance bound here) (rest_advance here)
  rw [nextRef_tagged bound here other, nextTagged, run_bind_ok (EStateM.run_get _), scalar]
  simp only [run_bind_ok body, run_bind_ok (EStateM.run_modify ..), EStateM.run_pure]
  refine ⟨_, rfl, rfl, ?_, rfl, rfl⟩
  simp only [returning, advance, ValueRef.encode, List.length_append, Nat.add_assoc]

theorem containerKind_code (kind : ContainerKind) :
    containerKind (container kind).code = some kind := by
  simp only [containerKind, ofCode?_code]

/-- The reader inside a container whose header takes `n` bytes. -/
def entered (r : TlvReader) (n : Nat) : TlvReader :=
  returning { r.advance n with depth := r.depth + 1 } r.pos (r.pos + n) true

section
variable {r : TlvReader} (bound : r.InBounds)
  (here : r.rest = encodeTag tag (.container kind) ++ tail)
include bound here

theorem nextRef_opens (shallow : r.depth < maxDepth) : nextRef.run r =
      .ok (some (.containerStart tag kind)) (r.entered (encodeTag tag (.container kind)).length) := by
  rw [nextRef_tagged bound here (by simp), nextTagged, run_bind_ok (EStateM.run_get _),
    containerKind_code]
  simp only [if_neg (show ¬ (r.advance _).depth ≥ maxDepth from Nat.not_le.mpr shallow),
    run_bind_ok (EStateM.run_set ..), EStateM.run_pure]
  rfl

theorem nextRef_start (shallow : r.depth < maxDepth) :
    ∃ r', nextRef.run r = .ok (some (.containerStart tag kind)) r' ∧
      Moved r r' (encodeTag tag (.container kind)).length (r.depth + 1) r.elementBudget :=
  ⟨_, nextRef_opens bound here shallow, rfl, rfl, rfl, rfl⟩

theorem nextRef_tooDeep (full : maxDepth ≤ r.depth) :
    ∃ r', nextRef.run r = .error .containerTooDeep r' := by
  rw [nextRef_tagged bound here (by simp), nextTagged, run_bind_ok (EStateM.run_get _),
    containerKind_code]
  simp only [if_pos (show (r.advance _).depth ≥ maxDepth from full)]
  exact ⟨_, rfl⟩

end

theorem nextRef_end {r : TlvReader} (bound : r.InBounds)
    (here : r.rest = endOfContainer.code :: tail) (opened : 0 < r.depth) :
    ∃ r', nextRef.run r = .ok (some .containerEnd) r' ∧ Moved r r' 1 (r.depth - 1) r.elementBudget := by
  have filled := isEmpty_eq_false here
  have control := reads_nextByte endOfContainer.code r tail bound here
  rw [nextRef, run_bind_ok (EStateM.run_get r), filled, if_neg Bool.false_ne_true,
    run_bind_ok control, if_pos (by decide), if_neg (by decide), if_neg (Nat.ne_of_gt opened)]
  exact ⟨_, rfl, rfl, rfl, rfl, rfl⟩

end TlvReader
end Matter.Codec
