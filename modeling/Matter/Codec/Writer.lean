import Matter.Base.Exits
import Matter.Codec.Tlv

/-! The streaming TLV encoder. The writer appends to a buffer that stays as it
is when a call fails; `encode` is the text a value tree stands for on the wire,
and `write_value` produces exactly it for the trees that nest at most
`MAX_DEPTH` deep. -/
namespace Matter.Codec
open Exits LittleEndian

/-- The buffer a `TlvWriter` appends to is the state. -/
abbrev WriterM := EStateM Error Bytes

def encodeTag (tag : Tag) (type : ElementType) : Bytes :=
  match tag with
  | .anonymous => [controlOctet .anonymous type]
  | .context n => [controlOctet .context type, n]
  | .commonProfile n =>
    if n.toNat < 2 ^ 16 then controlOctet .commonProfile2 type :: encode 2 n.toNat
    else controlOctet .commonProfile4 type :: encode 4 n.toNat
  | .implicitProfile n =>
    if n.toNat < 2 ^ 16 then controlOctet .implicitProfile2 type :: encode 2 n.toNat
    else controlOctet .implicitProfile4 type :: encode 4 n.toNat
  | .fullyQualified vendor profile tag =>
    if tag.toNat < 2 ^ 16 then
      controlOctet .fullyQualified6 type ::
        encode 2 vendor.toNat ++ encode 2 profile.toNat ++ encode 2 tag.toNat
    else
      controlOctet .fullyQualified8 type ::
        encode 2 vendor.toNat ++ encode 2 profile.toNat ++ encode 4 tag.toNat

/-- The narrowest width whose number of bytes `fits`. -/
def Width.least (fits : Nat → Prop) [DecidablePred fits] : Width :=
  if fits 1 then .w8 else if fits 2 then .w16 else if fits 4 then .w32 else .w64

def Width.ofUnsigned (n : Nat) : Width := Width.least fun bytes => n < 256 ^ bytes

def Width.ofSigned (v : Int) : Width := Width.least fun bytes => InRange bytes v

namespace TlvWriter

def writeTag (tag : Tag) (type : ElementType) : WriterM Unit :=
  modify (· ++ encodeTag tag type)

def putScalar (tag : Tag) (type : ElementType) (payload : Bytes) : WriterM Unit :=
  modify (· ++ (encodeTag tag type ++ payload))

def putBool (tag : Tag) (b : Bool) : WriterM Unit := putScalar tag (.bool b) []

def putNull (tag : Tag) : WriterM Unit := putScalar tag .null []

def putUint (tag : Tag) (n : UInt64) : WriterM Unit :=
  let width := Width.ofUnsigned n.toNat
  putScalar tag (.uint width) (encode width.bytes n.toNat)

def putInt (tag : Tag) (n : Int64) : WriterM Unit :=
  let width := Width.ofSigned n.toInt
  putScalar tag (.int width) (encode width.bytes (pattern width.bytes n.toInt))

def putFloat (tag : Tag) (bits : UInt32) : WriterM Unit :=
  putScalar tag .float32 (encode 4 bits.toNat)

def putDouble (tag : Tag) (bits : UInt64) : WriterM Unit :=
  putScalar tag .float64 (encode 8 bits.toNat)

/-- `type` picks the element type of a string by the width of its length field. -/
def putStringPayload (tag : Tag) (bytes : Bytes) (type : Width → ElementType) : WriterM Unit :=
  if bytes.length ≥ 2 ^ 64 then throw .lengthOverflow
  else
    let width := Width.ofUnsigned bytes.length
    modify (· ++ (encodeTag tag (type width) ++ encode width.bytes bytes.length ++ bytes))

end TlvWriter

def Text.bytes (text : Text) : Bytes := text.string.toUTF8.data.toList

namespace TlvWriter

def putUtf8 (tag : Tag) (text : Text) : WriterM Unit := putStringPayload tag text.bytes .utf8

def putBytes (tag : Tag) (octets : Octets) : WriterM Unit :=
  putStringPayload tag octets.bytes .bytes

def startContainer (tag : Tag) (kind : ContainerKind) : WriterM Unit :=
  writeTag tag (.container kind)

def startStructure (tag : Tag) : WriterM Unit := startContainer tag .struct

def startArray (tag : Tag) : WriterM Unit := startContainer tag .array

def startList (tag : Tag) : WriterM Unit := startContainer tag .list

def endContainer : WriterM Unit := modify (· ++ [ElementType.endOfContainer.code])

/-- The tag bytes before an element type given by its code. -/
def encodeTagCode (tag : Tag) (code : UInt8) : Bytes :=
  match encodeTag tag .null with
  | [] => []
  | control :: payload => (control &&& tagControlMask ||| code) :: payload

/-- Splice an encoded element with an anonymous tag into the stream under `tag`. -/
def putPreencoded (tag : Tag) (element : Bytes) : WriterM Unit :=
  match element with
  | [] => throw .unexpectedEof
  | control :: rest =>
    if control &&& tagControlMask ≠ TagControl.anonymous.bits then
      throw (.invalidTagControl (control &&& tagControlMask))
    else
      let elementType := control &&& elementTypeMask
      if elementType = ElementType.endOfContainer.code then throw (.invalidElementType elementType)
      else modify (· ++ (encodeTagCode tag elementType ++ rest))

mutual

def writeValueAtDepth (tag : Tag) : Value → Nat → WriterM Unit
  | .bool b, _ => putBool tag b
  | .null, _ => putNull tag
  | .uint n, _ => putUint tag n
  | .int n, _ => putInt tag n
  | .float bits, _ => putFloat tag bits
  | .double bits, _ => putDouble tag bits
  | .utf8 text, _ => putUtf8 tag text
  | .bytes octets, _ => putBytes tag octets
  | .struct members, depth =>
    if depth ≥ maxDepth then throw .containerTooDeep
    else do
      startStructure tag
      writeMembers members (depth + 1)
      endContainer
  | .array elements, depth =>
    if depth ≥ maxDepth then throw .containerTooDeep
    else do
      startArray tag
      writeElements elements (depth + 1)
      endContainer
  | .list members, depth =>
    if depth ≥ maxDepth then throw .containerTooDeep
    else do
      startList tag
      writeMembers members (depth + 1)
      endContainer

def writeMembers : List (Tag × Value) → Nat → WriterM Unit
  | [], _ => pure ()
  | (tag, value) :: rest, depth => do
    writeValueAtDepth tag value depth
    writeMembers rest depth

def writeElements : List Value → Nat → WriterM Unit
  | [], _ => pure ()
  | value :: rest, depth => do
    writeValueAtDepth .anonymous value depth
    writeElements rest depth

end

def writeValue (tag : Tag) (value : Value) : WriterM Unit := writeValueAtDepth tag value 0

end TlvWriter

/-- The element type of a scalar and the bytes that follow its tag. -/
def ValueRef.type : ValueRef → ElementType
  | bool b => .bool b
  | uint n => .uint (Width.ofUnsigned n.toNat)
  | int n => .int (Width.ofSigned n.toInt)
  | float _ => .float32
  | double _ => .float64
  | utf8 text => .utf8 (Width.ofUnsigned text.bytes.length)
  | bytes octets => .bytes (Width.ofUnsigned octets.bytes.length)
  | null => .null

/-- A length field in its least width, then the payload. -/
def lengthPrefixed (bytes : Bytes) : Bytes :=
  encode (Width.ofUnsigned bytes.length).bytes bytes.length ++ bytes

def ValueRef.body : ValueRef → Bytes
  | bool _ => []
  | uint n => encode (Width.ofUnsigned n.toNat).bytes n.toNat
  | int n =>
    encode (Width.ofSigned n.toInt).bytes (pattern (Width.ofSigned n.toInt).bytes n.toInt)
  | float bits => encode 4 bits.toNat
  | double bits => encode 8 bits.toNat
  | utf8 text => lengthPrefixed text.bytes
  | bytes octets => lengthPrefixed octets.bytes
  | null => []

def ValueRef.encode (tag : Tag) (value : ValueRef) : Bytes :=
  encodeTag tag value.type ++ value.body

/-- A container's members between its header and its end marker. -/
def enclose (tag : Tag) (kind : ContainerKind) (members : Bytes) : Bytes :=
  encodeTag tag (.container kind) ++ members ++ [ElementType.endOfContainer.code]

namespace Value

mutual

/-- What a value is on the wire, however deep it nests: the calls of the
streaming interface one after the other. -/
def encode (tag : Tag) : Value → Bytes
  | bool b => ValueRef.encode tag (.bool b)
  | null => ValueRef.encode tag .null
  | uint n => ValueRef.encode tag (.uint n)
  | int n => ValueRef.encode tag (.int n)
  | float bits => ValueRef.encode tag (.float bits)
  | double bits => ValueRef.encode tag (.double bits)
  | utf8 text => ValueRef.encode tag (.utf8 text)
  | bytes octets => ValueRef.encode tag (.bytes octets)
  | struct members => enclose tag .struct (encodeMembers members)
  | array elements => enclose tag .array (encodeElements elements)
  | list members => enclose tag .list (encodeMembers members)

def encodeMembers : List (Tag × Value) → Bytes
  | [] => []
  | (tag, value) :: rest => value.encode tag ++ encodeMembers rest

def encodeElements : List Value → Bytes
  | [] => []
  | value :: rest => value.encode .anonymous ++ encodeElements rest

end

theorem encodeElements_eq (elements : List Value) :
    encodeElements elements = encodeMembers (untagged elements) := by
  induction elements with
  | nil => rfl
  | cons value rest ih => simp only [encodeElements, untagged, List.map_cons, encodeMembers, ih]

theorem encode_ofRef (tag : Tag) (value : ValueRef) : (ofRef value).encode tag = value.encode tag := by
  cases value <;> simp only [ofRef, encode]

theorem encode_ofMembers (tag : Tag) (permitted : Permitted kind members) :
    (ofMembers kind members).encode tag = enclose tag kind (encodeMembers members) := by
  cases kind with
  | array => simp only [ofMembers, encode, encodeElements_eq, untagged_map_snd permitted]
  | _ => simp only [ofMembers, encode]

end Value

theorem Text.bytes_inj {text other : Text} (same : text.bytes = other.bytes) : text = other := by
  obtain ⟨string, _⟩ := text
  obtain ⟨string', _⟩ := other
  have arrays := Array.toList_inj.mp same
  obtain rfl : string = string' := String.toByteArray_inj.mp (ByteArray.ext arrays)
  rfl

theorem Text.length_bytes (text : Text) : text.bytes.length = text.string.utf8ByteSize := by
  simp only [Text.bytes, Array.length_toList]
  rfl

namespace TlvWriter
open Value

theorem putStringPayload_run (tag : Tag) {bytes : Bytes} (type : Width → ElementType)
    (addressable : bytes.length < allocLimit) (out : Bytes) :
    (putStringPayload tag bytes type).run out =
      .ok () (out ++ (encodeTag tag (type (Width.ofUnsigned bytes.length)) ++
        lengthPrefixed bytes)) := by
  have limit : allocLimit = 2 ^ 63 := rfl
  have short : ¬ bytes.length ≥ 2 ^ 64 := by omega
  simp only [putStringPayload, short, if_false, lengthPrefixed, List.append_assoc,
    EStateM.run_modify]

theorem writeValueAtDepth_ofRef (tag : Tag) (value : ValueRef) (depth : Nat) (out : Bytes) :
    (writeValueAtDepth tag (ofRef value) depth).run out = .ok () (out ++ value.encode tag) := by
  cases value with
  | utf8 text =>
    have addressable : text.bytes.length < allocLimit := text.length_bytes ▸ text.addressable
    exact putStringPayload_run tag .utf8 addressable out
  | bytes octets => exact putStringPayload_run tag .bytes octets.addressable out
  | _ => rfl

theorem writeElements_eq (elements : List Value) (depth : Nat) :
    writeElements elements depth = writeMembers (untagged elements) depth := by
  induction elements with
  | nil => rfl
  | cons value rest ih => simp only [writeElements, untagged, List.map_cons, writeMembers, ih]

theorem writeValueAtDepth_ofMembers (tag : Tag) (permitted : Permitted kind members) (depth : Nat) :
    writeValueAtDepth tag (ofMembers kind members) depth =
      if depth ≥ maxDepth then throw .containerTooDeep
      else (do
        startContainer tag kind
        writeMembers members (depth + 1)
        endContainer) := by
  cases kind with
  | struct => simp only [ofMembers, writeValueAtDepth, startStructure]
  | list => simp only [ofMembers, writeValueAtDepth, startList]
  | array =>
    simp [ofMembers, writeValueAtDepth, startArray, writeElements_eq, untagged_map_snd permitted]

/-- The writer's outcome on a tree whose encoding is `wire` and whose deepest
container is number `deepest`. -/
structure Writes (m : WriterM Unit) (deepest : Nat) (wire : Bytes) : Prop where
  shallow : deepest ≤ maxDepth → ∀ out, m.run out = .ok () (out ++ wire)
  deep : maxDepth < deepest → ∀ out, ∃ left, m.run out = .error .containerTooDeep left

theorem writeMembers_writes (bound : depth ≤ maxDepth)
    (each : ∀ member ∈ members, ∀ tag, Writes (writeValueAtDepth tag member.2 depth)
      (depth + member.2.nesting) (member.2.encode tag)) :
    Writes (writeMembers members depth) (depth + nestingMembers members)
      (encodeMembers members) := by
  induction members with
  | nil =>
    refine ⟨fun _ out => ?_, fun deep => ?_⟩
    · simp [writeMembers, encodeMembers]
    · simp only [nestingMembers] at deep
      omega
  | cons member rest ih =>
    obtain ⟨tag, value⟩ := member
    have head := each (tag, value) (List.mem_cons_self ..) tag
    have tail := ih fun m found => each m (List.mem_cons_of_mem _ found)
    simp only [nestingMembers, writeMembers, encodeMembers]
    refine ⟨fun shallow out => ?_, fun deep out => ?_⟩
    · have wrote := head.shallow (by dsimp only; omega) out
      rw [run_bind_ok wrote, ← List.append_assoc]
      exact tail.shallow (by omega) _
    · by_cases first : maxDepth < depth + value.nesting
      · obtain ⟨left, failed⟩ := head.deep first out
        exact ⟨left, run_bind_error failed⟩
      · have wrote := head.shallow (Nat.not_lt.mp first) out
        obtain ⟨left, failed⟩ := tail.deep (by omega) (out ++ value.encode tag)
        exact ⟨left, (run_bind_ok wrote).trans failed⟩

theorem writeValueAtDepth_writes (value : Value) (bound : depth ≤ maxDepth) (tag : Tag) :
    Writes (writeValueAtDepth tag value depth) (depth + value.nesting) (value.encode tag) := by
  induction value using ref_or_members generalizing depth tag with
  | ref value =>
    rw [nesting_ofRef, encode_ofRef]
    exact ⟨fun _ out => writeValueAtDepth_ofRef tag value depth out, fun deep => by omega⟩
  | members kind members permitted ih =>
    rw [nesting_ofMembers permitted, encode_ofMembers tag permitted,
      writeValueAtDepth_ofMembers tag permitted]
    by_cases full : depth ≥ maxDepth
    · rw [if_pos full]
      exact ⟨fun shallow => by omega, fun _ out => ⟨out, rfl⟩⟩
    · have next : depth + 1 ≤ maxDepth := by omega
      have inner := writeMembers_writes next fun member found tag => ih member found next tag
      rw [if_neg full]
      simp only [startContainer, writeTag]
      refine ⟨fun shallow out => ?_, fun deep out => ?_⟩
      · rw [run_bind_ok (EStateM.run_modify ..), run_bind_ok (inner.shallow (by omega) _)]
        simp [endContainer, enclose]
      · obtain ⟨left, failed⟩ := inner.deep (by omega) (out ++ encodeTag tag (.container kind))
        exact ⟨left, (run_bind_ok (EStateM.run_modify ..)).trans (run_bind_error failed)⟩

/-- `write_value` appends the encoding of the trees that nest at most
`MAX_DEPTH` deep and refuses all others. -/
theorem writeValue_writes (tag : Tag) (value : Value) :
    Writes (writeValue tag value) value.nesting (value.encode tag) := by
  simpa only [writeValue, Nat.zero_add] using
    writeValueAtDepth_writes value (Nat.zero_le maxDepth) tag

end TlvWriter
end Matter.Codec
