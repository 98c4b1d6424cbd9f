import Matter.Base.Exits
import Matter.Codec.Tlv

/-! The streaming TLV decoder and its tree builder. A reader is a position in a
byte slice with the depth of open containers; every method is the source method,
with what it has already consumed when it fails. The loops over a container's
children take fuel, and consume at least one byte for each unit of it. -/
namespace Matter.Codec
open Exits LittleEndian

/-- Byte offsets of an element: control octet, first body byte, end. -/
structure ElementSpan where
  start : Nat
  bodyStart : Nat
  stop : Nat
  deriving DecidableEq, Repr

/-- One step of the streaming reader. -/
inductive ElementRef where
  | scalar (tag : Tag) (value : ValueRef)
  | containerStart (tag : Tag) (kind : ContainerKind)
  | containerEnd

def defaultElementBudget : Nat := 2 ^ 20

structure TlvReader where
  input : Octets
  pos : Nat
  depth : Nat
  elementBudget : Nat
  lastSpan : Option ElementSpan
  lastWasContainerStart : Bool
  deriving DecidableEq

abbrev ReaderM := EStateM Error TlvReader

/-- Part of a slice is a slice. -/
def Octets.slice (octets : Octets) (start length : Nat) : Octets where
  bytes := (octets.bytes.drop start).take length
  addressable := by
    have bound := octets.addressable
    simp only [List.length_take, List.length_drop]
    omega

namespace Text

def is1 : Char := Char.ofNat 0x1f

/-- `str::from_utf8`. -/
def ofUtf8? (octets : Octets) : Option Text :=
  let array : ByteArray := ⟨octets.bytes.toArray⟩
  if valid : array.IsValidUTF8 then
    some ⟨String.fromUTF8 array valid, by
      have size : (String.fromUTF8 array valid).utf8ByteSize = octets.bytes.length := rfl
      rw [size]
      exact octets.addressable⟩
  else none

theorem utf8ByteSize_takeWhile_le (string : String) (keep : Char → Bool) :
    (String.ofList (string.toList.takeWhile keep)).utf8ByteSize ≤ string.utf8ByteSize := by
  have whole := string.toList.takeWhile_append_dropWhile (p := keep)
  have size := congrArg (fun chars => (String.ofList chars).utf8ByteSize) whole
  simp only [String.ofList_append, String.utf8ByteSize_append, String.ofList_toList] at size
  omega

/-- The text before the first IS1 separator. -/
def beforeIs1 (text : Text) : Text where
  string := String.ofList (text.string.toList.takeWhile (· ≠ is1))
  addressable :=
    Nat.lt_of_le_of_lt (utf8ByteSize_takeWhile_le text.string _) text.addressable

end Text

namespace TlvReader

def withElementBudget (input : Octets) (budget : Nat) : TlvReader where
  input := input
  pos := 0
  depth := 0
  elementBudget := budget
  lastSpan := none
  lastWasContainerStart := false

def new (input : Octets) : TlvReader := withElementBudget input defaultElementBudget

def isEmpty (r : TlvReader) : Bool := r.pos ≥ r.input.bytes.length

def advance (r : TlvReader) (n : Nat) : TlvReader := { r with pos := r.pos + n }

def nextByte : ReaderM UInt8 := do
  let r ← get
  match r.input.bytes[r.pos]? with
  | none => throw .unexpectedEof
  | some b =>
    set (r.advance 1)
    return b

def nextBytes (n : Nat) : ReaderM Octets := do
  let r ← get
  if r.pos + n ≥ usizeLimit then throw .lengthOverflow
  else if r.pos + n > r.input.bytes.length then throw .unexpectedEof
  else
    set (r.advance n)
    return r.input.slice r.pos n

/-- `n` bytes as the little-endian number they encode. -/
def readLe (n : Nat) : ReaderM Nat := do
  let raw ← nextBytes n
  return decode raw.bytes

def readU16Le : ReaderM UInt16 := do return UInt16.ofNat (← readLe 2)

def readU32Le : ReaderM UInt32 := do return UInt32.ofNat (← readLe 4)

def readU64Le : ReaderM UInt64 := do return UInt64.ofNat (← readLe 8)

def readTag (control : UInt8) : ReaderM Tag :=
  match TagControl.ofBits? (control &&& tagControlMask) with
  | some .anonymous => return .anonymous
  | some .context => return .context (← nextByte)
  | some .commonProfile2 => return .commonProfile (← readU16Le).toUInt32
  | some .commonProfile4 => return .commonProfile (← readU32Le)
  | some .implicitProfile2 => return .implicitProfile (← readU16Le).toUInt32
  | some .implicitProfile4 => return .implicitProfile (← readU32Le)
  | some .fullyQualified6 => do
    let vendor ← readU16Le
    let profile ← readU16Le
    let tag ← readU16Le
    return .fullyQualified vendor profile tag.toUInt32
  | some .fullyQualified8 => do
    let vendor ← readU16Le
    let profile ← readU16Le
    let tag ← readU32Le
    return .fullyQualified vendor profile tag
  | none => throw (.invalidTagControl (control &&& tagControlMask))

/-- A one-byte number is read with `next_byte`, a wider one with `next_bytes`. -/
def readNumber : Width → ReaderM Nat
  | .w8 => do return (← nextByte).toNat
  | width => readLe width.bytes

def readPayloadLen (width : Width) : ReaderM Nat := readNumber width

def readUtf8Ref (len : Nat) : ReaderM ValueRef := do
  let octets ← nextBytes len
  match Text.ofUtf8? octets with
  | none => throw .invalidUtf8
  | some text => return .utf8 text.beforeIs1

def readBytesRef (len : Nat) : ReaderM ValueRef := return .bytes (← nextBytes len)

def readValueBodyRef (elemType : UInt8) : ReaderM ValueRef :=
  match ElementType.ofCode? elemType with
  | some (.bool b) => return .bool b
  | some .null => return .null
  | some (.uint width) => return .uint (UInt64.ofNat (← readNumber width))
  | some (.int width) => return .int (Int64.ofInt (signed width.bytes (← readNumber width)))
  | some .float32 => return .float (← readU32Le)
  | some .float64 => return .double (← readU64Le)
  | some (.utf8 width) => do readUtf8Ref (← readPayloadLen width)
  | some (.bytes width) => do readBytesRef (← readPayloadLen width)
  | _ => throw (.invalidElementType elemType)

def containerKind (elemType : UInt8) : Option ContainerKind :=
  match ElementType.ofCode? elemType with
  | some (.container kind) => some kind
  | _ => none

/-- Record the span of the element that is being returned. -/
def returning (r : TlvReader) (start bodyStart : Nat) (opens : Bool) : TlvReader :=
  { r with lastSpan := some ⟨start, bodyStart, r.pos⟩, lastWasContainerStart := opens }

/-- The part of `next_ref` that follows the tag of an element at `start`. -/
def nextTagged (start : Nat) (elemType : UInt8) (tag : Tag) : ReaderM (Option ElementRef) := do
  let body ← get
  match containerKind elemType with
  | some kind =>
    if body.depth ≥ maxDepth then throw .containerTooDeep
    else
      set (({ body with depth := body.depth + 1 }).returning start body.pos true)
      return some (.containerStart tag kind)
  | none =>
    let value ← readValueBodyRef elemType
    modify fun s => s.returning start body.pos false
    return some (.scalar tag value)

def nextRef : ReaderM (Option ElementRef) := do
  let r ← get
  if r.isEmpty then return none
  else
    let control ← nextByte
    let elemType := control &&& elementTypeMask
    if elemType = ElementType.endOfContainer.code then
      if control &&& tagControlMask ≠ TagControl.anonymous.bits then
        throw (.invalidTagControl (control &&& tagControlMask))
      else if r.depth = 0 then throw .unexpectedEndOfContainer
      else
        modify fun s => ({ s with depth := s.depth - 1 }).returning r.pos s.pos false
        return some .containerEnd
    else
      let tag ← readTag control
      nextTagged r.pos elemType tag

/-- `checked_sub(1).ok_or(ElementBudgetExceeded)`, on charged decodes only. -/
def chargeElement (charge : Bool) (budget : Nat) : ReaderM Nat :=
  if !charge then return budget
  else if budget = 0 then throw .elementBudgetExceeded
  else return budget - 1

/-- Write the local budget back to the reader, on charged decodes only. -/
def syncBudget (charge : Bool) (budget : Nat) : ReaderM Unit :=
  modify fun r => if charge then { r with elementBudget := budget } else r

/-- The loop of `read_container_body` over the children of a container of
`kind`; `budget` is the local mirror of the remaining element budget. -/
def readMembers (charge : Bool) (kind : ContainerKind) :
    Nat → Nat → List (Tag × Value) → ReaderM (List (Tag × Value))
  | 0, _, _ => throw .unclosedContainer
  | fuel + 1, budget, members => do
    match ← nextRef with
    | none => throw .unclosedContainer
    | some .containerEnd =>
      syncBudget charge budget
      return members
    | some (.scalar tag value) =>
      if kind = .array ∧ tag ≠ .anonymous then throw .nonAnonymousArrayTag
      else
        let budget ← chargeElement charge budget
        readMembers charge kind fuel budget (members ++ [(tag, Value.ofRef value)])
    | some (.containerStart tag inner) =>
      if kind = .array ∧ tag ≠ .anonymous then throw .nonAnonymousArrayTag
      else
        let budget ← chargeElement charge budget
        syncBudget charge budget
        let opened ← get
        let children ← readMembers charge inner fuel opened.elementBudget []
        let closed ← get
        readMembers charge kind fuel (if charge then closed.elementBudget else budget)
          (members ++ [(tag, Value.ofMembers inner children)])

def remaining (r : TlvReader) : Nat := r.input.bytes.length - r.pos

def readContainerBody (charge : Bool) (kind : ContainerKind) : ReaderM Value := do
  let r ← get
  let members ← readMembers charge kind (r.remaining + 1) r.elementBudget []
  return Value.ofMembers kind members

def readValueInner (charge : Bool) : ReaderM (Tag × Value) := do
  match ← nextRef with
  | some (.scalar tag value) =>
    syncBudget charge (← chargeElement charge (← get).elementBudget)
    return (tag, Value.ofRef value)
  | some (.containerStart tag kind) =>
    syncBudget charge (← chargeElement charge (← get).elementBudget)
    let value ← readContainerBody charge kind
    return (tag, value)
  | some .containerEnd => throw .unexpectedEndOfContainer
  | none => throw .unexpectedEof

def readValue : ReaderM (Tag × Value) := do
  let r ← get
  readValueInner (r.remaining > r.elementBudget)

def skipValueBody (elemType : UInt8) : ReaderM Unit :=
  match ElementType.ofCode? elemType with
  | some (.bool _) => do let _ ← nextBytes 0
  | some .null => do let _ ← nextBytes 0
  | some (.uint width) => do let _ ← nextBytes width.bytes
  | some (.int width) => do let _ ← nextBytes width.bytes
  | some .float32 => do let _ ← nextBytes 4
  | some .float64 => do let _ ← nextBytes 8
  | some (.utf8 width) => do let _ ← nextBytes (← readPayloadLen width)
  | some (.bytes width) => do let _ ← nextBytes (← readPayloadLen width)
  | _ => throw (.invalidElementType elemType)

/-- The loop of `skip_container_body`; the second argument is its own nesting
counter, the reader's `depth` stays as it was. -/
def skipLoop : Nat → Nat → ReaderM Unit
  | _, 0 => return ()
  | 0, _ => throw .unclosedContainer
  | fuel + 1, depth + 1 => do
    let r ← get
    if r.isEmpty then throw .unclosedContainer
    else
      let control ← nextByte
      let elemType := control &&& elementTypeMask
      if elemType = ElementType.endOfContainer.code then
        if control &&& tagControlMask ≠ TagControl.anonymous.bits then
          throw (.invalidTagControl (control &&& tagControlMask))
        else if depth + 1 = 1 ∧ r.depth = 0 then throw .unexpectedEndOfContainer
        else skipLoop fuel depth
      else
        let _ ← readTag control
        match containerKind elemType with
        | some _ =>
          if r.depth + (depth + 1) > maxDepth then throw .containerTooDeep
          else skipLoop fuel (depth + 2)
        | none =>
          skipValueBody elemType
          skipLoop fuel (depth + 1)

def skipContainerBody : ReaderM Unit := do
  let r ← get
  skipLoop (r.remaining + 1) 1
  modify fun r => { r with depth := r.depth - 1 }

def skipContainer : ReaderM Unit := do
  skipContainerBody
  modify fun r => { r with
    lastSpan := r.lastSpan.map fun header => { header with stop := r.pos }
    lastWasContainerStart := false }

def skipContainerSpan : ReaderM ElementSpan := do
  let r ← get
  match r.lastSpan with
  | some header =>
    if !r.lastWasContainerStart then throw .unexpectedEndOfContainer
    else
      skipContainerBody
      let closed ← get
      let span := { header with stop := closed.pos }
      set { closed with lastSpan := some span, lastWasContainerStart := false }
      return span
  | none => throw .unexpectedEndOfContainer

/-- The loop of `finish`: each skip closes one of the open containers. -/
def closeAll : Nat → ReaderM Unit
  | 0 => return ()
  | depth + 1 => do
    skipContainerBody
    modify fun r => { r with lastWasContainerStart := false }
    closeAll depth

def finish : ReaderM Unit := do
  let r ← get
  closeAll r.depth
  let closed ← get
  if closed.isEmpty then return ()
  else throw .trailingData

/-- `span_bytes` of the range from `start` to `stop`. -/
def spanBytes (r : TlvReader) (start stop : Nat) : Bytes :=
  if start ≤ stop ∧ stop ≤ r.input.bytes.length then (r.input.slice start (stop - start)).bytes
  else []

end TlvReader
end Matter.Codec
