import Matter.Transport.Framing

/-! The application protocol header inside every encrypted payload. The vendor
and acknowledgement flags are derived from the fields when a header is written,
and extension data is skipped when one is read. -/
namespace Matter.Transport

open LittleEndian
/-- The flags of an exchange. Reserved bits have no field: they never pass decoding. -/
structure ExchangeFlags where
  initiator : Bool := false
  ack : Bool := false
  reliable : Bool := false
  secureExtension : Bool := false
  vendor : Bool := false
deriving DecidableEq, Repr

namespace ExchangeFlags

def bits (flags : ExchangeFlags) : UInt8 :=
  (if flags.initiator then 0x01 else 0) ||| (if flags.ack then 0x02 else 0) |||
    (if flags.reliable then 0x04 else 0) ||| (if flags.secureExtension then 0x08 else 0) |||
    (if flags.vendor then 0x10 else 0)

def ofBits (bits : UInt8) : ExchangeFlags where
  initiator := contains bits 0x01
  ack := contains bits 0x02
  reliable := contains bits 0x04
  secureExtension := contains bits 0x08
  vendor := contains bits 0x10

end ExchangeFlags

def reservedFlagBits : UInt8 := 0xe0

structure ProtocolId where
  vendor : UInt16
  protocol : UInt16
deriving DecidableEq, Repr

namespace ProtocolId

def secureChannel : ProtocolId := ⟨0, 0⟩
def interactionModel : ProtocolId := ⟨0, 1⟩
def bdx : ProtocolId := ⟨0, 2⟩

end ProtocolId

def standaloneAck : UInt8 := 0x10

structure ProtocolHeader where
  exchangeFlags : ExchangeFlags
  opcode : UInt8
  exchangeId : UInt16
  protocolId : ProtocolId
  ackCounter : Option MessageCounter
deriving DecidableEq, Repr

namespace ProtocolHeader

/-- The flags on the wire: vendor and acknowledgement follow the fields. -/
def wireFlags (h : ProtocolHeader) : ExchangeFlags :=
  { h.exchangeFlags with vendor := h.protocolId.vendor ≠ 0, ack := h.ackCounter.isSome }

def vendorBytes (h : ProtocolHeader) : Bytes :=
  if h.protocolId.vendor ≠ 0 then LittleEndian.encode 2 h.protocolId.vendor.toNat else []

def ackBytes (h : ProtocolHeader) : Bytes :=
  match h.ackCounter with
  | none => []
  | some c => LittleEndian.encode 4 c.toNat

end ProtocolHeader

def encodeProtocolHeader (h : ProtocolHeader) : Bytes :=
  h.wireFlags.bits :: h.opcode :: LittleEndian.encode 2 h.exchangeId.toNat ++
    (LittleEndian.encode 2 h.protocolId.protocol.toNat ++ (h.vendorBytes ++ h.ackBytes))

def decodeVendor (flags : ExchangeFlags) (bytes : Bytes) (offset : Nat) :
    Except Error (UInt16 × Nat) :=
  if flags.vendor then
    if bytes.length < offset + 2 then .error (.malformedProtocolHeader offset)
    else .ok (UInt16.ofNat (readAt bytes offset 2), offset + 2)
  else .ok (0, offset)

def decodeAckCounter (flags : ExchangeFlags) (bytes : Bytes) (offset : Nat) :
    Except Error (Option MessageCounter × Nat) :=
  if flags.ack then
    if bytes.length < offset + 4 then .error (.malformedProtocolHeader offset)
    else .ok (some (UInt32.ofNat (readAt bytes offset 4)), offset + 4)
  else .ok (none, offset)

/-- The offset behind a length-prefixed blob. -/
def skipLengthPrefixed (bytes : Bytes) (offset : Nat) : Except Error Nat :=
  if bytes.length < offset + 2 then .error (.malformedProtocolHeader offset)
  else if bytes.length < offset + 2 + readAt bytes offset 2 then
    .error (.malformedProtocolHeader (offset + 2))
  else .ok (offset + 2 + readAt bytes offset 2)

/-- Extension data is discarded. -/
def skipExtension (flags : ExchangeFlags) (bytes : Bytes) (offset : Nat) : Except Error Nat :=
  if flags.secureExtension then skipLengthPrefixed bytes offset else .ok offset

def decodeProtocolHeader (bytes : Bytes) : Except Error (ProtocolHeader × Bytes) :=
  if bytes.length < 6 then .error (.malformedProtocolHeader bytes.length)
  else if bytes.getD 0 0 &&& reservedFlagBits ≠ 0 then .error (.malformedProtocolHeader 0)
  else do
    let flags := ExchangeFlags.ofBits (bytes.getD 0 0)
    let (vendor, offset) ← decodeVendor flags bytes 6
    let (ackCounter, offset) ← decodeAckCounter flags bytes offset
    let offset ← skipExtension flags bytes offset
    return ({
      exchangeFlags := flags
      opcode := bytes.getD 1 0
      exchangeId := UInt16.ofNat (readAt bytes 2 2)
      protocolId := ⟨vendor, UInt16.ofNat (readAt bytes 4 2)⟩
      ackCounter := ackCounter }, bytes.drop offset)

def buildStandaloneAckHeader (exchangeId : UInt16) (ackCounter : MessageCounter)
    (isLocalInitiator : Bool) : ProtocolHeader where
  exchangeFlags := { ack := true, initiator := isLocalInitiator }
  opcode := standaloneAck
  exchangeId := exchangeId
  protocolId := .secureChannel
  ackCounter := some ackCounter

theorem ExchangeFlags.ofBits_bits (flags : ExchangeFlags) : ofBits flags.bits = flags := by
  obtain ⟨i, a, r, x, v⟩ := flags
  revert i a r x v
  decide

theorem ExchangeFlags.bits_reserved (flags : ExchangeFlags) :
    flags.bits &&& reservedFlagBits = 0 := by
  obtain ⟨i, a, r, x, v⟩ := flags
  revert i a r x v
  decide

namespace ProtocolHeader
variable (h : ProtocolHeader) (tail : Bytes)

theorem length_vendorBytes : h.vendorBytes.length = if h.wireFlags.vendor then 2 else 0 := by
  unfold vendorBytes wireFlags
  split <;> simp_all

theorem length_ackBytes : h.ackBytes.length = if h.wireFlags.ack then 4 else 0 := by
  unfold ackBytes wireFlags
  split <;> simp_all

theorem length_encode_le : (encodeProtocolHeader h).length ≤ 12 := by
  have vendor := length_vendorBytes h
  have ack := length_ackBytes h
  simp only [encodeProtocolHeader, List.cons_append, List.length_cons, List.length_append,
    length_encode]
  split at vendor <;> split at ack <;> omega

theorem decodeVendor_bytes (front : Bytes) :
    decodeVendor h.wireFlags (front ++ (h.vendorBytes ++ tail)) front.length =
      .ok (h.protocolId.vendor, front.length + h.vendorBytes.length) := by
  have length := length_vendorBytes h
  unfold decodeVendor
  split
  · rename_i present
    rw [if_pos present] at length
    have written : h.vendorBytes = encode 2 h.protocolId.vendor.toNat := by
      exact if_pos (by simpa [wireFlags] using present)
    rw [if_neg (by simp only [List.length_append]; omega), length, written, readAt_u16]
  · rename_i absent
    have zero : h.protocolId.vendor = 0 := by simpa [wireFlags] using absent
    rw [length, if_neg absent, zero]
    rfl

theorem decodeAckCounter_bytes (front : Bytes) :
    decodeAckCounter h.wireFlags (front ++ (h.ackBytes ++ tail)) front.length =
      .ok (h.ackCounter, front.length + h.ackBytes.length) := by
  have length := length_ackBytes h
  unfold decodeAckCounter
  cases acked : h.ackCounter with
  | none =>
    have absent : h.wireFlags.ack = false := by simp [wireFlags, acked]
    rw [absent] at length ⊢
    rw [length]
    rfl
  | some c =>
    have present : h.wireFlags.ack = true := by simp [wireFlags, acked]
    have written : h.ackBytes = encode 4 c.toNat := by simp [ackBytes, acked]
    rw [present] at length ⊢
    rw [if_pos rfl, if_neg (by simp only [List.length_append, length]; simp), written, readAt_u32,
      length_encode]

/-- The six bytes every header starts with. -/
def fixedBytes (h : ProtocolHeader) : Bytes :=
  h.wireFlags.bits :: h.opcode :: (LittleEndian.encode 2 h.exchangeId.toNat ++
    LittleEndian.encode 2 h.protocolId.protocol.toNat)

theorem length_fixedBytes : h.fixedBytes.length = 6 := by
  simp [fixedBytes]

theorem encode_eq :
    encodeProtocolHeader h ++ tail = h.fixedBytes ++ (h.vendorBytes ++ (h.ackBytes ++ tail)) := by
  simp [encodeProtocolHeader, fixedBytes]

theorem readAt_exchangeId (back : Bytes) :
    UInt16.ofNat (readAt (h.fixedBytes ++ back) 2 2) = h.exchangeId := by
  have read := readAt_u16 [h.wireFlags.bits, h.opcode]
    (encode 2 h.protocolId.protocol.toNat ++ back) h.exchangeId
  simpa [fixedBytes] using read

theorem readAt_protocol (back : Bytes) :
    UInt16.ofNat (readAt (h.fixedBytes ++ back) 4 2) = h.protocolId.protocol := by
  have read := readAt_u16 (h.wireFlags.bits :: h.opcode :: encode 2 h.exchangeId.toNat)
    back h.protocolId.protocol
  simpa [fixedBytes] using read

end ProtocolHeader

theorem decodeVendor_error (failed : decodeVendor flags bytes offset = .error e) :
    ∃ n, e = .malformedProtocolHeader n := by
  unfold decodeVendor at failed
  split at failed
  · split at failed <;> cases failed
    exact ⟨offset, rfl⟩
  · cases failed

theorem decodeAckCounter_error (failed : decodeAckCounter flags bytes offset = .error e) :
    ∃ n, e = .malformedProtocolHeader n := by
  unfold decodeAckCounter at failed
  split at failed
  · split at failed <;> cases failed
    exact ⟨offset, rfl⟩
  · cases failed

theorem skipExtension_error (failed : skipExtension flags bytes offset = .error e) :
    ∃ n, e = .malformedProtocolHeader n := by
  unfold skipExtension at failed
  split at failed
  · unfold skipLengthPrefixed at failed
    split at failed
    · cases failed
      exact ⟨offset, rfl⟩
    · split at failed <;> cases failed
      exact ⟨offset + 2, rfl⟩
  · cases failed

theorem decodeProtocolHeader_error (failed : decodeProtocolHeader bytes = .error e) :
    ∃ n, e = .malformedProtocolHeader n := by
  unfold decodeProtocolHeader at failed
  split at failed
  · cases failed
    exact ⟨_, rfl⟩
  split at failed
  · cases failed
    exact ⟨_, rfl⟩
  generalize ExchangeFlags.ofBits (bytes.getD 0 0) = flags at failed
  cases vendor : decodeVendor flags bytes 6 with
  | error e' =>
    simp only [vendor, bind, Except.bind] at failed
    cases failed
    exact decodeVendor_error vendor
  | ok vendored =>
    cases ack : decodeAckCounter flags bytes vendored.2 with
    | error e' =>
      simp only [vendor, ack, bind, Except.bind] at failed
      cases failed
      exact decodeAckCounter_error ack
    | ok acked =>
      cases extension : skipExtension flags bytes acked.2 with
      | error e' =>
        simp only [vendor, ack, extension, bind, Except.bind] at failed
        cases failed
        exact skipExtension_error extension
      | ok => simp [vendor, ack, extension, bind, Except.bind, pure, Except.pure] at failed

/-- Reading back a written header. Only a header that announces no extension data
is written with everything it announces. -/
theorem decodeProtocolHeader_encode (h : ProtocolHeader) (tail : Bytes)
    (plain : h.exchangeFlags.secureExtension = false) :
    decodeProtocolHeader (encodeProtocolHeader h ++ tail) =
      .ok ({ h with exchangeFlags := h.wireFlags }, tail) := by
  have vendor := h.decodeVendor_bytes (h.ackBytes ++ tail) h.fixedBytes
  have ack := h.decodeAckCounter_bytes tail (h.fixedBytes ++ h.vendorBytes)
  rw [List.append_assoc, List.length_append, h.length_fixedBytes] at ack
  rw [h.length_fixedBytes] at vendor
  have long : ¬ (h.fixedBytes ++ (h.vendorBytes ++ (h.ackBytes ++ tail))).length < 6 := by
    rw [List.length_append, h.length_fixedBytes]
    omega
  have first : (h.fixedBytes ++ (h.vendorBytes ++ (h.ackBytes ++ tail))).getD 0 0 =
      h.wireFlags.bits := rfl
  have opcode : (h.fixedBytes ++ (h.vendorBytes ++ (h.ackBytes ++ tail))).getD 1 0 =
      h.opcode := rfl
  have rest : (h.fixedBytes ++ (h.vendorBytes ++ (h.ackBytes ++ tail))).drop
      (6 + h.vendorBytes.length + h.ackBytes.length) = tail := by
    rw [← h.length_fixedBytes, ← List.append_assoc, ← List.append_assoc, ← List.length_append,
      ← List.length_append, List.drop_left]
  have extension : ∀ bytes n, skipExtension h.wireFlags bytes n = .ok n :=
    fun _ _ => if_neg (by simpa [ProtocolHeader.wireFlags] using plain)
  rw [h.encode_eq, decodeProtocolHeader, if_neg long, first, ExchangeFlags.bits_reserved,
    if_neg (by simp), ExchangeFlags.ofBits_bits]
  simp only [bind, Except.bind, vendor, ack, extension, pure, Except.pure, opcode,
    h.readAt_exchangeId, h.readAt_protocol, rest]

end Matter.Transport
