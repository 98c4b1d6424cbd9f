import Matter.Crypto.Ccm

/-! Secured message framing: the cleartext header, the nonce, and encryption of
the payload with the header as associated data. -/
namespace Matter.Transport
open Crypto LittleEndian

abbrev SessionId := UInt16
abbrev MessageCounter := UInt32
abbrev NodeId := UInt64

inductive Error where
  | malformedHeader (offset : Nat)
  | decryptionFailed
  | replayedCounter (counter : MessageCounter)
  | counterTooOld (counter windowLow windowHigh : MessageCounter)
  | unknownSession (id : SessionId)
  | counterOverflow
  | payloadTooLarge (len max : Nat)
  | malformedProtocolHeader (offset : Nat)
  | exchangeTableFull
  | crypto
deriving DecidableEq, Repr

inductive DestNodeId where
  | node (id : NodeId)
  | group (id : UInt16)
deriving DecidableEq, Repr

structure SecuredMessageHeader where
  flags : UInt8
  sessionId : SessionId
  securityFlags : UInt8
  messageCounter : MessageCounter
  sourceNodeId : Option NodeId
  destinationNodeId : Option DestNodeId
deriving DecidableEq, Repr

/-- Every bit of `flag` is set. -/
def contains (bits flag : UInt8) : Bool := bits &&& flag = flag

def sourcePresent : UInt8 := 0x04
def dsizMask : UInt8 := 0x03
def dsizNone : UInt8 := 0
def dsizUnicast : UInt8 := 1
def dsizGroup : UInt8 := 2
def dsizReserved : UInt8 := 3
def flagsMustBeZeroMask : UInt8 := 0xf8

/-- `width` bytes from `offset`, as a little-endian number. -/
def readAt (bytes : Bytes) (offset width : Nat) : Nat :=
  LittleEndian.decode ((bytes.drop offset).take width)

def encodeHeader (header : SecuredMessageHeader) : Bytes :=
  header.flags :: LittleEndian.encode 2 header.sessionId.toNat ++
    header.securityFlags :: LittleEndian.encode 4 header.messageCounter.toNat ++
    (match header.sourceNodeId with
      | none => []
      | some node => LittleEndian.encode 8 node.toNat) ++
    match header.destinationNodeId with
      | none => []
      | some (.node node) => LittleEndian.encode 8 node.toNat
      | some (.group group) => LittleEndian.encode 2 group.toNat

/-- The optional source node id, and the offset behind it. -/
def decodeSource (bytes : Bytes) (offset : Nat) : Except Error (Option NodeId × Nat) :=
  if contains (bytes.getD 0 0) sourcePresent then
    if bytes.length < offset + 8 then .error (.malformedHeader offset)
    else .ok (some (UInt64.ofNat (readAt bytes offset 8)), offset + 8)
  else .ok (none, offset)

/-- The optional destination, and the offset behind it. -/
def decodeDestination (bytes : Bytes) (offset : Nat) : Except Error (Option DestNodeId × Nat) :=
  let dsiz := bytes.getD 0 0 &&& dsizMask
  if dsiz = dsizNone then .ok (none, offset)
  else if dsiz = dsizUnicast then
    if bytes.length < offset + 8 then .error (.malformedHeader offset)
    else .ok (some (.node (UInt64.ofNat (readAt bytes offset 8))), offset + 8)
  else if dsiz = dsizGroup then
    if bytes.length < offset + 2 then .error (.malformedHeader offset)
    else .ok (some (.group (UInt16.ofNat (readAt bytes offset 2))), offset + 2)
  else .error (.malformedHeader 0)

def decodeHeader (bytes : Bytes) : Except Error (SecuredMessageHeader × Bytes) :=
  if bytes.length < 8 then .error (.malformedHeader bytes.length)
  else if bytes.getD 0 0 &&& flagsMustBeZeroMask ≠ 0 then .error (.malformedHeader 0)
  else if bytes.getD 0 0 &&& dsizMask = dsizReserved then .error (.malformedHeader 0)
  else do
    let (source, offset) ← decodeSource bytes 8
    let (destination, offset) ← decodeDestination bytes offset
    return ({
      flags := bytes.getD 0 0
      sessionId := UInt16.ofNat (readAt bytes 1 2)
      securityFlags := bytes.getD 3 0
      messageCounter := UInt32.ofNat (readAt bytes 4 4)
      sourceNodeId := source
      destinationNodeId := destination }, bytes.drop offset)

def maxPayloadLen : Nat := 1024

/-- Security flags, message counter and the sender's node id. A source node id in
the header takes precedence over the one the session supplies. -/
def buildNonce (header : SecuredMessageHeader) (nonceSourceNodeId : NodeId) : Bytes :=
  header.securityFlags :: LittleEndian.encode 4 header.messageCounter.toNat ++
    LittleEndian.encode 8 (header.sourceNodeId.getD nonceSourceNodeId).toNat

section Secured
variable (aead : Aead)

def encodeSecured (header : SecuredMessageHeader) (payload key : Bytes)
    (nonceSourceNodeId : NodeId) : Except Error Bytes :=
  if payload.length > maxPayloadLen then
    .error (.payloadTooLarge payload.length maxPayloadLen)
  else
    match aead.encrypt key (buildNonce header nonceSourceNodeId) (encodeHeader header) payload with
    | none => .error .crypto
    | some ciphertext => .ok (encodeHeader header ++ ciphertext)

def decryptSecuredWithHeader (bytes : Bytes) (header : SecuredMessageHeader) (headerLen : Nat)
    (key : Bytes) (nonceSourceNodeId : NodeId) : Except Error Bytes :=
  if bytes.length < headerLen then .error (.malformedHeader headerLen)
  else
    match aead.decrypt key (buildNonce header nonceSourceNodeId) (bytes.take headerLen)
      (bytes.drop headerLen) with
    | none => .error .decryptionFailed
    | some plaintext => .ok plaintext

end Secured

/-- The header of a session's own packets: no addresses, no flags. -/
def plainHeader (sessionId : SessionId) (counter : MessageCounter) : SecuredMessageHeader where
  flags := 0
  sessionId := sessionId
  securityFlags := 0
  messageCounter := counter
  sourceNodeId := none
  destinationNodeId := none

theorem readAt_encode (front back : Bytes) (fits : n < 256 ^ width) :
    readAt (front ++ (encode width n ++ back)) front.length width = n := by
  have whole : (encode width n ++ back).take (encode width n).length =
      encode width n := List.take_left
  rw [length_encode] at whole
  rw [readAt, List.drop_left, whole, decode_encode fits]

theorem readAt_u16 (front back : Bytes) (n : UInt16) :
    UInt16.ofNat (readAt (front ++ (encode 2 n.toNat ++ back)) front.length 2) = n := by
  rw [readAt_encode front back n.toNat_lt, UInt16.ofNat_toNat]

theorem readAt_u32 (front back : Bytes) (n : UInt32) :
    UInt32.ofNat (readAt (front ++ (encode 4 n.toNat ++ back)) front.length 4) = n := by
  rw [readAt_encode front back n.toNat_lt, UInt32.ofNat_toNat]

theorem encodeHeader_plainHeader (sessionId : SessionId) (counter : MessageCounter) :
    encodeHeader (plainHeader sessionId counter) =
      0 :: encode 2 sessionId.toNat ++ 0 :: encode 4 counter.toNat := by
  simp [encodeHeader, plainHeader]

theorem decodeHeader_unaddressed (long : ¬ bytes.length < 8) (first : bytes.getD 0 0 = 0) :
    decodeHeader bytes = .ok ({
      flags := 0
      sessionId := UInt16.ofNat (readAt bytes 1 2)
      securityFlags := bytes.getD 3 0
      messageCounter := UInt32.ofNat (readAt bytes 4 4)
      sourceNodeId := none
      destinationNodeId := none }, bytes.drop 8) := by
  have source : decodeSource bytes 8 = .ok (none, 8) := by
    rw [decodeSource, first]
    rfl
  have destination : decodeDestination bytes 8 = .ok (none, 8) := by
    rw [decodeDestination, first]
    rfl
  rw [decodeHeader, if_neg long, first, source]
  simp only [flagsMustBeZeroMask, dsizMask, dsizReserved, UInt8.zero_and, ne_eq, not_true_eq_false,
    if_false, bind, Except.bind, destination, pure, Except.pure]
  rfl

theorem decodeHeader_plainHeader (sessionId : SessionId) (counter : MessageCounter) (body : Bytes) :
    decodeHeader (encodeHeader (plainHeader sessionId counter) ++ body) =
      .ok (plainHeader sessionId counter, body) := by
  have id := readAt_u16 [0] (0 :: encode 4 counter.toNat ++ body) sessionId
  have count := readAt_u32 (0 :: encode 2 sessionId.toNat ++ [0]) body counter
  rw [encodeHeader_plainHeader, decodeHeader_unaddressed]
  · simp only [List.cons_append, List.nil_append, List.append_assoc, List.length_cons,
      List.length_append, length_encode, List.length_nil, Nat.reduceAdd] at id count ⊢
    simp only [id, count]
    simp [plainHeader, encode]
  · simp only [List.length_append, List.length_cons, length_encode]
    omega
  · rfl

theorem decodeSource_error (failed : decodeSource bytes offset = .error e) :
    ∃ n, e = .malformedHeader n := by
  unfold decodeSource at failed
  split at failed
  · split at failed <;> cases failed
    exact ⟨offset, rfl⟩
  · cases failed

theorem decodeDestination_error (failed : decodeDestination bytes offset = .error e) :
    ∃ n, e = .malformedHeader n := by
  simp only [decodeDestination] at failed
  split at failed
  · cases failed
  split at failed
  · split at failed <;> cases failed
    exact ⟨offset, rfl⟩
  split at failed
  · split at failed <;> cases failed
    exact ⟨offset, rfl⟩
  · cases failed
    exact ⟨0, rfl⟩

theorem decodeHeader_error (failed : decodeHeader bytes = .error e) :
    ∃ n, e = .malformedHeader n := by
  unfold decodeHeader at failed
  split at failed
  · cases failed
    exact ⟨_, rfl⟩
  split at failed
  · cases failed
    exact ⟨_, rfl⟩
  split at failed
  · cases failed
    exact ⟨_, rfl⟩
  cases source : decodeSource bytes 8 with
  | error e' =>
    simp only [source, bind, Except.bind] at failed
    cases failed
    exact decodeSource_error source
  | ok parsed =>
    cases destination : decodeDestination bytes parsed.2 with
    | error e' =>
      simp only [source, destination, bind, Except.bind] at failed
      cases failed
      exact decodeDestination_error destination
    | ok => simp [source, destination, bind, Except.bind, pure, Except.pure] at failed

section Packets
variable {aead : Aead} {sessionId : SessionId} {counter : MessageCounter}
variable {payload packet key : Bytes} {node : NodeId}

def counterOf (packet : Bytes) : Option MessageCounter :=
  (decodeHeader packet).toOption.map (·.1.messageCounter)

theorem encodeSecured_plain (aead : Aead) (sessionId : SessionId) (counter : MessageCounter)
    (key : Bytes) (node : NodeId) (short : payload.length ≤ maxPayloadLen) :
    ∃ packet, encodeSecured aead (plainHeader sessionId counter) payload key node = .ok packet := by
  have fits : payload.length < 2 ^ 16 := by
    unfold maxPayloadLen at short
    omega
  obtain ⟨ciphertext, sealed⟩ := aead.encrypts key (buildNonce (plainHeader sessionId counter) node)
    (encodeHeader (plainHeader sessionId counter)) payload fits
  rw [encodeSecured, if_neg (by omega), sealed]
  exact ⟨_, rfl⟩

/-- What a receiver holding the same key and node id gets back from a packet. -/
theorem decode_encodeSecured
    (encoded : encodeSecured aead (plainHeader sessionId counter) payload key node = .ok packet) :
    ∃ body, decodeHeader packet = .ok (plainHeader sessionId counter, body) ∧
      decryptSecuredWithHeader aead packet (plainHeader sessionId counter)
        (packet.length - body.length) key node = .ok payload := by
  unfold encodeSecured at encoded
  split at encoded
  · cases encoded
  · split at encoded
    · cases encoded
    · rename_i ciphertext sealed
      cases encoded
      have whole : (encodeHeader (plainHeader sessionId counter) ++ ciphertext).length -
          ciphertext.length = (encodeHeader (plainHeader sessionId counter)).length := by
        rw [List.length_append, Nat.add_sub_cancel]
      refine ⟨ciphertext, decodeHeader_plainHeader sessionId counter ciphertext, ?_⟩
      rw [decryptSecuredWithHeader, whole, List.take_left, List.drop_left, aead.decrypts sealed]
      simp

theorem counterOf_encodeSecured
    (encoded : encodeSecured aead (plainHeader sessionId counter) payload key node = .ok packet) :
    counterOf packet = some counter := by
  obtain ⟨body, header, _⟩ := decode_encodeSecured encoded
  rw [counterOf, header]
  rfl

end Packets

end Matter.Transport
