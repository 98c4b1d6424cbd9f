import Matter.Commissioning.Errors
import Matter.Interaction.Messages

/-! The payloads of the commands a commissioning sends and of the responses it
reads, for the Operational Credentials, General Commissioning and Network
Commissioning clusters. A response is one anonymous struct with nothing after
it; a member it does not know is skipped. -/
namespace Matter.Commissioning
open Codec Cert TlvReader
open Interaction (u8TryFrom u16TryFrom u32TryFrom)

/-! What the decoders share. -/

section Structs
variable {ε σ α : Type} (wrap : Codec.Error → ε)

def expectStruct (notStruct : ε) : ParserM ε Unit := do
  match ← nextElement wrap notStruct with
  | .containerStart .anonymous .struct => return ()
  | _ => throw notStruct

def skipUnknown (state : σ) : ElementRef → ParserM ε σ
  | .containerStart _ _ => do
    fromCodec wrap skipContainer
    return state
  | _ => return state

/-- The loop over the members of the struct that was just opened, up to its end. -/
def structMembers (cut : ε) (member : σ → ElementRef → ParserM ε σ) (init : σ) : ParserM ε σ :=
  elements wrap cut (fun state element =>
    match element with
    | .containerEnd => return .leave state
    | element => return .again (← member state element)) init

/-- A struct, its members, and the end of the input. -/
def wholeStruct (notStruct cut : ε) (member : σ → ElementRef → ParserM ε σ) (init : σ) :
    ParserM ε σ := do
  expectStruct wrap notStruct
  let state ← structMembers wrap cut member init
  fromCodec wrap finish
  return state

variable {wrap}

/-- `ok_or`. -/
def okOr (error : ε) : Option α → ParserM ε α
  | none => throw error
  | some a => return a

/-- A field that may occur once. -/
def once (duplicate : ε) (slot : Option α) : ParserM ε Unit :=
  if slot.isSome then throw duplicate else return ()

end Structs

/-- What the writer has written; its calls do not fail on a vector. -/
def encoded (m : WriterM Unit) : Bytes := Exits.final (m.run [])

/-- `String::truncate` at the last character boundary within `room` bytes. -/
def takeBytes : Nat → List Char → List Char
  | _, [] => []
  | room, c :: rest => if c.utf8Size ≤ room then c :: takeBytes (room - c.utf8Size) rest else []

theorem utf8ByteSize_takeBytes_le (room : Nat) (chars : List Char) :
    (String.ofList (takeBytes room chars)).utf8ByteSize ≤ (String.ofList chars).utf8ByteSize := by
  induction chars generalizing room with
  | nil => exact Nat.le_refl _
  | cons c rest ih =>
    rw [takeBytes]
    split
    · have rest := ih (room - c.utf8Size)
      simp only [String.ofList_cons, String.utf8ByteSize_append]
      omega
    · exact Nat.zero_le _

def truncateUtf8 (text : Text) (maxBytes : Nat) : Text where
  string := String.ofList (takeBytes maxBytes text.string.toList)
  addressable := by
    have shorter := utf8ByteSize_takeBytes_le maxBytes text.string.toList
    rw [String.ofList_toList] at shorter
    exact Nat.lt_of_le_of_lt shorter text.addressable

/-! Operational Credentials. -/

section OperationalCredentials
open TlvWriter

abbrev NocM := ParserM NocError

/-- A struct of the Operational Credentials cluster. -/
def nocStruct {σ : Type} (message : String) (member : σ → ElementRef → NocM σ) (init : σ) :
    NocM σ :=
  wholeStruct .clusterCodec (.malformedResponse s!"{message}: expected an anonymous structure")
    (.clusterCodec .unclosedContainer) member init

structure SignedElements where
  elements : Option Octets := none
  signature : Option (Block 64) := none

def signedElementsMember (message elementsField signatureField : String)
    (fields : SignedElements) : ElementRef → NocM SignedElements
  | .scalar (.context 0) (.bytes octets) => do
    once (.malformedResponse s!"{message}: duplicate {elementsField} field") fields.elements
    return { fields with elements := some octets }
  | .scalar (.context 1) (.bytes octets) => do
    once (.malformedResponse s!"{message}: duplicate {signatureField} field") fields.signature
    let signature ← okOr
      (.malformedResponse s!"{message}: {signatureField} is not exactly 64 bytes")
      (Block.tryFrom 64 octets.bytes)
    return { fields with signature := some signature }
  | element => skipUnknown .clusterCodec fields element

/-- A blob and a signature over it, which two of the responses consist of. -/
def decodeSignedElements (message elementsField signatureField : String) (tlv : Octets) :
    Except NocError (Octets × Block 64) :=
  parseWhole (do
    let fields ← nocStruct message
      (signedElementsMember message elementsField signatureField) {}
    let elements ← okOr (.malformedResponse s!"{message}: missing {elementsField} field")
      fields.elements
    let signature ← okOr (.malformedResponse s!"{message}: missing {signatureField} field")
      fields.signature
    return (elements, signature)) tlv

structure AttestationResponse where
  attestationElements : Octets
  signature : Block 64
  deriving DecidableEq

def decodeAttestationResponse (tlv : Octets) : Except NocError AttestationResponse := do
  let (elements, signature) ←
    decodeSignedElements "AttestationResponse" "AttestationElements" "Signature" tlv
  return ⟨elements, signature⟩

structure CsrResponse where
  nocsrElements : Octets
  attestationSignature : Block 64
  deriving DecidableEq

def decodeCsrResponse (tlv : Octets) : Except NocError CsrResponse := do
  let (elements, signature) ←
    decodeSignedElements "CSRResponse" "NOCSRElements" "AttestationSignature" tlv
  return ⟨elements, signature⟩

def certificateMember (certificate : Option Octets) : ElementRef → NocM (Option Octets)
  | .scalar (.context 0) (.bytes octets) => do
    once (.malformedResponse "CertificateChainResponse: duplicate Certificate field") certificate
    return some octets
  | element => skipUnknown .clusterCodec certificate element

def decodeCertificateChainResponse (tlv : Octets) : Except NocError Octets :=
  parseWhole (do
    let certificate ← nocStruct "CertificateChainResponse" certificateMember none
    okOr (.malformedResponse "CertificateChainResponse: missing Certificate field")
      certificate) tlv

structure NocResponse where
  status : UInt8
  fabricIndex : Option UInt8
  debugText : Option Text
  deriving DecidableEq

structure NocResponseFields where
  status : Option UInt8 := none
  fabricIndex : Option UInt8 := none
  debugText : Option Text := none

/-- Here a repeated field replaces the earlier one. -/
def nocResponseMember (fields : NocResponseFields) : ElementRef → NocM NocResponseFields
  | .scalar (.context 0) (.uint n) => do
    let status ← okOr (.malformedResponse "NOCResponse: StatusCode exceeds u8") (u8TryFrom n)
    return { fields with status := some status }
  | .scalar (.context 1) (.uint n) => do
    let index ← okOr (.malformedResponse "NOCResponse: FabricIndex exceeds u8") (u8TryFrom n)
    return { fields with fabricIndex := some index }
  | .scalar (.context 2) (.utf8 text) =>
    return { fields with debugText := some (truncateUtf8 text 512) }
  | element => skipUnknown .clusterCodec fields element

def decodeNocResponse (tlv : Octets) : Except NocError NocResponse :=
  parseWhole (do
    let fields ← nocStruct "NOCResponse" nocResponseMember {}
    let status ← okOr (.malformedResponse "NOCResponse: missing StatusCode field") fields.status
    return ⟨status, fields.fabricIndex, fields.debugText⟩) tlv

/-- An anonymous struct with the given members. -/
def putStruct (members : WriterM Unit) : WriterM Unit := do
  startStructure .anonymous
  members
  endContainer

def encodeAttestationRequest (nonce : Block 32) : Bytes :=
  encoded (putStruct (putBlock (.context 0) nonce))

inductive CertChainType where
  | dac
  | pai
  deriving DecidableEq, Repr

def CertChainType.code : CertChainType → UInt64
  | dac => 1
  | pai => 2

def encodeCertificateChainRequest (type : CertChainType) : Bytes :=
  encoded (putStruct (putUint (.context 0) type.code))

def encodeCsrRequest (nonce : Block 32) (isForUpdateNoc : Bool) : Bytes :=
  encoded (putStruct do
    putBlock (.context 0) nonce
    if isForUpdateNoc then putBool (.context 1) true)

def encodeAddTrustedRoot (rcacTlv : Bytes) : Bytes :=
  encoded (putStruct (putStringPayload (.context 0) rcacTlv .bytes))

def encodeAddNoc (nocTlv : Bytes) (icacTlv : Option Bytes) (ipk : Block 16)
    (caseAdminSubject : UInt64) (adminVendorId : UInt16) : Bytes :=
  encoded (putStruct do
    putStringPayload (.context 0) nocTlv .bytes
    icacTlv.forM fun icac => putStringPayload (.context 1) icac .bytes
    putBlock (.context 2) ipk
    putUint (.context 3) caseAdminSubject
    putUint (.context 4) adminVendorId.toUInt64)

end OperationalCredentials

/-! General Commissioning. -/

abbrev CommissioningParserM := ParserM CommissioningError

/-- The members of a response with a status and a text, and of no other known field. -/
structure StatusFields where
  status : Option UInt8 := none
  debugText : Option Text := none

def statusMember (malformed : CommissioningError) (fields : StatusFields) :
    ElementRef → CommissioningParserM StatusFields
  | .scalar (.context 0) (.uint n) => do
    once malformed fields.status
    let status ← okOr malformed (u8TryFrom n)
    return { fields with status := some status }
  | .scalar (.context 1) (.utf8 text) => do
    once malformed fields.debugText
    return { fields with debugText := some (truncateUtf8 text 512) }
  | element => skipUnknown (fun _ => malformed) fields element

/-- A status code and an optional text. -/
def decodeStatusAndText (malformed : CommissioningError) (tlv : Octets) :
    Except CommissioningError (UInt8 × Option Text) :=
  parseWhole (do
    let fields ← wholeStruct (fun _ => malformed) malformed malformed (statusMember malformed) {}
    let status ← okOr malformed fields.status
    return (status, fields.debugText)) tlv

def decodeCommissioningErrorResponse (stage : Stage) (tlv : Octets) :
    Except CommissioningError (UInt8 × Option Text) :=
  decodeStatusAndText (.malformedResponse stage) tlv

def decodeArmFailSafeResponse (tlv : Octets) : Except CommissioningError (UInt8 × Option Text) :=
  decodeCommissioningErrorResponse .armFailsafe tlv

def decodeSetRegulatoryConfigResponse (tlv : Octets) :
    Except CommissioningError (UInt8 × Option Text) :=
  decodeCommissioningErrorResponse .configRegulatory tlv

structure BasicCommissioningInfo where
  failsafeExpiryLengthSeconds : UInt16
  maxCumulativeFailsafeSeconds : UInt16
  deriving DecidableEq, Repr

structure BasicInfoFields where
  failsafe : Option UInt16 := none
  maxCumulative : UInt16 := 0

/-- A failsafe out of range clears the one read before, a limit out of range is
ignored. -/
def basicInfoMember (fields : BasicInfoFields) : ElementRef → ParserM Unit BasicInfoFields
  | .scalar (.context 0) (.uint n) => return { fields with failsafe := u16TryFrom n }
  | .scalar (.context 1) (.uint n) =>
    match u16TryFrom n with
    | none => return fields
    | some limit => return { fields with maxCumulative := limit }
  | element => skipUnknown (fun _ => ()) fields element

def decodeBasicCommissioningInfo (tlv : Octets) : Option BasicCommissioningInfo :=
  match parseWhole (wholeStruct (fun _ => ()) () () basicInfoMember {}) tlv with
  | .error () => none
  | .ok fields => fields.failsafe.map fun failsafe => ⟨failsafe, fields.maxCumulative⟩

def assertTlvWellFormed (stage : Stage) (payload : Octets) : Except CommissioningError Unit :=
  parseWhole (do
    expectStruct (fun _ => .malformedResponse stage) (.malformedResponse stage)
    fromCodec (fun _ => .malformedResponse stage) finish) payload

namespace GeneralCommissioning
open TlvWriter

def clusterId : UInt32 := 0x0030
def armFailSafe : UInt32 := 0x00
def setRegulatoryConfig : UInt32 := 0x02
def commissioningComplete : UInt32 := 0x04

inductive RegulatoryLocation where
  | indoor
  | outdoor
  | indoorOutdoor
  deriving DecidableEq, Repr

def RegulatoryLocation.code : RegulatoryLocation → UInt64
  | indoor => 0
  | outdoor => 1
  | indoorOutdoor => 2

def encodeArmFailSafe (expiryLengthSeconds : UInt16) (breadcrumb : UInt64) : Bytes :=
  encoded (putStruct do
    putUint (.context 0) expiryLengthSeconds.toUInt64
    putUint (.context 1) breadcrumb)

def encodeSetRegulatoryConfig (location : RegulatoryLocation) (countryCode : Text)
    (breadcrumb : UInt64) : Bytes :=
  encoded (putStruct do
    putUint (.context 0) location.code
    putUtf8 (.context 1) countryCode
    putUint (.context 2) breadcrumb)

def encodeCommissioningComplete : Bytes := encoded (putStruct (pure ()))

end GeneralCommissioning

/-! Network Commissioning. -/

namespace NetworkCommissioning
open TlvWriter

def clusterId : UInt32 := 0x0031
def addOrUpdateWifiNetwork : UInt32 := 0x02
def addOrUpdateThreadNetwork : UInt32 := 0x03
def connectNetwork : UInt32 := 0x06
def featureMap : UInt32 := 0xfffc
def connectMaxTimeSeconds : UInt32 := 0x0003

/-- The bits of the feature map that are known. -/
structure Feature where
  bits : UInt32
  deriving DecidableEq, Repr

namespace Feature

def wifi : Feature := ⟨1⟩
def thread : Feature := ⟨2⟩
def ethernet : Feature := ⟨4⟩

def fromBitsTruncate (bits : UInt32) : Feature :=
  ⟨bits &&& (wifi.bits ||| thread.bits ||| ethernet.bits)⟩

def isEmpty (features : Feature) : Bool := features.bits = 0

def contains (features other : Feature) : Bool := features.bits &&& other.bits = other.bits

end Feature

def decodeFeatureMap (tlv : Octets) : Except CommissioningError Feature :=
  let malformed := CommissioningError.malformedResponse .readNetworkCommissioningInfo
  parseWhole (do
    match ← nextElement (fun _ => malformed) malformed with
    | .scalar _ (.uint raw) => return .fromBitsTruncate (← okOr malformed (u32TryFrom raw))
    | _ => throw malformed) tlv

def decodeNetworkConfigResponse (stage : Stage) (tlv : Octets) :
    Except CommissioningError (UInt8 × Option Text) :=
  decodeStatusAndText (.malformedResponse stage) tlv

structure ConnectNetworkResponse where
  networkingStatus : UInt8
  debugText : Option Text
  errorValue : Option Int32
  deriving DecidableEq

def i32TryFrom (n : Int64) : Option Int32 :=
  if -2 ^ 31 ≤ n.toInt ∧ n.toInt < 2 ^ 31 then some n.toInt32 else none

def connectMember (malformed : CommissioningError) (fields : StatusFields × Option Int32) :
    ElementRef → CommissioningParserM (StatusFields × Option Int32)
  | .scalar (.context 2) (.int n) => do
    once malformed fields.2
    let value ← okOr malformed (i32TryFrom n)
    return (fields.1, some value)
  | element => do
    let status ← statusMember malformed fields.1 element
    return (status, fields.2)

def decodeConnectNetworkResponse (stage : Stage) (tlv : Octets) :
    Except CommissioningError ConnectNetworkResponse :=
  let malformed := CommissioningError.malformedResponse stage
  parseWhole (do
    let fields ← wholeStruct (fun _ => malformed) malformed malformed (connectMember malformed)
      ({}, none)
    let status ← okOr malformed fields.1.status
    return ⟨status, fields.1.debugText, fields.2⟩) tlv

def remediationFor (networkingStatus : UInt8) : RemediationHint :=
  match networkingStatus with
  | 2 => .deviceNetworkSlotsFull
  | 3 => .checkSsid
  | 5 => .checkSsid
  | 6 => .checkRegulatoryRegion
  | 7 => .checkPassphrase
  | 8 => .upgradeSecurityMode
  | 10 => .deviceIpStackFailure
  | 11 => .deviceIpStackFailure
  | _ => .none

def encodeAddOrUpdateWifiNetwork (ssid credentials : Octets) (breadcrumb : UInt64) : Bytes :=
  encoded (putStruct do
    putBytes (.context 0) ssid
    putBytes (.context 1) credentials
    putUint (.context 2) breadcrumb)

def encodeAddOrUpdateThreadNetwork (operationalDataset : Octets) (breadcrumb : UInt64) : Bytes :=
  encoded (putStruct do
    putBytes (.context 0) operationalDataset
    putUint (.context 1) breadcrumb)

def encodeConnectNetwork (networkId : Bytes) (breadcrumb : UInt64) : Bytes :=
  encoded (putStruct do
    putStringPayload (.context 0) networkId .bytes
    putUint (.context 1) breadcrumb)

end NetworkCommissioning

end Matter.Commissioning
