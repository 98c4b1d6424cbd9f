import Matter.Codec.Writer

/-! Matter operational certificates: their fields, the TLV text `to_tlv` writes,
and the builder with the profile of a node operational certificate. -/
namespace Matter.Cert
open Codec

/-- `[u8; n]`. -/
structure Block (n : Nat) where
  bytes : Bytes
  size : bytes.length = n
  deriving DecidableEq

def Block.tryFrom (n : Nat) (slice : Bytes) : Option (Block n) :=
  if size : slice.length = n then some ⟨slice, size⟩ else none

def Block.fill (n : Nat) (byte : UInt8) : Block n := ⟨List.replicate n byte, List.length_replicate⟩

/-- Seconds since 2000-01-01T00:00:00Z. -/
structure MatterTime where
  secs : UInt32
  deriving DecidableEq, Repr

/-- What the modelled functions return of `matter_cert::Error`. -/
inductive Error where
  | codec (error : Codec.Error)
  | missingField (tag : UInt8)
  | duplicateField (tag : UInt8)
  | wrongFieldType (tag : UInt8)
  | fieldValueOutOfRange (tag : UInt8)
  | invalidSerialLength (len : Nat)
  | unsupportedSignatureAlgorithm (algorithm : UInt8)
  | unsupportedPublicKeyAlgorithm (algorithm : UInt8)
  | unsupportedEcCurve (curve : UInt8)
  | wrongPublicKeyLength (length : Nat)
  | badPublicKeyPrefix
  | missingBuilderField (field : String)
  | wrongSignatureLength (length : Nat)
  | invalidDnAttribute (tag : UInt8)
  | invalidDnAttributeType (tag : UInt8)
  | wrongKeyIdentifierLength (length : Nat)
  | dnAttributeHasNoX509Oid (tag : UInt8)
  | dnAttributeNotTlvEncodable (kind : String)
  | invalidDnAttributeForX509 (asn1Type reason : String)
  | signatureVerificationFailed
  | notYetValid (certIndex : UInt8) (notBefore time : MatterTime)
  | expired (certIndex : UInt8) (notAfter time : MatterTime)
  | untrustedRoot
  | issuerSubjectMismatch (certIndex : UInt8)
  | notACa (certIndex : UInt8)
  | pathLengthExceeded (certIndex : UInt8)
  | missingKeyCertSign (certIndex : UInt8)
  | leafIsCa
  deriving DecidableEq, Repr

/-- `ok_or`. -/
def orError {ε α : Type} (error : ε) : Option α → Except ε α
  | none => .error error
  | some a => .ok a

namespace MatterTime

def noExpiry : MatterTime := ⟨0⟩

def epochUnixOffset : Nat := 946684800

def toUnixSecs (time : MatterTime) : Nat := time.secs.toNat + epochUnixOffset

end MatterTime

/-- An uncompressed P-256 point. -/
structure PublicKey where
  block : Block 65
  uncompressed : block.bytes.head? = some 0x04
  deriving DecidableEq

namespace PublicKey

def new (block : Block 65) : Except Error PublicKey :=
  if uncompressed : block.bytes.head? = some 0x04 then .ok ⟨block, uncompressed⟩
  else .error .badPublicKeyPrefix

def fromSlice (slice : Bytes) : Except Error PublicKey :=
  match Block.tryFrom 65 slice with
  | none => .error (.wrongPublicKeyLength slice.length)
  | some block => new block

def bytes (key : PublicKey) : Bytes := key.block.bytes

end PublicKey

inductive DnAttributeValue where
  | utf8 (text : Text)
  | uint (n : UInt64)
  | bytes (octets : Octets)
  deriving DecidableEq

inductive DnAttribute where
  | commonName (text : Text)
  | surname (text : Text)
  | serialNumber (text : Text)
  | countryName (text : Text)
  | localityName (text : Text)
  | stateOrProvinceName (text : Text)
  | organizationName (text : Text)
  | organizationalUnitName (text : Text)
  | title (text : Text)
  | name (text : Text)
  | givenName (text : Text)
  | initials (text : Text)
  | generationQualifier (text : Text)
  | dnQualifier (text : Text)
  | pseudonym (text : Text)
  | domainComponent (text : Text)
  | nodeId (id : UInt64)
  | icacId (id : UInt64)
  | rcacId (id : UInt64)
  | fabricId (id : UInt64)
  | caseAuthenticatedTag (tag : UInt32)
  | vendorId (id : UInt16)
  | productId (id : UInt16)
  | other (tag : UInt8) (value : DnAttributeValue)
  deriving DecidableEq

abbrev DistinguishedName := List DnAttribute

structure BasicConstraints where
  isCa : Bool
  pathLenConstraint : Option UInt8
  deriving DecidableEq, Repr

structure KeyUsage where
  bits : UInt16
  deriving DecidableEq, Repr

def KeyUsage.digitalSignature : KeyUsage := ⟨0x0001⟩

abbrev KeyIdentifier := Block 20

structure Extensions where
  basicConstraints : Option BasicConstraints := none
  keyUsage : Option KeyUsage := none
  extendedKeyUsage : Option (List UInt32) := none
  subjectKeyIdentifier : Option KeyIdentifier := none
  authorityKeyIdentifier : Option KeyIdentifier := none
  deriving DecidableEq

abbrev Signature := Block 64

structure MatterCertificate where
  serial : Octets
  issuer : DistinguishedName
  notBefore : MatterTime
  notAfter : MatterTime
  subject : DistinguishedName
  publicKey : PublicKey
  extensions : Extensions
  signature : Signature
  deriving DecidableEq

/-! The TLV text of a certificate. -/

/-- The buffer a certificate is written to. -/
abbrev CertWriterM := EStateM Error Bytes

/-- A call of the TLV writer, its error wrapped as `matter_cert` wraps it. -/
def put (m : WriterM Unit) : CertWriterM Unit := fun out =>
  match m.run out with
  | .ok () out => .ok () out
  | .error e out => .error (.codec e) out

open TlvWriter

def putBlock {n : Nat} (tag : Tag) (block : Block n) : WriterM Unit :=
  putStringPayload tag block.bytes .bytes

def encodeAttribute : DnAttribute → CertWriterM Unit
  | .commonName text => put (putUtf8 (.context 1) text)
  | .surname text => put (putUtf8 (.context 2) text)
  | .serialNumber text => put (putUtf8 (.context 3) text)
  | .countryName text => put (putUtf8 (.context 4) text)
  | .localityName text => put (putUtf8 (.context 5) text)
  | .stateOrProvinceName text => put (putUtf8 (.context 6) text)
  | .organizationName text => put (putUtf8 (.context 7) text)
  | .organizationalUnitName text => put (putUtf8 (.context 8) text)
  | .title text => put (putUtf8 (.context 9) text)
  | .name text => put (putUtf8 (.context 10) text)
  | .givenName text => put (putUtf8 (.context 11) text)
  | .initials text => put (putUtf8 (.context 12) text)
  | .generationQualifier text => put (putUtf8 (.context 13) text)
  | .dnQualifier text => put (putUtf8 (.context 14) text)
  | .pseudonym text => put (putUtf8 (.context 15) text)
  | .domainComponent text => put (putUtf8 (.context 16) text)
  | .nodeId id => put (putUint (.context 17) id)
  | .icacId id => put (putUint (.context 19) id)
  | .rcacId id => put (putUint (.context 20) id)
  | .fabricId id => put (putUint (.context 21) id)
  | .caseAuthenticatedTag tag => put (putUint (.context 22) tag.toUInt64)
  -- the attributes of attestation certificates have no TLV form
  | .vendorId _ => throw (.dnAttributeNotTlvEncodable "VendorId")
  | .productId _ => throw (.dnAttributeNotTlvEncodable "ProductId")
  | .other tag (.utf8 text) => put (putUtf8 (.context tag) text)
  | .other tag (.uint n) => put (putUint (.context tag) n)
  | .other tag (.bytes octets) => put (putBytes (.context tag) octets)

def writeDistinguishedName (tag : Tag) (name : DistinguishedName) : CertWriterM Unit := do
  put (startList tag)
  name.forM encodeAttribute
  put endContainer

def BasicConstraints.writeBody (constraints : BasicConstraints) (tag : Tag) :
    CertWriterM Unit := do
  put (startStructure tag)
  put (putBool (.context 1) constraints.isCa)
  match constraints.pathLenConstraint with
  | none => pure ()
  | some length => put (putUint (.context 2) length.toUInt64)
  put endContainer

def writeExtendedKeyUsage (purposes : List UInt32) : CertWriterM Unit := do
  put (startArray (.context 3))
  purposes.forM fun purpose => put (putUint .anonymous purpose.toUInt64)
  put endContainer

def Extensions.write (extensions : Extensions) (tag : Tag) : CertWriterM Unit := do
  put (startList tag)
  extensions.basicConstraints.forM fun constraints => constraints.writeBody (.context 1)
  extensions.keyUsage.forM fun usage => put (putUint (.context 2) usage.bits.toUInt64)
  extensions.extendedKeyUsage.forM writeExtendedKeyUsage
  extensions.subjectKeyIdentifier.forM fun id => put (putBlock (.context 4) id)
  extensions.authorityKeyIdentifier.forM fun id => put (putBlock (.context 5) id)
  put endContainer

namespace MatterCertificate

def write (cert : MatterCertificate) : CertWriterM Unit := do
  put (startStructure .anonymous)
  put (putBytes (.context 1) cert.serial)
  put (putUint (.context 2) 1)
  writeDistinguishedName (.context 3) cert.issuer
  put (putUint (.context 4) cert.notBefore.secs.toUInt64)
  put (putUint (.context 5) cert.notAfter.secs.toUInt64)
  writeDistinguishedName (.context 6) cert.subject
  put (putUint (.context 7) 1)
  put (putUint (.context 8) 1)
  put (putBlock (.context 9) cert.publicKey.block)
  cert.extensions.write (.context 10)
  put (putBlock (.context 11) cert.signature)
  put endContainer

def toTlv (cert : MatterCertificate) : Except Error Bytes :=
  match cert.write.run [] with
  | .ok () out => .ok out
  | .error e _ => .error e

end MatterCertificate

/-! Building a certificate. -/

structure UnsignedCertificate where
  serial : Octets
  issuer : DistinguishedName
  notBefore : MatterTime
  notAfter : MatterTime
  subject : DistinguishedName
  publicKey : PublicKey
  extensions : Extensions
  deriving DecidableEq

structure Builder where
  serial : Option Octets := none
  issuer : Option DistinguishedName := none
  notBefore : Option MatterTime := none
  notAfter : Option MatterTime := none
  subject : Option DistinguishedName := none
  publicKey : Option PublicKey := none
  extensions : Option Extensions := none

namespace Builder

/-- The field, or the error that names it. -/
def field {α : Type} (name : String) : Option α → Except Error α
  | none => .error (.missingBuilderField name)
  | some a => .ok a

def buildUnsigned (builder : Builder) : Except Error UnsignedCertificate := do
  let serial ← field "serial" builder.serial
  if serial.bytes.length = 0 ∨ serial.bytes.length > 20 then
    throw (.fieldValueOutOfRange 1)
  let issuer ← field "issuer" builder.issuer
  let notBefore ← field "not_before" builder.notBefore
  let notAfter ← field "not_after" builder.notAfter
  let subject ← field "subject" builder.subject
  let publicKey ← field "public_key" builder.publicKey
  let extensions ← field "extensions" builder.extensions
  return { serial, issuer, notBefore, notAfter, subject, publicKey, extensions }

end Builder

namespace UnsignedCertificate

def assemble (unsigned : UnsignedCertificate) (signature : Signature) : MatterCertificate where
  serial := unsigned.serial
  issuer := unsigned.issuer
  notBefore := unsigned.notBefore
  notAfter := unsigned.notAfter
  subject := unsigned.subject
  publicKey := unsigned.publicKey
  extensions := unsigned.extensions
  signature := signature

/-- `to_x509_tbs_der` of the certificate with an empty signature. -/
def tbsDer (toX509TbsDer : MatterCertificate → Except Error Bytes)
    (unsigned : UnsignedCertificate) : Except Error Bytes :=
  toX509TbsDer (unsigned.assemble (.fill 64 0))

end UnsignedCertificate

structure NocParams where
  fabricId : UInt64
  nodeId : UInt64
  caseAuthenticatedTags : List UInt32
  issuer : DistinguishedName
  issuerSkid : KeyIdentifier
  publicKey : PublicKey
  serial : Octets
  notBefore : MatterTime
  notAfter : MatterTime

def ekuClientAuth : UInt32 := 2
def ekuServerAuth : UInt32 := 1

/-- The hash covers the point without its leading `0x04`. -/
def skidFromSpki (sha1 : Bytes → Block 20) (key : PublicKey) : KeyIdentifier :=
  sha1 (key.bytes.drop 1)

def noc (sha1 : Bytes → Block 20) (params : NocParams) : Except Error UnsignedCertificate :=
  Builder.buildUnsigned
    { serial := some params.serial
      issuer := some params.issuer
      subject := some (.fabricId params.fabricId :: .nodeId params.nodeId ::
        params.caseAuthenticatedTags.map .caseAuthenticatedTag)
      notBefore := some params.notBefore
      notAfter := some params.notAfter
      publicKey := some params.publicKey
      extensions := some
        { basicConstraints := some ⟨false, none⟩
          keyUsage := some .digitalSignature
          extendedKeyUsage := some [ekuClientAuth, ekuServerAuth]
          subjectKeyIdentifier := some (skidFromSpki sha1 params.publicKey)
          authorityKeyIdentifier := some params.issuerSkid } }

theorem publicKey_noc (built : noc sha1 params = .ok unsigned) :
    unsigned.publicKey = params.publicKey := by
  simp only [noc, Builder.buildUnsigned, Builder.field, bind, Except.bind] at built
  split at built
  · cases built
  · cases built
    rfl

end Matter.Cert
