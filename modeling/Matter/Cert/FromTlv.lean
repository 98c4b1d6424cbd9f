import Matter.Cert.Certificate
import Matter.Codec.Members

/-! Parsing a certificate: the tag-dispatched loops of `from_tlv` over the
members of the certificate, its names, its extensions and their bodies. -/
namespace Matter.Cert
open Codec TlvReader

abbrev CertParserM := ParserM Error

/-- End of input before the end of a container. -/
def unclosed : Error := .codec .unclosedContainer

def contextTag : Tag → Except Error UInt8
  | .context n => .ok n
  | _ => .error (.wrongFieldType 0)

def ensureFirstSeen {α : Type} (tag : UInt8) (slot : Option α) : Except Error Unit :=
  if slot.isSome then .error (.duplicateField tag) else .ok ()

/-! Names. -/

def isDnTag (tag : UInt8) : Bool := 1 ≤ tag && tag ≤ 26

def isUntypedDnTag (tag : UInt8) : Bool := tag = 18 || (23 ≤ tag && tag ≤ 26)

/-- The attributes with a string value. -/
def textAttribute? : UInt8 → Option (Text → DnAttribute)
  | 1 => some .commonName
  | 2 => some .surname
  | 3 => some .serialNumber
  | 4 => some .countryName
  | 5 => some .localityName
  | 6 => some .stateOrProvinceName
  | 7 => some .organizationName
  | 8 => some .organizationalUnitName
  | 9 => some .title
  | 10 => some .name
  | 11 => some .givenName
  | 12 => some .initials
  | 13 => some .generationQualifier
  | 14 => some .dnQualifier
  | 15 => some .pseudonym
  | 16 => some .domainComponent
  | _ => none

/-- The attributes with a 64-bit identifier. -/
def idAttribute? : UInt8 → Option (UInt64 → DnAttribute)
  | 17 => some .nodeId
  | 19 => some .icacId
  | 20 => some .rcacId
  | 21 => some .fabricId
  | _ => none

/-- The last arms of `decode_attribute`: a tag that is not of a name, or a value
that is not of the tag. -/
def undecodable (tag : UInt8) : Error :=
  if isDnTag tag then .invalidDnAttributeType tag else .invalidDnAttribute tag

def decodeUntyped (tag : UInt8) (value : DnAttributeValue) : Except Error DnAttribute :=
  if isUntypedDnTag tag then .ok (.other tag value) else .error (undecodable tag)

def decodeAttribute (tag : UInt8) : ValueRef → Except Error DnAttribute
  | .utf8 text =>
    match textAttribute? tag with
    | some make => .ok (make text)
    | none => decodeUntyped tag (.utf8 text)
  | .uint n =>
    match idAttribute? tag with
    | some make => .ok (make n)
    | none =>
      if tag = 22 then
        (orError (.fieldValueOutOfRange tag) (Wire.toU32? n)).map .caseAuthenticatedTag
      else decodeUntyped tag (.uint n)
  | .bytes octets => decodeUntyped tag (.bytes octets)
  | _ => .error (undecodable tag)

def nameAttribute (attrs : DistinguishedName) (tag : Tag) (value : ValueRef) :
    Except Error DistinguishedName :=
  match tag with
  | .context n => (decodeAttribute n value).map fun attr => attrs ++ [attr]
  | _ => .error (.invalidDnAttribute 0)

def nameMember (attrs : DistinguishedName) : ElementRef → CertParserM DistinguishedName
  | .scalar tag value => MonadExcept.ofExcept (nameAttribute attrs tag value)
  | _ => throw (.wrongFieldType 0)

/-- `DistinguishedName::read_from_open_list`. -/
def readName : CertParserM DistinguishedName := forEachMember .codec unclosed nameMember []

namespace DistinguishedName

def nodeId (name : DistinguishedName) : Option UInt64 :=
  name.findSome? fun
    | .nodeId id => some id
    | _ => none

def fabricId (name : DistinguishedName) : Option UInt64 :=
  name.findSome? fun
    | .fabricId id => some id
    | _ => none

end DistinguishedName

/-! Extensions. -/

/-- `from_bits_truncate`: nine usages are defined. -/
def KeyUsage.fromBitsTruncate (bits : UInt16) : KeyUsage := ⟨bits &&& 0x01ff⟩

def KeyIdentifier.fromSlice (octets : Octets) : Except Error KeyIdentifier :=
  orError (.wrongKeyIdentifierLength octets.bytes.length) (Block.tryFrom 20 octets.bytes)

def Signature.fromSlice (octets : Octets) : Except Error Signature :=
  orError (.wrongSignatureLength octets.bytes.length) (Block.tryFrom 64 octets.bytes)

def constraintsScalar (out : BasicConstraints) (tag : Tag) (value : ValueRef) :
    Except Error BasicConstraints :=
  match tag, value with
  | .context 1, .bool isCa => .ok { out with isCa }
  | .context 2, .uint n => do
    let pathLen ← orError (.fieldValueOutOfRange 2) (Wire.toU8? n)
    return { out with pathLenConstraint := some pathLen }
  | _, _ => .error (.wrongFieldType 1)

def constraintsMember (out : BasicConstraints) : ElementRef → CertParserM BasicConstraints
  | .scalar tag value => MonadExcept.ofExcept (constraintsScalar out tag value)
  | _ => throw (.wrongFieldType 1)

/-- `BasicConstraints::read_body`. -/
def readConstraints : CertParserM BasicConstraints :=
  forEachMember .codec unclosed constraintsMember ⟨false, none⟩

def purposeScalar (out : List UInt32) (_ : Tag) : ValueRef → Except Error (List UInt32)
  | .uint n => (orError (.fieldValueOutOfRange 3) (Wire.toU32? n)).map fun m => out ++ [m]
  | _ => .error (.wrongFieldType 3)

def purposeMember (out : List UInt32) : ElementRef → CertParserM (List UInt32)
  | .scalar tag value => MonadExcept.ofExcept (purposeScalar out tag value)
  | _ => throw (.wrongFieldType 3)

def readUintArray : CertParserM (List UInt32) := forEachMember .codec unclosed purposeMember []

/-- `element_tag_number`. -/
def tagNumber : Tag → UInt8
  | .context n => n
  | _ => 0

def extensionScalar (out : Extensions) (tag : Tag) (value : ValueRef) : Except Error Extensions :=
  match tag, value with
  | .context 2, .uint bits => do
    ensureFirstSeen 2 out.keyUsage
    let bits ← orError (.fieldValueOutOfRange 2) (Wire.toU16? bits)
    return { out with keyUsage := some (.fromBitsTruncate bits) }
  | .context 4, .bytes octets => do
    ensureFirstSeen 4 out.subjectKeyIdentifier
    let id ← KeyIdentifier.fromSlice octets
    return { out with subjectKeyIdentifier := some id }
  | .context 5, .bytes octets => do
    ensureFirstSeen 5 out.authorityKeyIdentifier
    let id ← KeyIdentifier.fromSlice octets
    return { out with authorityKeyIdentifier := some id }
  | tag, _ => .error (.wrongFieldType (tagNumber tag))

def extensionMember (out : Extensions) : ElementRef → CertParserM Extensions
  | .containerStart (.context 1) .struct => do
    MonadExcept.ofExcept (ensureFirstSeen 1 out.basicConstraints)
    let constraints ← readConstraints
    return { out with basicConstraints := some constraints }
  | .containerStart (.context 3) .array => do
    MonadExcept.ofExcept (ensureFirstSeen 3 out.extendedKeyUsage)
    let purposes ← readUintArray
    return { out with extendedKeyUsage := some purposes }
  | .scalar tag value => MonadExcept.ofExcept (extensionScalar out tag value)
  | .containerStart tag _ => throw (.wrongFieldType (tagNumber tag))
  | .containerEnd => throw (.wrongFieldType 0)

/-- `Extensions::read_from_open_list`. -/
def readExtensions : CertParserM Extensions := forEachMember .codec unclosed extensionMember {}

/-! The certificate. -/

/-- The locals of `from_tlv`. -/
structure CertificateFields where
  serial : Option Octets := none
  sigAlgSeen : Bool := false
  issuer : Option DistinguishedName := none
  notBefore : Option MatterTime := none
  notAfter : Option MatterTime := none
  subject : Option DistinguishedName := none
  pubkeyAlgSeen : Bool := false
  ecCurveSeen : Bool := false
  publicKey : Option PublicKey := none
  extensions : Option Extensions := none
  signature : Option Signature := none

def maxSerialLen : Nat := 20

def validateSerialLen (len : Nat) : Except Error Unit :=
  if len = 0 ∨ len > maxSerialLen then .error (.invalidSerialLength len) else .ok ()

/-- An algorithm identifier has the one value that is supported, once. -/
def ensureAlgorithm (tag : UInt8) (seen : Bool) (n : UInt64) (unsupported : UInt8 → Error) :
    Except Error Unit := do
  if seen then throw (.duplicateField tag)
  let algorithm ← orError (.fieldValueOutOfRange tag) (Wire.toU8? n)
  if algorithm ≠ 1 then throw (unsupported algorithm)

def matterTime (tag : UInt8) (n : UInt64) : Except Error MatterTime :=
  (orError (.fieldValueOutOfRange tag) (Wire.toU32? n)).map .mk

def certificateScalar (fields : CertificateFields) (tag : Tag) (value : ValueRef) :
    Except Error CertificateFields := do
  match ← contextTag tag, value with
  | 1, .bytes octets =>
    ensureFirstSeen 1 fields.serial
    validateSerialLen octets.bytes.length
    return { fields with serial := some octets }
  | 2, .uint n =>
    ensureAlgorithm 2 fields.sigAlgSeen n .unsupportedSignatureAlgorithm
    return { fields with sigAlgSeen := true }
  | 4, .uint n =>
    ensureFirstSeen 4 fields.notBefore
    let time ← matterTime 4 n
    return { fields with notBefore := some time }
  | 5, .uint n =>
    ensureFirstSeen 5 fields.notAfter
    let time ← matterTime 5 n
    return { fields with notAfter := some time }
  | 7, .uint n =>
    ensureAlgorithm 7 fields.pubkeyAlgSeen n .unsupportedPublicKeyAlgorithm
    return { fields with pubkeyAlgSeen := true }
  | 8, .uint n =>
    ensureAlgorithm 8 fields.ecCurveSeen n .unsupportedEcCurve
    return { fields with ecCurveSeen := true }
  | 9, .bytes octets =>
    ensureFirstSeen 9 fields.publicKey
    let key ← PublicKey.fromSlice octets.bytes
    return { fields with publicKey := some key }
  | 11, .bytes octets =>
    ensureFirstSeen 11 fields.signature
    let signature ← Signature.fromSlice octets
    return { fields with signature := some signature }
  | t, _ => throw (.wrongFieldType t)

/-- The three lists among the members. -/
inductive ListField where
  | issuer
  | subject
  | extensions

def openList (t : UInt8) (kind : ContainerKind) (unseen : Except Error Unit) (field : ListField) :
    Except Error ListField := do
  if kind ≠ .list then throw (.wrongFieldType t)
  unseen
  return field

/-- Which list a container at a tag opens, once and as a list. -/
def listField (fields : CertificateFields) (tag : Tag) (kind : ContainerKind) :
    Except Error ListField := do
  match ← contextTag tag with
  | 3 => openList 3 kind (ensureFirstSeen 3 fields.issuer) .issuer
  | 6 => openList 6 kind (ensureFirstSeen 6 fields.subject) .subject
  | 10 => openList 10 kind (ensureFirstSeen 10 fields.extensions) .extensions
  | t => throw (.wrongFieldType t)

def certificateMember (fields : CertificateFields) : ElementRef → CertParserM CertificateFields
  | .scalar tag value => MonadExcept.ofExcept (certificateScalar fields tag value)
  | .containerStart tag kind => do
    match ← MonadExcept.ofExcept (listField fields tag kind) with
    | .issuer => return { fields with issuer := some (← readName) }
    | .subject => return { fields with subject := some (← readName) }
    | .extensions => return { fields with extensions := some (← readExtensions) }
  | .containerEnd => throw (.wrongFieldType 0)

/-- The algorithms must have been there, then every other field. -/
def CertificateFields.certificate (fields : CertificateFields) :
    Except Error MatterCertificate := do
  if !fields.sigAlgSeen then throw (.missingField 2)
  if !fields.pubkeyAlgSeen then throw (.missingField 7)
  if !fields.ecCurveSeen then throw (.missingField 8)
  let serial ← orError (.missingField 1) fields.serial
  let issuer ← orError (.missingField 3) fields.issuer
  let notBefore ← orError (.missingField 4) fields.notBefore
  let notAfter ← orError (.missingField 5) fields.notAfter
  let subject ← orError (.missingField 6) fields.subject
  let publicKey ← orError (.missingField 9) fields.publicKey
  let extensions ← orError (.missingField 10) fields.extensions
  let signature ← orError (.missingField 11) fields.signature
  return { serial, issuer, notBefore, notAfter, subject, publicKey, extensions, signature }

def expectStruct : CertParserM Unit := do
  match ← nextElement .codec (.wrongFieldType 0) with
  | .containerStart .anonymous .struct => return ()
  | _ => throw (.wrongFieldType 0)

/-- Nothing is read behind the end of the certificate. -/
def readCertificate : CertParserM MatterCertificate := do
  expectStruct
  let fields ← forEachMember .codec unclosed certificateMember {}
  MonadExcept.ofExcept fields.certificate

def MatterCertificate.fromTlv (bytes : Octets) : Except Error MatterCertificate :=
  parseWhole readCertificate bytes

end Matter.Cert
