import Matter.Asn1.Der
import Matter.Base.Calendar
import Matter.Base.Digits
import Matter.Cert.Certificate

/-! The X.509 form of a certificate. `to_x509_tbs_der` gives the DER octets a
certificate's signature covers; each `_into` function of the source is the octets
it appends. -/
namespace Matter.Cert
open Codec Asn1 Digits

abbrev Oid := List Nat

namespace Oid

def matterNodeId : Oid := [1, 3, 6, 1, 4, 1, 37244, 1, 1]
def matterIcacId : Oid := [1, 3, 6, 1, 4, 1, 37244, 1, 3]
def matterRcacId : Oid := [1, 3, 6, 1, 4, 1, 37244, 1, 4]
def matterFabricId : Oid := [1, 3, 6, 1, 4, 1, 37244, 1, 5]
def matterNocCat : Oid := [1, 3, 6, 1, 4, 1, 37244, 1, 6]
def matterVendorId : Oid := [1, 3, 6, 1, 4, 1, 37244, 2, 1]
def matterProductId : Oid := [1, 3, 6, 1, 4, 1, 37244, 2, 2]

def x520CommonName : Oid := [2, 5, 4, 3]
def x520Surname : Oid := [2, 5, 4, 4]
def x520SerialNumber : Oid := [2, 5, 4, 5]
def x520CountryName : Oid := [2, 5, 4, 6]
def x520LocalityName : Oid := [2, 5, 4, 7]
def x520StateOrProvince : Oid := [2, 5, 4, 8]
def x520Org : Oid := [2, 5, 4, 10]
def x520OrgUnit : Oid := [2, 5, 4, 11]
def x520Title : Oid := [2, 5, 4, 12]
def x520Name : Oid := [2, 5, 4, 41]
def x520GivenName : Oid := [2, 5, 4, 42]
def x520Initials : Oid := [2, 5, 4, 43]
def x520GenerationQualifier : Oid := [2, 5, 4, 44]
def x520DnQualifier : Oid := [2, 5, 4, 46]
def x520Pseudonym : Oid := [2, 5, 4, 65]
def domainComponent : Oid := [0, 9, 2342, 19200300, 100, 1, 25]

def extBasicConstraints : Oid := [2, 5, 29, 19]
def extKeyUsage : Oid := [2, 5, 29, 15]
def extExtendedKeyUsage : Oid := [2, 5, 29, 37]
def extSubjectKeyIdentifier : Oid := [2, 5, 29, 14]
def extAuthorityKeyIdentifier : Oid := [2, 5, 29, 35]

def ecPublicKey : Oid := [1, 2, 840, 10045, 2, 1]
def ecCurveP256 : Oid := [1, 2, 840, 10045, 3, 1, 7]
def ecdsaWithSha256 : Oid := [1, 2, 840, 10045, 4, 3, 2]

def kpServerAuth : Oid := [1, 3, 6, 1, 5, 5, 7, 3, 1]
def kpClientAuth : Oid := [1, 3, 6, 1, 5, 5, 7, 3, 2]
def kpCodeSigning : Oid := [1, 3, 6, 1, 5, 5, 7, 3, 3]
def kpEmailProtection : Oid := [1, 3, 6, 1, 5, 5, 7, 3, 4]
def kpTimeStamping : Oid := [1, 3, 6, 1, 5, 5, 7, 3, 8]
def kpOcspSigning : Oid := [1, 3, 6, 1, 5, 5, 7, 3, 9]

end Oid

/-- `wrap_tagged_into` and `wrap_primitive_into`. -/
abbrev wrapTagged (tag : UInt8) (content : Bytes) : Bytes := element tag content

def wrapSequence (content : Bytes) : Bytes := wrapTagged 0x30 content

def wrapSet (content : Bytes) : Bytes := wrapTagged 0x31 content

/-! Validity. -/

structure DateTime where
  date : Calendar.Date
  hour : Nat
  minute : Nat
  second : Nat

/-- Days are counted from 1970-01-01, dates from year zero. -/
def unixToYmdhms (unixSecs : Nat) : DateTime :=
  let secondsInDay := unixSecs % 86400
  { date := Calendar.civilFromDays (unixSecs / 86400 + 719468)
    hour := secondsInDay / 3600
    minute := secondsInDay / 60 % 60
    second := secondsInDay % 60 }

/-- Two digits for each part below the year, and the letter Z. -/
def clockText (time : DateTime) : Bytes :=
  numeral 10 2 time.date.month ++ numeral 10 2 time.date.day ++ numeral 10 2 time.hour ++
    numeral 10 2 time.minute ++ numeral 10 2 time.second ++ [0x5a]

def utcTimeText (time : DateTime) : Bytes := numeral 10 2 (time.date.year % 100) ++ clockText time

def generalizedTimeText (time : DateTime) : Bytes := numeral 10 4 time.date.year ++ clockText time

def noExpiryText : Bytes := numeral 10 14 99991231235959 ++ [0x5a]

/-- 2050-01-01T00:00:00Z. -/
def utcTimeCutoffUnixSecs : Nat := 2524608000

/-- The tag and the text of a time. -/
def timeParts (t : MatterTime) (isNotAfter : Bool) : UInt8 × Bytes :=
  if t = .noExpiry ∧ isNotAfter then (0x18, noExpiryText)
  else if t.toUnixSecs < utcTimeCutoffUnixSecs then
    (0x17, utcTimeText (unixToYmdhms t.toUnixSecs))
  else (0x18, generalizedTimeText (unixToYmdhms t.toUnixSecs))

def encodeOneTime (t : MatterTime) (isNotAfter : Bool) : Bytes :=
  wrapTagged (timeParts t isNotAfter).1 (timeParts t isNotAfter).2

def encodeValidity (notBefore notAfter : MatterTime) : Bytes :=
  wrapSequence (encodeOneTime notBefore false ++ encodeOneTime notAfter true)

/-! Serial number and keys. -/

/-- The octets of a non-negative integer: a zero in front where the high bit is set. -/
def integerOctets (serial : Bytes) : Bytes :=
  if serial.head?.any fun first => first &&& 0x80 ≠ 0 then 0x00 :: serial else serial

def encodeSerialNumber (serial : Bytes) : Except Error Bytes :=
  if serial.isEmpty then .error (.fieldValueOutOfRange 1)
  else .ok (wrapTagged 0x02 (integerOctets serial))

def encodeAlgorithmIdentifierEcdsaSha256 : Bytes := wrapSequence (encodeOid Oid.ecdsaWithSha256)

def encodeSubjectPublicKeyInfo (key : PublicKey) : Bytes :=
  wrapSequence (wrapSequence (encodeOid Oid.ecPublicKey ++ encodeOid Oid.ecCurveP256) ++
    wrapTagged 0x03 (0x00 :: key.bytes))

/-! Names. -/

/-- `TAG_UTF8_STRING`, `TAG_PRINTABLE_STRING` and `TAG_IA5_STRING`. -/
inductive StringType where
  | utf8
  | printable
  | ia5
  deriving DecidableEq

def StringType.tag : StringType → UInt8
  | utf8 => 0x0c
  | printable => 0x13
  | ia5 => 0x16

def isAsciiAlphanumeric (b : UInt8) : Bool :=
  (0x30 ≤ b && b ≤ 0x39) || (0x41 ≤ b && b ≤ 0x5a) || (0x61 ≤ b && b ≤ 0x7a)

/-- Space and the characters '()+,-./:=? -/
def printablePunctuation : Bytes :=
  [0x20, 0x27, 0x28, 0x29, 0x2b, 0x2c, 0x2d, 0x2e, 0x2f, 0x3a, 0x3d, 0x3f]

def verifyPrintable (bytes : Bytes) (asn1Type : String) : Except Error Unit :=
  if bytes.all fun b => isAsciiAlphanumeric b || printablePunctuation.contains b then .ok ()
  else .error (.invalidDnAttributeForX509 asn1Type "value contains a non-PrintableString character")

def verifyIa5 (bytes : Bytes) (asn1Type : String) : Except Error Unit :=
  if bytes.any fun b => b > 0x7f then
    .error (.invalidDnAttributeForX509 asn1Type "value contains a non-ASCII character")
  else .ok ()

def attributeParts : DnAttribute → Except Error (Oid × StringType × Bytes)
  | .nodeId v => .ok (.matterNodeId, .utf8, numeral 16 16 v.toNat)
  | .fabricId v => .ok (.matterFabricId, .utf8, numeral 16 16 v.toNat)
  | .rcacId v => .ok (.matterRcacId, .utf8, numeral 16 16 v.toNat)
  | .icacId v => .ok (.matterIcacId, .utf8, numeral 16 16 v.toNat)
  | .caseAuthenticatedTag v => .ok (.matterNocCat, .utf8, numeral 16 8 v.toNat)
  | .vendorId v => .ok (.matterVendorId, .printable, numeral 16 4 v.toNat)
  | .productId v => .ok (.matterProductId, .printable, numeral 16 4 v.toNat)
  | .commonName s => .ok (.x520CommonName, .utf8, s.bytes)
  | .surname s => .ok (.x520Surname, .utf8, s.bytes)
  | .serialNumber s => do
    verifyPrintable s.bytes "SerialNumber"
    return (.x520SerialNumber, .printable, s.bytes)
  | .countryName s => do
    verifyPrintable s.bytes "CountryName"
    if s.bytes.length ≠ 2 then
      throw (.invalidDnAttributeForX509 "PrintableString" "CountryName must be exactly 2 characters")
    return (.x520CountryName, .printable, s.bytes)
  | .localityName s => .ok (.x520LocalityName, .utf8, s.bytes)
  | .stateOrProvinceName s => .ok (.x520StateOrProvince, .utf8, s.bytes)
  | .organizationName s => .ok (.x520Org, .utf8, s.bytes)
  | .organizationalUnitName s => .ok (.x520OrgUnit, .utf8, s.bytes)
  | .title s => .ok (.x520Title, .utf8, s.bytes)
  | .name s => .ok (.x520Name, .utf8, s.bytes)
  | .givenName s => .ok (.x520GivenName, .utf8, s.bytes)
  | .initials s => .ok (.x520Initials, .utf8, s.bytes)
  | .generationQualifier s => .ok (.x520GenerationQualifier, .utf8, s.bytes)
  | .dnQualifier s => do
    verifyPrintable s.bytes "DnQualifier"
    return (.x520DnQualifier, .printable, s.bytes)
  | .pseudonym s => .ok (.x520Pseudonym, .utf8, s.bytes)
  | .domainComponent s => do
    verifyIa5 s.bytes "DomainComponent"
    return (.domainComponent, .ia5, s.bytes)
  | .other tag _ => .error (.dnAttributeHasNoX509Oid tag)

def encodeDnAttribute (attr : DnAttribute) : Except Error Bytes := do
  let (oid, type, value) ← attributeParts attr
  return wrapSequence (encodeOid oid ++ wrapTagged type.tag value)

/-- One attribute in each relative name. -/
def encodeDn (name : DistinguishedName) : Except Error Bytes := do
  let names ← name.mapM fun attr => do return wrapSet (← encodeDnAttribute attr)
  return wrapSequence names.flatten

/-! Extensions. -/

def encodeExtension (oid : Oid) (critical : Bool) (value : Bytes) : Bytes :=
  wrapSequence (encodeOid oid ++ (if critical then [0x01, 0x01, 0xff] else []) ++
    wrapTagged 0x04 value)

/-- The path length only of a CA. -/
def encodeBasicConstraints (constraints : BasicConstraints) : Bytes :=
  encodeExtension .extBasicConstraints true (wrapSequence (
    if constraints.isCa then
      [0x01, 0x01, 0xff] ++ (match constraints.pathLenConstraint with
        | some length => [0x02, 0x01, length]
        | none => [])
    else []))

def reverseBits (b : UInt8) : UInt8 := ⟨b.toBitVec.reverse⟩

def trailingZeros (b : UInt8) : Nat := ((List.range 8).find? fun i => b.toNat.testBit i).getD 8

/-- The number of unused bits and the least number of octets. -/
def bitStringContent (usage : KeyUsage) : Bytes :=
  let byte0 := reverseBits usage.bits.toUInt8
  let byte1 := reverseBits (usage.bits >>> 8).toUInt8
  if byte1 ≠ 0 then [UInt8.ofNat (trailingZeros byte1), byte0, byte1]
  else if byte0 ≠ 0 then [UInt8.ofNat (trailingZeros byte0), byte0]
  else [0x00, 0x00]

def encodeKeyUsage (usage : KeyUsage) : Bytes :=
  encodeExtension .extKeyUsage true (wrapTagged 0x03 (bitStringContent usage))

def purposeOid? : UInt32 → Option Oid
  | 1 => some .kpServerAuth
  | 2 => some .kpClientAuth
  | 3 => some .kpCodeSigning
  | 4 => some .kpEmailProtection
  | 5 => some .kpTimeStamping
  | 6 => some .kpOcspSigning
  | _ => none

/-- Purposes without an identifier are skipped. -/
def encodeExtendedKeyUsage (usage : List UInt32) (critical : Bool) : Bytes :=
  encodeExtension .extExtendedKeyUsage critical
    (wrapSequence ((usage.filterMap purposeOid?).flatMap encodeOid))

def encodeSubjectKeyIdentifier (id : KeyIdentifier) : Bytes :=
  encodeExtension .extSubjectKeyIdentifier false (wrapTagged 0x04 id.bytes)

def encodeAuthorityKeyIdentifier (id : KeyIdentifier) : Bytes :=
  encodeExtension .extAuthorityKeyIdentifier false (wrapSequence (wrapTagged 0x80 id.bytes))

def encodeExtensionsBlock (extensions : Extensions) : Bytes :=
  wrapTagged 0xa3 (wrapSequence (
    (extensions.basicConstraints.map encodeBasicConstraints).getD [] ++
    (extensions.keyUsage.map encodeKeyUsage).getD [] ++
    (extensions.extendedKeyUsage.map fun usage => encodeExtendedKeyUsage usage true).getD [] ++
    (extensions.subjectKeyIdentifier.map encodeSubjectKeyIdentifier).getD [] ++
    (extensions.authorityKeyIdentifier.map encodeAuthorityKeyIdentifier).getD []))

/-- `matter_cert_to_x509_tbs_der`. -/
def MatterCertificate.toX509TbsDer (cert : MatterCertificate) : Except Error Bytes := do
  let serial ← encodeSerialNumber cert.serial.bytes
  let issuer ← encodeDn cert.issuer
  let subject ← encodeDn cert.subject
  return wrapSequence ([0xa0, 0x03, 0x02, 0x01, 0x02] ++ serial ++
    encodeAlgorithmIdentifierEcdsaSha256 ++ issuer ++
    encodeValidity cert.notBefore cert.notAfter ++ subject ++
    encodeSubjectPublicKeyInfo cert.publicKey ++ encodeExtensionsBlock cert.extensions)

end Matter.Cert
