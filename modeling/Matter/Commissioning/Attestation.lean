import Matter.Commissioning.Commands

/-! Device attestation: the certificate wrappers, the chain with its vendor and
product checks, the signature over the attestation elements, and the fields
inside them. The packages that parse certificates, search paths and check
signatures are the fields of a `Host`. -/
namespace Matter.Commissioning
open Codec Cert TlvReader
open Interaction (u32TryFrom)

/-- An attribute of an X.509 name; a value that is no string has no text. -/
structure X509Attribute where
  oid : List Nat
  text : Option String
  deriving DecidableEq

/-- What `x509_parser` reads from a certificate, as far as it is used. -/
structure X509Certificate where
  subject : List X509Attribute
  issuerRaw : Bytes
  publicKey : Bytes
  subjectKeyIdentifier : Option Bytes
  deriving DecidableEq

/-- What `x509_parser` reads from a certification request. -/
structure CertificationRequest where
  publicKey : Bytes
  tbs : Bytes
  signature : Bytes
  deriving DecidableEq

/-- What `webpki` keeps of a trusted root. -/
structure TrustAnchor where
  subject : Bytes
  subjectPublicKeyInfo : Bytes
  deriving DecidableEq

/-- The kinds of `webpki::Error` that are told apart. -/
inductive WebpkiError where
  | certExpired
  | certNotValidYet
  | invalidCertValidity
  | pathLenConstraintViolated
  | endEntityUsedAsCa
  | caUsedAsEndEntity
  | unknownIssuer
  | other
  deriving DecidableEq, Repr

inductive CertRole where
  | dac
  | pai
  deriving DecidableEq, Repr

/-- SEC1 points of the roots that sign certification declarations. -/
structure CdSigningRoots where
  publicKeys : List Bytes
  deriving DecidableEq

/-- A signing key behind `dyn Signer`. -/
structure Signer where
  handle : Nat
  deriving DecidableEq

/-- Everything the commissioner calls that is not modelled here: other packages,
the random generator and the signers, the certificate profile and certification
declaration checks, and the conversion of a certificate to X.509. -/
structure Host where
  parseX509 : Bytes → Option X509Certificate
  /-- A certificate signing request and the bytes that follow it. -/
  parseCsr : Bytes → Option (CertificationRequest × Bytes)
  anchorFromTrustedCert : Bytes → Option TrustAnchor
  /-- `EndEntityCert::try_from` and `verify_for_usage`: the end entity, the
  anchors, the intermediates and the time. -/
  verifyForUsage : Bytes → List TrustAnchor → List Bytes → Nat → Except WebpkiError Unit
  verifyAttestationCertFormat : Bytes → CertRole → Except AttestationError Unit
  verifyCertificationDeclarationWithPaa :
    Octets → VendorId → ProductId → CdSigningRoots → Option Bytes → Except AttestationError Unit
  /-- Key, message and signature, as `r || s`. -/
  ecdsaFixed : Bytes → Bytes → Bytes → Bool
  /-- Key, message and signature, in ASN.1. -/
  ecdsaAsn1 : Bytes → Bytes → Bytes → Bool
  sha1 : Bytes → Block 20
  toX509TbsDer : MatterCertificate → Except Cert.Error Bytes
  /-- The answer to the `k`-th call of the generator. -/
  fill : Nat → (n : Nat) → Except NocError (Block n)
  /-- A signature made after `k` calls of the generator. -/
  sign : Signer → Nat → Bytes → Except SignerError (Block 64)
  tables : UnicodeTables

/-- An early return unless `p`. -/
def ensure {ε : Type} (p : Prop) [Decidable p] (error : ε) : Except ε Unit :=
  if p then .ok () else .error error

/-! Names. -/

def matterVidOid : List Nat := [1, 3, 6, 1, 4, 1, 37244, 2, 1]
def matterPidOid : List Nat := [1, 3, 6, 1, 4, 1, 37244, 2, 2]

def hexDigit? (c : Char) : Option Nat :=
  if '0' ≤ c ∧ c ≤ '9' then some (c.toNat - '0'.toNat)
  else if 'A' ≤ c ∧ c ≤ 'F' then some (c.toNat - 'A'.toNat + 10)
  else if 'a' ≤ c ∧ c ≤ 'f' then some (c.toNat - 'a'.toNat + 10)
  else none

/-- `u16::from_str_radix` at base 16, for at most four characters: a sign before
at least one digit is accepted. -/
def fromStrRadix16 (raw : List Char) : Option Nat :=
  let digits := match raw with
    | '+' :: c :: rest => c :: rest
    | raw => raw
  (digits.mapM hexDigit?).map fun values => values.foldl (fun n digit => 16 * n + digit) 0

/-- `{:04X}`. -/
def upperHex4 (n : Nat) : List Char :=
  [n / 4096 % 16, n / 256 % 16, n / 16 % 16, n % 16].map fun digit => (Nat.digitChar digit).toUpper

/-- The attribute is absent, or its value is the identifier in upper-case
hexadecimal. -/
def extractMatterU16 (name : List X509Attribute) (oid : List Nat) :
    Except AttestationError (Option UInt16) :=
  match name.find? fun attr => attr.oid = oid with
  | none => .ok none
  | some attr => do
    let raw ← orError .parse attr.text
    ensure (raw.utf8ByteSize = 4) .parse
    let value ← orError .parse (fromStrRadix16 raw.toList)
    ensure (raw.toList = upperHex4 value) .parse
    return some (UInt16.ofNat value)

def extractVid (name : List X509Attribute) : Except AttestationError (Option VendorId) :=
  Option.map VendorId.mk <$> extractMatterU16 name matterVidOid

def extractPid (name : List X509Attribute) : Except AttestationError (Option ProductId) :=
  Option.map ProductId.mk <$> extractMatterU16 name matterPidOid

/-! Certificates. -/

structure Dac where
  der : Bytes
  subjectVid : VendorId
  subjectPid : ProductId
  publicKey : Bytes
  deriving DecidableEq

structure Pai where
  der : Bytes
  subjectVid : VendorId
  subjectPid : Option ProductId
  publicKey : Bytes
  issuerRaw : Bytes
  deriving DecidableEq

structure Paa where
  der : Bytes
  subjectVid : Option VendorId
  publicKey : Bytes
  deriving DecidableEq

abbrev PaaTrustStore := List Paa

section Verification
variable (host : Host)

def Dac.fromDer (bytes : Bytes) : Except AttestationError Dac := do
  let cert ← orError .parse (host.parseX509 bytes)
  let vid ← extractVid cert.subject
  let vid ← orError .parse vid
  let pid ← extractPid cert.subject
  let pid ← orError .parse pid
  return ⟨bytes, vid, pid, cert.publicKey⟩

def Pai.fromDer (bytes : Bytes) : Except AttestationError Pai := do
  let cert ← orError .parse (host.parseX509 bytes)
  let vid ← extractVid cert.subject
  let vid ← orError .parse vid
  let pid ← extractPid cert.subject
  return ⟨bytes, vid, pid, cert.publicKey, cert.issuerRaw⟩

def Paa.subjectKeyIdentifier (paa : Paa) : Option Bytes := do
  let cert ← host.parseX509 paa.der
  cert.subjectKeyIdentifier

/-! The chain. -/

def paaToTrustAnchor (paa : Paa) : Except AttestationError TrustAnchor :=
  orError .parse (host.anchorFromTrustedCert paa.der)

def mapWebpkiError : WebpkiError → AttestationError
  | .certExpired => .timeBoundsViolation
  | .certNotValidYet => .timeBoundsViolation
  | .invalidCertValidity => .timeBoundsViolation
  | .pathLenConstraintViolated => .basicConstraintsViolation
  | .endEntityUsedAsCa => .basicConstraintsViolation
  | .caUsedAsEndEntity => .basicConstraintsViolation
  | .unknownIssuer => .untrustedRoot
  | .other => .invalidChain

/-- The contents of a DER sequence with a length of at most two bytes. -/
def stripSequenceWrapper (bytes : Bytes) : Option Bytes :=
  match bytes with
  | 0x30 :: 0x81 :: length :: rest =>
    if length.toNat ≤ rest.length then some (rest.take length.toNat) else none
  | 0x30 :: 0x82 :: high :: low :: rest =>
    let length := high.toNat * 256 + low.toNat
    if length ≤ rest.length then some (rest.take length) else none
  | 0x30 :: length :: rest =>
    if length.toNat < 0x80 ∧ length.toNat ≤ rest.length then some (rest.take length.toNat)
    else none
  | _ => none

structure ChainVerification where
  vendorId : VendorId
  productId : ProductId
  dacPublicKey : Bytes
  paaSubject : Bytes
  paaSkid : Option Bytes
  deriving DecidableEq

/-- The trusted root with the given subject, the first of several. -/
def anchoringPaa (trustStore : PaaTrustStore) (subject : Bytes) : Option Paa :=
  trustStore.find? fun paa =>
    (host.anchorFromTrustedCert paa.der).any fun anchor => anchor.subject = subject

def verifyChain (dac : Dac) (pai : Pai) (trustStore : PaaTrustStore) (at_ : MatterTime) :
    Except AttestationError ChainVerification := do
  let anchors ← trustStore.mapM (paaToTrustAnchor host)
  (host.verifyForUsage dac.der anchors [pai.der] at_.toUnixSecs).mapError mapWebpkiError
  ensure (dac.subjectVid = pai.subjectVid) (.vidMismatch dac.subjectVid pai.subjectVid)
  ensure (pai.subjectPid = none ∨ pai.subjectPid = some dac.subjectPid) .paiVidNotAuthorized
  let subject ← orError .untrustedRoot (stripSequenceWrapper pai.issuerRaw)
  let paa ← orError .untrustedRoot (anchoringPaa host trustStore subject)
  match paa.subjectVid with
  | none => pure ()
  | some paaVid => ensure (paaVid = dac.subjectVid) (.paaVidScopeMismatch paaVid dac.subjectVid)
  return {
    vendorId := dac.subjectVid
    productId := dac.subjectPid
    dacPublicKey := dac.publicKey
    paaSubject := subject
    paaSkid := paa.subjectKeyIdentifier host }

/-! Signatures and elements. -/

def verifyDacSignedElements (elements : Octets) (attestationChallenge : Block 16)
    (dacPublicKey : Bytes) (signature : Block 64) : Except AttestationError Unit :=
  ensure (host.ecdsaFixed dacPublicKey (elements.bytes ++ attestationChallenge.bytes)
    signature.bytes) .badResponseSignature

def verifyAttestationResponse (response : AttestationResponse) (attestationChallenge : Block 16)
    (dacPublicKey : Bytes) : Except AttestationError Unit :=
  verifyDacSignedElements host response.attestationElements attestationChallenge dacPublicKey
    response.signature

end Verification

structure AttestationElementsFields where
  certificationDeclaration : Octets
  attestationNonce : Block 32
  timestampEpochSeconds : UInt64
  deriving DecidableEq

structure ElementsFields where
  declaration : Option Octets := none
  nonce : Option (Block 32) := none
  timestamp : Option UInt64 := none

abbrev AttestationM := ParserM AttestationError

/-- A known field in another shape than its own rejects the elements. -/
def elementsOther (fields : ElementsFields) (element : ElementRef) : AttestationM ElementsFields :=
  let known (tag : Tag) : Prop :=
    tag = .context 1 ∨ tag = .context 2 ∨ tag = .context 3 ∨ tag = .context 4
  match element with
  | .containerEnd => return fields
  | .scalar tag _ => if known tag then throw .responseElementsMalformed else return fields
  | .containerStart tag _ =>
    if known tag then throw .responseElementsMalformed
    else do
      fromCodec (fun _ => .responseElementsMalformed) skipContainer
      return fields

def elementsMember (fields : ElementsFields) : ElementRef → AttestationM ElementsFields
  | .scalar (.context 1) (.bytes octets) => do
    once .responseElementsMalformed fields.declaration
    return { fields with declaration := some octets }
  | .scalar (.context 2) (.bytes octets) => do
    once .responseElementsMalformed fields.nonce
    let nonce ← okOr .responseElementsMalformed (Block.tryFrom 32 octets.bytes)
    return { fields with nonce := some nonce }
  | .scalar (.context 3) (.uint n) => do
    once .responseElementsMalformed fields.timestamp
    let _ ← okOr .responseElementsMalformed (u32TryFrom n)
    return { fields with timestamp := some n }
  | .scalar (.context 4) (.bytes _) => return fields
  | element => elementsOther fields element

/-- Bytes after the struct are not looked at. -/
def extractAttestationElementsFields (tlv : Octets) :
    Except AttestationError AttestationElementsFields :=
  let malformed := AttestationError.responseElementsMalformed
  parseWhole (do
    expectStruct (fun _ => malformed) malformed
    let fields ← structMembers (fun _ => malformed) malformed elementsMember {}
    let declaration ← okOr malformed fields.declaration
    let nonce ← okOr malformed fields.nonce
    let timestamp ← okOr malformed fields.timestamp
    return ⟨declaration, nonce, timestamp⟩) tlv

end Matter.Commissioning
