import Matter.Commissioning.Attestation

/-! Operational credentials: the check of a certificate signing request, and the
certificate issued for the key it names. -/
namespace Matter.Commissioning
open Codec Cert TlvReader

structure NocsrElements where
  csrDer : Octets
  csrNonce : Block 32
  vendorReserved1 : Option Octets
  vendorReserved2 : Option Octets
  vendorReserved3 : Option Octets
  deriving DecidableEq

structure NocsrFields where
  csr : Option Octets := none
  nonce : Option (Block 32) := none
  vendorReserved1 : Option Octets := none
  vendorReserved2 : Option Octets := none
  vendorReserved3 : Option Octets := none

/-- Unlike the other structs this one has no unknown members. -/
def nocsrMember (fields : NocsrFields) : ElementRef → NocM NocsrFields
  | .scalar (.context 1) (.bytes octets) => do
    once .nocsrParse fields.csr
    return { fields with csr := some octets }
  | .scalar (.context 2) (.bytes octets) => do
    once .nocsrParse fields.nonce
    let nonce ← okOr .nocsrParse (Block.tryFrom 32 octets.bytes)
    return { fields with nonce := some nonce }
  | .scalar (.context 3) (.bytes octets) => do
    once .nocsrParse fields.vendorReserved1
    return { fields with vendorReserved1 := some octets }
  | .scalar (.context 4) (.bytes octets) => do
    once .nocsrParse fields.vendorReserved2
    return { fields with vendorReserved2 := some octets }
  | .scalar (.context 5) (.bytes octets) => do
    once .nocsrParse fields.vendorReserved3
    return { fields with vendorReserved3 := some octets }
  | _ => throw .nocsrParse

def parseNocsr (elementsTlv : Octets) : Except NocError NocsrElements :=
  parseWhole (do
    expectStruct (fun _ => .nocsrParse) .nocsrParse
    let fields ← structMembers (fun _ => .nocsrParse) .nocsrParse nocsrMember {}
    let csr ← okOr .nocsrParse fields.csr
    let nonce ← okOr .nocsrParse fields.nonce
    return ⟨csr, nonce, fields.vendorReserved1, fields.vendorReserved2,
      fields.vendorReserved3⟩) elementsTlv

/-- `ct_eq`: the bitwise differences, accumulated. -/
def ctEq (a b : Block 32) : Bool :=
  (List.zipWith (· ^^^ ·) a.bytes b.bytes).foldl (· ||| ·) 0 = 0

theorem foldl_or_eq_zero (bytes : Bytes) (acc : UInt8) :
    bytes.foldl (· ||| ·) acc = 0 ↔ acc = 0 ∧ ∀ b ∈ bytes, b = 0 := by
  induction bytes generalizing acc with
  | nil => simp
  | cons b rest ih =>
    rw [List.foldl_cons, ih, List.forall_mem_cons, ← and_assoc]
    refine and_congr_left fun _ => ?_
    exact UInt8.or_eq_zero_iff

theorem zipWith_xor_eq_zero {a b : Bytes} (size : a.length = b.length) :
    (∀ d ∈ List.zipWith (· ^^^ ·) a b, d = 0) ↔ a = b := by
  induction a generalizing b with
  | nil => simp [List.eq_nil_of_length_eq_zero size.symm]
  | cons x a ih =>
    obtain ⟨y, b, rfl⟩ := List.exists_cons_of_length_eq_add_one size.symm
    rw [List.zipWith_cons_cons, List.forall_mem_cons, ih (Nat.succ.inj size), List.cons.injEq]
    exact and_congr_left fun _ => UInt8.xor_eq_zero_iff

theorem ctEq_iff : ctEq a b = true ↔ a = b := by
  rw [ctEq, decide_eq_true_iff, foldl_or_eq_zero, zipWith_xor_eq_zero (a.size.trans b.size.symm)]
  constructor
  · intro same
    cases a
    cases b
    cases same.2
    rfl
  · rintro rfl
    exact ⟨rfl, rfl⟩

structure VerifiedCsr where
  publicKey : PublicKey
  deriving DecidableEq

section Requests
variable (host : Host)

/-- The key of a request that is signed with it. -/
def parseAndVerifyCsr (csrDer : Bytes) : Except NocError PublicKey := do
  let (request, rest) ← orError .csrParse (host.parseCsr csrDer)
  ensure (rest = []) .csrParse
  let key ← (PublicKey.fromSlice request.publicKey).mapError fun _ => .invalidCsrPublicKey
  ensure (host.ecdsaAsn1 key.bytes request.tbs request.signature) .badCsrSelfSignature
  return key

def verifyCsrResponse (elementsTlv : Octets) (attestationSignature : Block 64)
    (expectedCsrNonce : Block 32) (attestationChallenge : Block 16) (dacPublicKey : Bytes) :
    Except NocError VerifiedCsr := do
  let elements ← parseNocsr elementsTlv
  let key ← parseAndVerifyCsr host elements.csrDer.bytes
  ensure (ctEq elements.csrNonce expectedCsrNonce) .nonceMismatch
  (verifyDacSignedElements host elementsTlv attestationChallenge dacPublicKey
    attestationSignature).mapError fun _ => .badCsrAttestationSignature
  return ⟨key⟩

end Requests

structure FabricRecord where
  fabricId : UInt64
  rootPublicKey : PublicKey
  rootSigner : Signer
  rootCert : MatterCertificate
  icacSigner : Option Signer
  icacCert : Option MatterCertificate
  identityProtectionKey : Block 16
  deriving DecidableEq

/-- Calls of the random generator, counted. -/
abbrev RngM := EStateM NocError Nat

section Issuing
variable (host : Host)

def fill (n : Nat) : RngM (Block n) := fun calls =>
  match host.fill calls n with
  | .ok block => .ok block (calls + 1)
  | .error e => .error e (calls + 1)

/-- A fallible step that draws nothing. -/
def steady {α : Type} (result : Except NocError α) : RngM α := fun calls =>
  match result with
  | .ok a => .ok a calls
  | .error e => .error e calls

/-- The name, the key identifier and the signer a certificate is issued under:
the intermediate's when the fabric has both its certificate and its signer. -/
def issuerOf (fabric : FabricRecord) :
    Except NocError (DistinguishedName × KeyIdentifier × Signer) :=
  let missing := NocError.certBuild (.missingField 4)
  match fabric.icacSigner, fabric.icacCert with
  | some signer, some cert => do
    let skid ← orError missing cert.extensions.subjectKeyIdentifier
    return (cert.subject, skid, signer)
  | _, _ => do
    let skid ← orError missing fabric.rootCert.extensions.subjectKeyIdentifier
    return (fabric.rootCert.subject, skid, fabric.rootSigner)

def clearTopBit : Bytes → Bytes
  | [] => []
  | b :: rest => (b &&& 0x7f) :: rest

theorem length_clearTopBit (bytes : Bytes) : (clearTopBit bytes).length = bytes.length := by
  cases bytes <;> rfl

/-- Nineteen bytes, the top bit clear. -/
def serialNumber (block : Block 19) : Octets where
  bytes := clearTopBit block.bytes
  addressable := by
    rw [length_clearTopBit, block.size]
    decide

def signWith (signer : Signer) (tbs : Bytes) : RngM (Block 64) := fun calls =>
  match host.sign signer calls tbs with
  | .ok signature => .ok signature calls
  | .error e => .error (.signingFailed e) calls

def issueNoc (fabric : FabricRecord) (csr : VerifiedCsr) (nodeId : UInt64)
    (caseAuthenticatedTags : List UInt32) (notBefore notAfter : MatterTime) :
    RngM MatterCertificate := do
  let (issuer, issuerSkid, signer) ← steady (issuerOf fabric)
  let serial ← fill host 19
  let unsigned ← steady ((noc host.sha1 {
    fabricId := fabric.fabricId
    nodeId := nodeId
    caseAuthenticatedTags := caseAuthenticatedTags
    issuer := issuer
    issuerSkid := issuerSkid
    publicKey := csr.publicKey
    serial := serialNumber serial
    notBefore := notBefore
    notAfter := notAfter }).mapError .certBuild)
  let tbs ← steady ((unsigned.tbsDer host.toX509TbsDer).mapError .certBuild)
  let signature ← signWith host signer tbs
  return unsigned.assemble signature

end Issuing

end Matter.Commissioning
