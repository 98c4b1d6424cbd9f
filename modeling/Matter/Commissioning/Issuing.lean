import Matter.Cert.Chain
import Matter.Cert.Profile
import Matter.Commissioning.Ordering

/-! The certificates a fabric issues, and the chains they make. A node's certificate, sent
and read back, is valid under the fabric's root, with or without an intermediate, and names
what it was issued for. -/
namespace Matter.Commissioning
open Codec Cert Exits CertificateChain

/-- All the tags of a name, in order. -/
def caseAuthenticatedTags (name : DistinguishedName) : List UInt32 :=
  name.filterMap fun
    | .caseAuthenticatedTag tag => some tag
    | _ => none

section Fabrics
variable (host : Host) (publicKey : Signer → PublicKey)

/-- `ECDSA_P256_SHA256_FIXED`. -/
def verifyFixed : Verify := fun key tbs signature => host.ecdsaFixed key.bytes tbs signature.bytes

def signed (signer : Signer) (unsigned : UnsignedCertificate) : RngM MatterCertificate := do
  let tbs ← steady ((unsigned.tbsDer host.toX509TbsDer).mapError .certBuild)
  let signature ← signWith host signer tbs
  return unsigned.assemble signature

def FabricRecord.newRootOnly (fabricId : UInt64) (rootSigner : Signer)
    (notBefore notAfter : MatterTime) (rcacId : UInt64) : RngM FabricRecord := do
  let rootPublicKey := publicKey rootSigner
  let skid := skidFromSpki host.sha1 rootPublicKey
  let serial ← fill host 19
  let unsigned ← steady ((Builder.buildUnsigned
    { serial := some (serialNumber serial)
      issuer := some [.rcacId rcacId]
      subject := some [.rcacId rcacId]
      notBefore := some notBefore
      notAfter := some notAfter
      publicKey := some rootPublicKey
      extensions := some (authorityExtensions 1 skid skid) }).mapError .certBuild)
  let rootCert ← signed host rootSigner unsigned
  steady ((rootCert.verifySignedBy (verifyFixed host) rootPublicKey).mapError .certBuild)
  let identityProtectionKey ← fill host 16
  return {
    fabricId, rootPublicKey, rootSigner, rootCert, identityProtectionKey
    icacSigner := none
    icacCert := none }

def issueIcac (fabric : FabricRecord) (icacId : UInt64) (icacPublicKey : PublicKey)
    (notBefore notAfter : MatterTime) : RngM MatterCertificate := do
  let rootSkid ← steady (orError (.certBuild (.missingField 4))
    fabric.rootCert.extensions.subjectKeyIdentifier)
  let serial ← fill host 19
  let unsigned ← steady ((icac host.sha1 {
    icacId, notBefore, notAfter
    issuer := fabric.rootCert.subject
    issuerSkid := rootSkid
    publicKey := icacPublicKey
    serial := serialNumber serial }).mapError .certBuild)
  signed host fabric.rootSigner unsigned

/-- A fabric as it was made, or with an intermediate issued for the key of its signer. -/
inductive Tier (fabric : FabricRecord) : FabricRecord → Prop where
  | root : Tier fabric fabric
  | icac (signer : Signer)
      (issued : (issueIcac host fabric icacId (publicKey signer) notBefore notAfter).run draws =
        .ok cert draws') :
      Tier fabric { fabric with icacSigner := some signer, icacCert := some cert }

end Fabrics

def restored (cert : MatterCertificate) : Except Cert.Error MatterCertificate := do
  let text ← cert.toTlv
  MatterCertificate.fromTlv (Handshake.received text)

theorem restored_profile (profile : Profile cert) : restored cert = .ok cert := by
  obtain ⟨text, written, read⟩ := fromTlv_toTlv profile
  have whole : Handshake.received text.bytes = text := dif_pos text.addressable
  simp only [restored, written, bind, Except.bind, whole, read]

theorem validate_leaf (inTime : InTime now leaf) (node : leaf.isCa = false)
    (anchored : ∃ anchor ∈ roots, Anchored verify leaf anchor) :
    validate verify [leaf] roots now = .ok () := by
  refine (validate_iff (by simp)).mpr ⟨by simp, by simpa using inTime, ?_, by simp, by simp, ?_⟩
  · intro cert here
    cases here
    exact node
  · intro top here
    cases here
    exact anchored

theorem validate_pair {leaf icac : MatterCertificate} (leafInTime : InTime now leaf)
    (icacInTime : InTime now icac) (node : leaf.isCa = false) (authority : Authority icac 0)
    (named : leaf.issuer = icac.subject) (signed : SignedBy verify leaf icac.publicKey)
    (anchored : ∃ anchor ∈ roots, Anchored verify icac anchor) :
    validate verify [leaf, icac] roots now = .ok () := by
  refine (validate_iff (by simp)).mpr ⟨by simp, by simp [leafInTime, icacInTime], ?_, ?_, ?_, ?_⟩
  · intro cert here
    cases here
    exact node
  · intro i cert here
    cases i with
    | zero =>
      cases here
      exact authority
    | succ i => simp at here
  · intro i cert next here after
    cases i with
    | zero =>
      cases here
      cases after
      exact ⟨named, signed⟩
    | succ i => simp at after
  · intro top here
    cases here
    exact anchored

/-! What is issued. -/

/-- Certificates are encoded as they are for a verifier, and what a signer signs verifies
under its key. -/
structure Signs (host : Host) (publicKey : Signer → PublicKey) : Prop where
  der : host.toX509TbsDer = MatterCertificate.toX509TbsDer
  verifies : ∀ signer calls tbs signature, host.sign signer calls tbs = .ok signature →
    verifyFixed host (publicKey signer) tbs signature = true

/-- A certificate with given contents, signed with the key of its issuer. -/
structure IssuedBy (host : Host) (issuerKey : PublicKey) (issuer subject : DistinguishedName)
    (key : PublicKey) (extensions : Extensions) (cert : MatterCertificate) : Prop where
  serial : cert.serial.bytes.length = 19
  issuer : cert.issuer = issuer
  subject : cert.subject = subject
  key : cert.publicKey = key
  extensions : cert.extensions = extensions
  signed : SignedBy (verifyFixed host) cert issuerKey

section Issued
variable {host : Host} {publicKey : Signer → PublicKey} {fabric : FabricRecord}

theorem length_serialNumber (block : Block 19) : (serialNumber block).bytes.length = 19 := by
  rw [serialNumber, length_clearTopBit, block.size]

theorem sign_of_signWith (ran : (signWith host signer tbs).run draws = .ok signature draws') :
    host.sign signer draws tbs = .ok signature := by
  unfold signWith EStateM.run at ran
  dsimp only at ran
  split at ran
  · rename_i signs
    cases ran
    exact signs
  · cases ran

section
variable (signs : Signs host publicKey)
include signs

theorem issuedBy_of_signed
    (built : Builder.buildUnsigned ⟨some (serialNumber block), some issuer, some notBefore,
      some notAfter, some subject, some key, some extensions⟩ = .ok unsigned)
    (made : (signed host signer unsigned).run draws = .ok cert draws') :
    IssuedBy host (publicKey signer) issuer subject key extensions cert := by
  obtain rfl : unsigned =
      ⟨serialNumber block, issuer, notBefore, notAfter, subject, key, extensions⟩ := by
    simp only [Builder.buildUnsigned, Builder.field, length_serialNumber, bind, Except.bind] at built
    cases built
    rfl
  obtain ⟨tbs, _, encoded, made⟩ := of_run_bind_ok made
  obtain ⟨signature, calls, signing, made⟩ := of_run_bind_ok made
  cases made
  have encodes := mapError_ok.mp (ok_of_steady encoded)
  rw [UnsignedCertificate.tbsDer, signs.der] at encodes
  have verified := signs.verifies _ _ _ _ (sign_of_signWith signing)
  exact ⟨length_serialNumber block, rfl, rfl, rfl, rfl, tbs, encodes, verified⟩

theorem issuedBy_of_newRootOnly
    (made : (FabricRecord.newRootOnly host publicKey fabricId rootSigner notBefore notAfter
      rcacId).run draws = .ok fabric draws') :
    fabric.fabricId = fabricId ∧ fabric.rootSigner = rootSigner ∧ fabric.icacSigner = none ∧
      fabric.icacCert = none ∧ ∃ skid, IssuedBy host (publicKey rootSigner) [.rcacId rcacId]
        [.rcacId rcacId] (publicKey rootSigner) (authorityExtensions 1 skid skid)
        fabric.rootCert := by
  obtain ⟨block, _, _, made⟩ := of_run_bind_ok made
  obtain ⟨unsigned, _, built, made⟩ := of_run_bind_ok made
  obtain ⟨rootCert, _, signing, made⟩ := of_run_bind_ok made
  obtain ⟨_, _, _, made⟩ := of_run_bind_ok made
  obtain ⟨ipk, _, _, made⟩ := of_run_bind_ok made
  cases made
  have root := issuedBy_of_signed signs (mapError_ok.mp (ok_of_steady built)) signing
  exact ⟨rfl, rfl, rfl, rfl, _, root⟩

theorem issuedBy_of_issueIcac
    (known : fabric.rootCert.extensions.subjectKeyIdentifier = some rootSkid)
    (made : (issueIcac host fabric icacId key notBefore notAfter).run draws = .ok cert draws') :
    ∃ skid, IssuedBy host (publicKey fabric.rootSigner) fabric.rootCert.subject [.icacId icacId] key
      (authorityExtensions 0 skid rootSkid) cert := by
  obtain ⟨found, _, skid, made⟩ := of_run_bind_ok made
  obtain rfl := Option.some.inj (known.symm.trans (orError_ok.mp (ok_of_steady skid)))
  obtain ⟨block, _, _, made⟩ := of_run_bind_ok made
  obtain ⟨unsigned, _, built, made⟩ := of_run_bind_ok made
  exact ⟨_, issuedBy_of_signed signs (mapError_ok.mp (ok_of_steady built)) made⟩

theorem issuedBy_of_issueNoc (issuer : issuerOf fabric = .ok (name, issuerSkid, signer))
    (made : (issueNoc host fabric csr nodeId tags notBefore notAfter).run draws = .ok cert draws') :
    ∃ skid, IssuedBy host (publicKey signer) name
      (.fabricId fabric.fabricId :: .nodeId nodeId :: tags.map .caseAuthenticatedTag) csr.publicKey
      (nodeExtensions skid issuerSkid) cert := by
  obtain ⟨found, _, names, made⟩ := of_run_bind_ok made
  obtain rfl := Except.ok.inj (issuer.symm.trans (ok_of_steady names))
  obtain ⟨block, _, _, made⟩ := of_run_bind_ok made
  obtain ⟨unsigned, _, built, made⟩ := of_run_bind_ok made
  exact ⟨_, issuedBy_of_signed signs (mapError_ok.mp (ok_of_steady built)) made⟩

end

theorem profile_of_issuedBy (issued : IssuedBy host issuerKey issuer subject key extensions cert)
    (issuers : DistinguishedName.Numbered issuer) (subjects : DistinguishedName.Numbered subject)
    (form : ∃ skid akid, extensions = authorityExtensions 0 skid akid ∨
      extensions = nodeExtensions skid akid) : Profile cert := by
  obtain ⟨serial, rfl, rfl, _, rfl, _⟩ := issued
  exact ⟨by rw [serial]; decide, issuers, subjects, form⟩

theorem numbered_subject (fabricId nodeId : UInt64) {tags : List UInt32} (few : tags.length ≤ 3) :
    DistinguishedName.Numbered
      (.fabricId fabricId :: .nodeId nodeId :: tags.map .caseAuthenticatedTag) := by
  constructor
  · simp [DnAttribute.Numbered]
  · simp only [List.length_cons, List.length_map]
    omega

theorem names_subject (fabricId nodeId : UInt64) (tags : List UInt32) :
    let name : DistinguishedName :=
      .fabricId fabricId :: .nodeId nodeId :: tags.map .caseAuthenticatedTag
    name.fabricId = some fabricId ∧ name.nodeId = some nodeId ∧ caseAuthenticatedTags name = tags := by
  refine ⟨rfl, rfl, ?_⟩
  simp [caseAuthenticatedTags, List.filterMap_map]

theorem anchored_of_issuedBy
    (issued : IssuedBy host root.publicKey root.subject subject key extensions cert)
    (named : extensions.authorityKeyIdentifier = root.extensions.subjectKeyIdentifier) :
    ∃ anchor ∈ [Cert.TrustAnchor.fromRootCert root], Anchored (verifyFixed host) cert anchor := by
  obtain ⟨_, issuer, _, _, rfl, signed⟩ := issued
  exact ⟨_, List.mem_cons_self, issuer, .inr named.symm, signed⟩

end Issued

theorem issued_noc_validates (host : Host) (publicKey : Signer → PublicKey)
    (signs : Signs host publicKey) (fabricId rcacId : UInt64) (rootSigner : Signer)
    (rootNotBefore rootNotAfter : MatterTime) (draws draws' : Nat) (fabric tiered : FabricRecord)
    (made : (FabricRecord.newRootOnly host publicKey fabricId rootSigner rootNotBefore rootNotAfter
      rcacId).run draws = .ok fabric draws')
    (tier : Tier host publicKey fabric tiered) (csr : VerifiedCsr) (nodeId : UInt64)
    (tags : List UInt32) (few : tags.length ≤ 3) (notBefore notAfter : MatterTime)
    (before after : Nat) (noc : MatterCertificate)
    (issued : (issueNoc host tiered csr nodeId tags notBefore notAfter).run before =
      .ok noc after) :
    ∃ leaf above, (noc :: tiered.icacCert.toList).mapM restored = .ok (leaf :: above) ∧
      leaf.subject.fabricId = some fabricId ∧ leaf.subject.nodeId = some nodeId ∧
      caseAuthenticatedTags leaf.subject = tags ∧
      ∀ now, (∀ cert ∈ noc :: tiered.icacCert.toList, InTime now cert) →
        validate (verifyFixed host) (leaf :: above) [.fromRootCert tiered.rootCert] now = .ok () := by
  obtain ⟨rfl, rfl, signerless, flat, rootSkid, root⟩ := issuedBy_of_newRootOnly signs made
  have known : fabric.rootCert.extensions.subjectKeyIdentifier = some rootSkid := by
    rw [root.extensions]
    rfl
  have rootName : DistinguishedName.Numbered fabric.rootCert.subject := by
    rw [root.subject]
    exact ⟨by simp [DnAttribute.Numbered], Nat.le_add_left 1 4⟩
  have subjects := numbered_subject fabric.fabricId nodeId few
  have names := names_subject fabric.fabricId nodeId tags
  cases tier with
  | root =>
    have issuer : issuerOf fabric = .ok (fabric.rootCert.subject, rootSkid, fabric.rootSigner) := by
      simp only [issuerOf, signerless, flat, known]
      rfl
    obtain ⟨skid, leaf⟩ := issuedBy_of_issueNoc signs issuer issued
    have profile := profile_of_issuedBy leaf rootName subjects ⟨skid, rootSkid, .inr rfl⟩
    rw [← root.key] at leaf
    rw [← leaf.subject] at names
    refine ⟨noc, [], ?_, names.1, names.2.1, names.2.2, fun now inTime => ?_⟩
    · simp only [flat, Option.toList_none, List.mapM_cons, List.mapM_nil, restored_profile profile]
      rfl
    · have node : noc.isCa = false := by
        rw [MatterCertificate.isCa, leaf.extensions]
        rfl
      exact validate_leaf (inTime noc List.mem_cons_self) node (anchored_of_issuedBy leaf known.symm)
  | @icac icacId _ _ _ cert _ signer icacIssued =>
    obtain ⟨icacSkid, icac⟩ := issuedBy_of_issueIcac signs known icacIssued
    have icacName : DistinguishedName.Numbered cert.subject := by
      rw [icac.subject]
      exact ⟨by simp [DnAttribute.Numbered], Nat.le_add_left 1 4⟩
    have issuer : issuerOf { fabric with icacSigner := some signer, icacCert := some cert } =
        .ok (cert.subject, icacSkid, signer) := by
      simp only [issuerOf, icac.extensions]
      rfl
    obtain ⟨skid, leaf⟩ := issuedBy_of_issueNoc signs issuer issued
    have profile := profile_of_issuedBy leaf icacName subjects ⟨skid, icacSkid, .inr rfl⟩
    have authority := profile_of_issuedBy icac rootName (icac.subject ▸ icacName)
      ⟨icacSkid, rootSkid, .inl rfl⟩
    rw [← root.key] at icac
    rw [← leaf.subject] at names
    refine ⟨noc, [cert], ?_, names.1, names.2.1, names.2.2, fun now inTime => ?_⟩
    · simp only [Option.toList_some, List.mapM_cons, List.mapM_nil, restored_profile profile,
        restored_profile authority]
      rfl
    · have node : noc.isCa = false := by
        rw [MatterCertificate.isCa, leaf.extensions]
        rfl
      have signer : Authority cert 0 := by
        refine ⟨?_, ?_, fun _ _ => Nat.zero_le _⟩
        · rw [MatterCertificate.isCa, icac.extensions]
          rfl
        · rw [MatterCertificate.hasKeyCertSign, icac.extensions]
          rfl
      have intermediate : InTime now cert := inTime cert (by simp)
      have signed := leaf.signed
      rw [← icac.key] at signed
      exact validate_pair (inTime noc List.mem_cons_self) intermediate node signer leaf.issuer signed
        (anchored_of_issuedBy icac known.symm)

/-! A fabric with an intermediate, whose signatures all verify. -/
namespace TestDevice

def issuer : Host :=
  { host with toX509TbsDer := MatterCertificate.toX509TbsDer, ecdsaFixed := fun _ _ _ => true }

def issues (m : RngM α) : Option (α × Nat) :=
  match m.run 0 with
  | .ok a draws => some (a, draws)
  | .error _ _ => none

theorem run_of_issues (issued : issues m = some (a, draws)) : m.run 0 = .ok a draws := by
  unfold issues at issued
  split at issued
  · rename_i same
    cases issued
    exact same
  · cases issued

def newFabric : RngM FabricRecord :=
  FabricRecord.newRootOnly issuer (fun _ => rootKey) 7 ⟨0⟩ ⟨1⟩ .noExpiry 1

def sampleFabric : FabricRecord :=
  ⟨7, rootKey, ⟨0⟩, ⟨serialNumber (.fill 19 1), [.rcacId 1], ⟨1⟩, .noExpiry, [.rcacId 1], rootKey,
    authorityExtensions 1 (.fill 20 0x20) (.fill 20 0x20), .fill 64 0x99⟩, none, none, .fill 16 2⟩

def sampleIcac : MatterCertificate :=
  ⟨serialNumber (.fill 19 1), [.rcacId 1], ⟨1⟩, .noExpiry, [.icacId 2], rootKey,
    authorityExtensions 0 (.fill 20 0x20) (.fill 20 0x20), .fill 64 0x99⟩

def tieredFabric : FabricRecord :=
  { sampleFabric with icacSigner := some ⟨1⟩, icacCert := some sampleIcac }

def sampleNoc : MatterCertificate :=
  ⟨serialNumber (.fill 19 1), [.icacId 2], ⟨1⟩, .noExpiry,
    [.fabricId 7, .nodeId 9, .caseAuthenticatedTag 5], rootKey,
    nodeExtensions (.fill 20 0x20) (.fill 20 0x20), .fill 64 0x99⟩

end TestDevice

open TestDevice in
theorem issued_noc_validates_tiered :
    ∃ leaf above, (sampleNoc :: tieredFabric.icacCert.toList).mapM restored = .ok (leaf :: above) ∧
      leaf.subject.fabricId = some 7 ∧ leaf.subject.nodeId = some 9 ∧
      caseAuthenticatedTags leaf.subject = [5] ∧
      ∀ now, (∀ cert ∈ sampleNoc :: tieredFabric.icacCert.toList, InTime now cert) →
        validate (verifyFixed issuer) (leaf :: above) [.fromRootCert tieredFabric.rootCert] now =
          .ok () := by
  have made : newFabric.run 0 = .ok sampleFabric 2 := run_of_issues (by decide +kernel)
  have icac : (issueIcac issuer sampleFabric 2 rootKey ⟨1⟩ .noExpiry).run 0 = .ok sampleIcac 1 :=
    run_of_issues (by decide +kernel)
  have noc : (issueNoc issuer tieredFabric ⟨rootKey⟩ 9 [5] ⟨1⟩ .noExpiry).run 0 =
      .ok sampleNoc 1 := run_of_issues (by decide +kernel)
  exact issued_noc_validates issuer (fun _ => rootKey) ⟨rfl, fun _ _ _ _ _ => rfl⟩ 7 1 ⟨0⟩ ⟨1⟩
    .noExpiry 0 2 sampleFabric tieredFabric made (.icac ⟨1⟩ icac) ⟨rootKey⟩ 9 [5] (by decide) ⟨1⟩
    .noExpiry 0 1 sampleNoc noc

end Matter.Commissioning
