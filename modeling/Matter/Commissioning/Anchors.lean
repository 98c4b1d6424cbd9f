import Matter.Commissioning.Ordering

/-! The root that a device's chain leads to, and the one that is checked. `webpki` says only
that a path exists. The root is looked up again by the name of the PAI's issuer, so another
one of that name is checked in its place, and a root that has issued the DAC itself leaves
the PAI out of the path. The declaration of a device may name the roots it allows. -/
namespace Matter.Commissioning
open Codec Cert TlvReader Exits
open Interaction (u16TryFrom)

/-! The certification declaration. -/

/-- What `cms` reads: a signature for each signer, and the content if it is an octet string. -/
structure SignedData where
  signatures : List Bytes
  econtent : Option Octets

structure ParsedCd where
  vendorId : VendorId
  productIds : List ProductId
  dacOriginVendorId : Option VendorId
  dacOriginProductId : Option ProductId
  authorizedPaaList : Option (List (Block 20))

structure CdFields where
  vid : Option VendorId := none
  pids : List ProductId := []
  originVendor : Option VendorId := none
  originProduct : Option ProductId := none
  authorizedPaaList : Option (List (Block 20)) := none

def tlvMalformed : AttestationError := .certificationDeclarationTlvMalformed

/-- The elements of an array up to its end, each of the one kind that is allowed. -/
def cdArray (item : ElementRef → Option α) : AttestationM (List α) :=
  elements (fun _ => tlvMalformed) tlvMalformed (fun items element =>
    match element with
    | .containerEnd => return .leave items
    | element => do
      let a ← okOr tlvMalformed (item element)
      return .again (items ++ [a])) []

def productIdItem : ElementRef → Option ProductId
  | .scalar .anonymous (.uint p) => (u16TryFrom p).map ProductId.mk
  | _ => none

def keyIdItem : ElementRef → Option (Block 20)
  | .scalar .anonymous (.bytes b) => Block.tryFrom 20 b.bytes
  | _ => none

def cdOther (fields : CdFields) (element : ElementRef) : AttestationM CdFields :=
  let known (tag : Tag) : Prop := tag = .context 9 ∨ tag = .context 10 ∨ tag = .context 11
  match element with
  | .containerEnd => return fields
  | .scalar tag _ => if known tag then throw tlvMalformed else return fields
  | .containerStart tag _ =>
    if known tag then throw tlvMalformed
    else do
      fromCodec (fun _ => tlvMalformed) skipContainer
      return fields

def cdMember (fields : CdFields) : ElementRef → AttestationM CdFields
  | .scalar (.context 1) (.uint v) => do
    once tlvMalformed fields.vid
    let vid ← okOr tlvMalformed (u16TryFrom v)
    return { fields with vid := some ⟨vid⟩ }
  | .containerStart (.context 2) .array => do
    if !fields.pids.isEmpty then throw tlvMalformed
    return { fields with pids := ← cdArray productIdItem }
  | .scalar (.context 9) (.uint v) => do
    once tlvMalformed fields.originVendor
    let vid ← okOr tlvMalformed (u16TryFrom v)
    return { fields with originVendor := some ⟨vid⟩ }
  | .scalar (.context 10) (.uint p) => do
    once tlvMalformed fields.originProduct
    let pid ← okOr tlvMalformed (u16TryFrom p)
    return { fields with originProduct := some ⟨pid⟩ }
  | .containerStart (.context 11) .array => do
    once tlvMalformed fields.authorizedPaaList
    return { fields with authorizedPaaList := some (← cdArray keyIdItem) }
  | element => cdOther fields element

def parseInnerCdTlv (tlv : Octets) : Except AttestationError ParsedCd :=
  parseWhole (do
    let fields ← wholeStruct (fun _ => tlvMalformed) tlvMalformed tlvMalformed cdMember {}
    let vendorId ← okOr tlvMalformed fields.vid
    if fields.pids.isEmpty then throw tlvMalformed
    return ⟨vendorId, fields.pids, fields.originVendor, fields.originProduct,
      fields.authorizedPaaList⟩) tlv

def paaIsAuthorized (list : Option (List (Block 20))) (devicePaaSkid : Option Bytes) : Bool :=
  match list with
  | none => true
  | some entries => devicePaaSkid.any fun skid => entries.any fun e => e.bytes = skid

section Declaration
variable (host : Host) (parseCms : Octets → Option SignedData)

def verifyEcdsaP256Sha256 (publicKey msg sig : Bytes) : Bool :=
  host.ecdsaAsn1 publicKey msg sig || (sig.length == 64 && host.ecdsaFixed publicKey msg sig)

def signedContent (cdBytes : Octets) : Except AttestationError (Octets × Bytes) :=
  match parseCms cdBytes with
  | some ⟨[signature], some content⟩ => .ok (content, signature)
  | _ => .error .certificationDeclarationMalformed

/-- The identifiers of the device's origin are compared if the declaration has both. -/
def declaresIds (parsed : ParsedCd) (expectedVid : VendorId) (expectedPid : ProductId) :
    Except AttestationError Unit :=
  let (vid, pids) := match parsed.dacOriginVendorId, parsed.dacOriginProductId with
    | some originVid, some originPid => (originVid, [originPid])
    | _, _ => (parsed.vendorId, parsed.productIds)
  if vid ≠ expectedVid then .error (.certificationDeclarationVidMismatch vid expectedVid)
  else ensure (expectedPid ∈ pids) (.certificationDeclarationPidMismatch expectedPid)

def verifyCertificationDeclarationWithPaa (cdBytes : Octets) (expectedVid : VendorId)
    (expectedPid : ProductId) (trust : CdSigningRoots) (devicePaaSkid : Option Bytes) :
    Except AttestationError Unit := do
  let (content, signature) ← signedContent parseCms cdBytes
  ensure (trust.publicKeys.any fun key => verifyEcdsaP256Sha256 host key content.bytes signature)
    .certificationDeclarationSignatureInvalid
  let parsed ← parseInnerCdTlv content
  declaresIds parsed expectedVid expectedPid
  ensure (paaIsAuthorized parsed.authorizedPaaList devicePaaSkid)
    .certificationDeclarationPaaNotAuthorized

end Declaration

/-! Paths. -/

/-- What `webpki` reads of certificates, and whether a key verifies a certificate. -/
structure Paths where
  subject : Bytes → Bytes
  issuer : Bytes → Bytes
  spki : Bytes → Bytes
  verifies : (spki der : Bytes) → Bool

namespace Paths

/-- A path of names and signatures from a certificate to an anchor. -/
inductive Leads (p : Paths) (anchors : List TrustAnchor) (intermediates : List Bytes) :
    Bytes → Prop where
  | anchored (member : anchor ∈ anchors) (named : p.issuer der = anchor.subject)
      (signed : p.verifies anchor.subjectPublicKeyInfo der = true) :
      Leads p anchors intermediates der
  | through (member : next ∈ intermediates) (named : p.issuer der = p.subject next)
      (signed : p.verifies (p.spki next) der = true) (onward : Leads p anchors intermediates next) :
      Leads p anchors intermediates der

open Classical in
noncomputable def verifyForUsage (p : Paths) (der : Bytes) (anchors : List TrustAnchor)
    (intermediates : List Bytes) (_time : Nat) : Except WebpkiError Unit :=
  if p.Leads anchors intermediates der then .ok () else .error .unknownIssuer

def Signs (p : Paths) (host : Host) (paa : Paa) (der : Bytes) : Prop :=
  ∃ anchor, host.anchorFromTrustedCert paa.der = some anchor ∧
    p.verifies anchor.subjectPublicKeyInfo der = true

/-- The PAI has signed the DAC, and the root that was checked has signed the PAI. -/
structure Checked (p : Paths) (host : Host) (dac : Dac) (pai : Pai) (trustStore : PaaTrustStore)
    (v : ChainVerification) : Prop where
  dac : p.verifies (p.spki pai.der) dac.der = true
  pai : ∃ paa ∈ trustStore, p.Signs host paa pai.der ∧
    (host.anchorFromTrustedCert paa.der).map TrustAnchor.subject = some v.paaSubject ∧
    paa.subjectKeyIdentifier host = v.paaSkid ∧
    anchoringPaa host trustStore v.paaSubject = some paa ∧
    ∀ vid, paa.subjectVid = some vid → vid = v.vendorId

/-- A root that has issued the DAC does not stand in for the PAI, and of the roots with the
name of the PAI's issuer the first has signed the PAI. -/
structure Straight (p : Paths) (host : Host) (dac : Dac) (pai : Pai) (trustStore : PaaTrustStore) :
    Prop where
  dac : ∀ paa ∈ trustStore, p.Signs host paa dac.der → p.verifies (p.spki pai.der) dac.der = true
  pai : ∀ subject paa, stripSequenceWrapper pai.issuerRaw = some subject →
    anchoringPaa host trustStore subject = some paa → p.Signs host paa pai.der

/-- A declaration that names its roots is accepted only if it names one that has signed the
PAI. -/
def Authorized (p : Paths) (host : Host) (parseCms : Octets → Option SignedData) (pai : Pai)
    (trustStore : PaaTrustStore) (v : ChainVerification) : Prop :=
  ∀ cdBytes vid pid roots content signature parsed entries,
    host.verifyCertificationDeclarationWithPaa cdBytes vid pid roots v.paaSkid = .ok () →
    signedContent parseCms cdBytes = .ok (content, signature) → parseInnerCdTlv content = .ok parsed →
    parsed.authorizedPaaList = some entries →
      ∃ paa ∈ trustStore, p.Signs host paa pai.der ∧
        ∃ entry ∈ entries, paa.subjectKeyIdentifier host = some entry.bytes

variable {p : Paths} {host : Host}

theorem leads_of_verifyForUsage (accepted : p.verifyForUsage der anchors intermediates time = .ok ()) :
    p.Leads anchors intermediates der := by
  unfold verifyForUsage at accepted
  split at accepted
  · assumption
  · cases accepted

theorem exists_paa {trustStore : PaaTrustStore}
    (lifted : trustStore.mapM (paaToTrustAnchor host) = .ok anchors) (member : anchor ∈ anchors) :
    ∃ paa ∈ trustStore, host.anchorFromTrustedCert paa.der = some anchor := by
  have each := forall₂_of_mapM lifted
  clear lifted
  induction each with
  | nil => cases member
  | cons same _ ih =>
    rcases List.mem_cons.mp member with rfl | later
    · exact ⟨_, List.mem_cons_self, orError_ok.mp same⟩
    · obtain ⟨paa, listed, lifts⟩ := ih later
      exact ⟨paa, List.mem_cons_of_mem _ listed, lifts⟩

theorem authorized_entry
    (accepted : verifyCertificationDeclarationWithPaa host parseCms cdBytes vid pid roots skid = .ok ())
    (signed : signedContent parseCms cdBytes = .ok (content, signature))
    (parsed : parseInnerCdTlv content = .ok cd) (listed : cd.authorizedPaaList = some entries) :
    ∃ entry ∈ entries, skid = some entry.bytes := by
  obtain ⟨_, opened, accepted⟩ := of_bind_ok accepted
  obtain rfl := Except.ok.inj (signed.symm.trans opened)
  obtain ⟨_, _, accepted⟩ := of_bind_ok accepted
  obtain ⟨_, read, accepted⟩ := of_bind_ok accepted
  obtain rfl := Except.ok.inj (parsed.symm.trans read)
  obtain ⟨_, _, accepted⟩ := of_bind_ok accepted
  have authorized := ensure_ok.mp accepted
  rw [listed] at authorized
  cases skid with
  | none => cases authorized
  | some skid =>
    simp only [paaIsAuthorized, Option.any_some, List.any_eq_true, decide_eq_true_eq] at authorized
    obtain ⟨entry, member, same⟩ := authorized
    exact ⟨entry, member, congrArg some same.symm⟩

end Paths

theorem anchoring_paa_signed_iff (host : Host) (p : Paths) (parseCms : Octets → Option SignedData)
    (dac : Dac) (pai : Pai) (trustStore : PaaTrustStore) (at_ : MatterTime) (v : ChainVerification)
    (webpki : host.verifyForUsage = p.verifyForUsage)
    (declarations : host.verifyCertificationDeclarationWithPaa =
      verifyCertificationDeclarationWithPaa host parseCms)
    (verified : verifyChain host dac pai trustStore at_ = .ok v) :
    (p.Checked host dac pai trustStore v ∧ p.Authorized host parseCms pai trustStore v) ↔
      p.Straight host dac pai trustStore := by
  obtain ⟨subject, paa, ⟨anchors, lifted, accepted⟩, issuer, anchoring, scope, rfl⟩ :=
    chained_of_verifyChain verified
  constructor
  · rintro ⟨⟨signsDac, other, _, signsPai, _, _, found, _⟩, _⟩
    refine ⟨fun _ _ _ => signsDac, fun subject' paa' issuer' anchoring' => ?_⟩
    obtain rfl := Option.some.inj (issuer.symm.trans issuer')
    obtain rfl := Option.some.inj (found.symm.trans anchoring')
    exact signsPai
  · intro straight
    have signsPai := straight.pai subject paa issuer anchoring
    have listed := List.mem_of_find?_eq_some anchoring
    have named : (host.anchorFromTrustedCert paa.der).map TrustAnchor.subject = some subject := by
      have same := List.find?_some anchoring
      obtain ⟨anchor, held, _⟩ := signsPai
      simpa [held] using same
    have signsDac : p.verifies (p.spki pai.der) dac.der = true := by
      rw [webpki] at accepted
      cases Paths.leads_of_verifyForUsage accepted with
      | anchored member _ signed =>
        obtain ⟨root, stored, lifts⟩ := Paths.exists_paa lifted member
        exact straight.dac root stored ⟨_, lifts, signed⟩
      | through member _ signed _ =>
        obtain rfl := List.mem_singleton.mp member
        exact signed
    refine ⟨⟨signsDac, paa, listed, signsPai, named, rfl, anchoring, scope⟩, ?_⟩
    intro cdBytes vid pid roots content signature parsed entries allowed opened read restricts
    rw [declarations] at allowed
    exact ⟨paa, listed, signsPai, Paths.authorized_entry allowed opened read restricts⟩

/-! Two roots of one name, of which the second has signed the PAI. -/
namespace TestDevice

def rootDer : Bytes := List.replicate 20 0xaa

def paths : Paths where
  subject der := der
  issuer der := if der = dacDer then paiDer else paaSubject
  spki der := der
  verifies spki der := (spki = paiDer ∧ der = dacDer) ∨ (spki = rootDer ∧ der = paiDer)

/-- Every declaration is its own content, signed with the device's key. -/
def openCms (cdBytes : Octets) : Option SignedData := some ⟨[dacSignature.bytes], some cdBytes⟩

/-- The key identifier of a root is its encoding. -/
noncomputable def pathHost : Host :=
  { host with
    parseX509 der := some ⟨[], [], [], some der⟩
    anchorFromTrustedCert der := some ⟨paaSubject, der⟩
    verifyForUsage := paths.verifyForUsage
    verifyCertificationDeclarationWithPaa := verifyCertificationDeclarationWithPaa host openCms }

def dac : Dac := ⟨dacDer, ⟨0xfff1⟩, ⟨0x8000⟩, dacKey⟩
def pai : Pai := ⟨paiDer, ⟨0xfff1⟩, none, [0xd1], 0x30 :: 0x02 :: paaSubject⟩
def signer : Paa := ⟨rootDer, none, []⟩
def rival : Paa := ⟨[0xab], none, []⟩

theorem path_accepted (member : ⟨paaSubject, rootDer⟩ ∈ anchors) (time : Nat) :
    pathHost.verifyForUsage dacDer anchors [paiDer] time = .ok () := by
  apply if_pos
  exact .through List.mem_cons_self (by decide) (by decide) (.anchored member (by decide) (by decide))

theorem signer_verified : verifyChain pathHost dac pai [signer] ⟨0⟩ =
    .ok ⟨⟨0xfff1⟩, ⟨0x8000⟩, dacKey, paaSubject, some rootDer⟩ := by
  have lifted : List.mapM (paaToTrustAnchor pathHost) [signer] = .ok [⟨paaSubject, rootDer⟩] := rfl
  rw [verifyChain, lifted]
  simp only [bind, Except.bind, dac, pai, path_accepted List.mem_cons_self]
  rfl

theorem rival_verified : verifyChain pathHost dac pai [rival, signer] ⟨0⟩ =
    .ok ⟨⟨0xfff1⟩, ⟨0x8000⟩, dacKey, paaSubject, some rival.der⟩ := by
  have lifted : List.mapM (paaToTrustAnchor pathHost) [rival, signer] =
      .ok [⟨paaSubject, rival.der⟩, ⟨paaSubject, rootDer⟩] := rfl
  rw [verifyChain, lifted]
  simp only [bind, Except.bind, dac, pai, path_accepted (List.mem_cons_of_mem _ List.mem_cons_self)]
  rfl

def restricted : Octets :=
  ⟨[0x15, 0x25, 0x01, 0xf1, 0xff, 0x36, 0x02, 0x05, 0x00, 0x80, 0x18, 0x36, 0x0b, 0x10, 0x14] ++
    rootDer ++ [0x18, 0x18], by decide⟩

end TestDevice

open TestDevice in
/-- A declaration that names the signer is accepted for the device. -/
theorem anchoring_paa_signed_iff_signer :
    ∃ v, verifyChain pathHost dac pai [signer] ⟨0⟩ = .ok v ∧
      (parseInnerCdTlv restricted).map ParsedCd.authorizedPaaList = .ok (some [.fill 20 0xaa]) ∧
      pathHost.verifyCertificationDeclarationWithPaa restricted ⟨0xfff1⟩ ⟨0x8000⟩ ⟨[dacKey]⟩
        v.paaSkid = .ok () ∧
      paths.Checked pathHost dac pai [signer] v ∧
        paths.Authorized pathHost openCms pai [signer] v := by
  have straight : paths.Straight pathHost dac pai [signer] := by
    refine ⟨fun _ _ _ => by decide, fun subject paa _ anchoring => ?_⟩
    obtain rfl := List.mem_singleton.mp (List.mem_of_find?_eq_some anchoring)
    exact ⟨_, rfl, by decide⟩
  refine ⟨_, signer_verified, by decide +kernel, ?_, (anchoring_paa_signed_iff pathHost paths
    openCms dac pai [signer] ⟨0⟩ _ rfl rfl signer_verified).mpr straight⟩
  change verifyCertificationDeclarationWithPaa host openCms _ _ _ _ _ = _
  decide +kernel

open TestDevice in
theorem rival_paa_checked :
    ∃ v, verifyChain pathHost dac pai [rival, signer] ⟨0⟩ = .ok v ∧ v.paaSkid = some rival.der ∧
      ¬ (paths.Checked pathHost dac pai [rival, signer] v ∧
        paths.Authorized pathHost openCms pai [rival, signer] v) := by
  refine ⟨_, rival_verified, rfl, fun checked => ?_⟩
  obtain ⟨paa, _, ⟨anchor, held, signed⟩, _, _, found, _⟩ := checked.1.pai
  cases found
  cases held
  exact absurd signed (by decide)

end Matter.Commissioning
