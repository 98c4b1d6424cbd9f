import Matter.Base.Exits
import Matter.Cert.X509

/-! Chain validation. `validate` walks a chain from the leaf to the topmost
intermediate and anchors the last certificate in the trusted roots; it accepts
exactly the valid chains. -/
namespace Matter.Cert
open Codec Exits

/-- Whether a signature over a message verifies under a key. -/
abbrev Verify := PublicKey → Bytes → Signature → Bool

structure TrustAnchor where
  subject : DistinguishedName
  publicKey : PublicKey
  subjectKeyIdentifier : Option KeyIdentifier

def TrustAnchor.fromRootCert (root : MatterCertificate) : TrustAnchor :=
  ⟨root.subject, root.publicKey, root.extensions.subjectKeyIdentifier⟩

abbrev TrustedRoots := List TrustAnchor

def KeyUsage.keyCertSign : KeyUsage := ⟨0x0020⟩

def KeyUsage.contains (usage other : KeyUsage) : Bool := usage.bits &&& other.bits == other.bits

namespace MatterCertificate

def isCa (cert : MatterCertificate) : Bool := cert.extensions.basicConstraints.any (·.isCa)

def hasKeyCertSign (cert : MatterCertificate) : Bool :=
  cert.extensions.keyUsage.any (·.contains .keyCertSign)

def pathLenConstraint (cert : MatterCertificate) : Option UInt8 :=
  cert.extensions.basicConstraints.bind (·.pathLenConstraint)

def verifySignedBy (verify : Verify) (cert : MatterCertificate) (issuerKey : PublicKey) :
    Except Error Unit := do
  let tbs ← cert.toX509TbsDer
  if verify issuerKey tbs cert.signature then return () else throw .signatureVerificationFailed

end MatterCertificate

namespace CertificateChain

/-- `u8::try_from(i).unwrap_or(u8::MAX)`. -/
def saturate (i : Nat) : UInt8 := if i < 256 then UInt8.ofNat i else 255

def checkTime (now : MatterTime) (i : Nat) (cert : MatterCertificate) : Except Error Unit := do
  if now.secs < cert.notBefore.secs then
    throw (.notYetValid (saturate i) cert.notBefore now)
  if cert.notAfter ≠ .noExpiry ∧ cert.notAfter.secs < now.secs then
    throw (.expired (saturate i) cert.notAfter now)

/-- The CA bit and the usage above the leaf, no CA bit at the leaf. -/
def checkRole (i : Nat) (cert : MatterCertificate) : Except Error Unit := do
  if i > 0 then
    if !cert.isCa then throw (.notACa (saturate i))
    if !cert.hasKeyCertSign then throw (.missingKeyCertSign (saturate i))
  else
    if cert.isCa then throw .leafIsCa

def checkPathLength (i : Nat) (cert : MatterCertificate) : Except Error Unit :=
  match cert.pathLenConstraint with
  | some plc =>
    if i > 0 ∧ saturate (i - 1) > plc then .error (.pathLengthExceeded (saturate i)) else .ok ()
  | none => .ok ()

/-- The name and the signature of the next certificate in the chain. -/
def checkLink (verify : Verify) (i : Nat) (cert : MatterCertificate) :
    Option MatterCertificate → Except Error Unit
  | none => .ok ()
  | some next => do
    if cert.issuer ≠ next.subject then throw (.issuerSubjectMismatch (saturate i))
    cert.verifySignedBy verify next.publicKey

def checkCert (verify : Verify) (now : MatterTime) (i : Nat) (cert : MatterCertificate)
    (next : Option MatterCertificate) : Except Error Unit := do
  checkTime now i cert
  checkRole i cert
  checkPathLength i cert
  checkLink verify i cert next

/-- The loop over the chain from its member number `i` on. -/
def walk (verify : Verify) (now : MatterTime) : Nat → List MatterCertificate → Except Error Unit
  | _, [] => .ok ()
  | i, cert :: rest => do
    checkCert verify now i cert rest.head?
    walk verify now (i + 1) rest

/-- Only the anchor's key identifier makes the check strict. -/
def anchors (verify : Verify) (top : MatterCertificate) (tbs : Bytes) (anchor : TrustAnchor) : Bool :=
  top.issuer = anchor.subject &&
    (match anchor.subjectKeyIdentifier with
      | some ski => top.extensions.authorityKeyIdentifier = some ski
      | none => true) &&
    verify anchor.publicKey tbs top.signature

def validate (verify : Verify) (certs : List MatterCertificate) (roots : TrustedRoots)
    (now : MatterTime) : Except Error Unit :=
  match certs.getLast? with
  | none => .error .untrustedRoot
  | some top => do
    walk verify now 0 certs
    let tbs ← top.toX509TbsDer
    if roots.any (anchors verify top tbs) then return () else throw .untrustedRoot

/-! What a valid chain is. -/

/-- Within its validity; without an expiry it never expires. -/
def InTime (now : MatterTime) (cert : MatterCertificate) : Prop :=
  cert.notBefore.secs ≤ now.secs ∧ (cert.notAfter = .noExpiry ∨ now.secs ≤ cert.notAfter.secs)

/-- A CA that may sign, with `below` certificates strictly between it and the leaf. -/
structure Authority (cert : MatterCertificate) (below : Nat) : Prop where
  ca : cert.isCa = true
  signs : cert.hasKeyCertSign = true
  within : ∀ limit, cert.pathLenConstraint = some limit → below ≤ limit.toNat

/-- The signature of a certificate verifies under a key. -/
def SignedBy (verify : Verify) (cert : MatterCertificate) (key : PublicKey) : Prop :=
  ∃ tbs, cert.toX509TbsDer = .ok tbs ∧ verify key tbs cert.signature = true

structure Anchored (verify : Verify) (top : MatterCertificate) (anchor : TrustAnchor) : Prop where
  issuer : top.issuer = anchor.subject
  identifier : anchor.subjectKeyIdentifier = none ∨
    anchor.subjectKeyIdentifier = top.extensions.authorityKeyIdentifier
  signed : SignedBy verify top anchor.publicKey

structure Valid (verify : Verify) (certs : List MatterCertificate) (roots : TrustedRoots)
    (now : MatterTime) : Prop where
  nonempty : certs ≠ []
  inTime : ∀ cert ∈ certs, InTime now cert
  leaf : ∀ leaf, certs[0]? = some leaf → leaf.isCa = false
  authorities : ∀ i cert, certs[i + 1]? = some cert → Authority cert i
  linked : ∀ i cert next, certs[i]? = some cert → certs[i + 1]? = some next →
    cert.issuer = next.subject ∧ SignedBy verify cert next.publicKey
  anchored : ∀ top, certs.getLast? = some top → ∃ anchor ∈ roots, Anchored verify top anchor

/-! Each check against its part of the definition. -/

theorem verifySignedBy_ok : cert.verifySignedBy verify key = .ok () ↔ SignedBy verify cert key := by
  rw [MatterCertificate.verifySignedBy, bind_ok]
  refine exists_congr fun tbs => and_congr_right fun _ => ?_
  by_cases verified : verify key tbs cert.signature = true
  · simp [verified, pure, Except.pure]
  · simp [verified, throw_ne_ok]

theorem checkTime_ok : checkTime now i cert = .ok () ↔ InTime now cert := by
  unfold checkTime InTime
  rw [unless_throw_ok]
  rw [throw_if_ok, not_and_or, not_not, UInt32.not_lt, UInt32.not_lt]

theorem checkRole_zero : checkRole 0 cert = .ok () ↔ cert.isCa = false := by
  cases flag : cert.isCa <;> simp [checkRole, flag, throw_ne_ok, pure, Except.pure]

theorem checkRole_succ :
    checkRole (i + 1) cert = .ok () ↔ cert.isCa = true ∧ cert.hasKeyCertSign = true := by
  cases flag : cert.isCa <;> cases usage : cert.hasKeyCertSign <;>
    simp [checkRole, flag, usage, throw_ne_ok, pure, Except.pure, bind, Except.bind]

theorem checkPathLength_zero (cert : MatterCertificate) : checkPathLength 0 cert = .ok () := by
  unfold checkPathLength
  split <;> rfl

theorem checkPathLength_succ (small : i < 256) :
    checkPathLength (i + 1) cert = .ok () ↔
      ∀ limit, cert.pathLenConstraint = some limit → i ≤ limit.toNat := by
  unfold checkPathLength
  cases cert.pathLenConstraint with
  | none => simp
  | some plc =>
    have kept : (saturate i).toNat = i := by
      rw [saturate, if_pos small, UInt8.toNat_ofNat', Nat.mod_eq_of_lt small]
    have exceeds : saturate i > plc ↔ plc.toNat < i := by
      rw [gt_iff_lt, UInt8.lt_iff_toNat_lt, kept]
    simp only [Nat.add_sub_cancel, exceeds, gt_iff_lt, Nat.succ_pos, true_and]
    by_cases long : plc.toNat < i
    · simp [long]
    · simp [long, Nat.not_lt.mp long]

theorem checkLink_ok :
    checkLink verify i cert (some next) = .ok () ↔
      cert.issuer = next.subject ∧ SignedBy verify cert next.publicKey := by
  unfold checkLink
  rw [unless_throw_ok, not_not, verifySignedBy_ok]

theorem anchors_iff (encoded : top.toX509TbsDer = .ok tbs) :
    anchors verify top tbs anchor = true ↔ Anchored verify top anchor := by
  have signed : SignedBy verify top anchor.publicKey ↔
      verify anchor.publicKey tbs top.signature = true := by
    simp [SignedBy, encoded]
  have identified : (match anchor.subjectKeyIdentifier with
      | some ski => decide (top.extensions.authorityKeyIdentifier = some ski)
      | none => true) = true ↔ anchor.subjectKeyIdentifier = none ∨
        anchor.subjectKeyIdentifier = top.extensions.authorityKeyIdentifier := by
    cases anchor.subjectKeyIdentifier <;> simp [eq_comm]
  rw [anchors, Bool.and_eq_true, Bool.and_eq_true, decide_eq_true_iff, identified, ← signed]
  constructor
  · rintro ⟨⟨issuer, identifier⟩, signed⟩
    exact ⟨issuer, identifier, signed⟩
  · rintro ⟨issuer, identifier, signed⟩
    exact ⟨⟨issuer, identifier⟩, signed⟩

/-- The walk is the check of every certificate with its index and its successor. -/
theorem walk_ok :
    walk verify now i certs = .ok () ↔
      ∀ k cert, certs[k]? = some cert →
        checkCert verify now (i + k) cert certs[k + 1]? = .ok () := by
  induction certs generalizing i with
  | nil => simp [walk]
  | cons first rest ih =>
    rw [walk, bind_ok, List.head?_eq_getElem?]
    constructor
    · rintro ⟨_, passed, onward⟩ k cert here
      cases k with
      | zero =>
        cases here
        exact passed
      | succ k =>
        have later := ih.mp onward k cert here
        rwa [Nat.add_assoc, Nat.add_comm 1] at later
    · intro each
      refine ⟨(), each 0 first rfl, ih.mpr fun k cert here => ?_⟩
      have later := each (k + 1) cert here
      rwa [Nat.add_assoc, Nat.add_comm 1]

theorem checkCert_ok :
    checkCert verify now i cert next = .ok () ↔ checkTime now i cert = .ok () ∧
      checkRole i cert = .ok () ∧ checkPathLength i cert = .ok () ∧
        checkLink verify i cert next = .ok () := by
  simp only [checkCert, bind_ok]
  constructor
  · rintro ⟨_, time, _, role, _, path, link⟩
    exact ⟨time, role, path, link⟩
  · rintro ⟨time, role, path, link⟩
    exact ⟨(), time, (), role, (), path, link⟩

theorem validate_ok :
    validate verify certs roots now = .ok () ↔ ∃ top, certs.getLast? = some top ∧
      walk verify now 0 certs = .ok () ∧ ∃ anchor ∈ roots, Anchored verify top anchor := by
  unfold validate
  cases certs.getLast? with
  | none => simp
  | some top =>
    simp only [bind_ok, Option.some.injEq, exists_eq_left']
    constructor
    · rintro ⟨_, walked, tbs, encoded, accepted⟩
      refine ⟨walked, ?_⟩
      split at accepted
      · rename_i found
        obtain ⟨anchor, listed, holds⟩ := List.any_eq_true.mp found
        exact ⟨anchor, listed, (anchors_iff encoded).mp holds⟩
      · cases accepted
    · rintro ⟨walked, anchor, listed, anchored⟩
      obtain ⟨tbs, encoded, _⟩ := anchored.signed
      refine ⟨(), walked, tbs, encoded, if_pos ?_⟩
      exact List.any_eq_true.mpr ⟨anchor, listed, (anchors_iff encoded).mpr anchored⟩

theorem validate_iff {verify : Verify} {certs : List MatterCertificate} {roots : TrustedRoots}
    {now : MatterTime} (short : certs.length ≤ 256) :
    validate verify certs roots now = .ok () ↔ Valid verify certs roots now := by
  have small : ∀ {i cert}, certs[i + 1]? = some cert → i < 256 := fun here => by
    have bound := (List.getElem?_eq_some_iff.mp here).1
    omega
  rw [validate_ok, walk_ok]
  simp only [Nat.zero_add, checkCert_ok, checkTime_ok]
  constructor
  · rintro ⟨top, last, each, anchored⟩
    constructor
    · rintro rfl
      cases last
    · intro cert listed
      obtain ⟨i, here⟩ := List.mem_iff_getElem?.mp listed
      exact (each i cert here).1
    · intro leaf here
      exact checkRole_zero.mp (each 0 leaf here).2.1
    · intro i cert here
      obtain ⟨_, role, path, _⟩ := each (i + 1) cert here
      obtain ⟨ca, signs⟩ := checkRole_succ.mp role
      exact ⟨ca, signs, (checkPathLength_succ (small here)).mp path⟩
    · intro i cert next here after
      have link := (each i cert here).2.2.2
      rw [after] at link
      exact checkLink_ok.mp link
    · intro other same
      cases last.symm.trans same
      exact anchored
  · intro valid
    obtain ⟨top, last⟩ := Option.isSome_iff_exists.mp (List.getLast?_isSome.mpr valid.nonempty)
    refine ⟨top, last, ?_, valid.anchored top last⟩
    intro i cert here
    have link : checkLink verify i cert certs[i + 1]? = .ok () := by
      cases after : certs[i + 1]? with
      | none => rfl
      | some next => exact checkLink_ok.mpr (valid.linked i cert next here after)
    refine ⟨valid.inTime cert (List.mem_of_getElem? here), ?_⟩
    cases i with
    | zero =>
      exact ⟨checkRole_zero.mpr (valid.leaf cert here), checkPathLength_zero cert, link⟩
    | succ i =>
      obtain ⟨ca, signs, within⟩ := valid.authorities i cert here
      exact ⟨checkRole_succ.mpr ⟨ca, signs⟩, (checkPathLength_succ (small here)).mpr within, link⟩

/-- A leaf under an intermediate that allows no other between them. -/
def sampleLeaf : MatterCertificate where
  serial := ⟨[1], by decide⟩
  issuer := [.icacId 1]
  notBefore := ⟨0⟩
  notAfter := .noExpiry
  subject := [.nodeId 2, .fabricId 3]
  publicKey := ⟨⟨0x04 :: List.replicate 64 0, by decide⟩, rfl⟩
  extensions := { basicConstraints := some ⟨false, none⟩, keyUsage := some .digitalSignature }
  signature := .fill 64 0

def sampleIntermediate : MatterCertificate :=
  { sampleLeaf with
    issuer := [.rcacId 4]
    subject := [.icacId 1]
    extensions := { basicConstraints := some ⟨true, some 0⟩, keyUsage := some .keyCertSign } }

def sampleAnchor : TrustAnchor := ⟨[.rcacId 4], sampleLeaf.publicKey, none⟩

theorem sample_chain_valid :
    Valid (fun _ _ _ => true) [sampleLeaf, sampleIntermediate] [sampleAnchor] ⟨7⟩ :=
  (validate_iff (by decide)).mp (by decide +kernel)

end CertificateChain
end Matter.Cert
