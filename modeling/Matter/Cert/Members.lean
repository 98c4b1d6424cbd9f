import Matter.Cert.FromTlv
import Matter.Codec.Appends
import Matter.Codec.Slots

/-! Certificates as member lists. The parser of a certificate is a fold over the
members of its text, and the writer encodes the members of the certificate. -/
namespace Matter.Cert
open Codec TlvReader Value Exits

/-! What the parsers make of members that are already known. -/

def noContainer {σ : Type} (error : Error) :
    σ → Tag → ContainerKind → List (Tag × Value) → Except Error σ :=
  fun _ _ _ _ => .error error

def nameOf (members : List (Tag × Value)) : Except Error DistinguishedName :=
  foldMembers nameAttribute (noContainer (.wrongFieldType 0)) [] members

def constraintsOf (members : List (Tag × Value)) : Except Error BasicConstraints :=
  foldMembers constraintsScalar (noContainer (.wrongFieldType 1)) ⟨false, none⟩ members

def purposesOf (members : List (Tag × Value)) : Except Error (List UInt32) :=
  foldMembers purposeScalar (noContainer (.wrongFieldType 3)) [] members

def extensionContainer (out : Extensions) (tag : Tag) (kind : ContainerKind)
    (members : List (Tag × Value)) : Except Error Extensions :=
  match tag, kind with
  | .context 1, .struct => do
    ensureFirstSeen 1 out.basicConstraints
    let constraints ← constraintsOf members
    return { out with basicConstraints := some constraints }
  | .context 3, .array => do
    ensureFirstSeen 3 out.extendedKeyUsage
    let purposes ← purposesOf members
    return { out with extendedKeyUsage := some purposes }
  | tag, _ => .error (.wrongFieldType (tagNumber tag))

def extensionsOf (members : List (Tag × Value)) : Except Error Extensions :=
  foldMembers extensionScalar extensionContainer {} members

def certificateContainer (fields : CertificateFields) (tag : Tag) (kind : ContainerKind)
    (members : List (Tag × Value)) : Except Error CertificateFields := do
  match ← listField fields tag kind with
  | .issuer => return { fields with issuer := some (← nameOf members) }
  | .subject => return { fields with subject := some (← nameOf members) }
  | .extensions => return { fields with extensions := some (← extensionsOf members) }

def certificateOf (members : List (Tag × Value)) : Except Error MatterCertificate := do
  let fields ← foldMembers certificateScalar certificateContainer {} members
  fields.certificate

section Parsers

theorem handles_scalars (scalars : ∀ state tag value,
      member state (.scalar tag value) = MonadExcept.ofExcept (scalar state tag value))
    (containers : ∀ state tag kind, member state (.containerStart tag kind) = throw error) :
    Handles member scalar (noContainer error) d where
  scalar state tag value := by
    rw [scalars]
    exact .except _ d
  container state tag kind members _ := by
    rw [containers]
    exact .throw error _ _ _

section
variable (members : List (Tag × Value))

theorem denotes_readName :
    Denotes readName 2 (encodeMembers members ++ [ElementType.endOfContainer.code])
      (nameOf (beforeIs1Members members)) 1 :=
  denotes_forEachMember (handles_scalars (fun _ _ _ => rfl) fun _ _ _ => rfl) (by decide)
    (by decide) members []

theorem denotes_readConstraints :
    Denotes readConstraints 3 (encodeMembers members ++ [ElementType.endOfContainer.code])
      (constraintsOf (beforeIs1Members members)) 2 :=
  denotes_forEachMember (handles_scalars (fun _ _ _ => rfl) fun _ _ _ => rfl) (by decide)
    (by decide) members _

theorem denotes_readUintArray :
    Denotes readUintArray 3 (encodeMembers members ++ [ElementType.endOfContainer.code])
      (purposesOf (beforeIs1Members members)) 2 :=
  denotes_forEachMember (handles_scalars (fun _ _ _ => rfl) fun _ _ _ => rfl) (by decide)
    (by decide) members []

end

theorem handles_extensions : Handles extensionMember extensionScalar extensionContainer 2 where
  scalar _ tag value := .except _ 2
  container out tag kind members _ := by
    by_cases isConstraints : tag = .context 1 ∧ kind = .struct
    · obtain ⟨rfl, rfl⟩ := isConstraints
      refine .bind_except fun _ _ => ?_
      exact (denotes_readConstraints members).bind_pure _
    · by_cases isPurposes : tag = .context 3 ∧ kind = .array
      · obtain ⟨rfl, rfl⟩ := isPurposes
        refine .bind_except fun _ _ => ?_
        exact (denotes_readUintArray members).bind_pure _
      · have member : extensionMember out (.containerStart tag kind) =
            throw (.wrongFieldType (tagNumber tag)) := by
          unfold extensionMember
          split <;> simp_all
        have container : extensionContainer out tag kind (beforeIs1Members members) =
            .error (.wrongFieldType (tagNumber tag)) := by
          unfold extensionContainer
          split <;> simp_all
        rw [member, container]
        exact .throw _ _ _ _

theorem denotes_readExtensions (members : List (Tag × Value)) :
    Denotes readExtensions 2 (encodeMembers members ++ [ElementType.endOfContainer.code])
      (extensionsOf (beforeIs1Members members)) 1 :=
  denotes_forEachMember handles_extensions (by decide) (by decide) members {}

theorem handles_certificate :
    Handles certificateMember certificateScalar certificateContainer 1 where
  scalar _ tag value := .except _ 1
  container fields tag kind members _ := by
    refine .bind_except fun field _ => ?_
    cases field with
    | issuer | subject => exact (denotes_readName members).bind_pure _
    | extensions => exact (denotes_readExtensions members).bind_pure _

theorem denotes_readCertificate (members : List (Tag × Value)) :
    Denotes readCertificate 0 ((struct members).encode .anonymous)
      (certificateOf (beforeIs1Members members)) 0 := by
  rw [readCertificate, expectStruct, bind_assoc, encode, enclose, List.append_assoc]
  refine denotes_start (by decide) ?_
  exact (denotes_forEachMember handles_certificate (by decide) (by decide) members {}).bind_check _

theorem fromTlv_encode (here : text.bytes = (struct members).encode .anonymous ++ tail) :
    MatterCertificate.fromTlv text = certificateOf (beforeIs1Members members) := by
  have ended := denotes_readCertificate members (new text) tail (inBounds_new text) rfl here
  rw [MatterCertificate.fromTlv, parseWhole]
  generalize readCertificate.run (new text) = result at ended ⊢
  generalize certificateOf (beforeIs1Members members) = verdict at ended ⊢
  cases ended <;> rfl

end Parsers

/-! The members of a certificate. -/

namespace DnAttribute

/-- The attributes of attestation certificates have no TLV form. -/
def Encodable : DnAttribute → Prop
  | .vendorId _ => False
  | .productId _ => False
  | _ => True

def member : DnAttribute → Tag × ValueRef
  | .commonName text => (.context 1, .utf8 text)
  | .surname text => (.context 2, .utf8 text)
  | .serialNumber text => (.context 3, .utf8 text)
  | .countryName text => (.context 4, .utf8 text)
  | .localityName text => (.context 5, .utf8 text)
  | .stateOrProvinceName text => (.context 6, .utf8 text)
  | .organizationName text => (.context 7, .utf8 text)
  | .organizationalUnitName text => (.context 8, .utf8 text)
  | .title text => (.context 9, .utf8 text)
  | .name text => (.context 10, .utf8 text)
  | .givenName text => (.context 11, .utf8 text)
  | .initials text => (.context 12, .utf8 text)
  | .generationQualifier text => (.context 13, .utf8 text)
  | .dnQualifier text => (.context 14, .utf8 text)
  | .pseudonym text => (.context 15, .utf8 text)
  | .domainComponent text => (.context 16, .utf8 text)
  | .nodeId id => (.context 17, .uint id)
  | .icacId id => (.context 19, .uint id)
  | .rcacId id => (.context 20, .uint id)
  | .fabricId id => (.context 21, .uint id)
  | .caseAuthenticatedTag tag => (.context 22, .uint tag.toUInt64)
  | .vendorId _ => (.anonymous, .null)
  | .productId _ => (.anonymous, .null)
  | .other tag (.utf8 text) => (.context tag, .utf8 text)
  | .other tag (.uint n) => (.context tag, .uint n)
  | .other tag (.bytes octets) => (.context tag, .bytes octets)

end DnAttribute

namespace DistinguishedName

def Encodable (name : DistinguishedName) : Prop := ∀ attr ∈ name, attr.Encodable

def members (name : DistinguishedName) : List (Tag × Value) :=
  name.map fun attr => (attr.member.1, ofRef attr.member.2)

end DistinguishedName

namespace BasicConstraints

def slots (constraints : BasicConstraints) : List (UInt8 × Option Value) := [
  (1, some (bool constraints.isCa)),
  (2, constraints.pathLenConstraint.map fun length => uint length.toUInt64)]

def members (constraints : BasicConstraints) : List (Tag × Value) := arranged constraints.slots

end BasicConstraints

def purposes (usage : List UInt32) : List Value := usage.map fun purpose => uint purpose.toUInt64

def Block.octets {n : Nat} (block : Block n) (small : n < allocLimit) : Octets :=
  ⟨block.bytes, block.size.symm ▸ small⟩

namespace Extensions

def slots (extensions : Extensions) : List (UInt8 × Option Value) := [
  (1, extensions.basicConstraints.map fun constraints => struct constraints.members),
  (2, extensions.keyUsage.map fun usage => uint usage.bits.toUInt64),
  (3, extensions.extendedKeyUsage.map fun usage => array (purposes usage)),
  (4, extensions.subjectKeyIdentifier.map fun id => bytes (id.octets (by decide))),
  (5, extensions.authorityKeyIdentifier.map fun id => bytes (id.octets (by decide)))]

def members (extensions : Extensions) : List (Tag × Value) := arranged extensions.slots

end Extensions

namespace CertificateFields

def algorithm (seen : Bool) : Option Value := if seen then some (uint 1) else none

def slots (fields : CertificateFields) : List (UInt8 × Option Value) := [
  (1, fields.serial.map bytes),
  (2, algorithm fields.sigAlgSeen),
  (3, fields.issuer.map fun name => list name.members),
  (4, fields.notBefore.map fun time => uint time.secs.toUInt64),
  (5, fields.notAfter.map fun time => uint time.secs.toUInt64),
  (6, fields.subject.map fun name => list name.members),
  (7, algorithm fields.pubkeyAlgSeen),
  (8, algorithm fields.ecCurveSeen),
  (9, fields.publicKey.map fun key => bytes (key.block.octets (by decide))),
  (10, fields.extensions.map fun extensions => list extensions.members),
  (11, fields.signature.map fun signature => bytes (signature.octets (by decide)))]

end CertificateFields

namespace MatterCertificate

/-- The locals of `from_tlv` with every field in place. -/
def fields (cert : MatterCertificate) : CertificateFields where
  serial := some cert.serial
  sigAlgSeen := true
  issuer := some cert.issuer
  notBefore := some cert.notBefore
  notAfter := some cert.notAfter
  subject := some cert.subject
  pubkeyAlgSeen := true
  ecCurveSeen := true
  publicKey := some cert.publicKey
  extensions := some cert.extensions
  signature := some cert.signature

def members (cert : MatterCertificate) : List (Tag × Value) := arranged cert.fields.slots

def Encodable (cert : MatterCertificate) : Prop := cert.issuer.Encodable ∧ cert.subject.Encodable

end MatterCertificate

/-! The writer encodes the members. -/

section Writer
open TlvWriter

theorem appends_put {bytes : Bytes} (appends : Appends m bytes) : Appends (put m) bytes := by
  intro out
  change put m out = _
  rw [put, appends out]

theorem appends_putBlock (tag : Tag) (block : Block n) (small : n < allocLimit) :
    Appends (putBlock tag block) ((bytes (block.octets small)).encode tag) :=
  appends_putBytes tag (block.octets small)

theorem encodeAttribute_iff (attr : DnAttribute) :
    AppendsIff (encodeAttribute attr) attr.Encodable (attr.member.2.encode attr.member.1) := by
  cases attr with
  | nodeId id | icacId id | rcacId id | fabricId id | caseAuthenticatedTag id =>
    exact .of_appends (appends_put (appends_putUint _ _))
  | vendorId id | productId id => exact .throw _ _
  | other tag value =>
    cases value with
    | utf8 text => exact .of_appends (appends_put (appends_putUtf8 _ _))
    | uint n => exact .of_appends (appends_put (appends_putUint _ _))
    | bytes octets => exact .of_appends (appends_put (appends_putBytes _ _))
  | _ => exact .of_appends (appends_put (appends_putUtf8 _ _))

theorem encodeMembers_eq (members : List (Tag × Value)) :
    encodeMembers members = (members.map fun member => member.2.encode member.1).flatten := by
  induction members with
  | nil => rfl
  | cons member rest ih => simp [encodeMembers, ih]

theorem writeDistinguishedName_iff (tag : Tag) (name : DistinguishedName) :
    AppendsIff (writeDistinguishedName tag name) name.Encodable
      ((list name.members).encode tag) := by
  refine .congr (.bind (.of_appends (appends_put (appends_start tag .list))) <|
    .bind (.forM encodeAttribute_iff) <| .of_appends (appends_put appends_end)) ?_ ?_
  · simp [DistinguishedName.Encodable]
  · simp [encode, enclose, encodeMembers_eq, DistinguishedName.members, encode_ofRef,
      Function.comp_def]

theorem appends_writeBody (constraints : BasicConstraints) (tag : Tag) :
    Appends (constraints.writeBody tag) ((struct constraints.members).encode tag) := by
  obtain ⟨isCa, pathLen⟩ := constraints
  cases pathLen with
  | none =>
    refine .congr (.bind (appends_put (appends_start tag .struct)) <|
      .bind (appends_put (appends_putBool _ isCa)) <| appends_put appends_end) ?_
    simp [encode, enclose, BasicConstraints.members, BasicConstraints.slots, arranged, encodeMembers]
  | some length =>
    refine .congr (.bind (appends_put (appends_start tag .struct)) <|
      .bind (appends_put (appends_putBool _ isCa)) <|
      .bind (appends_put (appends_putUint _ length.toUInt64)) (appends_put appends_end)) ?_
    simp [encode, enclose, BasicConstraints.members, BasicConstraints.slots, arranged, encodeMembers]

theorem appends_writeExtendedKeyUsage (usage : List UInt32) :
    Appends (writeExtendedKeyUsage usage) ((array (purposes usage)).encode (.context 3)) := by
  refine .congr (.bind (appends_put (appends_start _ .array)) <|
    .bind (.forM fun purpose _ => appends_put (appends_putUint .anonymous purpose.toUInt64))
    (appends_put appends_end)) ?_
  simp [encode, enclose, encodeElements_eq, untagged, encodeMembers_eq, purposes,
    Function.comp_def]

theorem appends_writeExtensions (extensions : Extensions) (tag : Tag) :
    Appends (extensions.write tag) ((list extensions.members).encode tag) := by
  refine .congr (.bind (appends_put (appends_start tag .list)) <|
    .bind (.option _ fun constraints => appends_writeBody constraints _) <|
    .bind (.option _ fun usage => appends_put (appends_putUint _ usage.bits.toUInt64)) <|
    .bind (.option _ appends_writeExtendedKeyUsage) <|
    .bind (.option _ fun id => appends_put (appends_putBlock _ id (by decide))) <|
    .bind (.option _ fun id => appends_put (appends_putBlock _ id (by decide)))
      (appends_put appends_end)) ?_
  rw [encode, enclose, Extensions.members, Extensions.slots]
  simp [encodeMembers_arranged_cons, Option.map_map, Function.comp_def, encode, encodeMembers]

theorem write_iff (cert : MatterCertificate) :
    AppendsIff cert.write cert.Encodable ((struct cert.members).encode .anonymous) := by
  refine .congr (.bind (.of_appends (appends_put (appends_start .anonymous .struct))) <|
    .bind (.of_appends (appends_put (appends_putBytes _ cert.serial))) <|
    .bind (.of_appends (appends_put (appends_putUint _ 1))) <|
    .bind (writeDistinguishedName_iff _ cert.issuer) <|
    .bind (.of_appends (appends_put (appends_putUint _ cert.notBefore.secs.toUInt64))) <|
    .bind (.of_appends (appends_put (appends_putUint _ cert.notAfter.secs.toUInt64))) <|
    .bind (writeDistinguishedName_iff _ cert.subject) <|
    .bind (.of_appends (appends_put (appends_putUint _ 1))) <|
    .bind (.of_appends (appends_put (appends_putUint _ 1))) <|
    .bind (.of_appends (appends_put (appends_putBlock _ cert.publicKey.block (by decide)))) <|
    .bind (.of_appends (appends_writeExtensions cert.extensions _)) <|
    .bind (.of_appends (appends_put (appends_putBlock _ cert.signature (by decide))))
      (.of_appends (appends_put appends_end))) ?_ ?_
  · simp [MatterCertificate.Encodable]
  · simp [encode, enclose, MatterCertificate.members, MatterCertificate.fields,
      CertificateFields.slots, CertificateFields.algorithm, arranged, encodeMembers]

theorem toTlv_iff {cert : MatterCertificate} :
    cert.toTlv = .ok text ↔ cert.Encodable ∧ text = (struct cert.members).encode .anonymous := by
  refine Iff.trans ?_ (write_iff cert [] text)
  rw [MatterCertificate.toTlv]
  cases cert.write.run [] <;> simp

end Writer

end Matter.Cert
