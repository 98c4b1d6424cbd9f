import Matter.Base.Exits
import Matter.Cert.X509

/-! The ASN.1 values behind the octets a certificate's signature covers. The
octets are the encoding of a value tree that is built from the part of the
certificate the conversion keeps. -/
namespace Matter.Cert
open Codec Asn1 Digits Exits

/-! Names. -/

namespace DnAttribute

/-- The type of an attribute that has one. -/
def oid? : DnAttribute → Option Oid
  | .nodeId _ => some .matterNodeId
  | .fabricId _ => some .matterFabricId
  | .rcacId _ => some .matterRcacId
  | .icacId _ => some .matterIcacId
  | .caseAuthenticatedTag _ => some .matterNocCat
  | .vendorId _ => some .matterVendorId
  | .productId _ => some .matterProductId
  | .commonName _ => some .x520CommonName
  | .surname _ => some .x520Surname
  | .serialNumber _ => some .x520SerialNumber
  | .countryName _ => some .x520CountryName
  | .localityName _ => some .x520LocalityName
  | .stateOrProvinceName _ => some .x520StateOrProvince
  | .organizationName _ => some .x520Org
  | .organizationalUnitName _ => some .x520OrgUnit
  | .title _ => some .x520Title
  | .name _ => some .x520Name
  | .givenName _ => some .x520GivenName
  | .initials _ => some .x520Initials
  | .generationQualifier _ => some .x520GenerationQualifier
  | .dnQualifier _ => some .x520DnQualifier
  | .pseudonym _ => some .x520Pseudonym
  | .domainComponent _ => some .domainComponent
  | .other _ _ => none

/-- The value of an attribute: a text, or a number. -/
def content : DnAttribute → Text ⊕ Nat
  | .nodeId v | .fabricId v | .rcacId v | .icacId v => .inr v.toNat
  | .caseAuthenticatedTag v => .inr v.toNat
  | .vendorId v | .productId v => .inr v.toNat
  | .commonName s | .surname s | .serialNumber s | .countryName s | .localityName s
  | .stateOrProvinceName s | .organizationName s | .organizationalUnitName s | .title s | .name s
  | .givenName s | .initials s | .generationQualifier s | .dnQualifier s | .pseudonym s
  | .domainComponent s => .inl s
  | .other _ (.utf8 s) => .inl s
  | .other _ (.uint n) => .inr n.toNat
  | .other _ (.bytes _) => .inr 0

/-- The hexadecimal digits of the types whose value is a number. -/
def width? (oid : Oid) : Option Nat :=
  if oid ∈ [Oid.matterNodeId, .matterFabricId, .matterRcacId, .matterIcacId] then some 16
  else if oid = .matterNocCat then some 8
  else if oid ∈ [Oid.matterVendorId, .matterProductId] then some 4
  else none

def texts : List (Oid × (Text → DnAttribute)) := [
  (.x520CommonName, .commonName), (.x520Surname, .surname), (.x520SerialNumber, .serialNumber),
  (.x520CountryName, .countryName), (.x520LocalityName, .localityName),
  (.x520StateOrProvince, .stateOrProvinceName), (.x520Org, .organizationName),
  (.x520OrgUnit, .organizationalUnitName), (.x520Title, .title), (.x520Name, .name),
  (.x520GivenName, .givenName), (.x520Initials, .initials),
  (.x520GenerationQualifier, .generationQualifier), (.x520DnQualifier, .dnQualifier),
  (.x520Pseudonym, .pseudonym), (.domainComponent, .domainComponent)]

def numbers : List (Oid × (Nat → DnAttribute)) := [
  (.matterNodeId, fun n => .nodeId (.ofNat n)), (.matterFabricId, fun n => .fabricId (.ofNat n)),
  (.matterRcacId, fun n => .rcacId (.ofNat n)), (.matterIcacId, fun n => .icacId (.ofNat n)),
  (.matterNocCat, fun n => .caseAuthenticatedTag (.ofNat n)),
  (.matterVendorId, fun n => .vendorId (.ofNat n)),
  (.matterProductId, fun n => .productId (.ofNat n))]

def rebuild (oid : Oid) : Text ⊕ Nat → Option DnAttribute
  | .inl text => (texts.lookup oid).map (· text)
  | .inr n => (numbers.lookup oid).map (· n)

theorem rebuild_oid (typed : attr.oid? = some oid) : rebuild oid attr.content = some attr := by
  cases attr with
  | nodeId v =>
    cases typed
    exact congrArg (some <| nodeId ·) UInt64.ofNat_toNat
  | fabricId v =>
    cases typed
    exact congrArg (some <| fabricId ·) UInt64.ofNat_toNat
  | rcacId v =>
    cases typed
    exact congrArg (some <| rcacId ·) UInt64.ofNat_toNat
  | icacId v =>
    cases typed
    exact congrArg (some <| icacId ·) UInt64.ofNat_toNat
  | caseAuthenticatedTag v =>
    cases typed
    exact congrArg (some <| caseAuthenticatedTag ·) UInt32.ofNat_toNat
  | vendorId v =>
    cases typed
    exact congrArg (some <| vendorId ·) UInt16.ofNat_toNat
  | productId v =>
    cases typed
    exact congrArg (some <| productId ·) UInt16.ofNat_toNat
  | other => cases typed
  | _ =>
    cases typed
    rfl

/-- The octets an attribute of a type is shown as. -/
def Shown (oid : Oid) (value : Bytes) : Text ⊕ Nat → Prop
  | .inl text => width? oid = none ∧ value = text.bytes
  | .inr n => ∃ width, width? oid = some width ∧ n < 16 ^ width ∧ value = numeral 16 width n

theorem Shown.unique (first : Shown oid value c) (second : Shown oid value c') : c = c' := by
  cases c with
  | inl text =>
    cases c' with
    | inl text' => rw [Text.bytes_inj (first.2.symm.trans second.2)]
    | inr n =>
      obtain ⟨_, numeric, _⟩ := second
      cases first.1.symm.trans numeric
  | inr n =>
    obtain ⟨width, numeric, fits, shown⟩ := first
    cases c' with
    | inl text => cases second.1.symm.trans numeric
    | inr m =>
      obtain ⟨width', numeric', fits', shown'⟩ := second
      cases numeric.symm.trans numeric'
      rw [numeral_inj (by decide) (by decide) fits fits' (shown.symm.trans shown')]

theorem shown_of_parts (parts : attributeParts attr = .ok (oid, type, value)) :
    attr.oid? = some oid ∧ Shown oid value attr.content := by
  cases attr with
  | nodeId v | fabricId v | rcacId v | icacId v =>
    cases parts
    exact ⟨rfl, 16, by decide, v.toNat_lt, rfl⟩
  | caseAuthenticatedTag v =>
    cases parts
    exact ⟨rfl, 8, by decide, v.toNat_lt, rfl⟩
  | vendorId v | productId v =>
    cases parts
    exact ⟨rfl, 4, by decide, v.toNat_lt, rfl⟩
  | serialNumber s | dnQualifier s | domainComponent s =>
    obtain ⟨_, _, done⟩ := of_bind_ok parts
    cases done
    exact ⟨rfl, by decide, rfl⟩
  | countryName s =>
    obtain ⟨_, _, parts⟩ := of_bind_ok parts
    obtain ⟨_, done⟩ := unless_throw_ok.mp parts
    cases done
    exact ⟨rfl, by decide, rfl⟩
  | other => cases parts
  | _ =>
    cases parts
    exact ⟨rfl, by decide, rfl⟩

theorem attributeParts_inj {attr other : DnAttribute} (first : attributeParts attr = .ok parts)
    (second : attributeParts other = .ok parts) : attr = other := by
  obtain ⟨typed, shown⟩ := shown_of_parts first
  obtain ⟨typed', shown'⟩ := shown_of_parts second
  have rebuilt := rebuild_oid typed
  rw [shown.unique shown', rebuild_oid typed'] at rebuilt
  exact (Option.some.inj rebuilt).symm

end DnAttribute

theorem mapM_attributeParts_inj {name other : DistinguishedName}
    (first : name.mapM attributeParts = .ok parts)
    (second : other.mapM attributeParts = .ok parts) : name = other := by
  induction name generalizing other parts with
  | nil =>
    cases first
    cases other with
    | nil => rfl
    | cons attr rest =>
      rw [List.mapM_cons] at second
      obtain ⟨_, _, second⟩ := of_bind_ok second
      obtain ⟨_, _, done⟩ := of_bind_ok second
      cases done
  | cons attr rest ih =>
    rw [List.mapM_cons] at first
    obtain ⟨part, ofAttr, first⟩ := of_bind_ok first
    obtain ⟨others, ofRest, rfl⟩ := of_bind_pure first
    cases other with
    | nil => cases second
    | cons attr' rest' =>
      rw [List.mapM_cons] at second
      obtain ⟨part', ofAttr', second⟩ := of_bind_ok second
      obtain ⟨others', ofRest', done⟩ := of_bind_ok second
      cases done
      rw [DnAttribute.attributeParts_inj ofAttr ofAttr', ih ofRest ofRest']

/-! The trees behind the octets. -/

open Der

def knownOids : List Oid := [
  .matterNodeId, .matterIcacId, .matterRcacId, .matterFabricId, .matterNocCat, .matterVendorId,
  .matterProductId, .x520CommonName, .x520Surname, .x520SerialNumber, .x520CountryName,
  .x520LocalityName, .x520StateOrProvince, .x520Org, .x520OrgUnit, .x520Title, .x520Name,
  .x520GivenName, .x520Initials, .x520GenerationQualifier, .x520DnQualifier, .x520Pseudonym,
  .domainComponent, .extBasicConstraints, .extKeyUsage, .extExtendedKeyUsage,
  .extSubjectKeyIdentifier, .extAuthorityKeyIdentifier, .kpServerAuth, .kpClientAuth,
  .kpCodeSigning, .kpEmailProtection, .kpTimeStamping, .kpOcspSigning]

theorem oidContent_inj : ∀ oid ∈ knownOids, ∀ other ∈ knownOids,
    oidContent oid = oidContent other → oid = other := by
  decide +kernel

def oidTree (oid : Oid) : Der := primitive 0x06 (by decide) (oidContent oid)

def sequence (elements : List Der) : Der := constructed 0x30 (by decide) elements

def attributeTree : Oid × StringType × Bytes → Der
  | (oid, type, value) => constructed 0x31 (by decide)
    [sequence [oidTree oid, primitive type.tag (by cases type <;> decide) value]]

def nameTree (parts : List (Oid × StringType × Bytes)) : Der := sequence (parts.map attributeTree)

theorem timeParts_simple (t : MatterTime) (isNotAfter : Bool) :
    (timeParts t isNotAfter).1 &&& 0x20 = 0 := by
  unfold timeParts
  split
  · exact (by decide : (0x18 : UInt8) &&& 0x20 = 0)
  · split
    · exact (by decide : (0x17 : UInt8) &&& 0x20 = 0)
    · exact (by decide : (0x18 : UInt8) &&& 0x20 = 0)

def timeTree (t : MatterTime) (isNotAfter : Bool) : Der :=
  primitive (timeParts t isNotAfter).1 (timeParts_simple t isNotAfter) (timeParts t isNotAfter).2

/-- An extension: its type, whether it is critical and its value. -/
structure Extension where
  oid : Oid
  critical : Bool
  value : Bytes

def Extension.tree (extension : Extension) : Der :=
  sequence ([oidTree extension.oid] ++
    (if extension.critical then [primitive 0x01 (by decide) [0xff]] else []) ++
    [primitive 0x04 (by decide) extension.value])

def constraintsTree (constraints : BasicConstraints) : Der :=
  sequence (if constraints.isCa then primitive 0x01 (by decide) [0xff] ::
    constraints.pathLenConstraint.toList.map (fun length => primitive 0x02 (by decide) [length])
  else [])

def keyUsageTree (usage : KeyUsage) : Der := primitive 0x03 (by decide) (bitStringContent usage)

def purposesTree (purposes : List Oid) : Der := sequence (purposes.map oidTree)

def subjectKeyTree (id : KeyIdentifier) : Der := primitive 0x04 (by decide) id.bytes

def authorityKeyTree (id : KeyIdentifier) : Der :=
  sequence [primitive 0x80 (by decide) id.bytes]

/-- The part of a certificate that its signature covers. -/
@[ext] structure Signed where
  serial : Bytes
  issuer : DistinguishedName
  notBefore : MatterTime
  notAfter : MatterTime
  subject : DistinguishedName
  publicKey : PublicKey
  basicConstraints : Option BasicConstraints
  keyUsage : Option KeyUsage
  purposes : Option (List Oid)
  subjectKeyIdentifier : Option KeyIdentifier
  authorityKeyIdentifier : Option KeyIdentifier
  deriving DecidableEq

/-- The path length only counts for a CA. -/
def BasicConstraints.signed (constraints : BasicConstraints) : BasicConstraints :=
  if constraints.isCa then constraints else ⟨false, none⟩

def MatterCertificate.signed (cert : MatterCertificate) : Signed where
  serial := integerOctets cert.serial.bytes
  issuer := cert.issuer
  notBefore := cert.notBefore
  notAfter := cert.notAfter
  subject := cert.subject
  publicKey := cert.publicKey
  basicConstraints := cert.extensions.basicConstraints.map (·.signed)
  keyUsage := cert.extensions.keyUsage
  purposes := cert.extensions.extendedKeyUsage.map (·.filterMap purposeOid?)
  subjectKeyIdentifier := cert.extensions.subjectKeyIdentifier
  authorityKeyIdentifier := cert.extensions.authorityKeyIdentifier

namespace Signed

/-- The extension of each type, if it is there. -/
def slots (signed : Signed) : List (Oid × Option (Bool × Bytes)) := [
  (.extBasicConstraints, signed.basicConstraints.map fun c => (true, (constraintsTree c).encode)),
  (.extKeyUsage, signed.keyUsage.map fun usage => (true, (keyUsageTree usage).encode)),
  (.extExtendedKeyUsage, signed.purposes.map fun oids => (true, (purposesTree oids).encode)),
  (.extSubjectKeyIdentifier,
    signed.subjectKeyIdentifier.map fun id => (false, (subjectKeyTree id).encode)),
  (.extAuthorityKeyIdentifier,
    signed.authorityKeyIdentifier.map fun id => (false, (authorityKeyTree id).encode))]

def present (slots : List (Oid × Option (Bool × Bytes))) : List Extension :=
  slots.filterMap fun (oid, slot) => slot.map fun (critical, value) => ⟨oid, critical, value⟩

def extensions (signed : Signed) : List Extension := present signed.slots

def extensionsTree (signed : Signed) : Der :=
  constructed 0xa3 (by decide) [sequence (signed.extensions.map Extension.tree)]

def publicKeyTree (key : PublicKey) : Der :=
  sequence [sequence [oidTree .ecPublicKey, oidTree .ecCurveP256],
    primitive 0x03 (by decide) (0x00 :: key.bytes)]

def tree (signed : Signed) (issuer subject : List (Oid × StringType × Bytes)) : Der :=
  sequence [
    constructed 0xa0 (by decide) [primitive 0x02 (by decide) [0x02]],
    primitive 0x02 (by decide) signed.serial,
    sequence [oidTree .ecdsaWithSha256],
    nameTree issuer,
    sequence [timeTree signed.notBefore false, timeTree signed.notAfter true],
    nameTree subject,
    publicKeyTree signed.publicKey,
    signed.extensionsTree]

end Signed

/-! The octets are those of the tree. -/

theorem encode_oidTree (oid : Oid) : (oidTree oid).encode = encodeOid oid := by
  rw [oidTree, encode, encodeOid]

theorem encode_sequence (elements : List Der) :
    (sequence elements).encode = wrapSequence (encodeAll elements) := by
  rw [sequence, encode, wrapSequence]

theorem encode_timeTree (t : MatterTime) (isNotAfter : Bool) :
    (timeTree t isNotAfter).encode = encodeOneTime t isNotAfter := by
  rw [timeTree, encode, encodeOneTime]

theorem encode_attributeTree (ofAttr : attributeParts attr = .ok parts) :
    (do return wrapSet (← encodeDnAttribute attr) : Except Error Bytes) =
      .ok (attributeTree parts).encode := by
  obtain ⟨oid, type, value⟩ := parts
  have encoded : encodeDnAttribute attr =
      .ok (wrapSequence (encodeOid oid ++ wrapTagged type.tag value)) := by
    rw [encodeDnAttribute, ofAttr]
    rfl
  rw [encoded, attributeTree, encode, encodeAll, encodeAll, encode_sequence, encodeAll, encodeAll,
    encodeAll, encode_oidTree, encode, List.append_nil, List.append_nil]
  rfl

theorem mapM_attributes {name : DistinguishedName}
    (encoded : (name.mapM fun attr => do return wrapSet (← encodeDnAttribute attr)) = .ok octets) :
    ∃ parts, name.mapM attributeParts = .ok parts ∧
      octets.flatten = encodeAll (parts.map attributeTree) := by
  induction name generalizing octets with
  | nil =>
    cases encoded
    exact ⟨[], rfl, by simp [encodeAll]⟩
  | cons attr rest ih =>
    rw [List.mapM_cons] at encoded
    obtain ⟨first, ofAttr, encoded⟩ := of_bind_ok encoded
    obtain ⟨others, ofRest, rfl⟩ := of_bind_pure encoded
    obtain ⟨restParts, mapped, same⟩ := ih ofRest
    obtain ⟨_, ofInner, _⟩ := of_bind_ok ofAttr
    obtain ⟨parts, ofParts, _⟩ := of_bind_ok ofInner
    refine ⟨parts :: restParts, ?_, ?_⟩
    · rw [List.mapM_cons, ofParts, mapped]
      rfl
    · rw [encode_attributeTree ofParts] at ofAttr
      cases ofAttr
      rw [List.flatten_cons, List.map_cons, encodeAll, same]

theorem encodeDn_ok {name : DistinguishedName} (encoded : encodeDn name = .ok octets) :
    ∃ parts, name.mapM attributeParts = .ok parts ∧ octets = (nameTree parts).encode := by
  obtain ⟨names, mapped, rfl⟩ := of_bind_pure encoded
  obtain ⟨parts, ofParts, same⟩ := mapM_attributes mapped
  exact ⟨parts, ofParts, by rw [nameTree, encode_sequence, same]⟩

theorem encode_extension (oid : Oid) (critical : Bool) (value : Bytes) :
    (Extension.tree ⟨oid, critical, value⟩).encode = encodeExtension oid critical value := by
  cases critical with
  | false => simp [Extension.tree, encode_sequence, encodeAll, encode_oidTree, encode, encodeExtension]
  | true =>
    simp [Extension.tree, encode_sequence, encodeAll, encode_oidTree, encode, encodeExtension]
    rfl

theorem encode_constraintsTree (constraints : BasicConstraints) :
    encodeExtension .extBasicConstraints true (constraintsTree constraints.signed).encode =
      encodeBasicConstraints constraints := by
  obtain ⟨isCa, pathLen⟩ := constraints
  cases isCa with
  | false => simp [BasicConstraints.signed, constraintsTree, encode_sequence, encodeAll,
      encodeBasicConstraints]
  | true =>
    cases pathLen with
    | none =>
      rfl
    | some length =>
      rfl

theorem encode_keyUsageTree (usage : KeyUsage) :
    encodeExtension .extKeyUsage true (keyUsageTree usage).encode = encodeKeyUsage usage := by
  rw [keyUsageTree, encode, encodeKeyUsage]

theorem encode_purposesTree (usage : List UInt32) :
    encodeExtension .extExtendedKeyUsage true
      (purposesTree (usage.filterMap purposeOid?)).encode = encodeExtendedKeyUsage usage true := by
  rw [purposesTree, encode_sequence, encodeExtendedKeyUsage]
  congr 2
  induction usage.filterMap purposeOid? with
  | nil => simp [encodeAll]
  | cons oid rest ih => rw [List.map_cons, encodeAll, encode_oidTree, ih, List.flatMap_cons]

theorem encode_subjectKeyTree (id : KeyIdentifier) :
    encodeExtension .extSubjectKeyIdentifier false (subjectKeyTree id).encode =
      encodeSubjectKeyIdentifier id := by
  rw [subjectKeyTree, encode, encodeSubjectKeyIdentifier]

theorem encode_authorityKeyTree (id : KeyIdentifier) :
    encodeExtension .extAuthorityKeyIdentifier false (authorityKeyTree id).encode =
      encodeAuthorityKeyIdentifier id := by
  rw [authorityKeyTree, encode_sequence, encodeAll, encodeAll, encode, List.append_nil,
    encodeAuthorityKeyIdentifier]

theorem encodeAll_present_cons (oid : Oid) (slot : Option (Bool × Bytes))
    (rest : List (Oid × Option (Bool × Bytes))) :
    encodeAll ((Signed.present ((oid, slot) :: rest)).map Extension.tree) =
      (slot.map fun (critical, value) => encodeExtension oid critical value).getD [] ++
        encodeAll ((Signed.present rest).map Extension.tree) := by
  cases slot with
  | none => rfl
  | some pair =>
    simp [Signed.present, encodeAll, encode_extension]

theorem encode_extensionsTree (cert : MatterCertificate) :
    cert.signed.extensionsTree.encode = encodeExtensionsBlock cert.extensions := by
  rw [Signed.extensionsTree, encode, encodeAll, encodeAll, encode_sequence, Signed.extensions,
    Signed.slots]
  simp only [encodeAll_present_cons, MatterCertificate.signed, Option.map_map, Function.comp_def,
    encode_constraintsTree, encode_keyUsageTree, encode_purposesTree, encode_subjectKeyTree,
    encode_authorityKeyTree]
  simp [Signed.present, encodeAll, encodeExtensionsBlock]

theorem toX509TbsDer_tree {cert : MatterCertificate} (converted : cert.toX509TbsDer = .ok der) :
    ∃ issuer subject, cert.issuer.mapM attributeParts = .ok issuer ∧
      cert.subject.mapM attributeParts = .ok subject ∧
      der = (cert.signed.tree issuer subject).encode := by
  obtain ⟨serial, ofSerial, converted⟩ := of_bind_ok converted
  obtain ⟨_, ofIssuer, converted⟩ := of_bind_ok converted
  obtain ⟨_, ofSubject, rfl⟩ := of_bind_pure converted
  obtain ⟨issuer, issuerParts, rfl⟩ := encodeDn_ok ofIssuer
  obtain ⟨subject, subjectParts, rfl⟩ := encodeDn_ok ofSubject
  refine ⟨issuer, subject, issuerParts, subjectParts, ?_⟩
  have octets : serial = element 0x02 (integerOctets cert.serial.bytes) := by
    unfold encodeSerialNumber at ofSerial
    split at ofSerial <;> cases ofSerial
    rfl
  have version : (constructed 0xa0 (by decide) [primitive 0x02 (by decide) [0x02]]).encode =
      [0xa0, 0x03, 0x02, 0x01, 0x02] := by
    decide
  rw [Signed.tree, encode_sequence]
  simp only [encodeAll, version, encode_sequence, encode_oidTree, encode_timeTree,
    encode_extensionsTree, Signed.publicKeyTree, octets]
  simp [encodeAlgorithmIdentifierEcdsaSha256, encodeSubjectPublicKeyInfo, encodeValidity, encode]
  rfl

end Matter.Cert
