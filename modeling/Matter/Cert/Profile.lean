import Matter.Cert.RoundTrip
import Matter.Handshake.Encoding

/-! Operational certificates: the ones with numbers for names and the extensions of their
role. They are read back from their text as they were. -/
namespace Matter.Cert
open Codec TlvReader Value Exits Handshake Extensions

def authorityExtensions (pathLen : UInt8) (skid akid : KeyIdentifier) : Extensions where
  basicConstraints := some ⟨true, some pathLen⟩
  -- `KEY_CERT_SIGN | CRL_SIGN`
  keyUsage := some ⟨0x0060⟩
  subjectKeyIdentifier := some skid
  authorityKeyIdentifier := some akid

def nodeExtensions (skid akid : KeyIdentifier) : Extensions where
  basicConstraints := some ⟨false, none⟩
  keyUsage := some .digitalSignature
  extendedKeyUsage := some [ekuClientAuth, ekuServerAuth]
  subjectKeyIdentifier := some skid
  authorityKeyIdentifier := some akid

structure IcacParams where
  icacId : UInt64
  issuer : DistinguishedName
  issuerSkid : KeyIdentifier
  publicKey : PublicKey
  serial : Octets
  notBefore : MatterTime
  notAfter : MatterTime

def icac (sha1 : Bytes → Block 20) (params : IcacParams) : Except Error UnsignedCertificate :=
  Builder.buildUnsigned
    { serial := some params.serial
      issuer := some params.issuer
      subject := some [.icacId params.icacId]
      notBefore := some params.notBefore
      notAfter := some params.notAfter
      publicKey := some params.publicKey
      extensions := some
        (authorityExtensions 0 (skidFromSpki sha1 params.publicKey) params.issuerSkid) }

def DnAttribute.Numbered : DnAttribute → Prop
  | .nodeId _ | .icacId _ | .rcacId _ | .fabricId _ | .caseAuthenticatedTag _ => True
  | _ => False

/-- A short name made of numbers. -/
structure DistinguishedName.Numbered (name : DistinguishedName) : Prop where
  each : ∀ attr ∈ name, attr.Numbered
  short : name.length ≤ 5

/-- The form of an operational certificate that is sent to others. -/
structure Profile (cert : MatterCertificate) : Prop where
  serial : 0 < cert.serial.bytes.length ∧ cert.serial.bytes.length ≤ maxSerialLen
  issuer : DistinguishedName.Numbered cert.issuer
  subject : DistinguishedName.Numbered cert.subject
  extensions : ∃ skid akid, cert.extensions = authorityExtensions 0 skid akid ∨
    cert.extensions = nodeExtensions skid akid

/-! Names. -/

theorem decodeAttribute_numbered (numbered : attr.Numbered) :
    ∃ n id, attr.member = (.context n, .uint id) ∧ decodeAttribute n (.uint id) = .ok attr := by
  cases attr with
  | caseAuthenticatedTag tag =>
    refine ⟨22, tag.toUInt64, rfl, ?_⟩
    change (orError _ (Wire.toU32? tag.toUInt64)).map _ = _
    rw [toU32?_toUInt64]
    rfl
  | nodeId id | icacId id | rcacId id | fabricId id => exact ⟨_, id, rfl, rfl⟩
  | _ => cases numbered

/-- The first member of such a name, which its attribute is read back from. -/
theorem members_numbered (numbered : attr.Numbered) :
    ∃ n id, decodeAttribute n (.uint id) = .ok attr ∧ ∀ rest : DistinguishedName,
      DistinguishedName.members (attr :: rest) = (.context n, uint id) :: rest.members := by
  obtain ⟨n, id, member, decoded⟩ := decodeAttribute_numbered numbered
  refine ⟨n, id, decoded, fun rest => ?_⟩
  rw [DistinguishedName.members, List.map_cons, member]
  rfl

theorem foldName_numbered (numbered : ∀ attr ∈ name, attr.Numbered) (attrs : DistinguishedName) :
    foldMembers nameAttribute (noContainer (.wrongFieldType 0)) attrs
      (beforeIs1Members name.members) = .ok (attrs ++ name) := by
  induction name generalizing attrs with
  | nil => simp [DistinguishedName.members, beforeIs1Members, foldMembers]
  | cons attr rest ih =>
    obtain ⟨first, others⟩ := List.forall_mem_cons.mp numbered
    obtain ⟨n, id, decoded, members⟩ := members_numbered first
    have later := ih others (attrs ++ [attr])
    rw [List.append_assoc, List.singleton_append] at later
    simp only [members, beforeIs1Members, beforeIs1, foldMembers, view, nameAttribute, decoded,
      Except.map, bind, Except.bind, later]

theorem nameOf_numbered (numbered : name.Numbered) :
    nameOf (beforeIs1Members name.members) = .ok name :=
  foldName_numbered numbered.each []

theorem length_name_le {name : DistinguishedName} (numbered : ∀ attr ∈ name, attr.Numbered) :
    (encodeMembers name.members).length ≤ 10 * name.length := by
  induction name with
  | nil => simp [DistinguishedName.members, encodeMembers]
  | cons attr rest ih =>
    obtain ⟨first, others⟩ := List.forall_mem_cons.mp numbered
    obtain ⟨n, id, _, members⟩ := members_numbered first
    have later := ih others
    have here := length_uint_le n id
    rw [members, encodeMembers, List.length_append, List.length_cons]
    omega

/-! Certificates. -/

theorem tryFrom_block (block : Block n) (small : n < allocLimit) :
    Block.tryFrom n (block.octets small).bytes = some block := dif_pos block.size

theorem extensionsOf_profile
    (form : extensions = authorityExtensions 0 skid akid ∨ extensions = nodeExtensions skid akid) :
    extensionsOf (beforeIs1Members extensions.members) = .ok extensions := by
  rcases form with rfl | rfl <;>
  · simp [authorityExtensions, nodeExtensions, extensionsOf, members, slots,
      arranged, BasicConstraints.members, BasicConstraints.slots, beforeIs1Members, beforeIs1,
      foldMembers, view, extensionContainer, extensionScalar, ensureFirstSeen, constraintsOf,
      constraintsScalar, KeyIdentifier.fromSlice, tryFrom_block, orError, bind, Except.bind, pure,
      Except.pure]
    rfl

theorem fromSlice_key (key : PublicKey) :
    PublicKey.fromSlice (key.block.octets (by decide)).bytes = .ok key := by
  simp only [PublicKey.fromSlice, tryFrom_block, PublicKey.new, key.uncompressed, dif_pos]

theorem certificateOf_profile (profile : Profile cert) :
    certificateOf (beforeIs1Members cert.members) = .ok cert := by
  obtain ⟨⟨some, short⟩, issuer, subject, skid, akid, form⟩ := profile
  have serial : validateSerialLen cert.serial.bytes.length = .ok () := if_neg (by omega)
  have algorithm : ∀ tag unsupported, ensureAlgorithm tag false 1 unsupported = .ok () :=
    fun _ _ => rfl
  have time : ∀ tag (t : MatterTime), matterTime tag t.secs.toUInt64 = .ok t := by
    intro tag t
    rw [matterTime, toU32?_toUInt64]
    rfl
  simp [certificateOf, MatterCertificate.members, MatterCertificate.fields,
    CertificateFields.slots, CertificateFields.algorithm, arranged, beforeIs1Members, beforeIs1,
    foldMembers, view, certificateScalar, certificateContainer, listField, openList, contextTag,
    ensureFirstSeen, serial, algorithm, time, fromSlice_key, Signature.fromSlice, tryFrom_block,
    orError, nameOf_numbered issuer, nameOf_numbered subject, extensionsOf_profile form,
    CertificateFields.certificate, bind, Except.bind, pure, Except.pure]

/-! Their texts are short. -/

theorem length_list_context (n : UInt8) (members : List (Tag × Value)) :
    ((list members).encode (.context n)).length = (encodeMembers members).length + 3 := by
  rw [encode, enclose, List.length_append, List.length_append, length_encodeTag_context,
    List.length_singleton]
  omega

theorem length_extensions_le
    (form : extensions = authorityExtensions 0 skid akid ∨ extensions = nodeExtensions skid akid) :
    (encodeMembers extensions.members).length ≤ 100 := by
  have subject := length_block_le 4 skid (by decide)
  have authority := length_block_le 5 akid (by decide)
  rcases form with rfl | rfl
  · have front : (encodeMembers (members
        { basicConstraints := some ⟨true, some 0⟩, keyUsage := some ⟨0x0060⟩ })).length = 11 := by
      decide
    simp [authorityExtensions, members, slots, arranged, encodeMembers]
      at front ⊢
    omega
  · have front : (encodeMembers (members
        { basicConstraints := some ⟨false, none⟩, keyUsage := some .digitalSignature
          extendedKeyUsage := some [ekuClientAuth, ekuServerAuth] })).length = 15 := by
      decide
    simp [nodeExtensions, members, slots, arranged, encodeMembers] at front ⊢
    omega

theorem length_members_lt {cert : MatterCertificate} (profile : Profile cert) :
    (encodeMembers cert.members).length < 1000 := by
  obtain ⟨⟨_, short⟩, issuer, subject, skid, akid, form⟩ := profile
  have serial := length_bytes_le 1 cert.serial
  have issuers := length_name_le issuer.each
  have subjects := length_name_le subject.each
  have few := issuer.short
  have fewer := subject.short
  have extensions := length_extensions_le form
  have notBefore := length_uint_le 4 cert.notBefore.secs.toUInt64
  have notAfter := length_uint_le 5 cert.notAfter.secs.toUInt64
  have key := length_block_le 9 cert.publicKey.block (by decide)
  have signature := length_block_le 11 cert.signature (by decide)
  have algorithm : ∀ n : UInt8, ((uint 1).encode (.context n)).length = 3 := fun _ => rfl
  simp only [maxSerialLen] at short
  simp [MatterCertificate.members, MatterCertificate.fields, CertificateFields.slots,
    CertificateFields.algorithm, arranged, encodeMembers, length_list_context, algorithm]
  omega

theorem fromTlv_toTlv (profile : Profile cert) :
    ∃ text : Octets, cert.toTlv = .ok text.bytes ∧ MatterCertificate.fromTlv text = .ok cert := by
  have numbered : ∀ {name : DistinguishedName}, name.Numbered → name.Encodable := by
    intro name numbered attr member
    have number := numbered.each attr member
    cases attr with
    | vendorId | productId => cases number
    | _ => trivial
  have short : ((struct cert.members).encode .anonymous).length < allocLimit := by
    have bound := length_members_lt profile
    rw [length_struct_anonymous, allocLimit]
    omega
  refine ⟨⟨_, short⟩, toTlv_iff.mpr ⟨⟨numbered profile.issuer, numbered profile.subject⟩, rfl⟩, ?_⟩
  rw [fromTlv_encode (List.append_nil _).symm]
  exact certificateOf_profile profile

end Matter.Cert
