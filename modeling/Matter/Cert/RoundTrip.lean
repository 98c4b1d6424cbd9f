import Mathlib.Data.List.Basic
import Matter.Cert.Chain
import Matter.Cert.Members

/-! The TLV round trip of a certificate. `from_tlv` accepts more texts than
`to_tlv` writes; for an accepted text the writer gives it back exactly when the
text is canonical. -/
namespace Matter.Cert
open Codec TlvReader Value Exits

section Canonical

def CanonicalExtension : Tag × Value → Prop
  | (.context 1, .struct body) => Ascending body ∧ ∃ isCa, (Tag.context 1, bool isCa) ∈ body
  | (.context 2, .uint bits) => bits < 0x200
  | _ => True

def CanonicalMember : Tag × Value → Prop
  | (.context 10, .list extensions) =>
    Ascending extensions ∧ ∀ extension ∈ extensions, CanonicalExtension extension
  | _ => True

/-- The text of one anonymous structure in the least encoding, nothing behind it,
no string with a separator, members in the order of their tags, basic constraints
with the CA flag and only the usages that are defined. -/
structure Canonical (text : Bytes) (members : List (Tag × Value)) : Prop where
  text : text = (struct members).encode .anonymous
  clean : CleanMembers members
  ascending : Ascending members
  each : ∀ member ∈ members, CanonicalMember member

end Canonical

theorem orError_ok (present : orError error slot = .ok a) : slot = some a := by
  cases slot with
  | none => cases present
  | some b =>
    cases present
    rfl

/-! Names. -/

theorem textAttribute?_member (known : textAttribute? tag = some make) (text : Text) :
    (make text).Encodable ∧ (make text).member = (.context tag, .utf8 text) := by
  unfold textAttribute? at known
  split at known <;> cases known <;> exact ⟨trivial, rfl⟩

theorem idAttribute?_member (known : idAttribute? tag = some make) (id : UInt64) :
    (make id).Encodable ∧ (make id).member = (.context tag, .uint id) := by
  unfold idAttribute? at known
  split at known <;> cases known <;> exact ⟨trivial, rfl⟩

theorem decodeUntyped_ok (decoded : decodeUntyped tag value = .ok attr) :
    attr = .other tag value := by
  unfold decodeUntyped at decoded
  split at decoded <;> cases decoded
  rfl

theorem decodeAttribute_member (decoded : decodeAttribute tag value = .ok attr) :
    attr.Encodable ∧ attr.member = (.context tag, value) := by
  cases value with
  | utf8 text =>
    simp only [decodeAttribute] at decoded
    split at decoded
    · cases decoded
      exact textAttribute?_member (by assumption) text
    · rw [decodeUntyped_ok decoded]
      exact ⟨trivial, rfl⟩
  | uint n =>
    simp only [decodeAttribute] at decoded
    split at decoded
    · cases decoded
      exact idAttribute?_member (by assumption) n
    · split at decoded
      · rename_i isTag
        obtain ⟨narrow, present, rfl⟩ := map_ok.mp decoded
        rw [isTag, ← Wire.of_toU32? (orError_ok present)]
        exact ⟨trivial, rfl⟩
      · rw [decodeUntyped_ok decoded]
        exact ⟨trivial, rfl⟩
  | bytes octets =>
    rw [decodeUntyped_ok decoded]
    exact ⟨trivial, rfl⟩
  | _ => cases decoded

theorem foldName_members
    (parsed : foldMembers nameAttribute (noContainer (.wrongFieldType 0)) attrs members =
      .ok name) :
    ∃ added : DistinguishedName, name = attrs ++ added ∧ added.Encodable ∧
      added.members = members := by
  induction members generalizing attrs with
  | nil =>
    cases parsed
    exact ⟨[], (List.append_nil _).symm, nofun, rfl⟩
  | cons member rest ih =>
    obtain ⟨tag, value⟩ := member
    obtain ⟨middle, onward, ⟨ref, rfl, step⟩ | ⟨_, _, _, _, step⟩⟩ := foldMembers_cons parsed
    · unfold nameAttribute at step
      split at step
      · obtain ⟨attr, decoded, rfl⟩ := map_ok.mp step
        obtain ⟨added, rfl, encodable, same⟩ := ih onward
        obtain ⟨hasForm, isMember⟩ := decodeAttribute_member decoded
        refine ⟨attr :: added, by simp, ?_, ?_⟩
        · exact List.forall_mem_cons.mpr ⟨hasForm, encodable⟩
        · simp only [DistinguishedName.members, List.map_cons, isMember] at same ⊢
          rw [same]
      · cases step
    · cases step

theorem nameOf_members (parsed : nameOf members = .ok name) :
    name.Encodable ∧ name.members = members := by
  obtain ⟨added, rfl, encodable, same⟩ := foldName_members parsed
  exact ⟨encodable, same⟩

/-! Extensions. -/

theorem foldPurposes_members
    (parsed : foldMembers purposeScalar (noContainer (.wrongFieldType 3)) out members = .ok usage) :
    ∃ added, usage = out ++ added ∧ purposes added = members.map Prod.snd := by
  induction members generalizing out with
  | nil =>
    cases parsed
    exact ⟨[], (List.append_nil _).symm, rfl⟩
  | cons member rest ih =>
    obtain ⟨tag, value⟩ := member
    obtain ⟨middle, onward, ⟨ref, rfl, step⟩ | ⟨_, _, _, _, step⟩⟩ := foldMembers_cons parsed
    · cases ref with
      | uint n =>
        obtain ⟨purpose, narrow, rfl⟩ := map_ok.mp step
        obtain ⟨added, rfl, same⟩ := ih onward
        refine ⟨purpose :: added, by simp, ?_⟩
        rw [List.map_cons, ← same, ← Wire.of_toU32? (orError_ok narrow)]
        rfl
      | _ => cases step
    · cases step

theorem constraintsScalar_ok (step : constraintsScalar out tag value = .ok out') :
    (∃ isCa, tag = .context 1 ∧ value = .bool isCa ∧ out' = { out with isCa }) ∨
      ∃ length : UInt8, tag = .context 2 ∧ value = .uint length.toUInt64 ∧
        out' = { out with pathLenConstraint := some length } := by
  unfold constraintsScalar at step
  split at step
  · cases step
    exact .inl ⟨_, rfl, rfl, rfl⟩
  · obtain ⟨length, narrow, rfl⟩ := of_bind_pure step
    exact .inr ⟨length, rfl, by rw [Wire.of_toU8? (orError_ok narrow)], rfl⟩
  · cases step

theorem fillsSlots_constraints : FillsSlots constraintsScalar (noContainer (.wrongFieldType 1))
    BasicConstraints.slots fun _ => True where
  sorted _ := (by decide : ([1, 2] : List UInt8).Pairwise (· < ·))
  scalar _ step := by
    obtain ⟨_, rfl, rfl, rfl⟩ | ⟨_, rfl, rfl, rfl⟩ := constraintsScalar_ok step
    · exact ⟨1, rfl, .of_set 0 rfl rfl⟩
    · exact ⟨2, rfl, .of_set 1 rfl rfl⟩
  container _ _ step := by cases step

theorem constraintsOf_members (parsed : constraintsOf members = .ok constraints)
    (ascending : Ascending members) (flagged : ∃ isCa, (Tag.context 1, bool isCa) ∈ members) :
    constraints.members = members := by
  obtain ⟨flag, found⟩ := flagged
  cases members with
  | nil => cases found
  | cons member rest =>
    obtain ⟨tag, value⟩ := member
    obtain ⟨middle, onward, ⟨ref, rfl, step⟩ | ⟨_, _, _, _, step⟩⟩ := foldMembers_cons parsed
    · obtain ⟨isCa, rfl, rfl, rfl⟩ | ⟨length, rfl, rfl, rfl⟩ := constraintsScalar_ok step
      · exact fillsSlots_constraints.arranged_eq onward (fun _ _ => trivial) ascending
      · -- the flag would have to stand before the path length
        have later := (List.mem_cons.mp found).resolve_left (by simp)
        have before := (List.pairwise_cons.mp ascending).1 _ later
        exact absurd before (by decide : ¬ (2 : UInt8) < 1)
    · cases step

theorem fromBitsTruncate_bits (defined : bits.toNat < 0x200) :
    (KeyUsage.fromBitsTruncate bits).bits = bits := by
  apply UInt16.toNat_inj.mp
  exact (Nat.and_two_pow_sub_one_eq_mod bits.toNat 9).trans (Nat.mod_eq_of_lt defined)

theorem tryFrom_octets (sized : Block.tryFrom n octets.bytes = some block)
    (small : n < allocLimit) : block.octets small = octets := by
  obtain ⟨size, same⟩ := Option.dite_none_right_eq_some.mp sized
  cases same
  rfl

theorem fillsSlots_extensions :
    FillsSlots extensionScalar extensionContainer Extensions.slots CanonicalExtension where
  sorted _ := (by decide : ([1, 2, 3, 4, 5] : List UInt8).Pairwise (· < ·))
  scalar {out tag value out'} canonical step := by
    unfold extensionScalar at step
    split at step
    · rename_i n
      obtain ⟨bits, narrow, rfl⟩ := of_checked step
      have wide := Wire.of_toU16? (orError_ok narrow)
      have defined : n.toNat < 0x200 := UInt64.lt_iff_toNat_lt.mp canonical
      rw [← wide, UInt16.toNat_toUInt64] at defined
      have kept : out.slots.set 1 (2, some (uint (KeyUsage.fromBitsTruncate bits).bits.toUInt64)) =
          out.slots.set 1 (2, some (uint n)) := by
        rw [fromBitsTruncate_bits defined, wide]
      exact ⟨2, rfl, .of_set 1 rfl kept⟩
    · obtain ⟨id, sized, rfl⟩ := of_checked step
      have same := tryFrom_octets (orError_ok sized) (by decide)
      exact ⟨4, rfl, .of_set 3 rfl (by rw [← same]; rfl)⟩
    · obtain ⟨id, sized, rfl⟩ := of_checked step
      have same := tryFrom_octets (orError_ok sized) (by decide)
      exact ⟨5, rfl, .of_set 4 rfl (by rw [← same]; rfl)⟩
    · cases step
  container {out tag kind members out'} canonical permitted step := by
    unfold extensionContainer at step
    split at step
    · obtain ⟨constraints, parsed, rfl⟩ := of_checked step
      have same := constraintsOf_members parsed canonical.1 canonical.2
      exact ⟨1, rfl, .of_set 0 rfl (by rw [← same]; rfl)⟩
    · obtain ⟨usage, parsed, rfl⟩ := of_checked step
      obtain ⟨_, rfl, same⟩ := foldPurposes_members parsed
      exact ⟨3, rfl, .of_set 2 rfl (by rw [ofMembers, ← same]; rfl)⟩
    · cases step

def Extensions.Truncated (extensions : Extensions) : Prop :=
  ∀ usage, extensions.keyUsage = some usage → usage.bits.toNat < 0x200

theorem fromBitsTruncate_lt (bits : UInt16) :
    (KeyUsage.fromBitsTruncate bits).bits.toNat < 0x200 := by
  exact Nat.lt_of_le_of_lt Nat.and_le_right (by decide)

theorem extensionScalar_truncated (step : extensionScalar out tag value = .ok out')
    (truncated : out.Truncated) : out'.Truncated := by
  unfold extensionScalar at step
  split at step
  · obtain ⟨bits, _, rfl⟩ := of_checked step
    intro usage same
    cases same
    exact fromBitsTruncate_lt bits
  · obtain ⟨_, _, rfl⟩ := of_checked step
    exact truncated
  · obtain ⟨_, _, rfl⟩ := of_checked step
    exact truncated
  · cases step

theorem extensionContainer_truncated (step : extensionContainer out tag kind members = .ok out')
    (truncated : out.Truncated) : out'.Truncated := by
  unfold extensionContainer at step
  split at step
  · obtain ⟨_, _, rfl⟩ := of_checked step
    exact truncated
  · obtain ⟨_, _, rfl⟩ := of_checked step
    exact truncated
  · cases step

theorem extensionsOf_truncated (parsed : extensionsOf members = .ok extensions) :
    extensions.Truncated :=
  foldMembers_invariant extensionScalar_truncated extensionContainer_truncated parsed nofun

/-! The certificate. -/

theorem ensureAlgorithm_ok (passed : ensureAlgorithm tag seen n unsupported = .ok ()) : n = 1 := by
  cases seen with
  | true => cases passed
  | false =>
    obtain ⟨algorithm, narrow, passed⟩ := of_bind_ok passed
    by_cases supported : algorithm = 1
    · rw [← Wire.of_toU8? (orError_ok narrow), supported]
      rfl
    · simp only [supported, ne_eq, not_false_eq_true, if_true] at passed
      cases passed

theorem matterTime_ok (passed : matterTime tag n = .ok time) : time.secs.toUInt64 = n := by
  obtain ⟨secs, narrow, rfl⟩ := map_ok.mp passed
  exact Wire.of_toU32? (orError_ok narrow)

theorem publicKey_octets (passed : PublicKey.fromSlice octets.bytes = .ok key) :
    key.block.octets (by decide) = octets := by
  unfold PublicKey.fromSlice at passed
  split at passed
  · cases passed
  · rename_i block sized
    have same := tryFrom_octets sized (by decide)
    unfold PublicKey.new at passed
    split at passed <;> cases passed
    exact same

theorem contextTag_ok (passed : contextTag tag = .ok t) : tag = .context t := by
  cases tag <;> cases passed
  rfl

def ListField.tag : ListField → UInt8
  | .issuer => 3
  | .subject => 6
  | .extensions => 10

theorem openList_ok (passed : openList t kind unseen opened = .ok field) :
    kind = .list ∧ field = opened := by
  unfold openList at passed
  by_cases isList : kind = .list
  · rw [if_neg (not_not.mpr isList)] at passed
    obtain ⟨_, _, rfl⟩ := of_bind_pure passed
    exact ⟨isList, rfl⟩
  · rw [if_pos isList] at passed
    cases passed

theorem listField_ok (passed : listField fields tag kind = .ok field) :
    kind = .list ∧ tag = .context field.tag := by
  obtain ⟨t, isContext, passed⟩ := of_bind_ok passed
  rw [contextTag_ok isContext]
  split at passed
  · obtain ⟨isList, rfl⟩ := openList_ok passed
    exact ⟨isList, rfl⟩
  · obtain ⟨isList, rfl⟩ := openList_ok passed
    exact ⟨isList, rfl⟩
  · obtain ⟨isList, rfl⟩ := openList_ok passed
    exact ⟨isList, rfl⟩
  · cases passed

def CertificateFields.lists (fields : CertificateFields) :
    Option DistinguishedName × Option DistinguishedName × Option Extensions :=
  (fields.issuer, fields.subject, fields.extensions)

theorem certificateScalar_ok (step : certificateScalar fields tag value = .ok fields') :
    ∃ t, tag = .context t ∧ Fills fields.slots fields'.slots t (ofRef value) ∧
      fields'.lists = fields.lists := by
  obtain ⟨t, isContext, step⟩ := of_bind_ok step
  refine ⟨t, contextTag_ok isContext, ?_⟩
  split at step
  · obtain ⟨_, _, rfl⟩ := of_checked step
    exact ⟨.of_set 0 rfl rfl, rfl⟩
  · obtain ⟨_, passed, rfl⟩ := of_bind_pure step
    cases ensureAlgorithm_ok passed
    exact ⟨.of_set 1 rfl rfl, rfl⟩
  · obtain ⟨time, passed, rfl⟩ := of_checked step
    cases matterTime_ok passed
    exact ⟨.of_set 3 rfl rfl, rfl⟩
  · obtain ⟨time, passed, rfl⟩ := of_checked step
    cases matterTime_ok passed
    exact ⟨.of_set 4 rfl rfl, rfl⟩
  · obtain ⟨_, passed, rfl⟩ := of_bind_pure step
    cases ensureAlgorithm_ok passed
    exact ⟨.of_set 6 rfl rfl, rfl⟩
  · obtain ⟨_, passed, rfl⟩ := of_bind_pure step
    cases ensureAlgorithm_ok passed
    exact ⟨.of_set 7 rfl rfl, rfl⟩
  · obtain ⟨key, passed, rfl⟩ := of_checked step
    cases publicKey_octets passed
    exact ⟨.of_set 8 rfl rfl, rfl⟩
  · obtain ⟨signature, sized, rfl⟩ := of_checked step
    cases tryFrom_octets (orError_ok sized) (by decide)
    exact ⟨.of_set 10 rfl rfl, rfl⟩
  · cases step

theorem fillsSlots_certificate :
    FillsSlots certificateScalar certificateContainer CertificateFields.slots CanonicalMember where
  sorted _ :=
    (by decide : ([1, 2, 3, 4, 5, 6, 7, 8, 9, 10, 11] : List UInt8).Pairwise (· < ·))
  scalar _ step := by
    obtain ⟨t, isContext, filled, _⟩ := certificateScalar_ok step
    exact ⟨t, isContext, filled⟩
  container canonical permitted step := by
    obtain ⟨field, passed, read⟩ := of_bind_ok step
    obtain ⟨rfl, rfl⟩ := listField_ok passed
    refine ⟨field.tag, rfl, ?_⟩
    cases field with
    | issuer =>
      obtain ⟨name, parsed, rfl⟩ := of_bind_pure read
      cases (nameOf_members parsed).2
      exact .of_set 2 rfl rfl
    | subject =>
      obtain ⟨name, parsed, rfl⟩ := of_bind_pure read
      cases (nameOf_members parsed).2
      exact .of_set 5 rfl rfl
    | extensions =>
      obtain ⟨found, parsed, rfl⟩ := of_bind_pure read
      cases fillsSlots_extensions.arranged_eq parsed canonical.2 canonical.1
      exact .of_set 9 rfl rfl

structure CertificateFields.Parsed (fields : CertificateFields) : Prop where
  issuer : ∀ name, fields.issuer = some name → name.Encodable
  subject : ∀ name, fields.subject = some name → name.Encodable
  extensions : ∀ extensions, fields.extensions = some extensions → extensions.Truncated

theorem certificateScalar_parsed (step : certificateScalar fields tag value = .ok fields')
    (parsed : fields.Parsed) : fields'.Parsed := by
  obtain ⟨_, _, _, same⟩ := certificateScalar_ok step
  simp only [CertificateFields.lists, Prod.mk.injEq] at same
  obtain ⟨issuer, subject, extensions⟩ := same
  constructor
  · exact issuer ▸ parsed.issuer
  · exact subject ▸ parsed.subject
  · exact extensions ▸ parsed.extensions

theorem certificateContainer_parsed
    (step : certificateContainer fields tag kind members = .ok fields') (parsed : fields.Parsed) :
    fields'.Parsed := by
  obtain ⟨field, _, step⟩ := of_bind_ok step
  cases field with
  | issuer =>
    obtain ⟨name, ok, rfl⟩ := of_bind_pure step
    refine ⟨?_, parsed.subject, parsed.extensions⟩
    intro _ same
    cases same
    exact (nameOf_members ok).1
  | subject =>
    obtain ⟨name, ok, rfl⟩ := of_bind_pure step
    refine ⟨parsed.issuer, ?_, parsed.extensions⟩
    intro _ same
    cases same
    exact (nameOf_members ok).1
  | extensions =>
    obtain ⟨extensions, ok, rfl⟩ := of_bind_pure step
    refine ⟨parsed.issuer, parsed.subject, ?_⟩
    intro _ same
    cases same
    exact extensionsOf_truncated ok

section
variable {cert : MatterCertificate}

theorem certificate_ok (complete : fields.certificate = .ok cert) : fields = cert.fields := by
  obtain ⟨serial, sigAlgSeen, issuer, notBefore, notAfter, subject, pubkeyAlgSeen, ecCurveSeen,
    publicKey, extensions, signature⟩ := fields
  cases sigAlgSeen with
  | false => cases complete
  | true =>
    cases pubkeyAlgSeen with
    | false => cases complete
    | true =>
      cases ecCurveSeen with
      | false => cases complete
      | true =>
        obtain ⟨_, hasSerial, complete⟩ := of_bind_ok complete
        obtain ⟨_, hasIssuer, complete⟩ := of_bind_ok complete
        obtain ⟨_, hasNotBefore, complete⟩ := of_bind_ok complete
        obtain ⟨_, hasNotAfter, complete⟩ := of_bind_ok complete
        obtain ⟨_, hasSubject, complete⟩ := of_bind_ok complete
        obtain ⟨_, hasKey, complete⟩ := of_bind_ok complete
        obtain ⟨_, hasExtensions, complete⟩ := of_bind_ok complete
        obtain ⟨_, hasSignature, rfl⟩ := of_bind_pure complete
        obtain rfl : serial = some _ := orError_ok hasSerial
        obtain rfl : issuer = some _ := orError_ok hasIssuer
        obtain rfl : notBefore = some _ := orError_ok hasNotBefore
        obtain rfl : notAfter = some _ := orError_ok hasNotAfter
        obtain rfl : subject = some _ := orError_ok hasSubject
        obtain rfl : publicKey = some _ := orError_ok hasKey
        obtain rfl : extensions = some _ := orError_ok hasExtensions
        obtain rfl : signature = some _ := orError_ok hasSignature
        rfl

theorem certificateOf_parsed (parsed : certificateOf members = .ok cert) : cert.fields.Parsed := by
  obtain ⟨fields, folded, complete⟩ := of_bind_ok parsed
  rw [← certificate_ok complete]
  exact foldMembers_invariant certificateScalar_parsed certificateContainer_parsed folded
    ⟨nofun, nofun, nofun⟩

theorem certificateOf_members (parsed : certificateOf members = .ok cert)
    (ascending : Ascending members) (each : ∀ member ∈ members, CanonicalMember member) :
    cert.members = members := by
  obtain ⟨fields, folded, complete⟩ := of_bind_ok parsed
  rw [MatterCertificate.members, ← certificate_ok complete]
  exact fillsSlots_certificate.arranged_eq folded each ascending

end

/-! The reader keeps the form of the members. -/

theorem canonicalExtension_beforeIs1 (canonical : CanonicalExtension member) :
    CanonicalExtension (member.1, member.2.beforeIs1) := by
  obtain ⟨tag, value⟩ := member
  cases value with
  | struct body =>
    by_cases isConstraints : tag = .context 1
    · subst isConstraints
      obtain ⟨ascending, isCa, found⟩ := canonical
      refine ⟨ascending_beforeIs1 ascending, isCa, ?_⟩
      rw [beforeIs1Members_eq_map]
      exact List.mem_map.mpr ⟨_, found, rfl⟩
    · simp [CanonicalExtension, beforeIs1, isConstraints]
  | uint bits => exact canonical
  | _ => simp [CanonicalExtension, beforeIs1]

theorem canonicalMember_beforeIs1 (canonical : CanonicalMember member) :
    CanonicalMember (member.1, member.2.beforeIs1) := by
  obtain ⟨tag, value⟩ := member
  cases value with
  | list members =>
    by_cases isExtensions : tag = .context 10
    · subst isExtensions
      refine ⟨ascending_beforeIs1 canonical.1, fun member found => ?_⟩
      rw [beforeIs1Members_eq_map] at found
      obtain ⟨original, listed, rfl⟩ := List.mem_map.mp found
      exact canonicalExtension_beforeIs1 (canonical.2 original listed)
    · simp [CanonicalMember, beforeIs1, isExtensions]
  | _ => simp [CanonicalMember, beforeIs1]

theorem canonicalExtension_of_truncated {extensions : Extensions}
    (truncated : extensions.Truncated) :
    ∀ member ∈ extensions.members, CanonicalExtension member := by
  intro member found
  obtain ⟨tag, value, slot, rfl⟩ := mem_arranged.mp found
  simp only [Extensions.slots, List.mem_cons, Prod.mk.injEq, List.not_mem_nil, or_false] at slot
  obtain ⟨rfl, present⟩ | ⟨rfl, present⟩ | ⟨rfl, _⟩ | ⟨rfl, _⟩ | ⟨rfl, _⟩ := slot
  · obtain ⟨constraints, _, rfl⟩ := Option.map_eq_some_iff.mp present.symm
    refine ⟨ascending_arranged (fillsSlots_constraints.sorted constraints), constraints.isCa, ?_⟩
    exact mem_arranged.mpr ⟨1, _, List.mem_cons_self, rfl⟩
  · obtain ⟨usage, has, rfl⟩ := Option.map_eq_some_iff.mp present.symm
    have defined := truncated usage has
    exact defined
  all_goals simp [CanonicalExtension]

theorem canonicalMember_of_truncated {cert : MatterCertificate}
    (truncated : cert.extensions.Truncated) : ∀ member ∈ cert.members, CanonicalMember member := by
  intro member found
  obtain ⟨tag, value, slot, rfl⟩ := mem_arranged.mp found
  by_cases isExtensions : tag = 10
  · subst isExtensions
    obtain rfl : value = list cert.extensions.members := by
      simpa [CertificateFields.slots, MatterCertificate.fields] using slot
    refine ⟨ascending_arranged (fillsSlots_extensions.sorted _), ?_⟩
    exact canonicalExtension_of_truncated truncated
  · cases value with
    | list members => simp [CanonicalMember, isExtensions]
    | _ => simp [CanonicalMember]

/-- Only canonical texts come back as they were. -/
theorem toTlv_fromTlv_iff {text : Octets} {cert : MatterCertificate}
    (accepted : MatterCertificate.fromTlv text = .ok cert) :
    cert.toTlv = .ok text.bytes ↔ ∃ members, Canonical text.bytes members := by
  constructor
  · intro written
    obtain ⟨_, same⟩ := toTlv_iff.mp written
    rw [fromTlv_encode (same.trans (List.append_nil _).symm)] at accepted
    have parsed := certificateOf_parsed accepted
    have ascending : Ascending cert.members := ascending_arranged (fillsSlots_certificate.sorted _)
    have each := canonicalMember_of_truncated (parsed.extensions _ rfl)
    have kept : cert.members = beforeIs1Members cert.members := by
      refine certificateOf_members accepted (ascending_beforeIs1 ascending) fun member found => ?_
      rw [beforeIs1Members_eq_map] at found
      obtain ⟨original, listed, rfl⟩ := List.mem_map.mp found
      exact canonicalMember_beforeIs1 (each original listed)
    exact ⟨cert.members, same, kept ▸ cleanMembers_beforeIs1 _, ascending, each⟩
  · rintro ⟨members, canonical⟩
    have clean := (cleanMembers_iff members).mp canonical.clean
    rw [fromTlv_encode (canonical.text.trans (List.append_nil _).symm),
      beforeIs1Members_eq fun member found => beforeIs1_eq (clean member found)] at accepted
    have parsed := certificateOf_parsed accepted
    rw [canonical.text, ← certificateOf_members accepted canonical.ascending canonical.each]
    exact toTlv_iff.mpr ⟨⟨parsed.issuer _ rfl, parsed.subject _ rfl⟩, rfl⟩

/-! A certificate, its text, and other texts that are read as it. -/

def sampleCertificate : MatterCertificate :=
  { CertificateChain.sampleLeaf with issuer := [.rcacId 1], notAfter := ⟨0⟩ }

def sampleText : Octets := ⟨(struct sampleCertificate.members).encode .anonymous, by decide +kernel⟩

theorem toTlv_fromTlv_iff_sample :
    MatterCertificate.fromTlv sampleText = .ok sampleCertificate ∧
      (sampleCertificate.toTlv = .ok sampleText.bytes ↔
        ∃ members, Canonical sampleText.bytes members) := by
  have accepted : MatterCertificate.fromTlv sampleText = .ok sampleCertificate := by decide +kernel
  exact ⟨accepted, toTlv_fromTlv_iff accepted⟩

def withExtensions (extensions : List (Tag × Value)) : List (Tag × Value) :=
  sampleCertificate.members.map fun member =>
    if member.1 = .context 10 then (member.1, list extensions) else member

/-- A byte behind the end, members in another order, an integer wider than needed,
a usage that is not defined, the CA flag twice. -/
def looseTexts : List Octets := [
  ⟨sampleText.bytes ++ [0x00], by decide +kernel⟩,
  ⟨(struct sampleCertificate.members.reverse).encode .anonymous, by decide +kernel⟩,
  ⟨enclose .anonymous .struct (encodeMembers (sampleCertificate.members.take 3) ++
    [0x25, 0x04, 0x00, 0x00] ++ encodeMembers (sampleCertificate.members.drop 4)),
    by decide +kernel⟩,
  ⟨(struct (withExtensions [(.context 1, struct [(.context 1, bool false)]),
    (.context 2, uint 0x8001)])).encode .anonymous, by decide +kernel⟩,
  ⟨(struct (withExtensions [(.context 1, struct [(.context 1, bool true),
    (.context 1, bool false)]), (.context 2, uint 1)])).encode .anonymous, by decide +kernel⟩]

theorem fromTlv_accepts_loose_texts :
    looseTexts.Forall fun text => MatterCertificate.fromTlv text = .ok sampleCertificate ∧
      sampleCertificate.toTlv ≠ .ok text.bytes := by
  decide +kernel

end Matter.Cert
