import Matter.Cert.RoundTrip
import Matter.Cert.Tree

/-! What a certificate's signature covers. The DER octets determine every field up
to the part of it that the conversion keeps: a zero in front of the serial number,
the path length of a certificate that is no CA and purposes without an identifier
are lost. -/
namespace Matter.Cert
open Codec Asn1 Der Digits Exits

/-! The tree determines what it shows. -/

theorem oidTree_inj (known : oid ∈ knownOids) (known' : other ∈ knownOids)
    (same : oidTree oid = oidTree other) : oid = other := by
  simp only [oidTree, primitive.injEq, true_and] at same
  exact oidContent_inj oid known other known' same

theorem sequence_inj (same : sequence xs = sequence ys) : xs = ys := by
  simpa only [sequence, constructed.injEq, true_and] using same

theorem oid_mem_of_parts (ofAttr : attributeParts attr = .ok parts) : parts.1 ∈ knownOids := by
  obtain ⟨oid, type, value⟩ := parts
  have typed := (DnAttribute.shown_of_parts ofAttr).1
  change oid ∈ knownOids
  cases attr with
  | other => cases typed
  | _ =>
    cases typed
    decide

theorem attributeTree_inj (a b : Oid × StringType × Bytes) (known : a.1 ∈ knownOids)
    (known' : b.1 ∈ knownOids) (same : attributeTree a = attributeTree b) : a = b := by
  obtain ⟨oid, type, value⟩ := a
  obtain ⟨oid', type', value'⟩ := b
  simp only [attributeTree, constructed.injEq, List.cons.injEq, and_true, true_and] at same
  have inner := sequence_inj same
  simp only [List.cons.injEq, primitive.injEq, and_true] at inner
  obtain ⟨oids, tags, rfl⟩ := inner
  obtain rfl := oidTree_inj known known' oids
  have types : type = type' := by
    cases type <;> cases type' <;> first | rfl | exact absurd tags (by decide)
  rw [types]

theorem mapM_known {name : DistinguishedName} (ofName : name.mapM attributeParts = .ok parts) :
    ∀ part ∈ parts, part.1 ∈ knownOids := by
  induction name generalizing parts with
  | nil =>
    cases ofName
    nofun
  | cons attr rest ih =>
    rw [List.mapM_cons] at ofName
    obtain ⟨part, ofAttr, ofName⟩ := of_bind_ok ofName
    obtain ⟨others, ofRest, rfl⟩ := of_bind_pure ofName
    exact List.forall_mem_cons.mpr ⟨oid_mem_of_parts ofAttr, ih ofRest⟩

theorem name_of_nameTree {name other : DistinguishedName}
    (ofName : name.mapM attributeParts = .ok parts)
    (ofOther : other.mapM attributeParts = .ok parts') (same : nameTree parts = nameTree parts') :
    name = other := by
  have parts_eq := map_inj_between (fun a listed b listed' => attributeTree_inj a b
    (mapM_known ofName a listed) (mapM_known ofOther b listed')) (sequence_inj same)
  subst parts_eq
  exact mapM_attributeParts_inj ofName ofOther

theorem unixToYmdhms_inj (same : unixToYmdhms a = unixToYmdhms b) : a = b := by
  simp only [unixToYmdhms, DateTime.mk.injEq] at same
  obtain ⟨dates, hours, minutes, seconds⟩ := same
  have days := Calendar.civilFromDays_inj dates
  omega

/-- The parts of a time below the year have two digits. -/
structure DateTime.TwoDigits (time : DateTime) : Prop where
  month : time.date.month < 10 ^ 2
  day : time.date.day < 10 ^ 2
  hour : time.hour < 10 ^ 2
  minute : time.minute < 10 ^ 2
  second : time.second < 10 ^ 2

theorem unixToYmdhms_twoDigits (unix : Nat) : (unixToYmdhms unix).TwoDigits := by
  obtain ⟨y, mp, d, located, date⟩ := Calendar.civilFromDays_located (unix / 86400 + 719468)
  have := located.month
  have := located.short
  constructor
  · simp only [unixToYmdhms, date]
    split <;> omega
  · simp only [unixToYmdhms, date]
    omega
  all_goals
    simp only [unixToYmdhms]
    omega

theorem clockText_inj (good : time.TwoDigits) (good' : other.TwoDigits)
    (same : clockText time = clockText other) (years : time.date.year = other.date.year) :
    time = other := by
  have inj := fun {n m : Nat} (fits : n < 10 ^ 2) (fits' : m < 10 ^ 2)
    (texts : numeral 10 2 n = numeral 10 2 m) =>
      numeral_inj (by decide) (by decide) fits fits' texts
  simp only [clockText, List.append_assoc] at same
  obtain ⟨months, same⟩ := List.append_inj same (by simp)
  obtain ⟨days, same⟩ := List.append_inj same (by simp)
  obtain ⟨hours, same⟩ := List.append_inj same (by simp)
  obtain ⟨minutes, same⟩ := List.append_inj same (by simp)
  obtain ⟨seconds, _⟩ := List.append_inj same (by simp)
  obtain ⟨⟨year, month, day⟩, hour, minute, second⟩ := time
  obtain ⟨⟨year', month', day'⟩, hour', minute', second'⟩ := other
  simp only [DateTime.mk.injEq, Calendar.Date.mk.injEq]
  exact ⟨⟨years, inj good.month good'.month months, inj good.day good'.day days⟩,
    inj good.hour good'.hour hours, inj good.minute good'.minute minutes,
    inj good.second good'.second seconds⟩

/-- The years of the times a certificate can have. -/
theorem year_bounds (t : MatterTime) :
    1998 ≤ (unixToYmdhms t.toUnixSecs).date.year ∧
      (unixToYmdhms t.toUnixSecs).date.year < 2140 ∧
      (t.toUnixSecs < utcTimeCutoffUnixSecs → (unixToYmdhms t.toUnixSecs).date.year < 2098) := by
  have lower : 946684800 ≤ t.toUnixSecs := by
    rw [MatterTime.toUnixSecs, MatterTime.epochUnixOffset]
    omega
  have upper : t.toUnixSecs < 5241652096 := by
    have bound := t.secs.toNat_lt
    rw [MatterTime.toUnixSecs, MatterTime.epochUnixOffset]
    omega
  generalize t.toUnixSecs = unix at *
  have first : 730425 ≤ unix / 86400 + 719468 := by omega
  have last : unix / 86400 + 719468 < 780137 := by omega
  have cut : unix < utcTimeCutoffUnixSecs → unix / 86400 + 719468 < 748688 := by
    rw [utcTimeCutoffUnixSecs]
    omega
  obtain ⟨y, mp, d, ⟨_, _, _, _, early, late⟩, date⟩ :=
    Calendar.civilFromDays_located (unix / 86400 + 719468)
  rw [unixToYmdhms, date]
  generalize unix / 86400 + 719468 = z at *
  dsimp only
  refine ⟨?_, ?_, fun soon => ?_⟩
  · split <;> omega
  · split <;> omega
  · split <;> omega

theorem toUnixSecs_inj {t t' : MatterTime} (same : t.toUnixSecs = t'.toUnixSecs) : t = t' := by
  obtain ⟨secs⟩ := t
  simp only [MatterTime.toUnixSecs, Nat.add_right_cancel_iff] at same
  rw [UInt32.toNat_inj.mp same]

theorem timeParts_cases (t : MatterTime) (isNotAfter : Bool) :
    (t = .noExpiry ∧ timeParts t isNotAfter = (0x18, noExpiryText)) ∨
      (t.toUnixSecs < utcTimeCutoffUnixSecs ∧
        timeParts t isNotAfter = (0x17, utcTimeText (unixToYmdhms t.toUnixSecs))) ∨
      timeParts t isNotAfter = (0x18, generalizedTimeText (unixToYmdhms t.toUnixSecs)) := by
  unfold timeParts
  split
  · rename_i sentinel
    exact .inl ⟨sentinel.1, rfl⟩
  · split
    · rename_i soon
      exact .inr (.inl ⟨soon, rfl⟩)
    · exact .inr (.inr rfl)

theorem utcTimeText_inj {t t' : MatterTime} (soon : t.toUnixSecs < utcTimeCutoffUnixSecs)
    (soon' : t'.toUnixSecs < utcTimeCutoffUnixSecs)
    (same : utcTimeText (unixToYmdhms t.toUnixSecs) = utcTimeText (unixToYmdhms t'.toUnixSecs)) :
    t = t' := by
  obtain ⟨low, _, high⟩ := year_bounds t
  obtain ⟨low', _, high'⟩ := year_bounds t'
  have high := high soon
  have high' := high' soon'
  obtain ⟨years, clocks⟩ := List.append_inj same (by simp)
  have rests := numeral_inj (by decide) (by decide) (Nat.mod_lt _ (by decide))
    (Nat.mod_lt _ (by decide)) years
  have good := unixToYmdhms_twoDigits t.toUnixSecs
  have good' := unixToYmdhms_twoDigits t'.toUnixSecs
  have sameYear : (unixToYmdhms t.toUnixSecs).date.year = (unixToYmdhms t'.toUnixSecs).date.year := by
    omega
  exact toUnixSecs_inj (unixToYmdhms_inj (clockText_inj good good' clocks sameYear))

theorem generalizedTimeText_inj {t t' : MatterTime}
    (same : generalizedTimeText (unixToYmdhms t.toUnixSecs) =
      generalizedTimeText (unixToYmdhms t'.toUnixSecs)) : t = t' := by
  have fits := Nat.lt_trans (year_bounds t).2.1 (by decide : 2140 < 10 ^ 4)
  have fits' := Nat.lt_trans (year_bounds t').2.1 (by decide : 2140 < 10 ^ 4)
  obtain ⟨years, clocks⟩ := List.append_inj same (by simp)
  exact toUnixSecs_inj (unixToYmdhms_inj (clockText_inj (unixToYmdhms_twoDigits _)
    (unixToYmdhms_twoDigits _) clocks (numeral_inj (by decide) (by decide) fits fits' years)))

theorem noExpiryText_ne (t : MatterTime) :
    noExpiryText ≠ generalizedTimeText (unixToYmdhms t.toUnixSecs) := by
  intro same
  have split : noExpiryText = numeral 10 4 9999 ++ (numeral 10 10 1231235959 ++ [0x5a]) := by decide
  rw [split] at same
  obtain ⟨years, _⟩ := List.append_inj same (by simp)
  have high := (year_bounds t).2.1
  have late := numeral_inj (by decide) (by decide) (by decide)
    (Nat.lt_trans high (by decide : 2140 < 10 ^ 4)) years
  rw [← late] at high
  exact absurd high (by decide)

theorem timeTree_inj {t t' : MatterTime} {isNotAfter : Bool}
    (same : timeTree t isNotAfter = timeTree t' isNotAfter) : t = t' := by
  have parts : timeParts t isNotAfter = timeParts t' isNotAfter := by
    simp only [timeTree, primitive.injEq] at same
    exact Prod.ext same.1 same.2
  obtain ⟨sentinel, form⟩ | ⟨soon, form⟩ | form := timeParts_cases t isNotAfter <;>
    obtain ⟨sentinel', form'⟩ | ⟨soon', form'⟩ | form' := timeParts_cases t' isNotAfter <;>
    rw [form, form', Prod.mk.injEq] at parts
  · exact sentinel.trans sentinel'.symm
  · exact absurd parts.1 (by decide)
  · exact absurd parts.2 (noExpiryText_ne t')
  · exact absurd parts.1 (by decide)
  · exact utcTimeText_inj soon soon' parts.2
  · exact absurd parts.1 (by decide)
  · exact absurd parts.2.symm (noExpiryText_ne t)
  · exact absurd parts.1 (by decide)
  · exact generalizedTimeText_inj parts.2

/-! Extensions. -/

theorem constraintsTree_inj {constraints other : BasicConstraints}
    (same : constraintsTree constraints.signed = constraintsTree other.signed) :
    constraints.signed = other.signed := by
  have elements := sequence_inj same
  obtain ⟨isCa, pathLen⟩ := constraints
  obtain ⟨isCa', pathLen'⟩ := other
  cases isCa <;> cases isCa' <;> cases pathLen <;> cases pathLen' <;>
    simp_all [BasicConstraints.signed, constraintsTree]

theorem reverseBits_inj (same : reverseBits a = reverseBits b) : a = b := by
  have reversed : a.toBitVec.reverse = b.toBitVec.reverse := congrArg UInt8.toBitVec same
  apply UInt8.toBitVec_inj.mp
  rw [← BitVec.reverse_reverse_eq (x := a.toBitVec), reversed, BitVec.reverse_reverse_eq]

theorem octets_inj {a b : UInt16} (low : a.toUInt8 = b.toUInt8)
    (high : (a >>> 8).toUInt8 = (b >>> 8).toUInt8) : a = b := by
  have low := congrArg UInt8.toNat low
  have high := congrArg UInt8.toNat high
  simp only [UInt16.toNat_toUInt8, UInt16.toNat_shiftRight] at low high
  apply UInt16.toNat_inj.mp
  have bound := a.toNat_lt
  have bound' := b.toNat_lt
  have eight : (8 : UInt16).toNat % 16 = 8 := rfl
  simp only [eight, Nat.shiftRight_eq_div_pow] at high
  omega

/-- Both octets can be told from a bit string. -/
theorem bitString_octets (usage : KeyUsage) :
    ((bitStringContent usage)[1]?.getD 0, (bitStringContent usage)[2]?.getD 0) =
      (reverseBits usage.bits.toUInt8, reverseBits (usage.bits >>> 8).toUInt8) := by
  unfold bitStringContent
  dsimp only
  split
  · rfl
  · rename_i highZero
    rw [not_not] at highZero
    split
    · rw [highZero]
      rfl
    · rename_i lowZero
      rw [not_not] at lowZero
      rw [highZero, lowZero]
      rfl

theorem bitStringContent_inj (same : bitStringContent usage = bitStringContent other) :
    usage = other := by
  have octets := bitString_octets usage
  rw [same, bitString_octets other, Prod.mk.injEq] at octets
  have bits := octets_inj (reverseBits_inj octets.1) (reverseBits_inj octets.2)
  exact congrArg KeyUsage.mk bits.symm

theorem purposeOid?_known (known : purposeOid? purpose = some oid) : oid ∈ knownOids := by
  unfold purposeOid? at known
  split at known <;> cases known <;> decide

theorem purposesTree_inj {usage other : List UInt32}
    (same : purposesTree (usage.filterMap purposeOid?) =
      purposesTree (other.filterMap purposeOid?)) :
    usage.filterMap purposeOid? = other.filterMap purposeOid? := by
  have known : ∀ usage : List UInt32, ∀ oid ∈ usage.filterMap purposeOid?, oid ∈ knownOids := by
    intro usage oid listed
    obtain ⟨purpose, _, isKnown⟩ := List.mem_filterMap.mp listed
    exact purposeOid?_known isKnown
  exact map_inj_between (fun oid listed oid' listed' => oidTree_inj (known _ oid listed)
    (known _ oid' listed')) (sequence_inj same)

theorem Block.ext {block other : Block n} (same : block.bytes = other.bytes) : block = other := by
  obtain ⟨bytes, _⟩ := block
  obtain ⟨bytes', _⟩ := other
  obtain rfl : bytes = bytes' := same
  rfl

theorem subjectKeyTree_inj {id other : KeyIdentifier}
    (same : subjectKeyTree id = subjectKeyTree other) : id = other := by
  simp only [subjectKeyTree, primitive.injEq, true_and] at same
  exact Block.ext same

theorem authorityKeyTree_inj {id other : KeyIdentifier}
    (same : authorityKeyTree id = authorityKeyTree other) : id = other := by
  have elements := sequence_inj same
  simp only [List.cons.injEq, primitive.injEq, true_and, and_true] at elements
  exact Block.ext elements

theorem publicKeyTree_inj {key other : PublicKey}
    (same : Signed.publicKeyTree key = Signed.publicKeyTree other) : key = other := by
  have elements := sequence_inj same
  simp only [List.cons.injEq, primitive.injEq, true_and, and_true] at elements
  obtain ⟨block, _⟩ := key
  obtain ⟨block', _⟩ := other
  obtain rfl : block = block' := Block.ext elements
  rfl

theorem extensionTree_inj (a b : Extension) (known : a.oid ∈ knownOids) (known' : b.oid ∈ knownOids)
    (same : a.tree = b.tree) : a = b := by
  have elements := sequence_inj same
  obtain ⟨oid, critical, value⟩ := a
  obtain ⟨oid', critical', value'⟩ := b
  have both : oidTree oid = oidTree oid' ∧ critical = critical' ∧ value = value' := by
    cases critical <;> cases critical' <;> simp_all
  obtain ⟨oids, rfl, rfl⟩ := both
  obtain rfl : oid = oid' := oidTree_inj known known' oids
  rfl

theorem mem_keys_of_present (listed : extension ∈ Signed.present slots) :
    extension.oid ∈ slots.map Prod.fst := by
  obtain ⟨⟨oid, slot⟩, found, made⟩ := List.mem_filterMap.mp listed
  obtain ⟨pair, _, rfl⟩ := Option.map_eq_some_iff.mp made
  exact List.mem_map_of_mem found

/-- Extensions of different types determine which are there. -/
theorem present_inj (keys : slots.map Prod.fst = slots'.map Prod.fst)
    (distinct : (slots.map Prod.fst).Nodup) (same : Signed.present slots = Signed.present slots') :
    slots = slots' := by
  induction slots generalizing slots' with
  | nil => exact (List.map_eq_nil_iff.mp keys.symm).symm
  | cons first rest ih =>
    cases slots' with
    | nil => cases keys
    | cons first' rest' =>
      obtain ⟨oid, slot⟩ := first
      obtain ⟨oid', slot'⟩ := first'
      simp only [List.map_cons, List.cons.injEq, List.nodup_cons] at keys distinct
      obtain ⟨rfl, restKeys⟩ := keys
      cases slot with
      | none =>
        cases slot' with
        | none => rw [ih restKeys distinct.2 same]
        | some pair =>
          have listed : ⟨oid, pair.1, pair.2⟩ ∈ Signed.present rest := by
            rw [show Signed.present rest = ⟨oid, pair.1, pair.2⟩ :: Signed.present rest' from same]
            exact List.mem_cons_self
          exact absurd (mem_keys_of_present listed) distinct.1
      | some pair =>
        cases slot' with
        | none =>
          have listed : ⟨oid, pair.1, pair.2⟩ ∈ Signed.present rest' := by
            rw [show Signed.present rest' = ⟨oid, pair.1, pair.2⟩ :: Signed.present rest from
              same.symm]
            exact List.mem_cons_self
          exact absurd (mem_keys_of_present listed) (restKeys ▸ distinct.1)
        | some pair' =>
          obtain ⟨heads, tails⟩ := List.cons.inj same
          rw [Extension.mk.injEq] at heads
          rw [ih restKeys distinct.2 tails, Prod.ext heads.2.1 heads.2.2]

namespace Signed

def extensionOids : List Oid := [
  .extBasicConstraints, .extKeyUsage, .extExtendedKeyUsage, .extSubjectKeyIdentifier,
  .extAuthorityKeyIdentifier]

theorem keys_slots (signed : Signed) : signed.slots.map Prod.fst = extensionOids := rfl

theorem slots_of_extensionsTree {signed other : Signed}
    (same : signed.extensionsTree = other.extensionsTree) : signed.slots = other.slots := by
  have known : ∀ signed : Signed, ∀ extension ∈ signed.extensions, extension.oid ∈ knownOids := by
    intro signed extension listed
    have key := mem_keys_of_present listed
    exact (by decide : ∀ oid ∈ extensionOids, oid ∈ knownOids) _ key
  simp only [extensionsTree, constructed.injEq, List.cons.injEq, true_and, and_true] at same
  have listed := map_inj_between (fun a listed b listed' => extensionTree_inj a b
    (known _ a listed) (known _ b listed')) (sequence_inj same)
  exact present_inj rfl (by rw [keys_slots]; decide) listed

theorem length_value_lt {signed : Signed} {issuer subject : List (Oid × StringType × Bytes)}
    {critical : Bool} {value : Bytes} (slot : (oid, some (critical, value)) ∈ signed.slots) :
    value.length < (signed.tree issuer subject).encode.length := by
  have listed : ⟨oid, critical, value⟩ ∈ signed.extensions :=
    List.mem_filterMap.mpr ⟨_, slot, rfl⟩
  calc value.length
      < (primitive 0x04 (by decide) value).encode.length := length_primitive_lt ..
    _ < (Extension.tree ⟨oid, critical, value⟩).encode.length := length_encode_lt (by simp)
    _ < (sequence (signed.extensions.map Extension.tree)).encode.length :=
      length_encode_lt (List.mem_map_of_mem listed)
    _ < signed.extensionsTree.encode.length := length_encode_lt List.mem_cons_self
    _ < (signed.tree issuer subject).encode.length := length_encode_lt (by simp)

end Signed

/-- Two optional values that are shown alike are the same. -/
theorem option_eq_of_map (inj : ∀ a b, slot = some a → other = some b → f a = f b → a = b)
    (same : slot.map f = other.map f) : slot = other := by
  cases slot with
  | none =>
    cases other with
    | none => rfl
    | some b => cases same
  | some a =>
    cases other with
    | none => cases same
    | some b => rw [inj a b rfl rfl (Option.some.inj same)]

theorem keyUsageTree_inj (same : keyUsageTree usage = keyUsageTree other) : usage = other := by
  simp only [keyUsageTree, primitive.injEq, true_and] at same
  exact bitStringContent_inj same

/-- The extensions of two certificates that are shown alike. -/
theorem extensions_of_slots {a b : MatterCertificate}
    (short : ∀ oid critical value, (oid, some (critical, value)) ∈ a.signed.slots →
      value.length < 256 ^ 8) (same : a.signed.slots = b.signed.slots) :
    a.signed.basicConstraints = b.signed.basicConstraints ∧
      a.signed.keyUsage = b.signed.keyUsage ∧ a.signed.purposes = b.signed.purposes ∧
      a.signed.subjectKeyIdentifier = b.signed.subjectKeyIdentifier ∧
      a.signed.authorityKeyIdentifier = b.signed.authorityKeyIdentifier := by
  have slots := same
  simp only [Signed.slots, List.cons.injEq, Prod.mk.injEq, true_and, and_true] at slots
  obtain ⟨constraints, usage, purposes, subjectKey, authorityKey⟩ := slots
  refine ⟨?_, ?_, ?_, ?_, ?_⟩
  · refine option_eq_of_map (fun c c' here there values => ?_) constraints
    obtain ⟨original, _, rfl⟩ := Option.map_eq_some_iff.mp here
    obtain ⟨original', _, rfl⟩ := Option.map_eq_some_iff.mp there
    have fits := short .extBasicConstraints true (constraintsTree original.signed).encode
      (by simp [Signed.slots, here])
    exact constraintsTree_inj (encode_inj fits (Prod.mk.inj values).2)
  · refine option_eq_of_map (fun u u' here there values => ?_) usage
    have fits := short .extKeyUsage true (keyUsageTree u).encode (by simp [Signed.slots, here])
    exact keyUsageTree_inj (encode_inj fits (Prod.mk.inj values).2)
  · refine option_eq_of_map (fun oids oids' here there values => ?_) purposes
    obtain ⟨original, _, rfl⟩ := Option.map_eq_some_iff.mp here
    obtain ⟨original', _, rfl⟩ := Option.map_eq_some_iff.mp there
    have fits := short .extExtendedKeyUsage true
      (purposesTree (original.filterMap purposeOid?)).encode (by simp [Signed.slots, here])
    exact purposesTree_inj (encode_inj fits (Prod.mk.inj values).2)
  · refine option_eq_of_map (fun id id' here there values => ?_) subjectKey
    have fits := short .extSubjectKeyIdentifier false (subjectKeyTree id).encode
      (by simp [Signed.slots, here])
    exact subjectKeyTree_inj (encode_inj fits (Prod.mk.inj values).2)
  · refine option_eq_of_map (fun id id' here there values => ?_) authorityKey
    have fits := short .extAuthorityKeyIdentifier false (authorityKeyTree id).encode
      (by simp [Signed.slots, here])
    exact authorityKeyTree_inj (encode_inj fits (Prod.mk.inj values).2)

/-- Equal octets show the same. -/
theorem signed_of_toX509TbsDer {a b : MatterCertificate} {der : Octets}
    (first : a.toX509TbsDer = .ok der.bytes) (second : b.toX509TbsDer = .ok der.bytes) :
    a.signed = b.signed := by
  obtain ⟨issuer, subject, issuerParts, subjectParts, shown⟩ := toX509TbsDer_tree first
  obtain ⟨issuer', subject', issuerParts', subjectParts', shown'⟩ := toX509TbsDer_tree second
  have fits : (a.signed.tree issuer subject).encode.length < 256 ^ 8 := by
    rw [← shown]
    exact Nat.lt_trans der.addressable (by decide)
  have trees := encode_inj fits (shown.symm.trans shown')
  have parts := sequence_inj trees
  simp only [List.cons.injEq, primitive.injEq, true_and, and_true] at parts
  obtain ⟨serials, issuers, validities, subjects, keys, extensions⟩ := parts
  have times := sequence_inj validities
  simp only [List.cons.injEq, and_true] at times
  obtain ⟨constraints, usage, purposes, subjectKey, authorityKey⟩ := extensions_of_slots
    (fun _ _ _ slot => Nat.lt_trans (Signed.length_value_lt slot) fits)
    (Signed.slots_of_extensionsTree extensions)
  exact Signed.ext serials (name_of_nameTree issuerParts issuerParts' issuers)
    (timeTree_inj times.1) (timeTree_inj times.2)
    (name_of_nameTree subjectParts subjectParts' subjects) (publicKeyTree_inj keys) constraints
    usage purposes subjectKey authorityKey

/-! What the signature leaves open. -/

def MatterCertificate.unsigned (cert : MatterCertificate) : UnsignedCertificate where
  serial := cert.serial
  issuer := cert.issuer
  notBefore := cert.notBefore
  notAfter := cert.notAfter
  subject := cert.subject
  publicKey := cert.publicKey
  extensions := cert.extensions

/-- A certificate all of which is signed. -/
structure Faithful (cert : MatterCertificate) : Prop where
  serial : ∀ next rest, cert.serial.bytes = 0x00 :: next :: rest → next &&& 0x80 = 0
  pathLength : ∀ constraints, cert.extensions.basicConstraints = some constraints →
    constraints.isCa = false → constraints.pathLenConstraint = none
  purposes : ∀ usage, cert.extensions.extendedKeyUsage = some usage →
    ∀ purpose ∈ usage, (purposeOid? purpose).isSome

theorem integerOctets_inj (plain : ∀ next rest, serial = 0x00 :: next :: rest → next &&& 0x80 = 0)
    (plain' : ∀ next rest, other = 0x00 :: next :: rest → next &&& 0x80 = 0)
    (same : integerOctets serial = integerOctets other) : serial = other := by
  have marked : ∀ {bytes : Bytes}, (bytes.head?.any fun first => first &&& 0x80 ≠ 0) = true →
      ∃ first rest, bytes = first :: rest ∧ first &&& 0x80 ≠ 0 := by
    intro bytes high
    cases bytes with
    | nil => cases high
    | cons first rest => exact ⟨first, rest, rfl, by simpa using high⟩
  unfold integerOctets at same
  split at same <;> split at same
  · exact (List.cons.inj same).2
  · rename_i high _
    obtain ⟨first, rest, rfl, isHigh⟩ := marked high
    exact absurd (plain' first rest same.symm) isHigh
  · rename_i _ high
    obtain ⟨first, rest, rfl, isHigh⟩ := marked high
    exact absurd (plain first rest same) isHigh
  · exact same

theorem purposeOid?_inj (here : purposeOid? purpose = some oid)
    (there : purposeOid? other = some oid) : purpose = other := by
  unfold purposeOid? at here there
  split at here <;> cases here <;> split at there <;> first | rfl | exact absurd there (by decide)

theorem filterMap_purposeOid?_inj {usage other : List UInt32}
    (known : ∀ purpose ∈ usage, (purposeOid? purpose).isSome)
    (known' : ∀ purpose ∈ other, (purposeOid? purpose).isSome)
    (same : usage.filterMap purposeOid? = other.filterMap purposeOid?) : usage = other := by
  induction usage generalizing other with
  | nil =>
    cases other with
    | nil => rfl
    | cons purpose rest =>
      obtain ⟨oid, isKnown⟩ := Option.isSome_iff_exists.mp (known' purpose List.mem_cons_self)
      rw [List.filterMap_cons_some isKnown] at same
      cases same
  | cons purpose rest ih =>
    rw [List.forall_mem_cons] at known
    obtain ⟨oid, isKnown⟩ := Option.isSome_iff_exists.mp known.1
    rw [List.filterMap_cons_some isKnown] at same
    cases other with
    | nil => cases same
    | cons purpose' rest' =>
      rw [List.forall_mem_cons] at known'
      obtain ⟨oid', isKnown'⟩ := Option.isSome_iff_exists.mp known'.1
      rw [List.filterMap_cons_some isKnown'] at same
      obtain ⟨rfl, later⟩ := List.cons.inj same
      rw [purposeOid?_inj isKnown isKnown', ih known.2 known'.2 later]

theorem signed_constraints_inj {slot other : Option BasicConstraints}
    (plain : ∀ c, slot = some c → c.isCa = false → c.pathLenConstraint = none)
    (plain' : ∀ c, other = some c → c.isCa = false → c.pathLenConstraint = none)
    (same : slot.map (·.signed) = other.map (·.signed)) : slot = other := by
  have kept : ∀ c : BasicConstraints, (c.isCa = false → c.pathLenConstraint = none) →
      c.signed = c := by
    rintro ⟨isCa, pathLen⟩ unset
    cases isCa with
    | true => rfl
    | false => rw [show pathLen = none from unset rfl]; rfl
  refine option_eq_of_map (fun c c' here there values => ?_) same
  rwa [kept c (plain c here), kept c' (plain' c' there)] at values

theorem Faithful.unsigned_inj (first : Faithful a) (second : Faithful b)
    (same : a.signed = b.signed) : a.unsigned = b.unsigned := by
  simp only [MatterCertificate.signed, Signed.mk.injEq] at same
  obtain ⟨serials, issuers, befores, afters, subjects, keys, constraints, usages, purposes,
    subjectKeys, authorityKeys⟩ := same
  have serial : a.serial = b.serial := by
    have octets := integerOctets_inj first.serial second.serial serials
    revert octets
    cases a.serial
    cases b.serial
    simp
  have extensions : a.extensions = b.extensions := by
    have constraints := signed_constraints_inj first.pathLength second.pathLength constraints
    have purposes := option_eq_of_map (fun usage usage' here there values =>
      filterMap_purposeOid?_inj (first.purposes usage here) (second.purposes usage' there) values)
      purposes
    revert constraints usages purposes subjectKeys authorityKeys
    cases a.extensions
    cases b.extensions
    simp_all
  simp [MatterCertificate.unsigned, serial, issuers, befores, afters, subjects, keys, extensions]

/-- A serial without the zero that is put in front of a high octet anyway. -/
def plainSerial : Bytes → Bytes
  | 0x00 :: next :: rest => if next &&& 0x80 = 0 then 0x00 :: next :: rest else next :: rest
  | serial => serial

theorem length_plainSerial_le (serial : Bytes) : (plainSerial serial).length ≤ serial.length := by
  unfold plainSerial
  split
  · split <;> simp
  · exact Nat.le_refl _

/-- What is left of a certificate without the parts that are not signed. -/
def MatterCertificate.plain (cert : MatterCertificate) : MatterCertificate :=
  { cert with
    serial := ⟨plainSerial cert.serial.bytes,
      Nat.lt_of_le_of_lt (length_plainSerial_le _) cert.serial.addressable⟩
    extensions := { cert.extensions with
      basicConstraints := cert.extensions.basicConstraints.map (·.signed)
      extendedKeyUsage := cert.extensions.extendedKeyUsage.map
        (·.filter fun purpose => (purposeOid? purpose).isSome) } }

theorem faithful_plain (cert : MatterCertificate) : Faithful cert.plain where
  serial next rest begins := by
    change plainSerial cert.serial.bytes = _ at begins
    unfold plainSerial at begins
    split at begins
    · split at begins
      · rename_i low
        cases begins
        exact low
      · rename_i high
        cases begins
        exact absurd rfl high
    · rename_i other
      exact absurd begins (other next rest)
  pathLength constraints kept notCa := by
    obtain ⟨original, _, rfl⟩ := Option.map_eq_some_iff.mp kept
    unfold BasicConstraints.signed at notCa ⊢
    split
    · rename_i isCa
      rw [if_pos isCa, isCa] at notCa
      cases notCa
    · rfl
  purposes usage kept purpose member := by
    obtain ⟨original, _, rfl⟩ := Option.map_eq_some_iff.mp kept
    exact (List.mem_filter.mp member).2

theorem encodeSerialNumber_plain (serial : Bytes) :
    encodeSerialNumber (plainSerial serial) = encodeSerialNumber serial := by
  unfold plainSerial
  split
  · split
    · rfl
    · rename_i high
      simp [encodeSerialNumber, integerOctets, high]
  · rfl

theorem encodeBasicConstraints_signed (constraints : BasicConstraints) :
    encodeBasicConstraints constraints.signed = encodeBasicConstraints constraints := by
  obtain ⟨isCa, pathLen⟩ := constraints
  cases isCa <;> rfl

theorem filterMap_purposeOid_filter (usage : List UInt32) :
    (usage.filter fun purpose => (purposeOid? purpose).isSome).filterMap purposeOid? =
      usage.filterMap purposeOid? := by
  rw [List.filterMap_filter]
  congr 1
  funext purpose
  cases purposeOid? purpose <;> rfl

theorem toX509TbsDer_plain (cert : MatterCertificate) :
    cert.plain.toX509TbsDer = cert.toX509TbsDer := by
  have extensions : encodeExtensionsBlock cert.plain.extensions =
      encodeExtensionsBlock cert.extensions := by
    simp [encodeExtensionsBlock, MatterCertificate.plain, encodeExtendedKeyUsage,
      Function.comp_def, encodeBasicConstraints_signed, filterMap_purposeOid_filter]
  rw [MatterCertificate.toX509TbsDer, MatterCertificate.toX509TbsDer, extensions]
  exact congrArg (· >>= _) (encodeSerialNumber_plain _)

/-- A certificate is bound by its signed bytes, among those all of which is signed, exactly
when all of it is signed: any other one shares them with its plain form. -/
theorem tbs_binds_iff {a : MatterCertificate} {der : Octets}
    (converted : a.toX509TbsDer = .ok der.bytes) :
    Faithful a ↔ ∀ b : MatterCertificate, Faithful b → b.toX509TbsDer = .ok der.bytes →
      a.unsigned = b.unsigned := by
  constructor
  · intro faithful b faithful' same
    exact faithful.unsigned_inj faithful' (signed_of_toX509TbsDer converted same)
  · intro binds
    have plain := faithful_plain a
    have same := binds _ plain ((toX509TbsDer_plain a).trans converted)
    simp only [MatterCertificate.unsigned, UnsignedCertificate.mk.injEq] at same
    obtain ⟨serial, _, _, _, _, _, extensions⟩ := same
    exact ⟨serial ▸ plain.serial, extensions ▸ plain.pathLength, extensions ▸ plain.purposes⟩

/-- A certificate with another serial number and other extensions. -/
def sampleWith (serial : Octets) (extensions : Extensions) : MatterCertificate :=
  { sampleCertificate with serial, extensions }

def sampleDer (cert : MatterCertificate) : Bytes := cert.toX509TbsDer.toOption.getD []

theorem tbs_binds_authority :
    ∃ ca : MatterCertificate, ca.extensions.extendedKeyUsage = some [1, 2] ∧
      ∀ b, Faithful b → b.toX509TbsDer = .ok (sampleDer ca) → ca.unsigned = b.unsigned := by
  let ca := sampleWith ⟨[0x00, 0x7f], by decide⟩
    { basicConstraints := some ⟨true, some 3⟩, extendedKeyUsage := some [1, 2] }
  have faithful : Faithful ca :=
    ⟨by rintro _ _ ⟨⟩; rfl, by rintro _ ⟨⟩ ⟨⟩, by rintro _ ⟨⟩; simp [purposeOid?]⟩
  have converted : ca.toX509TbsDer =
      .ok (⟨sampleDer ca, by decide +kernel⟩ : Octets).bytes := by decide +kernel
  exact ⟨ca, rfl, (tbs_binds_iff converted).mp faithful⟩

def textOf (cert : MatterCertificate) (short : ((Value.struct cert.members).encode
    .anonymous).length < allocLimit) : Octets × MatterCertificate :=
  (⟨(Value.struct cert.members).encode .anonymous, short⟩, cert)

/-- The signed bytes of a certificate all of which is signed are those of no other. -/
theorem faithful_tbs_binds {a b : MatterCertificate} {der : Octets}
    (first : a.toX509TbsDer = .ok der.bytes) (second : b.toX509TbsDer = .ok der.bytes)
    (faithful : Faithful a) (faithful' : Faithful b) : a.unsigned = b.unsigned :=
  faithful.unsigned_inj faithful' (signed_of_toX509TbsDer first second)

theorem faithful_tbs_binds_resigned :
    sampleCertificate.unsigned =
      { sampleCertificate with signature := .fill 64 1 : MatterCertificate }.unsigned := by
  have faithful : Faithful sampleCertificate := ⟨nofun, by rintro _ ⟨⟩ _; rfl, nofun⟩
  have signed : sampleCertificate.toX509TbsDer =
      .ok (⟨sampleDer sampleCertificate, by decide +kernel⟩ : Octets).bytes := by decide +kernel
  exact faithful_tbs_binds signed (by decide +kernel) faithful ⟨nofun, faithful.pathLength, nofun⟩

/-- A zero in front of a serial number, a path length without a CA, a purpose
without an identifier. -/
def confusedPairs : List ((Octets × MatterCertificate) × (Octets × MatterCertificate)) := [
  (textOf (sampleWith ⟨[0x80], by decide⟩ {}) (by decide +kernel),
    textOf (sampleWith ⟨[0x00, 0x80], by decide⟩ {}) (by decide +kernel)),
  (textOf (sampleWith sampleCertificate.serial { basicConstraints := some ⟨false, none⟩ })
      (by decide +kernel),
    textOf (sampleWith sampleCertificate.serial { basicConstraints := some ⟨false, some 3⟩ })
      (by decide +kernel)),
  (textOf (sampleWith sampleCertificate.serial { extendedKeyUsage := some [2] }) (by decide +kernel),
    textOf (sampleWith sampleCertificate.serial { extendedKeyUsage := some [2, 7] })
      (by decide +kernel))]

theorem tbs_shared_by_different_certificates :
    confusedPairs.Forall fun pair =>
      MatterCertificate.fromTlv pair.1.1 = .ok pair.1.2 ∧
      MatterCertificate.fromTlv pair.2.1 = .ok pair.2.2 ∧
      pair.1.2.toX509TbsDer = .ok (sampleDer pair.1.2) ∧
      pair.2.2.toX509TbsDer = .ok (sampleDer pair.1.2) ∧ pair.1.2.unsigned ≠ pair.2.2.unsigned := by
  decide +kernel

end Matter.Cert
