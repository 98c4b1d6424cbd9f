import Matter.Controller.State
import Matter.Interaction.ListWrite

/-! Writing the access control list of a device. The list is looked at once, as a
whole and without its targets; the device applies it message by message. -/
namespace Matter.Controller
open Codec hiding Error
open Interaction Value

inductive AclPrivilege where
  | view
  | proxyView
  | operate
  | manage
  | administer
  | unknown (raw : UInt8)
  deriving DecidableEq

def AclPrivilege.toRaw : AclPrivilege → UInt8
  | view => 1
  | proxyView => 2
  | operate => 3
  | manage => 4
  | administer => 5
  | unknown raw => raw

inductive AclAuthMode where
  | pase
  | «case»
  | group
  | unknown (raw : UInt8)
  deriving DecidableEq

def AclAuthMode.toRaw : AclAuthMode → UInt8
  | pase => 1
  | «case» => 2
  | group => 3
  | unknown raw => raw

/-- A field that is absent matches everything. -/
structure AclTarget where
  cluster : Option UInt32
  endpoint : Option UInt16
  deviceType : Option UInt32
  deriving DecidableEq

structure AclEntry where
  privilege : AclPrivilege
  authMode : AclAuthMode
  subjects : Option (List UInt64)
  targets : Option (List AclTarget)
  fabricIndex : Option UInt8
  deriving DecidableEq

open AclEntry

def accessControlCluster : UInt32 := 0x001f
def attrAcl : UInt32 := 0x0000

def optU64List : Option (List UInt64) → Value
  | none => null
  | some numbers => array (numbers.map uint)

def optUint (n : Option UInt64) : Value := (n.map uint).getD null

def targetValue (target : AclTarget) : Value :=
  struct [
    (.context 0, optUint (target.cluster.map UInt32.toUInt64)),
    (.context 1, optUint (target.endpoint.map UInt16.toUInt64)),
    (.context 2, optUint (target.deviceType.map UInt32.toUInt64))]

def targetsValue : Option (List AclTarget) → Value
  | none => null
  | some targets => array (targets.map targetValue)

def aclEntryValue (entry : AclEntry) : Value :=
  struct ([
    (.context 1, uint entry.privilege.toRaw.toUInt64),
    (.context 2, uint entry.authMode.toRaw.toUInt64),
    (.context 3, optU64List entry.subjects),
    (.context 4, targetsValue entry.targets)] ++
    entry.fabricIndex.toList.map fun index => (.context 254, uint index.toUInt64))

def aclRetainsAdmin (entries : List AclEntry) (ourNodeId : UInt64) : Bool :=
  entries.any fun entry =>
    entry.privilege = .administer && entry.authMode = .case &&
      match entry.subjects with
      | none => true
      | some subjects => subjects.contains ourNodeId

def valueToTlv (value : Value) : Except Error Bytes :=
  match (TlvWriter.writeValue .anonymous value).run [] with
  | .ok () out => .ok out
  | .error e _ => .error (.codec e)

def aclPath : AttributePath := ⟨0, accessControlCluster, attrAcl⟩

/-- The messages of `write_acl`, in the order they are sent. -/
def writeAclWithBudget (our : UInt64) (entries : List AclEntry) (budget : Nat) :
    Except Error (List Bytes) := do
  if !aclRetainsAdmin entries our then throw .aclWouldLockOut
  let elements ← entries.mapM fun entry => valueToTlv (aclEntryValue entry)
  match buildListWriteChunks aclPath elements budget false with
  | .ok chunks => return chunks
  | .error e => throw (.codec e)

/-! What the device has at any point. -/

def applyWrite (held : List Bytes) (write : ListWrite) : List Bytes :=
  if write.append then held ++ write.elements else write.elements

/-- After these messages the list has the entry. -/
def AclHolds (messages : List Bytes) (entry : AclEntry) : Prop :=
  ∃ writes : List ListWrite, (∀ write ∈ writes, write.Valid) ∧
    messages = writes.map ListWrite.layout ∧
    (aclEntryValue entry).encode .anonymous ∈ writes.foldl applyWrite []

/-- The target is the list itself, on a root endpoint of the given device types. -/
def AclTarget.Covers (rootTypes : List UInt32) (target : AclTarget) : Prop :=
  (target.cluster = none ∨ target.cluster = some accessControlCluster) ∧
  (target.endpoint = none ∨ target.endpoint = some 0) ∧
  (target.deviceType = none ∨ ∃ type ∈ rootTypes, target.deviceType = some type)

/-- Whoever has a certificate session as `node` may write the list. This assumes of the device
that a list of subjects or targets that is there but empty matches nothing. -/
structure AclEntry.Administers (rootTypes : List UInt32) (node : UInt64) (entry : AclEntry) :
    Prop where
  privilege : entry.privilege.toRaw = 5
  authMode : entry.authMode.toRaw = 2
  subjects : entry.subjects = none ∨ ∃ subjects, entry.subjects = some subjects ∧ node ∈ subjects
  targets : entry.targets = none ∨
    ∃ targets, entry.targets = some targets ∧ ∃ target ∈ targets, target.Covers rootTypes

/-! An entry as it stands on the wire. -/

def AclEntry.element (entry : AclEntry) : Bytes := (aclEntryValue entry).encode .anonymous

theorem plain_uint (n : UInt64) : (uint n).Plain := by
  change (ofRef (.uint n)).Plain
  refine .ref rfl fun tag => ?_
  obtain ⟨payload, sized, header⟩ := encodeTag_shape tag
  have tagBound : tag.form.size ≤ 8 := by cases tag.form <;> decide
  have bodyBound := (Width.ofUnsigned n.toNat).bytes_le
  simp only [ValueRef.encode, ValueRef.type, ValueRef.body, header, List.length_append,
    List.length_cons, LittleEndian.length_encode, sized, allocLimit]
  omega

theorem plain_null : null.Plain := by
  change (ofRef .null).Plain
  refine .ref rfl fun tag => ?_
  obtain ⟨payload, sized, header⟩ := encodeTag_shape tag
  have tagBound : tag.form.size ≤ 8 := by cases tag.form <;> decide
  simp only [ValueRef.encode, ValueRef.type, ValueRef.body, header, List.length_append,
    List.length_cons, List.length_nil, sized, allocLimit]
  omega

theorem plain_struct (each : ∀ member ∈ members, member.2.Plain) : (struct members).Plain := by
  change (ofMembers .struct members).Plain
  exact .members nofun each

theorem plain_array (each : ∀ value ∈ elements, value.Plain) : (array elements).Plain := by
  rw [array_eq_ofMembers]
  refine .members (permitted_untagged .array elements) fun member found => ?_
  obtain ⟨value, inside, rfl⟩ := List.mem_map.mp found
  exact each value inside

theorem plain_optUint (n : Option UInt64) : (optUint n).Plain := by
  cases n with
  | none => exact plain_null
  | some n => exact plain_uint n

theorem plain_targetValue (target : AclTarget) : (targetValue target).Plain := by
  apply plain_struct
  simp only [List.forall_mem_cons]
  exact ⟨plain_optUint _, plain_optUint _, plain_optUint _, nofun⟩

theorem plain_optU64List (numbers : Option (List UInt64)) : (optU64List numbers).Plain := by
  cases numbers with
  | none => exact plain_null
  | some numbers =>
    refine plain_array fun value found => ?_
    obtain ⟨n, -, rfl⟩ := List.mem_map.mp found
    exact plain_uint n

theorem plain_targetsValue (targets : Option (List AclTarget)) : (targetsValue targets).Plain := by
  cases targets with
  | none => exact plain_null
  | some targets =>
    refine plain_array fun value found => ?_
    obtain ⟨target, -, rfl⟩ := List.mem_map.mp found
    exact plain_targetValue target

theorem plain_aclEntryValue (entry : AclEntry) : (aclEntryValue entry).Plain := by
  apply plain_struct
  simp only [List.cons_append, List.nil_append, List.forall_mem_cons]
  refine ⟨plain_uint _, plain_uint _, plain_optU64List _, plain_targetsValue _, ?_⟩
  intro member found
  obtain ⟨index, -, rfl⟩ := List.mem_map.mp found
  exact plain_uint _

theorem toUInt64_inj {a b : UInt8} (same : a.toUInt64 = b.toUInt64) : a = b := by
  have numbers := congrArg UInt64.toNat same
  exact UInt8.toNat_inj.mp numbers

theorem optUint_inj (same : optUint a = optUint b) : a = b := by
  cases a with
  | none =>
    cases b with
    | none => rfl
    | some b => cases same
  | some a =>
    cases b with
    | none => cases same
    | some b =>
      cases same
      rfl

theorem targetValue_inj (same : targetValue a = targetValue b) : a = b := by
  obtain ⟨cluster, endpoint, deviceType⟩ := a
  simp only [targetValue, struct.injEq, List.cons.injEq, Prod.mk.injEq, true_and, and_true] at same
  obtain ⟨clusters, endpoints, types⟩ := same
  have wide32 : Function.Injective UInt32.toUInt64 := fun a b same => by
    have numbers := congrArg UInt64.toNat same
    exact UInt32.toNat_inj.mp numbers
  have wide16 : Function.Injective UInt16.toUInt64 := fun a b same => by
    have numbers := congrArg UInt64.toNat same
    exact UInt16.toNat_inj.mp numbers
  rw [Option.map_injective wide32 (optUint_inj clusters),
    Option.map_injective wide16 (optUint_inj endpoints),
    Option.map_injective wide32 (optUint_inj types)]

theorem optU64List_inj (same : optU64List a = optU64List b) : a = b := by
  cases a with
  | none =>
    cases b with
    | none => rfl
    | some b => cases same
  | some a =>
    cases b with
    | none => cases same
    | some b =>
      have numbers := array.inj same
      exact congrArg some (map_inj_between (fun _ _ _ _ same => uint.inj same) numbers)

theorem targetsValue_inj (same : targetsValue a = targetsValue b) : a = b := by
  cases a with
  | none =>
    cases b with
    | none => rfl
    | some b => cases same
  | some a =>
    cases b with
    | none => cases same
    | some b =>
      have values := array.inj same
      exact congrArg some (map_inj_between (fun _ _ _ _ same => targetValue_inj same) values)

/-- What an entry grants can be read off its bytes. -/
theorem AclEntry.Administers.of_element {entry other : AclEntry}
    (administers : entry.Administers rootTypes node) (same : entry.element = other.element) :
    other.Administers rootTypes node := by
  have values := ((plain_aclEntryValue entry).encode_inj (plain_aclEntryValue other) same).2
  simp only [aclEntryValue, struct.injEq, List.cons_append, List.nil_append, List.cons.injEq,
    Prod.mk.injEq, true_and, uint.injEq] at values
  obtain ⟨privileges, modes, subjects, targets, -⟩ := values
  have subjects := optU64List_inj subjects
  have targets := targetsValue_inj targets
  refine ⟨?_, ?_, ?_, ?_⟩
  · rw [← toUInt64_inj privileges]
    exact administers.privilege
  · rw [← toUInt64_inj modes]
    exact administers.authMode
  · rw [← subjects]
    exact administers.subjects
  · rw [← targets]
    exact administers.targets

theorem nesting_aclEntryValue_le (entry : AclEntry) : (aclEntryValue entry).nesting ≤ 3 := by
  have optional : ∀ n, (optUint n).nesting = 0 := fun n => by cases n <;> rfl
  have subjects : (optU64List entry.subjects).nesting ≤ 1 := by
    cases entry.subjects with
    | none => exact Nat.zero_le 1
    | some numbers =>
      have each : nestingElements (numbers.map uint) ≤ 0 := nestingElements_le (by simp [nesting])
      simp only [optU64List, nesting]
      omega
  have targets : (targetsValue entry.targets).nesting ≤ 2 := by
    cases entry.targets with
    | none => exact Nat.zero_le 2
    | some targets =>
      have each : nestingElements (targets.map targetValue) ≤ 1 := nestingElements_le (by
        simp [targetValue, nesting, nestingMembers, optional])
      simp only [targetsValue, nesting]
      omega
  have members : nestingMembers ([
      (.context 1, uint entry.privilege.toRaw.toUInt64),
      (.context 2, uint entry.authMode.toRaw.toUInt64),
      (.context 3, optU64List entry.subjects),
      (.context 4, targetsValue entry.targets)] ++
      entry.fabricIndex.toList.map fun index => (.context 254, uint index.toUInt64)) ≤ 2 := by
    apply nestingMembers_le
    simp only [List.cons_append, List.nil_append, List.forall_mem_cons]
    refine ⟨Nat.zero_le 2, Nat.zero_le 2, by omega, targets, ?_⟩
    intro member found
    obtain ⟨index, -, rfl⟩ := List.mem_map.mp found
    exact Nat.zero_le 2
  simp only [aclEntryValue, nesting]
  omega

theorem valueToTlv_aclEntryValue (entry : AclEntry) :
    valueToTlv (aclEntryValue entry) = .ok entry.element := by
  have shallow : (aclEntryValue entry).nesting ≤ maxDepth :=
    (nesting_aclEntryValue_le entry).trans (by decide)
  rw [valueToTlv, (TlvWriter.writeValue_writes .anonymous _).shallow shallow []]
  rfl

theorem isElement_elements {entries : List AclEntry} :
    ∀ e ∈ entries.map element, IsElement .anonymous e := by
  intro e found
  obtain ⟨entry, -, rfl⟩ := List.mem_map.mp found
  exact isElement_encode (aclEntryValue entry) .anonymous

theorem writeAclWithBudget_eq (retained : aclRetainsAdmin entries our = true) (budget : Nat) :
    writeAclWithBudget our entries budget =
      .ok ((packedContents aclPath budget false (entries.map element)).map
        ListWrite.layout) := by
  have encoded := mapM_ok fun entry (_ : entry ∈ entries) => valueToTlv_aclEntryValue entry
  rw [writeAclWithBudget, encoded, retained]
  change (match buildListWriteChunks aclPath (entries.map element) budget false with
    | .ok chunks => Except.ok chunks
    | .error e => .error (Error.codec e)) = _
  rw [buildListWriteChunks_eq aclPath budget false isElement_elements]

theorem aclRetainsAdmin_of_ok (accepted : writeAclWithBudget our entries budget = .ok messages) :
    aclRetainsAdmin entries our = true := by
  by_contra missing
  rw [Bool.not_eq_true] at missing
  rw [writeAclWithBudget, missing] at accepted
  cases accepted

/-! The first message replaces the list and the others add to it. -/

theorem foldl_applyWrite_append {writes : List ListWrite}
    (append : ∀ write ∈ writes, write.append = true) (held : List Bytes) :
    writes.foldl applyWrite held = held ++ writes.flatMap ListWrite.elements := by
  induction writes generalizing held with
  | nil => exact (List.append_nil held).symm
  | cons write rest ih =>
    simp only [List.forall_mem_cons] at append
    rw [List.foldl_cons, ih append.2, applyWrite, if_pos append.1, List.flatMap_cons,
      List.append_assoc]

theorem foldl_applyWrite {writes : List ListWrite}
    (kinds : ∀ i write, writes[i]? = some write → write.append = decide (0 < i)) :
    writes.foldl applyWrite [] = writes.flatMap ListWrite.elements := by
  cases writes with
  | nil => rfl
  | cons first rest =>
    have replaces : first.append = false := kinds 0 first rfl
    have append : ∀ write ∈ rest, write.append = true := by
      intro write found
      obtain ⟨i, there⟩ := List.mem_iff_getElem?.mp found
      exact kinds (i + 1) write there
    rw [List.foldl_cons, foldl_applyWrite_append append, applyWrite, replaces,
      if_neg Bool.false_ne_true, List.flatMap_cons]

theorem aclHolds_take_iff {contents : List ListWrite}
    (faithful : ListWrite.Faithful path elements budget timed contents) (k : Nat)
    (entry : AclEntry) :
    AclHolds ((contents.map ListWrite.layout).take k) entry ↔
      entry.element ∈ (contents.take k).flatMap ListWrite.elements := by
  have valid : ∀ write ∈ contents.take k, write.Valid :=
    fun write found => faithful.valid write (List.mem_of_mem_take found)
  have kinds : ∀ i write, (contents.take k)[i]? = some write → write.append = decide (0 < i) := by
    intro i write there
    rw [List.getElem?_take] at there
    split at there
    · exact faithful.kinds i write there
    · cases there
  rw [← foldl_applyWrite kinds]
  constructor
  · rintro ⟨writes, each, same, held⟩
    rw [← List.map_take] at same
    have only := map_inj_between (fun a inside b here same => ListWrite.layout_inj
      (valid a inside) (each b here) same) same
    rw [only]
    exact held
  · intro held
    exact ⟨contents.take k, valid, List.map_take.symm, held⟩

section FirstMessage
variable {entries : List AclEntry} {budget : Nat}

def firstElements (entries : List AclEntry) (budget : Nat) : List Bytes :=
  (firstFill aclPath budget false (entries.map AclEntry.element)).1

theorem getElem?_firstElements :
    (firstElements entries budget)[i]? = some e ↔
      ∃ entry, entries[i]? = some entry ∧ e = entry.element ∧
        (i = 0 ∨ ∃ length, encodedReplaceAllLen aclPath false
          ((entries.take (i + 1)).map element) = .ok length ∧
          length + chunkFlagReserve ≤ budget) := by
  have packs := firstFill_packs aclPath budget false (entries.map element)
  rw [List.nil_append] at packs
  have begins : firstElements entries budget =
      (entries.map element).take (firstElements entries budget).length := by
    conv_rhs => rw [← packs.whole]
    exact (List.take_left' rfl).symm
  have fits : ∀ entry, entries[i]? = some entry →
      (i < (firstElements entries budget).length ↔ i = 0 ∨ ∃ length,
        encodedReplaceAllLen aclPath false ((entries.take (i + 1)).map element) =
          .ok length ∧ length + chunkFlagReserve ≤ budget) := by
    intro entry there
    have inside : i < (entries.map element).length := by
      rw [List.length_map]
      exact (List.getElem?_eq_some_iff.mp there).1
    have reaches := packs.length_iff (ListWrite.size_replace_mono aclPath false) inside
    rw [encodedReplaceAllLen_eq aclPath false isElement_elements, List.map_take]
    simp only [Except.ok.injEq, exists_eq_left']
    exact reaches
  rw [begins, List.getElem?_take, List.getElem?_map]
  constructor
  · intro there
    split at there
    · rename_i taken
      obtain ⟨entry, found, rfl⟩ := Option.map_eq_some_iff.mp there
      exact ⟨entry, found, rfl, (fits entry found).mp taken⟩
    · cases there
  · rintro ⟨entry, found, rfl, taken⟩
    rw [if_pos ((fits entry found).mpr taken), found, Option.map_some]

theorem aclHolds_first_iff :
    AclHolds (((packedContents aclPath budget false (entries.map element)).map
      ListWrite.layout).take 1) entry ↔ entry.element ∈ firstElements entries budget := by
  rw [aclHolds_take_iff (packedContents_faithful aclPath budget false isElement_elements)]
  have first : ((packedContents aclPath budget false (entries.map element)).take 1).flatMap
      ListWrite.elements = firstElements entries budget := List.append_nil _
  rw [first]

theorem aclHolds_of_first (positive : 0 < k) (held : entry.element ∈ firstElements entries budget) :
    AclHolds (((packedContents aclPath budget false (entries.map element)).map
      ListWrite.layout).take k) entry := by
  have faithful : ListWrite.Faithful aclPath (entries.map element) budget false _ :=
    packedContents_faithful aclPath budget false isElement_elements
  rw [← aclHolds_first_iff, aclHolds_take_iff faithful, List.mem_flatMap] at held
  obtain ⟨write, early, inside⟩ := held
  rw [aclHolds_take_iff faithful, List.mem_flatMap]
  exact ⟨write, List.take_subset_take_left _ positive early, inside⟩

end FirstMessage

/-- Some entry that administers is in the list after every message if and only if one
is in the first: it heads the list, or the list up to it fits the budget. -/
theorem administrator_kept_iff {our : UInt64} {entries : List AclEntry} {budget : Nat}
    {messages : List Bytes} (rootTypes : List UInt32)
    (accepted : writeAclWithBudget our entries budget = .ok messages) :
    (∀ k, 0 < k → k ≤ messages.length →
      ∃ entry, AclHolds (messages.take k) entry ∧ entry.Administers rootTypes our) ↔
    ∃ i entry, entries[i]? = some entry ∧ entry.Administers rootTypes our ∧
      (i = 0 ∨ ∃ length, encodedReplaceAllLen aclPath false
        ((entries.take (i + 1)).map element) = .ok length ∧
        length + chunkFlagReserve ≤ budget) := by
  rw [writeAclWithBudget_eq (aclRetainsAdmin_of_ok accepted)] at accepted
  cases accepted
  constructor
  · intro kept
    obtain ⟨entry, held, administers⟩ := kept 1 Nat.one_pos (Nat.succ_pos _)
    obtain ⟨i, there⟩ := List.mem_iff_getElem?.mp (aclHolds_first_iff.mp held)
    obtain ⟨other, found, same, fits⟩ := getElem?_firstElements.mp there
    exact ⟨i, other, found, administers.of_element same, fits⟩
  · rintro ⟨i, entry, found, administers, fits⟩ k positive -
    have held := List.mem_of_getElem? (getElem?_firstElements.mpr ⟨entry, found, rfl, fits⟩)
    exact ⟨entry, aclHolds_of_first positive held, administers⟩

def administrator : AclEntry := ⟨.administer, .case, some [1], none, none⟩

/-- An entry that nobody administers with and that fills a message. -/
def crowd : AclEntry :=
  ⟨.view, .case, some ((List.range 90).map fun n => UInt64.ofNat (2 ^ 63 + n)), none, none⟩

/-- The administrator comes with the first of two messages. -/
theorem administrator_first_kept :
    ∃ messages, writeAclWithBudget 1 [administrator, crowd] 800 = .ok messages ∧
      messages.length = 2 ∧ ∀ k, 0 < k → k ≤ messages.length →
        ∃ entry, AclHolds (messages.take k) entry ∧ entry.Administers [] 1 := by
  have accepted := writeAclWithBudget_eq
    (show aclRetainsAdmin [administrator, crowd] 1 = true by decide) 800
  refine ⟨_, accepted, by decide +kernel, (administrator_kept_iff [] accepted).mpr ?_⟩
  exact ⟨0, administrator, rfl, ⟨rfl, rfl, .inr ⟨[1], rfl, List.mem_cons_self⟩, .inl rfl⟩, .inl rfl⟩

def elsewhere : AclEntry :=
  ⟨.administer, .case, some [1], some [⟨some 6, none, none⟩], none⟩

/-- Two accepted lists after whose first message nobody administers: the entry comes too
late, or its targets leave the list out. -/
theorem administrator_lost :
    (∃ messages, writeAclWithBudget 1 [crowd, administrator] 800 = .ok messages ∧
      messages.length = 2 ∧ ∀ rootTypes entry, AclHolds (messages.take 1) entry →
        ¬ entry.Administers rootTypes 1) ∧
    ∃ messages, writeAclWithBudget 1 [elsewhere] 800 = .ok messages ∧
      messages.length = 1 ∧ ∀ rootTypes entry, AclHolds (messages.take 1) entry →
        ¬ entry.Administers rootTypes 1 := by
  constructor
  · refine ⟨_, writeAclWithBudget_eq (by decide +kernel) 800, by decide +kernel, ?_⟩
    intro rootTypes entry held administers
    have only : firstElements [crowd, administrator] 800 = [crowd.element] := by decide +kernel
    rw [aclHolds_first_iff, only, List.mem_singleton] at held
    exact absurd (administers.of_element held).privilege (by decide)
  · refine ⟨_, writeAclWithBudget_eq (by decide +kernel) 800, by decide +kernel, ?_⟩
    intro rootTypes entry held administers
    have only : firstElements [elsewhere] 800 = [elsewhere.element] := by decide +kernel
    rw [aclHolds_first_iff, only, List.mem_singleton] at held
    obtain absent | ⟨targets, same, target, found, covers⟩ := (administers.of_element held).targets
    · cases absent
    · cases same
      obtain rfl := List.mem_singleton.mp found
      exact absurd covers.1 (by decide)

end Matter.Controller
