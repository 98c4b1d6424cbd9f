import Mathlib.Data.List.Forall2
import Matter.Cert.Chain
import Matter.Cert.Members
import Matter.Codec.Canonical
import Matter.Controller.State
import Matter.Handshake.Encoding

/-! The snapshot of a controller's state. Every record becomes one structure; what
comes back is the record with its texts cut where the reader cuts them, as long as
the reader may read all the elements. -/
namespace Matter.Controller
open Codec hiding Error
open Value Exits
open Cert (Block MatterCertificate)
open Handshake (received onWire)

def snapshotVersion : UInt8 := 1

/-! The members of a record are looked up by their tags. -/

def asStruct : Value → Except Error (List (Tag × Value))
  | struct members => .ok members
  | _ => .error (.snapshot "expected structure")

def asArray : Value → Except Error (List Value)
  | array items => .ok items
  | _ => .error (.snapshot "expected array")

def get (members : List (Tag × Value)) (ctx : UInt8) : Option Value :=
  (members.find? fun member => member.1 = .context ctx).map Prod.snd

def getUint (members : List (Tag × Value)) (ctx : UInt8) : Except Error UInt64 :=
  match get members ctx with
  | some (uint n) => .ok n
  | _ => .error (.snapshot s!"missing or non-uint at context {ctx}")

def getBytes (members : List (Tag × Value)) (ctx : UInt8) : Except Error Octets :=
  match get members ctx with
  | some (bytes octets) => .ok octets
  | _ => .error (.snapshot s!"missing or non-bytes at context {ctx}")

def orSnapshot {α : Type} (message : String) : Option α → Except Error α
  | some a => .ok a
  | none => .error (.snapshot message)

def byteArray (n : Nat) (octets : Octets) (field : String) : Except Error (Block n) :=
  orSnapshot s!"{field}: expected {n} bytes, got {octets.bytes.length}"
    (Block.tryFrom n octets.bytes)

def optional {α : Type} (ctx : UInt8) (value : α → Value) (a : Option α) : List (Tag × Value) :=
  a.toList.map fun a => (.context ctx, value a)

def certToTlv (cert : MatterCertificate) : Except Error Octets :=
  (cert.toTlv.map received).mapError .cert

def certFromTlv (octets : Octets) : Except Error MatterCertificate :=
  (MatterCertificate.fromTlv octets).mapError .cert

/-! Writing. -/

def icdRegistrationToValue (r : IcdRegistration) : Value :=
  struct [
    (.context 0, uint r.nodeId),
    (.context 1, uint r.checkInNodeId),
    (.context 2, uint r.monitoredSubject),
    (.context 3, bytes (r.key.octets (by decide))),
    (.context 4, uint r.startCounter.toUInt64)]

def groupKeyToValue (k : GroupKeySetConfig) : Value :=
  struct [
    (.context 0, uint k.keySetId.toUInt64),
    (.context 1, bytes (k.epochKey.octets (by decide))),
    (.context 2, uint k.epochStartTime)]

def commissionerToValue (c : CommissionerIdentity) : Except Error Value := do
  return struct [
    (.context 0, uint c.nodeId),
    (.context 1, bytes c.operationalPkcs8),
    (.context 2, bytes (← certToTlv c.noc))]

def deviceToValue (d : DeviceEntry) : Value :=
  struct ([
    (.context 0, uint d.nodeId),
    (.context 1, bytes (d.peerNocPublicKey.octets point_short))] ++
    (optional 2 bytes d.resumptionRecord ++ (optional 3 utf8 d.lastKnownAddr ++
    (optional 4 (fun vid => uint vid.toUInt64) d.vendorId ++
    (optional 5 (fun pid => uint pid.toUInt64) d.productId ++ optional 6 utf8 d.label)))))

def icacToMembers : Option IcacIdentity → Except Error (List (Tag × Value))
  | none => return []
  | some icac => do
    return [(.context 9, bytes (← certToTlv icac.cert)), (.context 10, bytes icac.pkcs8)]

def fabricToValue (f : FabricEntry) : Except Error Value := do
  let rcac ← certToTlv f.rcacCert
  let commissioner ← commissionerToValue f.commissioner
  let icac ← icacToMembers f.icac
  return struct ([
    (.context 0, uint f.fabricId),
    (.context 1, bytes (f.ipk.octets (by decide))),
    (.context 2, bytes rcac),
    (.context 3, bytes f.rcacPkcs8),
    (.context 4, commissioner),
    (.context 5, array (f.devices.map deviceToValue)),
    (.context 6, array (f.groupKeys.map groupKeyToValue)),
    (.context 7, uint f.outboundGroupCounter.toUInt64),
    (.context 8, array (f.icdClients.map icdRegistrationToValue))] ++ icac)

def rootValue (fabrics : List Value) : Value :=
  struct [(.context 0, uint snapshotVersion.toUInt64), (.context 1, array fabrics)]

def serialize (state : ControllerState) : Except Error Bytes := do
  let fabrics ← state.fabrics.mapM fabricToValue
  match (TlvWriter.writeValue .anonymous (rootValue fabrics)).run [] with
  | .ok () out => return out
  | .error e _ => throw (.codec e)

/-! Reading. -/

/-! A member that is missing or of another type is none. -/

def bytesOf : Option Value → Option Octets
  | some (bytes b) => some b
  | _ => none

def textOf : Option Value → Option Text
  | some (utf8 s) => some s
  | _ => none

def u16Of : Option Value → Option UInt16
  | some (uint n) => Wire.toU16? n
  | _ => none

def deviceFromValue (v : Value) : Except Error DeviceEntry := do
  let m ← asStruct v
  return {
    nodeId := ← getUint m 0
    peerNocPublicKey := ← byteArray 65 (← getBytes m 1) "peer_noc_public_key"
    resumptionRecord := bytesOf (get m 2)
    lastKnownAddr := textOf (get m 3)
    vendorId := u16Of (get m 4)
    productId := u16Of (get m 5)
    label := textOf (get m 6) }

def commissionerFromValue (v : Value) : Except Error CommissionerIdentity := do
  let m ← asStruct v
  return {
    nodeId := ← getUint m 0
    operationalPkcs8 := ← getBytes m 1
    noc := ← certFromTlv (← getBytes m 2) }

def groupKeyFromValue (v : Value) : Except Error GroupKeySetConfig := do
  let m ← asStruct v
  let keySetId ← orSnapshot "key_set_id exceeds u16 range" (Wire.toU16? (← getUint m 0))
  let epochKey ← byteArray 16 (← getBytes m 1) "epoch_key"
  let epochStartTime ← getUint m 2
  return ⟨keySetId, epochKey, epochStartTime⟩

def icdRegistrationFromValue (v : Value) : Except Error IcdRegistration := do
  let m ← asStruct v
  let startCounter ← orSnapshot "icd start_counter exceeds u32 range"
    (Wire.toU32? (← getUint m 4))
  return {
    nodeId := ← getUint m 0
    checkInNodeId := ← getUint m 1
    monitoredSubject := ← getUint m 2
    key := ← byteArray 16 (← getBytes m 3) "icd key"
    startCounter }

/-- The records of a member that older snapshots do not have. -/
def recordsFromValue {α : Type} (fromValue : Value → Except Error α) :
    Option Value → Except Error (List α)
  | some arr => do (← asArray arr).mapM fromValue
  | none => return []

def counterFromValue : Option Value → Except Error UInt32
  | some (uint n) => orSnapshot "outbound_group_counter exceeds u32 range" (Wire.toU32? n)
  | _ => return 0

def icacFromValues : Option Value → Option Value → Except Error (Option IcacIdentity)
  | some (bytes certTlv), some (bytes pkcs8) => do
    return some ⟨← certFromTlv certTlv, pkcs8⟩
  | _, _ => return none

def fabricFromValue (v : Value) : Except Error FabricEntry := do
  let m ← asStruct v
  let commissionerVal ← orSnapshot "missing commissioner" (get m 4)
  let devicesVal ← orSnapshot "missing devices array" (get m 5)
  let devices ← (← asArray devicesVal).mapM deviceFromValue
  let groupKeys ← recordsFromValue groupKeyFromValue (get m 6)
  let outboundGroupCounter ← counterFromValue (get m 7)
  let icdClients ← recordsFromValue icdRegistrationFromValue (get m 8)
  let icac ← icacFromValues (get m 9) (get m 10)
  return {
    fabricId := ← getUint m 0
    ipk := ← byteArray 16 (← getBytes m 1) "ipk"
    rcacCert := ← certFromTlv (← getBytes m 2)
    rcacPkcs8 := ← getBytes m 3
    commissioner := ← commissionerFromValue commissionerVal
    devices, groupKeys, outboundGroupCounter, icdClients, icac }

def stateFromValue (value : Value) : Except Error ControllerState := do
  let root ← asStruct value
  let version ← getUint root 0
  if version ≠ snapshotVersion.toUInt64 then
    throw (.snapshot s!"unsupported snapshot version {version}")
  let fabrics ← asArray (← orSnapshot "missing fabrics array" (get root 1))
  return ⟨← fabrics.mapM fabricFromValue⟩

def deserialize (input : Octets) : Except Error ControllerState :=
  match TlvReader.readValue.run (TlvReader.new input) with
  | .ok (_, value) _ => stateFromValue value
  | .error e _ => .error (.codec e)

/-! What the reader makes of the texts, and what a record costs it. -/

def DeviceEntry.beforeIs1 (d : DeviceEntry) : DeviceEntry :=
  { d with lastKnownAddr := d.lastKnownAddr.map Text.beforeIs1, label := d.label.map Text.beforeIs1 }

def FabricEntry.beforeIs1 (f : FabricEntry) : FabricEntry :=
  { f with devices := f.devices.map DeviceEntry.beforeIs1 }

def ControllerState.beforeIs1 (state : ControllerState) : ControllerState :=
  ⟨state.fabrics.map FabricEntry.beforeIs1⟩

/-- The optional fields a device has. -/
def DeviceEntry.extras (d : DeviceEntry) : Nat :=
  d.resumptionRecord.toList.length + d.lastKnownAddr.toList.length + d.vendorId.toList.length +
    d.productId.toList.length + d.label.toList.length

/-- Elements of the snapshot of a device, itself included. -/
def DeviceEntry.elements (d : DeviceEntry) : Nat := 3 + d.extras

def FabricEntry.elements (f : FabricEntry) : Nat :=
  13 + (f.devices.map DeviceEntry.elements).sum + 4 * f.groupKeys.length +
    6 * f.icdClients.length + 2 * f.icac.toList.length

def ControllerState.elements (state : ControllerState) : Nat :=
  3 + (state.fabrics.map FabricEntry.elements).sum

/-- The certificate's own encoding is read back. -/
def CertKept (cert : MatterCertificate) : Prop :=
  ∃ tlv : Octets, cert.toTlv = .ok tlv.bytes ∧ MatterCertificate.fromTlv tlv = .ok cert

structure FabricEntry.CertsKept (f : FabricEntry) : Prop where
  rcac : CertKept f.rcacCert
  noc : CertKept f.commissioner.noc
  icac : ∀ icac, f.icac = some icac → CertKept icac.cert

/-- `v` is how `a` is stored; the reader cuts its texts. -/
structure Stored {α : Type} (fromValue : Value → Except Error α) (a : α) (elements depth : Nat)
    (v : Value) : Prop where
  restored : fromValue v.beforeIs1 = .ok a
  elements : v.count = elements
  shallow : v.nesting ≤ depth

@[simp] theorem get_cons (k ctx : UInt8) (v : Value) (rest : List (Tag × Value)) :
    get ((.context k, v) :: rest) ctx = if k = ctx then some v else get rest ctx := by
  by_cases same : k = ctx <;> simp [get, same]

@[simp] theorem get_optional_append (k ctx : UInt8) (value : α → Value) (a : Option α)
    (rest : List (Tag × Value)) :
    get (optional k value a ++ rest) ctx =
      if k = ctx then (a.map value).or (get rest ctx) else get rest ctx := by
  cases a with
  | none => by_cases same : k = ctx <;> simp [optional, same]
  | some a => simp [optional]

@[simp] theorem get_nil (ctx : UInt8) : get [] ctx = none := rfl

@[simp] theorem get_optional (k ctx : UInt8) (value : α → Value) (a : Option α) :
    get (optional k value a) ctx = if k = ctx then a.map value else none := by
  have alone := get_optional_append k ctx value a []
  rw [List.append_nil, get_nil, Option.or_none] at alone
  exact alone

@[simp] theorem bytesOf_map (b : Option Octets) : bytesOf (b.map bytes) = b := by
  cases b <;> rfl

@[simp] theorem textOf_map (s : Option Text) (f : Text → Text) :
    textOf (s.map fun text => utf8 (f text)) = s.map f := by
  cases s <;> rfl

@[simp] theorem u16Of_map (n : Option UInt16) : u16Of (n.map fun n => uint n.toUInt64) = n := by
  cases n with
  | none => rfl
  | some n => exact Handshake.toU16?_toUInt64 n

theorem byteArray_octets (block : Block n) (small : n < allocLimit) (field : String) :
    byteArray n (block.octets small) field = .ok block := by
  rw [byteArray, Block.tryFrom, dif_pos (show (block.octets small).bytes.length = n from block.size)]
  rfl

theorem beforeIs1Members_optional (ctx : UInt8) (value : α → Value) (a : Option α) :
    beforeIs1Members (optional ctx value a) = optional ctx (fun a => (value a).beforeIs1) a := by
  cases a <;> rfl

theorem countMembers_optional {ctx : UInt8} {value : α → Value} (one : ∀ a, (value a).count = 1)
    (a : Option α) : countMembers (optional ctx value a) = a.toList.length := by
  cases a with
  | none => rfl
  | some a => exact one a

theorem nesting_optional {ctx : UInt8} {value : α → Value} (flat : ∀ a, (value a).nesting = 0)
    (a : Option α) : ∀ member ∈ optional ctx value a, member.2.nesting ≤ 0 := by
  intro member found
  obtain ⟨a, -, rfl⟩ := List.mem_map.mp found
  exact (flat a).le

theorem stored_device (d : DeviceEntry) :
    Stored deviceFromValue d.beforeIs1 d.elements 1 (deviceToValue d) := by
  constructor
  · simp only [deviceToValue, beforeIs1, List.cons_append, List.nil_append, beforeIs1Members,
      beforeIs1Members_append, beforeIs1Members_optional]
    simp [deviceFromValue, asStruct, bind, Except.bind, getUint, getBytes, byteArray_octets]
    rfl
  · simp only [deviceToValue, count, List.cons_append, List.nil_append, countMembers,
      countMembers_append, DeviceEntry.elements, DeviceEntry.extras]
    rw [countMembers_optional fun _ => rfl, countMembers_optional fun _ => rfl,
      countMembers_optional fun _ => rfl, countMembers_optional fun _ => rfl,
      countMembers_optional fun _ => rfl]
    omega
  · simp only [deviceToValue, nesting]
    refine Nat.add_le_add_left (nestingMembers_le (n := 0) ?_) 1
    simp only [List.cons_append, List.nil_append, List.forall_mem_cons, List.forall_mem_append]
    exact ⟨le_rfl, le_rfl, nesting_optional (fun _ => rfl) _, nesting_optional (fun _ => rfl) _,
      nesting_optional (fun _ => rfl) _, nesting_optional (fun _ => rfl) _,
      nesting_optional (fun _ => rfl) _⟩

theorem stored_groupKey (k : GroupKeySetConfig) :
    Stored groupKeyFromValue k 4 1 (groupKeyToValue k) := by
  constructor
  · simp [groupKeyToValue, beforeIs1, beforeIs1Members, groupKeyFromValue, asStruct, bind,
      Except.bind, getUint, getBytes, byteArray_octets, orSnapshot, Handshake.toU16?_toUInt64]
    rfl
  · rfl
  · simp only [groupKeyToValue, nesting]
    refine Nat.add_le_add_left (nestingMembers_le (n := 0) ?_) 1
    simp [nesting]

theorem stored_icdRegistration (r : IcdRegistration) :
    Stored icdRegistrationFromValue r 6 1 (icdRegistrationToValue r) := by
  constructor
  · simp [icdRegistrationToValue, beforeIs1, beforeIs1Members, icdRegistrationFromValue, asStruct,
      bind, Except.bind, getUint, getBytes, byteArray_octets, orSnapshot,
      Handshake.toU32?_toUInt64]
    rfl
  · rfl
  · simp only [icdRegistrationToValue, nesting]
    refine Nat.add_le_add_left (nestingMembers_le (n := 0) ?_) 1
    simp [nesting]

theorem CertKept.tlv (kept : CertKept cert) :
    ∃ tlv, certToTlv cert = .ok tlv ∧ certFromTlv tlv = .ok cert := by
  obtain ⟨tlv, written, read⟩ := kept
  refine ⟨tlv, ?_, ?_⟩
  · rw [certToTlv, written]
    have whole : received tlv.bytes = tlv := by
      rw [received, dif_pos tlv.addressable]
    exact congrArg Except.ok whole
  · rw [certFromTlv, read]
    rfl

theorem stored_commissioner (kept : CertKept c.noc) :
    ∃ v, commissionerToValue c = .ok v ∧ Stored commissionerFromValue c 4 1 v := by
  obtain ⟨tlv, written, read⟩ := kept.tlv
  refine ⟨struct [(.context 0, uint c.nodeId), (.context 1, bytes c.operationalPkcs8),
    (.context 2, bytes tlv)], ?_, ?_, ?_, ?_⟩
  · rw [commissionerToValue, written]
    rfl
  · simp [beforeIs1, beforeIs1Members, commissionerFromValue, asStruct, bind, Except.bind, getUint,
      getBytes, read]
    rfl
  · rfl
  · simp only [nesting]
    refine Nat.add_le_add_left (nestingMembers_le (n := 0) ?_) 1
    simp [nesting]

theorem stored_records
    (each : List.Forall₂ (fun a => Stored fromValue (keep a) (elements a) depth) l vs) :
    (beforeIs1Elements vs).mapM fromValue = .ok (l.map keep) ∧
      countElements vs = (l.map elements).sum ∧ nestingElements vs ≤ depth := by
  induction each with
  | nil => exact ⟨rfl, rfl, Nat.zero_le depth⟩
  | cons stored _ ih =>
    obtain ⟨restored, counted, shallow⟩ := ih
    refine ⟨?_, ?_, ?_⟩
    · rw [beforeIs1Elements, List.mapM_cons, stored.restored, restored]
      rfl
    · rw [countElements, stored.elements, counted, List.map_cons, List.sum_cons]
    · exact Nat.max_le.mpr ⟨stored.shallow, shallow⟩

theorem stored_map {fromValue : Value → Except Error β} {keep : α → β} {elements : α → Nat}
    (l : List α) (each : ∀ a, Stored fromValue (keep a) (elements a) depth (toValue a)) :
    List.Forall₂ (fun a => Stored fromValue (keep a) (elements a) depth) l (l.map toValue) := by
  rw [List.forall₂_map_right_iff]
  exact List.forall₂_same.mpr fun a _ => each a

theorem mapM_forall₂ {f : α → Except Error β} {P : α → β → Prop}
    (each : ∀ a ∈ l, ∃ b, f a = .ok b ∧ P a b) : ∃ bs, l.mapM f = .ok bs ∧ List.Forall₂ P l bs := by
  induction l with
  | nil => exact ⟨[], rfl, .nil⟩
  | cons a rest ih =>
    simp only [List.forall_mem_cons] at each
    obtain ⟨⟨b, first, here⟩, later⟩ := each
    obtain ⟨bs, others, there⟩ := ih later
    refine ⟨b :: bs, ?_, .cons here there⟩
    rw [List.mapM_cons, first, others]
    rfl

theorem stored_icac (kept : ∀ i, icac = some i → CertKept i.cert) :
    ∃ members, icacToMembers icac = .ok members ∧ beforeIs1Members members = members ∧
      icacFromValues (get members 9) (get members 10) = .ok icac ∧
      countMembers members = 2 * icac.toList.length ∧ ∀ member ∈ members, member.2.nesting ≤ 2 := by
  cases icac with
  | none => exact ⟨[], rfl, rfl, rfl, rfl, nofun⟩
  | some icac =>
    obtain ⟨tlv, written, read⟩ := (kept icac rfl).tlv
    refine ⟨[(.context 9, bytes tlv), (.context 10, bytes icac.pkcs8)], ?_, rfl, ?_, rfl, ?_⟩
    · rw [icacToMembers, written]
      rfl
    · simp [icacFromValues, read]
    · simp [nesting]

theorem stored_fabric {f : FabricEntry} (kept : f.CertsKept) :
    ∃ v, fabricToValue f = .ok v ∧ Stored fabricFromValue f.beforeIs1 f.elements 3 v := by
  obtain ⟨rcac, rcacWritten, rcacRead⟩ := kept.rcac.tlv
  obtain ⟨commissioner, commissionerWritten, commissionerStored⟩ := stored_commissioner kept.noc
  obtain ⟨icac, icacWritten, icacKept, icacRead, icacCount, icacFlat⟩ := stored_icac kept.icac
  obtain ⟨devices, deviceCount, deviceFlat⟩ := stored_records (stored_map f.devices stored_device)
  obtain ⟨keys, keyCount, keyFlat⟩ := stored_records (stored_map f.groupKeys stored_groupKey)
  obtain ⟨clients, clientCount, clientFlat⟩ :=
    stored_records (stored_map f.icdClients stored_icdRegistration)
  refine ⟨struct ([
    (.context 0, uint f.fabricId),
    (.context 1, bytes (f.ipk.octets (by decide))),
    (.context 2, bytes rcac),
    (.context 3, bytes f.rcacPkcs8),
    (.context 4, commissioner),
    (.context 5, array (f.devices.map deviceToValue)),
    (.context 6, array (f.groupKeys.map groupKeyToValue)),
    (.context 7, uint f.outboundGroupCounter.toUInt64),
    (.context 8, array (f.icdClients.map icdRegistrationToValue))] ++ icac), ?_, ?_, ?_, ?_⟩
  · rw [fabricToValue, rcacWritten, commissionerWritten, icacWritten]
    rfl
  · simp only [beforeIs1, beforeIs1Members, icacKept, List.cons_append, List.nil_append]
    simp [fabricFromValue, asStruct, asArray, bind, Except.bind, orSnapshot, getUint, getBytes,
      byteArray_octets, recordsFromValue, counterFromValue, Handshake.toU32?_toUInt64, devices, keys,
      clients, icacRead, rcacRead, commissionerStored.restored]
    rfl
  · simp only [count, countMembers_append, countMembers, deviceCount, keyCount, clientCount,
      icacCount, commissionerStored.elements, FabricEntry.elements, List.map_const',
      List.sum_replicate_nat]
    omega
  · simp only [nesting]
    refine Nat.add_le_add_left (nestingMembers_le (n := 2) ?_) 1
    simp only [List.cons_append, List.nil_append, List.forall_mem_cons, nesting, Nat.zero_le, true_and]
    have commissionerFlat := commissionerStored.shallow
    exact ⟨by omega, by omega, by omega, by omega, icacFlat⟩

/-! Whole snapshots. -/

/-- A state is written as one structure, which is read as the state with its texts cut. -/
theorem stored_state {state : ControllerState} (kept : ∀ f ∈ state.fabrics, f.CertsKept) :
    ∃ v, serialize state = .ok (v.encode .anonymous) ∧
      Stored stateFromValue state.beforeIs1 state.elements 5 v := by
  obtain ⟨fabrics, written, each⟩ := mapM_forall₂ fun f here => stored_fabric (kept f here)
  obtain ⟨restored, counted, flat⟩ := stored_records each
  have shallow : (rootValue fabrics).nesting ≤ 5 := by
    simp only [rootValue, nesting, nestingMembers]
    omega
  refine ⟨rootValue fabrics, ?_, ?_, ?_, shallow⟩
  · have writes := (TlvWriter.writeValue_writes .anonymous (rootValue fabrics)).shallow
      (shallow.trans (by decide)) []
    rw [serialize, written]
    simp only [bind, Except.bind, writes]
    rfl
  · simp [rootValue, beforeIs1, beforeIs1Members, stateFromValue, asStruct, asArray, bind,
      Except.bind, getUint, orSnapshot, restored]
    rfl
  · simp only [rootValue, count, countMembers, counted, ControllerState.elements]
    omega

/-- No text of the device has a separator. -/
def DeviceEntry.Clean (d : DeviceEntry) : Prop :=
  (∀ text ∈ d.lastKnownAddr, Text.is1 ∉ text.string.toList) ∧
    ∀ text ∈ d.label, Text.is1 ∉ text.string.toList

theorem map_beforeIs1_eq_iff (text : Option Text) :
    text.map Text.beforeIs1 = text ↔ ∀ t ∈ text, Text.is1 ∉ t.string.toList := by
  cases text with
  | none => simp
  | some text => simp [Text.beforeIs1_eq_iff]

theorem DeviceEntry.beforeIs1_eq_iff (d : DeviceEntry) : d.beforeIs1 = d ↔ d.Clean := by
  obtain ⟨nodeId, key, record, addr, vendor, product, label⟩ := d
  simp [DeviceEntry.beforeIs1, DeviceEntry.Clean, mk.injEq, map_beforeIs1_eq_iff]

theorem map_eq_self_iff {f : α → α} {l : List α} : l.map f = l ↔ ∀ a ∈ l, f a = a := by
  conv_lhs => rw [← List.map_id l]
  rw [List.map_map]
  exact List.map_inj_left

theorem ControllerState.beforeIs1_eq_iff (state : ControllerState) :
    state.beforeIs1 = state ↔ ∀ f ∈ state.fabrics, ∀ d ∈ f.devices, d.Clean := by
  obtain ⟨fabrics⟩ := state
  simp only [ControllerState.beforeIs1, mk.injEq, map_eq_self_iff]
  refine forall₂_congr fun f _ => ?_
  obtain ⟨id, ipk, cert, pkcs8, commissioner, devices, keys, counter, clients, icac⟩ := f
  simp [FabricEntry.beforeIs1, FabricEntry.mk.injEq, map_eq_self_iff, DeviceEntry.beforeIs1_eq_iff]

theorem deserialize_encode {v : Value} (here : input.bytes = v.encode .anonymous)
    (shallow : v.nesting ≤ maxDepth) :
    deserialize input = if v.count ≤ defaultElementBudget then stateFromValue v.beforeIs1
      else .error (.codec .elementBudgetExceeded) := by
  have whole : input.bytes = v.encode .anonymous ++ [] := by rw [here, List.append_nil]
  split
  · rename_i few
    obtain ⟨r, read, _⟩ := (TlvReader.readValue_new whole).good ((Nat.zero_add _).trans_le shallow) few
    rw [deserialize, read]
  · rename_i many
    obtain ⟨r, failed⟩ := (TlvReader.readValue_new whole).spent ((Nat.zero_add _).trans_le shallow)
      (Nat.not_le.mp many)
    rw [deserialize, failed]

/-- What comes back of a snapshot. -/
theorem deserialize_serialize {state : ControllerState} (kept : ∀ f ∈ state.fabrics, f.CertsKept)
    (written : serialize state = .ok blob.bytes) :
    deserialize blob = if state.elements ≤ defaultElementBudget then .ok state.beforeIs1
      else .error (.codec .elementBudgetExceeded) := by
  obtain ⟨v, encoded, stored⟩ := stored_state kept
  have shallow : v.nesting ≤ maxDepth := stored.shallow.trans (by decide)
  rw [encoded] at written
  rw [deserialize_encode (Except.ok.inj written).symm shallow, ← stored.elements, stored.restored]

/-- A snapshot comes back as it was if and only if no text has a separator and the
reader may read all the elements. -/
theorem deserialize_serialize_iff {state : ControllerState} {blob : Octets}
    (kept : ∀ f ∈ state.fabrics, f.CertsKept) (written : serialize state = .ok blob.bytes) :
    deserialize blob = .ok state ↔
      (∀ f ∈ state.fabrics, ∀ d ∈ f.devices, d.Clean) ∧ state.elements ≤ defaultElementBudget := by
  rw [deserialize_serialize kept written]
  by_cases few : state.elements ≤ defaultElementBudget
  · simp only [few, if_true, Except.ok.injEq, and_true]
    exact ControllerState.beforeIs1_eq_iff state
  · simp [few]

/-! Whatever the certificates do, what comes back has the same numbers. -/

theorem beforeIs1Members_icac (written : icacToMembers icac = .ok members) :
    beforeIs1Members members = members := by
  cases icac with
  | none =>
    cases written
    rfl
  | some icac =>
    obtain ⟨tlv, -, rfl⟩ := of_bind_pure written
    rfl

theorem restored_commissioner (written : commissionerToValue c = .ok v)
    (read : commissionerFromValue v.beforeIs1 = .ok c') : c'.nodeId = c.nodeId := by
  obtain ⟨tlv, -, rfl⟩ := of_bind_pure written
  obtain ⟨m, opened, read⟩ := of_bind_ok read
  cases opened
  obtain ⟨nodeId, found, read⟩ := of_bind_ok read
  obtain ⟨pkcs8, -, read⟩ := of_bind_ok read
  obtain ⟨octets, -, read⟩ := of_bind_ok read
  obtain ⟨noc, -, rfl⟩ := of_bind_pure read
  cases found
  rfl

/-- What a fabric keeps through a snapshot. -/
structure FabricEntry.Agrees (f' f : FabricEntry) : Prop where
  fabricId : f'.fabricId = f.fabricId
  counter : f'.outboundGroupCounter = f.outboundGroupCounter
  commissioner : f'.commissioner.nodeId = f.commissioner.nodeId
  devices : f'.devices = f.devices.map DeviceEntry.beforeIs1

theorem restored_fabric {v : Value} (written : fabricToValue f = .ok v)
    (read : fabricFromValue v.beforeIs1 = .ok f') : f'.Agrees f := by
  obtain ⟨rcac, -, written⟩ := of_bind_ok written
  obtain ⟨commissioner, commissionerWritten, written⟩ := of_bind_ok written
  obtain ⟨icac, icacWritten, rfl⟩ := of_bind_pure written
  simp only [beforeIs1, beforeIs1Members, beforeIs1Members_icac icacWritten, List.cons_append,
    List.nil_append] at read
  obtain ⟨m, opened, read⟩ := of_bind_ok read
  cases opened
  obtain ⟨commissionerVal, commissionerFound, read⟩ := of_bind_ok read
  obtain ⟨devicesVal, devicesFound, read⟩ := of_bind_ok read
  obtain ⟨items, itemsFound, read⟩ := of_bind_ok read
  obtain ⟨devices, devicesRead, read⟩ := of_bind_ok read
  obtain ⟨groupKeys, -, read⟩ := of_bind_ok read
  obtain ⟨counter, counterRead, read⟩ := of_bind_ok read
  obtain ⟨clients, -, read⟩ := of_bind_ok read
  obtain ⟨icac', -, read⟩ := of_bind_ok read
  obtain ⟨fabricId, fabricIdFound, read⟩ := of_bind_ok read
  obtain ⟨ipkOctets, -, read⟩ := of_bind_ok read
  obtain ⟨ipk, -, read⟩ := of_bind_ok read
  obtain ⟨certOctets, -, read⟩ := of_bind_ok read
  obtain ⟨cert, -, read⟩ := of_bind_ok read
  obtain ⟨pkcs8, -, read⟩ := of_bind_ok read
  obtain ⟨identity, identityRead, rfl⟩ := of_bind_pure read
  cases commissionerFound
  cases devicesFound
  cases itemsFound
  cases fabricIdFound
  refine ⟨rfl, ?_, restored_commissioner commissionerWritten identityRead, ?_⟩
  · simp [counterFromValue, Handshake.toU32?_toUInt64, orSnapshot] at counterRead
    exact counterRead.symm
  · rw [(stored_records (stored_map f.devices stored_device)).1] at devicesRead
    exact (Except.ok.inj devicesRead).symm

theorem restored_fabrics (written : List.Forall₂ (fun f v => fabricToValue f = .ok v) fabrics vs)
    (read : (beforeIs1Elements vs).mapM fabricFromValue = .ok fabrics') :
    List.Forall₂ FabricEntry.Agrees fabrics' fabrics := by
  induction written generalizing fabrics' with
  | nil =>
    cases read
    exact .nil
  | cons here _ ih =>
    rw [beforeIs1Elements, List.mapM_cons] at read
    obtain ⟨f', first, read⟩ := of_bind_ok read
    obtain ⟨others, later, rfl⟩ := of_bind_pure read
    exact .cons (restored_fabric here first) (ih later)

/-- What was written is the encoding of a tree that does not nest too deep. -/
theorem of_serialize (written : serialize state = .ok out) :
    ∃ vs, state.fabrics.mapM fabricToValue = .ok vs ∧ out = (rootValue vs).encode .anonymous ∧
      (rootValue vs).nesting ≤ maxDepth := by
  obtain ⟨vs, fabrics, written⟩ := of_bind_ok written
  have writes := TlvWriter.writeValue_writes .anonymous (rootValue vs)
  by_cases shallow : (rootValue vs).nesting ≤ maxDepth
  · rw [writes.shallow shallow []] at written
    exact ⟨vs, fabrics, (Except.ok.inj written).symm, shallow⟩
  · obtain ⟨left, failed⟩ := writes.deep (Nat.not_le.mp shallow) []
    rw [failed] at written
    cases written

/-- A snapshot that can be loaded has the fabrics, counters and node ids it was taken with. -/
theorem deserialize_agrees (written : serialize state = .ok out)
    (read : deserialize (received out) = .ok state') :
    List.Forall₂ FabricEntry.Agrees state'.fabrics state.fabrics := by
  obtain ⟨vs, fabrics, rfl, shallow⟩ := of_serialize written
  by_cases short : ((rootValue vs).encode .anonymous).length < allocLimit
  · rw [deserialize_encode (Handshake.received_bytes short) shallow] at read
    split at read
    · obtain ⟨root, opened, read⟩ := of_bind_ok read
      cases opened
      obtain ⟨version, -, read⟩ := of_bind_ok read
      obtain ⟨-, read⟩ := unless_throw_ok.mp read
      obtain ⟨value, found, read⟩ := of_bind_ok read
      cases found
      obtain ⟨items, opened, read⟩ := of_bind_ok read
      cases opened
      obtain ⟨restored, each, rfl⟩ := of_bind_pure read
      exact restored_fabrics (forall₂_of_mapM fabrics) each
    · cases read
  · rw [received, dif_neg short] at read
    cases read

def sampleState (label : Text) : ControllerState where
  fabrics := [{
    fabricId := 1
    ipk := .fill 16 0
    rcacCert := Cert.CertificateChain.sampleLeaf
    rcacPkcs8 := received []
    commissioner := ⟨1, received [], Cert.CertificateChain.sampleLeaf⟩
    devices := [⟨2, .fill 65 4, none, none, some 0xfff1, none, some label⟩]
    groupKeys := []
    outboundGroupCounter := 0
    icdClients := []
    icac := none }]

def sampleBlob (label : Text) : Octets := onWire (serialize (sampleState label))

def lamp : Text := ⟨"lamp", by decide⟩

def lampTwo : Text := ⟨"lamp\x1ftwo", by decide⟩

theorem certKept_sampleLeaf : CertKept Cert.CertificateChain.sampleLeaf := by
  refine ⟨onWire Cert.CertificateChain.sampleLeaf.toTlv, ?_, ?_⟩
  · decide +kernel
  · decide +kernel

theorem certsKept_sampleState (label : Text) : ∀ f ∈ (sampleState label).fabrics, f.CertsKept := by
  intro f found
  rw [List.mem_singleton.mp found]
  exact ⟨certKept_sampleLeaf, certKept_sampleLeaf, nofun⟩

theorem lamp_restored : serialize (sampleState lamp) = .ok (sampleBlob lamp).bytes ∧
    deserialize (sampleBlob lamp) = .ok (sampleState lamp) := by
  have written : serialize (sampleState lamp) = .ok (sampleBlob lamp).bytes := by
    decide +kernel
  refine ⟨written,
    (deserialize_serialize_iff (certsKept_sampleState lamp) written).mpr ⟨?_, by decide⟩⟩
  · intro f found d member
    rw [List.mem_singleton.mp found] at member
    rw [List.mem_singleton.mp member]
    refine ⟨nofun, fun text same => ?_⟩
    cases same
    decide

/-- The label is cut at the separator. -/
theorem label_cut : serialize (sampleState lampTwo) = .ok (sampleBlob lampTwo).bytes ∧
    deserialize (sampleBlob lampTwo) = .ok (sampleState lamp) ∧
    sampleState lamp ≠ sampleState lampTwo := by
  have written : serialize (sampleState lampTwo) = .ok (sampleBlob lampTwo).bytes := by
    decide +kernel
  refine ⟨written, ?_, by decide +kernel⟩
  rw [deserialize_serialize (certsKept_sampleState lampTwo) written, if_pos (by decide)]
  rfl

end Matter.Controller
