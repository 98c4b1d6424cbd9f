import Matter.Controller.Persistence

/-! What a command can do to the saved state. Most commands leave the ids and counters
of every fabric alone; the others are named one by one. However a command ends, the
snapshots it takes are of the state it leaves behind. -/
namespace Matter.Controller
open Command
open Codec (Octets Text)
open Cert (Block MatterTime)
open Handshake (received)

structure Numbers where
  fabricId : UInt64
  counter : UInt32
  commissioner : UInt64
  devices : List UInt64

def FabricEntry.numbers (f : FabricEntry) : Numbers :=
  ⟨f.fabricId, f.outboundGroupCounter, f.commissioner.nodeId, f.devices.map DeviceEntry.nodeId⟩

def ControllerState.numbers (state : ControllerState) : List Numbers :=
  state.fabrics.map FabricEntry.numbers

open ControllerState

theorem FabricEntry.Agrees.numbers_eq {f' f : FabricEntry} (agrees : f'.Agrees f) :
    f'.numbers = f.numbers := by
  have devices : f'.devices.map DeviceEntry.nodeId = f.devices.map DeviceEntry.nodeId := by
    rw [agrees.devices, List.map_map]
    rfl
  simp [FabricEntry.numbers, agrees.fabricId, agrees.counter, agrees.commissioner, devices]

/-- A snapshot is loaded with the numbers it was taken with. -/
theorem numbers_of_load {state state' : ControllerState} (written : serialize state = .ok out)
    (read : deserialize (received out) = .ok state') : state'.numbers = state.numbers := by
  have each := deserialize_agrees written read
  rw [numbers, numbers]
  generalize state'.fabrics = fabrics', state.fabrics = fabrics at each
  induction each with
  | nil => rfl
  | cons agrees _ ih => rw [List.map_cons, List.map_cons, agrees.numbers_eq, ih]

theorem soleFabric_ok {state : ControllerState} (sole : state.soleFabric = .ok fabric) :
    state.fabrics = [fabric] := by
  unfold soleFabric at sole
  split at sole
  · rename_i one alone
    rw [alone, Except.ok.inj sole]
  · cases sole
  · cases sole

theorem soleFabric_of_fabrics {state : ControllerState} (sole : state.fabrics = [fabric]) :
    state.soleFabric = .ok fabric := by
  rw [soleFabric, sole]

theorem createFabric_numbers (made : createFabric cfg minted = .ok entry) :
    entry.numbers = ⟨cfg.fabricId, 0, cfg.commissionerNodeId, []⟩ := by
  obtain ⟨-, -, made⟩ := Exits.of_bind_ok made
  obtain ⟨m, -, rfl⟩ := Exits.of_bind_pure made
  rfl

/-- What a command makes of the saved state and of the commissions under way. -/
inductive Edit (actor : Actor) : ControllerState → List Commission → Prop where
  | kept (same : state.numbers = actor.state.numbers) :
    Edit actor state actor.commissions
  | created (fresh : ∀ f ∈ actor.state.fabrics, f.fabricId ≠ cfg.fabricId)
    (made : createFabric cfg minted = .ok entry) :
    Edit actor ⟨actor.state.fabrics ++ [entry]⟩ actor.commissions
  | ended (task : Nat) : Edit actor actor.state (actor.commissions.eraseIdx task)
  | completed (found : actor.commissions[task]? = some running)
    (key : Block 65) :
    Edit actor (actor.updateFabric running.fabricId fun fabric =>
      { fabric with devices := fabric.devices ++ [Actor.commissioned running key] }).state
      (actor.commissions.eraseIdx task)
  | forgot (nodeId : UInt64) :
    Edit actor (actor.mapFabrics (Actor.forget nodeId)).state actor.commissions

/-- How a command that neither sends nor spawns gets on: it ends, with or without a save
in the background, or it waits for one. -/
inductive Settles (actor : Actor) : Arm → Prop where
  | returned (edit : Edit actor state tasks)
    (result : Except Error Reply) :
    Settles actor (.returned result none { actor with state, commissions := tasks })
  | saving (edit : Edit actor state tasks) (taken : serialize state = .ok out) (reply : Reply) :
    Settles actor (.saving ⟨received out, actor.snapshotSeq + 1⟩ (.reply reply)
      { actor with state, commissions := tasks, snapshotSeq := actor.snapshotSeq + 1 })
  | detached (edit : Edit actor state tasks) (taken : serialize state = .ok out)
    (result : Except Error Reply) :
    Settles actor (.returned result none
      { actor with
        state
        commissions := tasks
        snapshotSeq := actor.snapshotSeq + 1
        detached := actor.detached ++ [⟨received out, actor.snapshotSeq + 1⟩] })

namespace Actor
variable {actor : Actor}

theorem settles_unchanged (result : Except Error Reply) :
    Settles actor (.returned result none actor) :=
  .returned (.kept rfl) result

theorem settles_durably {state : ControllerState} (edit : Edit actor state tasks) (reply : Reply) :
    Settles actor (durably { actor with state, commissions := tasks } reply) := by
  cases taken : serialize state with
  | ok out =>
    simp only [durably, durableSaveInputs, taken]
    exact .saving edit taken reply
  | error e =>
    simp only [durably, durableSaveInputs, taken]
    exact .returned edit (.error e)

theorem settles_persistBestEffort {state : ControllerState} (edit : Edit actor state tasks)
    (result : Except Error Reply) :
    Settles actor (.returned result none
      (persistBestEffort { actor with state, commissions := tasks })) := by
  cases taken : serialize state with
  | ok out =>
    simp only [persistBestEffort, taken]
    exact .detached edit taken result
  | error e =>
    simp only [persistBestEffort, taken]
    exact .returned edit result

/-! Changes of a device or a fabric that leave the numbers alone. -/

theorem map_updateFirst {view : α → β} (same : ∀ a, view (change a) = view a) (l : List α) :
    (updateFirst p change l).map view = l.map view := by
  induction l with
  | nil => rfl
  | cons a rest ih =>
    rw [updateFirst]
    split
    · rw [List.map_cons, same, List.map_cons]
    · rw [List.map_cons, ih, List.map_cons]

theorem numbers_devices {f : FabricEntry}
    (same : devices.map DeviceEntry.nodeId = f.devices.map DeviceEntry.nodeId) :
    { f with devices }.numbers = f.numbers := by
  simp [FabricEntry.numbers, same]

theorem numbers_updateFabric (same : ∀ f, (change f).numbers = f.numbers) :
    (actor.updateFabric fabricId change).state.numbers = actor.state.numbers :=
  map_updateFirst same actor.state.fabrics

theorem numbers_updateDeviceOn {fabricId nodeId : UInt64} (same : ∀ d, (change d).nodeId = d.nodeId) :
    (actor.updateDeviceOn fabricId nodeId change).state.numbers = actor.state.numbers :=
  numbers_updateFabric fun f => numbers_devices (map_updateFirst same f.devices)

theorem numbers_updateDevice {nodeId : UInt64} (same : ∀ d, (change d).nodeId = d.nodeId) :
    (actor.updateDevice nodeId change).state.numbers = actor.state.numbers :=
  map_updateFirst (fun f => numbers_devices (map_updateFirst same f.devices)) actor.state.fabrics

theorem numbers_sole {fabric fabric' : FabricEntry} (sole : actor.state.soleFabric = .ok fabric)
    (same : fabric'.numbers = fabric.numbers) :
    numbers ⟨[fabric']⟩ = actor.state.numbers := by
  rw [numbers, numbers, soleFabric_ok sole, List.map_singleton,
    List.map_singleton, same]

/-! One lemma for each command. -/

theorem settles_createFabric (cfg : FabricConfig) (clock : Except Error MatterTime)
    (minted : Except Error Minted) : Settles actor (actor.handleCreateFabric cfg clock minted) := by
  unfold handleCreateFabric
  split
  · exact settles_unchanged _
  · rename_i fresh
    split
    · exact settles_unchanged _
    · split
      · exact settles_unchanged _
      · rename_i entry made
        refine settles_durably (.created (fun f found same => fresh ?_) made) _
        exact List.any_eq_true.mpr ⟨f, found, decide_eq_true same⟩

theorem settles_persistIcdRegistration (registration : IcdRegistration) :
    Settles actor (actor.handlePersistIcdRegistration registration) := by
  unfold handlePersistIcdRegistration
  split
  · exact settles_unchanged _
  · rename_i fabric sole
    refine settles_durably (.kept ?_) _
    exact numbers_sole sole rfl

theorem settles_createGroup (keySetId : UInt16) (epochStartTime : UInt64)
    (random : Except String (Block 16)) :
    Settles actor (actor.handleCreateGroup keySetId epochStartTime random) := by
  unfold handleCreateGroup
  split
  · exact settles_unchanged _
  · split
    · exact settles_unchanged _
    · rename_i fabric sole
      refine settles_durably (.kept ?_) _
      exact numbers_sole sole rfl

theorem settles_completion (task : Nat) (result : Except Error (Block 65)) :
    Settles actor ((completion task result).arm actor) := by
  simp only [arm]
  split
  · exact settles_unchanged _
  · rename_i running found
    cases result with
    | error e => exact .returned (.ended task) _
    | ok key => exact settles_durably (.completed found key) _

theorem settles_forgetNode (nodeId : UInt64) : Settles actor (actor.forgetNode nodeId) := by
  unfold forgetNode
  split
  · exact settles_durably (.forgot nodeId) _
  · exact settles_unchanged _

theorem settles_setNodeVidPid (nodeId : UInt64) (vendorId productId : Option UInt16) :
    Settles actor (actor.handleSetNodeVidPid nodeId vendorId productId) := by
  simp only [handleSetNodeVidPid]
  split
  · exact settles_unchanged _
  · refine settles_durably (.kept ?_) _
    exact numbers_updateDevice fun _ => rfl

theorem settles_invalidateResumptionRecords (fabricId : UInt64) :
    Settles actor (actor.handleInvalidateResumptionRecords fabricId) := by
  unfold handleInvalidateResumptionRecords
  split
  · exact settles_unchanged _
  · refine settles_durably (.kept (numbers_updateFabric fun f => numbers_devices ?_)) _
    rw [List.map_map]
    rfl

theorem settles_connected (fabricId nodeId : UInt64) (addr : Text) (record : Option Octets) :
    Settles actor ((connected fabricId nodeId addr record).arm actor) := by
  simp only [arm, upsertDevice]
  split
  · exact settles_unchanged _
  · split
    · refine settles_persistBestEffort (.kept ?_) _
      exact numbers_updateDeviceOn fun _ => rfl
    · exact settles_unchanged _

theorem settles_resumptionUnusable (nodeId : UInt64) :
    Settles actor ((resumptionUnusable nodeId).arm actor) := by
  simp only [arm, recoverFromUnusableResumptionRecord]
  split
  · exact settles_unchanged _
  · refine settles_persistBestEffort (.kept ?_) _
    exact numbers_updateDeviceOn fun _ => rfl

theorem settles_storeResumptionRecord (nodeId : UInt64) (record : Except Error Octets) :
    Settles actor ((storeResumptionRecord nodeId record).arm actor) := by
  simp only [arm, handleStoreResumptionRecord]
  split
  · exact settles_unchanged _
  · exact settles_unchanged _
  · split
    · exact settles_unchanged _
    · refine settles_persistBestEffort (.kept ?_) _
      exact numbers_updateDeviceOn fun _ => rfl

/-! Group messages. -/

/-- With a live counter for the fabric. -/
def counting (actor : Actor) (fabricId : UInt64) (next : UInt32) : Actor :=
  { actor with groupCounters := actor.groupCounters.insert fabricId next }

theorem toNat_saturatingSucc (below : n < m) : (saturatingSucc n).toNat = n.toNat + 1 := by
  have bound := m.toNat_lt
  have less := UInt32.lt_iff_toNat_lt.mp below
  have room : n ≠ u32Max := by
    rintro rfl
    have top : u32Max.toNat = 2 ^ 32 - 1 := by decide
    omega
  rw [saturatingSucc, if_neg room, UInt32.toNat_add, UInt32.toNat_one, Nat.mod_eq_of_lt]
  omega

theorem lt_of_nextCeiling? (grown : nextCeiling? next = some ceiling) : next < ceiling := by
  rw [nextCeiling?] at grown
  split at grown
  · rename_i room
    cases grown
    rw [UInt32.lt_iff_toNat_lt, UInt32.toNat_add, Nat.mod_eq_of_lt room]
    exact Nat.lt_add_of_pos_right (by decide)
  · split at grown
    · rename_i below
      cases grown
      exact below
    · cases grown

/-- A message takes its counter whether or not it is sent in the end. -/
theorem sendGroup_eq (message : GroupMessage) (radio : Radio) :
    ∃ result sent, actor.sendGroup message radio = .returned result sent
        (actor.counting message.fabricId (saturatingSucc message.counter)) ∧
      (sent = none ∨ sent = some message) := by
  simp only [sendGroup]
  split
  · exact ⟨_, none, rfl, .inl rfl⟩
  · split
    · exact ⟨_, none, rfl, .inl rfl⟩
    · split
      · exact ⟨_, _, rfl, .inr rfl⟩
      · exact ⟨_, _, rfl, .inr rfl⟩

inductive Invokes (actor : Actor) : Arm → Prop where
  | refused (e : Error) : Invokes actor (.returned (.error e) none actor)
  | blocked (sole : actor.state.fabrics = [fabric]) (e : Error) :
    Invokes actor (.returned (.error e) none
      (actor.counting fabric.fabricId (actor.nextCounter fabric)))
  | sends (sole : actor.state.fabrics = [fabric]) (on : message.fabricId = fabric.fabricId)
    (counter : message.counter = actor.nextCounter fabric)
    (reserved : message.counter < fabric.outboundGroupCounter) (radio : Radio) :
    Invokes actor ((actor.counting fabric.fabricId message.counter).sendGroup message radio)
  | reserves (sole : actor.state.fabrics = [fabric]) (on : message.fabricId = fabric.fabricId)
    (counter : message.counter = actor.nextCounter fabric)
    (full : fabric.outboundGroupCounter ≤ message.counter)
    (grown : nextCeiling? message.counter = some ceiling)
    (taken : serialize ⟨[withCeiling ceiling fabric]⟩ = .ok out) :
    Invokes actor (.saving ⟨received out, actor.snapshotSeq + 1⟩
      (.invokeGroup fabric.outboundGroupCounter message)
      { actor.counting fabric.fabricId message.counter with
        state := ⟨[withCeiling ceiling fabric]⟩, snapshotSeq := actor.snapshotSeq + 1 })

theorem invokes (groupId keySetId : UInt16) (payload : Octets) (radio : Radio) :
    Invokes actor (actor.handleInvokeGroup groupId keySetId payload radio) := by
  simp only [handleInvokeGroup]
  split
  · exact .refused _
  · rename_i fabric sole
    have sole := soleFabric_ok sole
    split
    · exact .refused _
    · split
      · exact .refused _
      · split
        · rename_i full
          split
          · exact .blocked sole _
          · rename_i ceiling grown
            cases taken : serialize ⟨[withCeiling ceiling fabric]⟩ with
            | ok out =>
              simp only [durableSaveInputs, taken]
              exact .reserves sole rfl rfl full grown taken
            | error e =>
              simp only [durableSaveInputs, taken]
              exact .blocked sole e
        · rename_i reserved
          exact .sends sole rfl rfl (UInt32.not_le.mp reserved) radio

/-- A commission starts on a task of its own. -/
inductive Spawns (actor : Actor) : Command → Arm → Prop where
  | task {fabric : FabricEntry} (sole : actor.state.fabrics = [fabric]) (label : Option Text)
    (record : Except Error Unit) (clock : Except Error MatterTime) :
    Spawns actor (.commission label record clock) (.returned (.ok .spawned) none
      { actor with
        commissions := actor.commissions ++ [⟨fabric.fabricId, nextDeviceNodeId fabric, label⟩] })

theorem commission_cases (label : Option Text) (record : Except Error Unit)
    (clock : Except Error MatterTime) :
    Settles actor ((commission label record clock).arm actor) ∨
      Spawns actor (.commission label record clock)
        ((commission label record clock).arm actor) := by
  simp only [arm]
  split
  · exact .inl (settles_unchanged _)
  · rename_i task started
    unfold spawnCommission at started
    split at started
    · cases started
    · obtain ⟨fabric, sole, started⟩ := Exits.of_bind_ok started
      obtain ⟨-, -, started⟩ := Exits.of_bind_ok started
      obtain ⟨now, -, rfl⟩ := Exits.of_bind_pure started
      exact .inr (.task (soleFabric_ok sole) label record clock)

theorem arm_cases (command : Command) :
    Settles actor (command.arm actor) ∨ Spawns actor command (command.arm actor) ∨
      Invokes actor (command.arm actor) := by
  cases command with
  | createFabric cfg clock minted => exact .inl (settles_createFabric cfg clock minted)
  | persistIcdRegistration registration => exact .inl (settles_persistIcdRegistration registration)
  | createGroup keySetId start random => exact .inl (settles_createGroup keySetId start random)
  | invokeGroup groupId keySetId payload radio =>
    exact .inr (.inr (invokes groupId keySetId payload radio))
  | commission label record clock =>
    rcases commission_cases label record clock with settles | spawns
    · exact .inl settles
    · exact .inr (.inl spawns)
  | completion task result => exact .inl (settles_completion task result)
  | forgetNode nodeId => exact .inl (settles_forgetNode nodeId)
  | setNodeVidPid nodeId vendor product => exact .inl (settles_setNodeVidPid nodeId vendor product)
  | invalidateResumptionRecords id => exact .inl (settles_invalidateResumptionRecords id)
  | connected fabricId nodeId addr record =>
    exact .inl (settles_connected fabricId nodeId addr record)
  | resumptionUnusable nodeId => exact .inl (settles_resumptionUnusable nodeId)
  | storeResumptionRecord nodeId record =>
    exact .inl (settles_storeResumptionRecord nodeId record)

end Actor
end Matter.Controller
