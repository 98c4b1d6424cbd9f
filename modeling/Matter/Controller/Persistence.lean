import Matter.Base.Logs
import Matter.Base.Tables
import Matter.Controller.Snapshot

/-! The commands that change what a controller keeps, the saves they wait for or leave
to other threads, and the process that may die at any point and start again from its
store. The body of a command runs alone; only spawned saves run in between. -/
namespace Matter.Controller
open Codec (Octets Text)
open Cert (Block MatterCertificate MatterTime)
open Handshake (received)

/-- A snapshot and its place in the order in which snapshots were taken. -/
structure SaveJob where
  bytes : Octets
  seq : Nat

/-- A commission on a task of its own, with the node id it was given. -/
structure Commission where
  fabricId : UInt64
  assignedNodeId : UInt64
  label : Option Text

/-- What the modelled commands use of the actor, with the tasks it has spawned. -/
structure Actor where
  state : ControllerState
  trust : Bool
  groupCounters : Table UInt64 UInt32
  snapshotSeq : Nat
  detached : List SaveJob
  commissions : List Commission

def Actor.new (state : ControllerState) (trust : Bool) : Actor :=
  ⟨state, trust, ∅, 0, [], []⟩

/-- What a command answers; a commission answers when it completes. -/
inductive Reply where
  | fabricId (id : UInt64)
  | done
  | groupKeySet (keys : GroupKeySetConfig)
  | nodeInfo (nodeId fabricId : UInt64) (label : Option Text)
  | removed (some_device : Bool)
  | cleared (count : Nat)
  | spawned
  deriving DecidableEq

/-- A group message as it is given to the framing layer. -/
structure GroupMessage where
  fabricId : UInt64
  sourceNodeId : UInt64
  groupId : UInt16
  epochKey : Block 16
  counter : UInt32
  payload : Octets

/-- What is left of a command when its snapshot has been taken. -/
inductive Await where
  | reply (reply : Reply)
  | invokeGroup (ceiling : UInt32) (message : GroupMessage)

/-- How far a command got: to its end, or to a save it waits for. -/
inductive Arm where
  | returned (result : Except Error Reply) (sent : Option GroupMessage) (actor : Actor)
  | saving (job : SaveJob) (await : Await) (actor : Actor)

/-- The group keys, the random exchange id, the framing layer and the socket, as far as
they may fail. -/
structure Radio where
  keys : Except String Unit
  exchangeId : Except String UInt16
  frame : Bool
  socket : Except String Unit

/-! Fabrics. -/

structure FabricConfig where
  fabricId : UInt64
  commissionerNodeId : UInt64
  validity : MatterTime × MatterTime

structure Minted where
  ipk : Block 16
  rcacCert : MatterCertificate
  rcacPkcs8 : Octets
  operationalPkcs8 : Octets
  noc : MatterCertificate
  icac : Option IcacIdentity

def validateValidity (window : MatterTime × MatterTime) : Except Error Unit := do
  if window.1.secs = 0 then throw .invalidFabricValidity
  if window.2 ≠ .noExpiry ∧ window.2.secs ≤ window.1.secs then throw .invalidFabricValidity

def maxNotBeforeAheadSecs : UInt32 := 24 * 60 * 60

def validateValidityAgainstNow (window : MatterTime × MatterTime) (now : MatterTime) :
    Except Error Unit := do
  let limit := min (now.secs.toNat + maxNotBeforeAheadSecs.toNat) (2 ^ 32 - 1)
  if window.1.secs.toNat > limit then throw .invalidFabricValidity
  if window.2 ≠ .noExpiry ∧ window.2.secs ≤ now.secs then throw .invalidFabricValidity

def validateValidityAgainstClock (window : MatterTime × MatterTime) :
    Except Error MatterTime → Except Error Unit
  | .ok now => validateValidityAgainstNow window now
  | .error (.systemClockUnset _) =>
    if window.1.secs = 0 then .error .invalidFabricValidity else .ok ()
  | .error e => .error e

/-- `fabric::create_fabric`; key generation and signing come as their result. -/
def createFabric (cfg : FabricConfig) (minted : Except Error Minted) : Except Error FabricEntry := do
  validateValidity cfg.validity
  let m ← minted
  return {
    fabricId := cfg.fabricId
    ipk := m.ipk
    rcacCert := m.rcacCert
    rcacPkcs8 := m.rcacPkcs8
    commissioner := ⟨cfg.commissionerNodeId, m.operationalPkcs8, m.noc⟩
    devices := []
    groupKeys := []
    outboundGroupCounter := 0
    icdClients := []
    icac := m.icac }

namespace ControllerState

def soleFabric (state : ControllerState) : Except Error FabricEntry :=
  match state.fabrics with
  | [one] => .ok one
  | [] => .error (.notCommissioned "no fabric created yet")
  | _ => .error (.notCommissioned
      "multiple fabrics; fabric(id).node(id) addressing is not in M8.2")

end ControllerState

/-- A number as `{:#x}` shows it. -/
def hex (n : UInt64) : String := "0x" ++ String.ofList (Nat.toDigits 16 n.toNat)

/-- The first item that matches is changed. -/
def updateFirst {α : Type} (p : α → Bool) (change : α → α) : List α → List α
  | [] => []
  | a :: rest => if p a then change a :: rest else a :: updateFirst p change rest

namespace Actor

def mapFabrics (actor : Actor) (change : FabricEntry → FabricEntry) : Actor :=
  { actor with state := ⟨actor.state.fabrics.map change⟩ }

def updateFabric (actor : Actor) (fabricId : UInt64) (change : FabricEntry → FabricEntry) : Actor :=
  { actor with
    state := ⟨updateFirst (fun f => f.fabricId = fabricId) change actor.state.fabrics⟩ }

/-! Saves. -/

def saveJob (actor : Actor) (out : Bytes) : SaveJob × Actor :=
  (⟨received out, actor.snapshotSeq + 1⟩, { actor with snapshotSeq := actor.snapshotSeq + 1 })

def durableSaveInputs (actor : Actor) : Except Error (SaveJob × Actor) := do
  let out ← serialize actor.state
  return actor.saveJob out

def persistBestEffort (actor : Actor) : Actor :=
  match serialize actor.state with
  | .error _ => actor
  | .ok out =>
    let (job, actor) := actor.saveJob out
    { actor with detached := actor.detached ++ [job] }

/-- The end of the commands that answer when their change is saved. -/
def durably (actor : Actor) (reply : Reply) : Arm :=
  match actor.durableSaveInputs with
  | .ok (job, actor) => .saving job (.reply reply) actor
  | .error e => .returned (.error e) none actor

def refuse (actor : Actor) (e : Error) : Arm := .returned (.error e) none actor

/-! Commands. -/

def handleCreateFabric (actor : Actor) (cfg : FabricConfig) (clock : Except Error MatterTime)
    (minted : Except Error Minted) : Arm :=
  if actor.state.fabrics.any (fun f => f.fabricId = cfg.fabricId) then
    actor.refuse (.fabricAlreadyExists cfg.fabricId)
  else
    match validateValidityAgainstClock cfg.validity clock with
    | .error e => actor.refuse e
    | .ok () =>
      match createFabric cfg minted with
      | .error e => actor.refuse e
      | .ok entry =>
        durably { actor with state := ⟨actor.state.fabrics ++ [entry]⟩ } (.fabricId entry.fabricId)

def registered (registration : IcdRegistration) (fabric : FabricEntry) : FabricEntry :=
  { fabric with
    icdClients := fabric.icdClients.filter (fun r => r.nodeId ≠ registration.nodeId) ++
      [registration] }

def handlePersistIcdRegistration (actor : Actor) (registration : IcdRegistration) : Arm :=
  match actor.state.soleFabric with
  | .error e => actor.refuse e
  | .ok fabric => durably { actor with state := ⟨[registered registration fabric]⟩ } .done

def upserted (keys : GroupKeySetConfig) (fabric : FabricEntry) : FabricEntry :=
  { fabric with
    groupKeys := fabric.groupKeys.filter (fun k => k.keySetId ≠ keys.keySetId) ++ [keys] }

def handleCreateGroup (actor : Actor) (keySetId : UInt16) (epochStartTime : UInt64)
    (random : Except String (Block 16)) : Arm :=
  match random with
  | .error e => actor.refuse (.operational s!"group epoch-key generation failed: {e}")
  | .ok epochKey =>
    match actor.state.soleFabric with
    | .error e => actor.refuse e
    | .ok fabric =>
      durably { actor with state := ⟨[upserted ⟨keySetId, epochKey, epochStartTime⟩ fabric]⟩ }
        (.groupKeySet ⟨keySetId, epochKey, epochStartTime⟩)

def firstDeviceNodeId : UInt64 := 2

def nextDeviceNodeId (fabric : FabricEntry) : UInt64 :=
  let candidate := match (fabric.devices.map DeviceEntry.nodeId).max? with
    | some m => m + 1
    | none => firstDeviceNodeId
  if candidate = fabric.commissioner.nodeId then candidate + 1 else candidate

/-- The record of the fabric and the clock may fail. -/
def spawnCommission (actor : Actor) (label : Option Text) (record : Except Error Unit)
    (clock : Except Error MatterTime) : Except Error Commission :=
  if !actor.trust then .error .noTrust
  else do
    let fabric ← actor.state.soleFabric
    record
    let _ ← clock
    return ⟨fabric.fabricId, nextDeviceNodeId fabric, label⟩

/-- `device_entry_from_commissioned`, with the label of the command. -/
def commissioned (commission : Commission) (peerRootPublicKey : Block 65) : DeviceEntry where
  nodeId := commission.assignedNodeId
  peerNocPublicKey := peerRootPublicKey
  resumptionRecord := none
  lastKnownAddr := none
  vendorId := none
  productId := none
  label := commission.label

def handleCommissionCompletion (actor : Actor) (commission : Commission)
    (result : Except Error (Block 65)) : Arm :=
  match result with
  | .error e => actor.refuse e
  | .ok key =>
    let actor := actor.updateFabric commission.fabricId fun fabric =>
      { fabric with devices := fabric.devices ++ [commissioned commission key] }
    durably actor (.nodeInfo commission.assignedNodeId commission.fabricId commission.label)

def forget (nodeId : UInt64) (fabric : FabricEntry) : FabricEntry :=
  { fabric with devices := fabric.devices.filter fun d => d.nodeId ≠ nodeId }

/-- What `ForgetNode` does to the saved state. -/
def forgetNode (actor : Actor) (nodeId : UInt64) : Arm :=
  if actor.state.fabrics.any (fun f => f.devices.any fun d => d.nodeId = nodeId) then
    durably (actor.mapFabrics (forget nodeId)) (.removed true)
  else .returned (.ok (.removed false)) none actor

/-- The first device with the id, in the first fabric that has one. -/
def updateDevice (actor : Actor) (nodeId : UInt64) (change : DeviceEntry → DeviceEntry) : Actor :=
  { actor with
    state := ⟨updateFirst (fun f => f.devices.any fun d => d.nodeId = nodeId)
      (fun f => { f with devices := updateFirst (fun d => d.nodeId = nodeId) change f.devices })
      actor.state.fabrics⟩ }

def withVidPid (vendorId productId : Option UInt16) (device : DeviceEntry) : DeviceEntry :=
  { device with
    vendorId := vendorId.or device.vendorId
    productId := productId.or device.productId }

def handleSetNodeVidPid (actor : Actor) (nodeId : UInt64) (vendorId productId : Option UInt16) :
    Arm :=
  let updated := actor.updateDevice nodeId (withVidPid vendorId productId)
  if updated.state = actor.state then .returned (.ok .done) none actor
  else durably updated .done

def handleInvalidateResumptionRecords (actor : Actor) (fabricId : UInt64) : Arm :=
  match actor.state.fabrics.find? fun f => f.fabricId = fabricId with
  | none => actor.refuse (.operational
      s!"no fabric {hex fabricId} to invalidate resumption records on")
  | some fabric =>
    let cleared := fabric.devices.countP fun d => d.resumptionRecord.isSome
    durably (actor.updateFabric fabricId fun f =>
      { f with devices := f.devices.map fun d => { d with resumptionRecord := none } })
      (.cleared cleared)

def device? (actor : Actor) (fabricId nodeId : UInt64) : Option DeviceEntry := do
  let fabric ← actor.state.fabrics.find? fun f => f.fabricId = fabricId
  fabric.devices.find? fun d => d.nodeId = nodeId

def updateDeviceOn (actor : Actor) (fabricId nodeId : UInt64)
    (change : DeviceEntry → DeviceEntry) : Actor :=
  actor.updateFabric fabricId fun f =>
    { f with devices := updateFirst (fun d => d.nodeId = nodeId) change f.devices }

def reached (addr : Text) (resumptionRecord : Option Octets) (device : DeviceEntry) : DeviceEntry :=
  { device with
    lastKnownAddr := some addr
    resumptionRecord := resumptionRecord.or device.resumptionRecord }

def upsertDevice (actor : Actor) (fabricId nodeId : UInt64) (addr : Text)
    (resumptionRecord : Option Octets) : Actor :=
  match actor.device? fabricId nodeId with
  | none => actor
  | some device =>
    if device.lastKnownAddr ≠ some addr ∨ resumptionRecord.isSome then
      (actor.updateDeviceOn fabricId nodeId (reached addr resumptionRecord)).persistBestEffort
    else actor

def recoverFromUnusableResumptionRecord (actor : Actor) (nodeId : UInt64) : Actor :=
  match actor.state.soleFabric with
  | .error _ => actor
  | .ok fabric =>
    (actor.updateDeviceOn fabric.fabricId nodeId
      fun d => { d with resumptionRecord := none }).persistBestEffort

/-- The serialized record comes as a result. -/
def handleStoreResumptionRecord (actor : Actor) (nodeId : UInt64)
    (record : Except Error Octets) : Except Error Unit × Actor :=
  match actor.state.soleFabric, record with
  | .error e, _ => (.error e, actor)
  | .ok _, .error e => (.error e, actor)
  | .ok fabric, .ok bytes =>
    match actor.device? fabric.fabricId nodeId with
    | none => (.error (.operational
        s!"no device entry for node {hex nodeId} to store a resumption record on"), actor)
    | some _ =>
      (.ok (), (actor.updateDeviceOn fabric.fabricId nodeId
        fun d => { d with resumptionRecord := some bytes }).persistBestEffort)

/-! Group messages. -/

def groupCounterBlock : UInt32 := 64

def u32Max : UInt32 := 0xffffffff

/-- The ceiling of the block that starts at `next`. -/
def nextCeiling? (next : UInt32) : Option UInt32 :=
  if next.toNat + groupCounterBlock.toNat < 2 ^ 32 then some (next + groupCounterBlock)
  else if next < u32Max then some u32Max
  else none

def saturatingSucc (n : UInt32) : UInt32 := if n = u32Max then u32Max else n + 1

/-- The counter is taken; the message is built, framed and given to the socket. -/
def sendGroup (actor : Actor) (message : GroupMessage) (radio : Radio) : Arm :=
  let actor := { actor with
    groupCounters := actor.groupCounters.insert message.fabricId (saturatingSucc message.counter) }
  match radio.exchangeId with
  | .error e => actor.refuse (.operational s!"exchange-id generation failed: {e}")
  | .ok _ =>
    if !radio.frame then actor.refuse .transport
    else
      match radio.socket with
      | .error e => .returned (.error (.operational s!"group send: {e}")) (some message) actor
      | .ok () => .returned (.ok .done) (some message) actor

def epochKey? (fabric : FabricEntry) (keySetId : UInt16) : Option (Block 16) :=
  (fabric.groupKeys.reverse.find? fun k => k.keySetId = keySetId).map GroupKeySetConfig.epochKey

def nextCounter (actor : Actor) (fabric : FabricEntry) : UInt32 :=
  (actor.groupCounters.lookup fabric.fabricId).getD fabric.outboundGroupCounter

def withCeiling (ceiling : UInt32) (fabric : FabricEntry) : FabricEntry :=
  { fabric with outboundGroupCounter := ceiling }

def handleInvokeGroup (actor : Actor) (groupId keySetId : UInt16) (payload : Octets)
    (radio : Radio) : Arm :=
  match actor.state.soleFabric with
  | .error e => actor.refuse e
  | .ok fabric =>
    match epochKey? fabric keySetId with
    | none => actor.refuse (.groupNotProvisioned keySetId)
    | some epochKey =>
      match radio.keys with
      | .error e => actor.refuse (.operational e)
      | .ok () =>
        let ceiling := fabric.outboundGroupCounter
        let next := actor.nextCounter fabric
        let message := ⟨fabric.fabricId, fabric.commissioner.nodeId, groupId, epochKey, next, payload⟩
        -- `entry(..).or_insert(ceiling)`
        let actor := { actor with
          groupCounters := actor.groupCounters.insert fabric.fabricId next }
        if next ≥ ceiling then
          match nextCeiling? next with
          | none => actor.refuse (.operational "group counter exhausted — re-key the group")
          | some newCeiling =>
            let raised := { actor with state := ⟨[withCeiling newCeiling fabric]⟩ }
            match raised.durableSaveInputs with
            | .ok (job, raised) => .saving job (.invokeGroup ceiling message) raised
            | .error e => actor.refuse e
        else actor.sendGroup message radio

/-- The command goes on with the outcome of its save. -/
def resume (actor : Actor) (await : Await) (saved : Except Error Unit) (radio : Radio) : Arm :=
  match await, saved with
  | .reply reply, .ok () => .returned (.ok reply) none actor
  | .reply _, .error e => actor.refuse e
  | .invokeGroup _ message, .ok () => actor.sendGroup message radio
  | .invokeGroup ceiling _, .error e =>
    match actor.state.soleFabric with
    | .ok fabric => refuse { actor with state := ⟨[withCeiling ceiling fabric]⟩ } e
    | .error _ => actor.refuse e

end Actor

inductive Command where
  | createFabric (cfg : FabricConfig) (clock : Except Error MatterTime)
      (minted : Except Error Minted)
  | persistIcdRegistration (registration : IcdRegistration)
  | createGroup (keySetId : UInt16) (epochStartTime : UInt64) (random : Except String (Block 16))
  | invokeGroup (groupId keySetId : UInt16) (payload : Octets) (radio : Radio)
  | commission (label : Option Text) (record : Except Error Unit) (clock : Except Error MatterTime)
  | completion (task : Nat) (result : Except Error (Block 65))
  | forgetNode (nodeId : UInt64)
  | setNodeVidPid (nodeId : UInt64) (vendorId productId : Option UInt16)
  | invalidateResumptionRecords (fabricId : UInt64)
  | connected (fabricId nodeId : UInt64) (addr : Text) (resumptionRecord : Option Octets)
  | resumptionUnusable (nodeId : UInt64)
  | storeResumptionRecord (nodeId : UInt64) (record : Except Error Octets)

/-- The body of a command, up to the save it waits for. -/
def Command.arm (actor : Actor) : Command → Arm
  | createFabric cfg clock minted => actor.handleCreateFabric cfg clock minted
  | persistIcdRegistration registration => actor.handlePersistIcdRegistration registration
  | createGroup keySetId epochStartTime random =>
    actor.handleCreateGroup keySetId epochStartTime random
  | invokeGroup groupId keySetId payload radio =>
    actor.handleInvokeGroup groupId keySetId payload radio
  | commission label record clock =>
    match actor.spawnCommission label record clock with
    | .error e => actor.refuse e
    | .ok task => .returned (.ok .spawned) none
        { actor with commissions := actor.commissions ++ [task] }
  | completion task result =>
    match actor.commissions[task]? with
    | none => .returned (.ok .done) none actor
    | some running =>
      Actor.handleCommissionCompletion
        { actor with commissions := actor.commissions.eraseIdx task } running result
  | forgetNode nodeId => actor.forgetNode nodeId
  | setNodeVidPid nodeId vendorId productId => actor.handleSetNodeVidPid nodeId vendorId productId
  | invalidateResumptionRecords fabricId => actor.handleInvalidateResumptionRecords fabricId
  | connected fabricId nodeId addr resumptionRecord =>
    .returned (.ok .done) none (actor.upsertDevice fabricId nodeId addr resumptionRecord)
  | resumptionUnusable nodeId =>
    .returned (.ok .done) none (actor.recoverFromUnusableResumptionRecord nodeId)
  | storeResumptionRecord nodeId record =>
    let (result, actor) := actor.handleStoreResumptionRecord nodeId record
    .returned (result.map fun _ => .done) none actor

/-! The process and its store. -/

inductive Write where
  | written
  | failed
  | panicked (text : String)

/-- The answer of a save job, with the gate and the store after it. -/
def SaveJob.run (job : SaveJob) (gate : Nat) (store : Option Octets) (write : Write) :
    Except Error Unit × Nat × Option Octets :=
  if job.seq < gate then (.ok (), gate, store)
  else
    match write with
    | .written => (.ok (), job.seq, some job.bytes)
    | .failed => (.error .store, gate, store)
    | .panicked text => (.error (.operational s!"persistence task failed: {text}"), gate, store)

/-- A running controller; a command may be waiting for its save. -/
structure Process where
  actor : Actor
  gate : Nat
  awaiting : Option (SaveJob × Await)

/-- The store outlives the process. -/
structure World where
  trust : Bool
  store : Option Octets
  process : Option Process

inductive Event where
  | command (command : Command)
  | saved (write : Write) (radio : Radio)
  | background (job : Nat) (write : Write)
  | restart

structure Output where
  result : Option (Except Error Reply)
  sent : Option GroupMessage

def Output.none : Output := ⟨.none, .none⟩

def load : Option Octets → Except Error ControllerState
  | some blob => deserialize blob
  | none => .ok ⟨[]⟩

/-- A process that has just been started from the store, if it can be loaded. -/
def Process.boot (trust : Bool) (store : Option Octets) : Option Process :=
  match load store with
  | .ok state => some ⟨.new state trust, 0, none⟩
  | .error _ => none

def World.start (trust : Bool) (store : Option Octets) : World :=
  ⟨trust, store, Process.boot trust store⟩

namespace Process

def settle (process : Process) : Arm → Process × Output
  | .returned result sent actor => (⟨actor, process.gate, none⟩, ⟨some result, sent⟩)
  | .saving job await actor => (⟨actor, process.gate, some (job, await)⟩, .none)

/-- One event in the life of a process, with the store after it. -/
def next (process : Process) (store : Option Octets) : Event → Process × Option Octets × Output
  | .command command =>
    match process.awaiting with
    | some _ => (process, store, .none)
    | none =>
      let (process, output) := process.settle (command.arm process.actor)
      (process, store, output)
  | .saved write radio =>
    match process.awaiting with
    | none => (process, store, .none)
    | some (job, await) =>
      let (saved, gate, store) := job.run process.gate store write
      let (process, output) :=
        settle { process with gate } (process.actor.resume await saved radio)
      (process, store, output)
  | .background i write =>
    match process.actor.detached[i]? with
    | none => (process, store, .none)
    | some job =>
      let (_, gate, store) := job.run process.gate store write
      let actor := { process.actor with detached := process.actor.detached.eraseIdx i }
      ({ process with actor, gate }, store, .none)
  | .restart => (process, store, .none)

end Process

namespace World

def next (world : World) (event : Event) : World × Output :=
  match event, world.process with
  | .restart, _ => (start world.trust world.store, .none)
  | _, none => (world, .none)
  | event, some process =>
    let (process, store, output) := process.next world.store event
    (⟨world.trust, store, some process⟩, output)

def step (world : World) (event : Event) : World := (world.next event).1

def output (world : World) (event : Event) : Output := (world.next event).2

/-- The group messages given to the socket, in order. -/
def sent (world : World) (events : List Event) : List GroupMessage :=
  (Logs.log step output world events).filterMap Output.sent

end World

def working : Radio := ⟨.ok (), .ok 0, true, .ok ()⟩

def saves : Event := .saved .written working

end Matter.Controller
