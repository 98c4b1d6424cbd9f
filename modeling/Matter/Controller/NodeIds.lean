import Mathlib.Data.List.Perm.Basic
import Matter.Controller.Edits

/-! The node ids of a fabric. A commission takes its id from the devices known when it
starts, and its device is added when it ends; as long as no commission starts while one
under way has the id that is next, the ids stay distinct, through forgotten nodes and
restarts. -/
namespace Matter.Controller
open ControllerState
open Codec (Octets Text)
open Cert (Block MatterTime)
open Handshake (received)

/-- The devices of a fabric have ids of their own, none of them the commissioner's. -/
def Numbers.Unique (n : Numbers) : Prop := n.devices.Nodup ∧ n.commissioner ∉ n.devices

/-- The ids of all known devices and of all commissions under way. -/
structure Actor.UniqueNodeIds (actor : Actor) : Prop where
  devices : ∀ n ∈ actor.state.numbers, n.Unique
  overlapping : actor.commissions.Pairwise fun first second =>
    first.fabricId = second.fabricId → first.assignedNodeId ≠ second.assignedNodeId
  assigned : ∀ task ∈ actor.commissions, ∀ n ∈ actor.state.numbers,
    n.fabricId = task.fabricId →
      task.assignedNodeId ≠ n.commissioner ∧ task.assignedNodeId ∉ n.devices

/-- The id after the known devices is not that of a commission under way, and there are ids
left above. -/
def Actor.NextFree (actor : Actor) : Prop :=
  (∀ fabric ∈ actor.state.fabrics, ∀ task ∈ actor.commissions,
    task.assignedNodeId ≠ nextDeviceNodeId fabric) ∧
  ∀ n ∈ actor.state.numbers, ∀ id ∈ n.devices, id.toNat + 2 < 2 ^ 64

instance decidableNextFree (actor : Actor) : Decidable actor.NextFree :=
  -- Along the list: `UInt64` is finite, and its own instance would go through all of it.
  have (n : Numbers) : Decidable (∀ id ∈ n.devices, id.toNat + 2 < 2 ^ 64) :=
    List.decidableBAll _ _
  inferInstanceAs (Decidable (_ ∧ _))

def StartsFree (world : World) : Event → Prop
  | .command (.commission ..) =>
    ∀ process ∈ world.process, process.awaiting = none → process.actor.NextFree
  | _ => True

/-! The id of a new device. -/

instance lawfulOrderMax : Std.LawfulOrderMax UInt64 where
  max_le_iff a b c := by
    rw [UInt64.le_iff_toNat_le, UInt64.le_iff_toNat_le, UInt64.le_iff_toNat_le]
    change (if a ≤ b then b else a).toNat ≤ c.toNat ↔ _
    split
    · rename_i le
      rw [UInt64.le_iff_toNat_le] at le
      omega
    · rename_i le
      rw [UInt64.le_iff_toNat_le] at le
      omega
  max_eq_or a b := by
    change (if a ≤ b then b else a) = a ∨ (if a ≤ b then b else a) = b
    split
    · exact .inr rfl
    · exact .inl rfl

theorem toNat_succ {a : UInt64} (room : a.toNat + 1 < 2 ^ 64) : (a + 1).toNat = a.toNat + 1 := by
  rw [UInt64.toNat_add, UInt64.toNat_one, Nat.mod_eq_of_lt room]

/-- The candidate lies above every device, and so does its successor. -/
theorem nextDeviceNodeId_fresh (room : ∀ id ∈ fabric.numbers.devices, id.toNat + 2 < 2 ^ 64) :
    Actor.nextDeviceNodeId fabric ≠ fabric.commissioner.nodeId ∧
      Actor.nextDeviceNodeId fabric ∉ fabric.numbers.devices := by
  obtain ⟨candidate, same, above, last⟩ : ∃ candidate : UInt64,
      Actor.nextDeviceNodeId fabric =
        (if candidate = fabric.commissioner.nodeId then candidate + 1 else candidate) ∧
      (∀ id ∈ fabric.numbers.devices, id.toNat < candidate.toNat) ∧
      candidate.toNat + 1 < 2 ^ 64 := by
    cases greatest : (fabric.devices.map DeviceEntry.nodeId).max? with
    | none =>
      have none : fabric.numbers.devices = [] := List.max?_eq_none_iff.mp greatest
      refine ⟨Actor.firstDeviceNodeId, ?_, ?_, by decide⟩
      · simp [Actor.nextDeviceNodeId, greatest]
      · rw [none]
        exact nofun
    | some m =>
      obtain ⟨member, most⟩ := List.max?_eq_some_iff.mp greatest
      have small := room m member
      have next : (m + 1).toNat = m.toNat + 1 := toNat_succ (by omega)
      refine ⟨m + 1, ?_, fun id found => ?_, by omega⟩
      · simp [Actor.nextDeviceNodeId, greatest]
      · have le := UInt64.le_iff_toNat_le.mp (most id found)
        omega
  rw [same]
  split
  · rename_i taken
    have next := toNat_succ last
    constructor
    · intro equal
      rw [← taken] at equal
      have := congrArg UInt64.toNat equal
      omega
    · intro found
      have := above _ found
      omega
  · rename_i free
    refine ⟨free, fun found => ?_⟩
    exact absurd (above _ found) (lt_irrefl _)

/-! What the edits keep. -/

/-- The commission works for the first fabric, on an id that nobody has there. -/
def Fresh (numbers : List Numbers) (task : Commission) : Prop :=
  ∃ n rest, numbers = n :: rest ∧ n.fabricId = task.fabricId ∧
    (∀ m ∈ rest, m.fabricId ≠ task.fabricId) ∧
    task.assignedNodeId ≠ n.commissioner ∧ task.assignedNodeId ∉ n.devices

/-- The ids in memory. -/
structure Apart (state : ControllerState) (tasks : List Commission) : Prop where
  unique : ∀ n ∈ state.numbers, n.Unique
  fresh : ∀ task ∈ tasks, Fresh state.numbers task
  distinct : (tasks.map Commission.assignedNodeId).Nodup

def LoadsUnique (blob : Octets) : Prop :=
  ∀ state, deserialize blob = .ok state → ∀ n ∈ state.numbers, n.Unique

theorem Apart.loads (apart : Apart state tasks) (taken : serialize state = .ok out) :
    LoadsUnique (received out) := by
  intro state' read
  rw [numbers_of_load taken read]
  exact apart.unique

theorem Apart.uniqueNodeIds {actor : Actor} (apart : Apart actor.state actor.commissions) :
    actor.UniqueNodeIds := by
  refine ⟨apart.unique, ?_, fun task running n member on => ?_⟩
  · refine (List.pairwise_map.mp apart.distinct).imp ?_
    exact fun different _ => different
  · obtain ⟨first, rest, numbers, id, others, free⟩ := apart.fresh task running
    rw [numbers] at member
    rcases List.mem_cons.mp member with rfl | other
    · exact free
    · exact absurd on (others n other)

theorem Apart.of_numbers (apart : Apart state tasks) (same : state'.numbers = state.numbers) :
    Apart state' tasks := by
  obtain ⟨unique, fresh, distinct⟩ := apart
  rw [← same] at unique fresh
  exact ⟨unique, fresh, distinct⟩

theorem Apart.sublist (apart : Apart state tasks) (fewer : tasks'.Sublist tasks) :
    Apart state tasks' :=
  ⟨apart.unique, fun task running => apart.fresh task (fewer.subset running),
    apart.distinct.sublist (fewer.map _)⟩

theorem Apart.created (apart : Apart state tasks)
    (fresh : ∀ f ∈ state.fabrics, f.fabricId ≠ cfg.fabricId)
    (made : createFabric cfg minted = .ok entry) : Apart ⟨state.fabrics ++ [entry]⟩ tasks := by
  have numbers : numbers ⟨state.fabrics ++ [entry]⟩ =
      state.numbers ++ [⟨cfg.fabricId, 0, cfg.commissionerNodeId, []⟩] := by
    rw [numbers, List.map_append, List.map_singleton, createFabric_numbers made]
    rfl
  refine ⟨fun n member => ?_, fun task running => ?_, apart.distinct⟩
  · rw [numbers, List.mem_append, List.mem_singleton] at member
    rcases member with before | rfl
    · exact apart.unique n before
    · exact ⟨.nil, by simp⟩
  · obtain ⟨n, rest, split, id, others, free⟩ := apart.fresh task running
    refine ⟨n, rest ++ [⟨cfg.fabricId, 0, cfg.commissionerNodeId, []⟩], ?_, id, ?_, free⟩
    · rw [numbers, split, List.cons_append]
    · intro m member
      rcases List.mem_append.mp member with before | new
      · exact others m before
      · obtain ⟨f, found, same⟩ : ∃ f ∈ state.fabrics, f.numbers = n := by
          have head : n ∈ state.numbers := by
            rw [split]
            exact List.mem_cons_self
          exact List.mem_map.mp head
        rw [List.mem_singleton.mp new, ← id, ← same]
        exact (fresh f found).symm

/-- The device of a commission is added under the id that was kept free for it. -/
theorem Apart.completed {actor : Actor} (apart : Apart actor.state actor.commissions)
    (found : actor.commissions[task]? = some running) (key : Block 65) :
    Apart (actor.updateFabric running.fabricId fun fabric =>
        { fabric with devices := fabric.devices ++ [Actor.commissioned running key] }).state
      (actor.commissions.eraseIdx task) := by
  have listed : running ∈ actor.commissions := List.mem_of_getElem? found
  obtain ⟨inside, here⟩ := List.getElem?_eq_some_iff.mp found
  have apart' : ((running :: actor.commissions.eraseIdx task).map
      Commission.assignedNodeId).Nodup := by
    rw [← here]
    exact ((List.getElem_cons_eraseIdx_perm inside).map _).nodup_iff.mpr apart.distinct
  obtain ⟨others, distinct⟩ := List.nodup_cons.mp apart'
  obtain ⟨n, rest, split, id, elsewhere, commissioner, devices⟩ := apart.fresh running listed
  have numbers : (actor.updateFabric running.fabricId fun fabric =>
      { fabric with devices := fabric.devices ++ [Actor.commissioned running key] }).state.numbers =
      { n with devices := n.devices ++ [running.assignedNodeId] } :: rest := by
    obtain ⟨f, fs, fabrics, same, tail⟩ := List.map_eq_cons_iff.mp split
    have first : decide (f.fabricId = running.fabricId) = true := by
      rw [← same] at id
      exact decide_eq_true id
    simp only [numbers, Actor.updateFabric, fabrics, updateFirst, first, if_true,
      List.map_cons, tail, List.cons.injEq, and_true]
    rw [← same]
    simp [FabricEntry.numbers, Actor.commissioned]
  have head : n.Unique := apart.unique n (by rw [split]; exact List.mem_cons_self)
  refine ⟨fun m member => ?_, fun other remaining => ?_, distinct⟩
  · rw [numbers] at member
    rcases List.mem_cons.mp member with rfl | tail
    · constructor
      · refine List.nodup_append.mpr ⟨head.1, List.nodup_singleton _, fun a known b new => ?_⟩
        rw [List.mem_singleton.mp new]
        rintro rfl
        exact devices known
      · intro known
        rcases List.mem_append.mp known with before | new
        · exact head.2 before
        · exact commissioner (List.mem_singleton.mp new).symm
    · exact apart.unique m (by rw [split]; exact List.mem_cons_of_mem _ tail)
  · obtain ⟨m, rest', split', id', elsewhere', free⟩ :=
      apart.fresh other (List.mem_of_mem_eraseIdx remaining)
    obtain ⟨rfl, rfl⟩ := List.cons.inj (split.symm.trans split')
    refine ⟨_, rest, numbers, id', elsewhere', free.1, fun known => ?_⟩
    rcases List.mem_append.mp known with before | new
    · exact free.2 before
    · apply others
      rw [← List.mem_singleton.mp new]
      exact List.mem_map_of_mem remaining

theorem numbers_forget (nodeId : UInt64) (actor : Actor) :
    (actor.mapFabrics (Actor.forget nodeId)).state.numbers =
      actor.state.numbers.map fun n =>
        { n with devices := n.devices.filter fun id => id ≠ nodeId } := by
  simp only [numbers, Actor.mapFabrics, List.map_map]
  congr 1
  funext f
  simp [FabricEntry.numbers, Actor.forget, List.filter_map, Function.comp_def]

theorem Apart.forgot {actor : Actor} (apart : Apart actor.state tasks) (nodeId : UInt64) :
    Apart (actor.mapFabrics (Actor.forget nodeId)).state tasks := by
  refine ⟨fun n member => ?_, fun task running => ?_, apart.distinct⟩
  · rw [numbers_forget] at member
    obtain ⟨before, known, rfl⟩ := List.mem_map.mp member
    obtain ⟨nodup, commissioner⟩ := apart.unique before known
    exact ⟨nodup.filter _, fun left => commissioner (List.mem_of_mem_filter left)⟩
  · obtain ⟨n, rest, split, id, others, commissioner, devices⟩ := apart.fresh task running
    rw [numbers_forget, split]
    refine ⟨_, _, List.map_cons, id, fun m member => ?_, commissioner, fun left => ?_⟩
    · obtain ⟨before, known, rfl⟩ := List.mem_map.mp member
      exact others before known
    · exact devices (List.mem_of_mem_filter left)

theorem Edit.apart {actor : Actor} (edit : Edit actor state tasks)
    (apart : Apart actor.state actor.commissions) : Apart state tasks := by
  cases edit with
  | kept same => exact apart.of_numbers same
  | created fresh made => exact apart.created fresh made
  | ended task => exact apart.sublist (List.eraseIdx_sublist _ task)
  | completed found key => exact apart.completed found key
  | forgot nodeId => exact apart.forgot nodeId

/-- A commission that starts while its id is free. -/
theorem Apart.spawned {actor : Actor} (apart : Apart actor.state actor.commissions)
    (sole : actor.state.fabrics = [fabric]) (nextFree : actor.NextFree) (label : Option Text) :
    Apart actor.state
      (actor.commissions ++ [⟨fabric.fabricId, Actor.nextDeviceNodeId fabric, label⟩]) := by
  have numbers : actor.state.numbers = [fabric.numbers] := by
    rw [numbers, sole, List.map_singleton]
  obtain ⟨next, room⟩ := nextFree
  have free := nextDeviceNodeId_fresh (room fabric.numbers (by
    rw [numbers]
    exact List.mem_cons_self))
  refine ⟨apart.unique, fun task running => ?_, ?_⟩
  · rcases List.mem_append.mp running with before | new
    · exact apart.fresh task before
    · rw [List.mem_singleton.mp new, numbers]
      exact ⟨fabric.numbers, [], rfl, rfl, by simp, free.1, free.2⟩
  · rw [List.map_append]
    refine List.nodup_append.mpr ⟨apart.distinct, List.nodup_singleton _, fun id taken _ new => ?_⟩
    obtain ⟨task, under, rfl⟩ := List.mem_map.mp taken
    rw [List.mem_singleton.mp new]
    exact next fabric (by simp [sole]) task under

/-! One event at a time. -/

/-- The ids of a process and of what it may still save. -/
structure Tidy (process : Process) : Prop where
  memory : Apart process.actor.state process.actor.commissions
  jobs : ∀ job ∈ process.actor.detached, LoadsUnique job.bytes
  awaited : ∀ job await, process.awaiting = some (job, await) → LoadsUnique job.bytes

theorem Tidy.settles (tidy : Tidy process) (settles : Settles process.actor arm) :
    Tidy (process.settle arm).1 := by
  cases settles with
  | returned edit result => exact ⟨edit.apart tidy.memory, tidy.jobs, nofun⟩
  | saving edit taken reply =>
    have apart := edit.apart tidy.memory
    refine ⟨apart, tidy.jobs, ?_⟩
    rintro job await ⟨⟩
    exact apart.loads taken
  | detached edit taken result =>
    have apart := edit.apart tidy.memory
    refine ⟨apart, fun job found => ?_, nofun⟩
    rcases List.mem_append.mp found with before | new
    · exact tidy.jobs job before
    · rw [List.mem_singleton.mp new]
      exact apart.loads taken

/-- The counters are not among the ids. -/
theorem Apart.withCeiling (apart : Apart state tasks) (sole : state.fabrics = [fabric])
    (ceiling : UInt32) : Apart ⟨[Actor.withCeiling ceiling fabric]⟩ tasks := by
  have before : state.numbers = [fabric.numbers] := by
    rw [numbers, sole, List.map_singleton]
  refine ⟨fun n member => ?_, fun task running => ?_, apart.distinct⟩
  · rw [List.mem_singleton.mp member]
    exact apart.unique fabric.numbers (by rw [before]; exact List.mem_cons_self)
  · obtain ⟨n, rest, split, free⟩ := apart.fresh task running
    obtain ⟨rfl, rfl⟩ := List.cons.inj (before.symm.trans split)
    exact ⟨(Actor.withCeiling ceiling fabric).numbers, [], rfl, free⟩

theorem Tidy.sendGroup {process : Process} {actor : Actor}
    (memory : Apart actor.state actor.commissions)
    (jobs : ∀ job ∈ actor.detached, LoadsUnique job.bytes) (message : GroupMessage)
    (radio : Radio) : Tidy (process.settle (actor.sendGroup message radio)).1 := by
  obtain ⟨result, sent, same, -⟩ := actor.sendGroup_eq message radio
  rw [same]
  exact ⟨memory, jobs, nofun⟩

theorem Tidy.invokes {process : Process} (tidy : Tidy process)
    (invokes : Actor.Invokes process.actor arm) : Tidy (process.settle arm).1 := by
  cases invokes with
  | refused e | blocked sole e => exact ⟨tidy.memory, tidy.jobs, nofun⟩
  | sends sole on counter reserved radio =>
    refine .sendGroup ?_ ?_ _ radio
    · exact tidy.memory
    · exact tidy.jobs
  | @reserves _ ceiling _ _ sole on counter full grown taken =>
    have raised := tidy.memory.withCeiling sole ceiling
    refine ⟨raised, tidy.jobs, ?_⟩
    rintro job await ⟨⟩
    exact raised.loads taken

theorem Tidy.resume {process : Process} (tidy : Tidy process) (gate : Nat)
    (saved : Except Error Unit) (radio : Radio) :
    Tidy (Process.settle { process with gate } (process.actor.resume await saved radio)).1 := by
  have unchanged : Tidy ⟨process.actor, gate, none⟩ := ⟨tidy.memory, tidy.jobs, nofun⟩
  unfold Actor.resume
  split
  · exact unchanged
  · exact unchanged
  · exact .sendGroup tidy.memory tidy.jobs _ radio
  · split
    · rename_i fabric sole
      exact ⟨tidy.memory.withCeiling (soleFabric_ok sole) _, tidy.jobs, nofun⟩
    · exact unchanged

/-- A save leaves the store as it was or puts its snapshot there. -/
theorem run_store (job : SaveJob) (gate : Nat) (store : Option Octets) (write : Write) :
    (job.run gate store write).2.2 = store ∨ (job.run gate store write).2.2 = some job.bytes := by
  unfold SaveJob.run
  split
  · exact .inl rfl
  · split
    · exact .inr rfl
    · exact .inl rfl
    · exact .inl rfl

def StoresUnique (store : Option Octets) : Prop :=
  ∀ state, load store = .ok state → ∀ n ∈ state.numbers, n.Unique

theorem StoresUnique.run {job : SaveJob} (before : StoresUnique store)
    (loads : LoadsUnique job.bytes) (gate : Nat) (write : Write) :
    StoresUnique (job.run gate store write).2.2 := by
  rcases run_store job gate store write with same | written
  · rw [same]
    exact before
  · rw [written]
    exact loads

theorem Tidy.next_event {process : Process} (tidy : Tidy process) (stores : StoresUnique store)
    (free : ∀ label record clock, event = .command (.commission label record clock) →
      process.awaiting = none → process.actor.NextFree) :
    Tidy (process.next store event).1 ∧ StoresUnique (process.next store event).2.1 := by
  cases event with
  | command command =>
    cases awaiting : process.awaiting with
    | some waiting =>
      simp only [Process.next, awaiting]
      exact ⟨tidy, stores⟩
    | none =>
      simp only [Process.next, awaiting]
      refine ⟨?_, stores⟩
      rcases process.actor.arm_cases command with settles | spawns | invokes
      · exact tidy.settles settles
      · generalize command.arm process.actor = arm at spawns ⊢
        obtain ⟨sole, label, record, clock⟩ := spawns
        have nextFree := free label record clock rfl awaiting
        exact ⟨tidy.memory.spawned sole nextFree label, tidy.jobs, nofun⟩
      · exact tidy.invokes invokes
  | saved write radio =>
    cases awaiting : process.awaiting with
    | none =>
      simp only [Process.next, awaiting]
      exact ⟨tidy, stores⟩
    | some waiting =>
      simp only [Process.next, awaiting]
      exact ⟨tidy.resume _ _ radio, stores.run (tidy.awaited _ _ awaiting) _ write⟩
  | background i write =>
    cases found : process.actor.detached[i]? with
    | none =>
      simp only [Process.next, found]
      exact ⟨tidy, stores⟩
    | some job =>
      simp only [Process.next, found]
      refine ⟨⟨tidy.memory, fun other kept => ?_, tidy.awaited⟩, ?_⟩
      · exact tidy.jobs other (List.mem_of_mem_eraseIdx kept)
      · exact stores.run (tidy.jobs job (List.mem_of_getElem? found)) _ write
  | restart => exact ⟨tidy, stores⟩

/-! Whole histories. -/

/-- The ids in memory, in the saves under way and in the store. -/
def TidyWorld (world : World) : Prop :=
  StoresUnique world.store ∧ ∀ process, world.process = some process → Tidy process

theorem TidyWorld.start (trust : Bool) (stores : StoresUnique store) :
    TidyWorld (World.start trust store) := by
  refine ⟨stores, fun process booted => ?_⟩
  rw [World.start, Process.boot] at booted
  split at booted
  · rename_i state loaded
    cases booted
    exact ⟨⟨stores state loaded, nofun, .nil⟩, nofun, nofun⟩
  · cases booted

theorem TidyWorld.step (tidy : TidyWorld world) (free : StartsFree world event) :
    TidyWorld (world.step event) := by
  obtain ⟨trust, store, process⟩ := world
  obtain ⟨stores, each⟩ := tidy
  have live : ∀ running, process = some running →
      TidyWorld ⟨trust, (running.next store event).2.1, some (running.next store event).1⟩ := by
    rintro process rfl
    have after : Tidy (process.next store event).1 ∧
        StoresUnique (process.next store event).2.1 := by
      refine (each process rfl).next_event stores ?_
      rintro label record clock rfl idle
      exact free process rfl idle
    refine ⟨after.2, ?_⟩
    rintro _ ⟨⟩
    exact after.1
  cases event <;> cases process
  case restart.none => exact .start trust stores
  case restart.some => exact .start trust stores
  case command.none => exact ⟨stores, each⟩
  case saved.none => exact ⟨stores, each⟩
  case background.none => exact ⟨stores, each⟩
  case command.some command process => exact live process rfl
  case saved.some write radio process => exact live process rfl
  case background.some i write process => exact live process rfl

/-- Along every history in which a commission starts only while its id is free, the ids of a
fabric are unique: of its devices, of its commissions under way and of its commissioner. -/
theorem node_ids_unique {store : Option Octets} (trust : Bool) {events : List Event}
    (stores : ∀ state, load store = .ok state → ∀ n ∈ state.numbers, n.Unique)
    (free : Runs.EveryStep World.step StartsFree (World.start trust store) events) :
    Runs.EveryState World.step
      (fun world => ∀ process, world.process = some process → process.actor.UniqueNodeIds)
      (World.start trust store) events := by
  have preserves : ∀ world event, TidyWorld world → StartsFree world event →
      TidyWorld (world.step event) := fun _ _ tidy free => tidy.step free
  have tidy := Runs.everyState_of_guard preserves (.start trust stores) free
  refine tidy.imp fun world held process running => ?_
  exact (held.2 process running).memory.uniqueNodeIds

def Command.pair : Command := .commission none (.ok ()) (.ok ⟨1⟩)

def Command.paired : Command := .completion 0 (.ok (.fill 65 4))

/-- The device is forgotten while a commission is under way, and the next one is given its id. -/
def overlap : List Event :=
  [.command .pair, .command (.forgetNode 2), saves, .command .pair, .command .paired, saves]

theorem node_ids_unique_sample :
    ((Runs.run World.step (World.start true (some (sampleBlob lamp)))
        (overlap.take 4)).process.map fun process =>
      process.actor.commissions.map Commission.assignedNodeId) = some [3, 2] ∧
    Runs.EveryState World.step
      (fun world => ∀ process, world.process = some process → process.actor.UniqueNodeIds)
      (World.start true (some (sampleBlob lamp))) overlap := by
  have loaded : load (some (sampleBlob lamp)) = .ok (sampleState lamp) := by decide +kernel
  refine ⟨by decide +kernel, node_ids_unique true ?_ ?_⟩
  · intro state same n member
    rw [loaded] at same
    cases same
    rw [List.mem_singleton.mp member]
    exact ⟨List.nodup_singleton _, by decide⟩
  · simp only [overlap, Runs.everyStep_cons]
    refine ⟨?_, trivial, trivial, ?_, trivial, trivial, Runs.everyStep_nil⟩
    all_goals
      change ∀ process ∈ World.process _, process.awaiting = none → process.actor.NextFree
      decide +kernel

/-- Two commissions that overlap are given one id, and so are their devices. -/
theorem node_ids_shared :
    ((Runs.run World.step (World.start true (some (sampleBlob lamp)))
        [.command .pair, .command .pair]).process.map fun process =>
      process.actor.commissions.map Commission.assignedNodeId) = some [3, 3] ∧
    ((Runs.run World.step (World.start true (some (sampleBlob lamp)))
        [.command .pair, .command .pair, .command .paired, saves,
          .command .paired]).process.map fun process =>
      process.actor.state.numbers.map Numbers.devices) = some [[2, 3, 3]] := by
  constructor
  · decide +kernel
  · decide +kernel

end Matter.Controller
