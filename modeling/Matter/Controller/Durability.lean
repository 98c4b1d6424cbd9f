import Matter.Controller.Persistence

/-! Saves in the order of their snapshots. Whichever save gets hold of the gate, and whether or
not its write fails, the gate is the number of the snapshot in the store. -/
namespace Matter.Controller
open Codec (Octets)
open Runs Logs

def SaveJob.lands (job : SaveJob) (gate : Nat) : Write → Option SaveJob
  | .written => if job.seq < gate then none else some job
  | _ => none

namespace Process

/-- The save whose turn an event is, and how its write ends. -/
def turn (process : Process) : Event → Option (SaveJob × Write)
  | .saved write _ => process.awaiting.map fun (job, _) => (job, write)
  | .background i write => process.actor.detached[i]?.map fun job => (job, write)
  | _ => none

def step (running : Process × Option Octets) (event : Event) : Process × Option Octets :=
  let (process, store, _) := running.1.next running.2 event
  (process, store)

def lands (running : Process × Option Octets) (event : Event) : Option SaveJob :=
  (running.1.turn event).bind fun (job, write) => job.lands running.1.gate write

end Process

theorem run_lands (job : SaveJob) (gate : Nat) (store : Option Octets) (write : Write) :
    (job.run gate store write).2 = match job.lands gate write with
      | some job => (job.seq, some job.bytes)
      | none => (gate, store) := by
  unfold SaveJob.run
  cases write <;> dsimp only [SaveJob.lands] <;> split <;> rfl

theorem gate_le_of_lands {job : SaveJob} (lands : job.lands gate write = some landed) :
    gate ≤ landed.seq := by
  cases write with
  | written =>
    rw [SaveJob.lands] at lands
    split at lands
    · cases lands
    · rename_i late
      cases lands
      exact Nat.le_of_not_lt late
  | _ => cases lands

theorem settle_gate (process : Process) (arm : Arm) :
    (process.settle arm).1.gate = process.gate := by
  cases arm <;> rfl

/-- The gate and the store change together. -/
theorem step_lands (running : Process × Option Octets) (event : Event) :
    ((Process.step running event).1.gate, (Process.step running event).2) =
      match Process.lands running event with
      | some job => (job.seq, some job.bytes)
      | none => (running.1.gate, running.2) := by
  obtain ⟨process, store⟩ := running
  cases event with
  | command command =>
    cases waiting : process.awaiting <;>
      simp [Process.step, Process.lands, Process.next, waiting, Process.turn, settle_gate]
  | saved write radio =>
    cases waiting : process.awaiting <;>
      simp [Process.step, Process.lands, Process.next, waiting, Process.turn, settle_gate,
        run_lands]
  | background i write =>
    cases found : process.actor.detached[i]? <;>
      simp [Process.step, Process.lands, Process.next, found, Process.turn, run_lands]
  | restart => rfl

/-- The saves that reached the store, in order: the last of them is there. -/
structure Landed (start : Option Octets) (landed : List SaveJob)
    (running : Process × Option Octets) : Prop where
  ordered : landed.Pairwise fun older newer => older.seq ≤ newer.seq
  store : running.2 = (landed.getLast?.map fun job => some job.bytes).getD start
  gate : running.1.gate = (landed.getLast?.map SaveJob.seq).getD 0
  below : ∀ job ∈ landed, job.seq ≤ running.1.gate

theorem Landed.step (kept : Landed start landed running) (event : Event) :
    Landed start (landed ++ (Process.lands running event).toList) (Process.step running event) := by
  have moved := step_lands running event
  cases lands : Process.lands running event with
  | none =>
    rw [lands] at moved
    obtain ⟨gate, store⟩ := Prod.mk.inj moved
    rw [Option.toList_none, List.append_nil]
    exact ⟨kept.ordered, store.trans kept.store, gate.trans kept.gate, gate ▸ kept.below⟩
  | some job =>
    rw [lands] at moved
    obtain ⟨gate, store⟩ := Prod.mk.inj moved
    obtain ⟨⟨turned, write⟩, -, lands⟩ := Option.bind_eq_some_iff.mp lands
    have newer := gate_le_of_lands lands
    have below : ∀ older ∈ landed, older.seq ≤ job.seq := fun older found =>
      Nat.le_trans (kept.below older found) newer
    refine ⟨?_, ?_, ?_, ?_⟩
    · simpa [List.pairwise_append] using ⟨kept.ordered, below⟩
    · simpa using store
    · simpa using gate
    · simpa [gate, or_imp, forall_and] using below

theorem durable_saves (actor : Actor) (awaiting : Option (SaveJob × Await))
    (store : Option Octets) (events : List Event) :
    let start := (⟨actor, 0, awaiting⟩, store)
    let landed := (log Process.step Process.lands start events).filterMap id
    let running := run Process.step start events
    landed.Pairwise (fun older newer => older.seq ≤ newer.seq) ∧
    running.2 = (landed.getLast?.map fun job => some job.bytes).getD store ∧
    ∀ event job write, running.1.turn event = some (job, write) →
      (job.run running.1.gate running.2 write).1 = .ok () →
      ∃ newest, (landed ++ (Process.lands running event).toList).getLast? = some newest ∧
        (newest = job ∨ job.seq < newest.seq) ∧
        (Process.step running event).2 = some newest.bytes := by
  intro start landed running
  have kept : Landed store landed running := by
    refine Logs.invariant (P := fun l => Landed store (l.filterMap id)) ?_ ?_ events
    · intro l running event kept
      have next := kept.step event
      rw [List.filterMap_append]
      cases lands : Process.lands running event <;> rwa [lands] at next
    · exact ⟨.nil, rfl, rfl, nofun⟩
  refine ⟨kept.ordered, kept.store, ?_⟩
  intro event job write turn saved
  -- the last save that landed is in the store, this one included
  have stored := (kept.step event).store
  suffices ∃ newest, (landed ++ (Process.lands running event).toList).getLast? = some newest ∧
      (newest = job ∨ job.seq < newest.seq) by
    obtain ⟨newest, last, newer⟩ := this
    rw [last] at stored
    exact ⟨newest, last, newer, stored⟩
  rw [Process.lands, turn]
  dsimp only [Option.bind_some]
  unfold SaveJob.run at saved
  split at saved
  · rename_i stale
    have gate := kept.gate
    have skipped : job.lands running.1.gate write = none := by
      cases write with
      | written => exact if_pos stale
      | _ => rfl
    cases last : landed.getLast? with
    | none =>
      rw [gate, last] at stale
      exact absurd stale (Nat.not_lt_zero _)
    | some newest =>
      rw [gate, last] at stale
      rw [skipped, Option.toList_none, List.append_nil]
      exact ⟨newest, last, .inr stale⟩
  · rename_i fresh
    cases write with
    | written =>
      have lands : job.lands running.1.gate .written = some job := if_neg fresh
      rw [lands, Option.toList_some, List.getLast?_concat]
      exact ⟨job, rfl, .inl rfl⟩
    | _ => cases saved

end Matter.Controller
