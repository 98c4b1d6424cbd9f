import Matter.Controller.Edits

/-! Group counters over the whole history of a controller. Of a fabric only the end of
the reserved block is saved. What can still be loaded, now or after a save that is yet to
run, never lies below it, so whoever starts from the store starts above every counter
that was sent. -/
namespace Matter.Controller
open Codec (Octets)
open Handshake (received onWire)

section Fabric
variable (F : UInt64)

/-- Nothing but the fabric `F`, reserved up to `bound`, or no fabric and nothing reserved. -/
def Holds (bound : Nat) (numbers : List Numbers) : Prop :=
  (∀ n, numbers = [n] → n.fabricId = F → n.counter.toNat = bound) ∧ (numbers = [] → bound = 0)

/-- Starting from these numbers, `F` counts from `bound` on. -/
def Safe (bound : Nat) (numbers : List Numbers) : Prop :=
  (∀ n, numbers = [n] → n.fabricId = F → bound ≤ n.counter.toNat) ∧ (numbers = [] → bound = 0)

def LoadsSafe (bound : Nat) (blob : Octets) : Prop :=
  ∀ state, deserialize blob = .ok state → Safe F bound state.numbers

def Output.counters (output : Output) : List Nat :=
  (output.sent.toList.filter fun m => m.fabricId = F).map fun m => m.counter.toNat

/-- What the store and the messages sent so far have to do with each other. -/
structure Covers (sent : List Nat) (bound : Nat) (store : Option Octets) : Prop where
  ordered : sent.Pairwise (· < ·)
  below : ∀ c ∈ sent, c < bound
  stored : ∀ state, load store = .ok state → Safe F bound state.numbers

structure Awaited (sent : List Nat) (actor : Actor) (job : SaveJob) (await : Await) : Prop where
  newest : job.seq = actor.snapshotSeq
  older : ∀ other ∈ actor.detached, other.seq < job.seq
  taken : ∃ out, serialize actor.state = .ok out ∧ job.bytes = received out
  raised : ∀ ceiling message, await = .invokeGroup ceiling message →
    ∃ fabric, actor.state.fabrics = [fabric] ∧ message.fabricId = fabric.fabricId ∧
      message.counter < fabric.outboundGroupCounter ∧ ceiling ≤ fabric.outboundGroupCounter ∧
      (fabric.fabricId = F → ∀ c ∈ sent, c < message.counter.toNat)

end Fabric

/-- The state with a reservation that is not saved yet taken back. -/
def Process.settled (process : Process) : ControllerState :=
  match process.awaiting with
  | some (_, .invokeGroup ceiling _) => ⟨process.actor.state.fabrics.map (Actor.withCeiling ceiling)⟩
  | _ => process.actor.state

/-- A process while the counters below `bound` are reserved. -/
structure Running (F : UInt64) (sent : List Nat) (bound : Nat) (process : Process) : Prop where
  memory : Holds F bound process.settled.numbers
  live : ∀ n, process.actor.groupCounters.lookup F = some n →
    (∀ c ∈ sent, c < n.toNat) ∧ n.toNat ≤ bound
  jobs : ∀ job ∈ process.actor.detached, job.seq ≤ process.actor.snapshotSeq ∧
    (process.gate ≤ job.seq → LoadsSafe F bound job.bytes)
  gate : process.gate ≤ process.actor.snapshotSeq
  awaited : ∀ job await, process.awaiting = some (job, await) →
    Awaited F sent process.actor job await

variable {F : UInt64} {sent : List Nat} {bound : Nat}

theorem Holds.safe (holds : Holds F bound numbers) :
    Safe F bound numbers :=
  ⟨fun n alone on => (holds.1 n alone on).ge, holds.2⟩

theorem Safe.loads (safe : Safe F bound state.numbers) (taken : serialize state = .ok out) :
    LoadsSafe F bound (received out) := by
  intro state' read
  rw [numbers_of_load taken read]
  exact safe

/-- What a fabric's counters depend on. -/
def Numbers.ledger (n : Numbers) : UInt64 × UInt32 := (n.fabricId, n.counter)

theorem Holds.of_ledger (holds : Holds F bound numbers)
    (same : numbers'.map Numbers.ledger = numbers.map Numbers.ledger) : Holds F bound numbers' := by
  constructor
  · rintro n' rfl on
    obtain ⟨n, rfl, ledger⟩ := List.map_eq_singleton_iff.mp same.symm
    obtain ⟨id, counter⟩ := Prod.mk.inj ledger
    rw [← counter]
    exact holds.1 n rfl (id.trans on)
  · rintro rfl
    exact holds.2 (List.map_eq_nil_iff.mp same.symm)

/-- An edit changes nothing that is reserved: a fabric starts with nothing reserved, and
two fabrics use no counters. -/
theorem Edit.holds (edit : Edit actor state tasks) (holds : Holds F bound actor.state.numbers) :
    Holds F bound state.numbers := by
  cases edit with
  | kept same =>
    rw [same]
    exact holds
  | created fresh made =>
    simp only [ControllerState.numbers, List.map_append, List.map_singleton,
      createFabric_numbers made]
    constructor
    · intro n alone on
      have none : actor.state.fabrics = [] := by
        have length := congrArg List.length alone
        simpa using length
      rw [none] at alone
      cases alone
      rw [holds.2 (List.map_eq_nil_iff.mpr none)]
      rfl
    · intro empty
      simp at empty
  | ended task => exact holds
  | completed found key =>
    refine holds.of_ledger ?_
    simp only [ControllerState.numbers, List.map_map]
    refine Actor.map_updateFirst ?_ actor.state.fabrics
    exact fun _ => rfl
  | forgot nodeId =>
    refine holds.of_ledger ?_
    simp only [ControllerState.numbers, Actor.mapFabrics, List.map_map]
    rfl

/-! One event at a time. -/

theorem Running.idle (running : Running F sent bound process) (idle : process.awaiting = none) :
    Holds F bound process.actor.state.numbers := by
  have memory := running.memory
  rw [Process.settled, idle] at memory
  exact memory

theorem Running.settles (running : Running F sent bound process) (idle : process.awaiting = none)
    (settles : Settles process.actor arm) :
    Running F sent bound (process.settle arm).1 ∧ (process.settle arm).2.sent = none := by
  have holds := running.idle idle
  cases settles with
  | returned edit result =>
    refine ⟨⟨edit.holds holds, running.live, running.jobs, running.gate, nofun⟩, rfl⟩
  | @saving state tasks out edit taken reply =>
    have later : ∀ job ∈ process.actor.detached, job.seq < process.actor.snapshotSeq + 1 :=
      fun job found => Nat.lt_succ_of_le (running.jobs job found).1
    refine ⟨⟨edit.holds holds, running.live, fun job found => ?_, ?_, ?_⟩, rfl⟩
    · exact ⟨(later job found).le, (running.jobs job found).2⟩
    · exact running.gate.trans (Nat.le_succ _)
    · rintro job await same
      cases same
      exact ⟨rfl, later, ⟨out, taken, rfl⟩, nofun⟩
  | @detached state tasks out edit taken result =>
    have safe := (edit.holds holds).safe.loads taken
    refine ⟨⟨edit.holds holds, running.live, fun job found => ?_, ?_, nofun⟩, rfl⟩
    · rcases List.mem_append.mp found with before | new
      · exact ⟨(running.jobs job before).1.trans (Nat.le_succ _), (running.jobs job before).2⟩
      · rw [List.mem_singleton.mp new]
        exact ⟨le_rfl, fun _ => safe⟩
    · exact running.gate.trans (Nat.le_succ _)

theorem lookup_counting {actor : Actor}
    (found : (actor.counting fabricId next).groupCounters.lookup F = some n) :
    (fabricId = F ∧ n = next) ∨ (fabricId ≠ F ∧ actor.groupCounters.lookup F = some n) := by
  by_cases same : F = fabricId
  · subst same
    rw [Actor.counting, AList.lookup_insert] at found
    exact .inl ⟨rfl, (Option.some.inj found).symm⟩
  · rw [Actor.counting, AList.lookup_insert_ne same] at found
    exact .inr ⟨Ne.symm same, found⟩

section
variable (running : Running F sent bound process)
include running

/-- The next counter of the only fabric has not been sent and is not beyond the block. -/
theorem Running.next (covers : ∀ c ∈ sent, c < bound) (idle : process.awaiting = none)
    (sole : process.actor.state.fabrics = [fabric]) (on : fabric.fabricId = F) :
    (∀ c ∈ sent, c < (process.actor.nextCounter fabric).toNat) ∧
      (process.actor.nextCounter fabric).toNat ≤ bound ∧
      fabric.outboundGroupCounter.toNat = bound := by
  have reserved : fabric.outboundGroupCounter.toNat = bound := by
    refine (running.idle idle).1 fabric.numbers ?_ on
    rw [ControllerState.numbers, sole, List.map_singleton]
  rw [Actor.nextCounter, on]
  cases live : process.actor.groupCounters.lookup F with
  | none =>
    rw [Option.getD_none, reserved]
    exact ⟨covers, le_rfl, rfl⟩
  | some n =>
    exact ⟨(running.live n live).1, (running.live n live).2, reserved⟩

/-- A message is sent with a counter from the reserved block. -/
theorem Running.sendGroup (covers : Covers F sent bound store) (idle : process.awaiting = none)
    (below : message.counter < ceiling)
    (fresh : message.fabricId = F →
      (∀ c ∈ sent, c < message.counter.toNat) ∧ message.counter.toNat < bound) (radio : Radio) :
    let settled := process.settle (process.actor.sendGroup message radio)
    Running F (sent ++ settled.2.counters F) bound settled.1 ∧
      Covers F (sent ++ settled.2.counters F) bound store := by
  obtain ⟨result, out, same, emits⟩ := process.actor.sendGroup_eq message radio
  simp only [same, Process.settle]
  have succ := Actor.toNat_saturatingSucc below
  have emitted : Output.counters F ⟨some result, out⟩ = [] ∨
      (message.fabricId = F ∧ Output.counters F ⟨some result, out⟩ = [message.counter.toNat]) := by
    rcases emits with rfl | rfl
    · exact .inl rfl
    · by_cases on : message.fabricId = F
      · exact .inr ⟨on, by simp [Output.counters, on]⟩
      · exact .inl (by simp [Output.counters, on])
  have holds := running.idle idle
  have live : ∀ c ∈ sent ++ Output.counters F ⟨some result, out⟩,
      message.fabricId = F → c < message.counter.toNat + 1 := by
    intro c found on
    rcases List.mem_append.mp found with earlier | now
    · exact Nat.lt_succ_of_lt ((fresh on).1 c earlier)
    · rcases emitted with none | ⟨-, one⟩
      · rw [none] at now
        cases now
      · rw [one] at now
        exact Nat.lt_succ_of_le (List.mem_singleton.mp now).le
  refine ⟨⟨holds, ?_, running.jobs, running.gate, nofun⟩, ?_, ?_, covers.stored⟩
  · intro n found
    rcases lookup_counting found with ⟨on, rfl⟩ | ⟨other, before⟩
    · rw [succ]
      exact ⟨fun c here => live c here on, (fresh on).2⟩
    · rcases emitted with none | ⟨on, -⟩
      · rw [none, List.append_nil]
        exact running.live n before
      · exact absurd on other
  · rcases emitted with none | ⟨on, one⟩
    · rw [none, List.append_nil]
      exact covers.ordered
    · rw [one, List.pairwise_append]
      refine ⟨covers.ordered, List.pairwise_singleton _ _, fun c earlier d now => ?_⟩
      rw [List.mem_singleton.mp now]
      exact (fresh on).1 c earlier
  · intro c found
    rcases emitted with none | ⟨on, -⟩
    · rw [none, List.append_nil] at found
      exact covers.below c found
    · have least := live c found on
      have reserved := (fresh on).2
      omega

theorem Running.counting (idle : process.awaiting = none) {next : UInt32}
    (fresh : fabricId = F → (∀ c ∈ sent, c < next.toNat) ∧ next.toNat ≤ bound) :
    Running F sent bound ⟨process.actor.counting fabricId next, process.gate, none⟩ := by
  refine ⟨running.idle idle, fun n found => ?_, running.jobs, running.gate, nofun⟩
  rcases lookup_counting found with ⟨on, rfl⟩ | ⟨-, before⟩
  · exact fresh on
  · exact running.live n before

end

variable {process : Process}

theorem Running.invokes (running : Running F sent bound process)
    (covers : Covers F sent bound store) (idle : process.awaiting = none)
    (invokes : Actor.Invokes process.actor arm) :
    let settled := process.settle arm
    Running F (sent ++ settled.2.counters F) bound settled.1 ∧
      Covers F (sent ++ settled.2.counters F) bound store := by
  have next : ∀ fabric, process.actor.state.fabrics = [fabric] → fabric.fabricId = F →
      (∀ c ∈ sent, c < (process.actor.nextCounter fabric).toNat) ∧
      (process.actor.nextCounter fabric).toNat ≤ bound ∧
      fabric.outboundGroupCounter.toNat = bound :=
    fun fabric sole on => running.next covers.below idle sole on
  cases invokes with
  | refused e =>
    simp only [Process.settle, Output.counters, Option.toList_none, List.filter_nil, List.map_nil,
      List.append_nil]
    exact ⟨⟨running.idle idle, running.live, running.jobs, running.gate, nofun⟩, covers⟩
  | @blocked fabric sole e =>
    simp only [Process.settle, Output.counters, Option.toList_none, List.filter_nil, List.map_nil,
      List.append_nil]
    exact ⟨running.counting idle fun on => ⟨(next fabric sole on).1, (next fabric sole on).2.1⟩,
      covers⟩
  | @sends fabric message sole on counter reserved radio =>
    have counting : Running F sent bound
        ⟨process.actor.counting fabric.fabricId message.counter, process.gate, none⟩ :=
      running.counting idle fun same => by
        rw [counter]
        exact ⟨(next fabric sole same).1, (next fabric sole same).2.1⟩
    refine counting.sendGroup covers rfl reserved (fun same => ?_) radio
    obtain ⟨unsent, -, ceiling⟩ := next fabric sole (on.symm.trans same)
    rw [← ceiling]
    exact ⟨counter ▸ unsent, UInt32.lt_iff_toNat_lt.mp reserved⟩
  | @reserves fabric ceiling out message sole on counter full grown taken =>
    have later : ∀ job ∈ process.actor.detached, job.seq < process.actor.snapshotSeq + 1 :=
      fun job found => Nat.lt_succ_of_le (running.jobs job found).1
    have above := Actor.lt_of_nextCeiling? grown
    have holds := running.idle idle
    simp only [Process.settle, Output.none, Output.counters, Option.toList_none, List.filter_nil,
      List.map_nil, List.append_nil]
    refine ⟨⟨?_, ?_, fun job found => ?_, running.gate.trans (Nat.le_succ _), ?_⟩, covers⟩
    · rw [ControllerState.numbers, sole] at holds
      exact holds
    · intro n found
      rcases lookup_counting found with ⟨same, rfl⟩ | ⟨-, before⟩
      · rw [counter]
        exact ⟨(next fabric sole same).1, (next fabric sole same).2.1⟩
      · exact running.live n before
    · exact ⟨(later job found).le, (running.jobs job found).2⟩
    · rintro job await same
      cases same
      refine ⟨rfl, later, ⟨out, taken, rfl⟩, ?_⟩
      rintro _ _ same
      cases same
      exact ⟨_, rfl, on, above, UInt32.le_trans full (UInt32.le_of_lt above),
        fun same => counter ▸ (next fabric sole same).1⟩

/-- A save that is not stale either reaches the store or changes nothing. -/
theorem run_cases {job : SaveJob} (store : Option Octets) (write : Write)
    (current : gate ≤ job.seq) :
    job.run gate store write = (.ok (), job.seq, some job.bytes) ∨
      ∃ e, job.run gate store write = (.error e, gate, store) := by
  simp only [SaveJob.run, if_neg (Nat.not_lt.mpr current)]
  cases write with
  | written => exact .inl rfl
  | failed | panicked text => exact .inr ⟨_, rfl⟩

/-- Once the snapshot of a command is saved, no older one will be. -/
theorem Awaited.written (awaited : Awaited F sent process.actor job await)
    (holds : Holds F bound' process.actor.state.numbers)
    (live : ∀ n, process.actor.groupCounters.lookup F = some n →
      (∀ c ∈ sent, c < n.toNat) ∧ n.toNat ≤ bound') (ordered : sent.Pairwise (· < ·))
    (below : ∀ c ∈ sent, c < bound') :
    Running F sent bound' ⟨process.actor, job.seq, none⟩ ∧
      Covers F sent bound' (some job.bytes) := by
  obtain ⟨out, taken, bytes⟩ := awaited.taken
  refine ⟨⟨holds, live, fun other found => ?_, awaited.newest.le, nofun⟩, ordered, below, ?_⟩
  · have before := awaited.older other found
    refine ⟨before.le.trans awaited.newest.le, fun kept => ?_⟩
    exact absurd before (Nat.not_lt.mpr kept)
  · intro state read
    have safe := holds.safe.loads taken
    rw [← bytes] at safe
    exact safe state read

section
variable (running : Running F sent bound process) (covers : Covers F sent bound store)
include running covers

theorem Running.saved (awaiting : process.awaiting = some (job, await)) (write : Write)
    (radio : Radio) :
    let after := job.run process.gate store write
    let settled := Process.settle { process with gate := after.2.1 }
      (process.actor.resume await after.1 radio)
    ∃ bound', Running F (sent ++ settled.2.counters F) bound' settled.1 ∧
      Covers F (sent ++ settled.2.counters F) bound' after.2.2 := by
  have awaited := running.awaited job await awaiting
  have memory := running.memory
  rw [Process.settled, awaiting] at memory
  have current : process.gate ≤ job.seq := running.gate.trans awaited.newest.ge
  have silent : ∀ result : Option (Except Error Reply),
      sent ++ Output.counters F ⟨result, none⟩ = sent := fun _ => List.append_nil sent
  rcases run_cases store write current with ran | ⟨e, ran⟩
  · simp only [ran]
    cases await with
    | reply reply =>
      simp only [Actor.resume, Process.settle, silent]
      exact ⟨bound, awaited.written memory running.live covers.ordered covers.below⟩
    | invokeGroup ceiling message =>
      obtain ⟨fabric, sole, on, above, grown, unsent⟩ := awaited.raised ceiling message rfl
      have numbers : process.actor.state.numbers = [fabric.numbers] := by
        rw [ControllerState.numbers, sole, List.map_singleton]
      have reserved : fabric.fabricId = F → ceiling.toNat = bound := by
        intro same
        refine memory.1 (Actor.withCeiling ceiling fabric).numbers ?_ same
        rw [ControllerState.numbers, sole]
        rfl
      by_cases same : fabric.fabricId = F
      · -- the block is reserved up to the new ceiling
        have less := UInt32.lt_iff_toNat_lt.mp above
        have grown : bound ≤ fabric.outboundGroupCounter.toNat :=
          (reserved same).symm.trans_le (UInt32.le_iff_toNat_le.mp grown)
        have holds : Holds F fabric.outboundGroupCounter.toNat process.actor.state.numbers := by
          rw [numbers]
          refine ⟨fun n only _ => ?_, by simp⟩
          cases only
          rfl
        obtain ⟨next, stored⟩ := awaited.written holds
          (fun n found => ⟨(running.live n found).1, (running.live n found).2.trans grown⟩)
          covers.ordered (fun c found => (unsent same c found).trans less)
        exact ⟨_, next.sendGroup stored rfl above (fun _ => ⟨unsent same, less⟩) radio⟩
      · -- another fabric's block
        have other : Holds F bound process.actor.state.numbers := by
          rw [numbers]
          refine ⟨fun n only on => ?_, by simp⟩
          cases only
          exact absurd on same
        obtain ⟨next, stored⟩ := awaited.written other running.live covers.ordered covers.below
        refine ⟨bound, next.sendGroup stored rfl above (fun on' => ?_) radio⟩
        exact absurd (on.symm.trans on') same
  · simp only [ran]
    refine ⟨bound, ?_⟩
    cases await with
    | reply reply =>
      simp only [Actor.resume, Actor.refuse, Process.settle, silent]
      exact ⟨⟨memory, running.live, running.jobs, running.gate, by simp⟩, covers⟩
    | invokeGroup ceiling message =>
      obtain ⟨fabric, sole, -⟩ := awaited.raised ceiling message rfl
      rw [ControllerState.numbers, sole] at memory
      simp only [Actor.resume, soleFabric_of_fabrics sole, Actor.refuse, Process.settle, silent]
      exact ⟨⟨memory, running.live, running.jobs, running.gate, by simp⟩, covers⟩

theorem Running.background (found : process.actor.detached[i]? = some job) (write : Write) :
    let after := job.run process.gate store write
    Running F sent bound
        ⟨{ process.actor with detached := process.actor.detached.eraseIdx i }, after.2.1,
          process.awaiting⟩ ∧
      Covers F sent bound after.2.2 := by
  have fewer : ∀ other ∈ process.actor.detached.eraseIdx i, other ∈ process.actor.detached :=
    fun other kept => List.mem_of_mem_eraseIdx kept
  have listed := running.jobs job (List.mem_of_getElem? found)
  have awaited : ∀ waiting await, process.awaiting = some (waiting, await) →
      Awaited F sent { process.actor with detached := process.actor.detached.eraseIdx i }
        waiting await := by
    intro waiting await same
    have before := running.awaited waiting await same
    exact ⟨before.newest, fun other kept => before.older other (fewer other kept), before.taken,
      before.raised⟩
  have unchanged : Running F sent bound
      ⟨{ process.actor with detached := process.actor.detached.eraseIdx i }, process.gate,
        process.awaiting⟩ :=
    ⟨running.memory, running.live, fun other kept => running.jobs other (fewer other kept),
      running.gate, awaited⟩
  by_cases stale : job.seq < process.gate
  · simp only [SaveJob.run, if_pos stale]
    exact ⟨unchanged, covers⟩
  · have current := Nat.not_lt.mp stale
    rcases run_cases store write current with ran | ⟨e, ran⟩
    · simp only [ran]
      refine ⟨⟨running.memory, running.live, fun other kept => ?_, listed.1, awaited⟩,
        covers.ordered, covers.below, listed.2 current⟩
      have before := running.jobs other (fewer other kept)
      exact ⟨before.1, fun newer => before.2 (current.trans newer)⟩
    · simp only [ran]
      exact ⟨unchanged, covers⟩

theorem Running.next_event (event : Event) :
    let after := process.next store event
    ∃ bound', Running F (sent ++ after.2.2.counters F) bound' after.1 ∧
      Covers F (sent ++ after.2.2.counters F) bound' after.2.1 := by
  have idly : sent ++ Output.none.counters F = sent := List.append_nil sent
  have ignored : ∃ bound', Running F (sent ++ Output.none.counters F) bound' process ∧
      Covers F (sent ++ Output.none.counters F) bound' store := by
    rw [idly]
    exact ⟨bound, running, covers⟩
  cases event with
  | command command =>
    cases awaiting : process.awaiting with
    | some waiting =>
      simp only [Process.next, awaiting]
      exact ignored
    | none =>
      simp only [Process.next, awaiting]
      rcases process.actor.arm_cases command with settles | spawns | invokes
      · obtain ⟨settled, silent⟩ := running.settles awaiting settles
        have none : Output.counters F (process.settle (command.arm process.actor)).2 = [] := by
          rw [Output.counters, silent]
          rfl
        rw [none, List.append_nil]
        exact ⟨bound, settled, covers⟩
      · generalize command.arm process.actor = arm at spawns ⊢
        cases spawns
        refine ⟨bound, ?_, ?_⟩
        · rw [← idly] at running
          exact ⟨running.idle awaiting, running.live, running.jobs, running.gate, nofun⟩
        · rw [← idly] at covers
          exact covers
      · exact ⟨bound, running.invokes covers awaiting invokes⟩
  | saved write radio =>
    cases awaiting : process.awaiting with
    | none =>
      simp only [Process.next, awaiting]
      exact ignored
    | some waiting =>
      simp only [Process.next, awaiting]
      exact running.saved covers awaiting write radio
  | background i write =>
    cases found : process.actor.detached[i]? with
    | none =>
      simp only [Process.next, found]
      exact ignored
    | some job =>
      simp only [Process.next, found]
      rw [idly]
      exact ⟨bound, running.background covers found write⟩
  | restart => exact ignored

end

theorem Covers.boot (covers : Covers F sent bound store)
    (booted : Process.boot trust store = some process) :
    ∃ bound', Running F sent bound' process ∧ Covers F sent bound' store := by
  rw [Process.boot] at booted
  split at booted
  · rename_i state loaded
    cases booted
    have safe := covers.stored state loaded
    obtain ⟨bound', above, holds, same⟩ : ∃ bound', bound ≤ bound' ∧
        Holds F bound' state.numbers ∧ Safe F bound' state.numbers := by
      by_cases only : ∃ n, state.numbers = [n] ∧ n.fabricId = F
      · obtain ⟨n, alone, on⟩ := only
        have holds : Holds F n.counter.toNat state.numbers := by
          rw [alone]
          refine ⟨fun m single _ => ?_, nofun⟩
          cases single
          rfl
        exact ⟨n.counter.toNat, safe.1 n alone on, holds, holds.safe⟩
      · have holds : Holds F bound state.numbers :=
          ⟨fun n alone on => absurd ⟨n, alone, on⟩ only, safe.2⟩
        exact ⟨bound, le_rfl, holds, holds.safe⟩
    refine ⟨bound', ⟨holds, nofun, nofun, le_rfl, nofun⟩, covers.ordered,
      fun c found => (covers.below c found).trans_le above, fun other read => ?_⟩
    rw [loaded] at read
    rw [← Except.ok.inj read]
    exact same
  · cases booted

/-! Whole histories. -/

/-- The messages of a history and what is left of it. -/
def Account (F : UInt64) (outputs : List Output) (world : World) : Prop :=
  ∃ bound, Covers F (outputs.flatMap (Output.counters F)) bound world.store ∧
    ∀ process, world.process = some process →
      Running F (outputs.flatMap (Output.counters F)) bound process

theorem Account.start (trust : Bool)
    (covers : Covers F (outputs.flatMap (Output.counters F)) bound store) :
    Account F outputs (World.start trust store) := by
  cases booted : Process.boot trust store with
  | none =>
    refine ⟨bound, covers, fun process same => ?_⟩
    rw [World.start, booted] at same
    cases same
  | some process =>
    obtain ⟨bound', running, covers'⟩ := covers.boot booted
    refine ⟨bound', covers', fun other same => ?_⟩
    rw [World.start, booted] at same
    cases same
    exact running

theorem Account.step (account : Account F outputs world) (event : Event) :
    Account F (outputs ++ [world.output event]) (world.step event) := by
  obtain ⟨bound, covers, running⟩ := account
  obtain ⟨trust, store, process⟩ := world
  have silent : (outputs ++ [Output.none]).flatMap (Output.counters F) =
      outputs.flatMap (Output.counters F) := by
    rw [List.flatMap_append]
    exact List.append_nil _
  have restarted : Account F (outputs ++ [Output.none]) (World.start trust store) := by
    rw [← silent] at covers
    exact .start trust covers
  have dead : process = none → Account F (outputs ++ [Output.none]) ⟨trust, store, process⟩ := by
    rintro rfl
    refine ⟨bound, ?_, nofun⟩
    rw [silent]
    exact covers
  have live : ∀ running, process = some running →
      Account F (outputs ++ [(running.next store event).2.2])
        ⟨trust, (running.next store event).2.1, some (running.next store event).1⟩ := by
    rintro process rfl
    obtain ⟨bound', after, covered⟩ := (running process rfl).next_event covers event
    have extended : (outputs ++ [(process.next store event).2.2]).flatMap (Output.counters F) =
        outputs.flatMap (Output.counters F) ++ (process.next store event).2.2.counters F := by
      rw [List.flatMap_append, List.flatMap_singleton]
    rw [← extended] at after covered
    refine ⟨bound', covered, ?_⟩
    rintro _ ⟨⟩
    exact after
  cases event <;> cases process
  case restart.none => exact restarted
  case restart.some => exact restarted
  case command.none => exact dead rfl
  case saved.none => exact dead rfl
  case background.none => exact dead rfl
  case command.some command process => exact live process rfl
  case saved.some write radio process => exact live process rfl
  case background.some i write process => exact live process rfl

theorem account_of_start (F : UInt64) (trust : Bool) (store : Option Octets) (events : List Event) :
    Account F (Logs.log World.step World.output (World.start trust store) events)
      (Runs.run World.step (World.start trust store) events) := by
  apply Logs.invariant (P := Account F)
  · intro outputs world event account
    exact account.step event
  · have nothing : Covers F [] 0 store :=
      ⟨.nil, nofun, fun _ _ => ⟨fun _ _ _ => Nat.zero_le _, fun _ => rfl⟩⟩
    exact .start trust nothing

theorem counters_eq_map (F : UInt64) (outputs : List Output) :
    outputs.flatMap (Output.counters F) =
      ((outputs.filterMap Output.sent).filter (fun m => m.fabricId = F)).map
        (fun m => m.counter.toNat) := by
  induction outputs with
  | nil => rfl
  | cons output outputs ih =>
    obtain ⟨result, sent⟩ := output
    rw [List.flatMap_cons, ih]
    cases sent with
    | none => rfl
    | some message =>
      by_cases on : message.fabricId = F
      · simp [Output.counters, on]
      · simp [Output.counters, on]

theorem exhausted {actor : Actor} (sole : actor.state.fabrics = [fabric])
    (last : actor.nextCounter fabric = Actor.u32Max) (groupId keySetId : UInt16) (payload : Octets)
    (radio : Radio) :
    ∃ e after, actor.handleInvokeGroup groupId keySetId payload radio =
      .returned (.error e) none after := by
  have invokes := actor.invokes groupId keySetId payload radio
  generalize actor.handleInvokeGroup groupId keySetId payload radio = arm at invokes
  cases invokes with
  | refused e | blocked _ e => exact ⟨e, _, rfl⟩
  | sends alone _ counter reserved =>
    cases sole.symm.trans alone
    rw [counter, last, UInt32.lt_iff_toNat_lt] at reserved
    have fits := fabric.outboundGroupCounter.toNat_lt
    have top : Actor.u32Max.toNat = 2 ^ 32 - 1 := rfl
    omega
  | reserves alone _ counter _ grown =>
    cases sole.symm.trans alone
    rw [counter, last] at grown
    cases grown

/-- Along every history, whatever the saves do and wherever the process dies, the group
messages of a fabric carry ever larger counters; at the last counter nothing is sent. -/
theorem group_counters_increase (trust : Bool) (store : Option Octets) (events : List Event)
    (F : UInt64) :
    (((World.start trust store).sent events).filter (fun m => m.fabricId = F)).Pairwise
        (fun earlier later => earlier.counter < later.counter) ∧
      ∀ (actor : Actor) (fabric : FabricEntry), actor.state.fabrics = [fabric] →
        actor.nextCounter fabric = Actor.u32Max →
        ∀ (groupId keySetId : UInt16) (payload : Octets) (radio : Radio), ∃ e after,
          actor.handleInvokeGroup groupId keySetId payload radio =
            .returned (.error e) none after := by
  constructor
  · obtain ⟨bound, covers, _⟩ := account_of_start F trust store events
    have ordered := covers.ordered
    rw [counters_eq_map, List.pairwise_map] at ordered
    exact ordered.imp fun below => UInt32.lt_iff_toNat_lt.mpr below
  · intro actor fabric sole last groupId keySetId payload radio
    exact exhausted sole last groupId keySetId payload radio

/-- One fabric with a group key, and counters reserved up to the ceiling. -/
def groupState (ceiling : UInt32) : ControllerState :=
  ⟨(sampleState lamp).fabrics.map fun f =>
    Actor.withCeiling ceiling (Actor.upserted ⟨42, .fill 16 0, 0⟩ f)⟩

def toGroup : List Event := [.command (.invokeGroup 1 42 (received []) working), saves]

/-- Each restart goes on after the reserved block, and the third message has no counter left. -/
theorem group_counters_increase_restarted :
    let world := World.start true (some (onWire (serialize (groupState 0xffffff80))))
    let events := toGroup ++ .restart :: toGroup ++ .restart :: toGroup
    (world.sent events).map GroupMessage.counter = [0xffffff80, 0xffffffc0] ∧
      ((world.sent events).filter fun m => m.fabricId = 1).Pairwise
        (fun earlier later => earlier.counter < later.counter) ∧
      ∃ e after, (Actor.new (groupState Actor.u32Max) true).handleInvokeGroup 1 42 (received [])
        working = .returned (.error e) none after := by
  intro world events
  obtain ⟨ordered, exhausted⟩ := group_counters_increase true
    (some (onWire (serialize (groupState 0xffffff80)))) events 1
  exact ⟨by decide +kernel, ordered,
    exhausted (.new (groupState Actor.u32Max) true) _ rfl rfl 1 42 (received []) working⟩

end Matter.Controller
