import Matter.Controller.Edits

/-! What a command that fails leaves behind. A group message takes its reservation back
when it cannot be saved; the other commands keep the change they could not save, in
memory and in every later save. -/
namespace Matter.Controller
open Codec (Octets)
open Cert (Block MatterTime)
open Handshake (received)

namespace Process

def perform (process : Process) (store : Option Octets) (command : Command) (write : Write)
    (radio : Radio) : Process × Option Octets × Output :=
  let (process, store, output) := process.next store (.command command)
  match process.awaiting with
  | none => (process, store, output)
  | some _ => process.next store (.saved write radio)

/-- Later commands and saves find what they would have found. -/
structure Same (before after : Process) : Prop where
  state : after.actor.state = before.actor.state
  counters : ∀ fabric ∈ before.actor.state.fabrics,
    after.actor.nextCounter fabric = before.actor.nextCounter fabric
  detached : after.actor.detached = before.actor.detached

/-- If the command fails, it has changed nothing. -/
def FailsClean (process : Process) (store : Option Octets) (command : Command) (write : Write)
    (radio : Radio) : Prop :=
  ∀ e, (process.perform store command write radio).2.2.result = some (.error e) →
    process.Same (process.perform store command write radio).1 ∧
      (process.perform store command write radio).2.1 = store

end Process

/-- The durable save of `state` is taken and succeeds. -/
def Actor.Saves (actor : Actor) (gate : Nat) (store : Option Octets) (write : Write)
    (state : ControllerState) : Prop :=
  ∃ out, serialize state = .ok out ∧
    (SaveJob.run ⟨received out, actor.snapshotSeq + 1⟩ gate store write).1 = .ok ()

open Actor

/-- The fabric passes every check and is made. -/
def Actor.Accepts (actor : Actor) (cfg : FabricConfig) (clock : Except Error MatterTime)
    (minted : Except Error Minted) (entry : FabricEntry) : Prop :=
  (∀ f ∈ actor.state.fabrics, f.fabricId ≠ cfg.fabricId) ∧
    validateValidityAgainstClock cfg.validity clock = .ok () ∧ createFabric cfg minted = .ok entry

def Radio.Sends (radio : Radio) : Prop :=
  (∃ id, radio.exchangeId = .ok id) ∧ radio.frame = true ∧ radio.socket = .ok ()

section
variable {actor : Actor} {gate : Nat} {store : Option Octets} {command : Command} {write : Write}
  {radio : Radio}

theorem failsClean_iff {process : Process}
    (done : process.perform store command write radio = (after, store', ⟨some result, sent⟩)) :
    process.FailsClean store command write radio ↔
      ∀ e, result = .error e → process.Same after ∧ store' = store := by
  simp [Process.FailsClean, done]

theorem perform_returned (arm : command.arm actor = .returned result sent after) :
    Process.perform ⟨actor, gate, none⟩ store command write radio =
      (⟨after, gate, none⟩, store, ⟨some result, sent⟩) := by
  simp [Process.perform, Process.next, arm, Process.settle]

theorem perform_saving (radio : Radio) (arm : command.arm actor = .saving job await waiting)
    (resumed : waiting.resume await (job.run gate store write).1 radio =
      .returned result sent after) :
    Process.perform ⟨actor, gate, none⟩ store command write radio =
      (⟨after, (job.run gate store write).2.1, none⟩, (job.run gate store write).2.2,
        ⟨some result, sent⟩) := by
  simp [Process.perform, Process.next, arm, Process.settle, resumed]

theorem failsClean_refused {e : Error} (arm : command.arm actor = actor.refuse e) :
    Process.FailsClean ⟨actor, gate, none⟩ store command write radio := by
  rw [failsClean_iff (perform_returned arm)]
  intro _ _
  exact ⟨⟨rfl, fun _ _ => rfl, rfl⟩, rfl⟩

theorem run_error {job : SaveJob} (failed : (job.run gate store write).1 = .error e) :
    (job.run gate store write).2.2 = store := by
  unfold SaveJob.run at failed ⊢
  split at failed
  · cases failed
  · rename_i current
    rw [if_neg current]
    split at failed
    · cases failed
    · rfl
    · rfl

theorem failsClean_durably_iff {state : ControllerState}
    (arm : command.arm actor = durably { actor with state } reply) :
    Process.FailsClean ⟨actor, gate, none⟩ store command write radio ↔
      state = actor.state ∨ actor.Saves gate store write state := by
  cases taken : serialize state with
  | error e =>
    have ended : command.arm actor = .returned (.error e) none { actor with state } := by
      simp only [arm, durably, durableSaveInputs, taken]
      rfl
    rw [failsClean_iff (perform_returned ended)]
    constructor
    · intro clean
      exact .inl (clean e rfl).1.state
    · rintro (same | ⟨out, written, -⟩) _ _
      · exact ⟨⟨same, fun _ _ => rfl, rfl⟩, rfl⟩
      · rw [taken] at written
        cases written
  | ok out =>
    have waits : command.arm actor = .saving ⟨received out, actor.snapshotSeq + 1⟩ (.reply reply)
        { actor with state, snapshotSeq := actor.snapshotSeq + 1 } := by
      simp only [arm, durably, durableSaveInputs, taken]
      rfl
    cases saved : (SaveJob.run ⟨received out, actor.snapshotSeq + 1⟩ gate store write).1 with
    | ok =>
      have done := perform_saving radio waits (by rw [saved]; rfl)
      rw [failsClean_iff done]
      exact ⟨fun _ => .inr ⟨out, taken, saved⟩, fun _ => by rintro _ ⟨⟩⟩
    | error e =>
      have done := perform_saving radio waits (by rw [saved]; rfl)
      rw [failsClean_iff done]
      constructor
      · intro clean
        exact .inl (clean e rfl).1.state
      · rintro (same | ⟨out', written, succeeded⟩) _ _
        · exact ⟨⟨same, fun _ _ => rfl, rfl⟩, run_error saved⟩
        · cases taken.symm.trans written
          rw [saved] at succeeded
          cases succeeded

theorem failsClean_createFabric_iff (cfg : FabricConfig) (clock : Except Error MatterTime)
    (minted : Except Error Minted) :
    Process.FailsClean ⟨actor, gate, none⟩ store (.createFabric cfg clock minted) write radio ↔
      ∀ entry, actor.Accepts cfg clock minted entry →
        actor.Saves gate store write ⟨actor.state.fabrics ++ [entry]⟩ := by
  by_cases taken : actor.state.fabrics.any (fun f => f.fabricId = cfg.fabricId) = true
  · have refused : (Command.createFabric cfg clock minted).arm actor =
        actor.refuse (.fabricAlreadyExists cfg.fabricId) := if_pos taken
    refine iff_of_true (failsClean_refused refused) ?_
    rintro entry ⟨fresh, -, -⟩
    obtain ⟨f, member, same⟩ := List.any_eq_true.mp taken
    exact absurd (of_decide_eq_true same) (fresh f member)
  · have fresh : ∀ f ∈ actor.state.fabrics, f.fabricId ≠ cfg.fabricId := by
      intro f member same
      exact taken (List.any_eq_true.mpr ⟨f, member, decide_eq_true same⟩)
    cases valid : validateValidityAgainstClock cfg.validity clock with
    | error e =>
      have refused : (Command.createFabric cfg clock minted).arm actor = actor.refuse e := by
        simp only [Command.arm, handleCreateFabric, if_neg taken, valid]
      refine iff_of_true (failsClean_refused refused) ?_
      rintro entry ⟨-, checked, -⟩
      cases valid.symm.trans checked
    | ok =>
      cases made : createFabric cfg minted with
      | error e =>
        have refused : (Command.createFabric cfg clock minted).arm actor = actor.refuse e := by
          simp only [Command.arm, handleCreateFabric, if_neg taken, valid, made]
        refine iff_of_true (failsClean_refused refused) ?_
        rintro entry ⟨-, -, created⟩
        cases made.symm.trans created
      | ok entry =>
        have saves : (Command.createFabric cfg clock minted).arm actor =
            durably { actor with state := ⟨actor.state.fabrics ++ [entry]⟩ }
              (.fabricId entry.fabricId) := by
          simp only [Command.arm, handleCreateFabric, if_neg taken, valid, made]
        have longer : (⟨actor.state.fabrics ++ [entry]⟩ : ControllerState) ≠ actor.state := by
          intro same
          have length := congrArg (fun state => state.fabrics.length) same
          simp at length
        rw [failsClean_durably_iff saves, or_iff_right longer]
        constructor
        · rintro saved other ⟨-, -, created⟩
          cases made.symm.trans created
          exact saved
        · intro each
          exact each entry ⟨fresh, valid, made⟩

theorem soleFabric_error {state : ControllerState} (refused : state.soleFabric = .error e)
    (fabric : FabricEntry) : state.fabrics ≠ [fabric] := by
  intro sole
  rw [soleFabric_of_fabrics sole] at refused
  cases refused

/-- The commands that change the only fabric and save it. -/
theorem failsClean_sole_iff (change : FabricEntry → FabricEntry) (reply : Reply)
    (refused : ∀ e, actor.state.soleFabric = .error e → command.arm actor = actor.refuse e)
    (saves : ∀ fabric, actor.state.soleFabric = .ok fabric →
      command.arm actor = durably { actor with state := ⟨[change fabric]⟩ } reply) :
    Process.FailsClean ⟨actor, gate, none⟩ store command write radio ↔
      ∀ fabric, actor.state.fabrics = [fabric] →
        change fabric = fabric ∨ actor.Saves gate store write ⟨[change fabric]⟩ := by
  cases sole : actor.state.soleFabric with
  | error e =>
    refine iff_of_true (failsClean_refused (refused e sole)) fun fabric alone => ?_
    exact absurd alone (soleFabric_error sole fabric)
  | ok fabric =>
    have alone := soleFabric_ok sole
    have same : (⟨[change fabric]⟩ : ControllerState) = actor.state ↔ change fabric = fabric := by
      rw [ControllerState.mk.injEq, alone, List.singleton_inj]
    rw [failsClean_durably_iff (saves fabric sole), same]
    constructor
    · rintro saved other alone'
      cases alone.symm.trans alone'
      exact saved
    · intro each
      exact each fabric alone

theorem failsClean_persistIcdRegistration_iff (registration : IcdRegistration) :
    Process.FailsClean ⟨actor, gate, none⟩ store (.persistIcdRegistration registration) write
        radio ↔
      ∀ fabric, actor.state.fabrics = [fabric] →
        registered registration fabric = fabric ∨
          actor.Saves gate store write ⟨[registered registration fabric]⟩ := by
  refine failsClean_sole_iff (registered registration) .done ?_ ?_
  · intro e refused
    simp [Command.arm, handlePersistIcdRegistration, refused]
  · intro fabric sole
    simp [Command.arm, handlePersistIcdRegistration, sole]

theorem failsClean_createGroup_iff (keySetId : UInt16) (epochStartTime : UInt64)
    (random : Except String (Block 16)) :
    Process.FailsClean ⟨actor, gate, none⟩ store (.createGroup keySetId epochStartTime random) write
        radio ↔
      ∀ epochKey fabric, random = .ok epochKey → actor.state.fabrics = [fabric] →
        upserted ⟨keySetId, epochKey, epochStartTime⟩ fabric = fabric ∨
          actor.Saves gate store write
            ⟨[upserted ⟨keySetId, epochKey, epochStartTime⟩ fabric]⟩ := by
  cases random with
  | error e =>
    have refused : (Command.createGroup keySetId epochStartTime (.error e)).arm actor =
        actor.refuse (.operational s!"group epoch-key generation failed: {e}") := rfl
    refine iff_of_true (failsClean_refused refused) fun _ _ drawn => ?_
    cases drawn
  | ok epochKey =>
    refine (failsClean_sole_iff (upserted ⟨keySetId, epochKey, epochStartTime⟩)
      (.groupKeySet ⟨keySetId, epochKey, epochStartTime⟩) ?_ ?_).trans ⟨?_, ?_⟩
    · intro e refused
      simp [Command.arm, handleCreateGroup, refused]
    · intro fabric sole
      simp [Command.arm, handleCreateGroup, sole]
    · rintro each _ fabric ⟨⟩ alone
      exact each fabric alone
    · intro each fabric alone
      exact each epochKey fabric rfl alone

/-! Group messages. -/

/-- The counter is taken whether the message is sent or not. -/
theorem sendGroup_cases (actor : Actor) (message : GroupMessage) (radio : Radio) :
    ∃ result sent, actor.sendGroup message radio = .returned result sent
        (actor.counting message.fabricId (saturatingSucc message.counter)) ∧
      (radio.Sends ↔ result = .ok .done) ∧ (¬radio.Sends → ∃ e, result = .error e) := by
  obtain ⟨keys, exchangeId, frame, socket⟩ := radio
  cases exchangeId with
  | error e => exact ⟨_, _, rfl, by simp [Radio.Sends], fun _ => ⟨_, rfl⟩⟩
  | ok id =>
    cases frame with
    | false => exact ⟨_, _, rfl, by simp [Radio.Sends], fun _ => ⟨_, rfl⟩⟩
    | true =>
      cases socket with
      | error e => exact ⟨_, _, rfl, by simp [Radio.Sends], fun _ => ⟨_, rfl⟩⟩
      | ok =>
        have sends : Radio.Sends ⟨keys, .ok id, true, .ok ()⟩ := ⟨⟨id, rfl⟩, rfl, rfl⟩
        exact ⟨_, _, rfl, iff_of_true sends rfl, fun fails => absurd sends fails⟩

theorem nextCounter_counting (actor : Actor) (fabric : FabricEntry) (next : UInt32) :
    (actor.counting fabric.fabricId next).nextCounter fabric = next := by
  rw [nextCounter, counting, AList.lookup_insert]
  rfl

/-- A counter that is taken stays taken. -/
theorem failsClean_sent_iff {fabric : FabricEntry} {sending : Actor}
    (sole : actor.state.fabrics = [fabric]) (reserved : actor.nextCounter fabric < limit)
    (outcome : (sends ↔ result = .ok .done) ∧ (¬sends → ∃ e, result = .error e))
    (done : Process.perform ⟨actor, gate, none⟩ store command write radio =
      (⟨sending.counting fabric.fabricId (saturatingSucc (actor.nextCounter fabric)), gate',
        none⟩, store', ⟨some result, sent⟩)) :
    Process.FailsClean ⟨actor, gate, none⟩ store command write radio ↔ sends := by
  rw [failsClean_iff done]
  constructor
  · intro clean
    by_contra fails
    obtain ⟨e, failed⟩ := outcome.2 fails
    have member : fabric ∈ actor.state.fabrics := by
      rw [sole]
      exact List.mem_cons_self
    have same : saturatingSucc (actor.nextCounter fabric) = actor.nextCounter fabric :=
      (nextCounter_counting sending fabric _).symm.trans ((clean e failed).1.counters fabric member)
    have succ := toNat_saturatingSucc reserved
    rw [same] at succ
    omega
  · intro succeeds e failed
    rw [outcome.1.mp succeeds] at failed
    cases failed

/-- A counter that is still free. -/
theorem same_counting (sole : actor.state.fabrics = [fabric]) (gate : Nat) :
    Process.Same ⟨actor, gate, none⟩
      ⟨actor.counting fabric.fabricId (actor.nextCounter fabric), gate, none⟩ := by
  refine ⟨rfl, fun other member => ?_, rfl⟩
  obtain rfl : other = fabric := by
    rw [sole] at member
    exact List.mem_singleton.mp member
  exact nextCounter_counting actor other _

section Reserved
variable {fabric : FabricEntry} {groupId keySetId : UInt16} {epochKey : Block 16} {payload : Octets}
  {later : Radio}

def Actor.groupMessage (actor : Actor) (fabric : FabricEntry) (epochKey : Block 16)
    (groupId : UInt16) (payload : Octets) : GroupMessage :=
  ⟨fabric.fabricId, fabric.commissioner.nodeId, groupId, epochKey, actor.nextCounter fabric, payload⟩

/-- The next counter is noted before the message is sent. -/
def Actor.counted (actor : Actor) (fabric : FabricEntry) : Actor :=
  actor.counting fabric.fabricId (actor.nextCounter fabric)

section
variable (sole : actor.state.soleFabric = .ok fabric)
  (found : epochKey? fabric keySetId = some epochKey) (derived : radio.keys = .ok ())
include sole found derived

theorem failsClean_room_iff (room : actor.nextCounter fabric < fabric.outboundGroupCounter) :
    Process.FailsClean ⟨actor, gate, none⟩ store (.invokeGroup groupId keySetId payload radio) write
        later ↔ radio.Sends := by
  obtain ⟨result, sent, same, outcome⟩ := sendGroup_cases (actor.counted fabric)
    (actor.groupMessage fabric epochKey groupId payload) radio
  have arm : (Command.invokeGroup groupId keySetId payload radio).arm actor =
      (actor.counted fabric).sendGroup (actor.groupMessage fabric epochKey groupId payload) radio := by
    simp only [Command.arm, handleInvokeGroup, sole, found, derived,
      if_neg (UInt32.not_le.mpr room)]
    rfl
  exact failsClean_sent_iff (soleFabric_ok sole) room outcome (perform_returned (arm.trans same))

theorem failsClean_full_iff (full : fabric.outboundGroupCounter ≤ actor.nextCounter fabric) :
    Process.FailsClean ⟨actor, gate, none⟩ store (.invokeGroup groupId keySetId payload radio) write
        later ↔
      ∀ ceiling, nextCeiling? (actor.nextCounter fabric) = some ceiling →
        actor.Saves gate store write ⟨[withCeiling ceiling fabric]⟩ → later.Sends := by
  have alone := soleFabric_ok sole
  cases grown : nextCeiling? (actor.nextCounter fabric) with
  | none =>
    have arm : (Command.invokeGroup groupId keySetId payload radio).arm actor =
        .returned (.error (.operational "group counter exhausted — re-key the group")) none
          (actor.counted fabric) := by
      simp only [Command.arm, handleInvokeGroup, sole, found, derived, if_pos full, grown]
      rfl
    rw [failsClean_iff (perform_returned arm)]
    exact iff_of_true (fun _ _ => ⟨same_counting alone gate, rfl⟩) (by simp)
  | some ceiling =>
    cases taken : serialize ⟨[withCeiling ceiling fabric]⟩ with
    | error e =>
      have arm : (Command.invokeGroup groupId keySetId payload radio).arm actor =
          .returned (.error e) none (actor.counted fabric) := by
        simp only [Command.arm, handleInvokeGroup, sole, found, derived, if_pos full, grown,
          durableSaveInputs, taken]
        rfl
      rw [failsClean_iff (perform_returned arm)]
      refine iff_of_true (fun _ _ => ⟨same_counting alone gate, rfl⟩) ?_
      rintro _ ⟨⟩ ⟨out, written, -⟩
      cases taken.symm.trans written
    | ok out =>
      have arm : (Command.invokeGroup groupId keySetId payload radio).arm actor =
          .saving ⟨received out, actor.snapshotSeq + 1⟩
            (.invokeGroup fabric.outboundGroupCounter
              (actor.groupMessage fabric epochKey groupId payload))
            { actor.counted fabric with
              state := ⟨[withCeiling ceiling fabric]⟩
              snapshotSeq := actor.snapshotSeq + 1 } := by
        simp only [Command.arm, handleInvokeGroup, sole, found, derived, if_pos full, grown,
          durableSaveInputs, taken]
        rfl
      cases saved : (SaveJob.run ⟨received out, actor.snapshotSeq + 1⟩ gate store write).1 with
      | error e =>
        have done := perform_saving later arm (by rw [saved]; rfl)
        rw [failsClean_iff done]
        constructor
        · rintro - _ ⟨⟩ ⟨out', written, succeeded⟩
          cases taken.symm.trans written
          cases saved.symm.trans succeeded
        · intro _ _ _
          have counters := (same_counting alone gate).counters
          exact ⟨⟨(congrArg ControllerState.mk alone).symm, counters, rfl⟩, run_error saved⟩
      | ok =>
        obtain ⟨result, sent, same, outcome⟩ := sendGroup_cases
          { actor.counted fabric with
            state := ⟨[withCeiling ceiling fabric]⟩
            snapshotSeq := actor.snapshotSeq + 1 }
          (actor.groupMessage fabric epochKey groupId payload) later
        have done := perform_saving later arm (by rw [saved]; exact same)
        rw [failsClean_sent_iff alone (lt_of_nextCeiling? grown) outcome done]
        constructor
        · rintro sends _ ⟨⟩ _
          exact sends
        · intro each
          exact each ceiling rfl ⟨out, taken, saved⟩

end

end Reserved

theorem failsClean_invokeGroup_iff (groupId keySetId : UInt16) (payload : Octets)
    (radio later : Radio) :
    Process.FailsClean ⟨actor, gate, none⟩ store (.invokeGroup groupId keySetId payload radio) write
        later ↔
      ∀ fabric epochKey, actor.state.fabrics = [fabric] →
        epochKey? fabric keySetId = some epochKey → radio.keys = .ok () →
        (actor.nextCounter fabric < fabric.outboundGroupCounter → radio.Sends) ∧
        (fabric.outboundGroupCounter ≤ actor.nextCounter fabric → ∀ ceiling,
          nextCeiling? (actor.nextCounter fabric) = some ceiling →
          actor.Saves gate store write ⟨[withCeiling ceiling fabric]⟩ → later.Sends) := by
  cases sole : actor.state.soleFabric with
  | error e =>
    have refused : (Command.invokeGroup groupId keySetId payload radio).arm actor =
        actor.refuse e := by
      simp [Command.arm, handleInvokeGroup, sole]
    refine iff_of_true (failsClean_refused refused) fun fabric _ alone => ?_
    exact absurd alone (soleFabric_error sole fabric)
  | ok fabric =>
    have alone := soleFabric_ok sole
    cases found : epochKey? fabric keySetId with
    | none =>
      have refused : (Command.invokeGroup groupId keySetId payload radio).arm actor =
          actor.refuse (.groupNotProvisioned keySetId) := by
        simp [Command.arm, handleInvokeGroup, sole, found]
      refine iff_of_true (failsClean_refused refused) fun other epochKey alone' found' => ?_
      cases alone.symm.trans alone'
      cases found.symm.trans found'
    | some epochKey =>
      cases derived : radio.keys with
      | error e =>
        have refused : (Command.invokeGroup groupId keySetId payload radio).arm actor =
            actor.refuse (.operational e) := by
          simp [Command.arm, handleInvokeGroup, sole, found, derived]
        exact iff_of_true (failsClean_refused refused) fun _ _ _ _ keys => by cases keys
      | ok =>
        constructor
        · intro clean other key alone' _ _
          cases alone.symm.trans alone'
          constructor
          · intro room
            exact (failsClean_room_iff sole found derived room).mp clean
          · intro full
            exact (failsClean_full_iff sole found derived full).mp clean
        · intro each
          obtain ⟨sends, reserves⟩ := each fabric epochKey alone found rfl
          by_cases full : fabric.outboundGroupCounter ≤ actor.nextCounter fabric
          · exact (failsClean_full_iff sole found derived full).mpr (reserves full)
          · have room := UInt32.not_le.mp full
            exact (failsClean_room_iff sole found derived room).mpr (sends room)

/-- When exactly a command that fails has changed nothing. -/
theorem failed_command_unchanged_iff (actor : Actor) (gate : Nat) (store : Option Octets)
    (write : Write) (later : Radio) :
    (∀ cfg clock minted,
      Process.FailsClean ⟨actor, gate, none⟩ store (.createFabric cfg clock minted) write later ↔
        ∀ entry, actor.Accepts cfg clock minted entry →
          actor.Saves gate store write ⟨actor.state.fabrics ++ [entry]⟩) ∧
    (∀ registration,
      Process.FailsClean ⟨actor, gate, none⟩ store (.persistIcdRegistration registration) write
          later ↔
        ∀ fabric, actor.state.fabrics = [fabric] →
          registered registration fabric = fabric ∨
            actor.Saves gate store write ⟨[registered registration fabric]⟩) ∧
    (∀ keySetId epochStartTime random,
      Process.FailsClean ⟨actor, gate, none⟩ store (.createGroup keySetId epochStartTime random)
          write later ↔
        ∀ epochKey fabric, random = .ok epochKey → actor.state.fabrics = [fabric] →
          upserted ⟨keySetId, epochKey, epochStartTime⟩ fabric = fabric ∨
            actor.Saves gate store write
              ⟨[upserted ⟨keySetId, epochKey, epochStartTime⟩ fabric]⟩) ∧
    ∀ groupId keySetId payload radio,
      Process.FailsClean ⟨actor, gate, none⟩ store (.invokeGroup groupId keySetId payload radio)
          write later ↔
        ∀ fabric epochKey, actor.state.fabrics = [fabric] →
          epochKey? fabric keySetId = some epochKey → radio.keys = .ok () →
          (actor.nextCounter fabric < fabric.outboundGroupCounter → radio.Sends) ∧
          (fabric.outboundGroupCounter ≤ actor.nextCounter fabric → ∀ ceiling,
            nextCeiling? (actor.nextCounter fabric) = some ceiling →
            actor.Saves gate store write ⟨[withCeiling ceiling fabric]⟩ → later.Sends) :=
  ⟨failsClean_createFabric_iff, failsClean_persistIcdRegistration_iff, failsClean_createGroup_iff,
    fun groupId keySetId payload radio =>
      failsClean_invokeGroup_iff groupId keySetId payload radio later⟩

end

def Command.found : Command :=
  .createFabric ⟨1, 1, ⟨1⟩, ⟨10⟩⟩ (.ok ⟨2⟩)
    (.ok ⟨.fill 16 0, Cert.CertificateChain.sampleLeaf, received [], received [],
      Cert.CertificateChain.sampleLeaf, none⟩)

def Command.rekey (fill : UInt8) : Command := .createGroup 7 0 (.ok (.fill 16 fill))

/-- The key that group messages under the key set 7 are sent with. -/
def groupKey (state : ControllerState) : List (Option (Block 16)) :=
  state.fabrics.map fun fabric => Actor.epochKey? fabric 7

/-- A fabric that could not be saved cannot be created again; a key that could not be
saved is used all the same, and the next save keeps it. -/
theorem unsaved_change_kept :
    (let empty : Process := ⟨.new ⟨[]⟩ true, 0, none⟩
    let failed := empty.perform none .found .failed working
    failed.2.2.result = some (.error .store) ∧
      (failed.1.perform none .found .written working).2.2.result =
        some (.error (.fabricAlreadyExists 1))) ∧
    (let loaded : Process := ⟨.new (sampleState lamp) true, 0, none⟩
    let first := loaded.perform none (.rekey 1) .written working
    let second := first.1.perform first.2.1 (.rekey 2) .failed working
    let third := second.1.perform second.2.1 (.forgetNode 2) .written working
    second.2.2.result = some (.error .store) ∧
      groupKey second.1.actor.state = [some (.fill 16 2)] ∧
      (load third.2.1).map groupKey = .ok [some (.fill 16 2)]) := by
  refine ⟨⟨?_, ?_⟩, ?_, ?_, ?_⟩
  · decide +kernel
  · decide +kernel
  · decide +kernel
  · decide +kernel
  · decide +kernel

end Matter.Controller
