import Matter.Commissioning.Steps

/-! Runs of a commissioner under any sequence of calls, with the events they
leave, and what is true of its fields in every state of a run. -/
namespace Matter.Commissioning
open Codec Cert Exits

inductive Call where
  | poll
  | onResponse (expect : Expectation) (payload : Octets)
  | onCaseEstablished
  | setConnectMaxTimeSeconds (seconds : UInt16)

inductive Reply where
  | action (action : Action)
  | accepted
  | refused (error : CommissioningError)
  deriving DecidableEq

/-- A call, the state it found and what it returned. -/
structure Event where
  before : Commissioner
  call : Call
  reply : Reply

/-- The response the request of a stage asks for. -/
def Stage.expectation : Stage → Option Expectation
  | .readCommissioningInfo => some .commissioningInfo
  | .armFailsafe => some .armFailsafeResponse
  | .configRegulatory => some .setRegulatoryConfigResponse
  | .sendPaiCertRequest => some .paiCertChainResponse
  | .sendDacCertRequest => some .dacCertChainResponse
  | .sendAttestationRequest => some .attestationResponse
  | .sendOpCertSigningRequest => some .csrResponse
  | .sendTrustedRootCert => some .addTrustedRootResponse
  | .sendNoc => some .nocResponse
  | .readNetworkCommissioningInfo => some .networkCommissioningInfo
  | .networkSetup => some .networkConfigResponse
  | .failsafeBeforeNetworkEnable => some .armFailsafeResponse
  | .networkEnable => some .connectNetworkResponse
  | .sendComplete => some .commissioningCompleteResponse
  | .securePairing | .attestationVerification | .validateCsr | .generateNocChain
  | .evictPreviousCaseSessions | .findOperationalForComplete | .cleanup | .failed => none

/-- The stages only a device that needs a network goes through. -/
def Stage.network (stage : Stage) : Prop :=
  stage = .networkSetup ∨ stage = .failsafeBeforeNetworkEnable ∨ stage = .networkEnable

/-- The stages that ask for a response. -/
def Expectation.askedAt (stage : Stage) : Expectation → Prop
  | .commissioningInfo => stage = .readCommissioningInfo
  | .armFailsafeResponse => stage = .armFailsafe ∨ stage = .failsafeBeforeNetworkEnable
  | .setRegulatoryConfigResponse => stage = .configRegulatory
  | .paiCertChainResponse => stage = .sendPaiCertRequest
  | .dacCertChainResponse => stage = .sendDacCertRequest
  | .attestationResponse => stage = .sendAttestationRequest
  | .csrResponse => stage = .sendOpCertSigningRequest
  | .addTrustedRootResponse => stage = .sendTrustedRootCert
  | .nocResponse => stage = .sendNoc
  | .networkCommissioningInfo => stage = .readNetworkCommissioningInfo
  | .networkConfigResponse => stage = .networkSetup
  | .connectNetworkResponse => stage = .networkEnable
  | .commissioningCompleteResponse => stage = .sendComplete
  | .caseFailed => False

theorem askedAt_of_expectation {expect : Expectation} (asks : stage.expectation = some expect) :
    expect.askedAt stage := by
  cases stage <;> cases asks <;> simp [Expectation.askedAt]

namespace Commissioner
variable {host : Host} {c next : Commissioner}

def outcome {α : Type} (reply : α → Reply) :
    EStateM.Result CommissioningError Commissioner α → Reply × Commissioner
  | .ok a next => (reply a, next)
  | .error e next => (.refused e, next)

def perform (host : Host) (c : Commissioner) : Call → Reply × Commissioner
  | .poll => outcome .action ((poll host).run c)
  | .onResponse expect payload =>
    outcome (fun _ => .accepted) ((onResponse host expect payload).run c)
  | .onCaseEstablished => outcome (fun _ => .accepted) (onCaseEstablished.run c)
  | .setConnectMaxTimeSeconds seconds =>
    outcome (fun _ => .accepted) ((setConnectMaxTimeSeconds seconds).run c)

def step (host : Host) (c : Commissioner) (call : Call) : Commissioner := (perform host c call).2

def event (host : Host) (c : Commissioner) (call : Call) : Event :=
  ⟨c, call, (perform host c call).1⟩

def after (host : Host) (c : Commissioner) (calls : List Call) : Commissioner :=
  Runs.run (step host) c calls

def history (host : Host) (c : Commissioner) (calls : List Call) : List Event :=
  Logs.log (step host) (event host) c calls

inductive Performed (host : Host) (c : Commissioner) : Call → Reply → Commissioner → Prop
  | repeated (cached : c.pendingAction = some action) :
      Performed host c .poll (.action action) c
  | acts {next : Commissioner} (fresh : c.pendingAction = none)
      (dispatch : Dispatch host c (.ok action next)) :
      Performed host c .poll (.action action) { next with pendingAction := some action }
  | stalls {next : Commissioner} (fresh : c.pendingAction = none)
      (dispatch : Dispatch host c (.error e next)) : Performed host c .poll (.refused e) next
  | takes {next : Commissioner}
      (awaited : c.awaiting = some expect) (handled : Handled c payload expect next) :
      Performed host c (.onResponse expect payload) .accepted next
  | rejects (awaited : c.awaiting = some expect) (rejected : handled c expect payload = .error e) :
      Performed host c (.onResponse expect payload) (.refused e) (c.failing host e)
  | caseFails (awaited : c.awaitingCaseSession = true) :
      Performed host c (.onResponse .caseFailed payload) (.refused .caseEstablishmentFailed)
        ({ c with awaitingCaseSession := false }.failing host .caseEstablishmentFailed)
  | unawaited (response : call ≠ .poll) :
      Performed host c call (.refused (.outOfOrderResponse c.stage)) c
  | unexpected {awaiting expect : Expectation} (response : call ≠ .poll) :
      Performed host c call (.refused (.unexpectedResponseKind awaiting expect)) c
  | caseEstablishes (awaited : c.awaitingCaseSession = true) :
      Performed host c .onCaseEstablished .accepted
        ({ c with awaitingCaseSession := false }.moved .sendComplete)
  | times (seconds : UInt16) : Performed host c (.setConnectMaxTimeSeconds seconds) .accepted
      { c with connectMaxTimeSeconds := seconds }

theorem performed (host : Host) (c : Commissioner) (call : Call) :
    Performed host c call (event host c call).reply (step host c call) := by
  cases call with
  | poll =>
    simp only [event, step, perform]
    cases cached : c.pendingAction with
    | some action =>
      rw [poll_run_cached cached]
      exact .repeated cached
    | none =>
      have dispatch : Dispatch host c ((dispatchStage host).run c) := dispatch_cases c
      rw [poll_run_fresh cached]
      cases result : (dispatchStage host).run c with
      | ok action next => exact .acts cached (result ▸ dispatch)
      | error e next => exact .stalls cached (result ▸ dispatch)
  | onResponse expect payload =>
    have responded := onResponse_cases host c expect payload
    simp only [event, step, perform]
    generalize (onResponse host expect payload).run c = result at responded ⊢
    cases responded with
    | caseFailed kind awaited =>
      subst kind
      exact .caseFails awaited
    | outOfOrder => exact .unawaited nofun
    | unexpected awaiting => exact .unexpected nofun
    | taken awaited handled => exact .takes awaited handled
    | rejected awaited rejects => exact .rejects awaited rejects
  | onCaseEstablished =>
    simp only [event, step, perform]
    rcases onCaseEstablished_cases c with ⟨awaited, ran⟩ | ⟨awaited, ran⟩
    · rw [ran]
      exact .caseEstablishes awaited
    · rw [ran]
      exact .unawaited nofun
  | setConnectMaxTimeSeconds seconds => exact .times seconds

/-- The state a poll leaves, from the result of the dispatch. -/
def polled : EStateM.Result CommissioningError Commissioner Action → Commissioner
  | .ok action next => { next with pendingAction := some action }
  | .error _ next => next

/-- What the fields of a commissioner have to do with each other. A cached action
was asked for by the stage the machine is in. -/
structure Coherent (host : Host) (c : Commissioner) : Prop where
  awaited : c.awaiting = none ∨ c.awaiting = c.stage.expectation
  caseAwaited : c.awaitingCaseSession = true → c.stage = .findOperationalForComplete
  network : c.stage.network → c.config.network ≠ .alreadyOnNetwork
  cached : ∀ action, c.pendingAction = some action → ∃ origin next, Emits host origin action next ∧
    c = { next with
      pendingAction := some action, connectMaxTimeSeconds := c.connectMaxTimeSeconds }

namespace Coherent

theorem of_idle (idle : c.awaiting = none) (fresh : c.pendingAction = none)
    (noCase : c.awaitingCaseSession = false)
    (network : c.stage.network → c.config.network ≠ .alreadyOnNetwork) : Coherent host c where
  awaited := .inl idle
  caseAwaited awaited := by simp [noCase] at awaited
  network := network
  cached action pending := by simp [fresh] at pending

variable {action : Action}

theorem noCase (coherent : Coherent host c) (elsewhere : c.stage ≠ .findOperationalForComplete) :
    c.awaitingCaseSession = false := by
  cases awaited : c.awaitingCaseSession with
  | false => rfl
  | true => exact absurd (coherent.caseAwaited awaited) elsewhere

theorem askedAt (coherent : Coherent host c) (awaited : c.awaiting = some expect) :
    expect.askedAt c.stage := by
  rcases coherent.awaited with none | asks
  · cases awaited.symm.trans none
  · exact askedAt_of_expectation (asks.symm.trans awaited)

theorem failing (noCase : c.awaitingCaseSession = false) :
    Coherent host (c.failing host e) :=
  of_idle rfl rfl noCase (by rintro (h | h | h) <;> cases h)

section
variable (coherent : Coherent host c)
include coherent

theorem hop (fresh : c.pendingAction = none) (hop : Hop host c next) :
    Coherent host next ∧ next.pendingAction = none := by
  cases hop with
  | paired here =>
    have idle : c.awaiting = none := by simpa [here, Stage.expectation] using coherent.awaited
    exact ⟨of_idle idle fresh (coherent.noCase (by simp [here])) (by simp [Stage.network]), fresh⟩
  | attested here | validated here | generated here | evicted here =>
    exact ⟨of_idle rfl rfl (coherent.noCase (by simp [here])) (by simp [Stage.network]), rfl⟩

theorem emit (emits : Emits host c action next) :
    Coherent host { next with pendingAction := some action } where
  awaited := by
    cases emits with
    | findOperationalForComplete here | cleanup here => exact coherent.awaited
    | failed here => exact .inl rfl
    | _ here => exact .inr (by simp [here, Stage.expectation])
  caseAwaited := by
    cases emits with
    | findOperationalForComplete here => exact fun _ => here
    | _ => exact coherent.caseAwaited
  network := by cases emits <;> exact coherent.network
  cached := by
    intro _ pending
    cases pending
    exact ⟨c, next, emits, rfl⟩

theorem of_unchanged (awaiting : next.awaiting = c.awaiting) (stage : next.stage = c.stage)
    (config : next.config = c.config)
    (caseSession : next.awaitingCaseSession = c.awaitingCaseSession)
    (fresh : next.pendingAction = none) : Coherent host next where
  awaited := by
    rw [awaiting, stage]
    exact coherent.awaited
  caseAwaited := by
    rw [caseSession, stage]
    exact coherent.caseAwaited
  network := by
    rw [stage, config]
    exact coherent.network
  cached action pending := by simp [fresh] at pending

theorem stall (fresh : c.pendingAction = none) (stalls : Stalls host c e next) :
    Coherent host next := by
  cases stalls with
  | rejected here => exact failing (coherent.noCase (by simp [here]))
  | _ => exact coherent.of_unchanged rfl rfl rfl rfl fresh

end

theorem dispatch (dispatch : Dispatch host c r) (coherent : Coherent host c)
    (fresh : c.pendingAction = none) : Coherent host (polled r) := by
  induction dispatch with
  | hop hop _ ih =>
    obtain ⟨coherent, fresh⟩ := coherent.hop fresh hop
    exact ih coherent fresh
  | emit emits => exact coherent.emit emits
  | stall stalls => exact coherent.stall fresh stalls

section
variable (coherent : Coherent host c)
include coherent

/-- Responses and the operational session are not awaited together. -/
theorem noCase_of_awaited (awaited : c.awaiting = some expect) : c.awaitingCaseSession = false := by
  apply coherent.noCase
  intro here
  have asked := coherent.askedAt awaited
  rw [here] at asked
  cases expect <;> simp [Expectation.askedAt] at asked

theorem handled (awaited : c.awaiting = some expect) (handled : Handled c payload expect next) :
    Coherent host next := by
  have asked := coherent.askedAt awaited
  have noCase := coherent.noCase_of_awaited awaited
  cases handled with
  | rearmed here =>
    exact of_idle rfl rfl noCase fun _ => coherent.network (.inr (.inl here))
  | networkNeeded network => exact of_idle rfl rfl noCase fun _ => network
  | networkConfigured => exact of_idle rfl rfl noCase fun _ => coherent.network (.inl asked)
  | _ => exact of_idle rfl rfl noCase (by simp [Stage.network])

theorem timed (seconds : UInt16) :
    Coherent host { c with connectMaxTimeSeconds := seconds } where
  awaited := coherent.awaited
  caseAwaited := coherent.caseAwaited
  network := coherent.network
  cached action pending := by
    obtain ⟨origin, next, emits, same⟩ := coherent.cached action pending
    exact ⟨origin, next, emits,
      congrArg (fun c => { c with connectMaxTimeSeconds := seconds }) same⟩

theorem performed (performed : Performed host c call reply next) : Coherent host next := by
  cases performed with
  | repeated => exact coherent
  | acts fresh dispatch | stalls fresh dispatch => exact Coherent.dispatch dispatch coherent fresh
  | takes awaited handled => exact coherent.handled awaited handled
  | rejects awaited => exact failing (coherent.noCase_of_awaited awaited)
  | caseFails => exact failing rfl
  | unawaited | unexpected => exact coherent
  | caseEstablishes => exact of_idle rfl rfl rfl (by simp [Stage.network])
  | times seconds => exact coherent.timed seconds

end

end Coherent

theorem eq_of_new (built : new cfg = .ok c) : c = { config := cfg } := by
  obtain ⟨_, _, built⟩ := of_bind_ok built
  obtain ⟨_, _, built⟩ := of_bind_ok built
  obtain ⟨_, _, built⟩ := of_bind_ok built
  obtain ⟨_, _, rfl⟩ := of_checked built
  rfl

theorem coherent_of_new (built : new cfg = .ok c) : Coherent host c := by
  rw [eq_of_new built]
  exact .of_idle rfl rfl rfl (by simp [Stage.network])

theorem coherent_after (built : new cfg = .ok c) (calls : List Call) :
    Coherent host (c.after host calls) :=
  Runs.invariant (fun _ call coherent => coherent.performed (performed host _ call))
    (coherent_of_new built) calls

/-! The failed stage. -/

theorem dispatch_failed (failed : c.stage = .failed) (dispatch : Dispatch host c r) :
    r = .ok (.abort true (c.lastFailure.getD "commissioning aborted"))
      { c with awaiting := none } := by
  cases dispatch with
  | hop hop | stall hop => cases hop <;> simp_all
  | emit emits =>
    cases emits with
    | failed => rfl
    | _ => simp_all

theorem abort_of_emits (failed : origin.stage = .failed) (emits : Emits host origin action next) :
    action = .abort true (next.lastFailure.getD "commissioning aborted") := by
  cases emits with
  | failed => rfl
  | _ => simp_all

theorem stage_of_emits (emits : Emits host c action next) : next.stage = c.stage := by
  cases emits <;> rfl

theorem poll_failed (coherent : Coherent host c) (failed : c.stage = .failed) :
    ∃ next, (poll host).run c = .ok (.abort true (c.lastFailure.getD "commissioning aborted")) next ∧
      next.stage = .failed := by
  cases pending : c.pendingAction with
  | some action =>
    obtain ⟨origin, next, emits, same⟩ := coherent.cached action pending
    have stage : next.stage = c.stage := (congrArg stage same).symm
    have reason : next.lastFailure = c.lastFailure := (congrArg lastFailure same).symm
    have aborts := abort_of_emits ((stage_of_emits emits).symm.trans (stage.trans failed)) emits
    rw [reason] at aborts
    exact ⟨c, aborts ▸ poll_run_cached pending, failed⟩
  | none =>
    rw [poll_run_fresh pending, dispatch_failed failed (dispatch_cases c)]
    exact ⟨_, rfl, failed⟩

theorem failed_of_performed (coherent : Coherent host c) (failed : c.stage = .failed)
    (performed : Performed host c call reply next) : next.stage = .failed := by
  cases performed with
  | repeated | times => exact failed
  | acts fresh dispatch =>
    cases dispatch_failed failed dispatch
    exact failed
  | stalls fresh dispatch => cases dispatch_failed failed dispatch
  | takes awaited =>
    have asked := coherent.askedAt awaited
    rw [failed] at asked
    rename_i expect _ _
    cases expect <;> simp [Expectation.askedAt] at asked
  | rejects => rfl
  | caseFails => rfl
  | unawaited | unexpected => exact failed
  | caseEstablishes awaited => cases (coherent.caseAwaited awaited).symm.trans failed

/-! Stages are passed in the order of their declaration. -/

/-- The stage of the event is not behind, and it is past if its answer was taken. -/
def Behind (e : Event) (c : Commissioner) : Prop :=
  e.before.stage.ctorIdx ≤ c.stage.ctorIdx ∧
    (e.reply = .accepted → (∀ seconds, e.call ≠ .setConnectMaxTimeSeconds seconds) →
      e.before.stage.ctorIdx < c.stage.ctorIdx)

theorem Behind.of_lt (less : c.stage.ctorIdx < next.stage.ctorIdx) : Behind ⟨c, call, reply⟩ next :=
  ⟨Nat.le_of_lt less, fun _ _ => less⟩

theorem dispatch_advances (dispatch : Dispatch host c r) :
    c.stage.ctorIdx ≤ (polled r).stage.ctorIdx := by
  induction dispatch with
  | hop hop _ ih =>
    refine Nat.le_trans ?_ ih
    cases hop <;> simp [Stage.ctorIdx, *]
  | emit emits => cases emits <;> exact Nat.le_refl _
  | stall stalls =>
    cases stalls with
    | rejected here => simp [Stage.ctorIdx, polled, failing, here]
    | _ => exact Nat.le_refl _

theorem behind_of_performed (coherent : Coherent host c)
    (performed : Performed host c call reply next) : Behind ⟨c, call, reply⟩ next := by
  cases performed with
  | repeated | unawaited | unexpected => exact ⟨Nat.le_refl _, nofun⟩
  | acts _ dispatch | stalls _ dispatch => exact ⟨dispatch_advances dispatch, nofun⟩
  | rejects | caseFails =>
    have last : c.stage.ctorIdx ≤ Stage.failed.ctorIdx := by cases c.stage <;> decide
    exact ⟨last, nofun⟩
  | takes awaited handled =>
    have asked := coherent.askedAt awaited
    apply Behind.of_lt
    cases handled with
    | armed here | rearmed here => simp [Stage.ctorIdx, here]
    | _ =>
      simp only [Expectation.askedAt] at asked
      simp [Stage.ctorIdx, asked]
  | caseEstablishes awaited =>
    apply Behind.of_lt
    simp [Stage.ctorIdx, coherent.caseAwaited awaited]
  | times seconds => exact ⟨Nat.le_refl _, fun _ other => absurd rfl (other seconds)⟩

/-- No later call comes back to a stage, nor stays in one whose answer was taken. -/
theorem stages_advance (host : Host) (config : CommissionerConfig) (earlier : List Call)
    (call : Call) (later : List Call) :
    let c : Commissioner := { config }
    Behind ((c.after host earlier).event host call) (c.after host (earlier ++ call :: later)) := by
  intro c
  have start : Coherent host c := .of_idle rfl rfl rfl (by simp [Stage.network, c])
  have coherent : Coherent host (c.after host earlier) :=
    Runs.invariant (fun _ call coherent => coherent.performed (performed host _ call)) start earlier
  have advances := behind_of_performed coherent (performed host _ call)
  have split : c.after host (earlier ++ call :: later) =
      ((c.after host earlier).step host call).after host later := Runs.run_append _ _
  rw [split]
  refine (Runs.invariant (P := fun d => Coherent host d ∧ Behind _ d) ?_
    ⟨coherent.performed (performed host _ call), advances⟩ later).2
  rintro d call ⟨coherent, behind, past⟩
  have onward := behind_of_performed coherent (performed host d call)
  exact ⟨coherent.performed (performed host d call), behind.trans onward.1,
    fun taken other => (past taken other).trans_le onward.1⟩

end Commissioner

end Matter.Commissioning
