import Matter.Commissioning.Ordering

/-! What an error of `poll` or `on_response` does to the run. -/
namespace Matter.Commissioning
open Codec Cert TestDevice
namespace Commissioner
variable {host : Host} {cfg : CommissionerConfig} {c next : Commissioner} {e : CommissioningError}

/-- The run has failed with `e`: the next poll aborts with its rendering. -/
structure RunFailed (host : Host) (c : Commissioner) (e : CommissioningError) : Prop where
  stage : c.stage = .failed
  aborts : (c.event host .poll).reply = .action (.abort true (e.render host.tables))

/-- An error fails the run, except for a response that was not waited for. -/
structure FailureContract (host : Host) (c : Commissioner) : Prop where
  poll : ∀ e, (c.event host .poll).reply = .refused e → RunFailed host (c.step host .poll) e
  onResponse : ∀ expect payload e,
    (c.event host (.onResponse expect payload)).reply = .refused e →
    (∀ stage, e ≠ .outOfOrderResponse stage) →
    (∀ awaiting got, e ≠ .unexpectedResponseKind awaiting got) →
    RunFailed host (c.step host (.onResponse expect payload)) e

def RngAnswers (host : Host) (c : Commissioner) : Prop := ∃ nonce, host.fill c.draws 32 = .ok nonce

def RootEncodes (c : Commissioner) : Prop := ∃ tlv, certTlv c.config.fabric.rootCert = .ok tlv

/-- The certificate can be issued and sent with its root. -/
def Issues (host : Host) (c : Commissioner) (verified : VerifiedCsr) : Prop :=
  (∃ noc draws, (issuing host c verified).run c.draws = .ok noc draws) ∧ RootEncodes c

/-- Nothing fails at the stage but a verification of the attestation. -/
def Steady (host : Host) (c : Commissioner) : Prop :=
  match c.stage with
  | .sendAttestationRequest | .sendOpCertSigningRequest => RngAnswers host c
  | .attestationVerification =>
    runAttestationVerification host c = .ok () → RngAnswers host c
  | .validateCsr => ∃ verified, validatedCsr host c = .ok verified ∧ Issues host c verified
  | .generateNocChain => ∃ verified, c.verifiedCsr = some verified ∧ Issues host c verified
  | .sendTrustedRootCert => RootEncodes c
  | .sendNoc => ∃ payload, addNocPayload c = .ok payload
  | _ => True

/-- The stages that cannot do without a field have it. -/
structure Equipped (c : Commissioner) : Prop where
  network : c.stage.network → c.config.network ≠ .alreadyOnNetwork
  publicKey : c.stage = .cleanup → c.issuedNocPublicKey ≠ none

theorem equipped_of_invariants (coherent : Coherent host c) (traced : Traced host cfg l c) :
    Equipped c where
  network := coherent.network
  publicKey here := by
    obtain ⟨_, _, _, _, _, key⟩ := traced.issued (by rw [here]; rfl)
    simp [key]

theorem steady_of_hop (hop : Hop host c next) :
    (Steady host c ↔ Steady host next) ∧ Equipped next := by
  cases hop with
  | paired here | evicted here =>
    exact ⟨by simp [Steady, here], by simp [Stage.network], by simp⟩
  | attested here passed =>
    exact ⟨by simp [Steady, here, passed, RngAnswers, moved], by simp [Stage.network], by simp⟩
  | validated here passed =>
    exact ⟨by simp [Steady, here, passed, Issues, RootEncodes, issuing, moved],
      by simp [Stage.network], by simp⟩
  | generated here found issued =>
    exact ⟨by simp [Steady, here, found, Issues, issued, RootEncodes, moved],
      by simp [Stage.network], by simp⟩

theorem steady_of_emits (emits : Emits host c action next) : Steady host c := by
  cases emits with
  | sendAttestationRequest here drawn
  | sendOpCertSigningRequest here drawn => simp [Steady, here, RngAnswers, drawn]
  | sendTrustedRootCert here written => simp [Steady, here, RootEncodes, written]
  | sendNoc here written => simp [Steady, here, written]
  | _ here => simp [Steady, here]

theorem steady_iff_of_stalls (equipped : Equipped c) (stalls : Stalls host c e next) :
    Steady host c ↔ next.stage = .failed := by
  cases stalls with
  | rejected here verified => simp [Steady, here, verified, failing]
  | rng here drawn =>
    rcases here with here | here <;> simp [Steady, here, RngAnswers, drawn]
  | csr here checked | unverified here checked => simp [Steady, here, checked]
  | issuance here found issued => simp [Steady, here, found, Issues, issued]
  | root here written => simp [Steady, here, RootEncodes, written]
  | noc here written => simp [Steady, here, written]
  | network here network =>
    exact absurd network (equipped.network (here.imp_right .inr))
  | cleanup here missing => exact absurd missing (equipped.publicKey here)

/-- An error of a steady stage is the one that fails the run. -/
theorem steady_iff_of_dispatch (dispatch : Dispatch host c r) (equipped : Equipped c) :
    Steady host c ↔ ∀ e next, r = .error e next → next.stage = .failed := by
  induction dispatch with
  | hop hop _ ih =>
    obtain ⟨same, equipped⟩ := steady_of_hop hop
    exact same.trans (ih equipped)
  | emit emits =>
    refine iff_of_true (steady_of_emits emits) ?_
    intro _ _ error
    cases error
  | stall stalls =>
    rw [steady_iff_of_stalls equipped stalls]
    constructor
    · intro failed _ _ error
      cases error
      exact failed
    · intro failed
      exact failed _ _ rfl

theorem lastFailure_of_dispatch (dispatch : Dispatch host c r) (error : r = .error e next)
    (failed : next.stage = .failed) : next.lastFailure = some (e.render host.tables) := by
  induction dispatch with
  | hop _ _ ih => exact ih error
  | emit => cases error
  | stall stalls =>
    cases error
    cases stalls with
    | rejected => rfl
    | _ => simp_all

theorem runFailed_of_lastFailure (coherent : Coherent host c) (failed : c.stage = .failed)
    (reason : c.lastFailure = some (e.render host.tables)) : RunFailed host c e := by
  obtain ⟨next, aborts, _⟩ := poll_failed coherent failed
  refine ⟨failed, ?_⟩
  rw [reason] at aborts
  simp only [event, perform, aborts]
  rfl

theorem poll_refused (refused : (c.event host .poll).reply = .refused e) :
    c.pendingAction = none ∧ Dispatch host c (.error e (c.step host .poll)) := by
  have performed := performed host c .poll
  rw [refused] at performed
  generalize c.step host .poll = next at performed ⊢
  cases performed with
  | stalls fresh dispatch => exact ⟨fresh, dispatch⟩
  | unawaited response | unexpected response => exact absurd rfl response

theorem refused_of_dispatch (fresh : c.pendingAction = none)
    (dispatch : (dispatchStage host).run c = .error e next) :
    (c.event host .poll).reply = .refused e ∧ c.step host .poll = next := by
  simp only [event, step, perform, poll_run_fresh fresh, dispatch]
  exact ⟨rfl, rfl⟩

theorem runFailed_of_failing (noCase : c.awaitingCaseSession = false) :
    RunFailed host (c.failing host e) e :=
  runFailed_of_lastFailure (.failing noCase) rfl rfl

/-- A rejected response always fails the run. -/
theorem runFailed_of_response (coherent : Coherent host c)
    (refused : (c.event host (.onResponse expect payload)).reply = .refused e)
    (ordered : ∀ stage, e ≠ .outOfOrderResponse stage)
    (expected : ∀ awaiting got, e ≠ .unexpectedResponseKind awaiting got) :
    RunFailed host (c.step host (.onResponse expect payload)) e := by
  have performed := performed host c (.onResponse expect payload)
  rw [refused] at performed
  generalize c.step host (.onResponse expect payload) = next at performed ⊢
  cases performed with
  | rejects awaited => exact runFailed_of_failing (coherent.noCase_of_awaited awaited)
  | caseFails => exact runFailed_of_failing rfl
  | unawaited => exact absurd rfl (ordered _)
  | unexpected => exact absurd rfl (expected _ _)

/-- In every state a run reaches: an error fails the run precisely if no other
step of the stage can fail than the attestation verification. -/
theorem failed_poll_fails_run (host : Host) (built : Commissioner.new cfg = .ok c)
    (calls : List Call) :
    FailureContract host (c.after host calls) ↔
      ((c.after host calls).pendingAction = none → Steady host (c.after host calls)) := by
  obtain ⟨traced, coherent⟩ := traced_after built calls
  generalize c.after host calls = c at traced coherent
  have equipped := equipped_of_invariants coherent traced
  constructor
  · intro contract fresh
    have dispatches : Dispatch host c ((dispatchStage host).run c) := dispatch_cases c
    rw [steady_iff_of_dispatch dispatches equipped]
    intro e next dispatch
    obtain ⟨refused, rfl⟩ := refused_of_dispatch fresh dispatch
    exact (contract.poll e refused).stage
  · intro steady
    refine ⟨?_, fun _ _ _ => runFailed_of_response coherent⟩
    intro e refused
    obtain ⟨fresh, dispatch⟩ := poll_refused refused
    have failed := (steady_iff_of_dispatch dispatch equipped).mp (steady fresh) e _ rfl
    exact runFailed_of_lastFailure (coherent.performed (performed host c .poll)) failed
      (lastFailure_of_dispatch dispatch rfl failed)

/-- The contract holds when the attestation of the device is to be verified. -/
theorem test_device_failure_contract :
    FailureContract TestDevice.host
      ((commissioner 0xfff1 0x8000).after TestDevice.host attestation) := by
  have here : ((commissioner 0xfff1 0x8000).after TestDevice.host
      attestation).stage = .attestationVerification := by decide +kernel
  have exactly := failed_poll_fails_run TestDevice.host
    (new_commissioner 0xfff1 0x8000) attestation
  rw [exactly]
  intro _
  rw [Steady, here]
  exact fun _ => ⟨_, rfl⟩

/-- A signing request with another nonce than the one sent: the poll returns the
error, stays where it is, and the next poll returns the error again. -/
theorem nonce_mismatch_repeats :
    let calls := TestDevice.csrResponse (.fill 32 0x03) (by decide)
    let c := (commissioner 0xfff1 0x8000).after TestDevice.host calls
    Commissioner.new (TestDevice.config 0xfff1 0x8000) = .ok (commissioner 0xfff1 0x8000) ∧
    (c.event TestDevice.host .poll).reply = .refused (.noc .nonceMismatch) ∧
    (c.step TestDevice.host .poll).stage = .validateCsr ∧
    ((c.step TestDevice.host .poll).event TestDevice.host .poll).reply =
      .refused (.noc .nonceMismatch) := by
  refine ⟨new_commissioner _ _, ?_⟩
  decide +kernel

end Commissioner

end Matter.Commissioning
