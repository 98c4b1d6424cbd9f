import Matter.Commissioning.Checks
import Matter.Commissioning.History

/-! The trails of a commissioning. The material a commissioner holds at a stage was
received, requested and checked in the events before; the trails name those
events, and their invariant says how far along them each stage is. -/
namespace Matter.Commissioning
open Codec Cert Exits Logs

namespace Event

def Accepts (e : Event) (expect : Expectation) (payload : Octets) : Prop :=
  e.call = .onResponse expect payload ∧ e.reply = .accepted

def Returns (e : Event) (action : Action) : Prop := e.call = .poll ∧ e.reply = .action action

def PaiReceived (pai : Octets) (e : Event) : Prop :=
  ∃ payload, e.Accepts .paiCertChainResponse payload ∧
    decodeCertificateChainResponse payload = .ok pai

def DacReceived (dac : Octets) (e : Event) : Prop :=
  ∃ payload, e.Accepts .dacCertChainResponse payload ∧
    decodeCertificateChainResponse payload = .ok dac

def AttestationRequested (nonce : Block 32) (e : Event) : Prop :=
  e.Returns (.invoke .pase 0 Commissioner.operationalCredentials 0x00
    (encodeAttestationRequest nonce) .attestationResponse)

def AttestationReceived (response : AttestationResponse) (e : Event) : Prop :=
  ∃ payload, e.Accepts .attestationResponse payload ∧
    decodeAttestationResponse payload = .ok response

/-- The poll ran the attestation verification on this material, and it passed. -/
structure AttestationVerified (host : Host) (cfg : CommissionerConfig) (pai dac : Octets)
    (nonce : Block 32) (response : AttestationResponse) (e : Event) : Prop where
  polled : e.call = .poll
  fresh : e.before.pendingAction = none
  stage : e.before.stage = .attestationVerification
  config : e.before.config = cfg
  paiDer : e.before.paiDer = some pai
  dacDer : e.before.dacDer = some dac
  attestationNonce : e.before.attestationNonce = some nonce
  attestationResponse : e.before.attestationResponse = some response
  passed : Commissioner.runAttestationVerification host e.before = .ok ()

def CsrRequested (nonce : Block 32) (e : Event) : Prop :=
  e.Returns (.invoke .pase 0 Commissioner.operationalCredentials 0x04
    (encodeCsrRequest nonce false) .csrResponse)

def CsrReceived (response : CsrResponse) (e : Event) : Prop :=
  ∃ payload, e.Accepts .csrResponse payload ∧ decodeCsrResponse payload = .ok response

/-- The poll ran the check of the signing request on this material, and it passed. -/
structure CsrChecked (host : Host) (cfg : CommissionerConfig) (dac : Octets) (nonce : Block 32)
    (response : CsrResponse) (verified : VerifiedCsr) (e : Event) : Prop where
  polled : e.call = .poll
  fresh : e.before.pendingAction = none
  stage : e.before.stage = .validateCsr
  config : e.before.config = cfg
  dacDer : e.before.dacDer = some dac
  csrNonce : e.before.csrNonce = some nonce
  csrResponse : e.before.csrResponse = some response
  passed : Commissioner.validatedCsr host e.before = .ok verified

def CaseEstablished (e : Event) : Prop := e.call = .onCaseEstablished ∧ e.reply = .accepted

def CompletionConfirmed (e : Event) : Prop :=
  ∃ payload text, e.Accepts .commissioningCompleteResponse payload ∧
    decodeCommissioningErrorResponse .sendComplete payload = .ok (0, text)

end Event

/-- The stages after the certificate is issued. -/
def Stage.credentialed : Stage → Bool
  | .sendTrustedRootCert | .sendNoc | .readNetworkCommissioningInfo | .networkSetup
  | .failsafeBeforeNetworkEnable | .networkEnable | .evictPreviousCaseSessions
  | .findOperationalForComplete | .sendComplete | .cleanup => true
  | _ => false

/-- The stages before the first certificate is received, and the failed one. -/
def Stage.blank : Stage → Bool
  | .securePairing | .readCommissioningInfo | .armFailsafe | .configRegulatory
  | .sendPaiCertRequest | .failed => true
  | _ => false

namespace Commissioner
open Event
variable {host : Host} {cfg : CommissionerConfig} {c next : Commissioner} {l : List Event}
  {e : Event} {action : Action}

/-- The events that lead to issuing a certificate, about the material `c` holds. -/
def attestationTrail (host : Host) (c : Commissioner) : List (Event → Prop) :=
  [fun e => ∃ pai, c.paiDer = some pai ∧ PaiReceived pai e,
   fun e => ∃ dac, c.dacDer = some dac ∧ DacReceived dac e,
   fun e => ∃ nonce, c.attestationNonce = some nonce ∧ AttestationRequested nonce e,
   fun e => ∃ response, c.attestationResponse = some response ∧ AttestationReceived response e,
   fun e => ∃ pai dac nonce response, c.paiDer = some pai ∧ c.dacDer = some dac ∧
      c.attestationNonce = some nonce ∧ c.attestationResponse = some response ∧
      AttestationVerified host c.config pai dac nonce response e,
   fun e => ∃ response, c.csrResponse = some response ∧ CsrReceived response e,
   fun e => ∃ dac nonce response verified, c.dacDer = some dac ∧ c.csrNonce = some nonce ∧
      c.csrResponse = some response ∧ c.verifiedCsr = some verified ∧
      CsrChecked host c.config dac nonce response verified e]

/-- The signing request is sent by the poll that verified the attestation or a
later one, so its events are a trail of their own. -/
def csrTrail (host : Host) (c : Commissioner) : List (Event → Prop) :=
  [fun e => ∃ nonce, c.csrNonce = some nonce ∧ CsrRequested nonce e,
   fun e => ∃ response, c.csrResponse = some response ∧ CsrReceived response e,
   fun e => ∃ dac nonce response verified, c.dacDer = some dac ∧ c.csrNonce = some nonce ∧
      c.csrResponse = some response ∧ c.verifiedCsr = some verified ∧
      CsrChecked host c.config dac nonce response verified e]

def operationalTrail : List (Event → Prop) := [CaseEstablished, CompletionConfirmed]

def attestationProgress (c : Commissioner) : Nat :=
  if c.stage.blank then 0
  else match c.stage with
    | .sendDacCertRequest => 1
    | .sendAttestationRequest => if c.awaiting = none then 2 else 3
    | .attestationVerification => 4
    | .sendOpCertSigningRequest => 5
    | .validateCsr => 6
    | _ => 7

def csrProgress (c : Commissioner) : Nat :=
  match c.stage with
  | .sendOpCertSigningRequest => if c.awaiting = none then 0 else 1
  | .validateCsr => 2
  | .generateNocChain => 3
  | stage => if stage.credentialed then 3 else 0

def operationalProgress (c : Commissioner) : Nat :=
  match c.stage with
  | .sendComplete => 1
  | .cleanup => 2
  | _ => 0

/-- The certificate held was issued for the request that was verified. -/
def Issued (c : Commissioner) : Prop :=
  ∃ verified noc, c.verifiedCsr = some verified ∧ c.issuedNoc = some noc ∧
    noc.publicKey = verified.publicKey ∧ c.issuedNocPublicKey = some verified.publicKey.block

structure Traced (host : Host) (cfg : CommissionerConfig) (l : List Event) (c : Commissioner) :
    Prop where
  config : c.config = cfg
  attestation : Along ((attestationTrail host c).take (attestationProgress c)) l
  csr : Along ((csrTrail host c).take (csrProgress c)) l
  operational : Along (operationalTrail.take (operationalProgress c)) l
  issued : c.stage.credentialed = true → Issued c

namespace Traced

theorem extend (traced : Traced host cfg l c) (more : List Event) :
    Traced host cfg (l ++ more) c where
  config := traced.config
  attestation := traced.attestation.extend more
  csr := traced.csr.extend more
  operational := traced.operational.extend more
  issued := traced.issued

/-- Before the certificate is issued there is nothing operational yet. -/
theorem early (config : c.config = cfg) (here : c.stage.credentialed = false)
    (attestation : Along ((attestationTrail host c).take (attestationProgress c)) l)
    (csr : Along ((csrTrail host c).take (csrProgress c)) l) : Traced host cfg l c where
  config := config
  attestation := attestation
  csr := csr
  operational := by
    have none : operationalProgress c = 0 := by
      unfold operationalProgress
      cases stage : c.stage <;> simp [stage, Stage.credentialed] at here ⊢
    rw [none]
    exact .nil
  issued credentialed := by simp [here] at credentialed

theorem blank (config : c.config = cfg) (blank : c.stage.blank = true) : Traced host cfg l c := by
  have uncredentialed : c.stage.credentialed = false := by
    cases stage : c.stage <;> simp [stage, Stage.blank, Stage.credentialed] at blank ⊢
  have unrequested : csrProgress c = 0 := by
    unfold csrProgress
    cases stage : c.stage <;> simp [stage, Stage.blank, Stage.credentialed] at blank ⊢
  refine early config uncredentialed ?_ ?_
  · rw [attestationProgress, if_pos blank]
    exact .nil
  · rw [unrequested]
    exact .nil

/-- A change that touches neither the stage, what is awaited nor the material. -/
theorem unchanged (traced : Traced host cfg l c) (config : next.config = c.config)
    (stage : next.stage = c.stage) (awaiting : next.awaiting = c.awaiting)
    (attestation : attestationTrail host next = attestationTrail host c)
    (csr : csrTrail host next = csrTrail host c) (issued : Issued c → Issued next) :
    Traced host cfg l next where
  config := config.trans traced.config
  attestation := by
    rw [attestation, attestationProgress, stage, awaiting]
    exact traced.attestation
  csr := by
    rw [csr, csrProgress, stage, awaiting]
    exact traced.csr
  operational := by
    rw [operationalProgress, stage]
    exact traced.operational
  issued credentialed := issued (traced.issued (stage ▸ credentialed))

theorem attestationProgress_of_credentialed (late : c.stage.credentialed = true) :
    attestationProgress c = 7 := by
  unfold attestationProgress
  cases stage : c.stage <;> simp [stage, Stage.blank, Stage.credentialed] at late ⊢

theorem csrProgress_of_credentialed (late : c.stage.credentialed = true) : csrProgress c = 3 := by
  unfold csrProgress
  cases stage : c.stage <;> simp [stage, Stage.credentialed] at late ⊢

/-- After the certificate is issued only the operational trail grows. -/
theorem late (traced : Traced host cfg l c) (here : c.stage.credentialed = true)
    (there : next.stage.credentialed = true) (config : next.config = c.config)
    (attestation : attestationTrail host next = attestationTrail host c)
    (csr : csrTrail host next = csrTrail host c) (issued : Issued c → Issued next)
    (operational : Along (operationalTrail.take (operationalProgress next)) l) :
    Traced host cfg l next where
  config := config.trans traced.config
  attestation := by
    rw [attestation, attestationProgress_of_credentialed there]
    exact attestationProgress_of_credentialed here ▸ traced.attestation
  csr := by
    rw [csr, csrProgress_of_credentialed there]
    exact csrProgress_of_credentialed here ▸ traced.csr
  operational := operational
  issued _ := issued (traced.issued here)

/-- The stages whose check or request is itself an event of a trail. -/
def Eventful (stage : Stage) : Prop :=
  stage = .sendAttestationRequest ∨ stage = .attestationVerification ∨ stage = .validateCsr

theorem attested (traced : Traced host cfg l c) (here : c.stage = .attestationVerification)
    (polled : e.call = .poll) (fresh : c.pendingAction = none) (before : e.before = c)
    (passed : runAttestationVerification host c = .ok ()) :
    Traced host cfg (l ++ [e]) (c.moved .sendOpCertSigningRequest) := by
  obtain ⟨pai, dac, nonce, response, hasPai, hasDac, hasNonce, hasResponse, _⟩ :=
    attested_of_ran passed
  have reached := traced.attestation
  simp only [attestationProgress, here] at reached
  subst before
  have verified : AttestationVerified host e.before.config pai dac nonce response e :=
    ⟨polled, fresh, here, rfl, hasPai, hasDac, hasNonce, hasResponse, passed⟩
  exact early traced.config rfl (reached.next rfl
    ⟨pai, dac, nonce, response, hasPai, hasDac, hasNonce, hasResponse, verified⟩) .nil

theorem validated (traced : Traced host cfg l c) (here : c.stage = .validateCsr)
    (polled : e.call = .poll) (fresh : c.pendingAction = none) (before : e.before = c)
    (passed : validatedCsr host c = .ok verified) :
    Traced host cfg (l ++ [e])
      ({ c with verifiedCsr := some verified }.moved .generateNocChain) := by
  obtain ⟨dac, nonce, response, hasDac, hasNonce, hasResponse, _⟩ := csrVerified_of_ran passed
  have reached := traced.attestation
  have requested := traced.csr
  simp only [attestationProgress, csrProgress, here] at reached requested
  subst before
  have checked : CsrChecked host e.before.config dac nonce response verified e :=
    ⟨polled, fresh, here, rfl, hasDac, hasNonce, hasResponse, passed⟩
  -- the trail up to the check does not mention the request it verifies
  let next := { e.before with verifiedCsr := some verified }.moved .generateNocChain
  have reached : Along ((attestationTrail host next).take 6) l := reached
  have requested : Along ((csrTrail host next).take 2) l := requested
  have last : ∃ dac nonce response verified, next.dacDer = some dac ∧
      next.csrNonce = some nonce ∧ next.csrResponse = some response ∧
      next.verifiedCsr = some verified ∧
      CsrChecked host next.config dac nonce response verified e :=
    ⟨dac, nonce, response, verified, hasDac, hasNonce, hasResponse, rfl, checked⟩
  exact early traced.config rfl (reached.next rfl last) (requested.next rfl last)

theorem generated {noc : MatterCertificate} {draws : Nat} (traced : Traced host cfg l c)
    (here : c.stage = .generateNocChain) (found : c.verifiedCsr = some verified)
    (issued : (issuing host c verified).run c.draws = .ok noc draws) :
    Traced host cfg l ({ c with
        draws := draws, issuedNocPublicKey := some verified.publicKey.block,
        issuedNoc := some noc }.moved .sendTrustedRootCert) := by
  have reached := traced.attestation
  have requested := traced.csr
  simp only [attestationProgress, csrProgress, here] at reached requested
  refine ⟨traced.config, reached, requested, .nil, fun _ => ?_⟩
  exact ⟨verified, noc, found, rfl, publicKey_of_issueNoc issued, rfl⟩

theorem hop (traced : Traced host cfg (l ++ [e]) c) (hop : Hop host c next)
    (first : Eventful c.stage → Traced host cfg l c ∧ e.before = c ∧ c.pendingAction = none)
    (polled : e.call = .poll) : Traced host cfg (l ++ [e]) next ∧ ¬ Eventful next.stage := by
  cases hop with
  | paired here => exact ⟨blank traced.config rfl, by simp [Eventful]⟩
  | attested here passed =>
    obtain ⟨earlier, before, fresh⟩ := first (.inr (.inl here))
    exact ⟨earlier.attested here polled fresh before passed, by simp [Eventful]⟩
  | validated here passed =>
    obtain ⟨earlier, before, fresh⟩ := first (.inr (.inr here))
    exact ⟨earlier.validated here polled fresh before passed, by simp [Eventful]⟩
  | generated here found issued =>
    exact ⟨traced.generated here found issued, by simp [Eventful]⟩
  | evicted here =>
    exact ⟨traced.late (by rw [here]; rfl) rfl rfl rfl rfl id .nil, by simp [Eventful]⟩

theorem requested {draws : Nat} (traced : Traced host cfg l c)
    (here : c.stage = .sendAttestationRequest) (sent : AttestationRequested nonce e) :
    Traced host cfg (l ++ [e]) { c with
      draws := draws, attestationNonce := some nonce, awaiting := some .attestationResponse,
      pendingAction := some action } := by
  have two : 2 ≤ attestationProgress c := by
    rw [attestationProgress, here]
    change 2 ≤ if c.awaiting = none then 2 else 3
    split <;> decide
  let next := { c with
    draws := draws, attestationNonce := some nonce, awaiting := some .attestationResponse,
    pendingAction := some action }
  have reached : Along ((attestationTrail host next).take 2) l :=
    traced.attestation.take_of_le two
  have three : attestationProgress next = 3 := by
    simp [attestationProgress, next, here, Stage.blank]
  have unrequested : csrProgress next = 0 := by
    simp [csrProgress, next, here, Stage.credentialed]
  refine early traced.config (by rw [here]; rfl) ?_ ?_
  · rw [three]
    exact reached.next rfl ⟨nonce, rfl, sent⟩
  · rw [unrequested]
    exact .nil

theorem csrRequested {draws : Nat} (traced : Traced host cfg (l ++ [e]) c)
    (here : c.stage = .sendOpCertSigningRequest) (sent : CsrRequested nonce e) :
    Traced host cfg (l ++ [e]) { c with
      draws := draws, csrNonce := some nonce, awaiting := some .csrResponse,
      pendingAction := some action } := by
  let next := { c with
    draws := draws, csrNonce := some nonce, awaiting := some .csrResponse,
    pendingAction := some action }
  have one : csrProgress next = 1 := by simp [csrProgress, next, here]
  have reached := traced.attestation
  refine early traced.config (by rw [here]; rfl) ?_ ?_
  · simp only [attestationProgress, here] at reached ⊢
    exact reached
  · rw [one]
    have none : Along ((csrTrail host next).take 0) l := .nil
    exact none.next rfl ⟨nonce, rfl, sent⟩

theorem emit (traced : Traced host cfg (l ++ [e]) c) (emits : Emits host c action next)
    (first : c.stage = .sendAttestationRequest → Traced host cfg l c)
    (returned : e.Returns action) :
    Traced host cfg (l ++ [e]) { next with pendingAction := some action } := by
  cases emits with
  | readCommissioningInfo here | armFailsafe here
  | configRegulatory here | sendPaiCertRequest here
  | failed here => exact blank traced.config (by rw [here]; rfl)
  | sendDacCertRequest here =>
    have reached := traced.attestation
    refine early traced.config (by rw [here]; rfl) ?_ ?_
    · simp only [attestationProgress, here] at reached ⊢
      exact reached
    · simp only [csrProgress, here]
      exact .nil
  | sendAttestationRequest here drawn => exact (first here).requested here returned
  | sendOpCertSigningRequest here drawn => exact traced.csrRequested here returned
  | _ here =>
    have late : c.stage.credentialed = true := by
      rw [here]
      rfl
    exact traced.late late late rfl rfl rfl id traced.operational

theorem stall (traced : Traced host cfg l c) (stalls : Stalls host c error next) :
    Traced host cfg l next := by
  cases stalls with
  | rejected here => exact blank traced.config rfl
  | _ => exact traced.unchanged rfl rfl rfl rfl rfl id

theorem dispatch (dispatch : Dispatch host c r) (traced : Traced host cfg (l ++ [e]) c)
    (first : Eventful c.stage → Traced host cfg l c ∧ e.before = c ∧ c.pendingAction = none)
    (polled : e.call = .poll)
    (replied : ∀ action next, r = .ok action next → e.reply = .action action) :
    Traced host cfg (l ++ [e]) (Commissioner.polled r) := by
  induction dispatch with
  | hop hop _ ih =>
    obtain ⟨traced, quiet⟩ := traced.hop hop first polled
    exact ih traced (fun eventful => absurd eventful quiet) replied
  | emit emits =>
    exact traced.emit emits (fun here => (first (.inl here)).1) ⟨polled, replied _ _ rfl⟩
  | stall stalls => exact traced.stall stalls

section Responses
variable {payload : Octets}

theorem paiReceived (config : c.config = cfg) (accepted : e.Accepts .paiCertChainResponse payload)
    (decoded : decodeCertificateChainResponse payload = .ok certificate) :
    Traced host cfg (l ++ [e])
      ({ c with paiDer := some certificate }.moved .sendDacCertRequest) := by
  let next := { c with paiDer := some certificate }.moved .sendDacCertRequest
  have none : Along ((attestationTrail host next).take 0) l := .nil
  exact early config rfl (none.next rfl ⟨certificate, rfl, payload, accepted, decoded⟩) .nil

section
variable (traced : Traced host cfg l c)
include traced

theorem dacReceived (here : c.stage = .sendDacCertRequest)
    (accepted : e.Accepts .dacCertChainResponse payload)
    (decoded : decodeCertificateChainResponse payload = .ok certificate) :
    Traced host cfg (l ++ [e])
      ({ c with dacDer := some certificate }.moved .sendAttestationRequest) := by
  let next := { c with dacDer := some certificate }.moved .sendAttestationRequest
  have reached := traced.attestation
  simp only [attestationProgress, here] at reached
  have reached : Along ((attestationTrail host next).take 1) l := reached
  exact early traced.config rfl
    (reached.next rfl ⟨certificate, rfl, payload, accepted, decoded⟩) .nil

theorem attestationReceived (here : c.stage = .sendAttestationRequest)
    (awaited : c.awaiting = some .attestationResponse)
    (accepted : e.Accepts .attestationResponse payload)
    (decoded : decodeAttestationResponse payload = .ok response) :
    Traced host cfg (l ++ [e])
      ({ c with attestationResponse := some response }.moved .attestationVerification) := by
  let next := { c with attestationResponse := some response }.moved .attestationVerification
  have reached := traced.attestation
  simp only [attestationProgress, here, awaited] at reached
  have reached : Along ((attestationTrail host next).take 3) l := reached
  exact early traced.config rfl
    (reached.next rfl ⟨response, rfl, payload, accepted, decoded⟩) .nil

theorem csrReceived (here : c.stage = .sendOpCertSigningRequest)
    (awaited : c.awaiting = some .csrResponse) (accepted : e.Accepts .csrResponse payload)
    (decoded : decodeCsrResponse payload = .ok response) :
    Traced host cfg (l ++ [e]) ({ c with csrResponse := some response }.moved .validateCsr) := by
  let next := { c with csrResponse := some response }.moved .validateCsr
  have reached := traced.attestation
  have requested := traced.csr
  simp only [attestationProgress, csrProgress, here, awaited] at reached requested
  have reached : Along ((attestationTrail host next).take 5) l := reached
  have requested : Along ((csrTrail host next).take 1) l := requested
  have received : ∃ response, next.csrResponse = some response ∧ CsrReceived response e :=
    ⟨response, rfl, payload, accepted, decoded⟩
  exact early traced.config rfl (reached.next rfl received) (requested.next rfl received)

theorem completed (here : c.stage = .sendComplete)
    (accepted : e.Accepts .commissioningCompleteResponse payload)
    (success : decodeCommissioningErrorResponse .sendComplete payload = .ok (0, text)) :
    Traced host cfg (l ++ [e]) (c.moved .cleanup) := by
  have reached := traced.operational
  simp only [operationalProgress, here] at reached
  exact (traced.extend [e]).late (by rw [here]; rfl) rfl rfl rfl rfl id
    (reached.next rfl ⟨payload, text, accepted, success⟩)

theorem handled (coherent : Coherent host c) (awaited : c.awaiting = some expect)
    (handled : Handled c payload expect next) (accepted : e.Accepts expect payload) :
    Traced host cfg (l ++ [e]) next := by
  have asked := coherent.askedAt awaited
  have late {stage : Stage} (here : c.stage.credentialed = true)
      (there : stage.credentialed = true) (before : operationalProgress (c.moved stage) = 0) :
      Traced host cfg (l ++ [e]) (c.moved stage) := by
    refine (traced.extend [e]).late here there rfl rfl rfl id ?_
    rw [before]
    exact .nil
  cases handled with
  | commissioningInfo | armed | regulatory => exact blank traced.config rfl
  | pai decoded => exact paiReceived traced.config accepted decoded
  | dac decoded => exact traced.dacReceived asked accepted decoded
  | attestation decoded => exact traced.attestationReceived asked awaited accepted decoded
  | csr decoded => exact traced.csrReceived asked awaited accepted decoded
  | completed success => exact traced.completed asked accepted success
  | rearmed here => exact late (by rw [here]; rfl) rfl rfl
  | _ => exact late (by rw [show c.stage = _ from asked]; rfl) rfl rfl

end

end Responses

theorem performed {call : Call} {reply : Reply} (traced : Traced host cfg l c)
    (coherent : Coherent host c) (performed : Performed host c call reply next) :
    Traced host cfg (l ++ [⟨c, call, reply⟩]) next := by
  have extended := traced.extend [⟨c, call, reply⟩]
  cases performed with
  | repeated => exact extended
  | acts fresh dispatch =>
    refine Traced.dispatch dispatch extended (fun _ => ⟨traced, rfl, fresh⟩) rfl ?_
    intro _ _ same
    cases same
    rfl
  | stalls fresh dispatch =>
    refine Traced.dispatch dispatch extended (fun _ => ⟨traced, rfl, fresh⟩) rfl ?_
    intro _ _ same
    cases same
  | takes awaited handled => exact traced.handled coherent awaited handled ⟨rfl, rfl⟩
  | rejects | caseFails => exact blank traced.config rfl
  | unawaited | unexpected => exact extended
  | caseEstablishes awaited =>
    have here := coherent.caseAwaited awaited
    have none : Along (operationalTrail.take 0) l := .nil
    exact extended.late (by rw [here]; rfl) rfl rfl rfl rfl id (none.next rfl ⟨rfl, rfl⟩)
  | times => exact extended.unchanged rfl rfl rfl rfl rfl id

end Traced

theorem traced_after (built : new cfg = .ok c) (calls : List Call) :
    Traced host cfg (c.history host calls) (c.after host calls) ∧
      Coherent host (c.after host calls) := by
  refine Logs.invariant (P := fun l c => Traced host cfg l c ∧ Coherent host c) ?_ ?_ calls
  · rintro l c call ⟨traced, coherent⟩
    have performed := Commissioner.performed host c call
    exact ⟨traced.performed coherent performed, coherent.performed performed⟩
  · refine ⟨?_, coherent_of_new built⟩
    rw [eq_of_new built]
    exact .blank rfl rfl

end Commissioner

end Matter.Commissioning
