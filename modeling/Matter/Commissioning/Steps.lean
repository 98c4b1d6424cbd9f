import Matter.Base.Exits
import Matter.Base.Logs
import Matter.Commissioning.Commissioner

/-! What a call can do to a commissioner: the result of every arm of
`dispatch_stage`, and the ways a response is taken. The invariants of later
modules are derived from these. -/
namespace Matter.Commissioning
open Codec Cert Exits NetworkCommissioning EStateM

section Results
variable {ε α : Type}

theorem ensure_ok [Decidable p] : ensure p e = .ok u ↔ p := by
  unfold ensure
  split <;> simp_all

theorem orError_ok : orError e o = .ok a ↔ o = some a := by
  cases o <;> simp [orError]

end Results

namespace Commissioner
variable {host : Host} {c : Commissioner}

section
variable (next : Stage)

@[simp] theorem moved_stage : (c.moved next).stage = next := rfl
@[simp] theorem moved_awaiting : (c.moved next).awaiting = none := rfl
@[simp] theorem moved_pendingAction : (c.moved next).pendingAction = none := rfl
@[simp] theorem moved_config : (c.moved next).config = c.config := rfl
@[simp] theorem moved_awaitingCaseSession :
    (c.moved next).awaitingCaseSession = c.awaitingCaseSession := rfl

end

theorem settled_run (result : Except CommissioningError α) :
    (settled result).run c = match result with
      | .ok a => .ok a c
      | .error e => .error e c := rfl

theorem drawing_run (m : RngM α) : (drawing m).run c = match m.run c.draws with
    | .ok a draws => .ok a { c with draws := draws }
    | .error e draws => .error (.noc e) { c with draws := draws } := rfl

theorem nextBreadcrumb_run : nextBreadcrumb.run c =
    .ok c.breadcrumbCounter
      { c with breadcrumbCounter := saturatingSucc c.breadcrumbCounter } := rfl

theorem fill_run (n draws : Nat) : (fill host n).run draws = match host.fill draws n with
    | .ok block => .ok block (draws + 1)
    | .error e => .error e (draws + 1) := rfl

def issuing (host : Host) (c : Commissioner) (verified : VerifiedCsr) : RngM MatterCertificate :=
  issueNoc host c.config.fabric verified c.config.assignedNodeId [] c.config.now .noExpiry

theorem poll_run_cached (cached : c.pendingAction = some action) :
    (poll host).run c = .ok action c := by
  simp only [poll, run_bind, run_get, cached]
  rfl

theorem poll_run_fresh (fresh : c.pendingAction = none) : (poll host).run c =
    match (dispatchStage host).run c with
    | .ok action next => .ok action { next with pendingAction := some action }
    | .error e next => .error e next := by
  simp only [poll, run_bind, run_get, fresh]
  cases (dispatchStage host).run c <;> rfl

def failing (host : Host) (c : Commissioner) (error : CommissioningError) : Commissioner :=
  { c.moved .failed with lastFailure := some (error.render host.tables) }

/-- A stage that is done inside `poll`. -/
inductive Hop (host : Host) (c : Commissioner) : Commissioner → Prop
  | paired (here : c.stage = .securePairing) : Hop host c { c with stage := .readCommissioningInfo }
  | attested (here : c.stage = .attestationVerification)
      (verified : runAttestationVerification host c = .ok ()) :
      Hop host c (c.moved .sendOpCertSigningRequest)
  | validated (here : c.stage = .validateCsr)
      (checked : validatedCsr host c = .ok verified) :
      Hop host c ({ c with verifiedCsr := some verified }.moved .generateNocChain)
  | generated {noc : MatterCertificate} {draws : Nat}
      (here : c.stage = .generateNocChain) (found : c.verifiedCsr = some verified)
      (issued : (issuing host c verified).run c.draws = .ok noc draws) :
      Hop host c ({ c with
        draws := draws, issuedNocPublicKey := some verified.publicKey.block,
        issuedNoc := some noc }.moved .sendTrustedRootCert)
  | evicted (here : c.stage = .evictPreviousCaseSessions) :
      Hop host c (c.moved .findOperationalForComplete)

inductive Emits (host : Host) (c : Commissioner) : Action → Commissioner → Prop
  | readCommissioningInfo (here : c.stage = .readCommissioningInfo) :
      Emits host c (.readAttribute .pase 0 GeneralCommissioning.clusterId
        [0x0000, 0x0001, 0x0002, 0x0004] .commissioningInfo)
        { c with awaiting := some .commissioningInfo }
  | armFailsafe (here : c.stage = .armFailsafe) :
      Emits host c (.invoke .pase 0 GeneralCommissioning.clusterId GeneralCommissioning.armFailSafe
        (GeneralCommissioning.encodeArmFailSafe c.failsafeExpirySeconds c.breadcrumbCounter)
        .armFailsafeResponse)
        { c with breadcrumbCounter := saturatingSucc c.breadcrumbCounter,
                 awaiting := some .armFailsafeResponse }
  | failsafeBeforeNetworkEnable (here : c.stage = .failsafeBeforeNetworkEnable) :
      Emits host c (.invoke .pase 0 GeneralCommissioning.clusterId GeneralCommissioning.armFailSafe
        (GeneralCommissioning.encodeArmFailSafe c.networkEnableFailsafeSeconds c.breadcrumbCounter)
        .armFailsafeResponse)
        { c with breadcrumbCounter := saturatingSucc c.breadcrumbCounter,
                 awaiting := some .armFailsafeResponse }
  | configRegulatory (here : c.stage = .configRegulatory) :
      Emits host c (.invoke .pase 0 GeneralCommissioning.clusterId
        GeneralCommissioning.setRegulatoryConfig
        (GeneralCommissioning.encodeSetRegulatoryConfig .indoor countryCode c.breadcrumbCounter)
        .setRegulatoryConfigResponse)
        { c with breadcrumbCounter := saturatingSucc c.breadcrumbCounter,
                 awaiting := some .setRegulatoryConfigResponse }
  | sendPaiCertRequest (here : c.stage = .sendPaiCertRequest) :
      Emits host c (.invoke .pase 0 operationalCredentials 0x02
        (encodeCertificateChainRequest .pai) .paiCertChainResponse)
        { c with awaiting := some .paiCertChainResponse }
  | sendDacCertRequest (here : c.stage = .sendDacCertRequest) :
      Emits host c (.invoke .pase 0 operationalCredentials 0x02
        (encodeCertificateChainRequest .dac) .dacCertChainResponse)
        { c with awaiting := some .dacCertChainResponse }
  | sendAttestationRequest (here : c.stage = .sendAttestationRequest)
      (drawn : host.fill c.draws 32 = .ok nonce) :
      Emits host c (.invoke .pase 0 operationalCredentials 0x00
        (encodeAttestationRequest nonce) .attestationResponse)
        { c with draws := c.draws + 1, attestationNonce := some nonce,
                 awaiting := some .attestationResponse }
  | sendOpCertSigningRequest (here : c.stage = .sendOpCertSigningRequest)
      (drawn : host.fill c.draws 32 = .ok nonce) :
      Emits host c (.invoke .pase 0 operationalCredentials 0x04
        (encodeCsrRequest nonce false) .csrResponse)
        { c with draws := c.draws + 1, csrNonce := some nonce, awaiting := some .csrResponse }
  | sendTrustedRootCert (here : c.stage = .sendTrustedRootCert)
      (written : certTlv c.config.fabric.rootCert = .ok rcacTlv) :
      Emits host c (.invoke .pase 0 operationalCredentials 0x0b (encodeAddTrustedRoot rcacTlv)
        .addTrustedRootResponse)
        { c with awaiting := some .addTrustedRootResponse }
  | sendNoc (here : c.stage = .sendNoc)
      (written : addNocPayload c = .ok payload) :
      Emits host c (.invoke .pase 0 operationalCredentials 0x06 payload .nocResponse)
        { c with awaiting := some .nocResponse }
  | readNetworkCommissioningInfo (here : c.stage = .readNetworkCommissioningInfo) :
      Emits host c (.readAttribute .pase 0 NetworkCommissioning.clusterId
        [NetworkCommissioning.featureMap, NetworkCommissioning.connectMaxTimeSeconds]
        .networkCommissioningInfo)
        { c with awaiting := some .networkCommissioningInfo }
  | addWifi (here : c.stage = .networkSetup)
      (network : c.config.network = .wiFi credentials) :
      Emits host c (.invoke .pase 0 NetworkCommissioning.clusterId
        NetworkCommissioning.addOrUpdateWifiNetwork
        (NetworkCommissioning.encodeAddOrUpdateWifiNetwork credentials.ssid
          credentials.credentials c.breadcrumbCounter) .networkConfigResponse)
        { c with breadcrumbCounter := saturatingSucc c.breadcrumbCounter,
                 awaiting := some .networkConfigResponse }
  | addThread (here : c.stage = .networkSetup)
      (network : c.config.network = .thread dataset) :
      Emits host c (.invoke .pase 0 NetworkCommissioning.clusterId
        NetworkCommissioning.addOrUpdateThreadNetwork
        (NetworkCommissioning.encodeAddOrUpdateThreadNetwork dataset.bytes c.breadcrumbCounter)
        .networkConfigResponse)
        { c with breadcrumbCounter := saturatingSucc c.breadcrumbCounter,
                 awaiting := some .networkConfigResponse }
  | networkEnable {id : Bytes} (here : c.stage = .networkEnable)
      (network : networkId c.config.network = some id) :
      Emits host c (.invoke .pase 0 NetworkCommissioning.clusterId
        NetworkCommissioning.connectNetwork
        (NetworkCommissioning.encodeConnectNetwork id c.breadcrumbCounter)
        .connectNetworkResponse)
        { c with breadcrumbCounter := saturatingSucc c.breadcrumbCounter,
                 awaiting := some .connectNetworkResponse }
  | findOperationalForComplete (here : c.stage = .findOperationalForComplete) :
      Emits host c (.establishCase c.config.fabric.fabricId c.config.assignedNodeId)
        { c with awaitingCaseSession := true }
  | sendComplete (here : c.stage = .sendComplete) :
      Emits host c (.invoke .caseSession 0 GeneralCommissioning.clusterId
        GeneralCommissioning.commissioningComplete GeneralCommissioning.encodeCommissioningComplete
        .commissioningCompleteResponse)
        { c with awaiting := some .commissioningCompleteResponse }
  | cleanup (here : c.stage = .cleanup)
      (found : c.issuedNocPublicKey = some publicKey) :
      Emits host c (.done ⟨c.config.fabric, c.config.assignedNodeId, publicKey, .cleanup⟩) c
  | failed (here : c.stage = .failed) :
      Emits host c (.abort true (c.lastFailure.getD "commissioning aborted"))
        { c with awaiting := none }

inductive Stalls (host : Host) (c : Commissioner) : CommissioningError → Commissioner → Prop
  | rejected (here : c.stage = .attestationVerification)
      (verified : runAttestationVerification host c = .error e) :
      Stalls host c e (c.failing host e)
  | rng (here : c.stage = .sendAttestationRequest ∨ c.stage = .sendOpCertSigningRequest)
      (drawn : host.fill c.draws 32 = .error e) :
      Stalls host c (.noc e) { c with draws := c.draws + 1 }
  | csr (here : c.stage = .validateCsr)
      (checked : validatedCsr host c = .error e) : Stalls host c e c
  | unverified (here : c.stage = .generateNocChain) (missing : c.verifiedCsr = none) :
      Stalls host c (.outOfOrderResponse c.stage) c
  | issuance {draws : Nat}
      (here : c.stage = .generateNocChain) (found : c.verifiedCsr = some verified)
      (issued : (issuing host c verified).run c.draws = .error e draws) :
      Stalls host c (.noc e) { c with draws := draws }
  | root (here : c.stage = .sendTrustedRootCert)
      (written : certTlv c.config.fabric.rootCert = .error e) : Stalls host c e c
  | noc (here : c.stage = .sendNoc)
      (written : addNocPayload c = .error e) : Stalls host c e c
  | network (here : c.stage = .networkSetup ∨ c.stage = .networkEnable)
      (network : c.config.network = .alreadyOnNetwork) :
      Stalls host c (.outOfOrderResponse c.stage)
        { c with breadcrumbCounter := saturatingSucc c.breadcrumbCounter }
  | cleanup (here : c.stage = .cleanup) (missing : c.issuedNocPublicKey = none) :
      Stalls host c (.outOfOrderResponse c.stage) c

/-- The ways `dispatch_stage` runs: through the stages it does itself, to one
that asks for work or returns an error. -/
inductive Dispatch (host : Host) :
    Commissioner → EStateM.Result CommissioningError Commissioner Action → Prop
  | hop {c next : Commissioner}
      (hop : Hop host c next) (rest : Dispatch host next r) : Dispatch host c r
  | emit {c next : Commissioner} (emits : Emits host c action next) :
      Dispatch host c (.ok action next)
  | stall {c next : Commissioner} (stalls : Stalls host c e next) :
      Dispatch host c (.error e next)

theorem dispatch_sendTrustedRootCert (here : c.stage = .sendTrustedRootCert) :
    Dispatch host c (sendTrustedRootCert.run c) := by
  simp only [sendTrustedRootCert, run_bind, run_get, settled_run]
  cases written : certTlv c.config.fabric.rootCert with
  | ok rcacTlv => exact .emit (.sendTrustedRootCert here written)
  | error e => exact .stall (.root here written)

theorem dispatch_generateNocChain (here : c.stage = .generateNocChain) :
    Dispatch host c ((generateNocChain host).run c) := by
  simp only [generateNocChain, runGenerateNocChain, run_bind, run_get, settled_run, drawing_run]
  cases found : c.verifiedCsr with
  | none => exact .stall (.unverified here found)
  | some verified =>
    simp only [orError]
    rw [← issuing]
    cases issued : (issuing host c verified).run c.draws with
    | ok noc draws => exact .hop (.generated here found issued) (dispatch_sendTrustedRootCert rfl)
    | error e draws => exact .stall (.issuance here found issued)

theorem dispatch_sendOpCertSigningRequest (here : c.stage = .sendOpCertSigningRequest) :
    Dispatch host c ((sendOpCertSigningRequest host).run c) := by
  simp only [sendOpCertSigningRequest, run_bind, drawing_run, fill_run]
  cases drawn : host.fill c.draws 32 with
  | ok nonce => exact .emit (.sendOpCertSigningRequest here drawn)
  | error e => exact .stall (.rng (.inr here) drawn)

theorem dispatch_networkSetup (here : c.stage = .networkSetup) :
    Dispatch host c (networkSetup.run c) := by
  simp only [networkSetup, run_bind, run_get, nextBreadcrumb_run]
  cases network : c.config.network with
  | wiFi credentials => exact .emit (.addWifi here network)
  | thread dataset => exact .emit (.addThread here network)
  | alreadyOnNetwork => exact .stall (.network (.inl here) network)

theorem dispatch_networkEnable (here : c.stage = .networkEnable) :
    Dispatch host c (networkEnable.run c) := by
  simp only [networkEnable, run_bind, run_get, nextBreadcrumb_run, settled_run]
  cases network : c.config.network with
  | wiFi credentials | thread dataset => exact .emit (.networkEnable here (by rw [network]; rfl))
  | alreadyOnNetwork => exact .stall (.network (.inr here) network)

theorem dispatch_armFailsafeAction
    (here : c.stage = .armFailsafe ∨ c.stage = .failsafeBeforeNetworkEnable) :
    Dispatch host c (armFailsafeAction.run c) := by
  simp only [armFailsafeAction, run_bind, run_get, nextBreadcrumb_run]
  rcases here with here | here
  · rw [if_neg (by simp [here])]
    exact .emit (.armFailsafe here)
  · rw [if_pos here]
    exact .emit (.failsafeBeforeNetworkEnable here)

theorem dispatch_cases (c : Commissioner) : Dispatch host c ((dispatchStage host).run c) := by
  cases here : c.stage <;>
    simp [dispatchStage, run_bind, run_get, here]
  case securePairing => exact .hop (.paired here) (.emit (.readCommissioningInfo rfl))
  case readCommissioningInfo => exact .emit (.readCommissioningInfo here)
  case armFailsafe => exact dispatch_armFailsafeAction (.inl here)
  case failsafeBeforeNetworkEnable => exact dispatch_armFailsafeAction (.inr here)
  case configRegulatory => exact .emit (.configRegulatory here)
  case sendPaiCertRequest => exact .emit (.sendPaiCertRequest here)
  case sendDacCertRequest => exact .emit (.sendDacCertRequest here)
  case sendAttestationRequest =>
    simp only [sendAttestationRequest, run_bind, drawing_run, fill_run]
    cases drawn : host.fill c.draws 32 with
    | ok nonce => exact .emit (.sendAttestationRequest here drawn)
    | error e => exact .stall (.rng (.inl here) drawn)
  case attestationVerification =>
    simp only [attestationVerification, run_bind, run_get]
    cases verified : runAttestationVerification host c with
    | ok _ => exact .hop (.attested here verified) (dispatch_sendOpCertSigningRequest rfl)
    | error e => exact .stall (.rejected here verified)
  case sendOpCertSigningRequest => exact dispatch_sendOpCertSigningRequest here
  case validateCsr =>
    simp only [validateCsr, runValidateCsr, run_bind, run_get, settled_run]
    cases checked : validatedCsr host c with
    | ok verified => exact .hop (.validated here checked) (dispatch_generateNocChain rfl)
    | error e => exact .stall (.csr here checked)
  case generateNocChain => exact dispatch_generateNocChain here
  case sendTrustedRootCert => exact dispatch_sendTrustedRootCert here
  case sendNoc =>
    simp only [sendNoc, run_bind, run_get, settled_run]
    cases written : addNocPayload c with
    | ok payload => exact .emit (.sendNoc here written)
    | error e => exact .stall (.noc here written)
  case readNetworkCommissioningInfo => exact .emit (.readNetworkCommissioningInfo here)
  case networkSetup => exact dispatch_networkSetup here
  case networkEnable => exact dispatch_networkEnable here
  case evictPreviousCaseSessions =>
    exact .hop (.evicted here) (.emit (.findOperationalForComplete rfl))
  case findOperationalForComplete => exact .emit (.findOperationalForComplete here)
  case sendComplete => exact .emit (.sendComplete here)
  case cleanup =>
    simp only [cleanup, run_bind, run_get, settled_run]
    cases found : c.issuedNocPublicKey with
    | some publicKey => exact .emit (.cleanup here found)
    | none => exact .stall (.cleanup here found)
  case failed => exact .emit (.failed here)

/-- What a response that is taken leaves. -/
inductive Handled (c : Commissioner) (payload : Octets) : Expectation → Commissioner → Prop
  | commissioningInfo (seconds : UInt16) (wellFormed : assertTlvWellFormed c.stage payload = .ok ()) :
      Handled c payload .commissioningInfo
        ({ c with failsafeExpirySeconds := seconds }.moved .armFailsafe)
  | armed (here : c.stage = .armFailsafe) :
      Handled c payload .armFailsafeResponse (c.moved .configRegulatory)
  | rearmed (here : c.stage = .failsafeBeforeNetworkEnable) :
      Handled c payload .armFailsafeResponse (c.moved .networkEnable)
  | regulatory : Handled c payload .setRegulatoryConfigResponse (c.moved .sendPaiCertRequest)
  | pai (decoded : decodeCertificateChainResponse payload = .ok certificate) :
      Handled c payload .paiCertChainResponse
        ({ c with paiDer := some certificate }.moved .sendDacCertRequest)
  | dac (decoded : decodeCertificateChainResponse payload = .ok certificate) :
      Handled c payload .dacCertChainResponse
        ({ c with dacDer := some certificate }.moved .sendAttestationRequest)
  | attestation (decoded : decodeAttestationResponse payload = .ok response) :
      Handled c payload .attestationResponse
        ({ c with attestationResponse := some response }.moved .attestationVerification)
  | csr (decoded : decodeCsrResponse payload = .ok response) :
      Handled c payload .csrResponse ({ c with csrResponse := some response }.moved .validateCsr)
  | rootAdded (success : payload.bytes.head? = some 0) :
      Handled c payload .addTrustedRootResponse (c.moved .sendNoc)
  | nocAdded (decoded : decodeNocResponse payload = .ok response)
      (success : response.status = 0) :
      Handled c payload .nocResponse (c.moved .readNetworkCommissioningInfo)
  | networkNeeded (network : c.config.network ≠ .alreadyOnNetwork) :
      Handled c payload .networkCommissioningInfo (c.moved .networkSetup)
  | networkPresent (network : c.config.network = .alreadyOnNetwork) :
      Handled c payload .networkCommissioningInfo (c.moved .evictPreviousCaseSessions)
  | networkConfigured :
      Handled c payload .networkConfigResponse (c.moved .failsafeBeforeNetworkEnable)
  | networkConnected :
      Handled c payload .connectNetworkResponse (c.moved .evictPreviousCaseSessions)
  | completed (success : decodeCommissioningErrorResponse .sendComplete payload = .ok (0, text)) :
      Handled c payload .commissioningCompleteResponse (c.moved .cleanup)

variable {payload : Octets} {expect : Expectation} {next : Commissioner}

theorem afterFailsafe_ok {stage next : Stage} (after : afterFailsafe stage = .ok next) :
    stage = .armFailsafe ∧ next = .configRegulatory ∨
      stage = .failsafeBeforeNetworkEnable ∧ next = .networkEnable := by
  cases stage <;> simp [afterFailsafe] at after <;> simp [after]

theorem networkRoute_ok {next : Stage} (route : networkRoute network payload = .ok next) :
    network ≠ .alreadyOnNetwork ∧ next = .networkSetup ∨
      network = .alreadyOnNetwork ∧ next = .evictPreviousCaseSessions := by
  unfold networkRoute at route
  split at route
  · cases network <;> cases route
    exact .inr ⟨rfl, rfl⟩
  · obtain ⟨features, _, route⟩ := of_bind_ok route
    obtain ⟨_, _, route⟩ := of_bind_ok route
    cases network with
    | wiFi _ | thread _ =>
      obtain ⟨_, _, rfl⟩ := of_bind_pure route
      exact .inl ⟨nofun, rfl⟩
    | alreadyOnNetwork =>
      cases route
      exact .inr ⟨rfl, rfl⟩

theorem handled_cases (taken : handled c expect payload = .ok next) :
    Handled c payload expect next := by
  cases expect with
  | commissioningInfo =>
    obtain ⟨_, wellFormed, done⟩ := of_bind_ok taken
    cases info : decodeBasicCommissioningInfo payload with
    | none =>
      simp only [info] at done
      cases done
      exact .commissioningInfo c.failsafeExpirySeconds wellFormed
    | some info' =>
      simp only [info] at done
      cases done
      exact .commissioningInfo _ wellFormed
  | armFailsafeResponse =>
    obtain ⟨_, _, rest⟩ := of_bind_ok taken
    obtain ⟨stage, after, rfl⟩ := of_checked rest
    rcases afterFailsafe_ok after with ⟨here, rfl⟩ | ⟨here, rfl⟩
    · exact .armed here
    · exact .rearmed here
  | setRegulatoryConfigResponse =>
    obtain ⟨_, _, rest⟩ := of_bind_ok taken
    obtain ⟨_, _, done⟩ := of_bind_ok rest
    cases done
    exact .regulatory
  | paiCertChainResponse =>
    obtain ⟨_, decoded, rfl⟩ := of_bind_pure taken
    exact .pai (mapError_ok.mp decoded)
  | dacCertChainResponse =>
    obtain ⟨_, decoded, rfl⟩ := of_bind_pure taken
    exact .dac (mapError_ok.mp decoded)
  | attestationResponse =>
    obtain ⟨_, decoded, rfl⟩ := of_bind_pure taken
    exact .attestation (mapError_ok.mp decoded)
  | csrResponse =>
    obtain ⟨_, decoded, rfl⟩ := of_bind_pure taken
    exact .csr (mapError_ok.mp decoded)
  | addTrustedRootResponse =>
    obtain ⟨_, success, rfl⟩ := of_bind_pure taken
    exact .rootAdded (ensure_ok.mp success)
  | nocResponse =>
    obtain ⟨_, decoded, rest⟩ := of_bind_ok taken
    obtain ⟨_, success, rfl⟩ := of_bind_pure rest
    exact .nocAdded (mapError_ok.mp decoded) (ensure_ok.mp success)
  | networkCommissioningInfo =>
    obtain ⟨stage, route, rfl⟩ := of_bind_pure taken
    rcases networkRoute_ok route with ⟨network, rfl⟩ | ⟨network, rfl⟩
    · exact .networkNeeded network
    · exact .networkPresent network
  | networkConfigResponse =>
    obtain ⟨_, _, rest⟩ := of_bind_ok taken
    obtain ⟨_, _, done⟩ := of_bind_ok rest
    cases done
    exact .networkConfigured
  | connectNetworkResponse =>
    obtain ⟨_, _, rest⟩ := of_bind_ok taken
    obtain ⟨_, _, done⟩ := of_bind_ok rest
    cases done
    exact .networkConnected
  | commissioningCompleteResponse =>
    obtain ⟨⟨code, text⟩, decoded, rest⟩ := of_bind_ok taken
    obtain ⟨_, success, rfl⟩ := of_bind_pure rest
    obtain rfl : code = 0 := ensure_ok.mp success
    exact .completed decoded
  | caseFailed => cases taken

theorem handleResponse_run : (handleResponse expect payload).run c =
    match handled c expect payload with
    | .ok next => .ok () next
    | .error e => .error e c := by
  simp only [handleResponse, run_bind, run_get, settled_run]
  cases handled c expect payload <;> rfl

theorem tryCatch_run (m : CommissionerM α) (recover : CommissioningError → CommissionerM α) :
    (tryCatch m recover).run c = match m.run c with
      | .ok a next => .ok a next
      | .error e next => (recover e).run next := by
  change EStateM.tryCatch m recover c = _
  unfold EStateM.tryCatch run
  cases m c <;> rfl

inductive Responded (host : Host) (c : Commissioner) (expect : Expectation) (payload : Octets) :
    EStateM.Result CommissioningError Commissioner Unit → Prop
  | caseFailed (kind : expect = .caseFailed) (awaited : c.awaitingCaseSession = true) :
      Responded host c expect payload (.error .caseEstablishmentFailed
        ({ c with awaitingCaseSession := false }.failing host .caseEstablishmentFailed))
  | outOfOrder : Responded host c expect payload (.error (.outOfOrderResponse c.stage) c)
  | unexpected (awaiting : Expectation) :
      Responded host c expect payload (.error (.unexpectedResponseKind awaiting expect) c)
  | taken {next : Commissioner} (awaited : c.awaiting = some expect)
      (handled : Handled c payload expect next) : Responded host c expect payload (.ok () next)
  | rejected {e : CommissioningError} (awaited : c.awaiting = some expect)
      (rejects : handled c expect payload = .error e) :
      Responded host c expect payload (.error e (c.failing host e))

theorem onResponse_cases (host : Host) (c : Commissioner) (expect : Expectation)
    (payload : Octets) : Responded host c expect payload ((onResponse host expect payload).run c) := by
  rw [onResponse, run_bind, run_get]
  simp only
  split
  · rename_i kind
    cases awaited : c.awaitingCaseSession with
    | true => exact .caseFailed kind awaited
    | false => exact .outOfOrder
  · cases awaited : c.awaiting with
    | none => exact .outOfOrder
    | some awaiting =>
      simp only
      split
      · rename_i same
        subst same
        rw [tryCatch_run, handleResponse_run]
        cases result : handled c awaiting payload with
        | ok next => exact .taken awaited (handled_cases result)
        | error e => exact .rejected awaited result
      · exact .unexpected awaiting

theorem onCaseEstablished_cases (c : Commissioner) :
    c.awaitingCaseSession = true ∧ onCaseEstablished.run c =
        .ok () ({ c with awaitingCaseSession := false }.moved .sendComplete) ∨
      c.awaitingCaseSession = false ∧
        onCaseEstablished.run c = .error (.outOfOrderResponse c.stage) c := by
  rw [onCaseEstablished, run_bind, run_get]
  cases awaited : c.awaitingCaseSession with
  | true =>
    simp only [awaited]
    exact .inl ⟨trivial, rfl⟩
  | false =>
    simp only [awaited]
    exact .inr ⟨trivial, rfl⟩

end Commissioner

end Matter.Commissioning
