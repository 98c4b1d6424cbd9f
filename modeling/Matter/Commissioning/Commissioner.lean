import Matter.Commissioning.Noc
import Matter.Setup.Payload

/-! The commissioning state machine. `poll` asks for the next piece of work and
keeps the answer until the cursor moves; `on_response` and `on_case_established`
report how the work ended. `dispatch_stage` calls itself only after it has set
the stage, so its arms are functions of their own and call each other. -/
namespace Matter.Commissioning
open Codec Cert Setup

inductive SessionContext where
  | pase
  | caseSession
  deriving DecidableEq, Repr

structure CommissionedFabric where
  fabric : FabricRecord
  peerNodeId : UInt64
  peerRootPublicKey : Block 65
  terminatedAt : Stage
  deriving DecidableEq

inductive Action where
  | invoke (session : SessionContext) (endpoint : UInt16) (cluster command : UInt32)
      (payload : Bytes) (expect : Expectation)
  | readAttribute (session : SessionContext) (endpoint : UInt16) (cluster : UInt32)
      (attributes : List UInt32) (expect : Expectation)
  | establishCase (fabricId peerNodeId : UInt64)
  | done (fabric : CommissionedFabric)
  | abort (sendDisarmFailsafe : Bool) (reason : String)
  deriving DecidableEq

structure WiFiCredentials where
  ssid : Octets
  credentials : Octets
  deriving DecidableEq

structure ThreadDataset where
  bytes : Octets
  extPanId : Block 8
  deriving DecidableEq

inductive NetworkCredentials where
  | wiFi (credentials : WiFiCredentials)
  | thread (dataset : ThreadDataset)
  | alreadyOnNetwork
  deriving DecidableEq

structure CommissionerConfig where
  paseAttestationChallenge : Block 16
  fabric : FabricRecord
  setupPayload : SetupPayload
  paaTrustStore : PaaTrustStore
  cdSigningRoots : CdSigningRoots
  commissionerNodeId : UInt64
  assignedNodeId : UInt64
  ipkEpochKey : Block 16
  caseAdminSubject : UInt64
  adminVendorId : UInt16
  now : MatterTime
  network : NetworkCredentials
  deriving DecidableEq

def defaultConnectMaxTimeSeconds : UInt16 := 90

/-- `draws` counts the calls of the random generator. -/
structure Commissioner where
  config : CommissionerConfig
  stage : Stage := .securePairing
  draws : Nat := 0
  paiDer : Option Octets := none
  dacDer : Option Octets := none
  attestationNonce : Option (Block 32) := none
  attestationResponse : Option AttestationResponse := none
  csrNonce : Option (Block 32) := none
  csrResponse : Option CsrResponse := none
  verifiedCsr : Option VerifiedCsr := none
  issuedNoc : Option MatterCertificate := none
  issuedNocPublicKey : Option (Block 65) := none
  failsafeExpirySeconds : UInt16 := 60
  connectMaxTimeSeconds : UInt16 := 0
  breadcrumbCounter : UInt64 := 1
  awaitingCaseSession : Bool := false
  awaiting : Option Expectation := none
  pendingAction : Option Action := none
  lastFailure : Option String := none
  deriving DecidableEq

namespace Commissioner

def checkNetwork : NetworkCredentials → Except CommissioningError Unit
  | .wiFi credentials => do
    ensure (credentials.ssid.bytes ≠ []) (.invalidConfig "network: Wi-Fi ssid must not be empty")
    ensure (credentials.ssid.bytes.length ≤ 32)
      (.invalidConfig "network: Wi-Fi ssid must be ≤32 bytes")
    ensure (credentials.credentials.bytes.length ≤ 64)
      (.invalidConfig "network: Wi-Fi credentials must be ≤64 bytes")
  | .thread _ => .ok ()
  | .alreadyOnNetwork => .ok ()

def new (cfg : CommissionerConfig) : Except CommissioningError Commissioner := do
  ensure (cfg.commissionerNodeId ≠ 0) (.invalidConfig "commissioner_node_id must be non-zero")
  ensure (cfg.assignedNodeId ≠ 0) (.invalidConfig "assigned_node_id must be non-zero")
  ensure (cfg.assignedNodeId ≠ cfg.commissionerNodeId)
    (.invalidConfig "assigned_node_id must differ from commissioner_node_id")
  ensure (cfg.ipkEpochKey ≠ .fill 16 0) (.invalidConfig "ipk_epoch_key must not be all-zero")
  checkNetwork cfg.network
  return { config := cfg }

/-- `&mut self` and an error. -/
abbrev CommissionerM := EStateM CommissioningError Commissioner

def moved (c : Commissioner) (next : Stage) : Commissioner :=
  { c with stage := next, awaiting := none, pendingAction := none }

def advance (next : Stage) : CommissionerM Unit := modify fun c => c.moved next

/-- `b.saturating_add(1)`. -/
def saturatingSucc (b : UInt64) : UInt64 := if b = UInt64.ofNat (2 ^ 64 - 1) then b else b + 1

def nextBreadcrumb : CommissionerM UInt64 :=
  modifyGet fun c =>
    (c.breadcrumbCounter, { c with breadcrumbCounter := saturatingSucc c.breadcrumbCounter })

/-- A result that leaves the machine as it is. -/
def settled {α : Type} (result : Except CommissioningError α) : CommissionerM α := fun c =>
  match result with
  | .ok a => .ok a c
  | .error e => .error e c

/-- A computation that draws from the generator. -/
def drawing {α : Type} (m : RngM α) : CommissionerM α := fun c =>
  match m.run c.draws with
  | .ok a draws => .ok a { c with draws := draws }
  | .error e draws => .error (.noc e) { c with draws := draws }

def invoke (session : SessionContext) (cluster command : UInt32) (payload : Bytes)
    (expect : Expectation) : CommissionerM Action := do
  modify fun c => { c with awaiting := some expect }
  return .invoke session 0 cluster command payload expect

def readAttribute (cluster : UInt32) (attributes : List UInt32) (expect : Expectation) :
    CommissionerM Action := do
  modify fun c => { c with awaiting := some expect }
  return .readAttribute .pase 0 cluster attributes expect

def operationalCredentials : UInt32 := 0x003e

/-! The arms of `dispatch_stage`. -/

def readCommissioningInfo : CommissionerM Action :=
  readAttribute GeneralCommissioning.clusterId [0x0000, 0x0001, 0x0002, 0x0004]
    .commissioningInfo

def networkEnableFailsafeSeconds (c : Commissioner) : UInt16 :=
  if c.connectMaxTimeSeconds > 0 then c.connectMaxTimeSeconds else defaultConnectMaxTimeSeconds

def armFailsafeAction : CommissionerM Action := do
  let c ← get
  let expirySeconds := if c.stage = .failsafeBeforeNetworkEnable
    then c.networkEnableFailsafeSeconds else c.failsafeExpirySeconds
  let breadcrumb ← nextBreadcrumb
  invoke .pase GeneralCommissioning.clusterId GeneralCommissioning.armFailSafe
    (GeneralCommissioning.encodeArmFailSafe expirySeconds breadcrumb) .armFailsafeResponse

/-- The country code of an unspecified country. -/
def countryCode : Text := ⟨"XX", by decide⟩

def configRegulatory : CommissionerM Action := do
  let breadcrumb ← nextBreadcrumb
  invoke .pase GeneralCommissioning.clusterId GeneralCommissioning.setRegulatoryConfig
    (GeneralCommissioning.encodeSetRegulatoryConfig .indoor countryCode breadcrumb)
    .setRegulatoryConfigResponse

def sendCertRequest (type : CertChainType) (expect : Expectation) : CommissionerM Action :=
  invoke .pase operationalCredentials 0x02 (encodeCertificateChainRequest type) expect

def sendPaiCertRequest : CommissionerM Action := sendCertRequest .pai .paiCertChainResponse

def sendDacCertRequest : CommissionerM Action := sendCertRequest .dac .dacCertChainResponse

variable (host : Host)

def sendAttestationRequest : CommissionerM Action := do
  let nonce ← drawing (fill host 32)
  modify fun c => { c with attestationNonce := some nonce }
  invoke .pase operationalCredentials 0x00 (encodeAttestationRequest nonce) .attestationResponse

def sendOpCertSigningRequest : CommissionerM Action := do
  let nonce ← drawing (fill host 32)
  modify fun c => { c with csrNonce := some nonce }
  invoke .pase operationalCredentials 0x04 (encodeCsrRequest nonce false) .csrResponse

/-- The transition into the failed stage, which keeps the rendered error. -/
def fail {α : Type} (error : CommissioningError) : CommissionerM α := do
  modify fun c => { c.moved .failed with lastFailure := some (error.render host.tables) }
  throw error

def runAttestationVerification (c : Commissioner) : Except CommissioningError Unit := do
  let paiDer ← orError (.outOfOrderResponse c.stage) c.paiDer
  let dacDer ← orError (.outOfOrderResponse c.stage) c.dacDer
  let response ← orError (.outOfOrderResponse c.stage) c.attestationResponse
  let expectedNonce ← orError (.outOfOrderResponse c.stage) c.attestationNonce
  let pai ← (Pai.fromDer host paiDer.bytes).mapError .attestation
  let dac ← (Dac.fromDer host dacDer.bytes).mapError .attestation
  (host.verifyAttestationCertFormat pai.der .pai).mapError .attestation
  (host.verifyAttestationCertFormat dac.der .dac).mapError .attestation
  let chain ← (verifyChain host dac pai c.config.paaTrustStore c.config.now).mapError .attestation
  (verifyAttestationResponse host response c.config.paseAttestationChallenge
    dac.publicKey).mapError .attestation
  let fields ← (extractAttestationElementsFields response.attestationElements).mapError .attestation
  ensure (fields.attestationNonce = expectedNonce) (.attestation .responseElementsMalformed)
  (host.verifyCertificationDeclarationWithPaa fields.certificationDeclaration chain.vendorId
    chain.productId c.config.cdSigningRoots chain.paaSkid).mapError .attestation

def attestationVerification : CommissionerM Action := do
  let c ← get
  match runAttestationVerification host c with
  | .error error => fail host error
  | .ok () => do
    advance .sendOpCertSigningRequest
    sendOpCertSigningRequest host

/-- The check of `run_validate_csr`, which then stores the result. -/
def validatedCsr (c : Commissioner) : Except CommissioningError VerifiedCsr := do
  let response ← orError (.outOfOrderResponse c.stage) c.csrResponse
  let dacDer ← orError (.outOfOrderResponse c.stage) c.dacDer
  let csrNonce ← orError (.outOfOrderResponse c.stage) c.csrNonce
  let dac ← (Dac.fromDer host dacDer.bytes).mapError .attestation
  (verifyCsrResponse host response.nocsrElements response.attestationSignature csrNonce
    c.config.paseAttestationChallenge dac.publicKey).mapError .noc

def runValidateCsr : CommissionerM Unit := do
  let c ← get
  let verified ← settled (validatedCsr host c)
  modify fun c => { c with verifiedCsr := some verified }

def runGenerateNocChain : CommissionerM Unit := do
  let c ← get
  let verified ← settled (orError (.outOfOrderResponse c.stage) c.verifiedCsr)
  let noc ← drawing (issueNoc host c.config.fabric verified c.config.assignedNodeId []
    c.config.now .noExpiry)
  modify fun c =>
    { c with issuedNocPublicKey := some verified.publicKey.block, issuedNoc := some noc }

/-- A certificate on its way to the device. -/
def certTlv (cert : MatterCertificate) : Except CommissioningError Bytes :=
  cert.toTlv.mapError fun e => .noc (.certBuild e)

def sendTrustedRootCert : CommissionerM Action := do
  let c ← get
  let rcacTlv ← settled (certTlv c.config.fabric.rootCert)
  invoke .pase operationalCredentials 0x0b (encodeAddTrustedRoot rcacTlv) .addTrustedRootResponse

def generateNocChain : CommissionerM Action := do
  runGenerateNocChain host
  advance .sendTrustedRootCert
  sendTrustedRootCert

def validateCsr : CommissionerM Action := do
  runValidateCsr host
  advance .generateNocChain
  generateNocChain host

def addNocPayload (c : Commissioner) : Except CommissioningError Bytes := do
  let noc ← orError (.outOfOrderResponse c.stage) c.issuedNoc
  let nocTlv ← certTlv noc
  let icacTlv ← c.config.fabric.icacCert.mapM certTlv
  return encodeAddNoc nocTlv icacTlv c.config.ipkEpochKey c.config.caseAdminSubject
    c.config.adminVendorId

def sendNoc : CommissionerM Action := do
  let c ← get
  let payload ← settled (addNocPayload c)
  invoke .pase operationalCredentials 0x06 payload .nocResponse

def readNetworkCommissioningInfo : CommissionerM Action :=
  readAttribute NetworkCommissioning.clusterId
    [NetworkCommissioning.featureMap, NetworkCommissioning.connectMaxTimeSeconds]
    .networkCommissioningInfo

def networkSetup : CommissionerM Action := do
  let breadcrumb ← nextBreadcrumb
  let c ← get
  match c.config.network with
  | .wiFi credentials =>
    invoke .pase NetworkCommissioning.clusterId NetworkCommissioning.addOrUpdateWifiNetwork
      (NetworkCommissioning.encodeAddOrUpdateWifiNetwork credentials.ssid credentials.credentials
        breadcrumb) .networkConfigResponse
  | .thread dataset =>
    invoke .pase NetworkCommissioning.clusterId NetworkCommissioning.addOrUpdateThreadNetwork
      (NetworkCommissioning.encodeAddOrUpdateThreadNetwork dataset.bytes breadcrumb)
      .networkConfigResponse
  | .alreadyOnNetwork => throw (.outOfOrderResponse c.stage)

def networkId : NetworkCredentials → Option Bytes
  | .wiFi credentials => some credentials.ssid.bytes
  | .thread dataset => some dataset.extPanId.bytes
  | .alreadyOnNetwork => none

def networkEnable : CommissionerM Action := do
  let breadcrumb ← nextBreadcrumb
  let c ← get
  let id ← settled (orError (.outOfOrderResponse c.stage) (networkId c.config.network))
  invoke .pase NetworkCommissioning.clusterId NetworkCommissioning.connectNetwork
    (NetworkCommissioning.encodeConnectNetwork id breadcrumb) .connectNetworkResponse

def findOperationalForComplete : CommissionerM Action := do
  modify fun c => { c with awaitingCaseSession := true }
  let c ← get
  return .establishCase c.config.fabric.fabricId c.config.assignedNodeId

def evictPreviousCaseSessions : CommissionerM Action := do
  advance .findOperationalForComplete
  findOperationalForComplete

def sendComplete : CommissionerM Action :=
  invoke .caseSession GeneralCommissioning.clusterId GeneralCommissioning.commissioningComplete
    GeneralCommissioning.encodeCommissioningComplete .commissioningCompleteResponse

def cleanup : CommissionerM Action := do
  let c ← get
  let publicKey ← settled (orError (.outOfOrderResponse c.stage) c.issuedNocPublicKey)
  return .done ⟨c.config.fabric, c.config.assignedNodeId, publicKey, .cleanup⟩

def failed : CommissionerM Action := do
  modify fun c => { c with awaiting := none }
  let c ← get
  return .abort true (c.lastFailure.getD "commissioning aborted")

def securePairing : CommissionerM Action := do
  modify fun c => { c with stage := .readCommissioningInfo }
  readCommissioningInfo

def dispatchStage : CommissionerM Action := do
  let c ← get
  match c.stage with
  | .securePairing => securePairing
  | .readCommissioningInfo => readCommissioningInfo
  | .armFailsafe => armFailsafeAction
  | .failsafeBeforeNetworkEnable => armFailsafeAction
  | .configRegulatory => configRegulatory
  | .sendPaiCertRequest => sendPaiCertRequest
  | .sendDacCertRequest => sendDacCertRequest
  | .sendAttestationRequest => sendAttestationRequest host
  | .attestationVerification => attestationVerification host
  | .sendOpCertSigningRequest => sendOpCertSigningRequest host
  | .validateCsr => validateCsr host
  | .generateNocChain => generateNocChain host
  | .sendTrustedRootCert => sendTrustedRootCert
  | .sendNoc => sendNoc
  | .readNetworkCommissioningInfo => readNetworkCommissioningInfo
  | .networkSetup => networkSetup
  | .networkEnable => networkEnable
  | .evictPreviousCaseSessions => evictPreviousCaseSessions
  | .findOperationalForComplete => findOperationalForComplete
  | .sendComplete => sendComplete
  | .cleanup => cleanup
  | .failed => failed

def poll : CommissionerM Action := do
  let c ← get
  match c.pendingAction with
  | some action => return action
  | none => do
    let action ← dispatchStage host
    modify fun c => { c with pendingAction := some action }
    return action

/-! The responses. -/

/-- The expiry the first `ArmFailSafe` asks for, from what the device reports. -/
def reportedFailsafe (current : UInt16) (info : BasicCommissioningInfo) : UInt16 :=
  let requested := if info.failsafeExpiryLengthSeconds > 0
    then info.failsafeExpiryLengthSeconds else current
  if info.maxCumulativeFailsafeSeconds > 0
  then min requested info.maxCumulativeFailsafeSeconds else requested

/-- The stage after the network commissioning read, by the credentials supplied. -/
def networkRoute (network : NetworkCredentials) (payload : Octets) :
    Except CommissioningError Stage :=
  if payload.bytes = [] then
    match network with
    | .alreadyOnNetwork => .ok .evictPreviousCaseSessions
    | .wiFi _ => .error (.networkFeatureUnsupported .wiFi)
    | .thread _ => .error (.networkFeatureUnsupported .thread)
  else do
    let features ← NetworkCommissioning.decodeFeatureMap payload
    ensure (features.isEmpty = false) (.malformedResponse .readNetworkCommissioningInfo)
    match network with
    | .wiFi _ => do
      ensure (features.contains .wifi) (.networkFeatureUnsupported .wiFi)
      return .networkSetup
    | .thread _ => do
      ensure (features.contains .thread) (.networkFeatureUnsupported .thread)
      return .networkSetup
    | .alreadyOnNetwork => return .evictPreviousCaseSessions

/-- An error code of the device at `stage`. -/
def deviceOk (stage : Stage) (code : UInt8) : Except CommissioningError Unit :=
  ensure (code = 0) (.deviceImStatus stage code.toUInt16)

def networkOk (stage : Stage) (status : UInt8) (debugText : Option Text) :
    Except CommissioningError Unit :=
  ensure (status = 0)
    (.networkRejected stage status debugText (NetworkCommissioning.remediationFor status))

/-- The stage after an accepted `ArmFailSafe`. -/
def afterFailsafe : Stage → Except CommissioningError Stage
  | .armFailsafe => .ok .configRegulatory
  | .failsafeBeforeNetworkEnable => .ok .networkEnable
  | other => .error (.outOfOrderResponse other)

/-- The state after a response that is taken, with the stage it leads to; until
then nothing is written. -/
def handled (c : Commissioner) (expect : Expectation) (payload : Octets) :
    Except CommissioningError Commissioner :=
  match expect with
  | .commissioningInfo => do
    assertTlvWellFormed c.stage payload
    let c := match decodeBasicCommissioningInfo payload with
      | none => c
      | some info =>
        { c with failsafeExpirySeconds := reportedFailsafe c.failsafeExpirySeconds info }
    return c.moved .armFailsafe
  | .armFailsafeResponse => do
    let (code, _) ← decodeArmFailSafeResponse payload
    deviceOk c.stage code
    return c.moved (← afterFailsafe c.stage)
  | .setRegulatoryConfigResponse => do
    let (code, _) ← decodeSetRegulatoryConfigResponse payload
    deviceOk .configRegulatory code
    return c.moved .sendPaiCertRequest
  | .paiCertChainResponse => do
    let certificate ← (decodeCertificateChainResponse payload).mapError .noc
    return { c with paiDer := some certificate }.moved .sendDacCertRequest
  | .dacCertChainResponse => do
    let certificate ← (decodeCertificateChainResponse payload).mapError .noc
    return { c with dacDer := some certificate }.moved .sendAttestationRequest
  | .attestationResponse => do
    let response ← (decodeAttestationResponse payload).mapError .noc
    return { c with attestationResponse := some response }.moved .attestationVerification
  | .csrResponse => do
    let response ← (decodeCsrResponse payload).mapError .noc
    return { c with csrResponse := some response }.moved .validateCsr
  | .addTrustedRootResponse => do
    ensure (payload.bytes.head? = some 0)
      (.deviceImStatus .sendTrustedRootCert (payload.bytes.head?.getD 0xff).toUInt16)
    return c.moved .sendNoc
  | .nocResponse => do
    let response ← (decodeNocResponse payload).mapError .noc
    deviceOk .sendNoc response.status
    return c.moved .readNetworkCommissioningInfo
  | .networkCommissioningInfo => return c.moved (← networkRoute c.config.network payload)
  | .networkConfigResponse => do
    let (status, debugText) ←
      NetworkCommissioning.decodeNetworkConfigResponse .networkSetup payload
    networkOk .networkSetup status debugText
    return c.moved .failsafeBeforeNetworkEnable
  | .connectNetworkResponse => do
    let response ← NetworkCommissioning.decodeConnectNetworkResponse .networkEnable payload
    networkOk .networkEnable response.networkingStatus response.debugText
    return c.moved .evictPreviousCaseSessions
  | .commissioningCompleteResponse => do
    let (code, _) ← decodeCommissioningErrorResponse .sendComplete payload
    deviceOk .sendComplete code
    return c.moved .cleanup
  | .caseFailed => throw (.outOfOrderResponse c.stage)

def handleResponse (expect : Expectation) (payload : Octets) : CommissionerM Unit := do
  let c ← get
  let next ← settled (handled c expect payload)
  set next

def onResponse (expect : Expectation) (payload : Octets) : CommissionerM Unit := do
  let c ← get
  if expect = .caseFailed then
    if c.awaitingCaseSession then do
      modify fun c => { c with awaitingCaseSession := false }
      fail host .caseEstablishmentFailed
    else throw (.outOfOrderResponse c.stage)
  else
    match c.awaiting with
    | none => throw (.outOfOrderResponse c.stage)
    | some awaiting =>
      if awaiting = expect then
        tryCatch (handleResponse expect payload) (fail host)
      else throw (.unexpectedResponseKind awaiting expect)

def onCaseEstablished : CommissionerM Unit := do
  let c ← get
  if c.awaitingCaseSession then do
    modify fun c => { c with awaitingCaseSession := false }
    advance .sendComplete
  else throw (.outOfOrderResponse c.stage)

/-- The time the driver reads from the device. -/
def setConnectMaxTimeSeconds (seconds : UInt16) : CommissionerM Unit :=
  modify fun c => { c with connectMaxTimeSeconds := seconds }

end Commissioner

end Matter.Commissioning
