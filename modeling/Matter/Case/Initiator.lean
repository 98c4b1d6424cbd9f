import Matter.Case.Sigma

/-! The initiator's side. A call that is not for the present state gives the state
back; a message that fails leaves the machine poisoned, and so does a resumption
that was not asked for. -/
namespace Matter.Case
open Codec hiding Error
open Handshake
open Cert (Block MatterTime TrustedRoots)

/-- What an initiator is constructed with, its ephemeral key and random number
included. -/
structure InitiatorSetup (Key : Type) where
  credentials : CaseCredentials
  trustedRoots : TrustedRoots
  peerNodeId : UInt64
  peerFabricId : UInt64
  ephSecret : Key
  ephPub : Block 65
  initiatorRandom : Block 32
  initiatorSessionId : UInt16

inductive InitiatorState (Key : Type) where
  | awaitingStart (setup : InitiatorSetup Key) (resumptionRecord : Option ResumptionRecord)
  | awaitingSigma2 (setup : InitiatorSetup Key) (sigma1Bytes : Bytes)
    (resumptionAttempt : Option ResumptionRecord)
  | readyToSendSigma3 (sigma3Bytes : Bytes) (output : CaseSessionOutput)
  | complete (output : CaseSessionOutput)
  | poisoned

structure CaseInitiator (Key : Type) where
  state : InitiatorState Key
  peerSessionParams : Option SessionParameters
  localSessionParams : Option SessionParameters
  validationTime : MatterTime

/-- `p.encode(tag)` of the own parameters, if there are any. -/
def encodeLocalParams (params : Option SessionParameters) (tag : UInt8) :
    Except Error (Option Bytes) :=
  match params with
  | some params => (params.encode tag).map some
  | none => .ok none

structure Sigma2Processed where
  sigma3Bytes : Bytes
  output : CaseSessionOutput
  peerSessionParams : Option SessionParameters

namespace CaseInitiator
variable {Key : Type}

section Construction
variable (prims : Primitives Key)

def newInner (credentials : CaseCredentials) (trustedRoots : TrustedRoots)
    (peerNodeId peerFabricId : UInt64) (initiatorSessionId : UInt16)
    (resumptionRecord : Option ResumptionRecord) (now : MatterTime) (rng : Primitives.Fills) :
    Except Error (CaseInitiator Key) := do
  let ((ephSecret, ephPub), n) ← prims.generateEphemeralKeypair rng
  let initiatorRandom ← Primitives.fillRandom rng n
  return {
    state := .awaitingStart
      { credentials, trustedRoots, peerNodeId, peerFabricId, ephSecret, ephPub, initiatorRandom,
        initiatorSessionId } resumptionRecord
    peerSessionParams := none
    localSessionParams := none
    validationTime := now }

def new (credentials : CaseCredentials) (trustedRoots : TrustedRoots)
    (peerNodeId peerFabricId : UInt64) (initiatorSessionId : UInt16) (now : MatterTime)
    (rng : Primitives.Fills) : Except Error (CaseInitiator Key) :=
  newInner prims credentials trustedRoots peerNodeId peerFabricId initiatorSessionId none now rng

def newWithResumption (credentials : CaseCredentials) (trustedRoots : TrustedRoots)
    (peerNodeId peerFabricId : UInt64) (record : ResumptionRecord) (initiatorSessionId : UInt16)
    (now : MatterTime) (rng : Primitives.Fills) : Except Error (CaseInitiator Key) :=
  newInner prims credentials trustedRoots peerNodeId peerFabricId initiatorSessionId (some record)
    now rng

/-- Both constructors give a machine that awaits its start. -/
theorem newInner_fresh (made : newInner prims credentials trustedRoots peerNodeId peerFabricId
    initiatorSessionId record now rng = .ok initiator) :
    ∃ setup : InitiatorSetup Key, initiator.state = .awaitingStart setup record ∧
      setup.peerNodeId = peerNodeId ∧ setup.peerFabricId = peerFabricId ∧
      initiator.validationTime = now := by
  obtain ⟨_, _, made⟩ := Exits.of_bind_ok made
  obtain ⟨_, _, rfl⟩ := Exits.of_bind_pure made
  exact ⟨_, rfl, rfl, rfl, rfl⟩

end Construction

/-- Empty parameters are not advertised. -/
def withSessionParams (initiator : CaseInitiator Key) (params : SessionParameters) :
    CaseInitiator Key :=
  { initiator with localSessionParams := if params.isEmpty then none else some params }

def expectedInbound (initiator : CaseInitiator Key) : Option CaseMessageKind :=
  match initiator.state with
  | .awaitingSigma2 _ _ (some _) => some .sigma2Resume
  | .awaitingSigma2 _ _ none => some .sigma2
  | _ => none

/-- The state is taken out for the work on it and stays out if that fails. -/
def advance {α : Type} (initiator : CaseInitiator Key)
    (work : Except Error (α × InitiatorState Key)) : Except Error α × CaseInitiator Key :=
  match work with
  | .ok (a, state) => (.ok a, { initiator with state })
  | .error e => (.error e, { initiator with state := .poisoned })

def unexpected {α : Type} (initiator : CaseInitiator Key) (expected got : CaseMessageKind) :
    Except Error α × CaseInitiator Key :=
  (.error (.unexpectedCaseMessage expected got), initiator)

variable (prims : Primitives Key)

/-- The identifier and the tag that ask for a resumption. -/
def resumptionFields (initiatorRandom : Block 32) :
    Option ResumptionRecord → Except Error (Option (Block 16) × Option (Block 16))
  | some record => do
    let mic ← prims.computeSigma1ResumeMic record.sharedSecret initiatorRandom record.id
    return (some record.id, some mic)
  | none => .ok (none, none)

def buildSigma1 (setup : InitiatorSetup Key) (resumptionRecord : Option ResumptionRecord)
    (localSessionParams : Option SessionParameters) : Except Error Bytes := do
  let destId := prims.computeDestId setup.credentials.ipk setup.credentials.rcacPublicKey
    setup.credentials.fabricId setup.peerNodeId setup.initiatorRandom
  let (resumptionId, initiatorResumeMic) ←
    resumptionFields prims setup.initiatorRandom resumptionRecord
  let initiatorSessionParams ← encodeLocalParams localSessionParams sigma1SessionParamsTag
  Sigma1.encode {
    initiatorRandom := setup.initiatorRandom
    initiatorSessionId := setup.initiatorSessionId
    destId
    initiatorEphPub := setup.ephPub
    initiatorSessionParams, resumptionId, initiatorResumeMic }

def start (initiator : CaseInitiator Key) : Except Error Bytes × CaseInitiator Key :=
  match initiator.state with
  | .awaitingStart setup resumptionRecord =>
    initiator.advance do
      let sigma1Bytes ← buildSigma1 prims setup resumptionRecord initiator.localSessionParams
      return (sigma1Bytes, .awaitingSigma2 setup sigma1Bytes resumptionRecord)
  | _ => initiator.unexpected .sigma1 .sigma2

/-- The node and fabric the peer's certificate names must be those asked for. -/
def verifiedIdentity (noc : Cert.MatterCertificate) (peerNodeId peerFabricId : UInt64) :
    Except Error (UInt64 × UInt64) := do
  let nodeId ← match noc.subject.nodeId with
    | some id => .ok id
    | none => .error (.peerNodeIdMismatch 0 peerNodeId)
  let fabricId ← match noc.subject.fabricId with
    | some id => .ok id
    | none => .error (.fabricIdMismatch 0 peerFabricId)
  if nodeId ≠ peerNodeId then throw (.peerNodeIdMismatch nodeId peerNodeId)
  if fabricId ≠ peerFabricId then throw (.fabricIdMismatch fabricId peerFabricId)
  return (nodeId, fabricId)

/-- `Sigma3` with the own certificates, for the peer's ephemeral key. -/
def buildSigma3 (setup : InitiatorSetup Key) (sharedSecret : Block 32) (peerEphPub : Block 65)
    (sigma1 sigma2 : Bytes) : Except Error Bytes := do
  let nocTlv ← ownTlv setup.credentials.noc
  let icacTlv ← ownIcacTlv setup.credentials.icac
  let signedData ← encodeTbsData nocTlv icacTlv setup.ephPub peerEphPub
  let signature ← Primitives.sign setup.credentials signedData
  let s3k ← prims.deriveS3k sharedSecret setup.credentials.ipk sigma1 sigma2
  let plaintext ← encodeTbedata3 nocTlv icacTlv signature
  let encrypted ← prims.aeadEncrypt s3k nonceTbeData3 plaintext
  Sigma3.encode ⟨encrypted⟩

def processSigma2 (bytes : Octets) (setup : InitiatorSetup Key) (sigma1Bytes : Bytes)
    (now : MatterTime) : Except Error Sigma2Processed := do
  let sigma2 ← Sigma2.decode bytes
  let peerSessionParams ← sigma2.sessionParameters
  let sharedSecret ← prims.ecdhSharedSecret setup.ephSecret sigma2.responderEphPub
  let s2k ← prims.deriveS2k sharedSecret setup.credentials.ipk sigma2.responderRandom
    sigma2.responderEphPub sigma1Bytes
  let plaintext ← prims.aeadDecrypt s2k nonceTbeData2 sigma2.encrypted
  let tbe ← decodeTbedata2 plaintext
  prims.validatePeerChain tbe.toTbeData3 setup.trustedRoots now
  let (nodeId, fabricId) ← verifiedIdentity tbe.peerNoc setup.peerNodeId setup.peerFabricId
  prims.verifyPeerSignature tbe.toTbeData3 sigma2.responderEphPub setup.ephPub
  let sigma3Bytes ← buildSigma3 prims setup sharedSecret sigma2.responderEphPub sigma1Bytes
    bytes.bytes
  let blob ← prims.deriveSessionKeys sharedSecret setup.credentials.ipk sigma1Bytes bytes.bytes
    sigma3Bytes
  let peer : PeerInfo := {
    nodeId
    fabricId
    noc := tbe.peerNoc
    sessionId := sigma2.responderSessionId }
  return {
    sigma3Bytes
    output := {
      keys := splitKeys blob
      peer
      localInfo := setup.credentials.localInfo setup.initiatorSessionId
      resumptionRecord := some {
        id := tbe.resumptionId
        sharedSecret
        peer
        expiresAt := none } }
    peerSessionParams }

def handleSigma2 (initiator : CaseInitiator Key) (bytes : Octets) :
    Except Error Unit × CaseInitiator Key :=
  match initiator.state with
  | .awaitingSigma2 setup sigma1Bytes _ =>
    match processSigma2 prims bytes setup sigma1Bytes initiator.validationTime with
    | .ok processed =>
      { initiator with peerSessionParams := processed.peerSessionParams }.advance
        (.ok ((), .readyToSendSigma3 processed.sigma3Bytes processed.output))
    | .error e => initiator.advance (.error e)
  | _ => initiator.unexpected .sigma2 .sigma3

/-- What follows the tag of `Sigma2_Resume`; the identity of the peer is that of
the record. -/
def resume (sigma2Resume : Sigma2Resume) (setup : InitiatorSetup Key) (record : ResumptionRecord) :
    Except Error CaseSessionOutput := do
  prims.verifySigma2ResumeMic record.sharedSecret setup.initiatorRandom sigma2Resume.resumptionId
    sigma2Resume.resumeMic
  let blob ← prims.deriveResumeSessionKeys record.sharedSecret setup.initiatorRandom record.id
  return {
    keys := splitKeys blob
    peer := { record.peer with sessionId := sigma2Resume.responderSessionId }
    localInfo := setup.credentials.localInfo setup.initiatorSessionId
    resumptionRecord := some {
      id := sigma2Resume.resumptionId
      sharedSecret := record.sharedSecret
      peer := record.peer
      expiresAt := none } }

/-- The parameters of the peer are kept before the tag is checked. -/
def handleSigma2Resume (initiator : CaseInitiator Key) (bytes : Octets) :
    Except Error Unit × CaseInitiator Key :=
  match initiator.state with
  | .awaitingSigma2 setup _ (some record) =>
    match Sigma2Resume.decode bytes with
    | .error e => initiator.advance (.error e)
    | .ok sigma2Resume =>
      match sigma2Resume.sessionParameters with
      | .error e => initiator.advance (.error e)
      | .ok params =>
        { initiator with peerSessionParams := params }.advance do
          let output ← resume prims sigma2Resume setup record
          return ((), .complete output)
  | .awaitingSigma2 _ _ none =>
    initiator.advance (.error (.unexpectedCaseMessage .sigma2 .sigma2Resume))
  | _ => initiator.unexpected .sigma2Resume .sigma2Resume

def nextMessage (initiator : CaseInitiator Key) : Except Error Bytes × CaseInitiator Key :=
  match initiator.state with
  | .readyToSendSigma3 sigma3Bytes output => initiator.advance (.ok (sigma3Bytes, .complete output))
  | _ => initiator.unexpected .sigma3 .sigma1

def finish (initiator : CaseInitiator Key) : Except Error CaseSessionOutput :=
  match initiator.state with
  | .complete output => .ok output
  | _ => .error .handshakeIncomplete

end CaseInitiator

end Matter.Case
