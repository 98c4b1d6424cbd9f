import Matter.Case.Initiator

/-! The responder's side. A `Sigma1` that fails leaves the machine waiting for
another; every later failure poisons it. -/
namespace Matter.Case
open Codec hiding Error
open Handshake
open Cert (Block MatterTime TrustedRoots)

structure ResponderSetup (Key : Type) where
  credentials : CaseCredentials
  trustedRoots : TrustedRoots
  ephSecret : Key
  ephPub : Block 65
  responderRandom : Block 32
  responderSessionId : UInt16

structure PendingSigma3 where
  credentials : CaseCredentials
  trustedRoots : TrustedRoots
  sigma1Bytes : Bytes
  sigma2Bytes : Bytes
  sharedSecret : Block 32
  initiatorRandom : Block 32
  responderRandom : Block 32
  initiatorEphPub : Block 65
  ephPub : Block 65
  initiatorSessionId : UInt16
  responderSessionId : UInt16
  resumptionId : Block 16

structure ResumptionRequest where
  initiatorRandom : Block 32
  initiatorEphPub : Block 65
  initiatorSessionId : UInt16
  sigma1Bytes : Octets
  resumptionIdPresented : Block 16
  initiatorResumeMicReceived : Block 16

inductive ResponderState (Key : Type) where
  | awaitingSigma1 (setup : ResponderSetup Key)
  | readyToSendSigma2 (pending : PendingSigma3)
  | awaitingSigma3 (pending : PendingSigma3)
  | awaitingResumptionDecision (setup : ResponderSetup Key) (request : ResumptionRequest)
  | readyToSendSigma2Resume (sigma2ResumeBytes : Bytes) (output : CaseSessionOutput)
  | complete (output : CaseSessionOutput)
  | poisoned

structure CaseResponder (Key : Type) where
  state : ResponderState Key
  peerSessionParams : Option SessionParameters
  localSessionParams : Option SessionParameters
  validationTime : MatterTime
  newResumptionIdOverride : Option (Block 16)

inductive Sigma1Outcome where
  | newSession
  | resumptionRequested (id : Block 16)
  deriving DecidableEq

namespace CaseResponder
variable {Key : Type}

section Construction
variable (prims : Primitives Key)

def new (credentials : CaseCredentials) (trustedRoots : TrustedRoots) (responderSessionId : UInt16)
    (now : MatterTime) (rng : Primitives.Fills) : Except Error (CaseResponder Key) := do
  let ((ephSecret, ephPub), n) ← prims.generateEphemeralKeypair rng
  let responderRandom ← Primitives.fillRandom rng n
  return {
    state := .awaitingSigma1
      { credentials, trustedRoots, ephSecret, ephPub, responderRandom, responderSessionId }
    peerSessionParams := none
    localSessionParams := none
    validationTime := now
    newResumptionIdOverride := none }

theorem new_fresh (made : new prims credentials trustedRoots responderSessionId now rng =
    .ok responder) :
    ∃ setup : ResponderSetup Key, responder.state = .awaitingSigma1 setup ∧
      setup.credentials = credentials ∧ responder.validationTime = now := by
  obtain ⟨_, _, made⟩ := Exits.of_bind_ok made
  obtain ⟨_, _, rfl⟩ := Exits.of_bind_pure made
  exact ⟨_, rfl, rfl, rfl⟩

end Construction

def withSessionParams (responder : CaseResponder Key) (params : SessionParameters) :
    CaseResponder Key :=
  { responder with localSessionParams := if params.isEmpty then none else some params }

/-- `drawn` is what the operating system's generator gives. -/
def freshResumptionId (responder : CaseResponder Key) (drawn : Option (Block 16)) :
    Except Error (Block 16) :=
  match responder.newResumptionIdOverride with
  | some id => .ok id
  | none =>
    match drawn with
    | some id => .ok id
    | none => .error .ephemeralKeyGenerationFailed

def expectedInbound (responder : CaseResponder Key) : Option CaseMessageKind :=
  match responder.state with
  | .awaitingSigma1 _ => some .sigma1
  | .awaitingSigma3 _ => some .sigma3
  | _ => none

/-- The state is taken out for the work on it and stays out if that fails. -/
def advance {α : Type} (responder : CaseResponder Key)
    (work : Except Error (α × ResponderState Key)) : Except Error α × CaseResponder Key :=
  match work with
  | .ok (a, state) => (.ok a, { responder with state })
  | .error e => (.error e, { responder with state := .poisoned })

def unexpected {α : Type} (responder : CaseResponder Key) (expected got : CaseMessageKind) :
    Except Error α × CaseResponder Key :=
  (.error (.unexpectedCaseMessage expected got), responder)

variable (prims : Primitives Key)

def buildSigma2 (sigma1Bytes : Bytes) (sigma1 : Sigma1) (setup : ResponderSetup Key)
    (resumptionId : Block 16) (localSessionParams : Option SessionParameters) :
    Except Error (Bytes × Block 32) := do
  let sharedSecret ← prims.ecdhSharedSecret setup.ephSecret sigma1.initiatorEphPub
  let s2k ← prims.deriveS2k sharedSecret setup.credentials.ipk setup.responderRandom setup.ephPub
    sigma1Bytes
  let nocTlv ← ownTlv setup.credentials.noc
  let icacTlv ← ownIcacTlv setup.credentials.icac
  let signedData ← encodeTbsData nocTlv icacTlv setup.ephPub sigma1.initiatorEphPub
  let signature ← Primitives.sign setup.credentials signedData
  let plaintext ← encodeTbedata2 nocTlv icacTlv signature resumptionId
  let encrypted ← prims.aeadEncrypt s2k nonceTbeData2 plaintext
  let responderSessionParams ← encodeLocalParams localSessionParams sigma2SessionParamsTag
  let sigma2Bytes ← Sigma2.encode {
    responderRandom := setup.responderRandom
    responderSessionId := setup.responderSessionId
    responderEphPub := setup.ephPub
    encrypted, responderSessionParams }
  return (sigma2Bytes, sharedSecret)

def pendingSigma3 (setup : ResponderSetup Key) (sigma1 : Sigma1) (sigma1Bytes sigma2Bytes : Bytes)
    (sharedSecret : Block 32) (resumptionId : Block 16) : PendingSigma3 where
  credentials := setup.credentials
  trustedRoots := setup.trustedRoots
  sigma1Bytes := sigma1Bytes
  sigma2Bytes := sigma2Bytes
  sharedSecret := sharedSecret
  initiatorRandom := sigma1.initiatorRandom
  responderRandom := setup.responderRandom
  initiatorEphPub := sigma1.initiatorEphPub
  ephPub := setup.ephPub
  initiatorSessionId := sigma1.initiatorSessionId
  responderSessionId := setup.responderSessionId
  resumptionId := resumptionId

/-- The steps from a `Sigma1` to a new session. -/
def newSession (responder : CaseResponder Key) (setup : ResponderSetup Key) (sigma1 : Sigma1)
    (sigma1Bytes : Bytes) (drawn : Option (Block 16)) : Except Error PendingSigma3 := do
  let id ← responder.freshResumptionId drawn
  let (sigma2Bytes, sharedSecret) ← buildSigma2 prims sigma1Bytes sigma1 setup id
    responder.localSessionParams
  return pendingSigma3 setup sigma1 sigma1Bytes sigma2Bytes sharedSecret id

/-- `Sigma1` as far as it concerns nobody but the sender: it is for this node, and
its session parameters can be read. -/
def acceptSigma1 (setup : ResponderSetup Key) (bytes : Octets) :
    Except Error (Sigma1 × Option SessionParameters) := do
  let sigma1 ← Sigma1.decode bytes
  let expectedDestId := prims.computeDestId setup.credentials.ipk setup.credentials.rcacPublicKey
    setup.credentials.fabricId setup.credentials.nodeId sigma1.initiatorRandom
  if expectedDestId ≠ sigma1.destId then throw .invalidParameter
  let params ← sigma1.sessionParameters
  return (sigma1, params)

/-- With one of the two resumption fields alone, a new session is set up. -/
def handleSigma1 (responder : CaseResponder Key) (bytes : Octets) (drawn : Option (Block 16)) :
    Except Error Sigma1Outcome × CaseResponder Key :=
  match responder.state with
  | .awaitingSigma1 setup =>
    match acceptSigma1 prims setup bytes with
    | .error e => (.error e, responder)
    | .ok (sigma1, params) =>
      let responder := { responder with peerSessionParams := params }
      match sigma1.resumptionId, sigma1.initiatorResumeMic with
      | some id, some mic =>
        (.ok (.resumptionRequested id), { responder with
          state := .awaitingResumptionDecision setup {
            initiatorRandom := sigma1.initiatorRandom
            initiatorEphPub := sigma1.initiatorEphPub
            initiatorSessionId := sigma1.initiatorSessionId
            sigma1Bytes := bytes
            resumptionIdPresented := id
            initiatorResumeMicReceived := mic } })
      | _, _ =>
        match responder.newSession prims setup sigma1 bytes.bytes drawn with
        | .error e => (.error e, responder)
        | .ok pending => (.ok .newSession, { responder with state := .readyToSendSigma2 pending })
  | _ => responder.unexpected .sigma1 .sigma3

/-- The identity of the peer is that of the record. -/
def resume (setup : ResponderSetup Key) (request : ResumptionRequest) (record : ResumptionRecord)
    (newId : Except Error (Block 16)) (localSessionParams : Option SessionParameters) :
    Except Error (Bytes × CaseSessionOutput) := do
  if record.id ≠ request.resumptionIdPresented then throw .invalidParameter
  prims.verifySigma1ResumeMic record.sharedSecret request.initiatorRandom
    request.resumptionIdPresented request.initiatorResumeMicReceived
  let newResumptionId ← newId
  let sigma2Mic ← prims.computeSigma2ResumeMic record.sharedSecret request.initiatorRandom
    newResumptionId
  let blob ← prims.deriveResumeSessionKeys record.sharedSecret request.initiatorRandom
    request.resumptionIdPresented
  let responderSessionParams ← encodeLocalParams localSessionParams sigma2ResumeSessionParamsTag
  let sigma2ResumeBytes ← Sigma2Resume.encode {
    resumptionId := newResumptionId
    resumeMic := sigma2Mic
    responderSessionId := setup.responderSessionId
    responderSessionParams }
  return (sigma2ResumeBytes, {
    keys := splitKeys blob
    peer := { record.peer with sessionId := request.initiatorSessionId }
    localInfo := setup.credentials.localInfo setup.responderSessionId
    resumptionRecord := some {
      id := newResumptionId
      sharedSecret := record.sharedSecret
      peer := record.peer
      expiresAt := none } })

def acceptResumption (responder : CaseResponder Key) (record : ResumptionRecord)
    (drawn : Option (Block 16)) : Except Error Unit × CaseResponder Key :=
  match responder.state with
  | .awaitingResumptionDecision setup request =>
    responder.advance do
      let (sigma2ResumeBytes, output) ← resume prims setup request record
        (responder.freshResumptionId drawn) responder.localSessionParams
      return ((), .readyToSendSigma2Resume sigma2ResumeBytes output)
  | _ => responder.unexpected .sigma1 .sigma1

/-- The fields kept from the first reading of `Sigma1` go into the state. -/
def rejectResumption (responder : CaseResponder Key) (drawn : Option (Block 16)) :
    Except Error Unit × CaseResponder Key :=
  match responder.state with
  | .awaitingResumptionDecision setup request =>
    responder.advance do
      let sigma1 ← Sigma1.decode request.sigma1Bytes
      let pending ← responder.newSession prims setup sigma1 request.sigma1Bytes.bytes drawn
      return ((), .readyToSendSigma2 { pending with
        initiatorRandom := request.initiatorRandom
        initiatorEphPub := request.initiatorEphPub
        initiatorSessionId := request.initiatorSessionId })
  | _ => responder.unexpected .sigma1 .sigma1

def nextMessage (responder : CaseResponder Key) : Except Error Bytes × CaseResponder Key :=
  match responder.state with
  | .readyToSendSigma2 pending =>
    responder.advance (.ok (pending.sigma2Bytes, .awaitingSigma3 pending))
  | .readyToSendSigma2Resume sigma2ResumeBytes output =>
    responder.advance (.ok (sigma2ResumeBytes, .complete output))
  | _ => responder.unexpected .sigma2 .sigma1

/-- The certificate names a node of the own fabric. -/
def verifiedIdentity (noc : Cert.MatterCertificate) (credentials : CaseCredentials) :
    Except Error (UInt64 × UInt64) := do
  let nodeId ← match noc.subject.nodeId with
    | some id => .ok id
    | none => .error (.peerNodeIdMismatch 0 credentials.nodeId)
  let fabricId ← match noc.subject.fabricId with
    | some id => .ok id
    | none => .error (.fabricIdMismatch 0 credentials.fabricId)
  if fabricId ≠ credentials.fabricId then
    throw (.fabricIdMismatch fabricId credentials.fabricId)
  return (nodeId, fabricId)

def processSigma3 (bytes : Octets) (pending : PendingSigma3) (now : MatterTime) :
    Except Error CaseSessionOutput := do
  let sigma3 ← Sigma3.decode bytes
  let s3k ← prims.deriveS3k pending.sharedSecret pending.credentials.ipk pending.sigma1Bytes
    pending.sigma2Bytes
  let plaintext ← prims.aeadDecrypt s3k nonceTbeData3 sigma3.encrypted
  let tbe ← decodeTbedata3 plaintext
  prims.validatePeerChain tbe pending.trustedRoots now
  let (nodeId, fabricId) ← verifiedIdentity tbe.peerNoc pending.credentials
  prims.verifyPeerSignature tbe pending.initiatorEphPub pending.ephPub
  let blob ← prims.deriveSessionKeys pending.sharedSecret pending.credentials.ipk
    pending.sigma1Bytes pending.sigma2Bytes bytes.bytes
  let peer : PeerInfo := {
    nodeId
    fabricId
    noc := tbe.peerNoc
    sessionId := pending.initiatorSessionId }
  return {
    keys := splitKeys blob
    peer
    localInfo := pending.credentials.localInfo pending.responderSessionId
    resumptionRecord := some {
      id := pending.resumptionId
      sharedSecret := pending.sharedSecret
      peer
      expiresAt := none } }

def handleSigma3 (responder : CaseResponder Key) (bytes : Octets) :
    Except Error Unit × CaseResponder Key :=
  match responder.state with
  | .awaitingSigma3 pending =>
    responder.advance do
      let output ← processSigma3 prims bytes pending responder.validationTime
      return ((), .complete output)
  | _ => responder.unexpected .sigma3 .sigma1

def finish (responder : CaseResponder Key) : Except Error CaseSessionOutput :=
  match responder.state with
  | .complete output => .ok output
  | _ => .error .handshakeIncomplete

end CaseResponder

end Matter.Case
