import Matter.Base.Exits
import Matter.Base.Phases
import Matter.Case.Responder

/-! What a call does to either machine: it moves it on, changes nothing, or
poisons it. A move into a session carries the evidence that was checked. -/
namespace Matter.Case
open Codec hiding Error
open TlvReader Handshake Exits
open Cert (Block MatterCertificate MatterTime TrustedRoots CertificateChain.validate)

inductive Reply where
  | done
  | message (bytes : Bytes)
  | sigma1 (outcome : Sigma1Outcome)
  deriving DecidableEq

section Evidence

/-- The certificates of a peer are those it sent. -/
structure Sent (tbe : TbeData3) : Prop where
  noc : MatterCertificate.fromTlv tbe.peerNocTlv = .ok tbe.peerNoc
  icac : (tbe.peerIcacTlv = none ∧ tbe.peerIcac = none) ∨
    ∃ tlv icac, tbe.peerIcacTlv = some tlv ∧ tbe.peerIcac = some icac ∧
      MatterCertificate.fromTlv tlv = .ok icac

/-- They lead to a trusted root, and the signature under the key of the first is
over exactly these bytes and both ephemeral keys. -/
structure PeerAuthentic {Key : Type} (prims : Primitives Key) (tbe : TbeData3)
    (roots : TrustedRoots) (now : MatterTime) (peerEphPub ephPub : Block 65) : Prop
    extends Sent tbe where
  chain : CertificateChain.validate prims.verify tbe.chain roots now = .ok ()
  signed : ∃ data signature, encodeTbsData tbe.peerNocTlv.bytes (tbe.peerIcacTlv.map (·.bytes))
      peerEphPub ephPub = .ok data ∧
    Cert.Signature.fromSlice tbe.peerSignature = .ok signature ∧
    prims.verify tbe.peerNoc.publicKey data signature = true

theorem decodeMessage_ok (ran : decodeMessage member init message bytes = .ok a) :
    ∃ state, message state = .ok a := by
  obtain ⟨r, ran⟩ := parseWhole_ok.mp ran
  obtain ⟨_, _, -, ran⟩ := of_run_bind_ok ran
  obtain ⟨state, _, -, ran⟩ := of_run_bind_ok ran
  refine ⟨state, ?_⟩
  cases checked : message state with
  | ok b =>
    rw [checked] at ran
    cases ran
    rfl
  | error e =>
    rw [checked] at ran
    cases ran

theorem peerCertificate_ok :
    peerCertificate tlv = .ok cert ↔ MatterCertificate.fromTlv tlv = .ok cert := by
  unfold peerCertificate
  cases MatterCertificate.fromTlv tlv <;> simp

theorem sent_of_certificates (ran : TbeFields.certificates noc signature icac = .ok tbe) :
    Sent tbe := by
  obtain ⟨cert, isNoc, rest⟩ := of_bind_ok ran
  obtain ⟨issuer, isIcac, rfl⟩ := of_bind_pure rest
  refine ⟨peerCertificate_ok.mp isNoc, ?_⟩
  cases icac with
  | none =>
    cases isIcac
    exact .inl ⟨rfl, rfl⟩
  | some tlv =>
    obtain ⟨ca, parsed, rfl⟩ := map_ok.mp isIcac
    exact .inr ⟨tlv, ca, rfl, rfl, peerCertificate_ok.mp parsed⟩

theorem sent_of_decodeTbedata2 (ran : decodeTbedata2 plaintext = .ok tbe) :
    Sent tbe.toTbeData3 := by
  obtain ⟨fields, ran⟩ := decodeMessage_ok ran
  obtain ⟨_, -, ran⟩ := of_bind_ok ran
  obtain ⟨_, -, ran⟩ := of_bind_ok ran
  obtain ⟨_, -, ran⟩ := of_bind_ok ran
  obtain ⟨_, certificates, last⟩ := of_bind_ok ran
  cases last
  exact sent_of_certificates certificates

theorem sent_of_decodeTbedata3 (ran : decodeTbedata3 plaintext = .ok tbe) : Sent tbe := by
  obtain ⟨fields, ran⟩ := decodeMessage_ok ran
  obtain ⟨_, -, ran⟩ := of_bind_ok ran
  obtain ⟨_, -, ran⟩ := of_bind_ok ran
  exact sent_of_certificates ran

variable {Key : Type} {prims : Primitives Key}

theorem validatePeerChain_ok (ran : prims.validatePeerChain tbe roots now = .ok u) :
    CertificateChain.validate prims.verify tbe.chain roots now = .ok () := by
  unfold Primitives.validatePeerChain at ran
  split at ran
  · assumption
  · cases ran

theorem peerAuthentic_of_checks (sent : Sent tbe)
    (chain : prims.validatePeerChain tbe roots now = .ok u)
    (signature : prims.verifyPeerSignature tbe peerEphPub ephPub = .ok v) :
    PeerAuthentic prims tbe roots now peerEphPub ephPub := by
  refine ⟨sent, validatePeerChain_ok chain, ?_⟩
  obtain ⟨data, encoded, ran⟩ := of_bind_ok signature
  split at ran
  · rename_i signature sized
    split at ran
    · rename_i verified
      exact ⟨data, signature, encoded, sized, verified⟩
    · cases ran
  · cases ran

theorem aeadDecrypt_ok :
    prims.aeadDecrypt key nonce ciphertext = .ok plaintext ↔
      prims.decrypt key nonce [] ciphertext = some plaintext := by
  unfold Primitives.aeadDecrypt
  cases prims.decrypt key nonce [] ciphertext <;> simp

theorem ecdhSharedSecret_ok :
    prims.ecdhSharedSecret secret peerPub = .ok shared ↔
      prims.diffieHellman secret peerPub = some shared := by
  unfold Primitives.ecdhSharedSecret
  cases prims.diffieHellman secret peerPub <;> simp [orInvalid]

end Evidence

section Initiator
variable {Key : Type} (prims : Primitives Key)

/-- What an accepted `Sigma2` proves: it opens under the key of this exchange, and
the peer is the one asked for. -/
structure Sigma2Authentic (setup : InitiatorSetup Key) (now : MatterTime) (sigma1 : Bytes)
    (bytes : Octets) (output : CaseSessionOutput) : Prop where
  checked : ∃ sigma2 secret s2k plaintext tbe, Sigma2.decode bytes = .ok sigma2 ∧
    prims.diffieHellman setup.ephSecret sigma2.responderEphPub = some secret ∧
    prims.deriveS2k secret setup.credentials.ipk sigma2.responderRandom sigma2.responderEphPub
      sigma1 = .ok s2k ∧
    prims.decrypt s2k nonceTbeData2 [] sigma2.encrypted = some plaintext ∧
    decodeTbedata2 plaintext = .ok tbe ∧
    PeerAuthentic prims tbe.toTbeData3 setup.trustedRoots now sigma2.responderEphPub setup.ephPub ∧
    output.peer.noc = tbe.peerNoc
  nodeId : output.peer.nodeId = setup.peerNodeId
  fabricId : output.peer.fabricId = setup.peerFabricId

/-- What an accepted `Sigma2_Resume` proves: the peer holds the record's secret. -/
structure ResumeAuthentic (setup : InitiatorSetup Key) (record : ResumptionRecord)
    (bytes : Octets) (output : CaseSessionOutput) : Prop where
  checked : ∃ message, Sigma2Resume.decode bytes = .ok message ∧
    prims.verifySigma2ResumeMic record.sharedSecret setup.initiatorRandom message.resumptionId
      message.resumeMic = .ok ()
  nodeId : output.peer.nodeId = record.peer.nodeId
  fabricId : output.peer.fabricId = record.peer.fabricId

inductive InitiatorCall where
  | withSessionParams (params : SessionParameters)
  | start
  | handleSigma2 (bytes : Octets)
  | handleSigma2Resume (bytes : Octets)
  | nextMessage

def CaseInitiator.call (initiator : CaseInitiator Key) :
    InitiatorCall → Except Error Reply × CaseInitiator Key
  | .withSessionParams params => (.ok .done, initiator.withSessionParams params)
  | .start => ((initiator.start prims).1.map .message, (initiator.start prims).2)
  | .handleSigma2 bytes =>
    ((initiator.handleSigma2 prims bytes).1.map fun _ => .done,
      (initiator.handleSigma2 prims bytes).2)
  | .handleSigma2Resume bytes =>
    ((initiator.handleSigma2Resume prims bytes).1.map fun _ => .done,
      (initiator.handleSigma2Resume prims bytes).2)
  | .nextMessage => (initiator.nextMessage.1.map .message, initiator.nextMessage.2)

def InitiatorCall.isAnswer : InitiatorCall → Bool
  | .handleSigma2 _ | .handleSigma2Resume _ => true
  | _ => false

inductive InitiatorMove (now : MatterTime) :
    InitiatorState Key → InitiatorCall → Reply → InitiatorState Key → Prop
  | configure (state : InitiatorState Key) (params : SessionParameters) :
    InitiatorMove now state (.withSessionParams params) .done state
  | start (sigma1 : Bytes) :
    InitiatorMove now (.awaitingStart setup record) .start (.message sigma1)
      (.awaitingSigma2 setup sigma1 record)
  | sigma2 (authentic : Sigma2Authentic prims setup now sigma1 bytes output) :
    InitiatorMove now (.awaitingSigma2 setup sigma1 attempt) (.handleSigma2 bytes) .done
      (.readyToSendSigma3 sigma3 output)
  | resume (authentic : ResumeAuthentic prims setup record bytes output) :
    InitiatorMove now (.awaitingSigma2 setup sigma1 (some record)) (.handleSigma2Resume bytes) .done
      (.complete output)
  | sigma3 (sigma3 : Bytes) (output : CaseSessionOutput) :
    InitiatorMove now (.readyToSendSigma3 sigma3 output) .nextMessage (.message sigma3)
      (.complete output)

/-- What can come of a call; an answer is refused only where none is waited for. -/
inductive InitiatorOutcome (initiator : CaseInitiator Key) (c : InitiatorCall) :
    Except Error Reply × CaseInitiator Key → Prop
  | moved (sameTime : after.validationTime = initiator.validationTime)
    (move : InitiatorMove prims initiator.validationTime initiator.state c r after.state) :
    InitiatorOutcome initiator c (.ok r, after)
  | poisoned (state : after.state = .poisoned) :
    InitiatorOutcome initiator c (.error e, after)
  | refused (idle : c.isAnswer = true → initiator.expectedInbound = none) :
    InitiatorOutcome initiator c (.error e, initiator)

variable {prims}

theorem verifiedIdentity_ok
    (ran : CaseInitiator.verifiedIdentity noc peerNodeId peerFabricId = .ok ids) :
    ids = (peerNodeId, peerFabricId) := by
  unfold CaseInitiator.verifiedIdentity at ran
  cases named : noc.subject.nodeId with
  | none => simp only [named, reduceCtorEq, bind, Except.bind] at ran
  | some nodeId =>
    cases fabric : noc.subject.fabricId with
    | none => simp only [named, fabric, reduceCtorEq, bind, Except.bind] at ran
    | some fabricId =>
      simp only [named, fabric] at ran
      obtain ⟨sameNode, rest⟩ := unless_throw_ok.mp ran
      obtain ⟨sameFabric, last⟩ := unless_throw_ok.mp rest
      cases last
      rw [not_not.mp sameNode, not_not.mp sameFabric]

theorem authentic_of_processSigma2
    (ran : CaseInitiator.processSigma2 prims bytes setup sigma1 now = .ok processed) :
    Sigma2Authentic prims setup now sigma1 bytes processed.output := by
  obtain ⟨sigma2, decoded, ran⟩ := of_bind_ok ran
  obtain ⟨params, -, ran⟩ := of_bind_ok ran
  obtain ⟨secret, shared, ran⟩ := of_bind_ok ran
  obtain ⟨s2k, derived, ran⟩ := of_bind_ok ran
  obtain ⟨plaintext, opened, ran⟩ := of_bind_ok ran
  obtain ⟨tbe, parsed, ran⟩ := of_bind_ok ran
  obtain ⟨_, chain, ran⟩ := of_bind_ok ran
  obtain ⟨ids, identity, ran⟩ := of_bind_ok ran
  obtain ⟨_, signature, ran⟩ := of_bind_ok ran
  obtain ⟨sigma3, -, ran⟩ := of_bind_ok ran
  obtain ⟨blob, -, last⟩ := of_bind_ok ran
  obtain rfl := verifiedIdentity_ok identity
  cases last
  exact ⟨⟨sigma2, secret, s2k, plaintext, tbe, decoded, ecdhSharedSecret_ok.mp shared, derived,
    aeadDecrypt_ok.mp opened, parsed,
    peerAuthentic_of_checks (sent_of_decodeTbedata2 parsed) chain signature, rfl⟩, rfl, rfl⟩

theorem authentic_of_resume (decoded : Sigma2Resume.decode bytes = .ok message)
    (ran : CaseInitiator.resume prims message setup record = .ok output) :
    ResumeAuthentic prims setup record bytes output := by
  obtain ⟨_, verified, ran⟩ := of_bind_ok ran
  obtain ⟨blob, -, rfl⟩ := of_bind_pure ran
  exact ⟨⟨message, decoded, verified⟩, rfl, rfl⟩

theorem call_initiator (initiator : CaseInitiator Key) (c : InitiatorCall) :
    InitiatorOutcome prims initiator c (initiator.call prims c) := by
  obtain ⟨state, params, own, now⟩ := initiator
  cases c with
  | withSessionParams own => exact .moved rfl (.configure _ _)
  | start =>
    cases state with
    | awaitingStart setup record =>
      rw [CaseInitiator.call, CaseInitiator.start]
      dsimp only
      cases CaseInitiator.buildSigma1 prims setup record own with
      | ok sigma1 => exact .moved rfl (.start sigma1)
      | error e => exact .poisoned rfl
    | _ => exact .refused nofun
  | handleSigma2 bytes =>
    cases state with
    | awaitingSigma2 setup sigma1 attempt =>
      rw [CaseInitiator.call, CaseInitiator.handleSigma2]
      dsimp only
      cases ran : CaseInitiator.processSigma2 prims bytes setup sigma1 now with
      | ok processed => exact .moved rfl (.sigma2 (authentic_of_processSigma2 ran))
      | error e => exact .poisoned rfl
    | _ => exact .refused fun _ => rfl
  | handleSigma2Resume bytes =>
    cases state with
    | awaitingSigma2 setup sigma1 attempt =>
      cases attempt with
      | none => exact .poisoned rfl
      | some record =>
        rw [CaseInitiator.call, CaseInitiator.handleSigma2Resume]
        cases decoded : Sigma2Resume.decode bytes with
        | error e => exact .poisoned rfl
        | ok message =>
          dsimp only
          cases message.sessionParameters with
          | error e => exact .poisoned rfl
          | ok params =>
            cases ran : CaseInitiator.resume prims message setup record with
            | ok output => exact .moved rfl (.resume (authentic_of_resume decoded ran))
            | error e => exact .poisoned rfl
    | _ => exact .refused fun _ => rfl
  | nextMessage =>
    cases state with
    | readyToSendSigma3 sigma3 output => exact .moved rfl (.sigma3 sigma3 output)
    | _ => exact .refused nofun

end Initiator

section Responder
variable {Key : Type} (prims : Primitives Key)

/-- What is kept of a `Sigma1` that asks for a resumption. -/
structure RequestFrom (bytes : Octets) (sigma1 : Sigma1) (request : ResumptionRequest) : Prop where
  sigma1Bytes : request.sigma1Bytes = bytes
  decoded : Sigma1.decode bytes = .ok sigma1
  id : sigma1.resumptionId = some request.resumptionIdPresented
  mic : sigma1.initiatorResumeMic = some request.initiatorResumeMicReceived
  random : request.initiatorRandom = sigma1.initiatorRandom
  ephPub : request.initiatorEphPub = sigma1.initiatorEphPub

/-- What is kept of a `Sigma1` that is answered with a `Sigma2`. -/
structure PendingFrom (setup : ResponderSetup Key) (bytes : Octets) (sigma1 : Sigma1)
    (pending : PendingSigma3) : Prop where
  credentials : pending.credentials = setup.credentials
  trustedRoots : pending.trustedRoots = setup.trustedRoots
  sigma1Bytes : pending.sigma1Bytes = bytes.bytes
  decoded : Sigma1.decode bytes = .ok sigma1
  shared : prims.diffieHellman setup.ephSecret sigma1.initiatorEphPub = some pending.sharedSecret
  initiatorEphPub : pending.initiatorEphPub = sigma1.initiatorEphPub
  ephPub : pending.ephPub = setup.ephPub

/-- What an accepted `Sigma3` proves: it opens under the key of this exchange, and
the peer is of the own fabric. -/
structure Sigma3Authentic (pending : PendingSigma3) (now : MatterTime) (bytes : Octets)
    (output : CaseSessionOutput) : Prop where
  checked : ∃ sigma3 s3k plaintext tbe, Sigma3.decode bytes = .ok sigma3 ∧
    prims.deriveS3k pending.sharedSecret pending.credentials.ipk pending.sigma1Bytes
      pending.sigma2Bytes = .ok s3k ∧
    prims.decrypt s3k nonceTbeData3 [] sigma3.encrypted = some plaintext ∧
    decodeTbedata3 plaintext = .ok tbe ∧
    PeerAuthentic prims tbe pending.trustedRoots now pending.initiatorEphPub pending.ephPub ∧
    output.peer.noc = tbe.peerNoc
  fabricId : output.peer.fabricId = output.localInfo.fabricId

/-- What an accepted resumption proves: the peer holds the secret of the record. -/
structure RequestAuthentic (setup : ResponderSetup Key) (request : ResumptionRequest)
    (record : ResumptionRecord) (output : CaseSessionOutput) : Prop where
  presented : record.id = request.resumptionIdPresented
  verified : prims.verifySigma1ResumeMic record.sharedSecret request.initiatorRandom
    request.resumptionIdPresented request.initiatorResumeMicReceived = .ok ()
  peer : output.peer.fabricId = record.peer.fabricId
  own : output.localInfo.fabricId = setup.credentials.fabricId

inductive ResponderCall where
  | withSessionParams (params : SessionParameters)
  | handleSigma1 (bytes : Octets) (drawn : Option (Block 16))
  | acceptResumption (record : ResumptionRecord) (drawn : Option (Block 16))
  | rejectResumption (drawn : Option (Block 16))
  | nextMessage
  | handleSigma3 (bytes : Octets)

def CaseResponder.call (responder : CaseResponder Key) :
    ResponderCall → Except Error Reply × CaseResponder Key
  | .withSessionParams params => (.ok .done, responder.withSessionParams params)
  | .handleSigma1 bytes drawn =>
    ((responder.handleSigma1 prims bytes drawn).1.map .sigma1,
      (responder.handleSigma1 prims bytes drawn).2)
  | .acceptResumption record drawn =>
    ((responder.acceptResumption prims record drawn).1.map fun _ => .done,
      (responder.acceptResumption prims record drawn).2)
  | .rejectResumption drawn =>
    ((responder.rejectResumption prims drawn).1.map fun _ => .done,
      (responder.rejectResumption prims drawn).2)
  | .nextMessage => (responder.nextMessage.1.map .message, responder.nextMessage.2)
  | .handleSigma3 bytes =>
    ((responder.handleSigma3 prims bytes).1.map fun _ => .done,
      (responder.handleSigma3 prims bytes).2)

def ResponderCall.isAnswer : ResponderCall → Bool
  | .handleSigma3 _ => true
  | _ => false

inductive ResponderMove (now : MatterTime) :
    ResponderState Key → ResponderCall → Reply → ResponderState Key → Prop
  | configure (state : ResponderState Key) (params : SessionParameters) :
    ResponderMove now state (.withSessionParams params) .done state
  | opened (kept : PendingFrom prims setup bytes sigma1 pending) :
    ResponderMove now (.awaitingSigma1 setup) (.handleSigma1 bytes drawn) (.sigma1 .newSession)
      (.readyToSendSigma2 pending)
  | asked (kept : RequestFrom bytes sigma1 request) :
    ResponderMove now (.awaitingSigma1 setup) (.handleSigma1 bytes drawn)
      (.sigma1 (.resumptionRequested request.resumptionIdPresented))
      (.awaitingResumptionDecision setup request)
  | accept (authentic : RequestAuthentic prims setup request record output) :
    ResponderMove now (.awaitingResumptionDecision setup request) (.acceptResumption record drawn)
      .done (.readyToSendSigma2Resume sigma2Resume output)
  | reject (kept : ∀ {bytes : Octets} {sigma1 : Sigma1},
      RequestFrom bytes sigma1 request → PendingFrom prims setup bytes sigma1 pending) :
    ResponderMove now (.awaitingResumptionDecision setup request) (.rejectResumption drawn) .done
      (.readyToSendSigma2 pending)
  | sigma2 (pending : PendingSigma3) :
    ResponderMove now (.readyToSendSigma2 pending) .nextMessage (.message pending.sigma2Bytes)
      (.awaitingSigma3 pending)
  | sigma2Resume (sigma2Resume : Bytes) (output : CaseSessionOutput) :
    ResponderMove now (.readyToSendSigma2Resume sigma2Resume output) .nextMessage
      (.message sigma2Resume) (.complete output)
  | sigma3 (authentic : Sigma3Authentic prims pending now bytes output) :
    ResponderMove now (.awaitingSigma3 pending) (.handleSigma3 bytes) .done (.complete output)

/-- What can come of a call. A `Sigma1` that fails may leave its session parameters
behind. -/
inductive ResponderOutcome (responder : CaseResponder Key) (c : ResponderCall) :
    Except Error Reply × CaseResponder Key → Prop
  | moved (sameTime : after.validationTime = responder.validationTime)
    (move : ResponderMove prims responder.validationTime responder.state c r after.state) :
    ResponderOutcome responder c (.ok r, after)
  | poisoned (state : after.state = .poisoned) :
    ResponderOutcome responder c (.error e, after)
  | refused (sameTime : after.validationTime = responder.validationTime)
    (sameState : after.state = responder.state)
    (idle : c.isAnswer = true → responder.expectedInbound ≠ some .sigma3) :
    ResponderOutcome responder c (.error e, after)

variable {prims}

theorem fabricId_of_verifiedIdentity
    (ran : CaseResponder.verifiedIdentity noc credentials = .ok ids) :
    ids.2 = credentials.fabricId := by
  unfold CaseResponder.verifiedIdentity at ran
  cases named : noc.subject.nodeId with
  | none => simp only [named, reduceCtorEq, bind, Except.bind] at ran
  | some nodeId =>
    cases fabric : noc.subject.fabricId with
    | none => simp only [named, fabric, reduceCtorEq, bind, Except.bind] at ran
    | some fabricId =>
      simp only [named, fabric] at ran
      obtain ⟨sameFabric, last⟩ := unless_throw_ok.mp ran
      cases last
      exact not_not.mp sameFabric

theorem authentic_of_processSigma3
    (ran : CaseResponder.processSigma3 prims bytes pending now = .ok output) :
    Sigma3Authentic prims pending now bytes output := by
  obtain ⟨sigma3, decoded, ran⟩ := of_bind_ok ran
  obtain ⟨s3k, derived, ran⟩ := of_bind_ok ran
  obtain ⟨plaintext, opened, ran⟩ := of_bind_ok ran
  obtain ⟨tbe, parsed, ran⟩ := of_bind_ok ran
  obtain ⟨_, chain, ran⟩ := of_bind_ok ran
  obtain ⟨ids, identity, ran⟩ := of_bind_ok ran
  obtain ⟨_, signature, ran⟩ := of_bind_ok ran
  obtain ⟨blob, -, rfl⟩ := of_bind_pure ran
  exact ⟨⟨sigma3, s3k, plaintext, tbe, decoded, derived, aeadDecrypt_ok.mp opened, parsed,
    peerAuthentic_of_checks (sent_of_decodeTbedata3 parsed) chain signature, rfl⟩,
    fabricId_of_verifiedIdentity identity⟩

theorem shared_of_buildSigma2 {id : Block 16}
    (ran : CaseResponder.buildSigma2 prims bytes sigma1 setup id params = .ok (sigma2, secret)) :
    prims.diffieHellman setup.ephSecret sigma1.initiatorEphPub = some secret := by
  obtain ⟨shared, agreed, ran⟩ := of_bind_ok ran
  obtain ⟨_, -, ran⟩ := of_bind_ok ran
  obtain ⟨_, -, ran⟩ := of_bind_ok ran
  obtain ⟨_, -, ran⟩ := of_bind_ok ran
  obtain ⟨_, -, ran⟩ := of_bind_ok ran
  obtain ⟨_, -, ran⟩ := of_bind_ok ran
  obtain ⟨_, -, ran⟩ := of_bind_ok ran
  obtain ⟨_, -, ran⟩ := of_bind_ok ran
  obtain ⟨_, -, ran⟩ := of_bind_ok ran
  obtain ⟨_, -, last⟩ := of_bind_ok ran
  cases last
  exact ecdhSharedSecret_ok.mp agreed

theorem authentic_of_resumption
    (ran : CaseResponder.resume prims setup request record newId params = .ok built) :
    RequestAuthentic prims setup request record built.2 := by
  obtain ⟨presented, ran⟩ := unless_throw_ok.mp ran
  obtain ⟨_, verified, ran⟩ := of_bind_ok ran
  obtain ⟨_, -, ran⟩ := of_bind_ok ran
  obtain ⟨_, -, ran⟩ := of_bind_ok ran
  obtain ⟨_, -, ran⟩ := of_bind_ok ran
  obtain ⟨_, -, ran⟩ := of_bind_ok ran
  obtain ⟨_, -, last⟩ := of_bind_ok ran
  cases last
  exact ⟨not_not.mp presented, verified, rfl, rfl⟩

theorem decoded_of_acceptSigma1
    (ran : CaseResponder.acceptSigma1 prims setup bytes = .ok (sigma1, params)) :
    Sigma1.decode bytes = .ok sigma1 := by
  obtain ⟨_, decoded, ran⟩ := of_bind_ok ran
  obtain ⟨-, ran⟩ := unless_throw_ok.mp ran
  obtain ⟨_, -, last⟩ := of_bind_ok ran
  cases last
  exact decoded

theorem pendingFrom_of_newSession {responder : CaseResponder Key} {drawn : Option (Block 16)}
    (decoded : Sigma1.decode bytes = .ok sigma1)
    (ran : responder.newSession prims setup sigma1 bytes.bytes drawn = .ok pending) :
    PendingFrom prims setup bytes sigma1 pending := by
  obtain ⟨id, -, ran⟩ := of_bind_ok ran
  obtain ⟨⟨sigma2, secret⟩, answer, last⟩ := of_bind_ok ran
  cases last
  exact ⟨rfl, rfl, rfl, decoded, shared_of_buildSigma2 answer, rfl, rfl⟩

section
variable (responder : CaseResponder Key)

/-- A `Sigma1` is taken, with or without a resumption, or waited for again. -/
theorem call_handleSigma1 (bytes : Octets) (drawn : Option (Block 16)) :
    ResponderOutcome prims responder (.handleSigma1 bytes drawn)
      (responder.call prims (.handleSigma1 bytes drawn)) := by
  obtain ⟨state, params, own, now, fixedId⟩ := responder
  cases state with
  | awaitingSigma1 setup =>
    rw [CaseResponder.call, CaseResponder.handleSigma1]
    dsimp only
    cases ran : CaseResponder.acceptSigma1 prims setup bytes with
    | error e => exact .refused rfl rfl nofun
    | ok accepted =>
      obtain ⟨sigma1, params⟩ := accepted
      have decoded := decoded_of_acceptSigma1 ran
      dsimp only
      split
      · rename_i id mic isId isMic
        have kept : RequestFrom bytes sigma1 ⟨sigma1.initiatorRandom, sigma1.initiatorEphPub,
            sigma1.initiatorSessionId, bytes, id, mic⟩ :=
          ⟨rfl, decoded, isId, isMic, rfl, rfl⟩
        exact .moved rfl (.asked kept)
      · split
        · exact .refused rfl rfl nofun
        · rename_i pending built
          exact .moved rfl (.opened (pendingFrom_of_newSession decoded built))
  | _ => exact .refused rfl rfl nofun

theorem call_acceptResumption (record : ResumptionRecord) (drawn : Option (Block 16)) :
    ResponderOutcome prims responder (.acceptResumption record drawn)
      (responder.call prims (.acceptResumption record drawn)) := by
  obtain ⟨state, params, own, now, fixedId⟩ := responder
  cases state with
  | awaitingResumptionDecision setup request =>
    rw [CaseResponder.call, CaseResponder.acceptResumption]
    dsimp only
    generalize CaseResponder.freshResumptionId _ drawn = newId
    cases ran : CaseResponder.resume prims setup request record newId own with
    | error e => exact .poisoned rfl
    | ok built => exact .moved rfl (.accept (authentic_of_resumption ran))
  | _ => exact .refused rfl rfl nofun

/-- `Sigma1` is read a second time; what was kept of it is what it says. -/
theorem call_rejectResumption (drawn : Option (Block 16)) :
    ResponderOutcome prims responder (.rejectResumption drawn)
      (responder.call prims (.rejectResumption drawn)) := by
  obtain ⟨state, params, own, now, fixedId⟩ := responder
  cases state with
  | awaitingResumptionDecision setup request =>
    rw [CaseResponder.call, CaseResponder.rejectResumption]
    dsimp only
    cases decoded : Sigma1.decode request.sigma1Bytes with
    | error e => exact .poisoned rfl
    | ok again =>
      simp only [bind, Except.bind]
      cases ran : CaseResponder.newSession prims _ setup again request.sigma1Bytes.bytes drawn with
      | error e => exact .poisoned rfl
      | ok pending =>
        have kept := pendingFrom_of_newSession decoded ran
        refine .moved rfl (.reject fun {bytes sigma1} request => ?_)
        obtain rfl := request.sigma1Bytes
        obtain rfl := Except.ok.inj (decoded.symm.trans request.decoded)
        exact ⟨kept.credentials, kept.trustedRoots, kept.sigma1Bytes, decoded, kept.shared,
          request.ephPub, kept.ephPub⟩
  | _ => exact .refused rfl rfl nofun

theorem call_responder (c : ResponderCall) :
    ResponderOutcome prims responder c (responder.call prims c) := by
  cases c with
  | withSessionParams own => exact .moved rfl (.configure _ _)
  | handleSigma1 bytes drawn => exact call_handleSigma1 responder bytes drawn
  | acceptResumption record drawn => exact call_acceptResumption responder record drawn
  | rejectResumption drawn => exact call_rejectResumption responder drawn
  | nextMessage =>
    obtain ⟨state, params, own, now, fixedId⟩ := responder
    cases state with
    | readyToSendSigma2 pending => exact .moved rfl (.sigma2 pending)
    | readyToSendSigma2Resume bytes output => exact .moved rfl (.sigma2Resume bytes output)
    | _ => exact .refused rfl rfl nofun
  | handleSigma3 bytes =>
    obtain ⟨state, params, own, now, fixedId⟩ := responder
    cases state with
    | awaitingSigma3 pending =>
      rw [CaseResponder.call, CaseResponder.handleSigma3]
      dsimp only
      cases ran : CaseResponder.processSigma3 prims bytes pending now with
      | error e => exact .poisoned rfl
      | ok output => exact .moved rfl (.sigma3 (authentic_of_processSigma3 ran))
    | _ => exact .refused rfl rfl fun _ => nofun

end

end Responder

end Matter.Case
