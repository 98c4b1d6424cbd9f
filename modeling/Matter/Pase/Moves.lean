import Matter.Base.Exits
import Matter.Pase.Prover
import Matter.Pase.Verifier

/-! What a call does to either machine: it moves it on, is refused without a
trace, or poisons it. -/
namespace Matter.Pase
open Codec hiding Error
open Handshake Exits
open Cert (Block)

structure Confirmation where
  cb : Block 32
  ca : Block 32
  sessionKeys : PaseSessionKeys

section Prover
variable {F G : Type} [Field F] [AddCommGroup G] [Module F G] (suite : Suite F G)

/-- The tags and keys of a transcript. -/
structure Suite.Confirms (tt : Block 32) (xBytes yBytes : Block 65) (c : Confirmation) : Prop where
  tags : ∃ kca kcb, suite.deriveConfirmationKeys (kaKeFromTranscript tt).1 = .ok (kca, kcb) ∧
    c.cb = suite.computeCb kcb xBytes ∧ c.ca = suite.computeCa kca yBytes
  keys : ∃ blob, suite.deriveSessionKeys (kaKeFromTranscript tt).2 = .ok blob ∧
    c.sessionKeys = buildSessionKeys (kaKeFromTranscript tt).2 blob

/-- `Pake1` carries the share of the secret derived from the PIN. -/
structure Shares (pin : UInt32) (params : PasePbkdfParams) (x w0 w1 : F) (xBytes : Block 65)
    (pake1 : Bytes) : Prop where
  derived : suite.deriveW0W1 pin params = .ok (w0, w1)
  share : suite.computeX x w0 = .ok xBytes
  encoded : Pake1.encode ⟨xBytes⟩ = .ok pake1

/-- `Pake2` carries the tag of the prover's own transcript. -/
structure Verified (x w0 w1 : F) (xBytes : Block 65) (context : Block 32) (pake2 : Octets)
    (c : Confirmation) : Prop where
  checked : ∃ m z v, Pake2.decode pake2 = .ok m ∧ suite.computeZVProver x w0 w1 m.y = .ok (z, v) ∧
    suite.Confirms (suite.transcriptHash context xBytes m.y z v w0) xBytes m.y c ∧
    m.verifier = c.cb

def requestOf (initiatorRandom : Block 32) (initiatorSessionId : UInt16) : PbkdfParamRequest where
  initiatorRandom := initiatorRandom
  initiatorSessionId := initiatorSessionId
  passcodeId := 0
  hasPbkdfParameters := false
  initiatorSessionParams := none

inductive ProverCall where
  | start
  | handlePbkdfResponse (bytes : Octets)
  | handlePake2 (bytes : Octets)
  | nextMessage

def PaseProver.call (prover : PaseProver F) : ProverCall → Except Error (Option Bytes) × PaseProver F
  | .start => ((prover.start suite).1.map some, (prover.start suite).2)
  | .handlePbkdfResponse bytes =>
    ((prover.handlePbkdfResponse suite bytes).1.map fun _ => none,
      (prover.handlePbkdfResponse suite bytes).2)
  | .handlePake2 bytes =>
    ((prover.handlePake2 suite bytes).1.map fun _ => none, (prover.handlePake2 suite bytes).2)
  | .nextMessage => ((prover.nextMessage suite).1.map some, (prover.nextMessage suite).2)

inductive ProverMove : ProverState F → ProverCall → Option Bytes → ProverState F → Prop
  | request {id : UInt16} (encoded : (requestOf random id).encode = .ok bytes) :
    ProverMove (.awaitingStartNegotiation pin x random id) .start (some bytes)
      (.awaitingPbkdfResponse pin x bytes)
  | knownShare (shares : Shares suite pin params x w0 w1 xBytes bytes) :
    ProverMove (.awaitingStartKnownParams pin params x) .start (some bytes)
      (.awaitingPake2 w0 w1 x xBytes (suite.hashContext []))
  | response (decoded : PbkdfParamResponse.decode bytes = .ok resp)
    (offered : resp.pbkdfParameters = some params) (valid : validateParams params = .ok ()) :
    ProverMove (.awaitingPbkdfResponse pin x sent) (.handlePbkdfResponse bytes) none
      (.readyToSendPake1 pin params x (suite.hashContext [sent, bytes.bytes]))
  | share (shares : Shares suite pin params x w0 w1 xBytes bytes) :
    ProverMove (.readyToSendPake1 pin params x context) .nextMessage (some bytes)
      (.awaitingPake2 w0 w1 x xBytes context)
  | confirm (verified : Verified suite x w0 w1 xBytes context bytes c) :
    ProverMove (.awaitingPake2 w0 w1 x xBytes context) (.handlePake2 bytes) none
      (.readyToSendPake3 c.ca c.sessionKeys)
  | complete (encoded : Pake3.encode ⟨ca⟩ = .ok bytes) :
    ProverMove (.readyToSendPake3 ca keys) .nextMessage (some bytes) (.complete keys)

def ProverState.expects : ProverState F → ProverCall → Bool
  | .awaitingStartNegotiation _ _ _ _, .start => true
  | .awaitingStartKnownParams _ _ _, .start => true
  | .awaitingPbkdfResponse _ _ _, .handlePbkdfResponse _ => true
  | .readyToSendPake1 _ _ _ _, .nextMessage => true
  | .awaitingPake2 _ _ _ _ _, .handlePake2 _ => true
  | .readyToSendPake3 _ _, .nextMessage => true
  | _, _ => false

inductive ProverOutcome (prover : PaseProver F) (c : ProverCall) :
    Except Error (Option Bytes) × PaseProver F → Prop
  | moved (expected : prover.state.expects c = true)
    (move : ProverMove suite prover.state c r after.state) :
    ProverOutcome prover c (.ok r, after)
  | poisoned (expected : prover.state.expects c = true)
    (state : after.state = .poisoned) : ProverOutcome prover c (.error e, after)
  | refused (kind : PaseMessageKind) (unexpected : prover.state.expects c = false) :
    ProverOutcome prover c (.error (.unexpectedMessage kind kind), prover)

variable {suite}

theorem ProverOutcome.of_advance {prover before : PaseProver F} {result : α → Option Bytes}
    (expected : prover.state.expects c = true)
    (moves : ∀ a state, work = .ok (a, state) → ProverMove suite prover.state c (result a) state) :
    ProverOutcome suite prover c ((before.advance work).1.map result, (before.advance work).2) := by
  cases ran : work with
  | ok moved => exact .moved expected (moves moved.1 moved.2 ran)
  | error e => exact .poisoned expected rfl

theorem shares_of_sendPake1
    (ran : PaseProver.sendPake1 suite pin params x context = .ok (bytes, state)) :
    ∃ w0 w1 xBytes, Shares suite pin params x w0 w1 xBytes bytes ∧
      state = .awaitingPake2 w0 w1 x xBytes context := by
  obtain ⟨⟨w0, w1⟩, derived, rest⟩ := of_bind_ok ran
  obtain ⟨xBytes, share, rest⟩ := of_bind_ok rest
  obtain ⟨encoded, isEncoded, last⟩ := of_bind_ok rest
  cases last
  exact ⟨w0, w1, xBytes, ⟨derived, share, isEncoded⟩, rfl⟩

theorem orInvalid_ok : orInvalid value = .ok a ↔ value = some a := by
  cases value <;> simp [orInvalid]

theorem verifyTag_ok {expected received : Block 32} :
    verifyTag expected received = .ok u ↔ expected = received := by
  unfold verifyTag
  split <;> simp_all

theorem call_prover (prover : PaseProver F) (c : ProverCall) :
    ProverOutcome suite prover c (prover.call suite c) := by
  obtain ⟨state, id⟩ := prover
  cases c with
  | start =>
    cases state with
    | awaitingStartNegotiation pin x random id =>
      apply ProverOutcome.of_advance rfl
      intro bytes next ran
      obtain ⟨_, encoded, last⟩ := of_bind_ok ran
      cases last
      exact .request encoded
    | awaitingStartKnownParams pin params x =>
      apply ProverOutcome.of_advance rfl
      intro bytes next ran
      obtain ⟨_, _, _, shares, rfl⟩ := shares_of_sendPake1 ran
      exact .knownShare shares
    | _ => exact .refused .pbkdfParamRequest rfl
  | handlePbkdfResponse bytes =>
    cases state with
    | awaitingPbkdfResponse pin x sent =>
      rw [PaseProver.call, PaseProver.handlePbkdfResponse]
      cases decoded : PbkdfParamResponse.decode bytes with
      | error e => exact .poisoned rfl rfl
      | ok resp =>
        apply ProverOutcome.of_advance rfl
        intro u next ran
        obtain ⟨params, offered, rest⟩ := of_bind_ok ran
        obtain ⟨_, valid, last⟩ := of_bind_ok rest
        cases last
        exact .response decoded (orInvalid_ok.mp offered) valid
    | _ => exact .refused .pbkdfParamResponse rfl
  | handlePake2 bytes =>
    cases state with
    | awaitingPake2 w0 w1 x xBytes context =>
      apply ProverOutcome.of_advance rfl
      intro u next ran
      obtain ⟨m, decoded, rest⟩ := of_bind_ok ran
      obtain ⟨⟨z, v⟩, computed, rest⟩ := of_bind_ok rest
      obtain ⟨⟨kca, kcb⟩, confirmation, rest⟩ := of_bind_ok rest
      obtain ⟨_, verified, rest⟩ := of_bind_ok rest
      obtain ⟨blob, session, last⟩ := of_bind_ok rest
      cases last
      have same := verifyTag_ok.mp verified
      exact .confirm (c := ⟨_, _, _⟩) ⟨m, z, v, decoded, computed,
        ⟨⟨kca, kcb, confirmation, rfl, rfl⟩, blob, session, rfl⟩, same.symm⟩
    | _ => exact .refused .pake2 rfl
  | nextMessage =>
    cases state with
    | readyToSendPake1 pin params x context =>
      apply ProverOutcome.of_advance rfl
      intro bytes next ran
      obtain ⟨_, _, _, shares, rfl⟩ := shares_of_sendPake1 ran
      exact .share shares
    | readyToSendPake3 ca keys =>
      apply ProverOutcome.of_advance rfl
      intro bytes next ran
      obtain ⟨_, encoded, last⟩ := of_bind_ok ran
      cases last
      exact .complete encoded
    | _ => exact .refused .pake1 rfl

end Prover

section Verifier
variable {F G : Type} [Field F] [AddCommGroup G] [Module F G] (suite : Suite F G)

/-- The verifier's answer to a share. -/
structure Answers (y w0 : F) (l : Block 65) (context : Block 32) (pake1 : Octets)
    (yBytes : Block 65) (c : Confirmation) : Prop where
  computed : ∃ m z v, Pake1.decode pake1 = .ok m ∧ suite.computeY y w0 = .ok yBytes ∧
    suite.computeZVVerifier y w0 l m.x = .ok (z, v) ∧
    suite.Confirms (suite.transcriptHash context m.x yBytes z v w0) m.x yBytes c

def responseOf (initiatorRandom responderRandom : Block 32) (responderSessionId : UInt16)
    (params : PasePbkdfParams) : PbkdfParamResponse where
  initiatorRandom := initiatorRandom
  responderRandom := responderRandom
  responderSessionId := responderSessionId
  pbkdfParameters := some params
  responderSessionParams := none

inductive VerifierCall where
  | handlePbkdfRequest (bytes : Octets)
  | handlePake1 (bytes : Octets)
  | handlePake3 (bytes : Octets)
  | nextMessage

def PaseVerifier.call (verifier : PaseVerifier F) :
    VerifierCall → Except Error (Option Bytes) × PaseVerifier F
  | .handlePbkdfRequest bytes =>
    ((verifier.handlePbkdfRequest bytes).1.map fun _ => none, (verifier.handlePbkdfRequest bytes).2)
  | .handlePake1 bytes =>
    ((verifier.handlePake1 suite bytes).1.map fun _ => none, (verifier.handlePake1 suite bytes).2)
  | .handlePake3 bytes =>
    ((verifier.handlePake3 bytes).1.map fun _ => none, (verifier.handlePake3 bytes).2)
  | .nextMessage => ((verifier.nextMessage suite).1.map some, (verifier.nextMessage suite).2)

/-- The successful calls. `Pake2` can be sent again. -/
inductive VerifierMove : VerifierState F → VerifierCall → Option Bytes → VerifierState F → Prop
  | request {id : UInt16} (decoded : PbkdfParamRequest.decode bytes = .ok req) :
    VerifierMove (.awaitingFirstMessage w0 l params y random id) (.handlePbkdfRequest bytes) none
      (.readyToSendPbkdfResponse w0 l params y bytes.bytes random req.initiatorRandom id)
  | respond {id : UInt16}
    (encoded : (responseOf initiatorRandom random id params).encode = .ok bytes) :
    VerifierMove (.readyToSendPbkdfResponse w0 l params y request random initiatorRandom id)
      .nextMessage (some bytes) (.awaitingPake1 w0 l y (suite.hashContext [request, bytes]))
  | knownShare {id : UInt16}
    (answers : Answers suite y w0 l (suite.hashContext []) bytes yBytes c) :
    VerifierMove (.awaitingFirstMessage w0 l params y random id) (.handlePake1 bytes) none
      (.readyToSendPake2 yBytes c.cb c.ca c.sessionKeys)
  | share (answers : Answers suite y w0 l context bytes yBytes c) :
    VerifierMove (.awaitingPake1 w0 l y context) (.handlePake1 bytes) none
      (.readyToSendPake2 yBytes c.cb c.ca c.sessionKeys)
  | answer (encoded : Pake2.encode ⟨yBytes, cb⟩ = .ok bytes) :
    VerifierMove (.readyToSendPake2 yBytes cb ca keys) .nextMessage (some bytes)
      (.readyToSendPake2 yBytes cb ca keys)
  | complete (decoded : Pake3.decode bytes = .ok ⟨ca⟩) :
    VerifierMove (.readyToSendPake2 yBytes cb ca keys) (.handlePake3 bytes) none (.complete keys)

def VerifierState.expects : VerifierState F → VerifierCall → Bool
  | .awaitingFirstMessage _ _ _ _ _ _, .handlePbkdfRequest _ => true
  | .awaitingFirstMessage _ _ _ _ _ _, .handlePake1 _ => true
  | .readyToSendPbkdfResponse _ _ _ _ _ _ _ _, .nextMessage => true
  | .awaitingPake1 _ _ _ _, .handlePake1 _ => true
  | .readyToSendPake2 _ _ _ _, .nextMessage => true
  | .readyToSendPake2 _ _ _ _, .handlePake3 _ => true
  | _, _ => false

inductive VerifierOutcome (verifier : PaseVerifier F) (c : VerifierCall) :
    Except Error (Option Bytes) × PaseVerifier F → Prop
  | moved (expected : verifier.state.expects c = true)
    (move : VerifierMove suite verifier.state c r after.state) :
    VerifierOutcome verifier c (.ok r, after)
  | poisoned (expected : verifier.state.expects c = true)
    (state : after.state = .poisoned) : VerifierOutcome verifier c (.error e, after)
  | refused (kind : PaseMessageKind) (unexpected : verifier.state.expects c = false) :
    VerifierOutcome verifier c (.error (.unexpectedMessage kind kind), verifier)

variable {suite}

theorem VerifierOutcome.of_advance {work : Except Error (α × VerifierState F)}
    (expected : verifier.state.expects c = true) (moves : ∀ a state, work = .ok (a, state) →
      VerifierMove suite verifier.state c (result a) state) :
    VerifierOutcome suite verifier c
      ((PaseVerifier.advance work).1.map result, (PaseVerifier.advance work).2) := by
  cases ran : work with
  | ok moved => exact .moved expected (moves moved.1 moved.2 ran)
  | error e => exact .poisoned expected rfl

theorem answers_of_computePake2
    (ran : PaseVerifier.computePake2 suite w0 l y context bytes = .ok (u, state)) :
    ∃ yBytes c, Answers suite y w0 l context bytes yBytes c ∧
      state = .readyToSendPake2 yBytes c.cb c.ca c.sessionKeys := by
  obtain ⟨m, decoded, rest⟩ := of_bind_ok ran
  obtain ⟨yBytes, share, rest⟩ := of_bind_ok rest
  obtain ⟨⟨z, v⟩, computed, rest⟩ := of_bind_ok rest
  obtain ⟨⟨kca, kcb⟩, confirmation, rest⟩ := of_bind_ok rest
  obtain ⟨blob, session, last⟩ := of_bind_ok rest
  cases last
  exact ⟨yBytes, ⟨_, _, _⟩, ⟨m, z, v, decoded, share, computed,
    ⟨⟨kca, kcb, confirmation, rfl, rfl⟩, blob, session, rfl⟩⟩, rfl⟩

theorem call_verifier (verifier : PaseVerifier F) (c : VerifierCall) :
    VerifierOutcome suite verifier c (verifier.call suite c) := by
  obtain ⟨state⟩ := verifier
  cases c with
  | handlePbkdfRequest bytes =>
    cases state with
    | awaitingFirstMessage w0 l params y random id =>
      apply VerifierOutcome.of_advance rfl
      intro u next ran
      obtain ⟨req, decoded, last⟩ := of_bind_ok ran
      cases last
      exact .request decoded
    | _ => exact .refused .pbkdfParamRequest rfl
  | handlePake1 bytes =>
    cases state with
    | awaitingFirstMessage w0 l params y random id =>
      apply VerifierOutcome.of_advance rfl
      intro u next ran
      obtain ⟨_, _, answers, rfl⟩ := answers_of_computePake2 ran
      exact .knownShare answers
    | awaitingPake1 w0 l y context =>
      apply VerifierOutcome.of_advance rfl
      intro u next ran
      obtain ⟨_, _, answers, rfl⟩ := answers_of_computePake2 ran
      exact .share answers
    | _ => exact .refused .pake1 rfl
  | handlePake3 bytes =>
    cases state with
    | readyToSendPake2 yBytes cb ca keys =>
      apply VerifierOutcome.of_advance rfl
      intro u next ran
      obtain ⟨m, decoded, rest⟩ := of_bind_ok ran
      obtain ⟨_, verified, last⟩ := of_bind_ok rest
      cases last
      obtain rfl := verifyTag_ok.mp verified
      exact .complete decoded
    | _ => exact .refused .pake3 rfl
  | nextMessage =>
    cases state with
    | readyToSendPbkdfResponse w0 l params y request random initiatorRandom id =>
      apply VerifierOutcome.of_advance rfl
      intro bytes next ran
      obtain ⟨_, encoded, last⟩ := of_bind_ok ran
      cases last
      exact .respond encoded
    | readyToSendPake2 yBytes cb ca keys =>
      apply VerifierOutcome.of_advance rfl
      intro bytes next ran
      obtain ⟨_, encoded, last⟩ := of_bind_ok ran
      cases last
      exact .answer encoded
    | _ => exact .refused .pbkdfParamResponse rfl

end Verifier

end Matter.Pase
