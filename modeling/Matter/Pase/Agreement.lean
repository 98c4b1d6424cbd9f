import Mathlib.Algebra.Module.Torsion.Field
import Matter.Pase.Codec
import Matter.Pase.Order

/-! Two honest parties that hand their messages to each other. Both transcripts
are hashes of the same bytes when the parties share a PIN; when the hashes, and
with them the tags, differ, the prover refuses `Pake2`. A share that is the point
at infinity cannot be sent. -/
namespace Matter.Pase
open Codec hiding Error
open Handshake Exits
open Cert (Block)

abbrev SessionM (F : Type) := EStateM Error (PaseProver F × PaseVerifier F)

section Session
variable {F α : Type}

def onProver (call : PaseProver F → Except Error α × PaseProver F) : SessionM F α :=
  fun (prover, verifier) =>
    match call prover with
    | (.ok a, prover) => .ok a (prover, verifier)
    | (.error e, prover) => .error e (prover, verifier)

def onVerifier (call : PaseVerifier F → Except Error α × PaseVerifier F) : SessionM F α :=
  fun (prover, verifier) =>
    match call verifier with
    | (.ok a, verifier) => .ok a (prover, verifier)
    | (.error e, verifier) => .error e (prover, verifier)

variable {prover next : PaseProver F} {verifier after : PaseVerifier F} {a : α}

theorem run_onProver (called : call prover = (.ok a, next)) :
    (onProver call).run (prover, verifier) = .ok a (next, verifier) := by
  change (match call prover with | (.ok a, prover) => _ | (.error e, prover) => _) = _
  rw [called]

theorem run_onProver_error (called : call prover = (.error e, next)) :
    (onProver call).run (prover, verifier) = .error e (next, verifier) := by
  change (match call prover with | (.ok a, prover) => _ | (.error e, prover) => _) = _
  rw [called]

theorem run_onVerifier (called : call verifier = (.ok a, after)) :
    (onVerifier call).run (prover, verifier) = .ok a (prover, after) := by
  change (match call verifier with | (.ok a, verifier) => _ | (.error e, verifier) => _) = _
  rw [called]

end Session

variable {F G : Type} [Field F] [AddCommGroup G] [Module F G] (suite : Suite F G)

/-- From the verifier's share on. -/
def confirmation (pake2 : Bytes) : SessionM F Unit := do
  onProver fun prover => prover.handlePake2 suite (received pake2)
  let pake3 ← onProver fun prover => prover.nextMessage suite
  onVerifier fun verifier => verifier.handlePake3 (received pake3)

/-- From the prover's share on. -/
def keyExchange (pake1 : Bytes) : SessionM F Unit := do
  onVerifier fun verifier => verifier.handlePake1 suite (received pake1)
  let pake2 ← onVerifier fun verifier => verifier.nextMessage suite
  confirmation suite pake2

def negotiation : SessionM F Bytes := do
  let request ← onProver fun prover => prover.start suite
  onVerifier fun verifier => verifier.handlePbkdfRequest (received request)
  let response ← onVerifier fun verifier => verifier.nextMessage suite
  onProver fun prover => prover.handlePbkdfResponse suite (received response)
  onProver fun prover => prover.nextMessage suite

/-- Every message delivered in its turn. -/
def exchange (negotiates : Bool) : SessionM F Unit := do
  let pake1 ← if negotiates then negotiation suite else onProver fun prover => prover.start suite
  keyExchange suite pake1

namespace ProverSetup

def pin : ProverSetup F → UInt32
  | .negotiation pin _ _ _ => pin
  | .knownParams pin _ _ => pin

def xScalar : ProverSetup F → F
  | .negotiation _ x _ _ => x
  | .knownParams _ _ x => x

def params (offered : PasePbkdfParams) : ProverSetup F → PasePbkdfParams
  | .negotiation _ _ _ _ => offered
  | .knownParams _ params _ => params

end ProverSetup

namespace Suite

def openingContext (prover : ProverSetup F) (verifier : VerifierSetup F) :
    Except Error (Block 32) :=
  match prover with
  | .negotiation _ _ random id => do
    let request ← (requestOf random id).encode
    let response ← (responseOf random verifier.responderRandom verifier.sessionId
      verifier.params).encode
    return suite.hashContext [request, response]
  | .knownParams _ _ _ => .ok (suite.hashContext [])

/-- The prover's share and the transcript hashes of the prover and the verifier. -/
def hashes (prover : ProverSetup F) (verifier : VerifierSetup F) :
    Except Error (Block 65 × Block 32 × Block 32) := do
  let context ← suite.openingContext prover verifier
  let (w0, w1) ← suite.deriveW0W1 prover.pin (prover.params verifier.params)
  let xBytes ← suite.computeX prover.xScalar w0
  let yBytes ← suite.computeY verifier.yScalar verifier.w0
  let (z, v) ← suite.computeZVProver prover.xScalar w0 w1 yBytes
  let (zPeer, vPeer) ← suite.computeZVVerifier verifier.yScalar verifier.w0 verifier.l xBytes
  return (xBytes, suite.transcriptHash context xBytes yBytes z v w0,
    suite.transcriptHash context xBytes yBytes zPeer vPeer verifier.w0)

/-- The tag that confirms a transcript to the prover. -/
def tagOf (tt : Block 32) (xBytes : Block 65) : Except Error (Block 32) := do
  let (_, kcb) ← suite.deriveConfirmationKeys (kaKeFromTranscript tt).1
  return suite.computeCb kcb xBytes

end Suite

def Completes (prover : ProverSetup F) (verifier : VerifierSetup F) (keys : PaseSessionKeys) :
    Prop :=
  ∃ p v, (exchange suite prover.negotiates).run (prover.prover, verifier.verifier) =
      .ok () (p, v) ∧ p.finish = .ok keys ∧ v.finish = .ok keys

def Rejects (prover : ProverSetup F) (verifier : VerifierSetup F) : Prop :=
  ∃ p v, (exchange suite prover.negotiates).run (prover.prover, verifier.verifier) =
      .error .confirmationTagMismatch (p, v) ∧ p.state = .poisoned ∧
    p.finish = .error .handshakeIncomplete ∧ v.finish = .error .handshakeIncomplete

/-- The parties with the prover's share on its way: the verifier is to answer it
with these values, in either of the two states it may be in. -/
structure Opened (x w0 w1 : F) (xBytes : Block 65) (y w0' : F) (l : Block 65) (context : Block 32)
    (prover : PaseProver F) (verifier : PaseVerifier F) : Prop where
  prover : prover.state = .awaitingPake2 w0 w1 x xBytes context
  verifier : ∀ bytes, verifier.handlePake1 suite bytes =
    PaseVerifier.advance (PaseVerifier.computePake2 suite w0' l y context bytes)

/-- What the parties derive from each other's shares. -/
structure Meets (x w0 w1 : F) (xBytes : Block 65) (y w0' : F) (l : Block 65) (context : Block 32)
    (tt tt' : Block 32) (yBytes : Block 65) : Prop where
  share : suite.computeY y w0' = .ok yBytes
  prover : ∃ z v, suite.computeZVProver x w0 w1 yBytes = .ok (z, v) ∧
    tt = suite.transcriptHash context xBytes yBytes z v w0
  verifier : ∃ z v, suite.computeZVVerifier y w0' l xBytes = .ok (z, v) ∧
    tt' = suite.transcriptHash context xBytes yBytes z v w0'

/-! Both sides derive tags and keys from any transcript. -/

variable {suite}

theorem Suite.exists_confirms (tt : Block 32) (xBytes yBytes : Block 65) :
    ∃ c, suite.Confirms tt xBytes yBytes c := by
  obtain ⟨out, expanded⟩ := suite.hkdf_short (kaKeFromTranscript tt).1.bytes
    (ascii "ConfirmationKeys") 32 (by decide)
  obtain ⟨blob, session⟩ := suite.hkdf_short (kaKeFromTranscript tt).2.bytes
    (ascii "SessionKeys") 48 (by decide)
  have keys : suite.deriveConfirmationKeys (kaKeFromTranscript tt).1 =
      .ok (slice out 0 16 (by decide), slice out 16 16 (by decide)) := by
    rw [deriveConfirmationKeys, hkdfExpand, expanded]
    rfl
  have derived : suite.deriveSessionKeys (kaKeFromTranscript tt).2 = .ok blob := by
    rw [deriveSessionKeys, hkdfExpand, session]
  exact ⟨⟨_, _, _⟩, ⟨_, _, keys, rfl, rfl⟩, blob, derived, rfl⟩

theorem Suite.Confirms.tagOf (confirms : suite.Confirms tt xBytes yBytes c) :
    suite.tagOf tt xBytes = .ok c.cb := by
  obtain ⟨_, kcb, keys, isTag, -⟩ := confirms.tags
  rw [Suite.tagOf, keys, isTag]
  rfl

theorem computePake2_of_answers (answers : Answers suite y w0 l context bytes yBytes c) :
    PaseVerifier.computePake2 suite w0 l y context bytes =
      .ok ((), .readyToSendPake2 yBytes c.cb c.ca c.sessionKeys) := by
  obtain ⟨m, z, v, decoded, share, computed, confirms⟩ := answers.computed
  obtain ⟨kca, kcb, tags, isCb, isCa⟩ := confirms.tags
  obtain ⟨blob, session, isKeys⟩ := confirms.keys
  rw [PaseVerifier.computePake2, decoded, isCb, isCa, isKeys]
  simp only [bind, Except.bind, share, computed, tags, session]
  rfl

/-- The prover makes up its mind on the tag. -/
theorem handlePake2_eq {prover : PaseProver F}
    (isState : prover.state = .awaitingPake2 w0 w1 x xBytes context)
    (decoded : Pake2.decode bytes = .ok m)
    (computed : suite.computeZVProver x w0 w1 m.y = .ok (z, v))
    (confirms : suite.Confirms (suite.transcriptHash context xBytes m.y z v w0) xBytes m.y c) :
    prover.handlePake2 suite bytes =
      if c.cb = m.verifier then
        (.ok (), { prover with state := .readyToSendPake3 c.ca c.sessionKeys })
      else (.error .confirmationTagMismatch, { prover with state := .poisoned }) := by
  obtain ⟨kca, kcb, tags, isCb, isCa⟩ := confirms.tags
  obtain ⟨blob, session, isKeys⟩ := confirms.keys
  rw [PaseProver.handlePake2, isState]
  simp only [decoded, bind, Except.bind, computed, tags, isCb, isCa, isKeys, session, verifyTag]
  by_cases same : suite.computeCb kcb xBytes = m.verifier
  · simp only [if_pos same]
    rfl
  · simp only [if_neg same]
    rfl

section Exchange
variable {prover : PaseProver F} {verifier : PaseVerifier F} {x w0 w1 y w0' : F}
  {xBytes l yBytes : Block 65} {context tt tt' : Block 32} {c c' : Confirmation} {pake1 : Bytes}

section
variable (opened : Opened suite x w0 w1 xBytes y w0' l context prover verifier)
include opened

/-- Up to the prover's verdict. -/
theorem keyExchange_answers (meets : Meets suite x w0 w1 xBytes y w0' l context tt tt' yBytes)
    (sent : Pake1.encode ⟨xBytes⟩ = .ok pake1) (confirms : suite.Confirms tt' xBytes yBytes c') :
    ∃ pake2, Pake2.decode (received pake2) = .ok ⟨yBytes, c'.cb⟩ ∧
      (keyExchange suite pake1).run (prover, verifier) =
        (confirmation suite pake2).run
          (prover, ⟨.readyToSendPake2 yBytes c'.cb c'.ca c'.sessionKeys⟩) := by
  obtain ⟨z, v, computed, rfl⟩ := meets.verifier
  obtain ⟨_, isPake1, -, decoded⟩ := Pake1.transmits ⟨xBytes⟩
  obtain rfl := Except.ok.inj (sent.symm.trans isPake1)
  obtain ⟨pake2, isPake2, -, readable⟩ := Pake2.transmits ⟨yBytes, c'.cb⟩
  have answers : Answers suite y w0' l context (received pake1) yBytes c' :=
    ⟨⟨xBytes⟩, z, v, decoded, meets.share, computed, confirms⟩
  refine ⟨pake2, readable, ?_⟩
  have answered : verifier.handlePake1 suite (received pake1) =
      (.ok (), ⟨.readyToSendPake2 yBytes c'.cb c'.ca c'.sessionKeys⟩) := by
    rw [opened.verifier, computePake2_of_answers answers]
    rfl
  have sends : PaseVerifier.nextMessage suite
      ⟨.readyToSendPake2 yBytes c'.cb c'.ca c'.sessionKeys⟩ =
      (.ok pake2, ⟨.readyToSendPake2 yBytes c'.cb c'.ca c'.sessionKeys⟩) := by
    simp only [PaseVerifier.nextMessage, isPake2]
    rfl
  rw [keyExchange, run_bind_ok (run_onVerifier answered), run_bind_ok (run_onVerifier sends)]

theorem keyExchange_completes (meets : Meets suite x w0 w1 xBytes y w0' l context tt tt yBytes)
    (sent : Pake1.encode ⟨xBytes⟩ = .ok pake1) (confirms : suite.Confirms tt xBytes yBytes c) :
    (keyExchange suite pake1).run (prover, verifier) =
      .ok () ({ prover with state := .complete c.sessionKeys }, ⟨.complete c.sessionKeys⟩) := by
  obtain ⟨pake2, readable, answered⟩ := keyExchange_answers opened meets sent confirms
  obtain ⟨z, v, computed, rfl⟩ := meets.prover
  have verified := handlePake2_eq opened.prover readable computed confirms
  rw [if_pos rfl] at verified
  obtain ⟨pake3, isPake3, -, decoded⟩ := Pake3.transmits ⟨c.ca⟩
  have sends : PaseProver.nextMessage suite
      { prover with state := .readyToSendPake3 c.ca c.sessionKeys } =
      (.ok pake3, { prover with state := .complete c.sessionKeys }) := by
    simp only [PaseProver.nextMessage, isPake3]
    rfl
  have completes : PaseVerifier.handlePake3
      (⟨.readyToSendPake2 yBytes c.cb c.ca c.sessionKeys⟩ : PaseVerifier F) (received pake3) =
      (.ok (), ⟨.complete c.sessionKeys⟩) := by
    have same : verifyTag c.ca c.ca = .ok () := if_pos rfl
    simp only [PaseVerifier.handlePake3, decoded, bind, Except.bind, same]
    rfl
  rw [answered, confirmation, run_bind_ok (run_onProver verified), run_bind_ok (run_onProver sends),
    run_onVerifier completes]

theorem keyExchange_rejects (meets : Meets suite x w0 w1 xBytes y w0' l context tt tt' yBytes)
    (sent : Pake1.encode ⟨xBytes⟩ = .ok pake1) (confirms : suite.Confirms tt xBytes yBytes c)
    (confirms' : suite.Confirms tt' xBytes yBytes c') (differ : c.cb ≠ c'.cb) :
    (keyExchange suite pake1).run (prover, verifier) =
      .error .confirmationTagMismatch ({ prover with state := .poisoned },
        ⟨.readyToSendPake2 yBytes c'.cb c'.ca c'.sessionKeys⟩) := by
  obtain ⟨pake2, readable, answered⟩ := keyExchange_answers opened meets sent confirms'
  obtain ⟨z, v, computed, rfl⟩ := meets.prover
  have refused := handlePake2_eq opened.prover readable computed confirms
  rw [if_neg differ] at refused
  rw [answered, confirmation, run_bind_error (run_onProver_error refused)]

end

end Exchange

section Opening
variable {x w0 w1 : F} {xBytes : Block 65} {context : Block 32} {pin : UInt32}
  {params : PasePbkdfParams}

theorem validateParams_saltFits (valid : validateParams params = .ok u) :
    saltFits params.salt = true := by
  unfold validateParams at valid
  split_ifs at valid with low high fits
  simpa using fits

theorem validateParams_of_derive (derived : suite.deriveW0W1 pin params = .ok w) :
    validateParams params = .ok () := by
  obtain ⟨_, valid, -⟩ := of_bind_ok derived
  exact valid

theorem sendPake1_of_shares (shares : Shares suite pin params x w0 w1 xBytes pake1) :
    PaseProver.sendPake1 suite pin params x context =
      .ok (pake1, .awaitingPake2 w0 w1 x xBytes context) := by
  simp only [PaseProver.sendPake1, shares.derived, shares.share, shares.encoded, bind, Except.bind]
  rfl

theorem start_knownParams (shares : Shares suite pin params x w0 w1 xBytes pake1) :
    PaseProver.start suite (ProverSetup.knownParams pin params x).prover =
      (.ok pake1, ⟨.awaitingPake2 w0 w1 x xBytes (suite.hashContext []), none⟩) := by
  simp only [PaseProver.start, ProverSetup.prover, ProverSetup.state, sendPake1_of_shares shares]
  rfl

/-- Request and response lead both parties to the same context. -/
theorem negotiation_run {verifier : VerifierSetup F} {id : UInt16}
    (isRequest : (requestOf random id).encode = .ok request)
    (isResponse : (responseOf random verifier.responderRandom verifier.sessionId
      verifier.params).encode = .ok response)
    (shares : Shares suite pin verifier.params x w0 w1 xBytes pake1) :
    (negotiation suite).run
        ((ProverSetup.negotiation pin x random id).prover, verifier.verifier) =
      .ok pake1 (⟨.awaitingPake2 w0 w1 x xBytes (suite.hashContext [request, response]),
          some verifier.sessionId⟩,
        ⟨.awaitingPake1 verifier.w0 verifier.l verifier.yScalar
          (suite.hashContext [request, response])⟩) := by
  have valid := validateParams_of_derive shares.derived
  obtain ⟨_, isSent, requestWhole, requestDecoded⟩ :=
    (PbkdfParamRequest.transmits rfl : Transmits (requestOf random id).encode _ _)
  obtain rfl := Except.ok.inj (isRequest.symm.trans isSent)
  obtain ⟨_, isAnswer, responseWhole, responseDecoded⟩ :=
    (PbkdfParamResponse.transmits rfl rfl (validateParams_saltFits valid) :
      Transmits (responseOf random verifier.responderRandom verifier.sessionId
        verifier.params).encode _ _)
  obtain rfl := Except.ok.inj (isResponse.symm.trans isAnswer)
  have started : PaseProver.start suite (ProverSetup.negotiation pin x random id).prover =
      (.ok request, ⟨.awaitingPbkdfResponse pin x request, none⟩) := by
    rw [requestOf] at isRequest
    simp only [PaseProver.start, ProverSetup.prover, ProverSetup.state, isRequest]
    rfl
  have requested : verifier.verifier.handlePbkdfRequest (received request) =
      (.ok (), ⟨.readyToSendPbkdfResponse verifier.w0 verifier.l verifier.params verifier.yScalar
        request verifier.responderRandom random verifier.sessionId⟩) := by
    simp only [PaseVerifier.handlePbkdfRequest, VerifierSetup.verifier, VerifierSetup.state,
      requestDecoded, requestWhole]
    rfl
  have responded : PaseVerifier.nextMessage suite ⟨.readyToSendPbkdfResponse verifier.w0 verifier.l
      verifier.params verifier.yScalar request verifier.responderRandom random
      verifier.sessionId⟩ = (.ok response, ⟨.awaitingPake1 verifier.w0 verifier.l verifier.yScalar
        (suite.hashContext [request, response])⟩) := by
    rw [responseOf] at isResponse
    simp only [PaseVerifier.nextMessage, isResponse]
    rfl
  have accepted : PaseProver.handlePbkdfResponse suite
      ⟨.awaitingPbkdfResponse pin x request, none⟩ (received response) =
      (.ok (), ⟨.readyToSendPake1 pin verifier.params x (suite.hashContext [request, response]),
        some verifier.sessionId⟩) := by
    simp only [PaseProver.handlePbkdfResponse, responseDecoded, responseOf, orInvalid, bind,
      Except.bind, valid, responseWhole]
    rfl
  have sends : PaseProver.nextMessage suite
      ⟨.readyToSendPake1 pin verifier.params x (suite.hashContext [request, response]),
        some verifier.sessionId⟩ = (.ok pake1, ⟨.awaitingPake2 w0 w1 x xBytes
          (suite.hashContext [request, response]), some verifier.sessionId⟩) := by
    simp only [PaseProver.nextMessage, sendPake1_of_shares shares]
    rfl
  rw [negotiation, run_bind_ok (run_onProver started), run_bind_ok (run_onVerifier requested),
    run_bind_ok (run_onVerifier responded), run_bind_ok (run_onProver accepted),
    run_onProver sends]

theorem exchange_opens (settled : suite.openingContext prover verifier = .ok context)
    (derived : suite.deriveW0W1 prover.pin (prover.params verifier.params) = .ok (w0, w1))
    (share : suite.computeX prover.xScalar w0 = .ok xBytes) :
    ∃ pake1 p v, Pake1.encode ⟨xBytes⟩ = .ok pake1 ∧
      Opened suite prover.xScalar w0 w1 xBytes verifier.yScalar verifier.w0 verifier.l context p v ∧
      (exchange suite prover.negotiates).run (prover.prover, verifier.verifier) =
        (keyExchange suite pake1).run (p, v) := by
  obtain ⟨pake1, isPake1, -, -⟩ := Pake1.transmits ⟨xBytes⟩
  cases prover with
  | knownParams pin params x =>
    cases settled
    have started := start_knownParams ⟨derived, share, isPake1⟩
    exact ⟨pake1, _, verifier.verifier, isPake1, ⟨rfl, fun bytes => rfl⟩,
      run_bind_ok (run_onProver started)⟩
  | negotiation pin x random id =>
    obtain ⟨request, isRequest, settled⟩ := of_bind_ok settled
    obtain ⟨response, isResponse, rfl⟩ := of_bind_pure settled
    have ran := negotiation_run isRequest isResponse ⟨derived, share, isPake1⟩
    exact ⟨pake1, _, _, isPake1, ⟨rfl, fun bytes => rfl⟩, run_bind_ok ran⟩

end Opening

/-! The group. -/
namespace Suite
variable {point : G} {block : Block 65}

theorem encodePoint_ne_zero (encoded : suite.encodePoint point = .ok block) : point ≠ 0 := by
  rintro rfl
  rw [encodePoint, toSec1_zero] at encoded
  cases encoded

theorem exists_encodePoint (finite : point ≠ 0) : ∃ block, suite.encodePoint point = .ok block := by
  refine ⟨⟨suite.toSec1 point, suite.toSec1_size point finite⟩, ?_⟩
  rw [encodePoint, Block.tryFrom, dif_pos (suite.toSec1_size point finite)]

theorem decodePeerPoint_encodePoint (encoded : suite.encodePoint point = .ok block) :
    suite.decodePeerPoint block = .ok point := by
  have finite := encodePoint_ne_zero encoded
  rw [encodePoint, Block.tryFrom, dif_pos (suite.toSec1_size point finite)] at encoded
  cases encoded
  rw [decodePeerPoint, suite.fromSec1_toSec1 point finite]
  rfl

/-- `x(Y - w₀N) = y(X - w₀M)` and `w₁(Y - w₀N) = yL`. -/
theorem computeZV_agree (hx : x ≠ 0) (hy : y ≠ 0) (xShare : suite.computeX x w0 = .ok xBytes)
    (yShare : suite.computeY y w0 = .ok yBytes) (record : suite.deriveL w1 = .ok l) :
    ∃ z v, suite.computeZVProver x w0 w1 yBytes = .ok (z, v) ∧
      suite.computeZVVerifier y w0 l xBytes = .ok (z, v) := by
  have yPoint : y • suite.generator ≠ 0 := smul_ne_zero hy suite.generator_ne_zero
  have w1Point := encodePoint_ne_zero record
  obtain ⟨z, isZ⟩ : ∃ z, suite.encodePoint (x • y • suite.generator) = .ok z :=
    exists_encodePoint (smul_ne_zero hx yPoint)
  obtain ⟨v, isV⟩ : ∃ v, suite.encodePoint (y • w1 • suite.generator) = .ok v :=
    exists_encodePoint (smul_ne_zero hy w1Point)
  refine ⟨z, v, ?_, ?_⟩
  · rw [smul_comm] at isV
    simp only [computeZVProver, decodePeerPoint_encodePoint yShare, bind, Except.bind,
      add_sub_cancel_right, isZ, isV]
    rfl
  · rw [smul_comm] at isZ
    simp only [computeZVVerifier, decodePeerPoint_encodePoint xShare,
      decodePeerPoint_encodePoint record, bind, Except.bind, add_sub_cancel_right, isZ, isV]
    rfl

theorem sampleAttempts_ne_zero [DecidableEq F]
    (drawn : suite.sampleAttempts rng attempts n = .ok (scalar, m)) : scalar ≠ 0 := by
  induction attempts generalizing n with
  | zero => cases drawn
  | succ attempts ih =>
    rw [sampleAttempts] at drawn
    split at drawn
    · cases drawn
    · split at drawn
      · split_ifs at drawn with nonzero
        · cases drawn
          exact nonzero
        · exact ih drawn
      · exact ih drawn

end Suite

section Constructors
variable [DecidableEq F]

/-- The prover comes out of one of its constructors. -/
inductive Built (suite : Suite F G) (rng : Suite.Fills) (prover : ProverSetup F) : Prop
  | negotiation {pin : UInt32} {id : UInt16}
    (built : PaseProver.newWithNegotiation suite pin id rng = .ok prover.prover)
  | knownParams {pin : UInt32} {params : PasePbkdfParams} {id : UInt16}
    (built : PaseProver.newWithKnownParams suite pin params id rng = .ok prover.prover)

theorem Built.xScalar_ne_zero (isBuilt : Built suite rng prover) : prover.xScalar ≠ 0 := by
  cases isBuilt with
  | negotiation built =>
    obtain ⟨⟨x, n⟩, drawn, rest⟩ := of_bind_ok built
    obtain ⟨random, -, last⟩ := of_bind_ok rest
    cases prover <;> cases last
    exact Suite.sampleAttempts_ne_zero drawn
  | knownParams built =>
    obtain ⟨_, -, rest⟩ := of_bind_ok built
    obtain ⟨⟨x, n⟩, drawn, last⟩ := of_bind_ok rest
    cases prover <;> cases last
    exact Suite.sampleAttempts_ne_zero drawn

theorem of_newFromPin {verifier : VerifierSetup F}
    (built : PaseVerifier.newFromPin suite pin verifier.params verifier.sessionId rng =
      .ok verifier.verifier) :
    ∃ w1, suite.deriveW0W1 pin verifier.params = .ok (verifier.w0, w1) ∧
      suite.deriveL w1 = .ok verifier.l ∧ verifier.yScalar ≠ 0 := by
  obtain ⟨⟨w0, w1⟩, derived, rest⟩ := of_bind_ok built
  obtain ⟨l, record, rest⟩ := of_bind_ok rest
  rw [PaseVerifier.new, suite.fromRepr_toRepr] at rest
  obtain ⟨_, -, rest⟩ := of_bind_ok rest
  obtain ⟨-, rest⟩ := unless_throw_ok.mp rest
  obtain ⟨⟨y, n⟩, drawn, rest⟩ := of_bind_ok rest
  obtain ⟨random, -, last⟩ := of_bind_ok rest
  cases last
  exact ⟨w1, derived, record, Suite.sampleAttempts_ne_zero drawn⟩

end Constructors

theorem openingContext_ok (fits : saltFits verifier.params.salt = true) :
    ∃ context, suite.openingContext prover verifier = .ok context := by
  cases prover with
  | knownParams pin params x => exact ⟨_, rfl⟩
  | negotiation pin x random id =>
    obtain ⟨request, isRequest, -, -⟩ :=
      (PbkdfParamRequest.transmits rfl : Transmits (requestOf random id).encode _ _)
    obtain ⟨response, isResponse, -, -⟩ :=
      (PbkdfParamResponse.transmits rfl rfl fits :
        Transmits (responseOf random verifier.responderRandom verifier.sessionId
          verifier.params).encode _ _)
    refine ⟨suite.hashContext [request, response], ?_⟩
    simp only [Suite.openingContext, isRequest, isResponse]
    rfl

section Hashes
variable {prover : ProverSetup F} {verifier : VerifierSetup F} {xBytes : Block 65}
  {tt tt' : Block 32}

/-- Parties that have hashed their transcripts have exchanged their shares. -/
theorem exchange_of_hashes (hashed : suite.hashes prover verifier = .ok (xBytes, tt, tt')) :
    ∃ context w0 w1 yBytes pake1 p v, Pake1.encode ⟨xBytes⟩ = .ok pake1 ∧
      Opened suite prover.xScalar w0 w1 xBytes verifier.yScalar verifier.w0 verifier.l context p v ∧
      Meets suite prover.xScalar w0 w1 xBytes verifier.yScalar verifier.w0 verifier.l context
        tt tt' yBytes ∧
      (exchange suite prover.negotiates).run (prover.prover, verifier.verifier) =
        (keyExchange suite pake1).run (p, v) := by
  obtain ⟨context, settled, rest⟩ := of_bind_ok hashed
  obtain ⟨⟨w0, w1⟩, derived, rest⟩ := of_bind_ok rest
  obtain ⟨_, xShare, rest⟩ := of_bind_ok rest
  obtain ⟨yBytes, yShare, rest⟩ := of_bind_ok rest
  obtain ⟨⟨z, v⟩, computed, rest⟩ := of_bind_ok rest
  obtain ⟨⟨zPeer, vPeer⟩, computedPeer, last⟩ := of_bind_ok rest
  cases last
  obtain ⟨pake1, p, w, isPake1, opened, ran⟩ := exchange_opens settled derived xShare
  exact ⟨context, w0, w1, yBytes, pake1, p, w, isPake1, opened,
    ⟨yShare, ⟨z, v, computed, rfl⟩, zPeer, vPeer, computedPeer, rfl⟩, ran⟩

theorem completes_of_hashes (hashed : suite.hashes prover verifier = .ok (xBytes, tt, tt)) :
    ∃ keys, Completes suite prover verifier keys := by
  obtain ⟨context, w0, w1, yBytes, pake1, p, v, isPake1, opened, meets, ran⟩ :=
    exchange_of_hashes hashed
  obtain ⟨c, confirms⟩ : ∃ c, suite.Confirms tt xBytes yBytes c :=
    Suite.exists_confirms tt xBytes yBytes
  exact ⟨c.sessionKeys, _, _, ran.trans (keyExchange_completes opened meets isPake1 confirms),
    rfl, rfl⟩

theorem rejects_of_hashes (hashed : suite.hashes prover verifier = .ok (xBytes, tt, tt'))
    (differ : suite.tagOf tt xBytes ≠ suite.tagOf tt' xBytes) : Rejects suite prover verifier := by
  obtain ⟨context, w0, w1, yBytes, pake1, p, v, isPake1, opened, meets, ran⟩ :=
    exchange_of_hashes hashed
  obtain ⟨c, confirms⟩ : ∃ c, suite.Confirms tt xBytes yBytes c :=
    Suite.exists_confirms tt xBytes yBytes
  obtain ⟨c', confirms'⟩ : ∃ c, suite.Confirms tt' xBytes yBytes c :=
    Suite.exists_confirms tt' xBytes yBytes
  have tags : c.cb ≠ c'.cb := by
    intro same
    rw [confirms.tagOf, confirms'.tagOf, same] at differ
    exact differ rfl
  exact ⟨_, _, ran.trans (keyExchange_rejects opened meets isPake1 confirms confirms' tags),
    rfl, rfl, rfl⟩

end Hashes

/-- Parties that share a PIN agree on the keys unless a share is the point at
infinity; a prover whose transcript differs from the verifier's rejects `Pake2`. -/
theorem parties_agree [DecidableEq F] (suite : Suite F G) :
    (∀ (prover : ProverSetup F) (verifier : VerifierSetup F) (rng rng' : Suite.Fills),
      Built suite rng prover →
      PaseVerifier.newFromPin suite prover.pin verifier.params verifier.sessionId rng' =
        .ok verifier.verifier →
      prover.params verifier.params = verifier.params →
      prover.xScalar • suite.generator + verifier.w0 • suite.mPoint ≠ 0 →
      verifier.yScalar • suite.generator + verifier.w0 • suite.nPoint ≠ 0 →
      ∃ xBytes tt keys, suite.hashes prover verifier = .ok (xBytes, tt, tt) ∧
        Completes suite prover verifier keys) ∧
    (∀ (prover : ProverSetup F) (verifier : VerifierSetup F) (xBytes : Block 65)
      (tt tt' : Block 32), suite.hashes prover verifier = .ok (xBytes, tt, tt') →
      (tt ≠ tt' → suite.tagOf tt xBytes ≠ suite.tagOf tt' xBytes) → tt ≠ tt' →
      Rejects suite prover verifier) := by
  constructor
  · intro prover verifier rng rng' isBuilt built sameParams xFinite yFinite
    obtain ⟨w1, derived, record, yNonzero⟩ := of_newFromPin built
    have fits := validateParams_saltFits (validateParams_of_derive derived)
    obtain ⟨context, settled⟩ : ∃ context, suite.openingContext prover verifier = .ok context :=
      openingContext_ok fits
    obtain ⟨xBytes, xShare⟩ : ∃ xBytes, suite.computeX prover.xScalar verifier.w0 = .ok xBytes :=
      Suite.exists_encodePoint xFinite
    obtain ⟨yBytes, yShare⟩ : ∃ yBytes, suite.computeY verifier.yScalar verifier.w0 = .ok yBytes :=
      Suite.exists_encodePoint yFinite
    obtain ⟨z, v, computed, computedPeer⟩ :=
      Suite.computeZV_agree isBuilt.xScalar_ne_zero yNonzero xShare yShare record
    have hashed : suite.hashes prover verifier = .ok (xBytes,
        suite.transcriptHash context xBytes yBytes z v verifier.w0,
        suite.transcriptHash context xBytes yBytes z v verifier.w0) := by
      simp only [Suite.hashes, settled, sameParams, derived, xShare, yShare, computed, computedPeer,
        bind, Except.bind]
      rfl
    obtain ⟨keys, completes⟩ := completes_of_hashes hashed
    exact ⟨xBytes, _, keys, hashed, completes⟩
  · intro prover verifier xBytes tt tt' hashed tagsDiffer differ
    exact rejects_of_hashes hashed (tagsDiffer differ)

section Runs

/-- Tags that tell transcripts apart. -/
def keyedSuite : Suite Z3 Z3 where
  __ := smallSuite
  hmac key _ := .fill 32 (key.headD 0)
  hkdf secret _ length := some (.fill length (secret.headD 0))
  hkdf_short _ _ _ _ := ⟨_, rfl⟩

def draws (scalar : Z3) : Suite.Fills := fun _ => some (lastOctet 31 scalar)

def knownSetup (x : Z3) : ProverSetup Z3 := .knownParams 1 sampleParams x

def deviceSetup (l : Z3) : VerifierSetup Z3 :=
  ⟨1, lastOctet 64 l, sampleParams, 1, lastOctet 31 1, 8⟩

def negotiatedSetup : ProverSetup Z3 := .negotiation 1 1 (lastOctet 31 1) 7

/-- A device with the record of the PIN 1 agrees with a prover that knows the PIN, with
known parameters or negotiated ones; one with another record is rejected. -/
theorem parties_agree_sample :
    (∃ keys, Completes keyedSuite (knownSetup 1) (deviceSetup 1) keys) ∧
      (∃ keys, Completes keyedSuite negotiatedSetup (deviceSetup 1) keys) ∧
      Rejects keyedSuite (knownSetup 1) (deviceSetup 2) := by
  have known : PaseProver.newWithKnownParams keyedSuite 1 sampleParams 7 (draws 1) =
      .ok (knownSetup 1).prover := rfl
  have negotiated : PaseProver.newWithNegotiation keyedSuite 1 7 (draws 1) =
      .ok negotiatedSetup.prover := rfl
  refine ⟨?_, ?_, ?_⟩
  · obtain ⟨_, _, keys, -, completes⟩ := (parties_agree keyedSuite).1 (knownSetup 1) (deviceSetup 1)
      (draws 1) (draws 1) (.knownParams known) rfl rfl (by decide) (by decide)
    exact ⟨keys, completes⟩
  · obtain ⟨_, _, keys, -, completes⟩ := (parties_agree keyedSuite).1 negotiatedSetup
      (deviceSetup 1) (draws 1) (draws 1) (.negotiation negotiated) rfl rfl (by decide) (by decide)
    exact ⟨keys, completes⟩
  · exact (parties_agree keyedSuite).2 (knownSetup 1) (deviceSetup 2) _ _ _ rfl
      (fun _ => by decide +kernel) (by decide +kernel)

/-- With `x = 2` the share of the prover is the point at infinity. -/
theorem infinite_share_panics :
    PaseProver.newWithKnownParams smallSuite 1 sampleParams 7 (draws 2) =
      .ok (knownSetup 2).prover ∧
    PaseVerifier.newFromPin smallSuite 1 sampleParams 8 (draws 1) =
      .ok (deviceSetup 1).verifier ∧
    (exchange smallSuite false).run ((knownSetup 2).prover, (deviceSetup 1).verifier) =
      .error .panicked (⟨.poisoned, none⟩, (deviceSetup 1).verifier) :=
  ⟨rfl, rfl, rfl⟩

end Runs

end Matter.Pase
