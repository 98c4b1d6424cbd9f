import Matter.Pase.Spake2p

/-! The device's side. The first message may be a parameter request or, with
parameters that are already known, the first share. -/
namespace Matter.Pase
open Codec hiding Error
open Handshake
open Cert (Block)

inductive VerifierState (F : Type) where
  | awaitingFirstMessage (w0 : F) (l : Block 65) (params : PasePbkdfParams) (yScalar : F)
    (responderRandom : Block 32) (responderSessionId : UInt16)
  | readyToSendPbkdfResponse (w0 : F) (l : Block 65) (params : PasePbkdfParams) (yScalar : F)
    (requestBytes : Bytes) (responderRandom initiatorRandom : Block 32)
    (responderSessionId : UInt16)
  | awaitingPake1 (w0 : F) (l : Block 65) (yScalar : F) (transcriptContext : Block 32)
  | readyToSendPake2 (yBytes : Block 65) (cb caExpected : Block 32)
    (sessionKeys : PaseSessionKeys)
  | complete (sessionKeys : PaseSessionKeys)
  | poisoned

structure PaseVerifier (F : Type) where
  state : VerifierState F

namespace PaseVerifier
variable {F G : Type} [Field F] [AddCommGroup G] [Module F G]

def new [DecidableEq F] (suite : Suite F G) (w0Bytes : Block 32) (l : Block 65)
    (params : PasePbkdfParams) (responderSessionId : UInt16) (rng : Suite.Fills) :
    Except Error (PaseVerifier F) := do
  validateParams params
  let w0 ← match suite.fromRepr w0Bytes with
    | some w0 => .ok w0
    | none => .error .invalidScalar
  if w0 = 0 then throw .invalidScalar
  let (yScalar, n) ← suite.sampleScalar rng
  let responderRandom ← Suite.fillRandom rng n
  return { state := .awaitingFirstMessage w0 l params yScalar responderRandom responderSessionId }

def newFromPin [DecidableEq F] (suite : Suite F G) (pin : UInt32) (params : PasePbkdfParams)
    (responderSessionId : UInt16) (rng : Suite.Fills) : Except Error (PaseVerifier F) := do
  let (w0, w1) ← suite.deriveW0W1 pin params
  let l ← suite.deriveL w1
  new suite (suite.toRepr w0) l params responderSessionId rng

/-- The state is taken out for the work on it and stays out if that fails. -/
def advance {α : Type} (work : Except Error (α × VerifierState F)) :
    Except Error α × PaseVerifier F :=
  match work with
  | .ok (a, state) => (.ok a, { state })
  | .error e => (.error e, { state := .poisoned })

def unexpected {α : Type} (verifier : PaseVerifier F) (kind : PaseMessageKind) :
    Except Error α × PaseVerifier F :=
  (.error (.unexpectedMessage kind kind), verifier)

def handlePbkdfRequest (verifier : PaseVerifier F) (bytes : Octets) :
    Except Error Unit × PaseVerifier F :=
  match verifier.state with
  | .awaitingFirstMessage w0 l params yScalar responderRandom responderSessionId =>
    advance do
      let req ← PbkdfParamRequest.decode bytes
      return ((), .readyToSendPbkdfResponse w0 l params yScalar bytes.bytes responderRandom
        req.initiatorRandom responderSessionId)
  | _ => verifier.unexpected .pbkdfParamRequest

variable (suite : Suite F G)

def computePake2 (w0 : F) (l : Block 65) (yScalar : F) (transcriptContext : Block 32)
    (pake1Bytes : Octets) : Except Error (Unit × VerifierState F) := do
  let pake1 ← Pake1.decode pake1Bytes
  let yBytes ← suite.computeY yScalar w0
  let (z, v) ← suite.computeZVVerifier yScalar w0 l pake1.x
  let tt := suite.transcriptHash transcriptContext pake1.x yBytes z v w0
  let (ka, ke) := kaKeFromTranscript tt
  let (kca, kcb) ← suite.deriveConfirmationKeys ka
  let cb := suite.computeCb kcb pake1.x
  let caExpected := suite.computeCa kca yBytes
  let blob ← suite.deriveSessionKeys ke
  return ((), .readyToSendPake2 yBytes cb caExpected (buildSessionKeys ke blob))

def handlePake1 (verifier : PaseVerifier F) (bytes : Octets) :
    Except Error Unit × PaseVerifier F :=
  match verifier.state with
  | .awaitingFirstMessage w0 l _ yScalar _ _ =>
    advance (computePake2 suite w0 l yScalar (suite.hashContext []) bytes)
  | .awaitingPake1 w0 l yScalar transcriptContext =>
    advance (computePake2 suite w0 l yScalar transcriptContext bytes)
  | _ => verifier.unexpected .pake1

/-- The state does not tell whether `Pake2` was already sent. -/
def handlePake3 (verifier : PaseVerifier F) (bytes : Octets) :
    Except Error Unit × PaseVerifier F :=
  match verifier.state with
  | .readyToSendPake2 _ _ caExpected sessionKeys =>
    advance do
      let pake3 ← Pake3.decode bytes
      verifyTag caExpected pake3.verifier
      return ((), .complete sessionKeys)
  | _ => verifier.unexpected .pake3

def nextMessage (verifier : PaseVerifier F) : Except Error Bytes × PaseVerifier F :=
  match verifier.state with
  | .readyToSendPbkdfResponse w0 l params yScalar requestBytes responderRandom initiatorRandom
      responderSessionId =>
    advance do
      let respBytes ← PbkdfParamResponse.encode {
        initiatorRandom, responderRandom, responderSessionId
        pbkdfParameters := some params
        responderSessionParams := none }
      return (respBytes, .awaitingPake1 w0 l yScalar
        (suite.hashContext [requestBytes, respBytes]))
  | .readyToSendPake2 yBytes cb caExpected sessionKeys =>
    advance do
      let pake2Bytes ← Pake2.encode ⟨yBytes, cb⟩
      return (pake2Bytes, .readyToSendPake2 yBytes cb caExpected sessionKeys)
  | _ => verifier.unexpected .pbkdfParamResponse

def finish (verifier : PaseVerifier F) : Except Error PaseSessionKeys :=
  match verifier.state with
  | .complete sessionKeys => .ok sessionKeys
  | _ => .error .handshakeIncomplete

end PaseVerifier

end Matter.Pase
