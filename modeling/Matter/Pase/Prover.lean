import Matter.Pase.Spake2p

/-! The commissioner's side. A call that is not for the present state gives the
state back; every other failure leaves the machine poisoned. -/
namespace Matter.Pase
open Codec hiding Error
open Handshake
open Cert (Block)

inductive ProverState (F : Type) where
  | awaitingStartNegotiation (pin : UInt32) (xScalar : F) (initiatorRandom : Block 32)
    (initiatorSessionId : UInt16)
  | awaitingStartKnownParams (pin : UInt32) (params : PasePbkdfParams) (xScalar : F)
  | awaitingPbkdfResponse (pin : UInt32) (xScalar : F) (sentRequestBytes : Bytes)
  | readyToSendPake1 (pin : UInt32) (params : PasePbkdfParams) (xScalar : F)
    (transcriptContext : Block 32)
  | awaitingPake2 (w0 w1 xScalar : F) (xBytes : Block 65) (transcriptContext : Block 32)
  | readyToSendPake3 (ca : Block 32) (sessionKeys : PaseSessionKeys)
  | complete (sessionKeys : PaseSessionKeys)
  | poisoned

structure PaseProver (F : Type) where
  state : ProverState F
  responderSessionId : Option UInt16

namespace PaseProver
variable {F G : Type} [Field F] [AddCommGroup G] [Module F G]

def newWithNegotiation [DecidableEq F] (suite : Suite F G) (pin : UInt32)
    (initiatorSessionId : UInt16) (rng : Suite.Fills) : Except Error (PaseProver F) := do
  let (xScalar, n) ← suite.sampleScalar rng
  let initiatorRandom ← Suite.fillRandom rng n
  return {
    state := .awaitingStartNegotiation pin xScalar initiatorRandom initiatorSessionId
    responderSessionId := none }

/-- The session id is not used: no request is sent. -/
def newWithKnownParams [DecidableEq F] (suite : Suite F G) (pin : UInt32)
    (params : PasePbkdfParams) (_initiatorSessionId : UInt16) (rng : Suite.Fills) :
    Except Error (PaseProver F) := do
  validateParams params
  let (xScalar, _) ← suite.sampleScalar rng
  return { state := .awaitingStartKnownParams pin params xScalar, responderSessionId := none }

/-- The state is taken out for the work on it and stays out if that fails. -/
def advance {α : Type} (prover : PaseProver F) (work : Except Error (α × ProverState F)) :
    Except Error α × PaseProver F :=
  match work with
  | .ok (a, state) => (.ok a, { prover with state })
  | .error e => (.error e, { prover with state := .poisoned })

def unexpected {α : Type} (prover : PaseProver F) (kind : PaseMessageKind) :
    Except Error α × PaseProver F :=
  (.error (.unexpectedMessage kind kind), prover)

variable (suite : Suite F G)

/-- `Pake1` is sent by `start` with known parameters and by `next_message`
after a negotiation. -/
def sendPake1 (pin : UInt32) (params : PasePbkdfParams) (xScalar : F)
    (transcriptContext : Block 32) : Except Error (Bytes × ProverState F) := do
  let (w0, w1) ← suite.deriveW0W1 pin params
  let xBytes ← suite.computeX xScalar w0
  let pake1Bytes ← Pake1.encode ⟨xBytes⟩
  return (pake1Bytes, .awaitingPake2 w0 w1 xScalar xBytes transcriptContext)

def start (prover : PaseProver F) : Except Error Bytes × PaseProver F :=
  match prover.state with
  | .awaitingStartNegotiation pin xScalar initiatorRandom initiatorSessionId =>
    prover.advance do
      let bytes ← PbkdfParamRequest.encode {
        initiatorRandom, initiatorSessionId
        passcodeId := 0
        hasPbkdfParameters := false
        initiatorSessionParams := none }
      return (bytes, .awaitingPbkdfResponse pin xScalar bytes)
  | .awaitingStartKnownParams pin params xScalar =>
    prover.advance (sendPake1 suite pin params xScalar (suite.hashContext []))
  | _ => prover.unexpected .pbkdfParamRequest

/-- The responder's session id is kept before its parameters are looked at. -/
def handlePbkdfResponse (prover : PaseProver F) (bytes : Octets) :
    Except Error Unit × PaseProver F :=
  match prover.state with
  | .awaitingPbkdfResponse pin xScalar sentRequestBytes =>
    match PbkdfParamResponse.decode bytes with
    | .error e => prover.advance (.error e)
    | .ok resp =>
      { prover with responderSessionId := some resp.responderSessionId }.advance do
        let params ← orInvalid resp.pbkdfParameters
        validateParams params
        let transcriptContext := suite.hashContext [sentRequestBytes, bytes.bytes]
        return ((), .readyToSendPake1 pin params xScalar transcriptContext)
  | _ => prover.unexpected .pbkdfParamResponse

def handlePake2 (prover : PaseProver F) (bytes : Octets) : Except Error Unit × PaseProver F :=
  match prover.state with
  | .awaitingPake2 w0 w1 xScalar xBytes transcriptContext =>
    prover.advance do
      let pake2 ← Pake2.decode bytes
      let (z, v) ← suite.computeZVProver xScalar w0 w1 pake2.y
      let tt := suite.transcriptHash transcriptContext xBytes pake2.y z v w0
      let (ka, ke) := kaKeFromTranscript tt
      let (kca, kcb) ← suite.deriveConfirmationKeys ka
      let cbExpected := suite.computeCb kcb xBytes
      verifyTag cbExpected pake2.verifier
      let ca := suite.computeCa kca pake2.y
      let blob ← suite.deriveSessionKeys ke
      return ((), .readyToSendPake3 ca (buildSessionKeys ke blob))
  | _ => prover.unexpected .pake2

def nextMessage (prover : PaseProver F) : Except Error Bytes × PaseProver F :=
  match prover.state with
  | .readyToSendPake1 pin params xScalar transcriptContext =>
    prover.advance (sendPake1 suite pin params xScalar transcriptContext)
  | .readyToSendPake3 ca sessionKeys =>
    prover.advance do
      let pake3Bytes ← Pake3.encode ⟨ca⟩
      return (pake3Bytes, .complete sessionKeys)
  | _ => prover.unexpected .pake1

def finish (prover : PaseProver F) : Except Error PaseSessionKeys :=
  match prover.state with
  | .complete sessionKeys => .ok sessionKeys
  | _ => .error .handshakeIncomplete

end PaseProver

end Matter.Pase
