import Matter.Base.Phases
import Matter.Pase.Moves
import Matter.Pase.SmallSuite

/-! The order of the phases. Each machine is compared with the protocol it runs,
and a machine that finishes with the messages it must have seen. Two checks are
left to the caller: that a response repeats the prover's random number, and that
the verifier is not given `Pake3` before it sent `Pake2`. -/
namespace Matter.Pase
open Codec hiding Error
open Handshake Phases Runs Logs
open Cert (Block)

/-- `UnexpectedMessage`. -/
def Refusal (e : Error) : Prop := ∃ kind, e = .unexpectedMessage kind kind

section Prover

inductive ProverKind where
  | start
  | handlePbkdfResponse
  | handlePake2
  | nextMessage
  deriving DecidableEq

def ProverCall.kind : ProverCall → ProverKind
  | .start => .start
  | .handlePbkdfResponse _ => .handlePbkdfResponse
  | .handlePake2 _ => .handlePake2
  | .nextMessage => .nextMessage

inductive ProverPhase where
  | fresh
  | requested
  | opened
  | shared
  | confirmed
  | done
  deriving DecidableEq

/-- Request, response, `Pake1`, `Pake2`, `Pake3`, or the last three only. -/
def proverProtocol (negotiates : Bool) : Protocol ProverPhase ProverKind where
  initial := .fresh
  next
    | .fresh, .start => some (if negotiates then .requested else .shared)
    | .requested, .handlePbkdfResponse => some .opened
    | .opened, .nextMessage => some .shared
    | .shared, .handlePake2 => some .confirmed
    | .confirmed, .nextMessage => some .done
    | _, _ => none

inductive ProverSetup (F : Type) where
  | negotiation (pin : UInt32) (xScalar : F) (initiatorRandom : Block 32) (sessionId : UInt16)
  | knownParams (pin : UInt32) (params : PasePbkdfParams) (xScalar : F)

namespace ProverSetup
variable {F : Type}

def state : ProverSetup F → ProverState F
  | .negotiation pin x random id => .awaitingStartNegotiation pin x random id
  | .knownParams pin params x => .awaitingStartKnownParams pin params x

def prover (setup : ProverSetup F) : PaseProver F := ⟨setup.state, none⟩

def negotiates : ProverSetup F → Bool
  | .negotiation _ _ _ _ => true
  | .knownParams _ _ _ => false

/-- A response that is handled in its turn repeats the random number sent. -/
def Echoed : ProverSetup F → ProverPhase → ProverCall → Prop
  | .negotiation _ _ random _, .requested, .handlePbkdfResponse bytes =>
    ∀ resp, PbkdfParamResponse.decode bytes = .ok resp → resp.initiatorRandom = random
  | _, _, _ => True

end ProverSetup

abbrev ProverTaken := List (ProverCall × Option Bytes)

variable {F G : Type} [Field F] [AddCommGroup G] [Module F G] (suite : Suite F G)

/-- The calls before the one that sends `Pake1`, and what they settle: the
parameters of the PIN derivation and the hashed context. -/
inductive ProverOpening : ProverSetup F → ProverTaken → ProverCall →
    UInt32 → PasePbkdfParams → F → Block 32 → Prop
  | known {pin : UInt32} {params : PasePbkdfParams} {x : F} :
    ProverOpening (.knownParams pin params x) [] .start pin params x (suite.hashContext [])
  | negotiated {pin : UInt32} {x : F} {random : Block 32} {id : UInt16} {req : Bytes}
    {bytes : Octets} {resp : PbkdfParamResponse} {params : PasePbkdfParams}
    (sent : (requestOf random id).encode = .ok req)
    (received : PbkdfParamResponse.decode bytes = .ok resp)
    (echoed : resp.initiatorRandom = random) (offered : resp.pbkdfParameters = some params) :
    ProverOpening (.negotiation pin x random id)
      [(.start, some req), (.handlePbkdfResponse bytes, none)] .nextMessage pin params x
      (suite.hashContext [req, bytes.bytes])

/-- The successful calls of a prover, and the state they lead to. -/
inductive ProverTrail (setup : ProverSetup F) : ProverTaken → ProverState F → Prop
  | fresh : ProverTrail setup [] setup.state
  | requested {id : UInt16} (isSetup : setup = .negotiation pin x random id)
    (sent : (requestOf random id).encode = .ok req) :
    ProverTrail setup [(.start, some req)] (.awaitingPbkdfResponse pin x req)
  | opened (opening : ProverOpening suite setup before .nextMessage pin params x context) :
    ProverTrail setup before (.readyToSendPake1 pin params x context)
  | shared (opening : ProverOpening suite setup before c pin params x context)
    (shares : Shares suite pin params x w0 w1 xBytes pake1) :
    ProverTrail setup (before ++ [(c, some pake1)]) (.awaitingPake2 w0 w1 x xBytes context)
  | confirmed (opening : ProverOpening suite setup before c pin params x context)
    (shares : Shares suite pin params x w0 w1 xBytes pake1)
    (verified : Verified suite x w0 w1 xBytes context pake2 tags) :
    ProverTrail setup (before ++ [(c, some pake1), (.handlePake2 pake2, none)])
      (.readyToSendPake3 tags.ca tags.sessionKeys)
  | complete (opening : ProverOpening suite setup before c pin params x context)
    (shares : Shares suite pin params x w0 w1 xBytes pake1)
    (verified : Verified suite x w0 w1 xBytes context pake2 tags)
    (sent : Pake3.encode ⟨tags.ca⟩ = .ok pake3) :
    ProverTrail setup
      (before ++ [(c, some pake1), (.handlePake2 pake2, none), (.nextMessage, some pake3)])
      (.complete tags.sessionKeys)

/-- A prover that may finish sent `Pake1`, was given the tag of its own
transcript in `Pake2`, and sent `Pake3`, after an opening that agrees with it. -/
structure ProverConfirmed (setup : ProverSetup F) (taken : ProverTaken) (keys : PaseSessionKeys) :
    Prop where
  run : ∃ before c pin params x w0 w1 context xBytes pake1 pake2 pake3 tags,
    ProverOpening suite setup before c pin params x context ∧
    Shares suite pin params x w0 w1 xBytes pake1 ∧
    Verified suite x w0 w1 xBytes context pake2 tags ∧
    Pake3.encode ⟨tags.ca⟩ = .ok pake3 ∧ keys = tags.sessionKeys ∧
    taken = before ++ [(c, some pake1), (.handlePake2 pake2, none), (.nextMessage, some pake3)]

def ProverState.InPhase (negotiates : Bool) : ProverPhase → ProverState F → Prop
  | .fresh, .awaitingStartNegotiation _ _ _ _ => negotiates = true
  | .fresh, .awaitingStartKnownParams _ _ _ => negotiates = false
  | .requested, .awaitingPbkdfResponse _ _ _ => True
  | .opened, .readyToSendPake1 _ _ _ _ => True
  | .shared, .awaitingPake2 _ _ _ _ _ => True
  | .confirmed, .readyToSendPake3 _ _ => True
  | .done, .complete _ => True
  | _, _ => False

variable {suite} {setup : ProverSetup F}

omit [Field F] in
theorem ProverState.expects_iff {p : ProverPhase} {state : ProverState F}
    (inPhase : state.InPhase negotiates p) (c : ProverCall) :
    state.expects c = ((proverProtocol negotiates).next p c.kind).isSome := by
  cases p <;> cases state <;> first | exact inPhase.elim | (cases c <;> rfl)

theorem ProverMove.inPhase (move : ProverMove suite state c r after)
    (inPhase : state.InPhase negotiates p)
    (following : (proverProtocol negotiates).next p c.kind = some q) :
    after.InPhase negotiates q := by
  cases move <;> cases p <;> first
    | exact inPhase.elim
    | (cases following; first | trivial | (cases inPhase; trivial))

theorem prover_conforms (negotiates : Bool) :
    Conforms (proverProtocol negotiates) ProverCall.kind (PaseProver.call suite)
      (fun _ _ => True) Refusal (fun p prover => prover.state.InPhase negotiates p)
      (fun prover => prover.state = .poisoned) where
  refuses := by
    intro p prover c inPhase _ notNext
    have unexpected := ProverState.expects_iff inPhase c
    rw [notNext] at unexpected
    have outcome : ProverOutcome suite prover c (prover.call suite c) := call_prover prover c
    generalize prover.call suite c = result at outcome
    cases outcome with
    | moved expected | poisoned expected => simp [unexpected] at expected
    | refused kind => exact ⟨_, ⟨kind, rfl⟩, rfl⟩
  takes := by
    intro p prover c q inPhase _ following
    have expects := ProverState.expects_iff inPhase c
    rw [following] at expects
    have outcome : ProverOutcome suite prover c (prover.call suite c) := call_prover prover c
    generalize prover.call suite c = result at outcome
    cases outcome with
    | moved expected move => exact .inl ⟨_, rfl, move.inPhase inPhase following⟩
    | poisoned expected isPoisoned => exact .inr ⟨_, rfl, isPoisoned⟩
    | refused kind unexpected => simp [expects] at unexpected
  dead := by
    intro prover c isPoisoned
    have outcome : ProverOutcome suite prover c (prover.call suite c) := call_prover prover c
    generalize prover.call suite c = result at outcome
    cases outcome with
    | moved expected | poisoned expected => simp [isPoisoned, ProverState.expects] at expected
    | refused kind => exact ⟨_, ⟨kind, rfl⟩, rfl⟩

/-- One successful call extends the trail, if the response it handles repeats
the random number. -/
theorem ProverTrail.extend (trail : ProverTrail suite setup taken state)
    (move : ProverMove suite state c r after)
    (echoed : ∀ p, (proverProtocol setup.negotiates).after .fresh
      (taken.map fun call => call.1.kind) = some p → setup.Echoed p c) :
    ProverTrail suite setup (taken ++ [(c, r)]) after := by
  cases trail with
  | fresh =>
    cases setup with
    | negotiation pin x random id =>
      cases move with
      | request encoded => exact .requested rfl encoded
    | knownParams pin params x =>
      cases move with
      | knownShare shares => exact .shared .known shares
  | requested isSetup sent =>
    subst isSetup
    cases move with
    | response decoded offered _ =>
      have repeats := echoed .requested rfl _ decoded
      exact .opened (.negotiated sent decoded repeats offered)
  | opened opening =>
    cases move with
    | share shares => exact .shared opening shares
  | shared opening shares =>
    cases move with
    | confirm verified =>
      rw [List.append_assoc]
      exact .confirmed opening shares verified
  | confirmed opening shares verified =>
    cases move with
    | complete encoded =>
      rw [List.append_assoc]
      exact .complete opening shares verified encoded
  | complete => cases move

section
variable (guarded : Guarded (proverProtocol setup.negotiates) ProverCall.kind
  (PaseProver.call suite) setup.Echoed setup.prover calls)
include guarded

/-- Along a run that is guarded the prover is poisoned or on its trail. -/
theorem prover_trail :
    (run (step (PaseProver.call suite)) setup.prover calls).state = .poisoned ∨
      ProverTrail suite setup
        (accepted (log (step (PaseProver.call suite)) (event (PaseProver.call suite))
          setup.prover calls)) (run (step (PaseProver.call suite)) setup.prover calls).state := by
  induction calls using List.reverseRecOn with
  | nil => exact .inr .fresh
  | append_singleton calls c ih =>
    have here := guarded calls c (List.prefix_refl _)
    have before := ih (guarded.mono (List.prefix_append _ _))
    rw [log_concat, run_concat]
    generalize run (step (PaseProver.call suite)) setup.prover calls = now at *
    have outcome : ProverOutcome suite now c (now.call suite c) := call_prover now c
    rw [step, event]
    generalize now.call suite c = result at outcome
    cases outcome with
    | poisoned _ isPoisoned => exact .inl isPoisoned
    | refused kind unexpected =>
      rw [accepted_concat_error]
      exact before
    | moved expected move =>
      right
      rw [accepted_concat_ok]
      rcases before with isPoisoned | trail
      · simp [isPoisoned, ProverState.expects] at expected
      · exact trail.extend move here

theorem prover_confirmed
    (finished : (run (step (PaseProver.call suite)) setup.prover calls).finish = .ok keys) :
    ProverConfirmed suite setup
      (accepted (log (step (PaseProver.call suite)) (event (PaseProver.call suite))
        setup.prover calls)) keys := by
  have trail := prover_trail guarded
  rw [PaseProver.finish] at finished
  generalize (run (step (PaseProver.call suite)) setup.prover calls).state = state at *
  generalize accepted (log (step (PaseProver.call suite)) (event (PaseProver.call suite))
    setup.prover calls) = taken at *
  cases state with
  | complete reached =>
    obtain rfl := Except.ok.inj finished
    rcases trail with isPoisoned | trail
    · cases isPoisoned
    · generalize isComplete : ProverState.complete reached = state at trail
      cases trail with
      | complete opening shares verified sent =>
        cases isComplete
        exact ⟨_, _, _, _, _, _, _, _, _, _, _, _, _, opening, shares, verified, sent, rfl, rfl⟩
      | fresh => cases setup <;> cases isComplete
      | _ => cases isComplete
  | _ => cases finished

end

end Prover

section Verifier

inductive VerifierKind where
  | handlePbkdfRequest
  | handlePake1
  | handlePake3
  | nextMessage
  deriving DecidableEq

def VerifierCall.kind : VerifierCall → VerifierKind
  | .handlePbkdfRequest _ => .handlePbkdfRequest
  | .handlePake1 _ => .handlePake1
  | .handlePake3 _ => .handlePake3
  | .nextMessage => .nextMessage

inductive VerifierPhase where
  | fresh
  | requested
  | responded
  | received
  | answered
  | done
  deriving DecidableEq

/-- `Pake3` follows `Pake2`, which may be sent again. -/
def verifierProtocol : Protocol VerifierPhase VerifierKind where
  initial := .fresh
  next
    | .fresh, .handlePbkdfRequest => some .requested
    | .fresh, .handlePake1 => some .received
    | .requested, .nextMessage => some .responded
    | .responded, .handlePake1 => some .received
    | .received, .nextMessage => some .answered
    | .answered, .nextMessage => some .answered
    | .answered, .handlePake3 => some .done
    | _, _ => none

structure VerifierSetup (F : Type) where
  w0 : F
  l : Block 65
  params : PasePbkdfParams
  yScalar : F
  responderRandom : Block 32
  sessionId : UInt16

namespace VerifierSetup
variable {F : Type}

def state (setup : VerifierSetup F) : VerifierState F :=
  .awaitingFirstMessage setup.w0 setup.l setup.params setup.yScalar setup.responderRandom
    setup.sessionId

def verifier (setup : VerifierSetup F) : PaseVerifier F := ⟨setup.state⟩

end VerifierSetup

/-- `Pake3` is not handled between `Pake1` and the sending of `Pake2`. -/
def Paced : VerifierPhase → VerifierCall → Prop
  | .received, .handlePake3 _ => False
  | _, _ => True

abbrev VerifierTaken := List (VerifierCall × Option Bytes)

variable {F G : Type} [Field F] [AddCommGroup G] [Module F G] (suite : Suite F G)

/-- The calls before `Pake1`, and the hashed context they settle. -/
inductive VerifierOpening (setup : VerifierSetup F) : VerifierTaken → Block 32 → Prop
  | known : VerifierOpening setup [] (suite.hashContext [])
  | negotiated {bytes : Octets} {req : PbkdfParamRequest} {resp : Bytes}
    (received : PbkdfParamRequest.decode bytes = .ok req)
    (sent : (responseOf req.initiatorRandom setup.responderRandom setup.sessionId
      setup.params).encode = .ok resp) :
    VerifierOpening setup [(.handlePbkdfRequest bytes, none), (.nextMessage, some resp)]
      (suite.hashContext [bytes.bytes, resp])

/-- The successful calls of a verifier, and the state they lead to. -/
inductive VerifierTrail (setup : VerifierSetup F) : VerifierTaken → VerifierState F → Prop
  | fresh : VerifierTrail setup [] setup.state
  | requested (received : PbkdfParamRequest.decode bytes = .ok req) :
    VerifierTrail setup [(.handlePbkdfRequest bytes, none)]
      (.readyToSendPbkdfResponse setup.w0 setup.l setup.params setup.yScalar bytes.bytes
        setup.responderRandom req.initiatorRandom setup.sessionId)
  | responded (opening : VerifierOpening suite setup before context) :
    VerifierTrail setup before (.awaitingPake1 setup.w0 setup.l setup.yScalar context)
  | received (opening : VerifierOpening suite setup before context)
    (answers : Answers suite setup.yScalar setup.w0 setup.l context pake1 yBytes tags) :
    VerifierTrail setup (before ++ [(.handlePake1 pake1, none)])
      (.readyToSendPake2 yBytes tags.cb tags.ca tags.sessionKeys)
  | answered (n : Nat)
    (opening : VerifierOpening suite setup before context)
    (answers : Answers suite setup.yScalar setup.w0 setup.l context pake1 yBytes tags)
    (sent : Pake2.encode ⟨yBytes, tags.cb⟩ = .ok pake2) :
    VerifierTrail setup
      (before ++ (.handlePake1 pake1, none) :: List.replicate (n + 1) (.nextMessage, some pake2))
      (.readyToSendPake2 yBytes tags.cb tags.ca tags.sessionKeys)
  | complete (n : Nat)
    (opening : VerifierOpening suite setup before context)
    (answers : Answers suite setup.yScalar setup.w0 setup.l context pake1 yBytes tags)
    (sent : Pake2.encode ⟨yBytes, tags.cb⟩ = .ok pake2)
    (confirmed : Pake3.decode pake3 = .ok ⟨tags.ca⟩) :
    VerifierTrail setup
      (before ++ (.handlePake1 pake1, none) ::
        (List.replicate (n + 1) (.nextMessage, some pake2) ++ [(.handlePake3 pake3, none)]))
      (.complete tags.sessionKeys)

/-- A verifier that may finish received `Pake1`, sent `Pake2` once or more, and
was then given the tag it expects in `Pake3`. -/
structure VerifierConfirmed (setup : VerifierSetup F) (taken : VerifierTaken)
    (keys : PaseSessionKeys) : Prop where
  run : ∃ before context pake1 yBytes pake2 pake3 tags n,
    VerifierOpening suite setup before context ∧
    Answers suite setup.yScalar setup.w0 setup.l context pake1 yBytes tags ∧
    Pake2.encode ⟨yBytes, tags.cb⟩ = .ok pake2 ∧ Pake3.decode pake3 = .ok ⟨tags.ca⟩ ∧
    keys = tags.sessionKeys ∧
    taken = before ++ (.handlePake1 pake1, none) ::
      (List.replicate (n + 1) (.nextMessage, some pake2) ++ [(.handlePake3 pake3, none)])

/-- The state belongs to the phase; one state stands for two phases. -/
def VerifierState.InPhase : VerifierPhase → VerifierState F → Prop
  | .fresh, .awaitingFirstMessage _ _ _ _ _ _ => True
  | .requested, .readyToSendPbkdfResponse _ _ _ _ _ _ _ _ => True
  | .responded, .awaitingPake1 _ _ _ _ => True
  | .received, .readyToSendPake2 _ _ _ _ => True
  | .answered, .readyToSendPake2 _ _ _ _ => True
  | .done, .complete _ => True
  | _, _ => False

variable {suite} {setup : VerifierSetup F}

omit [Field F] in
theorem VerifierState.expects_iff {state : VerifierState F} (inPhase : state.InPhase p)
    {c : VerifierCall} (paced : Paced p c) :
    state.expects c = (verifierProtocol.next p c.kind).isSome := by
  cases p <;> cases state <;> first
    | exact inPhase.elim
    | (cases c <;> first | rfl | exact paced.elim)

theorem VerifierMove.inPhase (move : VerifierMove suite state c r after) (inPhase : state.InPhase p)
    (following : verifierProtocol.next p c.kind = some q) : after.InPhase q := by
  cases move <;> cases p <;> first
    | exact inPhase.elim
    | (cases following <;> trivial)

theorem verifier_conforms :
    Conforms verifierProtocol VerifierCall.kind (PaseVerifier.call suite) Paced Refusal
      (fun p verifier => verifier.state.InPhase p) (fun verifier => verifier.state = .poisoned) where
  refuses := by
    intro p verifier c inPhase paced notNext
    have unexpected := VerifierState.expects_iff inPhase paced
    rw [notNext] at unexpected
    have outcome : VerifierOutcome suite verifier c (verifier.call suite c) := call_verifier verifier c
    generalize verifier.call suite c = result at outcome
    cases outcome with
    | moved expected | poisoned expected => simp [unexpected] at expected
    | refused kind => exact ⟨_, ⟨kind, rfl⟩, rfl⟩
  takes := by
    intro p verifier c q inPhase paced following
    have expects := VerifierState.expects_iff inPhase paced
    rw [following] at expects
    have outcome : VerifierOutcome suite verifier c (verifier.call suite c) := call_verifier verifier c
    generalize verifier.call suite c = result at outcome
    cases outcome with
    | moved expected move => exact .inl ⟨_, rfl, move.inPhase inPhase following⟩
    | poisoned expected isPoisoned => exact .inr ⟨_, rfl, isPoisoned⟩
    | refused kind unexpected => simp [expects] at unexpected
  dead := by
    intro verifier c isPoisoned
    have outcome : VerifierOutcome suite verifier c (verifier.call suite c) := call_verifier verifier c
    generalize verifier.call suite c = result at outcome
    cases outcome with
    | moved expected | poisoned expected => simp [isPoisoned, VerifierState.expects] at expected
    | refused kind => exact ⟨_, ⟨kind, rfl⟩, rfl⟩

/-- One successful call extends the trail, if `Pake3` keeps its pace. -/
theorem VerifierTrail.extend (trail : VerifierTrail suite setup taken state)
    (move : VerifierMove suite state c r after)
    (paced : ∀ p, verifierProtocol.after .fresh (taken.map fun call => call.1.kind) = some p →
      Paced p c) : VerifierTrail suite setup (taken ++ [(c, r)]) after := by
  cases trail with
  | fresh =>
    cases move with
    | request decoded => exact .requested decoded
    | knownShare answers => exact .received .known answers
  | requested received =>
    cases move with
    | respond encoded => exact .responded (.negotiated received encoded)
  | responded opening =>
    cases move with
    | share answers => exact .received opening answers
  | received opening answers =>
    cases move with
    | answer encoded =>
      rw [List.append_assoc]
      exact .answered 0 opening answers encoded
    | complete decoded => exact (paced .received (by cases opening <;> rfl)).elim
  | answered n opening answers sent =>
    cases move with
    | answer encoded =>
      obtain rfl := Except.ok.inj (sent.symm.trans encoded)
      rw [List.append_assoc, List.cons_append, ← List.replicate_succ']
      exact .answered (n + 1) opening answers sent
    | complete decoded =>
      rw [List.append_assoc, List.cons_append]
      exact .complete n opening answers sent decoded
  | complete => cases move

section
variable (guarded : Guarded verifierProtocol VerifierCall.kind (PaseVerifier.call suite) Paced
  setup.verifier calls)
include guarded

theorem verifier_trail :
    (run (step (PaseVerifier.call suite)) setup.verifier calls).state = .poisoned ∨
      VerifierTrail suite setup
        (accepted (log (step (PaseVerifier.call suite)) (event (PaseVerifier.call suite))
          setup.verifier calls))
        (run (step (PaseVerifier.call suite)) setup.verifier calls).state := by
  induction calls using List.reverseRecOn with
  | nil => exact .inr .fresh
  | append_singleton calls c ih =>
    have here := guarded calls c (List.prefix_refl _)
    have before := ih (guarded.mono (List.prefix_append _ _))
    rw [log_concat, run_concat]
    generalize run (step (PaseVerifier.call suite)) setup.verifier calls = now at *
    have outcome : VerifierOutcome suite now c (now.call suite c) := call_verifier now c
    rw [step, event]
    generalize now.call suite c = result at outcome
    cases outcome with
    | poisoned _ isPoisoned => exact .inl isPoisoned
    | refused kind unexpected =>
      rw [accepted_concat_error]
      exact before
    | moved expected move =>
      right
      rw [accepted_concat_ok]
      rcases before with isPoisoned | trail
      · simp [isPoisoned, VerifierState.expects] at expected
      · exact trail.extend move here

theorem verifier_confirmed
    (finished : (run (step (PaseVerifier.call suite)) setup.verifier calls).finish = .ok keys) :
    VerifierConfirmed suite setup
      (accepted (log (step (PaseVerifier.call suite)) (event (PaseVerifier.call suite))
        setup.verifier calls)) keys := by
  have trail := verifier_trail guarded
  rw [PaseVerifier.finish] at finished
  generalize (run (step (PaseVerifier.call suite)) setup.verifier calls).state = state at *
  generalize accepted (log (step (PaseVerifier.call suite)) (event (PaseVerifier.call suite))
    setup.verifier calls) = taken at *
  cases state with
  | complete reached =>
    obtain rfl := Except.ok.inj finished
    rcases trail with isPoisoned | trail
    · cases isPoisoned
    · generalize isComplete : VerifierState.complete reached = state at trail
      cases trail with
      | complete n opening answers sent confirmed =>
        cases isComplete
        exact ⟨_, _, _, _, _, _, _, n, opening, answers, sent, confirmed, rfl, rfl⟩
      | _ => cases isComplete
  | _ => cases finished

end

end Verifier

/-- Whatever the calls, both machines keep the order of the protocol and finish
only when confirmed, as long as responses repeat the random number and `Pake3`
does not overtake `Pake2`. -/
theorem phase_order {F G : Type} [Field F] [AddCommGroup G] [Module F G] (suite : Suite F G) :
    (∀ (setup : ProverSetup F) (calls : List ProverCall),
      Ordered (proverProtocol setup.negotiates) ProverCall.kind (PaseProver.call suite) Refusal
        (fun prover => ∃ keys, prover.finish = .ok keys) setup.prover calls ∧
      (Guarded (proverProtocol setup.negotiates) ProverCall.kind (PaseProver.call suite)
          setup.Echoed setup.prover calls →
        ∀ keys, (run (step (PaseProver.call suite)) setup.prover calls).finish = .ok keys →
          ProverConfirmed suite setup
            (accepted (log (step (PaseProver.call suite)) (event (PaseProver.call suite))
              setup.prover calls)) keys)) ∧
    (∀ (setup : VerifierSetup F) (calls : List VerifierCall),
      Guarded verifierProtocol VerifierCall.kind (PaseVerifier.call suite) Paced
          setup.verifier calls →
      Ordered verifierProtocol VerifierCall.kind (PaseVerifier.call suite) Refusal
        (fun verifier => ∃ keys, verifier.finish = .ok keys) setup.verifier calls ∧
      ∀ keys, (run (step (PaseVerifier.call suite)) setup.verifier calls).finish = .ok keys →
        VerifierConfirmed suite setup
          (accepted (log (step (PaseVerifier.call suite)) (event (PaseVerifier.call suite))
            setup.verifier calls)) keys) := by
  constructor
  · intro setup calls
    constructor
    · apply (prover_conforms setup.negotiates).ordered
      · cases setup <;> rfl
      · rintro prover isPoisoned ⟨keys, finished⟩
        rw [PaseProver.finish, isPoisoned] at finished
        cases finished
      · exact fun _ _ _ _ _ => trivial
    · exact fun guarded keys finished => prover_confirmed guarded finished
  · intro setup calls guarded
    constructor
    · apply verifier_conforms.ordered
      · trivial
      · rintro verifier isPoisoned ⟨keys, finished⟩
        rw [PaseVerifier.finish, isPoisoned] at finished
        cases finished
      · exact guarded
    · exact fun keys finished => verifier_confirmed guarded finished

section Runs

def sampleParams : PasePbkdfParams := ⟨1000, ⟨List.replicate 16 0, by decide⟩⟩

def sampleProver : ProverSetup Z3 := .negotiation 1 1 (.fill 32 5) 7

def sampleVerifier : VerifierSetup Z3 := ⟨1, lastOctet 64 1, sampleParams, 1, .fill 32 6, 8⟩

def sampleResponse (random : Block 32) : Octets :=
  onWire (responseOf random (.fill 32 6) 8 sampleParams).encode

def samplePake1 : Octets := onWire (Pake1.encode ⟨lastOctet 64 2⟩)

/-- The device after `Pake1`, in a transcript with the given response. -/
def sampleAnswered (random : Block 32) : PaseVerifier Z3 :=
  (PaseVerifier.handlePake1 smallSuite
    ⟨.awaitingPake1 1 (lastOctet 64 1) 1 (smallSuite.hashContext
      [(onWire (requestOf (.fill 32 5) 7).encode).bytes, (sampleResponse random).bytes])⟩
    samplePake1).2

def samplePake2 (random : Block 32) : Octets :=
  onWire ((sampleAnswered random).nextMessage smallSuite).1

def sampleProverCalls (random : Block 32) : List ProverCall :=
  [.start, .handlePbkdfResponse (sampleResponse random), .nextMessage,
    .handlePake2 (samplePake2 random), .nextMessage]

/-- The tag the device waits for after a share without negotiation. -/
def samplePake3 : Octets :=
  match (PaseVerifier.handlePake1 smallSuite sampleVerifier.verifier samplePake1).2.state with
  | .readyToSendPake2 _ _ ca _ => onWire (Pake3.encode ⟨ca⟩)
  | _ => ⟨[], nil_short⟩

def sampleVerifierCalls : List VerifierCall :=
  [.handlePake1 samplePake1, .nextMessage, .handlePake3 samplePake3]

/-- Only the last of these calls is held to its pace. -/
theorem sample_paced :
    Guarded verifierProtocol VerifierCall.kind (PaseVerifier.call smallSuite) Paced
      sampleVerifier.verifier sampleVerifierCalls := by
  have answered : phase verifierProtocol VerifierCall.kind (log
      (step (PaseVerifier.call smallSuite)) (event (PaseVerifier.call smallSuite))
      sampleVerifier.verifier [.handlePake1 samplePake1, .nextMessage]) = some .answered := by
    decide +kernel
  intro pre c within p reached
  cases c with
  | handlePake3 bytes =>
    match pre, within with
    | [], within => cases (List.cons_prefix_cons.mp within).1
    | [_], within => cases (List.cons_prefix_cons.mp (List.cons_prefix_cons.mp within).2).1
    | [_, _], within =>
      obtain ⟨rfl, rest⟩ := List.cons_prefix_cons.mp within
      obtain ⟨rfl, _⟩ := List.cons_prefix_cons.mp rest
      obtain rfl := Option.some.inj (answered.symm.trans reached)
      trivial
    | _ :: _ :: _ :: more, within =>
      have size := within.length_le
      simp only [sampleVerifierCalls, List.length_append, List.length_cons, List.length_nil] at size
      omega
  | _ => cases p <;> trivial

theorem sample_echoed :
    Guarded (proverProtocol sampleProver.negotiates) ProverCall.kind (PaseProver.call smallSuite)
      sampleProver.Echoed sampleProver.prover (sampleProverCalls (.fill 32 5)) := by
  have echoes : (PbkdfParamResponse.decode (sampleResponse (.fill 32 5))).map
      (·.initiatorRandom) = .ok (.fill 32 5) := by
    decide +kernel
  intro pre c within p _
  have called : c ∈ sampleProverCalls (.fill 32 5) := within.subset (by simp)
  cases c with
  | handlePbkdfResponse bytes =>
    obtain rfl : bytes = sampleResponse (.fill 32 5) := by simpa [sampleProverCalls] using called
    cases p with
    | requested =>
      intro resp decoded
      rw [decoded] at echoes
      exact Except.ok.inj echoes
    | _ => trivial
  | _ => cases p <;> trivial

theorem phase_order_sample :
    (∃ taken keys, ProverConfirmed smallSuite sampleProver taken keys) ∧
      ∃ taken keys, VerifierConfirmed smallSuite sampleVerifier taken keys := by
  constructor
  · have finished : (run (step (PaseProver.call smallSuite)) sampleProver.prover
        (sampleProverCalls (.fill 32 5))).finish.isOk = true := by decide +kernel
    obtain ⟨keys, ended⟩ := Exits.ok_of_isOk finished
    exact ⟨_, keys, ((phase_order smallSuite).1 sampleProver _).2 sample_echoed keys ended⟩
  · have finished : (run (step (PaseVerifier.call smallSuite)) sampleVerifier.verifier
        sampleVerifierCalls).finish.isOk = true := by decide +kernel
    obtain ⟨keys, ended⟩ := Exits.ok_of_isOk finished
    exact ⟨_, keys, ((phase_order smallSuite).2 sampleVerifier _ sample_paced).2 keys ended⟩

/-- A response with another random number leads to keys, and so does `Pake3` on
a device that has not sent `Pake2`. -/
theorem finishes_out_of_order :
    (PbkdfParamResponse.decode (sampleResponse (.fill 32 9))).map (·.initiatorRandom) =
      .ok (.fill 32 9) ∧ (run (step (PaseProver.call smallSuite)) sampleProver.prover
      (sampleProverCalls (.fill 32 9))).finish.isOk = true ∧
    (run (step (PaseVerifier.call smallSuite)) sampleVerifier.verifier
      [.handlePake1 samplePake1, .handlePake3 samplePake3]).finish.isOk = true := by
  decide +kernel

end Runs

end Matter.Pase
