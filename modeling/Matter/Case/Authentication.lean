import Matter.Case.Moves

/-! A handshake completes only with evidence for the peer, gathered from the
messages of the same run, and the session is with the peer the evidence is for. -/
namespace Matter.Case
open Codec hiding Error
open Handshake Runs Logs Phases
open Cert (Block MatterTime)

section Initiator
variable {Key : Type} (prims : Primitives Key)

abbrev CaseInitiator.afterCalls (initiator : CaseInitiator Key) (calls : List InitiatorCall) :
    CaseInitiator Key :=
  run (step (CaseInitiator.call prims)) initiator calls

abbrev CaseInitiator.history (initiator : CaseInitiator Key) (calls : List InitiatorCall) :
    List (InitiatorCall × Except Error Reply) :=
  log (step (CaseInitiator.call prims)) (event (CaseInitiator.call prims)) initiator calls

/-- The calls of a run that stand for its outcome, and what they established. -/
inductive InitiatorEvidence (setup : InitiatorSetup Key) (record : Option ResumptionRecord)
    (now : MatterTime) (l : List (InitiatorCall × Except Error Reply))
    (output : CaseSessionOutput) : Prop
  | full {sigma1 : Bytes} {bytes : Octets}
    (calls : Along [Returned .start (.message sigma1), Returned (.handleSigma2 bytes) .done] l)
    (authentic : Sigma2Authentic prims setup now sigma1 bytes output)
  | resumed {sigma1 : Bytes} {bytes : Octets} {offered : ResumptionRecord}
    (offer : record = some offered)
    (calls : Along [Returned .start (.message sigma1), Returned (.handleSigma2Resume bytes) .done] l)
    (authentic : ResumeAuthentic prims setup offered bytes output)

/-- How an initiator that is not poisoned got to its state. -/
inductive InitiatorTrail (setup : InitiatorSetup Key) (record : Option ResumptionRecord)
    (now : MatterTime) (l : List (InitiatorCall × Except Error Reply)) :
    InitiatorState Key → Prop
  | fresh : InitiatorTrail setup record now l (.awaitingStart setup record)
  | started (calls : Along [Returned .start (.message sigma1)] l) :
    InitiatorTrail setup record now l (.awaitingSigma2 setup sigma1 record)
  | answered (evidence : InitiatorEvidence prims setup record now l output) :
    InitiatorTrail setup record now l (.readyToSendSigma3 sigma3 output)
  | complete (evidence : InitiatorEvidence prims setup record now l output) :
    InitiatorTrail setup record now l (.complete output)

def InitiatorStands (setup : InitiatorSetup Key) (record : Option ResumptionRecord)
    (now : MatterTime) (l : List (InitiatorCall × Except Error Reply))
    (initiator : CaseInitiator Key) : Prop :=
  initiator.state = .poisoned ∨
    initiator.validationTime = now ∧ InitiatorTrail prims setup record now l initiator.state

variable {prims} {setup : InitiatorSetup Key} {record : Option ResumptionRecord} {now : MatterTime}
  {l : List (InitiatorCall × Except Error Reply)}

theorem CaseInitiator.complete_of_finish {initiator : CaseInitiator Key}
    (finished : initiator.finish = .ok output) : initiator.state = .complete output := by
  rw [CaseInitiator.finish] at finished
  generalize initiator.state = state at finished ⊢
  cases state with
  | complete reached =>
    cases finished
    rfl
  | _ => cases finished

theorem InitiatorMove.poisoned (move : InitiatorMove prims now state c r after)
    (isPoisoned : state = .poisoned) : after = .poisoned := by
  cases move with
  | configure => exact isPoisoned
  | _ => cases isPoisoned

theorem InitiatorEvidence.later (evidence : InitiatorEvidence prims setup record now l output)
    (more : List (InitiatorCall × Except Error Reply)) :
    InitiatorEvidence prims setup record now (l ++ more) output := by
  cases evidence with
  | full calls authentic => exact .full (calls.extend more) authentic
  | resumed offer calls authentic => exact .resumed offer (calls.extend more) authentic

theorem InitiatorTrail.later (trail : InitiatorTrail prims setup record now l state)
    (more : List (InitiatorCall × Except Error Reply)) :
    InitiatorTrail prims setup record now (l ++ more) state := by
  cases trail with
  | fresh => exact .fresh
  | started calls => exact .started (calls.extend more)
  | answered evidence => exact .answered (evidence.later more)
  | complete evidence => exact .complete (evidence.later more)

theorem InitiatorTrail.extend (trail : InitiatorTrail prims setup record now l state)
    (move : InitiatorMove prims now state c r after) :
    InitiatorTrail prims setup record now (l ++ [(c, .ok r)]) after := by
  cases move with
  | configure => exact trail.later _
  | start sigma1 =>
    cases trail with
    | fresh => exact .started (Along.nil.concat rfl)
  | sigma2 authentic =>
    cases trail with
    | started calls => exact .answered (.full (calls.concat rfl) authentic)
  | resume authentic =>
    cases trail with
    | started calls => exact .complete (.resumed rfl (calls.concat rfl) authentic)
  | sigma3 =>
    cases trail with
    | answered evidence => exact .complete (evidence.later _)

section
variable {initiator : CaseInitiator Key}

theorem initiator_stands (fresh : initiator.state = .awaitingStart setup record)
    (calls : List InitiatorCall) :
    InitiatorStands prims setup record initiator.validationTime (initiator.history prims calls)
      (initiator.afterCalls prims calls) := by
  apply Logs.invariant (P := InitiatorStands prims setup record initiator.validationTime)
  · intro l m c before
    have outcome : InitiatorOutcome prims m c (m.call prims c) := call_initiator m c
    rw [step, event]
    generalize m.call prims c = result at outcome
    cases outcome with
    | poisoned isPoisoned => exact .inl isPoisoned
    | refused idle => exact before.imp_right (And.imp_right (·.later _))
    | moved sameTime move =>
      rcases before with isPoisoned | ⟨atTime, trail⟩
      · exact .inl (move.poisoned isPoisoned)
      · rw [atTime] at sameTime move
        exact .inr ⟨sameTime, trail.extend move⟩
  · right
    rw [fresh]
    exact ⟨rfl, .fresh⟩

theorem initiator_evidence (fresh : initiator.state = .awaitingStart setup record)
    (finished : (initiator.afterCalls prims calls).finish = .ok output) :
    InitiatorEvidence prims setup record initiator.validationTime (initiator.history prims calls)
      output := by
  have stands : InitiatorStands prims _ _ _ _ _ := initiator_stands fresh calls
  have reached := CaseInitiator.complete_of_finish finished
  rcases stands with isPoisoned | ⟨-, trail⟩
  · rw [isPoisoned] at reached
    cases reached
  · rw [reached] at trail
    cases trail with
    | complete evidence => exact evidence

theorem CaseInitiator.poisoned_call (c : InitiatorCall) (isPoisoned : initiator.state = .poisoned) :
    (initiator.call prims c).2.state = .poisoned := by
  have outcome : InitiatorOutcome prims initiator c (initiator.call prims c) := call_initiator _ c
  generalize initiator.call prims c = result at outcome
  cases outcome with
  | poisoned stays => exact stays
  | refused => exact isPoisoned
  | moved _ move => exact move.poisoned isPoisoned

/-- A failed answer to a waiting initiator is the end of it. -/
theorem initiator_failed (isAnswer : c.isAnswer = true) (waiting : initiator.expectedInbound ≠ none)
    (failed : (initiator.call prims c).1 = .error e) (later : List InitiatorCall)
    (output : CaseSessionOutput) :
    ((initiator.call prims c).2.afterCalls prims later).finish ≠ .ok output := by
  have isPoisoned : (initiator.call prims c).2.state = .poisoned := by
    have outcome : InitiatorOutcome prims initiator c (initiator.call prims c) :=
      call_initiator _ c
    generalize initiator.call prims c = result at outcome failed
    cases outcome with
    | poisoned state => exact state
    | refused idle => exact absurd (idle isAnswer) waiting
    | moved => cases failed
  have stays : ((initiator.call prims c).2.afterCalls prims later).state = .poisoned :=
    Runs.invariant (P := fun m : CaseInitiator Key => m.state = .poisoned)
      (fun _ c isPoisoned => CaseInitiator.poisoned_call c isPoisoned) isPoisoned later
  intro finished
  rw [CaseInitiator.complete_of_finish finished] at stays
  cases stays

end

end Initiator

section Responder
variable {Key : Type} (prims : Primitives Key)

abbrev CaseResponder.afterCalls (responder : CaseResponder Key) (calls : List ResponderCall) :
    CaseResponder Key :=
  run (step (CaseResponder.call prims)) responder calls

abbrev CaseResponder.history (responder : CaseResponder Key) (calls : List ResponderCall) :
    List (ResponderCall × Except Error Reply) :=
  log (step (CaseResponder.call prims)) (event (CaseResponder.call prims)) responder calls

/-- The calls of a run that stand for its outcome, and what they established. -/
inductive ResponderEvidence (setup : ResponderSetup Key) (now : MatterTime)
    (l : List (ResponderCall × Except Error Reply)) (output : CaseSessionOutput) : Prop
  | full {first third : Octets} {drawn : Option (Block 16)} {outcome : Sigma1Outcome}
    {sigma1 : Sigma1} {pending : PendingSigma3}
    (calls : Along [Returned (.handleSigma1 first drawn) (.sigma1 outcome),
      Returned .nextMessage (.message pending.sigma2Bytes), Returned (.handleSigma3 third) .done] l)
    (kept : PendingFrom prims setup first sigma1 pending)
    (authentic : Sigma3Authentic prims pending now third output)
  | resumed {first : Octets} {drawn newId : Option (Block 16)} {sigma1 : Sigma1}
    {request : ResumptionRequest} {record : ResumptionRecord}
    (calls : Along [Returned (.handleSigma1 first drawn)
        (.sigma1 (.resumptionRequested request.resumptionIdPresented)),
      Returned (.acceptResumption record newId) .done] l)
    (kept : RequestFrom first sigma1 request)
    (authentic : RequestAuthentic prims setup request record output)

/-- How a responder that is not poisoned got to its state. -/
inductive ResponderTrail (setup : ResponderSetup Key) (now : MatterTime)
    (l : List (ResponderCall × Except Error Reply)) : ResponderState Key → Prop
  | fresh : ResponderTrail setup now l (.awaitingSigma1 setup)
  | asked (calls : Along [Returned (.handleSigma1 first drawn)
      (.sigma1 (.resumptionRequested request.resumptionIdPresented))] l)
    (kept : RequestFrom first sigma1 request) :
    ResponderTrail setup now l (.awaitingResumptionDecision setup request)
  | opened (calls : Along [Returned (.handleSigma1 first drawn) (.sigma1 outcome)] l)
    (kept : PendingFrom prims setup first sigma1 pending) :
    ResponderTrail setup now l (.readyToSendSigma2 pending)
  | answered (calls : Along [Returned (.handleSigma1 first drawn) (.sigma1 outcome),
      Returned .nextMessage (.message pending.sigma2Bytes)] l)
    (kept : PendingFrom prims setup first sigma1 pending) :
    ResponderTrail setup now l (.awaitingSigma3 pending)
  | resumed (evidence : ResponderEvidence prims setup now l output) :
    ResponderTrail setup now l (.readyToSendSigma2Resume sigma2Resume output)
  | complete (evidence : ResponderEvidence prims setup now l output) :
    ResponderTrail setup now l (.complete output)

def ResponderStands (setup : ResponderSetup Key) (now : MatterTime)
    (l : List (ResponderCall × Except Error Reply)) (responder : CaseResponder Key) : Prop :=
  responder.state = .poisoned ∨
    responder.validationTime = now ∧ ResponderTrail prims setup now l responder.state

variable {prims} {setup : ResponderSetup Key} {now : MatterTime}
  {l : List (ResponderCall × Except Error Reply)}

theorem CaseResponder.complete_of_finish {responder : CaseResponder Key}
    (finished : responder.finish = .ok output) : responder.state = .complete output := by
  rw [CaseResponder.finish] at finished
  generalize responder.state = state at finished ⊢
  cases state with
  | complete reached =>
    cases finished
    rfl
  | _ => cases finished

theorem ResponderMove.poisoned (move : ResponderMove prims now state c r after)
    (isPoisoned : state = .poisoned) : after = .poisoned := by
  cases move with
  | configure => exact isPoisoned
  | _ => cases isPoisoned

theorem ResponderEvidence.later (evidence : ResponderEvidence prims setup now l output)
    (more : List (ResponderCall × Except Error Reply)) :
    ResponderEvidence prims setup now (l ++ more) output := by
  cases evidence with
  | full calls kept authentic => exact .full (calls.extend more) kept authentic
  | resumed calls kept authentic => exact .resumed (calls.extend more) kept authentic

theorem ResponderTrail.later (trail : ResponderTrail prims setup now l state)
    (more : List (ResponderCall × Except Error Reply)) :
    ResponderTrail prims setup now (l ++ more) state := by
  cases trail with
  | fresh => exact .fresh
  | asked calls kept => exact .asked (calls.extend more) kept
  | opened calls kept => exact .opened (calls.extend more) kept
  | answered calls kept => exact .answered (calls.extend more) kept
  | resumed evidence => exact .resumed (evidence.later more)
  | complete evidence => exact .complete (evidence.later more)

theorem ResponderTrail.extend (trail : ResponderTrail prims setup now l state)
    (move : ResponderMove prims now state c r after) :
    ResponderTrail prims setup now (l ++ [(c, .ok r)]) after := by
  cases move with
  | configure => exact trail.later _
  | opened kept =>
    cases trail with
    | fresh => exact .opened (Along.nil.concat rfl) kept
  | asked kept =>
    cases trail with
    | fresh => exact .asked (Along.nil.concat rfl) kept
  | accept authentic =>
    cases trail with
    | asked calls kept => exact .resumed (.resumed (calls.concat rfl) kept authentic)
  | reject keeps =>
    cases trail with
    | asked calls kept => exact .opened (calls.extend _) (keeps kept)
  | sigma2 =>
    cases trail with
    | opened calls kept => exact .answered (calls.concat rfl) kept
  | sigma2Resume =>
    cases trail with
    | resumed evidence => exact .complete (evidence.later _)
  | sigma3 authentic =>
    cases trail with
    | answered calls kept => exact .complete (.full (calls.concat rfl) kept authentic)

section
variable {responder : CaseResponder Key}

theorem responder_stands (fresh : responder.state = .awaitingSigma1 setup)
    (calls : List ResponderCall) :
    ResponderStands prims setup responder.validationTime (responder.history prims calls)
      (responder.afterCalls prims calls) := by
  apply Logs.invariant (P := ResponderStands prims setup responder.validationTime)
  · intro l m c before
    have outcome : ResponderOutcome prims m c (m.call prims c) := call_responder m c
    rw [step, event]
    generalize m.call prims c = result at outcome
    cases outcome with
    | poisoned isPoisoned => exact .inl isPoisoned
    | refused sameTime sameState =>
      rw [ResponderStands, sameTime, sameState]
      exact before.imp_right (And.imp_right (·.later _))
    | moved sameTime move =>
      rcases before with isPoisoned | ⟨atTime, trail⟩
      · exact .inl (move.poisoned isPoisoned)
      · rw [atTime] at sameTime move
        exact .inr ⟨sameTime, trail.extend move⟩
  · right
    rw [fresh]
    exact ⟨rfl, .fresh⟩

theorem responder_evidence (fresh : responder.state = .awaitingSigma1 setup)
    (finished : (responder.afterCalls prims calls).finish = .ok output) :
    ResponderEvidence prims setup responder.validationTime (responder.history prims calls)
      output := by
  have stands : ResponderStands prims _ _ _ _ := responder_stands fresh calls
  have reached := CaseResponder.complete_of_finish finished
  rcases stands with isPoisoned | ⟨-, trail⟩
  · rw [isPoisoned] at reached
    cases reached
  · rw [reached] at trail
    cases trail with
    | complete evidence => exact evidence

theorem CaseResponder.poisoned_call (c : ResponderCall) (isPoisoned : responder.state = .poisoned) :
    (responder.call prims c).2.state = .poisoned := by
  have outcome : ResponderOutcome prims responder c (responder.call prims c) := call_responder _ c
  generalize responder.call prims c = result at outcome
  cases outcome with
  | poisoned stays => exact stays
  | refused _ sameState => exact sameState.trans isPoisoned
  | moved _ move => exact move.poisoned isPoisoned

/-- A failed `Sigma3` to a responder that waits for it is the end of it. -/
theorem responder_failed (isAnswer : c.isAnswer = true)
    (waiting : responder.expectedInbound = some .sigma3)
    (failed : (responder.call prims c).1 = .error e) (later : List ResponderCall)
    (output : CaseSessionOutput) :
    ((responder.call prims c).2.afterCalls prims later).finish ≠ .ok output := by
  have isPoisoned : (responder.call prims c).2.state = .poisoned := by
    have outcome : ResponderOutcome prims responder c (responder.call prims c) :=
      call_responder _ c
    generalize responder.call prims c = result at outcome failed
    cases outcome with
    | poisoned state => exact state
    | refused _ _ idle => exact absurd waiting (idle isAnswer)
    | moved => cases failed
  have stays : ((responder.call prims c).2.afterCalls prims later).state = .poisoned :=
    Runs.invariant (P := fun m : CaseResponder Key => m.state = .poisoned)
      (fun _ c isPoisoned => CaseResponder.poisoned_call c isPoisoned) isPoisoned later
  intro finished
  rw [CaseResponder.complete_of_finish finished] at stays
  cases stays

end

end Responder

section Sessions
variable {Key : Type}

/-- Without evidence from the same run no handshake is finished, and none goes on
after a failed answer. -/
theorem completes_only_authenticated (prims : Primitives Key) :
    (∀ (initiator : CaseInitiator Key) (setup : InitiatorSetup Key)
      (record : Option ResumptionRecord), initiator.state = .awaitingStart setup record →
      (∀ calls output, (initiator.afterCalls prims calls).finish = .ok output →
        InitiatorEvidence prims setup record initiator.validationTime
          (initiator.history prims calls) output) ∧
      ∀ pre c later e, c.isAnswer = true →
        (initiator.afterCalls prims pre).expectedInbound ≠ none →
        ((initiator.afterCalls prims pre).call prims c).1 = .error e →
        ∀ output, (initiator.afterCalls prims (pre ++ c :: later)).finish ≠ .ok output) ∧
    ∀ (responder : CaseResponder Key) (setup : ResponderSetup Key),
      responder.state = .awaitingSigma1 setup →
      (∀ calls output, (responder.afterCalls prims calls).finish = .ok output →
        ResponderEvidence prims setup responder.validationTime
          (responder.history prims calls) output) ∧
      ∀ pre c later e, c.isAnswer = true →
        (responder.afterCalls prims pre).expectedInbound = some .sigma3 →
        ((responder.afterCalls prims pre).call prims c).1 = .error e →
        ∀ output, (responder.afterCalls prims (pre ++ c :: later)).finish ≠ .ok output := by
  constructor
  · intro initiator setup record fresh
    refine ⟨fun calls output finished => initiator_evidence fresh finished, ?_⟩
    intro pre c later e isAnswer waiting failed output
    rw [CaseInitiator.afterCalls, run_append, run_cons]
    exact initiator_failed isAnswer waiting failed later output
  · intro responder setup fresh
    refine ⟨fun calls output finished => responder_evidence fresh finished, ?_⟩
    intro pre c later e isAnswer waiting failed output
    rw [CaseResponder.afterCalls, run_append, run_cons]
    exact responder_failed isAnswer waiting failed later output

/-- A session is with the peer asked for, if resumptions are of sessions with that
peer. -/
theorem session_peer (prims : Primitives Key) :
    (∀ (initiator : CaseInitiator Key) (setup : InitiatorSetup Key)
      (record : Option ResumptionRecord) (calls : List InitiatorCall) (output : CaseSessionOutput),
      initiator.state = .awaitingStart setup record →
      (∀ bytes, .handleSigma2Resume bytes ∈ calls → ∀ offered, record = some offered →
        offered.peer.nodeId = setup.peerNodeId ∧ offered.peer.fabricId = setup.peerFabricId) →
      (initiator.afterCalls prims calls).finish = .ok output →
      output.peer.nodeId = setup.peerNodeId ∧ output.peer.fabricId = setup.peerFabricId) ∧
    ∀ (responder : CaseResponder Key) (setup : ResponderSetup Key) (calls : List ResponderCall)
      (output : CaseSessionOutput), responder.state = .awaitingSigma1 setup →
      (∀ record drawn, .acceptResumption record drawn ∈ calls →
        record.peer.fabricId = setup.credentials.fabricId) →
      (responder.afterCalls prims calls).finish = .ok output →
      output.peer.fabricId = output.localInfo.fabricId := by
  constructor
  · intro initiator setup record calls output fresh sameNode finished
    have evidence : InitiatorEvidence prims _ _ _ _ _ := initiator_evidence fresh finished
    cases evidence with
    | full _ authentic => exact ⟨authentic.nodeId, authentic.fabricId⟩
    | resumed offer history authentic =>
      have called := called_of_along history (.tail _ (.head _))
      rw [authentic.nodeId, authentic.fabricId]
      exact sameNode _ called _ offer
  · intro responder setup calls output fresh sameFabric finished
    have evidence : ResponderEvidence prims _ _ _ _ := responder_evidence fresh finished
    cases evidence with
    | full _ _ authentic => exact authentic.fabricId
    | resumed history _ authentic =>
      have called := called_of_along history (.tail _ (.head _))
      rw [authentic.peer, authentic.own]
      exact sameFabric _ _ called

/-- Primitives that are inverse to each other and hide nothing. -/
def clearPrimitives : Primitives UInt8 where
  fromRepr bytes := bytes.bytes.head?
  publicKey key := .fill 65 key
  diffieHellman key peer := some (.fill 32 (key * peer.bytes.headD 0))
  sha256 _ := .fill 32 0
  hmac _ _ := .fill 32 0
  hkdf _ _ _ length := if length ≤ 8160 then some (.fill length 0) else none
  encrypt _ _ _ plaintext := some (plaintext ++ List.replicate 16 0)
  decrypt _ _ _ ciphertext := some (received (ciphertext.take (ciphertext.length - 16)))
  verify _ _ _ := true

def sampleCredentials : CaseCredentials where
  noc := Cert.CertificateChain.sampleLeaf
  icac := some Cert.CertificateChain.sampleIntermediate
  signer _ := some (.fill 64 0)
  fabricId := 3
  nodeId := 2
  ipk := .fill 16 0
  rcacPublicKey := .fill 65 0

/-- Of a session with node 8 of fabric 9. -/
def strangeRecord : ResumptionRecord where
  id := .fill 16 1
  sharedSecret := .fill 32 0
  peer := ⟨8, 9, Cert.CertificateChain.sampleLeaf, 5⟩
  expiresAt := none

def sampleInitiatorSetup : InitiatorSetup UInt8 where
  credentials := sampleCredentials
  trustedRoots := [Cert.CertificateChain.sampleAnchor]
  peerNodeId := 2
  peerFabricId := 3
  ephSecret := 5
  ephPub := .fill 65 5
  initiatorRandom := .fill 32 6
  initiatorSessionId := 7

def sampleResponderSetup : ResponderSetup UInt8 where
  credentials := sampleCredentials
  trustedRoots := [Cert.CertificateChain.sampleAnchor]
  ephSecret := 9
  ephPub := .fill 65 9
  responderRandom := .fill 32 8
  responderSessionId := 10

def sampleInitiator (record : Option ResumptionRecord) : CaseInitiator UInt8 :=
  ⟨.awaitingStart sampleInitiatorSetup record, none, none, ⟨7⟩⟩

def sampleResponder : CaseResponder UInt8 :=
  ⟨.awaitingSigma1 sampleResponderSetup, none, none, ⟨7⟩, none⟩

def sampleSigma1 (record : Option ResumptionRecord) : Octets :=
  onWire ((sampleInitiator record).start clearPrimitives).1

/-- What the sample initiator sends to resume the strange session. -/
def strangeSigma1 : Octets := sampleSigma1 (some strangeRecord)

def strangeSigma2Resume : Octets :=
  onWire (Sigma2Resume.encode ⟨.fill 16 2, .fill 16 0, 10, none⟩)

/-- A record of a session with somebody else makes a session with somebody else, on
either side. -/
theorem resumes_with_another_peer :
    (sampleInitiatorSetup.peerNodeId = 2 ∧ sampleInitiatorSetup.peerFabricId = 3 ∧
      ((sampleInitiator (some strangeRecord)).afterCalls clearPrimitives
        [.start, .handleSigma2Resume strangeSigma2Resume]).finish.toOption.map
          (fun output => (output.peer.nodeId, output.peer.fabricId)) = some (8, 9)) ∧
    (sampleResponder.afterCalls clearPrimitives
        [.handleSigma1 strangeSigma1 none, .acceptResumption strangeRecord (some (.fill 16 2)),
          .nextMessage]).finish.toOption.map
          (fun output => (output.peer.fabricId, output.localInfo.fabricId)) = some (9, 3) := by
  decide +kernel

/-- Of an earlier session with the same peer. -/
def sampleRecord : ResumptionRecord :=
  { strangeRecord with peer := ⟨2, 3, Cert.CertificateChain.sampleLeaf, 5⟩ }

def sampleSigma2 : Octets :=
  onWire ((sampleResponder.afterCalls clearPrimitives
    [.handleSigma1 (sampleSigma1 none) (some (.fill 16 2))]).nextMessage).1

def sampleSigma3 : Octets :=
  onWire (((sampleInitiator none).afterCalls clearPrimitives
    [.start, .handleSigma2 sampleSigma2]).nextMessage).1

def initiatorRuns : List (Option ResumptionRecord × List InitiatorCall) := [
  (none, [.start, .handleSigma2 sampleSigma2, .nextMessage]),
  (some sampleRecord, [.start, .handleSigma2Resume strangeSigma2Resume])]

def responderRuns : List (List ResponderCall) := [
  [.handleSigma1 (sampleSigma1 none) (some (.fill 16 2)), .nextMessage,
    .handleSigma3 sampleSigma3],
  [.handleSigma1 (sampleSigma1 (some sampleRecord)) none,
    .acceptResumption sampleRecord (some (.fill 16 2)), .nextMessage]]

theorem sample_runs_finish :
    (∀ r ∈ initiatorRuns,
      ((sampleInitiator r.1).afterCalls clearPrimitives r.2).finish.isOk = true) ∧
    ∀ calls ∈ responderRuns,
      (sampleResponder.afterCalls clearPrimitives calls).finish.isOk = true := by
  decide +kernel

theorem completes_authenticated_runs :
    (∀ r ∈ initiatorRuns, ∃ output,
      ((sampleInitiator r.1).afterCalls clearPrimitives r.2).finish = .ok output ∧
      InitiatorEvidence clearPrimitives sampleInitiatorSetup r.1 ⟨7⟩
        ((sampleInitiator r.1).history clearPrimitives r.2) output) ∧
    ∀ calls ∈ responderRuns, ∃ output,
      (sampleResponder.afterCalls clearPrimitives calls).finish = .ok output ∧
      ResponderEvidence clearPrimitives sampleResponderSetup ⟨7⟩
        (sampleResponder.history clearPrimitives calls) output := by
  constructor
  · intro r listed
    obtain ⟨output, finished⟩ := Exits.ok_of_isOk (sample_runs_finish.1 r listed)
    exact ⟨output, finished, ((completes_only_authenticated clearPrimitives).1
      (sampleInitiator r.1) sampleInitiatorSetup r.1 rfl).1 r.2 output finished⟩
  · intro calls listed
    obtain ⟨output, finished⟩ := Exits.ok_of_isOk (sample_runs_finish.2 calls listed)
    exact ⟨output, finished, ((completes_only_authenticated clearPrimitives).2
      sampleResponder sampleResponderSetup rfl).1 calls output finished⟩

/-- What the generator gives for the ephemeral key and for the random number. -/
def sampleFills (key random : UInt8) : Primitives.Fills :=
  fun n => some (.fill 32 (if n = 0 then key else random))

theorem session_peer_runs :
    (∀ r ∈ initiatorRuns, ∃ output,
      ((sampleInitiator r.1).afterCalls clearPrimitives r.2).finish = .ok output ∧
      output.peer.nodeId = 2 ∧ output.peer.fabricId = 3) ∧
    ∀ calls ∈ responderRuns, ∃ output,
      (sampleResponder.afterCalls clearPrimitives calls).finish = .ok output ∧
      output.peer.fabricId = output.localInfo.fabricId := by
  constructor
  · intro r listed
    obtain ⟨output, finished⟩ := Exits.ok_of_isOk (sample_runs_finish.1 r listed)
    have made : CaseInitiator.newInner clearPrimitives sampleCredentials
      [Cert.CertificateChain.sampleAnchor] 2 3 7 r.1 ⟨7⟩ (sampleFills 5 6) =
      .ok (sampleInitiator r.1) := rfl
    obtain ⟨setup, fresh, node, fabric, _⟩ := CaseInitiator.newInner_fresh _ made
    refine ⟨output, finished, ?_⟩
    rw [← node, ← fabric]
    refine (session_peer clearPrimitives).1 _ setup r.1 r.2 output fresh ?_ finished
    rintro bytes - offered offers
    rw [node, fabric]
    rcases List.mem_pair.mp listed with rfl | rfl <;> cases offers
    exact ⟨rfl, rfl⟩
  · intro calls listed
    obtain ⟨output, finished⟩ := Exits.ok_of_isOk (sample_runs_finish.2 calls listed)
    have made : CaseResponder.new clearPrimitives sampleCredentials
      [Cert.CertificateChain.sampleAnchor] 10 ⟨7⟩ (sampleFills 9 8) = .ok sampleResponder := rfl
    obtain ⟨setup, fresh, own, _⟩ := CaseResponder.new_fresh _ made
    refine ⟨output, finished, (session_peer clearPrimitives).2 _ setup calls output fresh ?_
      finished⟩
    intro record drawn called
    rw [own]
    rcases List.mem_pair.mp listed with rfl | rfl
    · simp at called
    · obtain ⟨rfl, _⟩ : record = sampleRecord ∧ _ := by simpa using called
      rfl

/-- A refused `Sigma1` leaves the responder as it was unless its session parameters, read
before the answer is built, differ from those kept. -/
theorem refused_sigma1_iff (prims : Primitives Key) (responder : CaseResponder Key)
    (setup : ResponderSetup Key) (bytes : Octets) (drawn : Option (Block 16)) :
    let before := { responder with state := .awaitingSigma1 setup }
    let answer := before.handleSigma1 prims bytes drawn
    (∃ e, answer.1 = .error e) ∧ answer.2 = before ↔
      (∃ e, answer.1 = .error e) ∧ ∀ sigma1 params,
        CaseResponder.acceptSigma1 prims setup bytes = .ok (sigma1, params) →
          params = responder.peerSessionParams := by
  intro before answer
  refine and_congr_right fun ⟨e, failed⟩ => ?_
  dsimp only [answer, before, CaseResponder.handleSigma1] at failed ⊢
  cases ran : CaseResponder.acceptSigma1 prims setup bytes with
  | error e => exact ⟨fun _ => nofun, fun _ => rfl⟩
  | ok accepted =>
    obtain ⟨sigma1, params⟩ := accepted
    rw [ran] at failed
    dsimp only at failed ⊢
    split at failed
    · cases failed
    · split at failed
      · constructor
        · rintro same _ _ ⟨⟩
          exact congrArg CaseResponder.peerSessionParams same
        · intro same
          rw [same sigma1 params rfl]
      · cases failed

/-- The parameters of a refused message are kept: the key in it is no point of the curve. -/
theorem refused_sigma1_kept :
    let prims := { clearPrimitives with diffieHellman := fun _ _ => none }
    let params : SessionParameters := { sessionIdleIntervalMs := some 500 }
    let sigma1 := match (((sampleInitiator none).withSessionParams params).start prims).1 with
      | .ok bytes => received bytes
      | .error _ => received []
    let answer := sampleResponder.handleSigma1 prims sigma1 (some (.fill 16 2))
    answer.1.isOk = false ∧ sampleResponder.peerSessionParams = none ∧
      answer.2.peerSessionParams = some params := by
  decide +kernel

end Sessions

end Matter.Case
