import Matter.Commissioning.Trails

/-! The order of commissioning: what a commissioner must have received, requested
and checked before each of the actions that admit a device. -/
namespace Matter.Commissioning
open Codec Cert Exits Logs

/-- The material a device is vetted on. -/
structure Dossier where
  pai : Octets
  dac : Octets
  nonce : Block 32
  response : AttestationResponse
  csrNonce : Block 32
  csr : CsrResponse
  verified : VerifiedCsr

namespace Dossier
open Event Commissioner
variable {host : Host} {cfg : CommissionerConfig} {c : Commissioner} {l : List Event}

/-- Certificates, attestation nonce sent, response, its verification, and then a
response to the signing request. -/
def gathered (host : Host) (cfg : CommissionerConfig) (d : Dossier) : List (Event → Prop) :=
  [PaiReceived d.pai, DacReceived d.dac, AttestationRequested d.nonce,
   AttestationReceived d.response, AttestationVerified host cfg d.pai d.dac d.nonce d.response,
   CsrReceived d.csr]

/-- The nonce of the signing request sent, and a response to it. -/
def requested (d : Dossier) : List (Event → Prop) := [CsrRequested d.csrNonce, CsrReceived d.csr]

def Checked (host : Host) (cfg : CommissionerConfig) (d : Dossier) : Event → Prop :=
  CsrChecked host cfg d.dac d.csrNonce d.csr d.verified

/-- The attestation holds with the nonce that was sent; the signing request echoes
the nonce that was sent and is signed by the same DAC. -/
def Sound (host : Host) (cfg : CommissionerConfig) (d : Dossier) : Prop :=
  ∃ pai dac chain fields elements,
    Attested host cfg d.pai d.dac d.nonce d.response pai dac chain fields ∧
    CsrVerified host cfg d.dac d.csrNonce d.csr d.verified dac elements

theorem sound_of_events {d : Dossier}
    (attested : AttestationVerified host cfg d.pai d.dac d.nonce d.response verification)
    (checked : d.Checked host cfg check) : d.Sound host cfg := by
  obtain ⟨paiDer, dacDer, nonce, response, hasPai, hasDac, hasNonce, hasResponse, pai, dac, chain,
    fields, holds⟩ := attested_of_ran attested.passed
  cases hasPai.symm.trans attested.paiDer
  cases hasDac.symm.trans attested.dacDer
  cases hasNonce.symm.trans attested.attestationNonce
  cases hasResponse.symm.trans attested.attestationResponse
  obtain ⟨dacDer, csrNonce, csr, hasDac, hasNonce, hasResponse, dac', elements, verified⟩ :=
    csrVerified_of_ran checked.passed
  cases hasDac.symm.trans checked.dacDer
  cases hasNonce.symm.trans checked.csrNonce
  cases hasResponse.symm.trans checked.csrResponse
  cases holds.dacParsed.symm.trans verified.dacParsed
  rw [attested.config] at holds
  rw [checked.config] at verified
  exact ⟨pai, dac, chain, fields, elements, holds, verified⟩

/-- An event about the value held is an event about that value. -/
theorem pinned {kind : α → Event → Prop} (has : held = some a) (e : Event)
    (about : ∃ b, held = some b ∧ kind b e) : kind a e := by
  obtain ⟨b, same, event⟩ := about
  cases has.symm.trans same
  exact event

/-- Trails walked to their ends are a dossier. -/
theorem exists_of_trails (config : c.config = cfg) (attestation : Along (attestationTrail host c) l)
    (csr : Along (csrTrail host c) l) :
    ∃ d : Dossier, c.verifiedCsr = some d.verified ∧ d.Sound host cfg ∧
      Along (d.gathered host cfg ++ [d.Checked host cfg]) l ∧
      Along (d.requested ++ [d.Checked host cfg]) l := by
  subst config
  obtain ⟨verification, _, pai, dac, nonce, response, hasPai, hasDac, hasNonce, hasResponse,
    attested⟩ := attestation.exists_of_mem (List.mem_of_getElem? (i := 4) rfl)
  obtain ⟨check, _, dac', csrNonce, csrResponse, verified, hasDac', hasCsrNonce, hasCsr,
    hasVerified, checked⟩ := csr.exists_of_mem (List.mem_of_getElem? (i := 2) rfl)
  cases hasDac.symm.trans hasDac'
  have checks : ∀ e, (∃ dac nonce response verified, c.dacDer = some dac ∧ c.csrNonce = some nonce ∧
      c.csrResponse = some response ∧ c.verifiedCsr = some verified ∧
      CsrChecked host c.config dac nonce response verified e) →
      CsrChecked host c.config dac csrNonce csrResponse verified e := by
    rintro e ⟨_, _, _, _, sameDac, sameNonce, sameResponse, sameVerified, checked⟩
    cases hasDac.symm.trans sameDac
    cases hasCsrNonce.symm.trans sameNonce
    cases hasCsr.symm.trans sameResponse
    cases hasVerified.symm.trans sameVerified
    exact checked
  have verifies : ∀ e, (∃ pai dac nonce response, c.paiDer = some pai ∧ c.dacDer = some dac ∧
      c.attestationNonce = some nonce ∧ c.attestationResponse = some response ∧
      AttestationVerified host c.config pai dac nonce response e) →
      AttestationVerified host c.config pai dac nonce response e := by
    rintro e ⟨_, _, _, _, samePai, sameDac, sameNonce, sameResponse, verified⟩
    cases hasPai.symm.trans samePai
    cases hasDac.symm.trans sameDac
    cases hasNonce.symm.trans sameNonce
    cases hasResponse.symm.trans sameResponse
    exact verified
  refine ⟨⟨pai, dac, nonce, response, csrNonce, csrResponse, verified⟩, hasVerified,
    sound_of_events attested checked, attestation.imp ?_, csr.imp ?_⟩
  · exact .cons (pinned hasPai) (.cons (pinned hasDac) (.cons (pinned hasNonce)
      (.cons (pinned hasResponse) (.cons verifies (.cons (pinned hasCsr) (.cons checks .nil))))))
  · exact .cons (pinned hasCsrNonce) (.cons (pinned hasCsr) (.cons checks .nil))

/-- At the stages that send certificates both trails are at their ends. -/
theorem exists_of_traced (traced : Traced host cfg l c)
    (stage : c.stage = .sendTrustedRootCert ∨ c.stage = .sendNoc) :
    ∃ d : Dossier, c.verifiedCsr = some d.verified ∧ d.Sound host cfg ∧
      Along (d.gathered host cfg ++ [d.Checked host cfg]) l ∧
      Along (d.requested ++ [d.Checked host cfg]) l := by
  have attestation := traced.attestation
  have csr := traced.csr
  rcases stage with stage | stage
  all_goals
    simp only [attestationProgress, csrProgress, stage] at attestation csr
    exact exists_of_trails traced.config attestation csr

end Dossier

def Event.Invokes (e : Event) (cluster command : UInt32) (session : SessionContext)
    (payload : Bytes) : Prop :=
  ∃ endpoint expect, e.Returns (.invoke session endpoint cluster command payload expect)

namespace Commissioner
open Event
variable {host : Host} {cfg : CommissionerConfig} {c next : Commissioner} {l : List Event}
  {e : Event} {action : Action} {session : SessionContext} {endpoint : UInt16} {payload : Bytes}
  {expect : Expectation}

def addTrustedRootCertificate : UInt32 := 0x0b
def addNoc : UInt32 := 0x06

theorem emits_trustedRoot (emits : Emits host c
    (.invoke session endpoint operationalCredentials addTrustedRootCertificate payload expect)
    next) : c.stage = .sendTrustedRootCert := by
  cases emits with
  | sendTrustedRootCert here => exact here

theorem emits_complete (emits : Emits host c (.invoke session endpoint
    GeneralCommissioning.clusterId GeneralCommissioning.commissioningComplete payload expect)
    next) : c.stage = .sendComplete ∧ session = .caseSession := by
  cases emits with
  | sendComplete here => exact ⟨here, rfl⟩

theorem emits_done (emits : Emits host c (.done fabric) next) : c.stage = .cleanup := by
  cases emits with
  | cleanup here => exact here

/-- The stages a poll reaches through those it does itself. -/
def Hopped (stage : Stage) : Prop :=
  stage = .readCommissioningInfo ∨ stage = .sendOpCertSigningRequest ∨
    stage = .generateNocChain ∨ stage = .sendTrustedRootCert ∨ stage = .findOperationalForComplete

theorem hopped_of_hop (hop : Hop host c next) : Hopped next.stage := by
  cases hop <;> simp [Hopped]

/-- Where the action of a poll comes from: the stage it was called in, unless
that one was left on the way. -/
theorem emits_of_dispatch (dispatch : Dispatch host c r) (ok : r = .ok action next) :
    ∃ origin, Emits host origin action next ∧ (origin = c ∨ Hopped origin.stage) := by
  induction dispatch with
  | hop hop _ ih =>
    obtain ⟨origin, emits, rfl | hopped⟩ := ih ok
    · exact ⟨_, emits, .inr (hopped_of_hop hop)⟩
    · exact ⟨origin, emits, .inr hopped⟩
  | emit emits =>
    cases ok
    exact ⟨_, emits, .inl rfl⟩
  | stall => cases ok

theorem origin_of_returned (coherent : Coherent host c)
    (performed : Performed host c .poll (.action action) next) :
    ∃ origin state, Emits host origin action state ∧
      next = { state with
        pendingAction := some action, connectMaxTimeSeconds := next.connectMaxTimeSeconds } ∧
      (next = c ∨ origin = c ∨ Hopped origin.stage) := by
  cases performed with
  | repeated cached =>
    obtain ⟨origin, state, emits, same⟩ := coherent.cached action cached
    exact ⟨origin, state, emits, same, .inl rfl⟩
  | acts fresh dispatch =>
    obtain ⟨origin, emits, origins⟩ := emits_of_dispatch dispatch rfl
    exact ⟨origin, _, emits, rfl, .inr origins⟩

/-- Except at the stages reached on the way, a poll acts in the stage it finds. -/
theorem stage_of_returned (coherent : Coherent host c)
    (performed : Performed host c .poll (.action action) next) :
    ∃ origin state, Emits host origin action state ∧ next.stage = origin.stage ∧
      (c.stage = origin.stage ∨ Hopped origin.stage) := by
  obtain ⟨origin, state, emits, same, origins⟩ := origin_of_returned coherent performed
  have acted : state.stage = origin.stage := stage_of_emits emits
  have stage : next.stage = origin.stage := (congrArg stage same).trans acted
  refine ⟨origin, state, emits, stage, ?_⟩
  rcases origins with rfl | rfl | hopped
  · exact .inl stage
  · exact .inl rfl
  · exact .inr hopped

theorem noc_of_returned (coherent : Coherent host c) (performed : Performed host c .poll
      (.action (.invoke session endpoint operationalCredentials addNoc payload expect)) next) :
    c.stage = .sendNoc ∧ addNocPayload c = .ok payload := by
  obtain ⟨origin, state, emits, same, origins⟩ := origin_of_returned coherent performed
  cases emits with
  | sendNoc here written =>
    rcases origins with rfl | rfl | hopped
    · rw [same]
      exact ⟨here, written⟩
    · exact ⟨here, written⟩
    · simp [Hopped, here] at hopped

theorem noc_of_addNocPayload (written : addNocPayload c = .ok payload) :
    ∃ noc nocTlv icacTlv, c.issuedNoc = some noc ∧ noc.toTlv = .ok nocTlv ∧
      payload = encodeAddNoc nocTlv icacTlv c.config.ipkEpochKey c.config.caseAdminSubject
        c.config.adminVendorId := by
  obtain ⟨noc, found, written⟩ := of_bind_ok written
  obtain ⟨nocTlv, nocWritten, written⟩ := of_bind_ok written
  obtain ⟨icacTlv, _, rfl⟩ := of_bind_pure written
  exact ⟨noc, nocTlv, icacTlv, orError_ok.mp found, mapError_ok.mp nocWritten, rfl⟩

/-- The events before an event of a history, and the state it found. -/
theorem event_of_history (built : new cfg = .ok c)
    (split : c.history host calls = earlier ++ e :: later) :
    ∃ state next, Traced host cfg earlier state ∧ Coherent host state ∧
      Traced host cfg (earlier ++ [e]) next ∧ e.before = state ∧
      Performed host state e.call e.reply next := by
  obtain ⟨first, call, _, _, rfl, rfl⟩ := Logs.log_split split
  obtain ⟨traced, coherent⟩ := traced_after built first
  have performed := performed host (c.after host first) call
  exact ⟨_, _, traced, coherent, traced.performed coherent performed, rfl, performed⟩

/-- A poll of a history that returned an action. -/
theorem returned_of_history (built : new cfg = .ok c)
    (split : c.history host calls = earlier ++ e :: later) (returned : e.Returns action) :
    ∃ state next, Traced host cfg earlier state ∧ Coherent host state ∧
      Traced host cfg (earlier ++ [e]) next ∧ Performed host state .poll (.action action) next := by
  obtain ⟨state, next, traced, coherent, traced', _, performed⟩ := event_of_history built split
  rw [returned.1, returned.2] at performed
  exact ⟨state, next, traced, coherent, traced', performed⟩

end Commissioner

section Security
open Commissioner Event

/-- The order commissioning keeps to in the run `calls` of `c`. -/
structure SecurityOrder (host : Host) (cfg : CommissionerConfig) (c : Commissioner)
    (calls : List Call) : Prop where
  /-- The material was gathered before the root certificate is sent, and the
  signing request was checked by then: by the poll that returns the command, or by
  an earlier one. -/
  trustedRoot : ∀ earlier e later session payload,
    c.history host calls = earlier ++ e :: later →
    e.Invokes operationalCredentials addTrustedRootCertificate session payload →
    ∃ d : Dossier, d.Sound host cfg ∧
      Along (d.gathered host cfg) earlier ∧ Along d.requested earlier ∧
      Along (d.gathered host cfg ++ [d.Checked host cfg]) (earlier ++ [e]) ∧
      Along (d.requested ++ [d.Checked host cfg]) (earlier ++ [e])
  /-- The certificate sent certifies the key of the request that was checked. -/
  noc : ∀ earlier e later session payload,
    c.history host calls = earlier ++ e :: later →
    e.Invokes operationalCredentials addNoc session payload →
    ∃ (d : Dossier) (noc : MatterCertificate) (nocTlv : Bytes) (icacTlv : Option Bytes),
      d.Sound host cfg ∧
      Along (d.gathered host cfg ++ [d.Checked host cfg]) earlier ∧
      Along (d.requested ++ [d.Checked host cfg]) earlier ∧
      noc.publicKey = d.verified.publicKey ∧ noc.toTlv = .ok nocTlv ∧
      payload = encodeAddNoc nocTlv icacTlv cfg.ipkEpochKey cfg.caseAdminSubject
        cfg.adminVendorId
  complete : ∀ earlier e later session payload,
    c.history host calls = earlier ++ e :: later →
    e.Invokes GeneralCommissioning.clusterId GeneralCommissioning.commissioningComplete session
      payload →
    session = .caseSession ∧ Along [CaseEstablished] earlier
  done : ∀ earlier e later fabric,
    c.history host calls = earlier ++ e :: later → e.Returns (.done fabric) →
    Along [CaseEstablished, CompletionConfirmed] earlier
  failed : (c.after host calls).stage = .failed → ∀ more,
    (c.after host (calls ++ more)).stage = .failed ∧
    ∃ sendDisarmFailsafe reason next,
      (poll host).run (c.after host (calls ++ more)) =
        .ok (.abort sendDisarmFailsafe reason) next

theorem commissioning_order {host : Host} {cfg : CommissionerConfig} {c : Commissioner}
    (built : Commissioner.new cfg = .ok c) (calls : List Call) :
    SecurityOrder host cfg c calls where
  trustedRoot := by
    rintro earlier e later session payload split ⟨endpoint, expect, returned⟩
    obtain ⟨_, _, _, coherent, traced, performed⟩ := returned_of_history built split returned
    obtain ⟨_, _, emits, stage, _⟩ := stage_of_returned coherent performed
    rw [emits_trustedRoot emits] at stage
    obtain ⟨d, _, sound, gathered, requested⟩ := Dossier.exists_of_traced traced (.inl stage)
    exact ⟨d, sound, gathered.of_concat, requested.of_concat, gathered, requested⟩
  noc := by
    rintro earlier e later session payload split ⟨endpoint, expect, returned⟩
    obtain ⟨_, _, traced, coherent, _, performed⟩ := returned_of_history built split returned
    obtain ⟨stage, written⟩ := noc_of_returned coherent performed
    obtain ⟨noc, nocTlv, icacTlv, hasNoc, toTlv, rfl⟩ := noc_of_addNocPayload written
    obtain ⟨d, hasVerified, sound, gathered, requested⟩ :=
      Dossier.exists_of_traced traced (.inr stage)
    obtain ⟨verified, issued, hasVerified', hasNoc', key, _⟩ := traced.issued (by rw [stage]; rfl)
    cases hasVerified.symm.trans hasVerified'
    cases hasNoc.symm.trans hasNoc'
    rw [traced.config]
    exact ⟨d, noc, nocTlv, icacTlv, sound, gathered, requested, key, toTlv, rfl⟩
  complete := by
    rintro earlier e later session payload split ⟨endpoint, expect, returned⟩
    obtain ⟨_, _, traced, coherent, _, performed⟩ := returned_of_history built split returned
    obtain ⟨_, _, emits, _, stage | hopped⟩ := stage_of_returned coherent performed
    · obtain ⟨here, session⟩ := emits_complete emits
      have established := traced.operational
      simp only [operationalProgress, stage, here] at established
      exact ⟨session, established⟩
    · simp [Hopped, (emits_complete emits).1] at hopped
  done := by
    intro earlier e later fabric split returned
    obtain ⟨_, _, traced, coherent, _, performed⟩ := returned_of_history built split returned
    obtain ⟨_, _, emits, _, stage | hopped⟩ := stage_of_returned coherent performed
    · have confirmed := traced.operational
      simp only [operationalProgress, stage, emits_done emits] at confirmed
      exact confirmed
    · simp [Hopped, emits_done emits] at hopped
  failed := by
    intro failed more
    have stays : (c.after host (calls ++ more)).stage = .failed := by
      induction more using List.reverseRecOn with
      | nil => rwa [List.append_nil]
      | append_singleton more call ih =>
        rw [← List.append_assoc, after, Runs.run_concat]
        exact failed_of_performed (coherent_after built _) ih (performed host _ call)
    obtain ⟨next, aborts, _⟩ := poll_failed (coherent_after built (calls ++ more)) stays
    exact ⟨stays, _, _, next, aborts⟩

end Security

/-! A device of vendor 0xfff1, product 0x8000, and the packages as they answer
about its certificates, its signing request and its signatures. Short byte strings
stand for the encoded certificates. -/
namespace TestDevice
open Commissioner Setup

def paaSubject : Bytes := [0x31, 0x00]

def certificate (pid : Option String) (key : Bytes) : X509Certificate where
  subject := ⟨matterVidOid, some "FFF1"⟩ ::
    (pid.map fun pid => ⟨matterPidOid, some pid⟩ : Option X509Attribute).toList
  issuerRaw := 0x30 :: 0x02 :: paaSubject
  publicKey := key
  subjectKeyIdentifier := none

def dacDer : Bytes := [0xda]
def paiDer : Bytes := [0xa1]
def paaDer : Bytes := [0xaa]
def dacKey : Bytes := [0xd0]
def dacSignature : Block 64 := .fill 64 0x51
def declaration : Bytes := [0xcd]
def csrDer : Bytes := [0xc5]
def operationalKey : Bytes := 0x04 :: List.replicate 64 0x77

def host : Host where
  parseX509 der :=
    if der = dacDer then some (certificate (some "8000") dacKey)
    else if der = paiDer then some (certificate none [0xd1]) else none
  parseCsr der := if der = csrDer then some (⟨operationalKey, [0x01], [0x02]⟩, []) else none
  anchorFromTrustedCert der := if der = paaDer then some ⟨paaSubject, []⟩ else none
  verifyForUsage leaf anchors intermediates _ :=
    if leaf = dacDer ∧ anchors = [⟨paaSubject, []⟩] ∧ intermediates = [paiDer] then .ok ()
    else .error .unknownIssuer
  verifyAttestationCertFormat _ _ := .ok ()
  verifyCertificationDeclarationWithPaa octets vid pid _ _ :=
    if octets.bytes = declaration ∧ vid = ⟨0xfff1⟩ ∧ pid = ⟨0x8000⟩ then .ok () else .error .parse
  ecdsaFixed key _ signature := key = dacKey ∧ signature = dacSignature.bytes
  ecdsaAsn1 key message signature := key = operationalKey ∧ message = [0x01] ∧ signature = [0x02]
  sha1 _ := .fill 20 0x20
  toX509TbsDer _ := .ok [0x30]
  fill k n := .ok (.fill n (UInt8.ofNat (k + 1)))
  sign _ _ _ := .ok (.fill 64 0x99)
  tables := ⟨fun _ => false, fun _ => true⟩

def rootKey : PublicKey := ⟨⟨0x04 :: List.replicate 64 0x11, by decide⟩, by decide⟩

theorem serial_short : ([0x01] : Bytes).length < allocLimit := by decide

def rootCert : MatterCertificate where
  serial := ⟨[0x01], serial_short⟩
  issuer := []
  notBefore := ⟨1⟩
  notAfter := .noExpiry
  subject := []
  publicKey := rootKey
  extensions := { subjectKeyIdentifier := some (.fill 20 0x0a) }
  signature := .fill 64 0x0b

def setupPayload (vendorId productId : UInt16) : SetupPayload where
  version := 0
  vendorId := some vendorId
  productId := some productId
  commissioningFlow := .standard
  discoveryCapabilities := ⟨4⟩
  discriminator := ⟨0x0f00, false, by decide, by decide⟩
  passcode := ⟨20202021, by decide, by decide⟩

/-- A fabric of one root, for the setup code of the given vendor and product. -/
def config (vendorId productId : UInt16) : CommissionerConfig where
  paseAttestationChallenge := .fill 16 0x44
  fabric := ⟨1, rootKey, ⟨0⟩, rootCert, none, none, .fill 16 0x33⟩
  setupPayload := setupPayload vendorId productId
  paaTrustStore := [⟨paaDer, none, [0xd2]⟩]
  cdSigningRoots := ⟨[]⟩
  commissionerNodeId := 1
  assignedNodeId := 2
  ipkEpochKey := .fill 16 0x55
  caseAdminSubject := 1
  adminVendorId := 0xfff1
  now := ⟨700000000⟩
  network := .alreadyOnNetwork

def commissioner (vendorId productId : UInt16) : Commissioner :=
  { config := config vendorId productId }

/-- An action fetched and its response delivered. -/
def answered (expect : Expectation) (payload : Bytes) (small : payload.length < allocLimit) :
    List Call :=
  [.poll, .onResponse expect ⟨payload, small⟩]

def success : Bytes := [0x15, 0x24, 0x00, 0x00, 0x18]

def signed (elements : Bytes) : Bytes :=
  [0x15, 0x30, 0x00, UInt8.ofNat elements.length] ++ elements ++
    [0x30, 0x01, 0x40] ++ dacSignature.bytes ++ [0x18]

def attestationElements : Bytes :=
  [0x15, 0x30, 0x01, 0x01] ++ declaration ++ [0x30, 0x02, 0x20] ++ List.replicate 32 0x01 ++
    [0x24, 0x03, 0x00, 0x18]

def nocsrElements (nonce : Bytes) : Bytes :=
  [0x15, 0x30, 0x01, 0x01] ++ csrDer ++ [0x30, 0x02, 0x20] ++ nonce ++ [0x18]

theorem empty_short : ([0x15, 0x18] : Bytes).length < allocLimit := by decide

def attestation : List Call :=
  answered .commissioningInfo [0x15, 0x18] empty_short ++
  answered .armFailsafeResponse success (by decide) ++
  answered .setRegulatoryConfigResponse success (by decide) ++
  answered .paiCertChainResponse [0x15, 0x30, 0x00, 0x01, 0xa1, 0x18] (by decide) ++
  answered .dacCertChainResponse [0x15, 0x30, 0x00, 0x01, 0xda, 0x18] (by decide) ++
  answered .attestationResponse (signed attestationElements) (by decide)

/-- The calls up to a response to the signing request. The nonce sent is thirty-two
times `0x02`. -/
def csrResponse (nonce : Block 32) (small : (signed (nocsrElements nonce.bytes)).length < allocLimit) :
    List Call :=
  attestation ++ answered .csrResponse (signed (nocsrElements nonce.bytes)) small

def signingRequest : List Call := csrResponse (.fill 32 0x02) (by decide)

def trustedRoot : List Call :=
  signingRequest ++ answered .addTrustedRootResponse [0x00] (by decide)

def commissioning : List Call :=
  trustedRoot ++ answered .nocResponse success (by decide) ++
  answered .networkCommissioningInfo [] nil_short ++ [.poll, .onCaseEstablished] ++
  answered .commissioningCompleteResponse success (by decide) ++ [.poll]

theorem new_commissioner (vendorId productId : UInt16) :
    Commissioner.new (config vendorId productId) = .ok (commissioner vendorId productId) := rfl

/-- The device is commissioned, and in that order. -/
theorem test_device_commissioned :
    ((commissioner 0xfff1 0x8000).history host commissioning).getLast?.map Event.reply =
      some (.action (.done ⟨(config 0xfff1 0x8000).fabric, 2, ⟨operationalKey, by decide⟩,
        .cleanup⟩)) ∧
    SecurityOrder host (config 0xfff1 0x8000) (commissioner 0xfff1 0x8000) commissioning :=
  ⟨by decide +kernel, commissioning_order (new_commissioner _ _) commissioning⟩

/-- The poll that returns `AddTrustedRootCertificate` is the one that checks the
signing request; no poll before it did. -/
theorem csr_checked_by_returning_poll :
    Commissioner.new (config 0xfff1 0x8000) = .ok (commissioner 0xfff1 0x8000) ∧ ∃ e payload,
      (commissioner 0xfff1 0x8000).history host (signingRequest ++ [.poll]) =
        (commissioner 0xfff1 0x8000).history host signingRequest ++ [e] ∧
      e.Invokes operationalCredentials addTrustedRootCertificate .pase payload ∧
      ∀ earlier ∈ (commissioner 0xfff1 0x8000).history host signingRequest,
        ¬ ∃ dac nonce response verified,
          Event.CsrChecked host (config 0xfff1 0x8000) dac nonce response verified earlier := by
  let rootTlv := rootCert.toTlv.toOption.getD []
  refine ⟨new_commissioner _ _, _, encodeAddTrustedRoot rootTlv,
    Logs.log_concat signingRequest .poll, ⟨0, .addTrustedRootResponse, rfl, ?_⟩, ?_⟩
  · decide +kernel
  · have elsewhere : ∀ e ∈ (commissioner 0xfff1 0x8000).history host signingRequest,
        e.before.stage ≠ .validateCsr := by decide +kernel
    rintro earlier found ⟨_, _, _, _, checked⟩
    exact elsewhere earlier found checked.stage

end TestDevice

end Matter.Commissioning
