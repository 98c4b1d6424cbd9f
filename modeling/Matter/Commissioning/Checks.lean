import Matter.Base.Exits
import Matter.Commissioning.Steps

/-! What the checks of a commissioner establish when they pass: the attestation
of a device, its certificate signing request, and the certificate issued for it. -/
namespace Matter.Commissioning
open Codec Cert Exits
variable {host : Host}

/-- Everything a passed attestation verification has checked. -/
structure Attested (host : Host) (cfg : CommissionerConfig) (paiDer dacDer : Octets)
    (nonce : Block 32) (response : AttestationResponse) (pai : Pai) (dac : Dac)
    (chain : ChainVerification) (fields : AttestationElementsFields) : Prop where
  paiParsed : Pai.fromDer host paiDer.bytes = .ok pai
  dacParsed : Dac.fromDer host dacDer.bytes = .ok dac
  paiFormat : host.verifyAttestationCertFormat pai.der .pai = .ok ()
  dacFormat : host.verifyAttestationCertFormat dac.der .dac = .ok ()
  chained : verifyChain host dac pai cfg.paaTrustStore cfg.now = .ok chain
  signed : host.ecdsaFixed dac.publicKey
    (response.attestationElements.bytes ++ cfg.paseAttestationChallenge.bytes)
    response.signature.bytes = true
  extracted : extractAttestationElementsFields response.attestationElements = .ok fields
  echoed : fields.attestationNonce = nonce
  declared : host.verifyCertificationDeclarationWithPaa fields.certificationDeclaration
    chain.vendorId chain.productId cfg.cdSigningRoots chain.paaSkid = .ok ()

/-- Everything a passed check of a certificate signing request has checked. -/
structure CsrVerified (host : Host) (cfg : CommissionerConfig) (dacDer : Octets)
    (nonce : Block 32) (response : CsrResponse) (verified : VerifiedCsr) (dac : Dac)
    (elements : NocsrElements) : Prop where
  dacParsed : Dac.fromDer host dacDer.bytes = .ok dac
  parsed : parseNocsr response.nocsrElements = .ok elements
  key : parseAndVerifyCsr host elements.csrDer.bytes = .ok verified.publicKey
  echoed : elements.csrNonce = nonce
  signed : host.ecdsaFixed dac.publicKey
    (response.nocsrElements.bytes ++ cfg.paseAttestationChallenge.bytes)
    response.attestationSignature.bytes = true

/-- What `verify_chain` went through; `paa` is the root that it looked up. -/
structure Chained (host : Host) (dac : Dac) (pai : Pai) (trustStore : PaaTrustStore)
    (at_ : MatterTime) (chain : ChainVerification) (subject : Bytes) (paa : Paa) : Prop where
  accepted : ∃ anchors, trustStore.mapM (paaToTrustAnchor host) = .ok anchors ∧
    host.verifyForUsage dac.der anchors [pai.der] at_.toUnixSecs = .ok ()
  issuer : stripSequenceWrapper pai.issuerRaw = some subject
  anchoring : anchoringPaa host trustStore subject = some paa
  scope : ∀ vid, paa.subjectVid = some vid → vid = dac.subjectVid
  result : chain = ⟨dac.subjectVid, dac.subjectPid, dac.publicKey, subject,
    paa.subjectKeyIdentifier host⟩

theorem chained_of_verifyChain (verified : verifyChain host dac pai trustStore at_ = .ok chain) :
    ∃ subject paa, Chained host dac pai trustStore at_ chain subject paa := by
  obtain ⟨anchors, lifted, verified⟩ := of_bind_ok verified
  obtain ⟨_, accepted, verified⟩ := of_bind_ok verified
  obtain ⟨_, _, verified⟩ := of_bind_ok verified
  obtain ⟨_, _, verified⟩ := of_bind_ok verified
  obtain ⟨subject, issuer, verified⟩ := of_bind_ok verified
  obtain ⟨paa, anchoring, verified⟩ := of_bind_ok verified
  have path : ∃ anchors, trustStore.mapM (paaToTrustAnchor host) = .ok anchors ∧
      host.verifyForUsage dac.der anchors [pai.der] at_.toUnixSecs = .ok () :=
    ⟨anchors, lifted, mapError_ok.mp accepted⟩
  refine ⟨subject, paa, ?_⟩
  have found := orError_ok.mp anchoring
  cases scope : paa.subjectVid with
  | none =>
    simp only [scope] at verified
    cases verified
    exact ⟨path, orError_ok.mp issuer, found, by simp [scope], rfl⟩
  | some paaVid =>
    simp only [scope] at verified
    obtain ⟨_, same, rfl⟩ := of_bind_pure verified
    refine ⟨path, orError_ok.mp issuer, found, fun vid own => ?_, rfl⟩
    obtain rfl := Option.some.inj (scope.symm.trans own)
    exact ensure_ok.mp same

/-- The identifiers of a verified chain are those of the DAC's subject. -/
theorem ids_of_verifyChain (verified : verifyChain host dac pai trustStore at_ = .ok chain) :
    chain.vendorId = dac.subjectVid ∧ chain.productId = dac.subjectPid := by
  obtain ⟨subject, paa, chained⟩ := chained_of_verifyChain verified
  rw [chained.result]
  exact ⟨rfl, rfl⟩

theorem verified_of_verifyCsrResponse (dacParsed : Dac.fromDer host dacDer.bytes = .ok dac)
    (passed : verifyCsrResponse host response.nocsrElements response.attestationSignature nonce
      cfg.paseAttestationChallenge dac.publicKey = .ok verified) :
    ∃ elements, CsrVerified host cfg dacDer nonce response verified dac elements := by
  obtain ⟨elements, parsed, passed⟩ := of_bind_ok passed
  obtain ⟨key, verifiedKey, passed⟩ := of_bind_ok passed
  obtain ⟨_, echoed, passed⟩ := of_bind_ok passed
  obtain ⟨_, signed, rfl⟩ := of_bind_pure passed
  exact ⟨elements, dacParsed, parsed, verifiedKey, ctEq_iff.mp (ensure_ok.mp echoed),
    ensure_ok.mp (mapError_ok.mp signed)⟩

theorem ok_of_steady (ran : (steady result).run draws = .ok a draws') : result = .ok a := by
  cases result with
  | error e => cases ran
  | ok b =>
    cases ran
    rfl

/-- The certificate issued for a verified request certifies its key. -/
theorem publicKey_of_issueNoc
    (issued : (issueNoc host fabric csr nodeId tags notBefore notAfter).run draws =
      .ok cert draws') : cert.publicKey = csr.publicKey := by
  obtain ⟨⟨issuer, issuerSkid, signer⟩, _, _, issued⟩ := of_run_bind_ok issued
  obtain ⟨serial, _, _, issued⟩ := of_run_bind_ok issued
  obtain ⟨unsigned, _, built, issued⟩ := of_run_bind_ok issued
  obtain ⟨tbs, _, _, issued⟩ := of_run_bind_ok issued
  obtain ⟨signature, _, _, issued⟩ := of_run_bind_ok issued
  cases issued
  have built := mapError_ok.mp (ok_of_steady built)
  exact publicKey_noc built

namespace Commissioner
variable {c : Commissioner}

theorem attested_of_ran (ran : runAttestationVerification host c = .ok ()) :
    ∃ paiDer dacDer nonce response, c.paiDer = some paiDer ∧ c.dacDer = some dacDer ∧
      c.attestationNonce = some nonce ∧ c.attestationResponse = some response ∧
      ∃ pai dac chain fields,
        Attested host c.config paiDer dacDer nonce response pai dac chain fields := by
  obtain ⟨paiDer, hasPai, ran⟩ := of_bind_ok ran
  obtain ⟨dacDer, hasDac, ran⟩ := of_bind_ok ran
  obtain ⟨response, hasResponse, ran⟩ := of_bind_ok ran
  obtain ⟨nonce, hasNonce, ran⟩ := of_bind_ok ran
  obtain ⟨pai, paiParsed, ran⟩ := of_bind_ok ran
  obtain ⟨dac, dacParsed, ran⟩ := of_bind_ok ran
  obtain ⟨_, paiFormat, ran⟩ := of_bind_ok ran
  obtain ⟨_, dacFormat, ran⟩ := of_bind_ok ran
  obtain ⟨chain, chained, ran⟩ := of_bind_ok ran
  obtain ⟨_, signed, ran⟩ := of_bind_ok ran
  obtain ⟨fields, extracted, ran⟩ := of_bind_ok ran
  obtain ⟨_, echoed, declared⟩ := of_bind_ok ran
  refine ⟨paiDer, dacDer, nonce, response, orError_ok.mp hasPai, orError_ok.mp hasDac,
    orError_ok.mp hasNonce, orError_ok.mp hasResponse, pai, dac, chain, fields, ?_⟩
  exact {
    paiParsed := mapError_ok.mp paiParsed
    dacParsed := mapError_ok.mp dacParsed
    paiFormat := mapError_ok.mp paiFormat
    dacFormat := mapError_ok.mp dacFormat
    chained := mapError_ok.mp chained
    signed := ensure_ok.mp (mapError_ok.mp signed)
    extracted := mapError_ok.mp extracted
    echoed := ensure_ok.mp echoed
    declared := mapError_ok.mp declared }

theorem csrVerified_of_ran (ran : validatedCsr host c = .ok verified) :
    ∃ dacDer nonce response, c.dacDer = some dacDer ∧ c.csrNonce = some nonce ∧
      c.csrResponse = some response ∧
      ∃ dac elements, CsrVerified host c.config dacDer nonce response verified dac elements := by
  obtain ⟨response, hasResponse, ran⟩ := of_bind_ok ran
  obtain ⟨dacDer, hasDac, ran⟩ := of_bind_ok ran
  obtain ⟨nonce, hasNonce, ran⟩ := of_bind_ok ran
  obtain ⟨dac, dacParsed, ran⟩ := of_bind_ok ran
  obtain ⟨elements, checked⟩ :=
    verified_of_verifyCsrResponse (mapError_ok.mp dacParsed) (mapError_ok.mp ran)
  exact ⟨dacDer, nonce, response, orError_ok.mp hasDac, orError_ok.mp hasNonce,
    orError_ok.mp hasResponse, dac, elements, checked⟩

end Commissioner

end Matter.Commissioning
