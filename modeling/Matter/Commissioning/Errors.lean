import Matter.Cert.Certificate

/-! The vocabulary of a commissioning: the stages, the responses that are waited
for, and the errors with the text each is rendered to. -/
namespace Matter.Commissioning
open Codec

inductive Stage where
  | securePairing
  | readCommissioningInfo
  | armFailsafe
  | configRegulatory
  | sendPaiCertRequest
  | sendDacCertRequest
  | sendAttestationRequest
  | attestationVerification
  | sendOpCertSigningRequest
  | validateCsr
  | generateNocChain
  | sendTrustedRootCert
  | sendNoc
  | readNetworkCommissioningInfo
  | networkSetup
  | failsafeBeforeNetworkEnable
  | networkEnable
  | evictPreviousCaseSessions
  | findOperationalForComplete
  | sendComplete
  | cleanup
  | failed
  deriving DecidableEq, Repr

def Stage.debug : Stage → String
  | securePairing => "SecurePairing"
  | readCommissioningInfo => "ReadCommissioningInfo"
  | armFailsafe => "ArmFailsafe"
  | configRegulatory => "ConfigRegulatory"
  | sendPaiCertRequest => "SendPaiCertRequest"
  | sendDacCertRequest => "SendDacCertRequest"
  | sendAttestationRequest => "SendAttestationRequest"
  | attestationVerification => "AttestationVerification"
  | sendOpCertSigningRequest => "SendOpCertSigningRequest"
  | validateCsr => "ValidateCsr"
  | generateNocChain => "GenerateNocChain"
  | sendTrustedRootCert => "SendTrustedRootCert"
  | sendNoc => "SendNoc"
  | readNetworkCommissioningInfo => "ReadNetworkCommissioningInfo"
  | networkSetup => "NetworkSetup"
  | failsafeBeforeNetworkEnable => "FailsafeBeforeNetworkEnable"
  | networkEnable => "NetworkEnable"
  | evictPreviousCaseSessions => "EvictPreviousCaseSessions"
  | findOperationalForComplete => "FindOperationalForComplete"
  | sendComplete => "SendComplete"
  | cleanup => "Cleanup"
  | failed => "Failed"

inductive Expectation where
  | commissioningInfo
  | armFailsafeResponse
  | setRegulatoryConfigResponse
  | paiCertChainResponse
  | dacCertChainResponse
  | attestationResponse
  | csrResponse
  | addTrustedRootResponse
  | nocResponse
  | commissioningCompleteResponse
  | networkCommissioningInfo
  | networkConfigResponse
  | connectNetworkResponse
  | caseFailed
  deriving DecidableEq, Repr

def Expectation.debug : Expectation → String
  | commissioningInfo => "CommissioningInfo"
  | armFailsafeResponse => "ArmFailsafeResponse"
  | setRegulatoryConfigResponse => "SetRegulatoryConfigResponse"
  | paiCertChainResponse => "PaiCertChainResponse"
  | dacCertChainResponse => "DacCertChainResponse"
  | attestationResponse => "AttestationResponse"
  | csrResponse => "CsrResponse"
  | addTrustedRootResponse => "AddTrustedRootResponse"
  | nocResponse => "NocResponse"
  | commissioningCompleteResponse => "CommissioningCompleteResponse"
  | networkCommissioningInfo => "NetworkCommissioningInfo"
  | networkConfigResponse => "NetworkConfigResponse"
  | connectNetworkResponse => "ConnectNetworkResponse"
  | caseFailed => "CaseFailed"

inductive NetworkKind where
  | wiFi
  | thread
  | ethernet
  deriving DecidableEq, Repr

def NetworkKind.debug : NetworkKind → String
  | wiFi => "WiFi"
  | thread => "Thread"
  | ethernet => "Ethernet"

inductive RemediationHint where
  | checkPassphrase
  | checkSsid
  | checkRegulatoryRegion
  | upgradeSecurityMode
  | deviceNetworkSlotsFull
  | deviceIpStackFailure
  | none
  deriving DecidableEq, Repr

def RemediationHint.debug : RemediationHint → String
  | checkPassphrase => "CheckPassphrase"
  | checkSsid => "CheckSsid"
  | checkRegulatoryRegion => "CheckRegulatoryRegion"
  | upgradeSecurityMode => "UpgradeSecurityMode"
  | deviceNetworkSlotsFull => "DeviceNetworkSlotsFull"
  | deviceIpStackFailure => "DeviceIpStackFailure"
  | none => "None"

structure VendorId where
  value : UInt16
  deriving DecidableEq, Repr

structure ProductId where
  value : UInt16
  deriving DecidableEq, Repr

/-- The boxed sources of a parse failure and of an invalid chain are not kept. -/
inductive AttestationError where
  | parse
  | invalidChain
  | timeBoundsViolation
  | basicConstraintsViolation
  | certFormatViolation (reason : String)
  | untrustedRoot
  | vidMismatch (dac pai : VendorId)
  | paiVidNotAuthorized
  | paaVidScopeMismatch (paaVid dacVid : VendorId)
  | responseElementsMalformed
  | certificationDeclarationMalformed
  | certificationDeclarationSignatureInvalid
  | certificationDeclarationTlvMalformed
  | certificationDeclarationVidMismatch (declared expected : VendorId)
  | certificationDeclarationPidMismatch (expected : ProductId)
  | certificationDeclarationPaaNotAuthorized
  | badResponseSignature
  deriving DecidableEq, Repr

inductive SignerError where
  | unavailable
  | rejected (reason : String)
  | internal
  deriving DecidableEq, Repr

/-- The boxed sources of the two parse failures are not kept. -/
inductive NocError where
  | nocsrParse
  | csrParse
  | badCsrSelfSignature
  | nonceMismatch
  | badCsrAttestationSignature
  | invalidCsrPublicKey
  | dnAttributeOverflow
  | certBuild (error : Cert.Error)
  | signingFailed (error : SignerError)
  | rng
  | clusterCodec (error : Codec.Error)
  | malformedResponse (what : String)
  deriving DecidableEq, Repr

inductive CommissioningError where
  | invalidConfig (what : String)
  | unexpectedResponseKind (expected got : Expectation)
  | outOfOrderResponse (stage : Stage)
  | deviceImStatus (stage : Stage) (imStatus : UInt16)
  | malformedResponse (stage : Stage)
  | attestation (error : AttestationError)
  | noc (error : NocError)
  | caseEstablishmentFailed
  | networkFeatureUnsupported (needed : NetworkKind)
  | networkRejected (stage : Stage) (networkingStatus : UInt8) (debugText : Option Text)
      (remediationHint : RemediationHint)
  deriving DecidableEq

/-! Rendering. -/

def VendorId.debug (id : VendorId) : String := s!"VendorId({id.value.toNat})"

def ProductId.debug (id : ProductId) : String := s!"ProductId({id.value.toNat})"

def AttestationError.render : AttestationError → String
  | parse => "X.509 parse failure"
  | invalidChain => "certificate chain validation failed"
  | timeBoundsViolation => "certificate expired or not yet valid"
  | basicConstraintsViolation => "BasicConstraints violation"
  | certFormatViolation reason => s!"attestation certificate format violation: {reason}"
  | untrustedRoot => "PAA not in trust store"
  | vidMismatch dac pai => s!"VID mismatch: DAC={dac.debug} PAI={pai.debug}"
  | paiVidNotAuthorized => "PAI is not authorized for DAC's product"
  | paaVidScopeMismatch paaVid dacVid =>
    s!"VID-scoped PAA scope mismatch: PAA={paaVid.debug} DAC/PAI={dacVid.debug}"
  | responseElementsMalformed => "attestation_elements malformed or missing required fields"
  | certificationDeclarationMalformed => "certification declaration has invalid CMS structure"
  | certificationDeclarationSignatureInvalid =>
    "certification declaration signature does not verify against any trusted root"
  | certificationDeclarationTlvMalformed => "certification declaration inner TLV malformed"
  | certificationDeclarationVidMismatch declared expected =>
    s!"certification declaration VID mismatch: declared {declared.debug}, " ++
      s!"expected {expected.debug}"
  | certificationDeclarationPidMismatch expected =>
    s!"certification declaration PID list does not contain expected {expected.debug}"
  | certificationDeclarationPaaNotAuthorized =>
    "certification declaration authorized_paa_list does not include the device's PAA"
  | badResponseSignature => "AttestationResponse signature verification failed"

def NocError.render : NocError → String
  | nocsrParse => "NOCSR TLV parse failure"
  | csrParse => "embedded PKCS#10 CSR parse failure"
  | badCsrSelfSignature => "CSR self-signature verification failed"
  | nonceMismatch => "CSRNonce did not match commissioner-issued value"
  | badCsrAttestationSignature => "DAC attestation signature over NOCSR failed"
  | invalidCsrPublicKey => "CSR public key is not a valid P-256 point"
  | dnAttributeOverflow => "Matter DN attribute construction failed"
  | certBuild _ => "NOC certificate construction failed"
  | signingFailed _ => "NOC signing failed"
  | rng => "RNG failure"
  | clusterCodec _ => "OpCreds cluster payload codec error"
  | malformedResponse what => s!"OpCreds cluster response is structurally malformed: {what}"

/-- The Unicode tables that decide how `Debug` writes a character. -/
structure UnicodeTables where
  graphemeExtend : Char → Bool
  printable : Char → Bool

/-- The alternate hexadecimal form `{:#x}`. -/
def alternateHex (n : Nat) : String := "0x" ++ String.ofList (Nat.toDigits 16 n)

/-- `char::escape_debug` inside a string. -/
def escapeDebug (tables : UnicodeTables) (c : Char) : String :=
  if c = '\x00' then "\\0"
  else if c = '\t' then "\\t"
  else if c = '\r' then "\\r"
  else if c = '\n' then "\\n"
  else if c = '\\' then "\\\\"
  else if c = '"' then "\\\""
  else if tables.graphemeExtend c ∨ ¬ tables.printable c then
    "\\u\x7b" ++ String.ofList (Nat.toDigits 16 c.toNat) ++ "\x7d"
  else c.toString

def debugString (tables : UnicodeTables) (s : String) : String :=
  "\"" ++ String.join (s.toList.map (escapeDebug tables)) ++ "\""

def displayDebugText (tables : UnicodeTables) : Option Text → String
  | none => "None"
  | some text =>
    let capped := String.ofList (text.string.toList.take 64)
    if capped.utf8ByteSize < text.string.utf8ByteSize then
      s!"Some({debugString tables capped}…)"
    else s!"Some({debugString tables text.string})"

def CommissioningError.render (tables : UnicodeTables) : CommissioningError → String
  | invalidConfig what => s!"invalid commissioner config: {what}"
  | unexpectedResponseKind expected got =>
    s!"unexpected response kind: expected {expected.debug}, got {got.debug}"
  | outOfOrderResponse stage => s!"response delivered out of order at stage {stage.debug}"
  | deviceImStatus stage imStatus =>
    s!"device rejected stage {stage.debug}: IM status {alternateHex imStatus.toNat}"
  | malformedResponse stage => s!"malformed response at stage {stage.debug}"
  | attestation error => s!"attestation verification failed: {error.render}"
  | noc error => s!"NOC issuance failed: {error.render}"
  | caseEstablishmentFailed => "CASE session establishment failed"
  | networkFeatureUnsupported needed =>
    s!"device does not support {needed.debug} network type (credential/device mismatch)"
  | networkRejected stage networkingStatus debugText remediationHint =>
    s!"network commissioning rejected at stage {stage.debug}: " ++
      s!"networking_status {alternateHex networkingStatus.toNat}, " ++
      s!"debug_text={displayDebugText tables debugText}, hint={remediationHint.debug}"

end Matter.Commissioning
