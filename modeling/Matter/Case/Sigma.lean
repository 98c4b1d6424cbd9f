import Matter.Base.LittleEndian
import Matter.Case.Messages
import Matter.Cert.Chain
import Matter.Cert.FromTlv

/-! The equations of the certificate-authenticated handshake and the data it is
about. Curve, hash, key derivation, cipher and signature check are parameters;
nothing is assumed of them here. -/
namespace Matter.Case
open Codec hiding Error
open TlvReader TlvWriter Handshake
open Cert (Block putBlock MatterCertificate MatterTime TrustedRoots CertificateChain.validate)

/-- The primitives of the packages, with `Key` the secret keys of the curve. -/
structure Primitives (Key : Type) where
  fromRepr : Block 32 → Option Key
  publicKey : Key → Block 65
  diffieHellman : Key → Block 65 → Option (Block 32)
  sha256 : Bytes → Block 32
  hmac : (key message : Bytes) → Block 32
  hkdf : (secret salt info : Bytes) → (length : Nat) → Option (Block length)
  encrypt : (key : Block 16) → (nonce aad plaintext : Bytes) → Option Bytes
  decrypt : (key : Block 16) → (nonce aad ciphertext : Bytes) → Option Octets
  verify : Cert.Verify

structure CaseCredentials where
  noc : MatterCertificate
  icac : Option MatterCertificate
  signer : Bytes → Option (Block 64)
  fabricId : UInt64
  nodeId : UInt64
  ipk : Block 16
  rcacPublicKey : Block 65

structure CaseSessionKeys where
  i2rKey : Block 16
  r2iKey : Block 16
  attestationChallenge : Block 16
  deriving DecidableEq

structure PeerInfo where
  nodeId : UInt64
  fabricId : UInt64
  noc : MatterCertificate
  sessionId : UInt16
  deriving DecidableEq

structure LocalInfo where
  nodeId : UInt64
  fabricId : UInt64
  sessionId : UInt16
  deriving DecidableEq

structure ResumptionRecord where
  id : Block 16
  sharedSecret : Block 32
  peer : PeerInfo
  expiresAt : Option MatterTime
  deriving DecidableEq

structure CaseSessionOutput where
  keys : CaseSessionKeys
  peer : PeerInfo
  localInfo : LocalInfo
  resumptionRecord : Option ResumptionRecord
  deriving DecidableEq

/-- The same layout on both sides and both paths. -/
def splitKeys (blob : Block 48) : CaseSessionKeys where
  i2rKey := slice blob 0 16 (by decide)
  r2iKey := slice blob 16 16 (by decide)
  attestationChallenge := slice blob 32 16 (by decide)

def CaseCredentials.localInfo (credentials : CaseCredentials) (sessionId : UInt16) : LocalInfo where
  nodeId := credentials.nodeId
  fabricId := credentials.fabricId
  sessionId := sessionId

/-- `to_tlv` of the own certificates; a failure counts as one of the signer. -/
def ownTlv (cert : MatterCertificate) : Except Error Bytes :=
  match cert.toTlv with
  | .ok tlv => .ok tlv
  | .error _ => .error .signingFailed

def ownIcacTlv : Option MatterCertificate → Except Error (Option Bytes)
  | some icac => (ownTlv icac).map some
  | none => .ok none

def verifyMac (expected received : Block 16) : Except Error Unit :=
  if expected = received then .ok () else .error .resumptionMacMismatch

/-! What is signed and what is encrypted. -/

def encodeTbsData (responderNocTlv : Bytes) (responderIcacTlv : Option Bytes)
    (responderPublicKey initiatorPublicKey : Block 65) : Except Error Bytes :=
  written do
    startStructure .anonymous
    putVec (.context 1) responderNocTlv
    responderIcacTlv.forM fun icac => putVec (.context 2) icac
    putBlock (.context 3) responderPublicKey
    putBlock (.context 4) initiatorPublicKey
    endContainer

def encodeTbedata2 (nocTlv : Bytes) (icacTlv : Option Bytes) (signature : Block 64)
    (resumptionId : Block 16) : Except Error Bytes :=
  written do
    startStructure .anonymous
    putVec (.context 1) nocTlv
    icacTlv.forM fun icac => putVec (.context 2) icac
    putBlock (.context 3) signature
    putBlock (.context 4) resumptionId
    endContainer

def encodeTbedata3 (nocTlv : Bytes) (icacTlv : Option Bytes) (signature : Block 64) :
    Except Error Bytes :=
  written do
    startStructure .anonymous
    putVec (.context 1) nocTlv
    icacTlv.forM fun icac => putVec (.context 2) icac
    putBlock (.context 3) signature
    endContainer

/-- The certificates of a peer with the bytes they were read from, and its
signature. -/
structure TbeData3 where
  peerNoc : MatterCertificate
  peerIcac : Option MatterCertificate
  peerNocTlv : Octets
  peerIcacTlv : Option Octets
  peerSignature : Octets

structure TbeData2 extends TbeData3 where
  resumptionId : Block 16

structure TbeFields where
  nocBytes : Option Octets := none
  icacBytes : Option Octets := none
  signature : Option Octets := none
  resumptionId : Option (Block 16) := none

def peerCertificate (tlv : Octets) : Except Error MatterCertificate :=
  match MatterCertificate.fromTlv tlv with
  | .ok cert => .ok cert
  | .error e => .error (.invalidPeerNocChain e)

def peerIcac : Option Octets → Except Error (Option MatterCertificate)
  | some tlv => (peerCertificate tlv).map some
  | none => .ok none

def TbeFields.certificates (nocTlv signature : Octets) (icacTlv : Option Octets) :
    Except Error TbeData3 := do
  let noc ← peerCertificate nocTlv
  let icac ← peerIcac icacTlv
  return { peerNoc := noc, peerIcac := icac, peerNocTlv := nocTlv, peerIcacTlv := icacTlv,
           peerSignature := signature }

def tbedata2Scalar (fields : TbeFields) (tag : Tag) (value : ValueRef) : Except Error TbeFields :=
  match tag, value with
  | .context 1, .bytes octets => .ok { fields with nocBytes := some octets }
  | .context 2, .bytes octets => .ok { fields with icacBytes := some octets }
  | .context 3, .bytes octets => .ok { fields with signature := some octets }
  | .context 4, .bytes octets => do return { fields with resumptionId := some (← fixed 16 octets) }
  | _, _ => .error .invalidParameter

def decodeTbedata2 (plaintext : Octets) : Except Error TbeData2 :=
  decodeMessage (scalarMember tbedata2Scalar) {} (fun fields => do
    let noc ← orInvalid fields.nocBytes
    let signature ← orInvalid fields.signature
    let resumptionId ← orInvalid fields.resumptionId
    let tbe ← TbeFields.certificates noc signature fields.icacBytes
    return { tbe with resumptionId }) plaintext

def tbedata3Scalar (fields : TbeFields) (tag : Tag) (value : ValueRef) : Except Error TbeFields :=
  match tag, value with
  | .context 1, .bytes octets => .ok { fields with nocBytes := some octets }
  | .context 2, .bytes octets => .ok { fields with icacBytes := some octets }
  | .context 3, .bytes octets => .ok { fields with signature := some octets }
  | _, _ => .error .invalidParameter

def decodeTbedata3 (plaintext : Octets) : Except Error TbeData3 :=
  decodeMessage (scalarMember tbedata3Scalar) {} (fun fields => do
    let noc ← orInvalid fields.nocBytes
    let signature ← orInvalid fields.signature
    TbeFields.certificates noc signature fields.icacBytes) plaintext

def TbeData3.chain (tbe : TbeData3) : List MatterCertificate :=
  match tbe.peerIcac with
  | some icac => [tbe.peerNoc, icac]
  | none => [tbe.peerNoc]

def nonceTbeData2 : Bytes := ascii "NCASE_Sigma2N"
def nonceTbeData3 : Bytes := ascii "NCASE_Sigma3N"
def nonceResume1Mic : Bytes := ascii "NCASE_SigmaS1"
def nonceResume2Mic : Bytes := ascii "NCASE_SigmaS2"

namespace Primitives
variable {Key : Type} (prims : Primitives Key)

/-- The result of every `fill` of 32 octets, in order. -/
abbrev Fills := Nat → Option (Block 32)

/-- The attempts from fill number `n` on; the number of the next fill comes with
the pair. -/
def keypairAttempts (rng : Fills) : Nat → Nat → Except Error ((Key × Block 65) × Nat)
  | 0, _ => .error .ephemeralKeyGenerationFailed
  | attempts + 1, n =>
    match rng n with
    | none => .error .ephemeralKeyGenerationFailed
    | some bytes =>
      match prims.fromRepr bytes with
      | some key => .ok ((key, prims.publicKey key), n + 1)
      | none => keypairAttempts rng attempts (n + 1)

def generateEphemeralKeypair (rng : Fills) : Except Error ((Key × Block 65) × Nat) :=
  prims.keypairAttempts rng 16 0

def fillRandom (rng : Fills) (n : Nat) : Except Error (Block 32) :=
  match rng n with
  | some bytes => .ok bytes
  | none => .error .ephemeralKeyGenerationFailed

def ecdhSharedSecret (secret : Key) (peerPub : Block 65) : Except Error (Block 32) :=
  orInvalid (prims.diffieHellman secret peerPub)

def hkdfDerive (secret salt info : Bytes) (length : Nat) : Except Error (Block length) :=
  match prims.hkdf secret salt info length with
  | some okm => .ok okm
  | none => .error .ephemeralKeyGenerationFailed

def transcriptHash (messages : List Bytes) : Block 32 := prims.sha256 messages.flatten

def aeadEncrypt (key : Block 16) (nonce plaintext : Bytes) : Except Error Bytes :=
  match prims.encrypt key nonce [] plaintext with
  | some ciphertext => .ok ciphertext
  | none => .error .encryptionFailed

def aeadDecrypt (key : Block 16) (nonce ciphertext : Bytes) : Except Error Octets :=
  match prims.decrypt key nonce [] ciphertext with
  | some plaintext => .ok plaintext
  | none => .error .encryptedBlobDecryptionFailed

def computeDestId (ipk : Block 16) (rcacPublicKey : Block 65) (fabricId nodeId : UInt64)
    (initiatorRandom : Block 32) : Block 32 :=
  prims.hmac ipk.bytes (initiatorRandom.bytes ++ rcacPublicKey.bytes ++
    LittleEndian.encode 8 fabricId.toNat ++ LittleEndian.encode 8 nodeId.toNat)

/-! Resumption. -/

/-- The tag over an empty plaintext under a key derived for it. -/
def computeResumeMic (info nonce : Bytes) (sharedSecret initiatorRandom : Block 32)
    (resumptionId : Block 16) : Except Error (Block 16) := do
  let key ← prims.hkdfDerive sharedSecret.bytes (initiatorRandom.bytes ++ resumptionId.bytes) info 16
  let tag ← prims.aeadEncrypt key nonce []
  match Block.tryFrom 16 tag with
  | some mic => return mic
  | none => throw .ephemeralKeyGenerationFailed

def computeSigma1ResumeMic (sharedSecret initiatorRandom : Block 32) (resumptionId : Block 16) :
    Except Error (Block 16) :=
  prims.computeResumeMic (ascii "Sigma1_Resume") nonceResume1Mic sharedSecret initiatorRandom
    resumptionId

def verifySigma1ResumeMic (sharedSecret initiatorRandom : Block 32)
    (resumptionId receivedMic : Block 16) : Except Error Unit := do
  let expected ← prims.computeSigma1ResumeMic sharedSecret initiatorRandom resumptionId
  verifyMac expected receivedMic

def computeSigma2ResumeMic (sharedSecret initiatorRandom : Block 32) (newResumptionId : Block 16) :
    Except Error (Block 16) :=
  prims.computeResumeMic (ascii "Sigma2_Resume") nonceResume2Mic sharedSecret initiatorRandom
    newResumptionId

def verifySigma2ResumeMic (sharedSecret initiatorRandom : Block 32)
    (newResumptionId receivedMic : Block 16) : Except Error Unit := do
  let expected ← prims.computeSigma2ResumeMic sharedSecret initiatorRandom newResumptionId
  verifyMac expected receivedMic

def deriveResumeSessionKeys (sharedSecret initiatorRandom : Block 32) (oldResumptionId : Block 16) :
    Except Error (Block 48) :=
  prims.hkdfDerive sharedSecret.bytes (initiatorRandom.bytes ++ oldResumptionId.bytes)
    (ascii "SessionResumptionKeys") 48

/-! The keys of a new session, from the messages before. -/

def deriveS2k (sharedSecret : Block 32) (ipk : Block 16) (responderRandom : Block 32)
    (responderEphPub : Block 65) (sigma1 : Bytes) : Except Error (Block 16) :=
  prims.hkdfDerive sharedSecret.bytes (ipk.bytes ++ responderRandom.bytes ++
    responderEphPub.bytes ++ (prims.transcriptHash [sigma1]).bytes) (ascii "Sigma2") 16

def deriveS3k (sharedSecret : Block 32) (ipk : Block 16) (sigma1 sigma2 : Bytes) :
    Except Error (Block 16) :=
  prims.hkdfDerive sharedSecret.bytes
    (ipk.bytes ++ (prims.transcriptHash [sigma1, sigma2]).bytes) (ascii "Sigma3") 16

def deriveSessionKeys (sharedSecret : Block 32) (ipk : Block 16) (sigma1 sigma2 sigma3 : Bytes) :
    Except Error (Block 48) :=
  prims.hkdfDerive sharedSecret.bytes
    (ipk.bytes ++ (prims.transcriptHash [sigma1, sigma2, sigma3]).bytes) (ascii "SessionKeys") 48

/-! The checks on the peer's certificates, in the order of the source. -/

def validatePeerChain (tbe : TbeData3) (roots : TrustedRoots) (now : MatterTime) :
    Except Error Unit :=
  match CertificateChain.validate prims.verify tbe.chain roots now with
  | .ok () => .ok ()
  | .error e => .error (.invalidPeerNocChain e)

/-- The signature over the received certificates and both ephemeral keys, the
signer's first. -/
def verifyPeerSignature (tbe : TbeData3) (peerEphPub ephPub : Block 65) : Except Error Unit := do
  let signedData ← encodeTbsData tbe.peerNocTlv.bytes (tbe.peerIcacTlv.map (·.bytes)) peerEphPub
    ephPub
  match Cert.Signature.fromSlice tbe.peerSignature with
  | .ok signature =>
    if prims.verify tbe.peerNoc.publicKey signedData signature then return ()
    else throw .peerSignatureInvalid
  | .error _ => throw .peerSignatureInvalid

def sign (credentials : CaseCredentials) (message : Bytes) : Except Error (Block 64) :=
  match credentials.signer message with
  | some signature => .ok signature
  | none => .error .signingFailed

end Primitives

end Matter.Case
