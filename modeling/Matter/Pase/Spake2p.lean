import Mathlib.Algebra.Field.Basic
import Mathlib.Algebra.Module.Basic
import Matter.Base.LittleEndian
import Matter.Pase.Messages

/-! The password-authenticated key exchange over an abstract group of scalars and
points. Hashing, key derivation and the curve are parameters with the behaviour
they document; the derivations from them are those of the source. -/
namespace Matter.Pase
open Codec hiding Error
open Handshake
open Cert (Block)

/-- The curve and the primitives. The uncompressed encoding of a point has 65
octets unless the point is the identity. -/
structure Suite (F G : Type) [Field F] [AddCommGroup G] [Module F G] where
  order : Nat
  generator : G
  mPoint : G
  nPoint : G
  mBytes : Block 65
  nBytes : Block 65
  toSec1 : G → Bytes
  fromSec1 : Bytes → Option G
  toRepr : F → Block 32
  fromRepr : Block 32 → Option F
  sha256 : Bytes → Block 32
  hmac : (key message : Bytes) → Block 32
  hkdf : (secret info : Bytes) → (length : Nat) → Option (Block length)
  pbkdf2 : (password salt : Bytes) → (iterations : Nat) → Block 80
  generator_ne_zero : generator ≠ 0
  toSec1_size : ∀ point, point ≠ 0 → (toSec1 point).length = 65
  toSec1_zero : toSec1 0 = [0]
  fromSec1_toSec1 : ∀ point, point ≠ 0 → fromSec1 (toSec1 point) = some point
  fromRepr_toRepr : ∀ scalar, fromRepr (toRepr scalar) = some scalar
  hkdf_short : ∀ secret info length, length ≤ 255 * 32 → ∃ okm, hkdf secret info length = some okm

abbrev PasePbkdfParams := PbkdfParamsInner

structure PaseSessionKeys where
  ke : Block 16
  i2rKey : Block 16
  r2iKey : Block 16
  attestationKey : Block 16
  deriving DecidableEq

def pbkdfMinIterations : UInt32 := 1000
def pbkdfMaxIterations : UInt32 := 100000

def validateParams (params : PasePbkdfParams) : Except Error Unit :=
  if params.iterations < pbkdfMinIterations then .error (.pbkdfIterationsTooLow params.iterations)
  else if params.iterations > pbkdfMaxIterations then
    .error (.pbkdfIterationsTooHigh params.iterations pbkdfMaxIterations)
  else if !saltFits params.salt then .error (.pbkdfSaltLengthInvalid params.salt.bytes.length)
  else .ok ()

theorem i2r_fits : 0 + 16 ≤ 48 := by decide

theorem r2i_fits : 16 + 16 ≤ 48 := by decide

theorem attestation_fits : 32 + 16 ≤ 48 := by decide

/-- The same keys on both sides. -/
def buildSessionKeys (ke : Block 16) (blob : Block 48) : PaseSessionKeys where
  ke := ke
  i2rKey := slice blob 0 16 i2r_fits
  r2iKey := slice blob 16 16 r2i_fits
  attestationKey := slice blob 32 16 attestation_fits

def appendLengthPrefixed (data : Bytes) : Bytes := LittleEndian.encode 8 data.length ++ data

def verifyTag (expected received : Block 32) : Except Error Unit :=
  if expected = received then .ok () else .error .confirmationTagMismatch

/-- First sixteen octets, last sixteen octets. -/
def kaKeFromTranscript (tt : Block 32) : Block 16 × Block 16 :=
  (slice tt 0 16 (by decide), slice tt 16 16 (by decide))

namespace Suite
variable {F G : Type} [Field F] [AddCommGroup G] [Module F G] (suite : Suite F G)

/-- A 40-octet big-endian number as a scalar. -/
def reduce40BytesModQ (input : Bytes) : Except Error F :=
  if input.length ≠ 40 then .error .pinDerivationFailed
  else .ok ((LittleEndian.decode input.reverse % suite.order : Nat) : F)

def deriveW0W1 (pin : UInt32) (params : PasePbkdfParams) : Except Error (F × F) := do
  validateParams params
  let pinBytes := LittleEndian.encode 4 pin.toNat
  if params.iterations = 0 then throw .pinDerivationFailed
  let out := suite.pbkdf2 pinBytes params.salt.bytes params.iterations.toNat
  let w0 ← suite.reduce40BytesModQ (out.bytes.take 40)
  let w1 ← suite.reduce40BytesModQ (out.bytes.drop 40)
  return (w0, w1)

/-- `copy_from_slice` panics on the one octet of the identity. -/
def encodePoint (point : G) : Except Error (Block 65) :=
  match Block.tryFrom 65 (suite.toSec1 point) with
  | some block => .ok block
  | none => .error .panicked

def decodePeerPoint (bytes : Block 65) : Except Error G := orInvalid (suite.fromSec1 bytes.bytes)

def deriveL (w1 : F) : Except Error (Block 65) := suite.encodePoint (w1 • suite.generator)

def computeX (x w0 : F) : Except Error (Block 65) :=
  suite.encodePoint (x • suite.generator + w0 • suite.mPoint)

def computeY (y w0 : F) : Except Error (Block 65) :=
  suite.encodePoint (y • suite.generator + w0 • suite.nPoint)

def computeZVProver (x w0 w1 : F) (yBytes : Block 65) : Except Error (Block 65 × Block 65) := do
  let y ← suite.decodePeerPoint yBytes
  let yn := y - w0 • suite.nPoint
  let z ← suite.encodePoint (x • yn)
  let v ← suite.encodePoint (w1 • yn)
  return (z, v)

def computeZVVerifier (y w0 : F) (lBytes xBytes : Block 65) :
    Except Error (Block 65 × Block 65) := do
  let xPoint ← suite.decodePeerPoint xBytes
  let xMinusW0m := xPoint - w0 • suite.mPoint
  let lPoint ← suite.decodePeerPoint lBytes
  let z ← suite.encodePoint (y • xMinusW0m)
  let v ← suite.encodePoint (y • lPoint)
  return (z, v)

/-- The parties have empty names. -/
def transcript (context : Block 32) (x y z v : Block 65) (w0 : F) : Bytes :=
  appendLengthPrefixed context.bytes ++ appendLengthPrefixed [] ++ appendLengthPrefixed [] ++
  appendLengthPrefixed suite.mBytes.bytes ++ appendLengthPrefixed suite.nBytes.bytes ++
  appendLengthPrefixed x.bytes ++ appendLengthPrefixed y.bytes ++
  appendLengthPrefixed z.bytes ++ appendLengthPrefixed v.bytes ++
  appendLengthPrefixed (suite.toRepr w0).bytes

def transcriptHash (context : Block 32) (x y z v : Block 65) (w0 : F) : Block 32 :=
  suite.sha256 (suite.transcript context x y z v w0)

def hkdfExpand (secret info : Bytes) (length : Nat) : Except Error (Block length) :=
  match suite.hkdf secret info length with
  | some okm => .ok okm
  | none => .error .pinDerivationFailed

def deriveConfirmationKeys (ka : Block 16) : Except Error (Block 16 × Block 16) := do
  let out ← suite.hkdfExpand ka.bytes (ascii "ConfirmationKeys") 32
  return (slice out 0 16 (by decide), slice out 16 16 (by decide))

def computeCa (kca : Block 16) (yBytes : Block 65) : Block 32 := suite.hmac kca.bytes yBytes.bytes

def computeCb (kcb : Block 16) (xBytes : Block 65) : Block 32 := suite.hmac kcb.bytes xBytes.bytes

def deriveSessionKeys (ke : Block 16) : Except Error (Block 48) :=
  suite.hkdfExpand ke.bytes (ascii "SessionKeys") 48

def hashContext (extras : List Bytes) : Block 32 :=
  suite.sha256 (ascii "CHIP PAKE V1 Commissioning" ++ extras.flatten)

/-- The result of every `fill` of 32 octets, in order. -/
abbrev Fills := Nat → Option (Block 32)

/-- The attempts of `sample_scalar` from fill number `n` on; the number of the
next fill comes with the scalar. -/
def sampleAttempts [DecidableEq F] (rng : Fills) : Nat → Nat → Except Error (F × Nat)
  | 0, _ => .error .invalidScalar
  | attempts + 1, n =>
    match rng n with
    | none => .error .invalidScalar
    | some bytes =>
      match suite.fromRepr bytes with
      | some scalar =>
        if scalar ≠ 0 then .ok (scalar, n + 1) else sampleAttempts rng attempts (n + 1)
      | none => sampleAttempts rng attempts (n + 1)

def sampleScalar [DecidableEq F] (rng : Fills) : Except Error (F × Nat) :=
  suite.sampleAttempts rng 16 0

def fillRandom (rng : Fills) (n : Nat) : Except Error (Block 32) :=
  match rng n with
  | some bytes => .ok bytes
  | none => .error .pinDerivationFailed

end Suite

end Matter.Pase
