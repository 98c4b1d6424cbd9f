import Matter.Handshake.Fields

/-! The five messages of a password-authenticated handshake. A message with a
field its decoder does not know, or without one it needs, is refused. -/
namespace Matter.Pase
open Codec hiding Error
open TlvReader TlvWriter Handshake
open Cert (Block putBlock)

def saltMinLen : Nat := 16
def saltMaxLen : Nat := 32

/-- The PBKDF2 parameters inside a response. -/
structure PbkdfParamsInner where
  iterations : UInt32
  salt : Octets
  deriving DecidableEq

def saltFits (salt : Octets) : Bool :=
  saltMinLen ≤ salt.bytes.length && salt.bytes.length ≤ saltMaxLen

namespace PbkdfParamsInner

def encode (params : PbkdfParamsInner) (outerTag : Tag) : Except Error Bytes :=
  if !saltFits params.salt then .error .invalidParameter
  else written do
    startStructure outerTag
    putUint (.context 1) params.iterations.toUInt64
    putBytes (.context 2) params.salt
    endContainer

structure Fields where
  iterations : Option UInt32 := none
  salt : Option Octets := none

def scalar (fields : Fields) (tag : Tag) (value : ValueRef) : Except Error Fields :=
  match tag, value with
  | .context 1, .uint n => do return { fields with iterations := some (← orInvalid (Wire.toU32? n)) }
  | .context 2, .bytes octets =>
    if !saltFits octets then .error .invalidParameter
    else .ok { fields with salt := some octets }
  | _, _ => .error .invalidParameter

def ofFields (fields : Fields) : Except Error PbkdfParamsInner := do
  let iterations ← orInvalid fields.iterations
  let salt ← orInvalid fields.salt
  return { iterations, salt }

def decodeBody : FieldsM PbkdfParamsInner := do
  let state ← fields (scalarMember scalar) {}
  MonadExcept.ofExcept (ofFields state)

end PbkdfParamsInner

structure PbkdfParamRequest where
  initiatorRandom : Block 32
  initiatorSessionId : UInt16
  passcodeId : UInt16
  hasPbkdfParameters : Bool
  initiatorSessionParams : Option Bytes
  deriving DecidableEq

namespace PbkdfParamRequest

def encode (request : PbkdfParamRequest) : Except Error Bytes :=
  written do
    startStructure .anonymous
    putBlock (.context 1) request.initiatorRandom
    putUint (.context 2) request.initiatorSessionId.toUInt64
    putUint (.context 3) request.passcodeId.toUInt64
    putBool (.context 4) request.hasPbkdfParameters
    request.initiatorSessionParams.forM putRaw
    endContainer

structure Fields where
  initiatorRandom : Option (Block 32) := none
  initiatorSessionId : Option UInt16 := none
  passcodeId : Option UInt16 := none
  hasPbkdfParameters : Option Bool := none
  initiatorSessionParams : Option Bytes := none

def scalar (fields : Fields) (tag : Tag) (value : ValueRef) : Except Error Fields :=
  match tag, value with
  | .context 1, .bytes octets => do return { fields with initiatorRandom := some (← fixed 32 octets) }
  | .context 2, .uint n => do return { fields with initiatorSessionId := some (← sessionId n) }
  | .context 3, .uint n => do return { fields with passcodeId := some (← sessionId n) }
  | .context 4, .bool b => .ok { fields with hasPbkdfParameters := some b }
  | _, _ => .error .invalidParameter

def member (bytes : Octets) (fields : Fields) : ElementRef → FieldsM Fields
  | .containerStart (.context 5) .struct => do
    let raw ← skipAndCaptureSubstructure bytes 5
    return { fields with initiatorSessionParams := some raw }
  | .scalar tag value => MonadExcept.ofExcept (scalar fields tag value)
  | _ => throw .invalidParameter

def ofFields (fields : Fields) : Except Error PbkdfParamRequest := do
  let initiatorRandom ← orInvalid fields.initiatorRandom
  let initiatorSessionId ← orInvalid fields.initiatorSessionId
  let passcodeId ← orInvalid fields.passcodeId
  let hasPbkdfParameters ← orInvalid fields.hasPbkdfParameters
  return { initiatorRandom, initiatorSessionId, passcodeId, hasPbkdfParameters,
           initiatorSessionParams := fields.initiatorSessionParams }

def decode (bytes : Octets) : Except Error PbkdfParamRequest :=
  decodeMessage (member bytes) {} ofFields bytes

end PbkdfParamRequest

structure PbkdfParamResponse where
  initiatorRandom : Block 32
  responderRandom : Block 32
  responderSessionId : UInt16
  pbkdfParameters : Option PbkdfParamsInner
  responderSessionParams : Option Bytes
  deriving DecidableEq

namespace PbkdfParamResponse

def encode (response : PbkdfParamResponse) : Except Error Bytes := do
  let inner ← match response.pbkdfParameters with
    | some params => params.encode (.context 4)
    | none => .ok []
  written do
    startStructure .anonymous
    putBlock (.context 1) response.initiatorRandom
    putBlock (.context 2) response.responderRandom
    putUint (.context 3) response.responderSessionId.toUInt64
    putRaw inner
    response.responderSessionParams.forM putRaw
    endContainer

structure Fields where
  initiatorRandom : Option (Block 32) := none
  responderRandom : Option (Block 32) := none
  responderSessionId : Option UInt16 := none
  pbkdfParameters : Option PbkdfParamsInner := none
  responderSessionParams : Option Bytes := none

def scalar (fields : Fields) (tag : Tag) (value : ValueRef) : Except Error Fields :=
  match tag, value with
  | .context 1, .bytes octets => do return { fields with initiatorRandom := some (← fixed 32 octets) }
  | .context 2, .bytes octets => do return { fields with responderRandom := some (← fixed 32 octets) }
  | .context 3, .uint n => do return { fields with responderSessionId := some (← sessionId n) }
  | _, _ => .error .invalidParameter

def member (bytes : Octets) (fields : Fields) : ElementRef → FieldsM Fields
  | .containerStart (.context 4) .struct => do
    let inner ← PbkdfParamsInner.decodeBody
    return { fields with pbkdfParameters := some inner }
  | .containerStart (.context 5) .struct => do
    let raw ← skipAndCaptureSubstructure bytes 5
    return { fields with responderSessionParams := some raw }
  | .scalar tag value => MonadExcept.ofExcept (scalar fields tag value)
  | _ => throw .invalidParameter

def ofFields (fields : Fields) : Except Error PbkdfParamResponse := do
  let initiatorRandom ← orInvalid fields.initiatorRandom
  let responderRandom ← orInvalid fields.responderRandom
  let responderSessionId ← orInvalid fields.responderSessionId
  return { initiatorRandom, responderRandom, responderSessionId,
           pbkdfParameters := fields.pbkdfParameters,
           responderSessionParams := fields.responderSessionParams }

def decode (bytes : Octets) : Except Error PbkdfParamResponse :=
  decodeMessage (member bytes) {} ofFields bytes

end PbkdfParamResponse

structure Pake1 where
  x : Block 65
  deriving DecidableEq

namespace Pake1

def encode (message : Pake1) : Except Error Bytes :=
  written do
    startStructure .anonymous
    putBlock (.context 1) message.x
    endContainer

def scalar (_ : Option (Block 65)) (tag : Tag) (value : ValueRef) : Except Error (Option (Block 65)) :=
  match tag, value with
  | .context 1, .bytes octets => (fixed 65 octets).map some
  | _, _ => .error .invalidParameter

def decode (bytes : Octets) : Except Error Pake1 :=
  decodeMessage (scalarMember scalar) none (fun x => (orInvalid x).map Pake1.mk) bytes

end Pake1

structure Pake2 where
  y : Block 65
  verifier : Block 32
  deriving DecidableEq

namespace Pake2

def encode (message : Pake2) : Except Error Bytes :=
  written do
    startStructure .anonymous
    putBlock (.context 1) message.y
    putBlock (.context 2) message.verifier
    endContainer

structure Fields where
  y : Option (Block 65) := none
  verifier : Option (Block 32) := none

def scalar (fields : Fields) (tag : Tag) (value : ValueRef) : Except Error Fields :=
  match tag, value with
  | .context 1, .bytes octets => do return { fields with y := some (← fixed 65 octets) }
  | .context 2, .bytes octets => do return { fields with verifier := some (← fixed 32 octets) }
  | _, _ => .error .invalidParameter

def ofFields (fields : Fields) : Except Error Pake2 := do
  let y ← orInvalid fields.y
  let verifier ← orInvalid fields.verifier
  return { y, verifier }

def decode (bytes : Octets) : Except Error Pake2 :=
  decodeMessage (scalarMember scalar) {} ofFields bytes

end Pake2

structure Pake3 where
  verifier : Block 32
  deriving DecidableEq

namespace Pake3

def encode (message : Pake3) : Except Error Bytes :=
  written do
    startStructure .anonymous
    putBlock (.context 1) message.verifier
    endContainer

def scalar (_ : Option (Block 32)) (tag : Tag) (value : ValueRef) : Except Error (Option (Block 32)) :=
  match tag, value with
  | .context 1, .bytes octets => (fixed 32 octets).map some
  | _, _ => .error .invalidParameter

def decode (bytes : Octets) : Except Error Pake3 :=
  decodeMessage (scalarMember scalar) none (fun verifier => (orInvalid verifier).map Pake3.mk) bytes

end Pake3

end Matter.Pase
