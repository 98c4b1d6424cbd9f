import Matter.Handshake.SessionParameters

/-! The messages of a certificate-authenticated handshake. Fields that a decoder
does not know are skipped, whatever their type. -/
namespace Matter.Case
open Codec hiding Error
open TlvReader TlvWriter Handshake
open Cert (Block putBlock)

/-- `put_bytes` of a vector. -/
def putVec (tag : Tag) (bytes : Bytes) : WriterM Unit := putStringPayload tag bytes .bytes

/-- What comes of a member: a scalar is for the caller to look at, and the
session parameters are captured where they are expected. -/
def messageMember {σ : Type} (bytes : Octets) (paramsTag : Option UInt8)
    (scalar : σ → Tag → ValueRef → Except Error σ) (captured : σ → Bytes → σ) (state : σ) :
    ElementRef → FieldsM σ
  | .containerStart tag kind =>
    match paramsTag with
    | some n =>
      if tag = .context n ∧ kind = .struct then do
        let raw ← skipAndCaptureSubstructure bytes n
        return captured state raw
      else do
        skipContainerBody
        return state
    | none => do
      skipContainerBody
      return state
  | .scalar tag value => MonadExcept.ofExcept (scalar state tag value)
  | .containerEnd => return state

def decodeSessionParams : Option Bytes → Except Error (Option SessionParameters)
  | none => .ok none
  | some raw => (SessionParameters.decode (received raw)).map some

def sigma1SessionParamsTag : UInt8 := 5
def sigma2SessionParamsTag : UInt8 := 5
def sigma2ResumeSessionParamsTag : UInt8 := 4

structure Sigma1 where
  initiatorRandom : Block 32
  initiatorSessionId : UInt16
  destId : Block 32
  initiatorEphPub : Block 65
  initiatorSessionParams : Option Bytes
  resumptionId : Option (Block 16)
  initiatorResumeMic : Option (Block 16)
  deriving DecidableEq

namespace Sigma1

def sessionParameters (message : Sigma1) : Except Error (Option SessionParameters) :=
  decodeSessionParams message.initiatorSessionParams

def encode (message : Sigma1) : Except Error Bytes :=
  written do
    startStructure .anonymous
    putBlock (.context 1) message.initiatorRandom
    putUint (.context 2) message.initiatorSessionId.toUInt64
    putBlock (.context 3) message.destId
    putBlock (.context 4) message.initiatorEphPub
    message.initiatorSessionParams.forM putRaw
    message.resumptionId.forM fun id => putBlock (.context 6) id
    message.initiatorResumeMic.forM fun mic => putBlock (.context 7) mic
    endContainer

structure Fields where
  initiatorRandom : Option (Block 32) := none
  initiatorSessionId : Option UInt16 := none
  destId : Option (Block 32) := none
  initiatorEphPub : Option (Block 65) := none
  initiatorSessionParams : Option Bytes := none
  resumptionId : Option (Block 16) := none
  initiatorResumeMic : Option (Block 16) := none

def scalar (fields : Fields) (tag : Tag) (value : ValueRef) : Except Error Fields :=
  match tag, value with
  | .context 1, .bytes octets => do
    return { fields with initiatorRandom := some (← fixed 32 octets) }
  | .context 2, .uint n => do return { fields with initiatorSessionId := some (← sessionId n) }
  | .context 3, .bytes octets => do return { fields with destId := some (← fixed 32 octets) }
  | .context 4, .bytes octets => do
    return { fields with initiatorEphPub := some (← fixed 65 octets) }
  | .context 6, .bytes octets => do return { fields with resumptionId := some (← fixed 16 octets) }
  | .context 7, .bytes octets => do
    return { fields with initiatorResumeMic := some (← fixed 16 octets) }
  | _, _ => .ok fields

def captured (fields : Fields) (raw : Bytes) : Fields :=
  { fields with initiatorSessionParams := some raw }

def ofFields (fields : Fields) : Except Error Sigma1 := do
  let initiatorRandom ← orInvalid fields.initiatorRandom
  let initiatorSessionId ← orInvalid fields.initiatorSessionId
  let destId ← orInvalid fields.destId
  let initiatorEphPub ← orInvalid fields.initiatorEphPub
  return { initiatorRandom, initiatorSessionId, destId, initiatorEphPub,
           initiatorSessionParams := fields.initiatorSessionParams,
           resumptionId := fields.resumptionId,
           initiatorResumeMic := fields.initiatorResumeMic }

def decode (bytes : Octets) : Except Error Sigma1 :=
  decodeMessage (messageMember bytes (some sigma1SessionParamsTag) scalar captured) {} ofFields
    bytes

end Sigma1

structure Sigma2 where
  responderRandom : Block 32
  responderSessionId : UInt16
  responderEphPub : Block 65
  encrypted : Bytes
  responderSessionParams : Option Bytes
  deriving DecidableEq

namespace Sigma2

def sessionParameters (message : Sigma2) : Except Error (Option SessionParameters) :=
  decodeSessionParams message.responderSessionParams

def encode (message : Sigma2) : Except Error Bytes :=
  written do
    startStructure .anonymous
    putBlock (.context 1) message.responderRandom
    putUint (.context 2) message.responderSessionId.toUInt64
    putBlock (.context 3) message.responderEphPub
    putVec (.context 4) message.encrypted
    message.responderSessionParams.forM putRaw
    endContainer

structure Fields where
  responderRandom : Option (Block 32) := none
  responderSessionId : Option UInt16 := none
  responderEphPub : Option (Block 65) := none
  encrypted : Option Bytes := none
  responderSessionParams : Option Bytes := none

def scalar (fields : Fields) (tag : Tag) (value : ValueRef) : Except Error Fields :=
  match tag, value with
  | .context 1, .bytes octets => do
    return { fields with responderRandom := some (← fixed 32 octets) }
  | .context 2, .uint n => do return { fields with responderSessionId := some (← sessionId n) }
  | .context 3, .bytes octets => do
    return { fields with responderEphPub := some (← fixed 65 octets) }
  | .context 4, .bytes octets => .ok { fields with encrypted := some octets.bytes }
  | _, _ => .ok fields

def captured (fields : Fields) (raw : Bytes) : Fields :=
  { fields with responderSessionParams := some raw }

def ofFields (fields : Fields) : Except Error Sigma2 := do
  let responderRandom ← orInvalid fields.responderRandom
  let responderSessionId ← orInvalid fields.responderSessionId
  let responderEphPub ← orInvalid fields.responderEphPub
  let encrypted ← orInvalid fields.encrypted
  return { responderRandom, responderSessionId, responderEphPub, encrypted,
           responderSessionParams := fields.responderSessionParams }

def decode (bytes : Octets) : Except Error Sigma2 :=
  decodeMessage (messageMember bytes (some sigma2SessionParamsTag) scalar captured) {} ofFields
    bytes

end Sigma2

structure Sigma2Resume where
  resumptionId : Block 16
  resumeMic : Block 16
  responderSessionId : UInt16
  responderSessionParams : Option Bytes
  deriving DecidableEq

namespace Sigma2Resume

def sessionParameters (message : Sigma2Resume) : Except Error (Option SessionParameters) :=
  decodeSessionParams message.responderSessionParams

def encode (message : Sigma2Resume) : Except Error Bytes :=
  written do
    startStructure .anonymous
    putBlock (.context 1) message.resumptionId
    putBlock (.context 2) message.resumeMic
    putUint (.context 3) message.responderSessionId.toUInt64
    message.responderSessionParams.forM putRaw
    endContainer

structure Fields where
  resumptionId : Option (Block 16) := none
  resumeMic : Option (Block 16) := none
  responderSessionId : Option UInt16 := none
  responderSessionParams : Option Bytes := none

def scalar (fields : Fields) (tag : Tag) (value : ValueRef) : Except Error Fields :=
  match tag, value with
  | .context 1, .bytes octets => do return { fields with resumptionId := some (← fixed 16 octets) }
  | .context 2, .bytes octets => do return { fields with resumeMic := some (← fixed 16 octets) }
  | .context 3, .uint n => do return { fields with responderSessionId := some (← sessionId n) }
  | _, _ => .ok fields

def captured (fields : Fields) (raw : Bytes) : Fields :=
  { fields with responderSessionParams := some raw }

def ofFields (fields : Fields) : Except Error Sigma2Resume := do
  let resumptionId ← orInvalid fields.resumptionId
  let resumeMic ← orInvalid fields.resumeMic
  let responderSessionId ← orInvalid fields.responderSessionId
  return { resumptionId, resumeMic, responderSessionId,
           responderSessionParams := fields.responderSessionParams }

def decode (bytes : Octets) : Except Error Sigma2Resume :=
  decodeMessage (messageMember bytes (some sigma2ResumeSessionParamsTag) scalar captured) {}
    ofFields bytes

end Sigma2Resume

structure Sigma3 where
  encrypted : Bytes
  deriving DecidableEq

namespace Sigma3

def encode (message : Sigma3) : Except Error Bytes :=
  written do
    startStructure .anonymous
    putVec (.context 1) message.encrypted
    endContainer

def scalar (encrypted : Option Bytes) (tag : Tag) (value : ValueRef) :
    Except Error (Option Bytes) :=
  match tag, value with
  | .context 1, .bytes octets => .ok (some octets.bytes)
  | _, _ => .ok encrypted

def decode (bytes : Octets) : Except Error Sigma3 :=
  decodeMessage (messageMember bytes none scalar fun encrypted _ => encrypted) none
    (fun encrypted => (orInvalid encrypted).map Sigma3.mk) bytes

end Sigma3

end Matter.Case
