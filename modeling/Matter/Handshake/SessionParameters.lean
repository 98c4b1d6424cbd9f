import Matter.Handshake.Fields

/-! The optional capability structure of session establishment. What a peer sends
beyond the seven known fields is skipped, and values too large for a field are
taken as its greatest. -/
namespace Matter.Handshake
open Codec hiding Error
open TlvReader TlvWriter

structure SessionParameters where
  sessionIdleIntervalMs : Option UInt32 := none
  sessionActiveIntervalMs : Option UInt32 := none
  sessionActiveThresholdMs : Option UInt16 := none
  dataModelRevision : Option UInt16 := none
  interactionModelRevision : Option UInt16 := none
  specificationVersion : Option UInt32 := none
  maxPathsPerInvoke : Option UInt16 := none
  deriving DecidableEq

def saturateU32 (v : UInt64) : UInt32 := (Wire.toU32? v).getD 0xffffffff

def saturateU16 (v : UInt64) : UInt16 := (Wire.toU16? v).getD 0xffff

namespace SessionParameters

def isEmpty (params : SessionParameters) : Bool := params = {}

def encode (params : SessionParameters) (contextTag : UInt8) : Except Error Bytes :=
  written do
    startStructure (.context contextTag)
    params.sessionIdleIntervalMs.forM fun v => putUint (.context 1) v.toUInt64
    params.sessionActiveIntervalMs.forM fun v => putUint (.context 2) v.toUInt64
    params.sessionActiveThresholdMs.forM fun v => putUint (.context 3) v.toUInt64
    params.dataModelRevision.forM fun v => putUint (.context 4) v.toUInt64
    params.interactionModelRevision.forM fun v => putUint (.context 5) v.toUInt64
    params.specificationVersion.forM fun v => putUint (.context 6) v.toUInt64
    params.maxPathsPerInvoke.forM fun v => putUint (.context 7) v.toUInt64
    endContainer

def scalar (params : SessionParameters) (tag : Tag) (value : ValueRef) : SessionParameters :=
  match tag, value with
  | .context 1, .uint v => { params with sessionIdleIntervalMs := some (saturateU32 v) }
  | .context 2, .uint v => { params with sessionActiveIntervalMs := some (saturateU32 v) }
  | .context 3, .uint v => { params with sessionActiveThresholdMs := some (saturateU16 v) }
  | .context 4, .uint v => { params with dataModelRevision := some (saturateU16 v) }
  | .context 5, .uint v => { params with interactionModelRevision := some (saturateU16 v) }
  | .context 6, .uint v => { params with specificationVersion := some (saturateU32 v) }
  | .context 7, .uint v => { params with maxPathsPerInvoke := some (saturateU16 v) }
  | _, _ => params

/-- The state has the number of containers open inside the structure. -/
def element : Nat × SessionParameters → ElementRef →
    FieldsM (Flow (Nat × SessionParameters) SessionParameters)
  | (depth, params), .containerStart _ _ => return .again (depth + 1, params)
  | (depth, params), .containerEnd =>
    return if depth = 0 then .leave params else .again (depth - 1, params)
  | (depth, params), .scalar tag value =>
    return .again (depth, if depth = 0 then params.scalar tag value else params)

def decode (bytes : Octets) : Except Error SessionParameters :=
  parseWhole (do
    match ← nextElement .codec .invalidParameter with
    | .containerStart (.context _) .struct => elements .codec .invalidParameter element (0, {})
    | _ => throw .invalidParameter) bytes

end SessionParameters

end Matter.Handshake
