import Matter.Base.Exits
import Matter.Base.LittleEndian

/-! The bodies of bulk data exchange messages. All integers are little-endian;
metadata is passed through. -/
namespace Matter.Bdx
open LittleEndian Exits

inductive BdxError where
  | truncated
  deriving DecidableEq, Repr

/-- A cursor over what is left of a body. -/
abbrev ReaderM := EStateM BdxError Bytes

def take (n : Nat) : ReaderM Bytes := fun rest =>
  if n ≤ rest.length then .ok (rest.take n) (rest.drop n) else .error .truncated rest

def readLe (n : Nat) : ReaderM Nat := do return decode (← take n)

def rest : ReaderM Bytes := fun bytes => .ok bytes []

def parse {α : Type} (m : ReaderM α) (body : Bytes) : Except BdxError α :=
  match m.run body with
  | .ok a _ => .ok a
  | .error e _ => .error e

/-- Flags in the high bits of the transfer control octet. -/
structure TransferControl where
  bits : UInt8
  deriving DecidableEq, Repr

namespace TransferControl

def receiverDrive : TransferControl := ⟨0x20⟩

def contains (control other : TransferControl) : Bool := control.bits &&& other.bits == other.bits

end TransferControl

def versionMask : UInt8 := 0x0f

def bdxVersion : UInt8 := 0

/-! The range: an offset and a length, each there unless it is zero. -/

def defLen : UInt8 := 0x01
def startOffsetFlag : UInt8 := 0x02
def wideRange : UInt8 := 0x10

def isWide (startOffset length : UInt64) : Bool :=
  startOffset.toNat > 0xffffffff || length.toNat > 0xffffffff

def rangeControl (startOffset length : UInt64) : UInt8 :=
  (if length > 0 then defLen else 0) ||| (if startOffset > 0 then startOffsetFlag else 0) |||
    (if isWide startOffset length then wideRange else 0)

/-- `put_range_value`, left out for zero. -/
def putRangeValue (value : UInt64) (wide : Bool) : Bytes :=
  if value > 0 then encode (if wide then 8 else 4) value.toNat else []

def readRangeValue (present wide : Bool) : ReaderM UInt64 := do
  if present then return UInt64.ofNat (← readLe (if wide then 8 else 4)) else return 0

/-- `SendInit` and `ReceiveInit`. -/
structure TransferInit where
  control : TransferControl
  version : UInt8
  maxBlockSize : UInt16
  startOffset : UInt64
  maxLength : UInt64
  fileDesignator : Bytes
  metadata : Bytes
  deriving DecidableEq, Repr

namespace TransferInit

def encode (init : TransferInit) : Bytes :=
  [(init.version &&& versionMask) ||| init.control.bits,
    rangeControl init.startOffset init.maxLength] ++
  LittleEndian.encode 2 init.maxBlockSize.toNat ++
  putRangeValue init.startOffset (isWide init.startOffset init.maxLength) ++
  putRangeValue init.maxLength (isWide init.startOffset init.maxLength) ++
  LittleEndian.encode 2 (min init.fileDesignator.length 0xffff) ++
  init.fileDesignator ++ init.metadata

def read : ReaderM TransferInit := do
  let ctl := UInt8.ofNat (← readLe 1)
  let range := UInt8.ofNat (← readLe 1)
  let maxBlockSize := UInt16.ofNat (← readLe 2)
  let wide := range &&& wideRange == wideRange
  let startOffset ← readRangeValue (range &&& startOffsetFlag == startOffsetFlag) wide
  let maxLength ← readRangeValue (range &&& defLen == defLen) wide
  let fileDesignator ← take (← readLe 2)
  let metadata ← rest
  return {
    control := ⟨ctl &&& ~~~versionMask⟩
    version := ctl &&& versionMask
    maxBlockSize, startOffset, maxLength, fileDesignator, metadata }

def decode (body : Bytes) : Except BdxError TransferInit := parse read body

end TransferInit

structure ReceiveAccept where
  control : TransferControl
  version : UInt8
  maxBlockSize : UInt16
  startOffset : UInt64
  length : UInt64
  metadata : Bytes
  deriving DecidableEq, Repr

def ReceiveAccept.encode (accept : ReceiveAccept) : Bytes :=
  [(accept.version &&& versionMask) ||| accept.control.bits,
    rangeControl accept.startOffset accept.length] ++
  LittleEndian.encode 2 accept.maxBlockSize.toNat ++
  putRangeValue accept.startOffset (isWide accept.startOffset accept.length) ++
  putRangeValue accept.length (isWide accept.startOffset accept.length) ++ accept.metadata

/-- `Block` and `BlockEOF`. -/
structure DataBlock where
  blockCounter : UInt32
  data : Bytes
  deriving DecidableEq, Repr

namespace DataBlock

def encode (block : DataBlock) : Bytes :=
  LittleEndian.encode 4 block.blockCounter.toNat ++ block.data

def read : ReaderM DataBlock := do
  let blockCounter := UInt32.ofNat (← readLe 4)
  let data ← rest
  return { blockCounter, data }

def decode (body : Bytes) : Except BdxError DataBlock := parse read body

end DataBlock

/-! What was encoded is read back. -/

theorem take_append (size : bytes.length = n) : (take n).run (bytes ++ tail) = .ok bytes tail := by
  subst size
  simp [take, EStateM.run]

theorem readLe_encode (fits : n < 256 ^ width) (tail : Bytes) :
    (readLe width).run (LittleEndian.encode width n ++ tail) = .ok n tail := by
  rw [readLe, run_bind_ok (take_append (length_encode width n)), decode_encode fits]
  rfl

theorem DataBlock.decode_encode (block : DataBlock) : decode block.encode = .ok block := by
  have counter : block.blockCounter.toNat < 256 ^ 4 := block.blockCounter.toNat_lt
  rw [decode, parse, encode, read, run_bind_ok (readLe_encode counter block.data), UInt32.ofNat_toNat]
  rfl

theorem readLe_byte (b : UInt8) (tail : Bytes) : (readLe 1).run (b :: tail) = .ok b.toNat tail := by
  rfl

theorem readRangeValue_put (there : present = decide (value > 0))
    (narrow : wide = false → value.toNat < 256 ^ 4) (tail : Bytes) :
    (readRangeValue present wide).run (putRangeValue value wide ++ tail) = .ok value tail := by
  subst there
  by_cases positive : value > 0
  · have fits : value.toNat < 256 ^ (if wide then 8 else 4) := by
      cases wide with
      | true => exact value.toNat_lt
      | false => exact narrow rfl
    rw [putRangeValue, if_pos positive, decide_eq_true positive, readRangeValue, if_pos rfl,
      run_bind_ok (readLe_encode fits tail), UInt64.ofNat_toNat]
    rfl
  · obtain rfl : value = 0 := by
      apply UInt64.toNat_inj.mp
      have zero : ¬ 0 < value.toNat := positive
      exact Nat.eq_zero_of_not_pos zero
    rfl

/-- The three range flags do not overlap. -/
theorem rangeControl_flags (startOffset length : UInt64) :
    (rangeControl startOffset length &&& wideRange == wideRange) = isWide startOffset length ∧
    (rangeControl startOffset length &&& startOffsetFlag == startOffsetFlag) =
      decide (startOffset > 0) ∧
    (rangeControl startOffset length &&& defLen == defLen) = decide (length > 0) := by
  unfold rangeControl
  by_cases offset : startOffset > 0 <;> by_cases definite : length > 0 <;>
    cases isWide startOffset length <;> simp only [offset, definite, if_true, if_false] <;> decide

theorem or_and_distrib (a b mask : UInt8) : (a ||| b) &&& mask = (a &&& mask) ||| (b &&& mask) := by
  apply UInt8.toBitVec_inj.mp
  ext i bound
  simp only [UInt8.toBitVec_and, UInt8.toBitVec_or, BitVec.getElem_and, BitVec.getElem_or,
    Bool.and_or_distrib_right]

theorem masked_or_rest (a mask : UInt8) : (a &&& mask) ||| (a &&& ~~~mask) = a := by
  apply UInt8.toBitVec_inj.mp
  ext i bound
  simp only [UInt8.toBitVec_and, UInt8.toBitVec_or, UInt8.toBitVec_not, BitVec.getElem_and,
    BitVec.getElem_or, BitVec.getElem_not]
  cases a.toBitVec[i] <;> simp

/-- The control octet gives both of its parts back. -/
theorem control_octet (control : bits &&& versionMask = 0)
    (small : version &&& versionMask = version) :
    ((version &&& versionMask) ||| bits) &&& ~~~versionMask = bits ∧
    ((version &&& versionMask) ||| bits) &&& versionMask = version := by
  constructor
  · calc ((version &&& versionMask) ||| bits) &&& ~~~versionMask
        = (bits &&& versionMask) ||| (bits &&& ~~~versionMask) := by
          rw [or_and_distrib, UInt8.and_assoc, UInt8.and_not_self, UInt8.and_zero, control]
      _ = bits := masked_or_rest bits versionMask
  · rw [or_and_distrib, control, UInt8.or_zero, UInt8.and_assoc, UInt8.and_self, small]

/-- A proposal with flags above the version is read as it was made. -/
theorem TransferInit.proposal_round_trip (control : init.control.bits &&& versionMask = 0)
    (version : init.version &&& versionMask = init.version)
    (designator : init.fileDesignator.length ≤ 0xffff) : decode init.encode = .ok init := by
  have size : init.maxBlockSize.toNat < 256 ^ 2 := init.maxBlockSize.toNat_lt
  have count : min init.fileDesignator.length 0xffff < 256 ^ 2 := by omega
  have same : min init.fileDesignator.length 0xffff = init.fileDesignator.length := by omega
  obtain ⟨wide, offset, definite⟩ := rangeControl_flags init.startOffset init.maxLength
  have narrow : isWide init.startOffset init.maxLength = false →
      init.startOffset.toNat < 256 ^ 4 ∧ init.maxLength.toNat < 256 ^ 4 := by
    intro narrow
    simp only [isWide, Bool.or_eq_false_iff, decide_eq_false_iff_not] at narrow
    omega
  obtain ⟨flags, low⟩ := control_octet control version
  rw [decode, parse, encode, read]
  simp only [List.cons_append, List.nil_append, List.append_assoc]
  rw [run_bind_ok (readLe_byte _ _), run_bind_ok (readLe_byte _ _),
    run_bind_ok (readLe_encode size _)]
  simp only [UInt8.ofNat_toNat, UInt16.ofNat_toNat]
  rw [wide, run_bind_ok (readRangeValue_put offset (fun n => (narrow n).1) _),
    run_bind_ok (readRangeValue_put definite (fun n => (narrow n).2) _),
    run_bind_ok (readLe_encode count _), run_bind_ok (take_append same.symm), flags, low]
  rfl

theorem TransferInit.proposal_round_trip_wide :
    let init : TransferInit := ⟨⟨0x20⟩, 0, 1024, 0, 4294967296, [0x66], []⟩
    decode init.encode = .ok init :=
  proposal_round_trip (by decide) (by decide) (by decide)

end Matter.Bdx
