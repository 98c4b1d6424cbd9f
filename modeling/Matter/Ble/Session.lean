import Matter.Base.Exits

/-! The sans-IO BTP session engine of `matter-ble`: receive reassembly,
acknowledgement generation, transmit segmentation and flow control. Sequence
numbers and windows keep their eight-bit arithmetic; instants and durations are
milliseconds. Every method is the source method, including what it has already
written to the session when it returns an error. -/
namespace Matter.Ble
open Exits

abbrev Instant := Nat
abbrev Bytes := List UInt8

def ackSendTimeout : Nat := 2500
def ackTimeout : Nat := 15000
def immediateAckThreshold : UInt8 := 1
def windowNoAckSendThreshold : UInt8 := 1
def rxReassemblyCap : Nat := 2048
def minSegmentSize : UInt16 := 6

def flagStart : UInt8 := 0x01
def flagContinue : UInt8 := 0x02
def flagEnd : UInt8 := 0x04
def flagAck : UInt8 := 0x08

inductive Role where
  | central
  | peripheral
  deriving DecidableEq, Repr

/-- The variants of `BtpError` that the session engine returns. -/
inductive BtpError where
  | invalidSequence (expected got : UInt8)
  | invalidAck (ack : UInt8)
  | reassemblerInvalidState
  | messageInFlight
  | reassemblyOverflow
  | packetTooShort
  | ackTimedOut
  deriving DecidableEq, Repr

structure BtpSession where
  role : Role
  segmentSize : UInt16
  localWindowMax : UInt8
  localWindow : UInt8
  rxNextSeq : UInt8
  rxBuf : Bytes
  rxExpectedLen : Option UInt16
  unackedRx : Option UInt8
  ackDueAt : Option Instant
  txNextSeq : UInt8
  txOldestUnacked : UInt8
  txNewestUnacked : UInt8
  expectingAck : Bool
  txUnackedSince : Option Instant
  remoteWindow : UInt8
  txPending : Option Bytes
  txSent : Nat
  gattInFlight : Bool
  deriving DecidableEq, Repr

def saturatingSub (a b : UInt8) : UInt8 := if b ≤ a then a - b else 0

theorem saturatingSub_toNat (a b : UInt8) : (saturatingSub a b).toNat = a.toNat - b.toNat := by
  unfold saturatingSub
  split
  · rename_i le
    exact UInt8.toNat_sub_of_le _ _ le
  · rename_i lt
    have := UInt8.le_iff_toNat_le.not.mp lt
    simp only [UInt8.toNat_zero]
    omega

namespace BtpSession

def new (role : Role) (segmentSize : UInt16) (window : UInt8) (now : Instant) : BtpSession :=
  let segmentSize := max segmentSize minSegmentSize
  let window := max window 1
  match role with
  | .central =>
    { role, segmentSize
      localWindowMax := window
      localWindow := saturatingSub window 1
      rxNextSeq := 1
      rxBuf := []
      rxExpectedLen := none
      unackedRx := some 0
      ackDueAt := some (now + ackSendTimeout)
      txNextSeq := 0
      txOldestUnacked := 0
      txNewestUnacked := 0
      expectingAck := false
      txUnackedSince := none
      remoteWindow := window
      txPending := none
      txSent := 0
      gattInFlight := false }
  | .peripheral =>
    { role, segmentSize
      localWindowMax := window
      localWindow := window
      rxNextSeq := 0
      rxBuf := []
      rxExpectedLen := none
      unackedRx := none
      ackDueAt := none
      txNextSeq := 1
      txOldestUnacked := 0
      txNewestUnacked := 0
      expectingAck := true
      txUnackedSince := some now
      remoteWindow := window
      txPending := none
      txSent := 0
      gattInFlight := false }

end BtpSession

abbrev BtpM := EStateM BtpError BtpSession

/-- `*packet.get(i).ok_or(PacketTooShort)?`. -/
def byteAt (packet : Bytes) (i : Nat) : BtpM UInt8 :=
  match packet[i]? with
  | some b => pure b
  | none => throw .packetTooShort

namespace BtpSession

/-- The wrap correction subtracts `newest + u8::MAX`, as the source does. -/
def adjustRemoteWindow (s : BtpSession) (ack : UInt8) : UInt8 :=
  let boundary := ack.toUInt16 + s.localWindowMax.toUInt16
  let newest := s.txNewestUnacked.toUInt16
  let credit :=
    if boundary > 255 ∧ newest < ack.toUInt16 then boundary - (newest + 255)
    else boundary - newest
  (credit &&& 0xff).toUInt8

/-- The outstanding interval test of `receive_ack`, which may wrap past 255. -/
def validAck (s : BtpSession) (ack : UInt8) : Bool :=
  if s.txNewestUnacked ≥ s.txOldestUnacked then
    ack ≤ s.txNewestUnacked && ack ≥ s.txOldestUnacked
  else
    ack ≤ s.txNewestUnacked || ack ≥ s.txOldestUnacked

def receiveAck (ack : UInt8) : BtpM Unit := do
  let s ← get
  if !s.expectingAck then throw (.invalidAck ack)
  else if !s.validAck ack then throw (.invalidAck ack)
  else if s.txNewestUnacked = ack then
    set { s with
      txOldestUnacked := ack, expectingAck := false, txUnackedSince := none
      remoteWindow := s.adjustRemoteWindow ack }
  else
    set { s with txOldestUnacked := ack + 1, remoteWindow := s.adjustRemoteWindow ack }

def armAckTimer (s : BtpSession) (now : Instant) : BtpSession :=
  let candidate :=
    if s.localWindow ≤ immediateAckThreshold then now else now + ackSendTimeout
  { s with ackDueAt := some (match s.ackDueAt with
      | some existing => min existing candidate
      | none => candidate) }

/-- Debit the local window, owe `seq` and arm the send-ack timer: the three
lines both arms of `on_indication` share. -/
def oweAck (s : BtpSession) (seq : UInt8) (now : Instant) : BtpSession :=
  armAckTimer { s with localWindow := saturatingSub s.localWindow 1, unackedRx := some seq } now

/-- The reassembly step of `on_indication`, `idx` being the payload offset. -/
def reassemble (flags : UInt8) (packet : Bytes) (idx : Nat) : BtpM Unit := do
  let s ← get
  let beginning := flags &&& flagStart ≠ 0
  let ending := flags &&& flagEnd ≠ 0
  let continuing := flags &&& flagContinue ≠ 0
  if s.rxExpectedLen.isSome then
    if beginning ∨ ¬ (continuing ∨ ending) then throw .reassemblerInvalidState
    else if s.rxBuf.length + (packet.drop idx).length > rxReassemblyCap then
      throw .reassemblyOverflow
    else set { s with rxBuf := s.rxBuf ++ packet.drop idx }
  else if ¬ beginning then throw .reassemblerInvalidState
  else
    let lo ← byteAt packet idx
    let hi ← byteAt packet (idx + 1)
    let msgLen := lo.toUInt16 + hi.toUInt16 * 256
    if msgLen.toNat > rxReassemblyCap then throw .reassemblyOverflow
    else set { s with rxExpectedLen := some msgLen, rxBuf := packet.drop (idx + 2) }

/-- The End-fragment part of `on_indication`: trim padding, check completeness
and hand the message over. -/
def takeMessage : BtpM (Option Bytes) := do
  let s ← get
  let expected := (s.rxExpectedLen.getD 0).toNat
  set { s with rxExpectedLen := none }
  if s.rxBuf.length < expected then throw .reassemblerInvalidState
  else
    set { s with rxExpectedLen := none, rxBuf := [] }
    return some (s.rxBuf.take expected)

/-- The part of `on_indication` that follows the acknowledgement field. -/
def receiveFragment (flags : UInt8) (packet : Bytes) (idx : Nat) (now : Instant) :
    BtpM (Option Bytes) := do
  let seq ← byteAt packet idx
  let s ← get
  if seq ≠ s.rxNextSeq then throw (.invalidSequence s.rxNextSeq seq)
  else
    modify fun s => { s with rxNextSeq := s.rxNextSeq + 1 }
    if flags &&& (flagStart ||| flagContinue ||| flagEnd) = 0 then
      modify fun s => s.oweAck seq now
      return none
    else
      reassemble flags packet (idx + 1)
      modify fun s => s.oweAck seq now
      if flags &&& flagEnd = 0 then return none
      else takeMessage

def onIndication (packet : Bytes) (now : Instant) : BtpM (Option Bytes) := do
  let s ← get
  let packet := packet.take s.segmentSize.toNat
  let flags ← byteAt packet 0
  if flags &&& flagAck ≠ 0 then
    let ack ← byteAt packet 1
    receiveAck ack
    receiveFragment flags packet 2 now
  else
    receiveFragment flags packet 1 now

def registerOutboundSeq (s : BtpSession) (seq : UInt8) (now : Instant) : BtpSession :=
  let s := if s.expectingAck then s else
    { s with expectingAck := true, txOldestUnacked := seq, txUnackedSince := some now }
  { s with txNewestUnacked := seq, txNextSeq := s.txNextSeq + 1 }

def queueMessage (sdu : Bytes) : BtpM Unit := do
  let s ← get
  if s.txPending.isSome then throw .messageInFlight
  else if sdu.length > 65535 then throw .reassemblyOverflow
  else set { s with txPending := some sdu, txSent := 0 }

/-- `u16::to_le_bytes`. -/
def leBytes16 (n : Nat) : Bytes := [UInt8.ofNat n, UInt8.ofNat (n / 256)]

def headerLen (s : BtpSession) : Nat :=
  1 + (if s.unackedRx.isSome then 1 else 0) + 1 + (if s.txSent = 0 then 2 else 0)

/-- The number of payload bytes of the next fragment, and whether it is the last. -/
def nextShare (s : BtpSession) (msg : Bytes) : Nat × Bool :=
  let segment := s.segmentSize.toNat
  let remaining := msg.length - s.txSent
  if remaining + s.headerLen ≤ segment then (remaining, true) else (segment - s.headerLen, false)

/-- The fragment `next_gatt_write` builds for `msg`. -/
def nextFragment (s : BtpSession) (msg : Bytes) : Bytes :=
  let first := s.txSent = 0
  let (payloadLen, ending) := s.nextShare msg
  let payload := (msg.drop s.txSent).take payloadLen
  let flags := if first then flagStart else flagContinue
  let flags := if ending then flags ||| flagEnd else flags
  let flags := if s.unackedRx.isSome then flags ||| flagAck else flags
  flags :: s.unackedRx.toList ++ [s.txNextSeq] ++
    (if first then leBytes16 (min msg.length 65535) else []) ++ payload

/-- Sequence registration, window debit and GATT latch: the bookkeeping a data
fragment and a standalone acknowledgement share. -/
def depart (s : BtpSession) (now : Instant) : BtpSession :=
  let s := s.registerOutboundSeq s.txNextSeq now
  { s with remoteWindow := saturatingSub s.remoteWindow 1, gattInFlight := true }

/-- Settle the owed acknowledgement that the departing packet carries. -/
def piggyback (s : BtpSession) : BtpSession :=
  if s.unackedRx.isSome then
    { s with unackedRx := none, ackDueAt := none, localWindow := s.localWindowMax }
  else s

/-- Move the fragmenter past a departed fragment, back to idle after the last. -/
def advance (s : BtpSession) (payloadLen : Nat) (ending : Bool) : BtpSession :=
  if ending then { s with txPending := none, txSent := 0 }
  else { s with txSent := s.txSent + payloadLen }

def nextGattWrite (s : BtpSession) (now : Instant) : Option Bytes × BtpSession :=
  if s.gattInFlight then (none, s) else
  match s.txPending with
  | none => (none, s)
  | some msg =>
    if s.remoteWindow = 0 then (none, s)
    else if s.remoteWindow ≤ windowNoAckSendThreshold ∧ !s.unackedRx.isSome then (none, s)
    else
      let (payloadLen, ending) := s.nextShare msg
      (some (s.nextFragment msg), (s.piggyback.depart now).advance payloadLen ending)

def gattWriteCompleted (s : BtpSession) (_now : Instant) : BtpSession :=
  { s with gattInFlight := false }

/-- An outstanding fragment has gone unacknowledged for 15 s. -/
def ackOverdue (s : BtpSession) (now : Instant) : Bool :=
  s.expectingAck && s.txUnackedSince.any fun since => now ≥ since + ackTimeout

def handleTimeout (now : Instant) : BtpM (Option Bytes) := do
  let s ← get
  if s.ackOverdue now then throw .ackTimedOut
  else if s.ackDueAt.any fun due => now ≥ due then
    match s.unackedRx with
    | none =>
      set { s with ackDueAt := none }
      return none
    | some ackNum =>
      if s.gattInFlight ∨ s.remoteWindow = 0 then return none
      else
        set (s.piggyback.depart now)
        return some [flagAck, ackNum, s.txNextSeq]
  else return none

end BtpSession
end Matter.Ble
