import Matter.Base.Logs
import Matter.Bdx.Messages

/-! The sender of a receiver-driven transfer. It serves an image block by block,
each on a query that names the next block counter, and ends on the
acknowledgement of the block marked as the last. -/
namespace Matter.Bdx
open Runs Logs

inductive MessageType where
  | receiveAccept
  | block
  | blockEof
  deriving DecidableEq, Repr

inductive BdxStatusCode where
  | badBlockCounter
  | unexpectedMessage
  | transferMethodNotSupported
  deriving DecidableEq, Repr

structure OutgoingMessage where
  messageType : MessageType
  payload : Bytes
  deriving DecidableEq, Repr

inductive SenderOutcome where
  | send (message : OutgoingMessage)
  | done
  | abort (code : BdxStatusCode)
  deriving DecidableEq, Repr

inductive State where
  | awaitingInit
  | sending
  | awaitingEofAck
  | complete
  | aborted
  deriving DecidableEq, Repr

structure BlockSender where
  image : Bytes
  maxBlockSize : UInt16
  offset : Nat
  nextBlockCounter : UInt32
  lastBlockCounter : UInt32
  state : State
  within : offset ≤ image.length

open BlockSender

inductive Received where
  | receiveInit (init : TransferInit)
  | blockQuery (blockCounter : UInt32)
  | blockAckEof (blockCounter : UInt32)
  deriving DecidableEq, Repr

namespace BlockSender

/-- `from_shared`; `new` differs in copying the image. -/
def fromShared (image : Bytes) (maxBlockSize : UInt16) : BlockSender :=
  { image, maxBlockSize, offset := 0, nextBlockCounter := 0, lastBlockCounter := 0,
    state := .awaitingInit, within := Nat.zero_le _ }

def abort (s : BlockSender) (code : BdxStatusCode) : SenderOutcome × BlockSender :=
  (.abort code, { s with state := .aborted })

/-- The proposed offset and length are not looked at. -/
def acceptReceiveInit (s : BlockSender) (init : TransferInit) : SenderOutcome × BlockSender :=
  if s.state ≠ .awaitingInit then s.abort .unexpectedMessage
  else if !init.control.contains .receiverDrive then s.abort .transferMethodNotSupported
  else
    let negotiated := min init.maxBlockSize s.maxBlockSize
    let accept : ReceiveAccept := {
      control := .receiverDrive
      version := bdxVersion
      maxBlockSize := negotiated
      startOffset := 0
      length := UInt64.ofNat (min s.image.length (2 ^ 64 - 1))
      metadata := [] }
    (.send ⟨.receiveAccept, accept.encode⟩,
      { s with maxBlockSize := negotiated, state := .sending })

/-- Where the block that starts at the offset ends. -/
def blockEnd (s : BlockSender) : Nat := min (s.offset + s.maxBlockSize.toNat) s.image.length

def nextBlock (s : BlockSender) : DataBlock :=
  { blockCounter := s.nextBlockCounter
    data := (s.image.drop s.offset).take (s.blockEnd - s.offset) }

def handleBlockQuery (s : BlockSender) (blockCounter : UInt32) : SenderOutcome × BlockSender :=
  if s.state ≠ .sending then s.abort .unexpectedMessage
  else if blockCounter ≠ s.nextBlockCounter then s.abort .badBlockCounter
  else
    let isEof := s.blockEnd = s.image.length
    (.send ⟨if isEof then .blockEof else .block, s.nextBlock.encode⟩,
      { s with
        offset := s.blockEnd
        lastBlockCounter := s.nextBlockCounter
        nextBlockCounter := s.nextBlockCounter + 1
        state := if isEof then .awaitingEofAck else s.state
        within := Nat.min_le_right _ _ })

def handleBlockAckEof (s : BlockSender) (blockCounter : UInt32) : SenderOutcome × BlockSender :=
  if s.state ≠ .awaitingEofAck then s.abort .unexpectedMessage
  else if blockCounter ≠ s.lastBlockCounter then s.abort .badBlockCounter
  else (.done, { s with state := .complete })

def answer (s : BlockSender) : Received → SenderOutcome × BlockSender
  | .receiveInit init => s.acceptReceiveInit init
  | .blockQuery blockCounter => s.handleBlockQuery blockCounter
  | .blockAckEof blockCounter => s.handleBlockAckEof blockCounter

def step (s : BlockSender) (message : Received) : BlockSender := (s.answer message).2

def outcome (s : BlockSender) (message : Received) : SenderOutcome := (s.answer message).1

def event (s : BlockSender) (message : Received) : Received × SenderOutcome :=
  (message, s.outcome message)

/-- Everything a sender past the negotiation can do. -/
theorem answer_cases {s : BlockSender} (started : s.state ≠ .awaitingInit) (message : Received) :
    (∃ code, s.answer message = (.abort code, { s with state := .aborted })) ∨
    (message = .blockQuery s.nextBlockCounter ∧ s.state = .sending ∧ s.answer message =
      (.send ⟨if s.blockEnd = s.image.length then .blockEof else .block, s.nextBlock.encode⟩,
        { s with
          offset := s.blockEnd
          lastBlockCounter := s.nextBlockCounter
          nextBlockCounter := s.nextBlockCounter + 1
          state := if s.blockEnd = s.image.length then .awaitingEofAck else .sending
          within := Nat.min_le_right _ _ })) ∨
    (message = .blockAckEof s.lastBlockCounter ∧ s.state = .awaitingEofAck ∧
      s.answer message = (.done, { s with state := .complete })) := by
  cases message with
  | receiveInit init =>
    left
    refine ⟨.unexpectedMessage, ?_⟩
    rw [answer, acceptReceiveInit, if_pos started]
    rfl
  | blockQuery blockCounter =>
    rw [answer, handleBlockQuery]
    by_cases sending : s.state = .sending
    · rw [if_neg (not_not_intro sending)]
      by_cases expected : blockCounter = s.nextBlockCounter
      · rw [if_neg (not_not_intro expected)]
        exact .inr (.inl ⟨by rw [expected], sending, by simp only [sending]⟩)
      · rw [if_pos expected]
        exact .inl ⟨_, rfl⟩
    · rw [if_pos sending]
      exact .inl ⟨_, rfl⟩
  | blockAckEof blockCounter =>
    rw [answer, handleBlockAckEof]
    by_cases awaiting : s.state = .awaitingEofAck
    · rw [if_neg (not_not_intro awaiting)]
      by_cases expected : blockCounter = s.lastBlockCounter
      · rw [if_neg (not_not_intro expected)]
        exact .inr (.inr ⟨by rw [expected], awaiting, rfl⟩)
      · rw [if_pos expected]
        exact .inl ⟨_, rfl⟩
    · rw [if_pos awaiting]
      exact .inl ⟨_, rfl⟩

end BlockSender

structure Sent where
  isEof : Bool
  block : DataBlock

def SenderOutcome.sent : SenderOutcome → Option Sent
  | .send ⟨.block, payload⟩ => (DataBlock.decode payload).toOption.map (Sent.mk false)
  | .send ⟨.blockEof, payload⟩ => (DataBlock.decode payload).toOption.map (Sent.mk true)
  | _ => none

abbrev History := List (Received × SenderOutcome)

def blocks (l : History) : List Sent := l.filterMap (·.2.sent)

def content (sent : List Sent) : Bytes := sent.flatMap (·.block.data)

/-- What the receiver is owed at any time. -/
structure Delivers (image : Bytes) (size : Nat) (l : History) : Prop where
  inOrder : content (blocks l) <+: image
  numbered : (blocks l).map (·.block.blockCounter.toNat) = List.range (blocks l).length
  bounded : ∀ b ∈ blocks l, b.block.data.length ≤ size
  marked : ∀ earlier b later, blocks l = earlier ++ b :: later →
    (b.isEof = true ↔ content (earlier ++ [b]) = image)
  done : ∀ earlier message later, l = earlier ++ (message, .done) :: later →
    content (blocks earlier) = image ∧
      ∃ b, (blocks earlier).getLast? = some b ∧ message = .blockAckEof b.block.blockCounter
  silent : ∀ earlier message code later, l = earlier ++ (message, .abort code) :: later →
    ∀ e ∈ later, ∀ out, e.2 ≠ .send out

/-- The first `n` queries of a receiver that follows the protocol. -/
def queries (n : Nat) : List Received := (List.range n).map fun i => .blockQuery (UInt32.ofNat i)

/-- Such a receiver is sent the end of the image. -/
def Ends (s : BlockSender) : Prop :=
  ∃ n ≤ s.image.length, ∃ payload,
    (run BlockSender.step s (queries n)).outcome (.blockQuery (UInt32.ofNat n)) =
      .send ⟨.blockEof, payload⟩

/-- The block size lets the image through in as many blocks as there are
counters. -/
def Servable (image : Bytes) (size : Nat) : Prop :=
  image = [] ∨ 0 < size ∧ image.length ≤ size * 2 ^ 32

theorem sent_block (block : DataBlock) (isEof : Prop) [Decidable isEof] :
    SenderOutcome.sent (.send ⟨if isEof then .blockEof else .block, block.encode⟩) =
      some ⟨decide isEof, block⟩ := by
  by_cases last : isEof <;> simp [last, SenderOutcome.sent, DataBlock.decode_encode, Except.toOption]

theorem blocks_concat (l : History) (e : Received × SenderOutcome) :
    blocks (l ++ [e]) = blocks l ++ e.2.sent.toList := by
  cases answered : e.2.sent with
  | none | some b => simp [answered, blocks]

theorem content_concat (sent : List Sent) (b : Sent) :
    content (sent ++ [b]) = content sent ++ b.block.data := by
  simp [content]

/-- A split of a list with one more element is a split of the list, or at the
new element. -/
theorem concat_split (split : l ++ [a] = earlier ++ b :: later) :
    (∃ rest, later = rest ++ [a] ∧ l = earlier ++ b :: rest) ∨ (later = [] ∧ b = a ∧ earlier = l) := by
  rcases List.eq_nil_or_concat later with rfl | ⟨rest, last, rfl⟩
  · obtain ⟨same, tail⟩ := List.append_inj' split rfl
    exact .inr ⟨rfl, (List.cons.inj tail).1.symm, same.symm⟩
  · rw [List.concat_eq_append] at *
    rw [← List.cons_append, ← List.append_assoc] at split
    obtain ⟨same, tail⟩ := List.append_inj' split rfl
    obtain rfl := (List.cons.inj tail).1
    exact .inl ⟨rest, by simp, same⟩

/-- Where the sender is after the given blocks, which are numbered modulo the
width of the counter. -/
structure Position (image : Bytes) (size : Nat) (sent : List Sent) (s : BlockSender) : Prop where
  ofImage : s.image = image
  ofSize : s.maxBlockSize.toNat = size
  started : s.state ≠ .awaitingInit
  soFar : content sent = image.take s.offset
  next : s.nextBlockCounter = UInt32.ofNat sent.length
  counters : sent.map (·.block.blockCounter) = (List.range sent.length).map UInt32.ofNat
  bounded : ∀ b ∈ sent, b.block.data.length ≤ size
  marked : ∀ earlier b later, sent = earlier ++ b :: later →
    (b.isEof = true ↔ content (earlier ++ [b]) = image)
  sending : s.state = .sending →
    s.offset = size * sent.length ∧ (sent = [] ∨ s.offset < image.length)
  few : sent.length ≤ 1 ∨ size * (sent.length - 1) < image.length
  awaiting : s.state = .awaitingEofAck → s.offset = image.length ∧
    ∃ b, sent.getLast? = some b ∧ b.block.blockCounter = s.lastBlockCounter

namespace Position
variable {image : Bytes} {size : Nat} {sent : List Sent} {s : BlockSender}

theorem leave (position : Position image size sent s)
    (past : after ≠ .awaitingInit ∧ after ≠ .sending ∧ after ≠ .awaitingEofAck) :
    Position image size sent { s with state := after } :=
  { position with
    started := past.1
    sending := fun here => absurd here past.2.1
    awaiting := fun here => absurd here past.2.2 }

theorem length_nextBlock (s : BlockSender) : s.nextBlock.data.length = s.blockEnd - s.offset := by
  rw [nextBlock, List.length_take, List.length_drop, blockEnd]
  omega

theorem take_blockEnd (s : BlockSender) :
    s.image.take s.offset ++ s.nextBlock.data = s.image.take s.blockEnd := by
  have forward : s.offset ≤ s.blockEnd := by
    have within := s.within
    rw [blockEnd]
    omega
  have split : s.blockEnd = s.offset + (s.blockEnd - s.offset) := by omega
  rw [nextBlock, split, List.take_add]
  simp

theorem serve (position : Position image size sent s) (sending : s.state = .sending) :
    Position image size (sent ++ [⟨decide (s.blockEnd = s.image.length), s.nextBlock⟩])
      { s with
        offset := s.blockEnd
        lastBlockCounter := s.nextBlockCounter
        nextBlockCounter := s.nextBlockCounter + 1
        state := if s.blockEnd = s.image.length then .awaitingEofAck else .sending
        within := Nat.min_le_right _ _ } := by
  obtain ⟨reached, short⟩ := position.sending sending
  have whole : content (sent ++ [⟨decide (s.blockEnd = s.image.length), s.nextBlock⟩]) =
      image.take s.blockEnd := by
    rw [content_concat, position.soFar, ← position.ofImage, take_blockEnd]
  have size' : s.blockEnd = min (s.offset + size) image.length := by
    rw [blockEnd, position.ofSize, position.ofImage]
  constructor
  · exact position.ofImage
  · exact position.ofSize
  · simp only
    split <;> decide
  · exact whole
  · simp only [List.length_append, List.length_singleton, position.next]
    rw [UInt32.ofNat_add]
    rfl
  · simp only [List.map_append, List.map_singleton, List.length_append, List.length_singleton,
      List.range_succ, position.counters]
    rw [nextBlock, position.next]
  · intro b mem
    rcases List.mem_append.mp mem with before | now
    · exact position.bounded b before
    · obtain rfl := List.mem_singleton.mp now
      rw [length_nextBlock]
      omega
  · intro earlier b later split
    rcases concat_split split with ⟨rest, _, inner⟩ | ⟨_, rfl, rfl⟩
    · exact position.marked earlier b rest inner
    · rw [whole, decide_eq_true_iff, position.ofImage]
      constructor
      · intro last
        rw [last, List.take_length]
      · intro all
        have lengths := congrArg List.length all
        rw [List.length_take] at lengths
        omega
  · intro still
    simp only [position.ofImage] at still ⊢
    split at still
    · cases still
    · rw [List.length_append, List.length_singleton, Nat.mul_add]
      omega
  · rw [List.length_append, List.length_singleton, Nat.add_sub_cancel, ← reached]
    rcases short with rfl | short
    · exact .inl (by simp)
    · exact .inr short
  · intro last
    simp only at last ⊢
    split at last
    · rename_i ends
      exact ⟨by rw [ends, position.ofImage], _, List.getLast?_concat, rfl⟩
    · cases last

end Position

/-- What a history says about the sender it led to. -/
structure Tracks (image : Bytes) (size : Nat) (l : History) (s : BlockSender) : Prop where
  position : Position image size (blocks l) s
  done : ∀ earlier message later, l = earlier ++ (message, .done) :: later →
    content (blocks earlier) = image ∧
      ∃ b, (blocks earlier).getLast? = some b ∧ message = .blockAckEof b.block.blockCounter
  aborted : ∀ e ∈ l, ∀ code, e.2 = .abort code → s.state = .aborted
  silent : ∀ earlier message code later, l = earlier ++ (message, .abort code) :: later →
    ∀ e ∈ later, ∀ out, e.2 ≠ .send out

namespace Tracks
variable {image : Bytes} {size : Nat} {l : History} {s t : BlockSender}

theorem concat (tracks : Tracks image size l s)
    (position : Position image size (blocks l ++ out.sent.toList) t)
    (isDone : out = .done → s.state = .awaitingEofAck ∧ message = .blockAckEof s.lastBlockCounter)
    (isAbort : s.state = .aborted ∨ (∃ code, out = .abort code) → t.state = .aborted)
    (isSend : ∀ sending, out = .send sending → s.state ≠ .aborted) :
    Tracks image size (l ++ [(message, out)]) t := by
  constructor
  · rw [blocks_concat]
    exact position
  · intro earlier m later split
    rcases concat_split split with ⟨rest, _, inner⟩ | ⟨_, last, rfl⟩
    · exact tracks.done earlier m rest inner
    · cases last
      obtain ⟨awaiting, rfl⟩ := isDone rfl
      obtain ⟨whole, b, isLast, counter⟩ := tracks.position.awaiting awaiting
      refine ⟨?_, b, isLast, by rw [counter]⟩
      rw [tracks.position.soFar, whole, List.take_length]
  · intro e mem code isCode
    rcases List.mem_append.mp mem with before | now
    · exact isAbort (.inl (tracks.aborted e before code isCode))
    · obtain rfl := List.mem_singleton.mp now
      exact isAbort (.inr ⟨code, isCode⟩)
  · intro earlier m code later split e mem sending
    rcases concat_split split with ⟨rest, rfl, rfl⟩ | ⟨rfl, _, _⟩
    · rcases List.mem_append.mp mem with before | now
      · exact tracks.silent earlier m code rest rfl e before sending
      · obtain rfl := List.mem_singleton.mp now
        intro isOut
        exact isSend sending isOut (tracks.aborted (m, .abort code) (by simp) code rfl)
    · cases mem

theorem step (tracks : Tracks image size l s) (message : Received) :
    Tracks image size (l ++ [s.event message]) (s.step message) := by
  rw [event, outcome, BlockSender.step]
  rcases answer_cases tracks.position.started message with
    ⟨code, answered⟩ | ⟨_, sending, answered⟩ | ⟨ack, awaiting, answered⟩
  · rw [answered]
    apply tracks.concat
    · simp only [SenderOutcome.sent, Option.toList_none, List.append_nil]
      exact tracks.position.leave (by decide)
    · exact nofun
    · exact fun _ => rfl
    · exact nofun
  · rw [answered]
    apply tracks.concat
    · rw [sent_block, Option.toList_some]
      exact tracks.position.serve sending
    · exact nofun
    · rintro (gone | ⟨code, abort⟩)
      · rw [sending] at gone
        cases gone
      · cases abort
    · rintro _ _ gone
      rw [sending] at gone
      cases gone
  · rw [answered]
    apply tracks.concat
    · simp only [SenderOutcome.sent, Option.toList_none, List.append_nil]
      exact tracks.position.leave (by decide)
    · exact fun _ => ⟨awaiting, ack⟩
    · rintro (gone | ⟨code, abort⟩)
      · rw [awaiting] at gone
        cases gone
      · cases abort
    · exact nofun

theorem along (tracks : Tracks image size [] s) (messages : List Received) :
    Tracks image size (log BlockSender.step event s messages)
      (run BlockSender.step s messages) :=
  Logs.invariant (P := Tracks image size) (fun _ _ message held => held.step message) tracks messages

theorem delivers (tracks : Tracks image size l s) (count : (blocks l).length ≤ 2 ^ 32) :
    Delivers image size l where
  inOrder := tracks.position.soFar ▸ List.take_prefix _ _
  numbered := by
    have counters := congrArg (List.map UInt32.toNat) tracks.position.counters
    rw [List.map_map, List.map_map] at counters
    refine counters.trans ?_
    conv_rhs => rw [← List.map_id (List.range (blocks l).length)]
    apply List.map_congr_left
    intro i mem
    have small := List.mem_range.mp mem
    rw [Function.comp_apply, UInt32.toNat_ofNat', Nat.mod_eq_of_lt (by omega), id]
  bounded := tracks.position.bounded
  marked := tracks.position.marked
  done := tracks.done
  silent := tracks.silent

end Tracks

namespace Position
variable {image : Bytes} {size : Nat} {sent : List Sent} {s : BlockSender}

theorem length_le (position : Position image size sent s) (servable : Servable image size) :
    sent.length ≤ 2 ^ 32 := by
  rcases position.few with one | several
  · omega
  · rcases servable with rfl | ⟨_, fits⟩
    · cases several
    · have below := Nat.lt_of_mul_lt_mul_left (Nat.lt_of_lt_of_le several fits)
      omega

end Position

section Transfer
variable {image : Bytes} {maxBlockSize : UInt16} {init : TransferInit}

def accepted (image : Bytes) (maxBlockSize : UInt16) (init : TransferInit) : BlockSender :=
  ((BlockSender.fromShared image maxBlockSize).acceptReceiveInit init).2

def negotiated (maxBlockSize : UInt16) (init : TransferInit) : Nat :=
  (min init.maxBlockSize maxBlockSize).toNat

theorem accepted_tracks (drive : init.control.contains .receiverDrive = true) :
    Tracks image (negotiated maxBlockSize init) [] (accepted image maxBlockSize init) := by
  have start : accepted image maxBlockSize init =
      { fromShared image maxBlockSize with
        maxBlockSize := min init.maxBlockSize maxBlockSize
        state := .sending } := by
    rw [accepted, acceptReceiveInit, drive]
    rfl
  rw [start]
  constructor
  · constructor
    · rfl
    · rfl
    · nofun
    · rfl
    · rfl
    · rfl
    · nofun
    · intro earlier b later split
      simp [blocks] at split
    · exact fun _ => ⟨rfl, .inl rfl⟩
    · exact .inl (by decide)
    · nofun
  · intro earlier message later split
    simp at split
  · nofun
  · intro earlier message code later split
    simp at split

theorem queries_succ (n : Nat) : queries (n + 1) = queries n ++ [.blockQuery (UInt32.ofNat n)] := by
  rw [queries, List.range_succ, List.map_append]
  rfl

theorem outcome_query (position : Position image size sent s) (sending : s.state = .sending) :
    s.answer (.blockQuery (UInt32.ofNat sent.length)) =
      (.send ⟨if s.blockEnd = s.image.length then .blockEof else .block, s.nextBlock.encode⟩,
        { s with
          offset := s.blockEnd
          lastBlockCounter := s.nextBlockCounter
          nextBlockCounter := s.nextBlockCounter + 1
          state := if s.blockEnd = s.image.length then .awaitingEofAck else .sending
          within := Nat.min_le_right _ _ }) := by
  rw [answer, handleBlockQuery, if_neg (not_not_intro sending),
    if_neg (not_not_intro position.next.symm)]
  simp [sending]

/-- While the blocks asked for do not reach the end, the transfer goes on. -/
theorem following (tracks : Tracks image size [] s) (sending : s.state = .sending)
    (short : n = 0 ∨ size * n < image.length) :
    (run BlockSender.step s (queries n)).state = .sending ∧
      (blocks (log BlockSender.step event s (queries n))).length = n := by
  induction n with
  | zero => exact ⟨sending, rfl⟩
  | succ n ih =>
    have below : size * n + size < image.length := by
      rcases short with zero | below
      · cases zero
      · exact below
    obtain ⟨still, count⟩ := ih (.inr (by omega))
    have position := (tracks.along (queries n)).position
    obtain ⟨reached, _⟩ := position.sending still
    have answered := outcome_query position still
    rw [count] at answered reached
    have inside : ¬ (run BlockSender.step s (queries n)).blockEnd =
        (run BlockSender.step s (queries n)).image.length := by
      rw [blockEnd, position.ofImage, position.ofSize, reached]
      omega
    rw [queries_succ, run_concat, log_concat, blocks_concat, BlockSender.step, event,
      outcome, answered]
    refine ⟨if_neg inside, ?_⟩
    rw [sent_block, Option.toList_some, List.length_append, count, List.length_singleton]

theorem accepted_sending (drive : init.control.contains .receiverDrive = true) :
    (accepted image maxBlockSize init).state = .sending := by
  rw [accepted, acceptReceiveInit, drive]
  rfl

/-- The answer to the query after `n` blocks that do not reach the end. -/
theorem outcome_following (tracks : Tracks image size [] s) (sending : s.state = .sending)
    (short : n = 0 ∨ size * n < image.length) :
    ∃ payload, (run BlockSender.step s (queries n)).outcome (.blockQuery (UInt32.ofNat n)) =
      .send ⟨if image.length ≤ size * n + size then .blockEof else .block, payload⟩ := by
  obtain ⟨still, count⟩ := following tracks sending short
  have position := (tracks.along (queries n)).position
  obtain ⟨reached, _⟩ := position.sending still
  have answered := outcome_query position still
  rw [count] at answered reached
  have last : (run BlockSender.step s (queries n)).blockEnd =
      (run BlockSender.step s (queries n)).image.length ↔ image.length ≤ size * n + size := by
    rw [blockEnd, position.ofImage, position.ofSize, reached]
    omega
  refine ⟨(run BlockSender.step s (queries n)).nextBlock.encode, ?_⟩
  rw [outcome, answered]
  simp [last]

theorem ends_of_servable (tracks : Tracks image size [] s) (sending : s.state = .sending)
    (servable : Servable image size) : Ends s := by
  have same : s.image = image := tracks.position.ofImage
  -- the last block is the one the last octet falls in
  rcases servable with rfl | ⟨positive, _⟩
  · obtain ⟨payload, answered⟩ := outcome_following tracks sending (.inl rfl)
    exact ⟨0, Nat.zero_le _, payload, answered⟩
  · have division := Nat.div_add_mod (image.length - 1) size
    have remainder := Nat.mod_lt (image.length - 1) positive
    have few := Nat.div_le_self (image.length - 1) size
    have short : (image.length - 1) / size = 0 ∨
        size * ((image.length - 1) / size) < image.length := by
      rcases Nat.eq_zero_or_pos image.length with empty | nonempty
      · left
        rw [empty, Nat.zero_sub, Nat.zero_div]
      · right
        omega
    obtain ⟨payload, answered⟩ := outcome_following tracks sending short
    rw [if_pos (by omega)] at answered
    exact ⟨_, by rw [same]; omega, payload, answered⟩

theorem not_ends_of_zero (tracks : Tracks image 0 [] s) (sending : s.state = .sending)
    (nonempty : image ≠ []) : ¬ Ends s := by
  rintro ⟨n, _, payload, ends⟩
  have longer := List.length_pos_iff.mpr nonempty
  obtain ⟨other, answered⟩ := outcome_following tracks sending (n := n) (.inr (by omega))
  rw [if_neg (by omega), ends] at answered
  cases answered

/-- A counter that comes round to zero is given to a second block. -/
theorem not_numbered (tracks : Tracks image size [] s) (sending : s.state = .sending)
    (wraps : UInt32.ofNat n = 0) (positive : 0 < n) (long : size * n < image.length) :
    ¬ ∀ messages, (blocks (log BlockSender.step event s messages)).map
        (·.block.blockCounter.toNat) =
      List.range (blocks (log BlockSender.step event s messages)).length := by
  intro numbered
  obtain ⟨still, count⟩ := following tracks sending (.inr long)
  have position := (tracks.along (queries n)).position
  have answered := outcome_query position still
  rw [count] at answered
  have again := numbered (queries n ++ [.blockQuery (UInt32.ofNat n)])
  rw [log_concat, blocks_concat, event, outcome, answered, sent_block,
    Option.toList_some, List.length_append, count, List.length_singleton, List.range_succ,
    List.map_append] at again
  have last := (List.append_inj' again rfl).2
  rw [List.map_singleton, nextBlock, position.next, count, wraps] at last
  have equal : 0 = n := (List.cons.inj last).1
  omega

/-- A transfer delivers and ends exactly if its blocks hold something and do not
outnumber their counters. -/
theorem sender_delivers_iff (image : Bytes) (maxBlockSize : UInt16) (init : TransferInit)
    (drive : init.control.contains .receiverDrive = true) :
    ((∀ messages, Delivers image (negotiated maxBlockSize init)
        (log BlockSender.step event (accepted image maxBlockSize init) messages)) ∧
      Ends (accepted image maxBlockSize init)) ↔ Servable image (negotiated maxBlockSize init) := by
  have tracks : Tracks image (negotiated maxBlockSize init) [] (accepted image maxBlockSize init) :=
    accepted_tracks drive
  have sending : (accepted image maxBlockSize init).state = .sending := accepted_sending drive
  constructor
  · rintro ⟨delivers, ends⟩
    by_contra never
    rw [Servable, not_or, not_and_or, Nat.not_lt, Nat.le_zero, Nat.not_le] at never
    obtain ⟨nonempty, zero | long⟩ := never
    · rw [zero] at tracks
      exact not_ends_of_zero tracks sending nonempty ends
    · have wraps : UInt32.ofNat (2 ^ 32) = 0 := rfl
      exact not_numbered tracks sending wraps (by decide) long (fun messages =>
        (delivers messages).numbered)
  · intro servable
    constructor
    · intro messages
      have after := tracks.along messages
      exact after.delivers (after.position.length_le servable)
    · exact ends_of_servable tracks sending servable

def pullInit (size : UInt16) : TransferInit :=
  { control := .receiverDrive, version := 0, maxBlockSize := size, startOffset := 0, maxLength := 0,
    fileDesignator := [], metadata := [] }

theorem pull_by_twos : Ends (accepted [1, 2, 3] 1024 (pullInit 2)) :=
  ((sender_delivers_iff [1, 2, 3] 1024 (pullInit 2) rfl).mpr (.inr (by decide))).2

/-- A proposed block size of zero is accepted, and every query is answered with
an empty block: one octet is not sent in the two queries it needs at most. -/
theorem pull_by_nothing :
    (pullInit 0).control.contains .receiverDrive = true ∧
    log BlockSender.step event (accepted [1] 1024 (pullInit 0)) (queries 2) =
      [(.blockQuery 0, .send ⟨.block, [0, 0, 0, 0]⟩), (.blockQuery 1, .send ⟨.block, [1, 0, 0, 0]⟩)] := by
  decide

end Transfer

end Matter.Bdx
