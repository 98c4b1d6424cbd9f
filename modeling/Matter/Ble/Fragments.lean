import Matter.Ble.Window

/-! Segmentation and reassembly. A packet of the wire is the encoding of a
fragment; the fragmenter and `on_indication` are related through an abstract
reassembler that consumes fragment bodies one by one. -/
namespace Matter.Ble
open Exits
open BtpSession (leBytes16)

/-- What a packet carries besides its sequence number and acknowledgement. -/
inductive Body where
  | standalone
  | first (length : Nat) (payload : Bytes) (ending : Bool)
  | more (payload : Bytes) (ending : Bool)

structure Fragment where
  ack : Option UInt8
  seq : UInt8
  body : Body

namespace Body

def flags : Body → UInt8
  | standalone => 0
  | first _ _ ending => if ending then flagStart ||| flagEnd else flagStart
  | more _ ending => if ending then flagContinue ||| flagEnd else flagContinue

def content : Body → Bytes
  | standalone => []
  | first length payload _ => leBytes16 length ++ payload
  | more payload _ => payload

end Body

def Fragment.encode (f : Fragment) : Bytes :=
  (if f.ack.isSome then f.body.flags ||| flagAck else f.body.flags) ::
    f.ack.toList ++ f.seq :: f.body.content

theorem encode_standalone (ack seq : UInt8) :
    Fragment.encode ⟨some ack, seq, .standalone⟩ = [flagAck, ack, seq] := by
  simp [Fragment.encode, Body.flags, Body.content]

/-- A message under reassembly: its declared length and the bytes so far. -/
abbrev Assembly := Option (Nat × Bytes)

namespace Assembly

/-- Keep collecting, or hand the message over after its last fragment. -/
def settle (length : Nat) (collected : Bytes) (ending : Bool) : Option (Assembly × Option Bytes) :=
  if !ending then some (some (length, collected), none)
  else if collected.length < length then none
  else some (none, some (collected.take length))

/-- One fragment body; `none` is a protocol error. -/
def receive : Assembly → Body → Option (Assembly × Option Bytes)
  | assembly, .standalone => some (assembly, none)
  | none, .first length payload ending =>
    if length > rxReassemblyCap then none else settle length payload ending
  | some (length, collected), .more payload ending =>
    if collected.length + payload.length > rxReassemblyCap then none
    else settle length (collected ++ payload) ending
  | _, _ => none

/-- A stream of bodies, with the messages it completes. -/
def feed : Assembly → List Body → Option (Assembly × List Bytes)
  | assembly, [] => some (assembly, [])
  | assembly, body :: rest =>
    match receive assembly body with
    | none => none
    | some (next, message) =>
      (feed next rest).map fun (last, messages) => (last, message.toList ++ messages)

theorem feed_cons (fed : feed assembly (body :: rest) = some (last, messages)) :
    ∃ next message later, receive assembly body = some (next, message) ∧
      feed next rest = some (last, later) ∧ messages = message.toList ++ later := by
  unfold feed at fed
  cases received : receive assembly body with
  | none => simp [received] at fed
  | some result =>
    obtain ⟨next, message⟩ := result
    simp only [received, Option.map_eq_some_iff, Prod.exists, Prod.mk.injEq] at fed
    obtain ⟨final, later, fedRest, rfl, rfl⟩ := fed
    exact ⟨next, message, later, rfl, fedRest, rfl⟩

theorem feed_concat (fed : feed assembly bodies = some (middle, messages))
    (received : receive middle body = some (last, message)) :
    feed assembly (bodies ++ [body]) = some (last, messages ++ message.toList) := by
  induction bodies generalizing assembly messages with
  | nil =>
    obtain ⟨rfl, rfl⟩ : assembly = middle ∧ [] = messages := by simpa [feed] using fed
    simp [feed, received]
  | cons head rest ih =>
    obtain ⟨next, early, later, receivedHead, fedRest, rfl⟩ := feed_cons fed
    simp [feed, receivedHead, ih fedRest]

end Assembly

namespace BtpSession

def assembly (s : BtpSession) : Assembly :=
  s.rxExpectedLen.map fun length => (length.toNat, s.rxBuf)

def nextBody (s : BtpSession) (msg : Bytes) : Body :=
  let payload := (msg.drop s.txSent).take (s.nextShare msg).1
  if s.txSent = 0 then .first (min msg.length 65535) payload (s.nextShare msg).2
  else .more payload (s.nextShare msg).2

section
variable (s : BtpSession)

theorem nextFragment_eq (msg : Bytes) :
    s.nextFragment msg = Fragment.encode ⟨s.unackedRx, s.txNextSeq, s.nextBody msg⟩ := by
  unfold Fragment.encode nextBody nextFragment
  by_cases first : s.txSent = 0 <;> simp [first, Body.flags, Body.content]

theorem headerLen_le : s.headerLen ≤ 5 := by
  unfold headerLen
  split <;> split <;> omega

/-- The share is all that remains, or a nonempty part of it that leaves more. -/
theorem nextShare_cases (msg : Bytes) (sized : 6 ≤ s.segmentSize.toNat) :
    s.nextShare msg = (msg.length - s.txSent, true) ∨
      ∃ n, s.nextShare msg = (n, false) ∧ 0 < n ∧ s.txSent + n < msg.length := by
  have header := s.headerLen_le
  simp only [nextShare]
  split
  · exact .inl rfl
  · exact .inr ⟨_, rfl, by omega, by omega⟩

theorem nextShare_le (msg : Bytes) (sized : 6 ≤ s.segmentSize.toNat) :
    s.headerLen + (s.nextShare msg).1 ≤ s.segmentSize.toNat := by
  have header := s.headerLen_le
  simp only [nextShare]
  split <;> omega

theorem nextFragment_length (msg : Bytes) (sized : 6 ≤ s.segmentSize.toNat) :
    (s.nextFragment msg).length ≤ s.segmentSize.toNat := by
  have share := s.nextShare_le msg sized
  have ack : s.unackedRx.toList.length = if s.unackedRx.isSome then 1 else 0 := by
    cases s.unackedRx <;> rfl
  have length : (if s.txSent = 0 then leBytes16 (min msg.length 65535) else []).length =
      if s.txSent = 0 then 2 else 0 := by
    split <;> rfl
  simp only [headerLen] at share
  simp only [nextFragment, List.length_append, List.length_cons, List.length_take,
    List.length_drop, List.length_nil, ack, length]
  omega

end

/-- Where the fragmenter stands, told as the reassembler of a peer that has
received all it sent. -/
def progress (pending : Option Bytes) (sent : Nat) : Assembly :=
  match pending with
  | none => none
  | some msg => if sent = 0 then none else some (msg.length, msg.take sent)

theorem receive_nextBody {s : BtpSession} (pending : s.txPending = some msg)
    (sized : 6 ≤ s.segmentSize.toNat) (fits : msg.length ≤ rxReassemblyCap)
    (within : s.txSent ≤ msg.length) :
    (progress s.txPending s.txSent).receive (s.nextBody msg) =
      some (if (s.nextShare msg).2 then (none, some msg)
        else (progress s.txPending (s.txSent + (s.nextShare msg).1), none)) := by
  rw [pending]
  have cap : rxReassemblyCap = 2048 := rfl
  rcases s.nextShare_cases msg sized with share | ⟨n, share, positive, short⟩
  · by_cases first : s.txSent = 0
    · have declared : min msg.length 65535 = msg.length := by omega
      simp [nextBody, progress, Assembly.receive, Assembly.settle, share, first, declared]
      omega
    · have whole : msg.take s.txSent ++ (msg.drop s.txSent).take (msg.length - s.txSent) = msg := by
        rw [← List.length_drop, List.take_length, List.take_append_drop]
      simp [nextBody, progress, Assembly.receive, Assembly.settle, share, first, whole]
      omega
  · by_cases first : s.txSent = 0
    · have declared : min msg.length 65535 = msg.length := by omega
      simp [nextBody, progress, Assembly.receive, Assembly.settle, share, first, declared]
      omega
    · simp [nextBody, progress, Assembly.receive, Assembly.settle, share, first, List.take_add]
      omega

theorem byteAt_run (found : packet.drop i = b :: rest) (s : BtpSession) :
    (byteAt packet i).run s = .ok b s := by
  have here : packet[i]? = some b := by
    rw [← Nat.add_zero i, ← List.getElem?_drop, found, List.getElem?_cons_zero]
  simp [byteAt, here]

theorem drop_succ {packet rest : Bytes} (found : packet.drop i = b :: rest) :
    packet.drop (i + 1) = rest := by
  rw [← List.drop_drop, found, List.drop_one, List.tail_cons]

theorem reassemble_first (idle : s.rxExpectedLen = none) (beginning : flags &&& flagStart ≠ 0)
    (found : packet.drop idx = leBytes16 length ++ payload) (bound : length ≤ rxReassemblyCap) :
    (reassemble flags packet idx).run s =
      .ok () { s with rxExpectedLen := some (UInt16.ofNat length), rxBuf := payload } := by
  have declared : (UInt8.ofNat length).toUInt16 + (UInt8.ofNat (length / 256)).toUInt16 * 256 =
      UInt16.ofNat length := by
    apply UInt16.toNat_inj.mp
    simp
    omega
  have readable : ¬ rxReassemblyCap < (length % 256 + length / 256 % 256 * 256) % 65536 := by
    omega
  have low : packet.drop idx = UInt8.ofNat length :: UInt8.ofNat (length / 256) :: payload := found
  have high := drop_succ low
  have rest := drop_succ high
  simp [reassemble, idle, beginning, byteAt_run low, byteAt_run high, declared, readable, rest]

theorem reassemble_more (busy : s.rxExpectedLen = some length) (beginning : flags &&& flagStart = 0)
    (continuing : flags &&& flagContinue ≠ 0) (found : packet.drop idx = payload)
    (bound : s.rxBuf.length + payload.length ≤ rxReassemblyCap) :
    (reassemble flags packet idx).run s =
      .ok () { s with rxExpectedLen := some length, rxBuf := s.rxBuf ++ payload } := by
  have room : ¬ rxReassemblyCap < s.rxBuf.length + payload.length := Nat.not_lt.mpr bound
  simp [reassemble, busy, beginning, continuing, found, room]

/-- What a received fragment changes outside flow control. -/
structure Receives (s t : BtpSession) (next : Assembly) : Prop where
  counted : t.rxNextSeq = s.rxNextSeq + 1
  owed : t.unackedRx = some s.rxNextSeq
  assembled : t.assembly = next
  sized : t.segmentSize = s.segmentSize
  pending : t.txPending = s.txPending
  sent : t.txSent = s.txSent

/-- The common end of both data arms: after reassembly the acknowledgement is
owed and a last fragment hands the message over. -/
theorem receiveFragment_data (now : Instant) (found : packet.drop idx = s.rxNextSeq :: content)
    (data : flags &&& (flagStart ||| flagContinue ||| flagEnd) ≠ 0)
    (last : flags &&& flagEnd = 0 ↔ ending = false)
    (reassembled : (reassemble flags packet (idx + 1)).run
      { s with rxNextSeq := s.rxNextSeq + 1 } = .ok ()
      { s with rxNextSeq := s.rxNextSeq + 1, rxExpectedLen := some length, rxBuf := buf })
    (settled : Assembly.settle length.toNat buf ending = some (next, message)) :
    ∃ t, (receiveFragment flags packet idx now).run s = .ok message t ∧ s.Receives t next := by
  unfold Assembly.settle at settled
  cases ending with
  | false =>
    obtain ⟨rfl, rfl⟩ : some (length.toNat, buf) = next ∧ none = message := by
      simpa using settled
    refine ⟨({ s with
      rxNextSeq := s.rxNextSeq + 1, rxExpectedLen := some length, rxBuf := buf }).oweAck
      s.rxNextSeq now, ?_, ⟨rfl, rfl, rfl, rfl, rfl, rfl⟩⟩
    simp [receiveFragment, byteAt_run found, data, reassembled, last]
  | true =>
    by_cases short : buf.length < length.toNat
    · simp [short] at settled
    · obtain ⟨rfl, rfl⟩ : none = next ∧ some (buf.take length.toNat) = message := by
        simpa [short] using settled
      refine ⟨{ ({ s with
        rxNextSeq := s.rxNextSeq + 1, rxExpectedLen := some length, rxBuf := buf }).oweAck
        s.rxNextSeq now with rxExpectedLen := none, rxBuf := [] }, ?_,
        ⟨rfl, rfl, rfl, rfl, rfl, rfl⟩⟩
      simp [receiveFragment, byteAt_run found, data, reassembled, last, takeMessage, oweAck,
        armAckTimer, short]

theorem first_flags (flagged : flags = (Body.first length payload ending).flags ∨
      flags = (Body.first length payload ending).flags ||| flagAck) :
    flags &&& (flagStart ||| flagContinue ||| flagEnd) ≠ 0 ∧ flags &&& flagStart ≠ 0 ∧
      (flags &&& flagEnd = 0 ↔ ending = false) := by
  simp only [Body.flags] at flagged
  rcases flagged with rfl | rfl <;> cases ending <;> decide

theorem more_flags (flagged : flags = (Body.more payload ending).flags ∨
      flags = (Body.more payload ending).flags ||| flagAck) :
    flags &&& (flagStart ||| flagContinue ||| flagEnd) ≠ 0 ∧ flags &&& flagStart = 0 ∧
      flags &&& flagContinue ≠ 0 ∧ (flags &&& flagEnd = 0 ↔ ending = false) := by
  simp only [Body.flags] at flagged
  rcases flagged with rfl | rfl <;> cases ending <;> decide

theorem receiveFragment_run (now : Instant)
    (flagged : flags = body.flags ∨ flags = body.flags ||| flagAck)
    (found : packet.drop idx = s.rxNextSeq :: body.content)
    (received : s.assembly.receive body = some (next, message)) :
    ∃ t, (receiveFragment flags packet idx now).run s = .ok message t ∧ s.Receives t next := by
  have rest := drop_succ found
  cases body with
  | standalone =>
    obtain ⟨rfl, rfl⟩ : s.assembly = next ∧ none = message := by
      simpa [Assembly.receive] using received
    have empty : flags &&& (flagStart ||| flagContinue ||| flagEnd) = 0 := by
      rcases flagged with rfl | rfl <;> rfl
    refine ⟨({ s with rxNextSeq := s.rxNextSeq + 1 }).oweAck s.rxNextSeq now, ?_,
      ⟨rfl, rfl, rfl, rfl, rfl, rfl⟩⟩
    simp [receiveFragment, byteAt_run found, empty]
  | first length payload ending =>
    obtain ⟨data, beginning, last⟩ := first_flags flagged
    cases busy : s.rxExpectedLen with
    | some declared => simp [assembly, busy, Assembly.receive] at received
    | none =>
      have bound : length ≤ rxReassemblyCap := by
        by_contra excess
        simp [assembly, busy, Assembly.receive, Nat.not_le.mp excess] at received
      have cap : rxReassemblyCap = 2048 := rfl
      have exactly : (UInt16.ofNat length).toNat = length := by
        rw [UInt16.toNat_ofNat']
        omega
      refine receiveFragment_data now found data last
        (reassemble_first busy beginning rest bound) ?_
      simpa [assembly, busy, Assembly.receive, Nat.not_lt.mpr bound, exactly] using received
  | more payload ending =>
    obtain ⟨data, beginning, continuing, last⟩ := more_flags flagged
    cases busy : s.rxExpectedLen with
    | none => simp [assembly, busy, Assembly.receive] at received
    | some length =>
      have bound : s.rxBuf.length + payload.length ≤ rxReassemblyCap := by
        by_contra excess
        simp [assembly, busy, Assembly.receive, Nat.not_le.mp excess] at received
      refine receiveFragment_data now found data last
        (reassemble_more busy beginning continuing rest bound) ?_
      simpa [assembly, busy, Assembly.receive, Nat.not_lt.mpr bound, Body.content] using received

theorem flags_and_ack (body : Body) :
    body.flags &&& flagAck = 0 ∧ (body.flags ||| flagAck) &&& flagAck ≠ 0 := by
  cases body with
  | standalone => decide
  | first length payload ending
  | more payload ending => cases ending <;> simp only [Body.flags] <;> decide

theorem onIndication_encode {f : Fragment} (now : Instant)
    (fits : f.encode.length ≤ s.segmentSize.toNat)
    (acked : ∀ ack ∈ f.ack, s.sendWindow.accepts ack = true) (numbered : f.seq = s.rxNextSeq)
    (received : s.assembly.receive f.body = some (next, message)) :
    ∃ t, (onIndication f.encode now).run s = .ok message t ∧ s.Receives t next ∧
      t.sendWindow = (f.ack.map s.sendWindow.acknowledge).getD s.sendWindow := by
  obtain ⟨ack, seq, body⟩ := f
  obtain rfl : seq = s.rxNextSeq := numbered
  obtain ⟨clear, set⟩ := flags_and_ack body
  rw [onIndication, EStateM.run_bind, EStateM.run_get]
  simp only [List.take_of_length_le fits]
  cases ack with
  | none =>
    generalize shape : Fragment.encode ⟨none, s.rxNextSeq, body⟩ = packet
    have flags : packet.drop 0 = body.flags :: s.rxNextSeq :: body.content := shape.symm
    obtain ⟨t, ran, receives⟩ := receiveFragment_run now (.inl rfl) (drop_succ flags) received
    have kept := receiveFragment_keeps body.flags packet now (Nat.le_refl 1) s
    rw [ran] at kept
    refine ⟨t, ?_, receives, congrArg (·.1) kept⟩
    simp only [EStateM.run_bind, byteAt_run flags, clear, ne_eq, not_true_eq_false, if_false, ran]
  | some ack =>
    generalize shape : Fragment.encode ⟨some ack, s.rxNextSeq, body⟩ = packet
    have flags : packet.drop 0 = (body.flags ||| flagAck) :: ack :: s.rxNextSeq :: body.content :=
      shape.symm
    have second := drop_succ flags
    have ranAck := receiveAck_run s ack
    rw [acked ack rfl, if_pos rfl] at ranAck
    obtain ⟨t, ran, receives⟩ := receiveFragment_run (s := s.acknowledged ack) now (.inr rfl)
      (drop_succ second) received
    have kept := receiveFragment_keeps (body.flags ||| flagAck) packet now (Nat.le_succ 1)
      (s.acknowledged ack)
    rw [ran] at kept
    obtain ⟨counted, owed, assembled, sized, pending, sent⟩ := receives
    refine ⟨t, ?_, ⟨counted, owed, assembled, sized, pending, sent⟩, congrArg (·.1) kept⟩
    simp only [EStateM.run_bind, byteAt_run flags, set, ne_eq, not_false_eq_true, if_true,
      byteAt_run second, ranAck, ran]

end BtpSession
end Matter.Ble
