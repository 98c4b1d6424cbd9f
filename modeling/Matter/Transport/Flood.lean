import Matter.Transport.Exchanges

/-! A peer that opens one exchange after the other with messages that ask for an
acknowledgement. Each of them stays in the exchange table, on every transport, until
the table is full and the next exchange is refused. -/
namespace Matter.Transport
open Crypto

/-- The protocol header of a request on an exchange the peer opens. -/
def requestHeader (exchangeId : UInt16) : ProtocolHeader where
  exchangeFlags := { initiator := true, reliable := true }
  opcode := 2
  exchangeId := exchangeId
  protocolId := .interactionModel
  ackCounter := none

namespace Session
variable {aead : Aead} {id : SessionId} {s t : Session}

/-- The packet in which the peer of `s` sends such a request. -/
def request (aead : Aead) (s : Session) (counter : MessageCounter) (exchangeId : UInt16) : Bytes :=
  ((encodeSecured aead (plainHeader s.localId counter)
    (encodeProtocolHeader (requestHeader exchangeId)) s.inboundKey s.peerNonceNodeId).toOption).getD []

theorem Continues.request (continues : Continues s t) (counter : MessageCounter)
    (exchangeId : UInt16) : t.request aead counter exchangeId = s.request aead counter exchangeId := by
  rw [continues]
  rfl

theorem authenticate_request (counter : MessageCounter) (exchangeId : UInt16) :
    s.authenticate aead (s.request aead counter exchangeId) =
      .ok (plainHeader s.localId counter, encodeProtocolHeader (requestHeader exchangeId)) := by
  have short : (encodeProtocolHeader (requestHeader exchangeId)).length ≤ maxPayloadLen := by
    simp [encodeProtocolHeader, ProtocolHeader.vendorBytes, ProtocolHeader.ackBytes,
      requestHeader, ProtocolId.interactionModel, maxPayloadLen]
  obtain ⟨packet, encoded⟩ := encodeSecured_plain aead s.localId counter s.inboundKey
    s.peerNonceNodeId short
  obtain ⟨body, parsed, opened⟩ := decode_encodeSecured encoded
  have sent : s.request aead counter exchangeId = packet := by
    rw [request, encoded]
    rfl
  simp only [sent, authenticate, parsed, opened]

theorem decode_request (exchangeId : UInt16) :
    decodeProtocolHeader (encodeProtocolHeader (requestHeader exchangeId)) =
      .ok (requestHeader exchangeId, []) := by
  have read := decodeProtocolHeader_encode (requestHeader exchangeId) [] rfl
  exact read

/-- The acts of a peer that opens the exchanges `0` to `n - 1` with its messages
`1` to `n`. -/
def flood (aead : Aead) (s : Session) (n : Nat) : List Act :=
  (List.range n).map fun i => .receive (s.request aead (UInt32.ofNat (i + 1)) (UInt16.ofNat i)) 0

/-- The table holds `n` exchanges the peer opened and the window is at message `n`. -/
structure Flooded (s : Session) (n : Nat) : Prop where
  spare : s.outboundCounter ≠ u32Max
  heard : s.replayWindow.highestSeen = UInt32.ofNat n
  filled : s.mrp.exchanges.card = n
  opened : ∀ k ∈ s.mrp.exchanges, k.id.toNat < n

section
variable (flooded : s.Flooded n) (small : n ≤ maxExchangesPerSession)
include flooded small

theorem Flooded.ahead : UInt32.ofNat (n + 1) > s.replayWindow.highestSeen := by
  unfold maxExchangesPerSession at small
  rw [flooded.heard, gt_iff_lt, UInt32.lt_iff_toNat_lt, UInt32.toNat_ofNat', UInt32.toNat_ofNat']
  omega

theorem Flooded.fresh : s.replayWindow.classify (UInt32.ofNat (n + 1)) = .ok () :=
  if_pos (flooded.ahead small)

theorem Flooded.unknown : (requestHeader (UInt16.ofNat n)).inboundExchange ∉ s.mrp.exchanges := by
  intro member
  have bound := flooded.opened _ member
  unfold maxExchangesPerSession at small
  simp only [requestHeader, ProtocolHeader.inboundExchange, ExchangeKey.ofInbound,
    UInt16.toNat_ofNat'] at bound
  omega

theorem Flooded.recorded :
    (s.replayWindow.record (UInt32.ofNat (n + 1))).highestSeen = UInt32.ofNat (n + 1) := by
  rw [ReplayWindow.record, if_pos (flooded.ahead small)]

end

theorem Flooded.step (flooded : s.Flooded n) (small : n < maxExchangesPerSession) :
    (s.step aead id (.receive (s.request aead (UInt32.ofNat (n + 1)) (UInt16.ofNat n)) 0)).after.Flooded
      (n + 1) := by
  have performed : s.perform aead id
      (.receive (s.request aead (UInt32.ofNat (n + 1)) (UInt16.ofNat n)) 0) = _ :=
    perform_delivers (authenticate_request _ _) (flooded.fresh (by omega)) (decode_request _)
      (Or.inr (by rw [flooded.filled]; exact small)) rfl
  have after : (s.step aead id (.receive (s.request aead (UInt32.ofNat (n + 1))
      (UInt16.ofNat n)) 0)).after = _ := congrArg Prod.snd performed
  have table : (s.step aead id (.receive (s.request aead (UInt32.ofNat (n + 1))
      (UInt16.ofNat n)) 0)).after.mrp.exchanges =
      insert (requestHeader (UInt16.ofNat n)).inboundExchange s.mrp.exchanges := by
    have grown : (s.deliveredMrp (requestHeader (UInt16.ofNat n)) (UInt32.ofNat (n + 1)) 0).exchanges =
        insert (requestHeader (UInt16.ofNat n)).inboundExchange s.mrp.exchanges :=
      deliveredMrp_exchanges rfl rfl _ _
    rw [after, ← grown]
    split <;> rfl
  constructor
  · rw [after]
    exact flooded.spare
  · rw [after]
    exact flooded.recorded (by omega)
  · rw [table, Finset.card_insert_of_notMem (flooded.unknown (by omega)), flooded.filled]
  · intro k member
    rw [table] at member
    rcases Finset.mem_insert.mp member with rfl | before
    · simp only [requestHeader, ProtocolHeader.inboundExchange, ExchangeKey.ofInbound,
        UInt16.toNat_ofNat']
      omega
    · exact Nat.lt_succ_of_lt (flooded.opened k before)

/-- Up to the size of the table, every request of the flood is delivered. -/
theorem run_flood (start : s.Flooded 0) (small : n ≤ maxExchangesPerSession) :
    (s.run aead id (s.flood aead n)).Flooded n ∧ Continues s (s.run aead id (s.flood aead n)) := by
  induction n with
  | zero => exact ⟨start, rfl⟩
  | succ n ih =>
    obtain ⟨flooded, continues⟩ := ih (by omega)
    have last : s.run aead id (s.flood aead (n + 1)) =
        ((s.run aead id (s.flood aead n)).step aead id (.receive
          ((s.run aead id (s.flood aead n)).request aead (UInt32.ofNat (n + 1)) (UInt16.ofNat n))
          0)).after := by
      rw [continues.request]
      simp only [run, flood, List.range_succ, List.map_append, List.map_cons, List.map_nil,
        Runs.run_concat]
    rw [last]
    exact ⟨flooded.step (by omega), continues.trans (step_steps aead id _ _).continues⟩

/-- With the table full, a request on another exchange is refused, but recorded. -/
theorem Flooded.refused (flooded : s.Flooded maxExchangesPerSession) (aead : Aead)
    (id : SessionId) :
    let step := s.step aead id (.receive (s.request aead 257 256) 0)
    step.outcome = .received (.error .exchangeTableFull) ∧
      step.after.replayWindow.highestSeen = 257 ∧ step.after.outboundCounter ≠ u32Max := by
  have performed : s.perform aead id (.receive (s.request aead 257 256) 0) = _ :=
    perform_refuses (authenticate_request _ _) (flooded.fresh (Nat.le_refl _)) (decode_request _)
      (flooded.unknown (Nat.le_refl _)) (Nat.le_of_eq flooded.filled.symm)
  have after : (s.step aead id (.receive (s.request aead 257 256) 0)).after = _ :=
    congrArg Prod.snd performed
  refine ⟨congrArg Prod.fst performed, ?_, ?_⟩
  · rw [after]
    exact flooded.recorded (Nat.le_refl _)
  · rw [after]
    exact flooded.spare

end Session

theorem Session.actOn_request (aead : Aead) (s : Session) (counter : MessageCounter)
    (exchangeId next : UInt16) (now : Instant) :
    (Operation.decodeInbound (s.request aead counter exchangeId) now).actOn s.localId next =
      some (.receive (s.request aead counter exchangeId) now) := by
  obtain ⟨rest, parsed, _⟩ := of_authenticate
    (authenticate_request (s := s) counter exchangeId : s.authenticate aead _ = _)
  simp only [Operation.actOn, parsed]
  exact if_pos rfl

namespace SessionManager

/-- The flood as the manager sees it. -/
def flood (aead : Aead) (s : Session) (n : Nat) : List Operation :=
  (List.range n).map fun i =>
    .decodeInbound (s.request aead (UInt32.ofNat (i + 1)) (UInt16.ofNat i)) 0

theorem acts_flood (aead : Aead) (m : SessionManager) (s : Session) (n : Nat) :
    m.acts aead s.localId (flood aead s n) = s.flood aead n := by
  unfold flood Session.flood
  generalize List.range n = indices
  induction indices generalizing m with
  | nil => rfl
  | cons i indices ih =>
    simp only [List.map_cons, acts, Session.actOn_request, Option.toList_some, ih]
    rfl

section
variable (aead : Aead) {m : SessionManager} (found : m.sessions.lookup s.localId = some s)
include aead m found

theorem decodeInbound_request (counter : MessageCounter) (exchangeId : UInt16) (now : Instant) :
    let packet := s.request aead counter exchangeId
    .received (m.decodeInbound aead packet now).1 =
      (s.step aead s.localId (.receive packet now)).outcome ∧
    (m.decodeInbound aead packet now).2.sessions.lookup s.localId =
      some (s.step aead s.localId (.receive packet now)).after := by
  obtain ⟨rest, parsed, _⟩ := Session.of_authenticate
    (Session.authenticate_request (s := s) counter exchangeId : s.authenticate aead _ = _)
  exact decodeInbound_addressed found parsed rfl now

theorem run_flood_session (start : s.Flooded 0) (small : n ≤ maxExchangesPerSession) :
    ∃ t, (m.run aead (flood aead s n)).sessions.lookup s.localId = some t ∧ t.Flooded n ∧
      Session.Continues s t := by
  obtain ⟨_, ran⟩ := run_session aead found (flood aead s n)
  rw [acts_flood] at ran
  exact ⟨_, ran, Session.run_flood start small⟩

/-- After a flood that fills the table, one more request is refused. -/
theorem decodeInbound_flooded (start : s.Flooded 0) :
    let flooded := m.run aead (flood aead s maxExchangesPerSession)
    let packet := s.request aead 257 256
    (flooded.decodeInbound aead packet 0).1 = .error .exchangeTableFull ∧
    ∃ t, (flooded.decodeInbound aead packet 0).2.sessions.lookup s.localId = some t ∧
      Session.Continues s t ∧ t.replayWindow.highestSeen = 257 ∧ t.outboundCounter ≠ u32Max := by
  intro flooded packet
  obtain ⟨t, after, fills, continues⟩ := run_flood_session aead found start (Nat.le_refl _)
  have same : t.localId = s.localId := by rw [continues]
  have sent : t.request aead 257 256 = packet := continues.request 257 256
  rw [← same] at after
  obtain ⟨answer, left⟩ := decodeInbound_request aead after 257 256 0
  obtain ⟨refused, heard, spare⟩ := fills.refused aead t.localId
  rw [sent] at answer left refused heard spare
  constructor
  · exact Outcome.received.inj (answer.trans refused)
  · rw [same] at left heard spare
    exact ⟨_, left, continues.trans (Session.step_steps aead _ t _).continues, heard, spare⟩

end

end SessionManager

def pairing : Registration where
  localId := 1
  keys := ⟨List.replicate 16 1, List.replicate 16 2⟩
  role := .initiator
  peerSessionId := 1

def pairingDraws : Draws := ⟨none, 1⟩

end Matter.Transport
