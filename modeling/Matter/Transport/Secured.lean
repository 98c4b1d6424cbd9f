import Matter.Transport.Delivery

/-! The two ends of a secure session. What one end sends, the other end decrypts and
hands to its application, unless the message looks like an acknowledgement alone: the
receiver does not look at the protocol a message belongs to. -/
namespace Matter.Transport
open Crypto

namespace Session

/-- `s` and `t` are the two ends of one secure session. -/
structure Paired (s t : Session) : Prop where
  addressed : s.peerId = t.localId
  answered : t.peerId = s.localId
  roles : s.role ≠ t.role
  keys : s.keys = t.keys
  sender : s.localNonceNodeId = t.peerNonceNodeId
  receiver : s.peerNonceNodeId = t.localNonceNodeId

variable {aead : Aead} {id : SessionId} {s s' t t' : Session}

section
variable (paired : Paired s t)
include paired

theorem Paired.symm : Paired t s :=
  ⟨paired.answered, paired.addressed, Ne.symm paired.roles, paired.keys.symm,
    paired.receiver.symm, paired.sender.symm⟩

theorem Paired.continues (left : Continues s s') (right : Continues t t') : Paired s' t' := by
  rw [left, right]
  exact ⟨paired.addressed, paired.answered, paired.roles, paired.keys, paired.sender,
    paired.receiver⟩

theorem Paired.outboundKey : s.outboundKey = t.inboundKey := by
  have roles := paired.roles
  unfold Session.outboundKey Session.inboundKey
  rw [paired.keys]
  cases mine : s.role <;> cases theirs : t.role <;> simp_all

/-- The other end authenticates every packet this end encrypts. -/
theorem Paired.authenticate (encrypted : s.encryptNext aead payload = .ok packet) :
    t.authenticate aead packet = .ok (plainHeader t.localId s.outboundCounter, payload) := by
  unfold encryptNext at encrypted
  rw [paired.addressed, paired.outboundKey, paired.sender] at encrypted
  obtain ⟨body, parsed, opened⟩ := decode_encodeSecured encrypted
  simp [Session.authenticate, parsed, opened]

end

/-- The protocol header of a prepared message, as the receiver decodes it. -/
structure Carries (prepared : PreparedOutbound) (message : Message) (reliable : Bool)
    (header : ProtocolHeader) : Prop where
  decoded : decodeProtocolHeader prepared.wirePayload = .ok (header, message.appPayload)
  exchangeId : header.exchangeId = prepared.exchangeId
  initiator : header.exchangeFlags.initiator = prepared.isLocalInitiator
  ack : header.exchangeFlags.ack = prepared.piggybackAcked
  reliable : header.exchangeFlags.reliable = reliable
  protocolId : header.protocolId = message.protocolId
  opcode : header.opcode = message.opcode

theorem prepare_carries (s : Session) (nextExchangeId : UInt16) (target : OutboundExchange)
    (message : Message) :
    ∃ header, Carries (s.prepare nextExchangeId target message) message
      (s.effectiveReliable message) header :=
  ⟨_, decodeProtocolHeader_encode _ _ rfl, rfl, rfl, rfl, rfl, rfl, rfl⟩

/-- The receiver takes the message for an acknowledgement alone. -/
theorem Carries.isStandaloneAck {reliable : Bool}
    (carries : Carries prepared message reliable header) :
    header.isStandaloneAck message.appPayload = true ↔
      prepared.piggybackAcked = true ∧ message.opcode = standaloneAck ∧
        message.appPayload = [] ∧ reliable = false := by
  simp [ProtocolHeader.isStandaloneAck, carries.ack, carries.opcode, carries.reliable, and_assoc]

section Receive
variable {packet plaintext appPayload : Bytes} {header : SecuredMessageHeader}
variable {message : ProtocolHeader} {now : Instant}

/-- A fresh acknowledgement alone is not handed to the application. -/
theorem perform_acknowledges (authentic : s.authenticate aead packet = .ok (header, plaintext))
    (accepted : s.replayWindow.classify header.messageCounter = .ok ())
    (decoded : decodeProtocolHeader plaintext = .ok (message, appPayload))
    (room : s.mrp.exchanges.card < maxExchangesPerSession)
    (standalone : message.isStandaloneAck appPayload = true) :
    (s.perform aead id (.receive packet now)).1 = .received (.ok (.ackOnly header.sessionId
      message.exchangeId (message.ackCounter.getD 0))) := by
  have admitted : ¬ (message.inboundExchange ∉ s.mrp.exchanges ∧
      s.mrp.exchanges.card ≥ maxExchangesPerSession) := by
    rintro ⟨_, crowded⟩
    omega
  rw [perform_fresh authentic accepted]
  simp [deliver, MrpState.processInbound, decoded, MrpState.noteActivity, if_neg admitted,
    standalone]

end Receive

/-- A successful send encrypts the prepared message under the session's next counter. -/
theorem encodeOn_ok (encoded : (s.encodeOn aead nextExchangeId target message now).1 = .ok sent) :
    s.encryptNext aead (s.prepare nextExchangeId target message).wirePayload = .ok sent.wireBytes ∧
      sent.exchangeId = (s.prepare nextExchangeId target message).exchangeId ∧
      sent.isLocalInitiator = (s.prepare nextExchangeId target message).isLocalInitiator ∧
      sent.messageCounter = s.outboundCounter ∧
      (s.encodeOn aead nextExchangeId target message now).2 =
        s.commitSend (s.prepare nextExchangeId target message) sent.wireBytes
          (s.effectiveReliable message) now := by
  have cases := encodeOn_cases aead s nextExchangeId target message now
  generalize s.encodeOn aead nextExchangeId target message now = result at cases encoded
  cases cases with
  | overflow | refused => cases encoded
  | sent spare encrypted =>
    cases encoded
    exact ⟨encrypted, rfl, rfl, rfl, rfl⟩

theorem encodeOn_succeeds (aead : Aead) (s : Session) (nextExchangeId : UInt16)
    (target : OutboundExchange) (message : Message) (now : Instant)
    (spare : s.outboundCounter ≠ u32Max)
    (short : (s.prepare nextExchangeId target message).wirePayload.length ≤ maxPayloadLen) :
    ∃ sent, (s.encodeOn aead nextExchangeId target message now).1 = .ok sent := by
  obtain ⟨packet, encrypted⟩ := encodeSecured_plain aead s.peerId s.outboundCounter s.outboundKey
    s.localNonceNodeId short
  have encrypts : s.encryptNext aead (s.prepare nextExchangeId target message).wirePayload =
      .ok packet := encrypted
  simp only [encodeOn, if_neg spare, encrypts]
  exact ⟨_, rfl⟩

/-- An acknowledgement waits for the next message on the exchange. -/
def owesAck (s : Session) (exchange : ExchangeKey) : Bool :=
  (s.mrp.pendingOutboundAcks.lookup exchange).isSome

theorem prepare_piggybackAcked (s : Session) (nextExchangeId : UInt16) (target : OutboundExchange)
    (message : Message) :
    (s.prepare nextExchangeId target message).piggybackAcked =
      s.owesAck (s.outboundExchange nextExchangeId target) := by
  simp [prepare, MrpState.buildOutbound, owesAck]

/-- The other end takes the message for an acknowledgement alone. -/
def LooksLikeAck (s : Session) (exchange : ExchangeKey) (message : Message) : Prop :=
  s.owesAck exchange = true ∧ message.opcode = standaloneAck ∧ message.appPayload = [] ∧
    s.effectiveReliable message = false

/-- What the other end makes of a message that reaches it fresh and with room for its
exchange. -/
theorem Paired.perform_receive (paired : Paired s t)
    (encoded : (s.encodeOn aead nextExchangeId target message now).1 = .ok sent)
    (fresh : t.replayWindow.classify sent.messageCounter = .ok ())
    (room : t.mrp.exchanges.card < maxExchangesPerSession) (id : SessionId) (later : Instant) :
    (s.LooksLikeAck (s.outboundExchange nextExchangeId target) message →
      ∃ acked, (t.perform aead id (.receive sent.wireBytes later)).1 =
        .received (.ok (.ackOnly t.localId sent.exchangeId acked))) ∧
    (¬ s.LooksLikeAck (s.outboundExchange nextExchangeId target) message →
      (t.perform aead id (.receive sent.wireBytes later)).1 =
        .received (.ok (.appMessage t.localId sent.exchangeId sent.isLocalInitiator
          message.protocolId message.opcode message.appPayload))) := by
  obtain ⟨encrypted, exchangeId, initiator, counter, _⟩ := encodeOn_ok encoded
  obtain ⟨header, carries⟩ := s.prepare_carries nextExchangeId target message
  have authentic := paired.authenticate encrypted
  rw [counter] at fresh
  rw [LooksLikeAck, exchangeId, initiator, ← prepare_piggybackAcked, ← carries.isStandaloneAck,
    ← carries.exchangeId, ← carries.initiator, ← carries.protocolId, ← carries.opcode]
  constructor
  · intro standalone
    exact ⟨_, perform_acknowledges authentic fresh carries.decoded room standalone⟩
  · intro application
    have performed : t.perform aead id (.receive sent.wireBytes later) = _ :=
      perform_delivers authentic fresh carries.decoded (Or.inr room)
        (Bool.eq_false_iff.mpr application)
    rw [performed]
    rfl

/-- A delivered message that asks for an acknowledgement leaves one buffered on its
exchange. -/
theorem deliveredMrp_owes (reliable : header.exchangeFlags.reliable = true)
    (counter : MessageCounter) (now : Instant) :
    ((s.deliveredMrp header counter now).pendingOutboundAcks.lookup header.inboundExchange).isSome
      = true := by
  simp [deliveredMrp, MrpState.reclaimIfIdle_pendingOutboundAcks, MrpState.noteReliable, reliable,
    MrpState.rememberReliable, MrpState.owe]

/-- The other end owes an acknowledgement of a reliable message it has heard. -/
theorem Paired.owes (paired : Paired s t)
    (encoded : (s.encodeOn aead nextExchangeId target message now).1 = .ok sent)
    (fresh : t.replayWindow.classify sent.messageCounter = .ok ())
    (room : t.mrp.exchanges.card < maxExchangesPerSession)
    (reliable : s.effectiveReliable message = true) (unreliable : t.transportReliable = false)
    (id : SessionId) (later : Instant) :
    let heard := (t.perform aead id (.receive sent.wireBytes later)).2
    heard.outboundCounter = t.outboundCounter ∧
      (heard.mrp.pendingOutboundAcks.lookup
        (.ofInbound sent.exchangeId sent.isLocalInitiator)).isSome = true := by
  obtain ⟨encrypted, exchangeId, initiator, counter, _⟩ := encodeOn_ok encoded
  obtain ⟨header, carries⟩ := s.prepare_carries nextExchangeId target message
  rw [counter] at fresh
  have asks : header.exchangeFlags.reliable = true := carries.reliable.trans reliable
  have performed : t.perform aead id (.receive sent.wireBytes later) = _ :=
    perform_delivers (paired.authenticate encrypted) fresh carries.decoded (Or.inr room)
      (by simp [ProtocolHeader.isStandaloneAck, asks])
  rw [performed, exchangeId, initiator, ← carries.exchangeId, ← carries.initiator]
  simp only [unreliable, Bool.false_eq_true, if_false]
  exact ⟨trivial, deliveredMrp_owes asks _ _⟩

end Session

namespace SessionManager
variable {aead : Aead} {id : SessionId} {s t : Session} {m : SessionManager}

theorem encodeOn_session (found : m.sessions.lookup id = some s) (target : OutboundExchange)
    (message : Message) (now : Instant) :
    (m.encodeOn aead id target message now).1 =
        (s.encodeOn aead m.nextExchangeId target message now).1 ∧
      (m.encodeOn aead id target message now).2.sessions.lookup id =
        some (s.encodeOn aead m.nextExchangeId target message now).2 := by
  simp [encodeOn, found]

/-- The session an encrypted packet is addressed to performs it. -/
theorem decodeInbound_paired (found : m.sessions.lookup id = some t) (own : t.localId = id)
    (paired : s.Paired t) (encrypted : s.encryptNext aead payload = .ok packet) (now : Instant) :
    .received (m.decodeInbound aead packet now).1 =
        (t.perform aead id (.receive packet now)).1 ∧
      (m.decodeInbound aead packet now).2.sessions.lookup id =
        some (t.perform aead id (.receive packet now)).2 := by
  obtain ⟨rest, parsed, _⟩ := Session.of_authenticate (paired.authenticate encrypted)
  exact decodeInbound_addressed found parsed own now

end SessionManager

open SessionManager

/-- A message sent on one end of a secure session reaches the application at the other
end as it was sent, exactly if it is not an empty unreliable message of opcode `0x10`
on an exchange that owes an acknowledgement, whatever its protocol. -/
theorem secured_round_trip (aead : Aead) (a b : SessionManager) (id : SessionId) (s t : Session)
    (target : OutboundExchange) (message : Message) (now later : Instant)
    (sent : EncodeOutboundOutput)
    (near : a.sessions.lookup id = some s) (far : b.sessions.lookup t.localId = some t)
    (paired : s.Paired t) (encoded : (a.encodeOn aead id target message now).1 = .ok sent)
    (fresh : t.replayWindow.classify sent.messageCounter = .ok ())
    (room : t.mrp.exchanges.card < maxExchangesPerSession) :
    (b.decodeInbound aead sent.wireBytes later).1 =
        .ok (.appMessage t.localId sent.exchangeId sent.isLocalInitiator message.protocolId
          message.opcode message.appPayload) ↔
      ¬ (s.owesAck (s.outboundExchange a.nextExchangeId target) = true ∧
        message.opcode = standaloneAck ∧ message.appPayload = [] ∧
        s.effectiveReliable message = false) := by
  rw [(encodeOn_session near target message now).1] at encoded
  obtain ⟨encrypted, _⟩ := Session.encodeOn_ok encoded
  obtain ⟨received, _⟩ := decodeInbound_paired far rfl paired encrypted later
  obtain ⟨acks, delivers⟩ := paired.perform_receive encoded fresh room t.localId later
  rw [← received] at acks delivers
  constructor
  · intro delivered standalone
    obtain ⟨acked, taken⟩ := acks standalone
    rw [delivered] at taken
    cases Outcome.received.inj taken
  · intro application
    exact Outcome.received.inj (delivers application)

/-- The other end of the session established by pairing. -/
def pairingPeer : Registration where
  localId := 1
  keys := ⟨List.replicate 16 1, List.replicate 16 2⟩
  role := .responder
  peerSessionId := 1

/-- A request on a new exchange. -/
def readRequest : Message := ⟨2, .interactionModel, [0x15, 0x18], ⟨true⟩⟩

theorem pairing_paired (m n : SessionManager) (draws draws' : Draws) :
    (m.freshSession pairing draws).Paired (n.freshSession pairingPeer draws') where
  addressed := rfl
  answered := rfl
  roles := fun same => by cases same
  keys := rfl
  sender := rfl
  receiver := rfl

theorem request_round_trips :
    let a := (new 7).register pairing pairingDraws
    let b := (new 0).register pairingPeer pairingDraws
    ∃ sent, (a.encodeOn .aes128Ccm 1 .new readRequest 0).1 = .ok sent ∧
      (b.decodeInbound .aes128Ccm sent.wireBytes 0).1 =
        .ok (.appMessage 1 sent.exchangeId sent.isLocalInitiator .interactionModel 2
          [0x15, 0x18]) := by
  intro a b
  obtain ⟨sent, encoded⟩ := Session.encodeOn_succeeds .aes128Ccm
    ((new 7).freshSession pairing pairingDraws) 7 .new readRequest 0
    (by decide) (by decide)
  have near := lookup_register (.new 7) pairing pairingDraws
  have far := lookup_register (.new 0) pairingPeer pairingDraws
  obtain ⟨_, _, _, counter, _⟩ := Session.encodeOn_ok encoded
  have started : (a.encodeOn .aes128Ccm 1 .new readRequest 0).1 = .ok sent :=
    (encodeOn_session near .new readRequest 0).1.trans encoded
  refine ⟨sent, started, ?_⟩
  apply (secured_round_trip .aes128Ccm a b 1 _ _ .new readRequest 0 0 sent near far
    (pairing_paired _ _ _ _) started _ (by decide)).mpr
  · rintro ⟨_, opcode, _⟩
    exact absurd opcode (by decide)
  · rw [counter]
    rfl

/-- An empty message of the interaction model whose opcode is that of a standalone
acknowledgement in the secure channel protocol. -/
def emptyAnswer : Message := ⟨standaloneAck, .interactionModel, [], ⟨false⟩⟩

/-- The responder's answer, from the session that heard the request. -/
theorem Session.answer_looksLikeAck (aead : Aead) {s : Session}
    (owes : s.owesAck exchange = true)
    (spare : s.outboundCounter ≠ u32Max) (nextExchangeId : UInt16) (now : Instant) :
    ∃ answered, (s.encodeOn aead nextExchangeId (.exact exchange) emptyAnswer now).1 = .ok answered ∧
      s.LooksLikeAck exchange emptyAnswer ∧ answered.exchangeId = exchange.id ∧
      answered.messageCounter = s.outboundCounter := by
  have short : (s.prepare nextExchangeId (.exact exchange) emptyAnswer).wirePayload.length ≤
      maxPayloadLen := by
    have header := ProtocolHeader.length_encode_le
    simp only [prepare, MrpState.buildOutbound, emptyAnswer, List.append_nil, maxPayloadLen]
    exact (header _).trans (by decide)
  obtain ⟨answered, encoded⟩ := s.encodeOn_succeeds aead nextExchangeId (.exact exchange)
    emptyAnswer now spare short
  obtain ⟨_, exchangeId, _, counter, _⟩ := encodeOn_ok encoded
  exact ⟨answered, encoded, ⟨owes, rfl, rfl, rfl⟩, exchangeId, counter⟩

/-- On the two ends of a paired session, the answer is taken for an acknowledgement. -/
theorem answer_taken_for_ack (aead : Aead) :
    let a := (new 0).register pairing pairingDraws
    let b := (new 7).register pairingPeer pairingDraws
    ∃ asked answered acked,
      (b.encodeOn aead 1 .new readRequest 0).1 = .ok asked ∧
      ((a.decodeInbound aead asked.wireBytes 0).2.encodeOn aead 1 (.exact ⟨7, false⟩)
        emptyAnswer 0).1 = .ok answered ∧
      ((b.encodeOn aead 1 .new readRequest 0).2.decodeInbound aead answered.wireBytes 0).1 =
        .ok (.ackOnly 1 7 acked) := by
  intro a b
  let s := (new 0).freshSession pairing pairingDraws
  let t := (new 7).freshSession pairingPeer pairingDraws
  have near : a.sessions.lookup 1 = some s := lookup_register _ _ _
  have far : b.sessions.lookup 1 = some t := lookup_register _ _ _
  have paired : s.Paired t := pairing_paired _ _ _ _
  -- The request goes out on exchange 7.
  obtain ⟨asked, encoded⟩ := t.encodeOn_succeeds aead 7 .new readRequest 0 (by decide) (by decide)
  obtain ⟨encrypted, exchangeId, initiator, counter, sending⟩ := Session.encodeOn_ok encoded
  obtain ⟨asks, waiting⟩ : (b.encodeOn aead 1 .new readRequest 0).1 = _ ∧ _ :=
    encodeOn_session far .new readRequest 0
  -- It is heard, and its acknowledgement waits for the answer.
  obtain ⟨_, heard⟩ := decodeInbound_paired near rfl paired.symm encrypted 0
  have continues := (Session.step_steps aead 1 s (.receive asked.wireBytes 0)).continues
  obtain ⟨spare, owes⟩ := paired.symm.owes encoded (by rw [counter]; rfl) (by decide) rfl rfl 1 0
  rw [exchangeId, initiator] at owes
  change Session.Continues s (s.perform aead 1 (.receive asked.wireBytes 0)).2 at continues
  generalize (s.perform aead 1 (.receive asked.wireBytes 0)).2 = s' at heard spare owes continues
  -- The answer carries that acknowledgement.
  obtain ⟨answered, answers, looks, answeredOn, answerCounter⟩ := s'.answer_looksLikeAck aead owes
    (by rw [spare]; decide) (a.decodeInbound aead asked.wireBytes 0).2.nextExchangeId 0
  obtain ⟨replies, _⟩ : ((a.decodeInbound aead asked.wireBytes 0).2.encodeOn aead 1
      (.exact ⟨7, false⟩) emptyAnswer 0).1 = _ ∧ _ :=
    encodeOn_session heard (.exact ⟨7, false⟩) emptyAnswer 0
  have sends : (t.encodeOn aead b.nextExchangeId .new readRequest 0).2 =
      t.commitSend (t.prepare 7 .new readRequest) asked.wireBytes true 0 := sending
  rw [sends] at waiting
  have paired' : s'.Paired (t.commitSend (t.prepare 7 .new readRequest) asked.wireBytes true 0) :=
    paired.continues continues rfl
  have fresh : t.replayWindow.classify answered.messageCounter = .ok () := by
    rw [answerCounter, spare]
    rfl
  have room : (insert ⟨7, true⟩ ∅ : Finset ExchangeKey).card < maxExchangesPerSession := by decide
  obtain ⟨replied, _⟩ := Session.encodeOn_ok answers
  obtain ⟨received, _⟩ := decodeInbound_paired waiting rfl paired' replied 0
  obtain ⟨acks, _⟩ := paired'.perform_receive answers fresh room 1 0
  obtain ⟨acked, taken⟩ := acks looks
  refine ⟨asked, answered, acked, asks.trans encoded, replies.trans answers, ?_⟩
  rw [Outcome.received.inj (received.trans taken), answeredOn]
  rfl

/-- An application message of the interaction model is not handed to the application. -/
theorem application_message_taken_for_ack :
    let a := (new 0).register pairing pairingDraws
    let b := (new 7).register pairingPeer pairingDraws
    ∃ asked answered acked,
      (b.encodeOutbound .aes128Ccm 1 none readRequest 0).1 = .ok asked ∧
      ((a.decodeInbound .aes128Ccm asked.wireBytes 0).2.encodeOutboundWithRole .aes128Ccm 1 7 false
        emptyAnswer 0).1 = .ok answered ∧
      ((b.encodeOutbound .aes128Ccm 1 none readRequest 0).2.decodeInbound .aes128Ccm
        answered.wireBytes 0).1 = .ok (.ackOnly 1 7 acked) :=
  answer_taken_for_ack .aes128Ccm

end Matter.Transport
