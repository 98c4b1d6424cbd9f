import Matter.Bdx.Sender
import Matter.Commissioning.Unsecured
import Matter.Interaction.Invoke
import Matter.Transport.Secured

/-! The provider of a software update, `serve_ota_once`: sessions accepted one after another,
and on each of them the commands and the blocks of the update. A step is a datagram, a pass
of the session's timers or the outcome of a handshake. What goes wrong on the socket is part
of the input. -/
namespace Matter.Controller
open Transport hiding Error
open Commissioning Bdx Interaction Runs

def opSigma1 : UInt8 := 0x30
def opInvokeRequest : UInt8 := 0x08
def opInvokeResponse : UInt8 := 0x09
def maxAwaitSigma1Discards : Nat := 64
def otaProviderCluster : UInt32 := 0x0029
def cmdQueryImage : UInt32 := 0x00
def cmdQueryImageResponse : UInt32 := 0x01
def cmdApplyUpdateRequest : UInt32 := 0x02
def cmdApplyUpdateResponse : UInt32 := 0x03
def cmdNotifyUpdateApplied : UInt32 := 0x04

/-- The command handlers for the image on offer. -/
structure OtaHandlers where
  handleQueryImage : Bytes → Except String Bytes
  handleApplyUpdateRequest : Bytes → Except String Bytes
  parseNotifyUpdateApplied : Bytes → Except String (Bytes × UInt32)

structure OtaServer where
  aead : Crypto.Aead
  handlers : OtaHandlers
  image : Bytes
  maxBlockSize : UInt16

inductive ServeError where
  | poolExhausted
  | handshake (message : String)
  | io (message : String)
  | transport (error : Transport.Error)
  | interactionModel (error : ImError)
  | noCommand
  | command (name message : String)
  | panicked (error : Codec.Error)
  | unexpectedCommand (command : UInt32)
  | statusReportTruncated
  | abortedByPeer (general : UInt16) (protocol : UInt32) (status : UInt16)
  | unknownBdxOpcode (opcode : UInt8)
  | bdxDecode (error : BdxError)
  | beforeQueryImage
  | unexpectedBdxMessage
  | aborted (status : UInt16)
  | incomplete (progress iterations : Nat)
  deriving DecidableEq

/-- A session being served. The exchange of the handshake that opened it is not kept by the
source. -/
structure Serving where
  sessions : SessionManager
  sid : SessionId
  exchange : UInt16
  progress : Nat := 0
  iterations : Nat := 0

inductive Phase where
  | accepting (discarded : Nat)
  | handshaking (sigma1 : UnsecuredMessage)
  | serving (s : Serving)
  | ended (result : Except ServeError Unit)

structure Serve where
  credentials : Nat
  bdx : Option BlockSender
  phase : Phase

structure AcceptedSession where
  sessions : SessionManager
  sessionId : SessionId
  nextHandshake : Option Bytes
  pendingSecured : Option Bytes

inductive ServeInput where
  | datagram (received : Except String Bytes) (now : Instant) (sent : Except String Unit)
  | timers (now : Instant) (order : List MessageCounter) (sent : Except String Unit)
  | handshake (outcome : Except String AcceptedSession) (now : Instant) (sent : Except String Unit)

/-- What is handed to the socket: a reply, or a packet the session made. -/
inductive ServeOutput where
  | reply (message : Message) (wire : Bytes)
  | packet (wire : Bytes)

/-- What a message is answered with, and how the serve then ends. -/
structure Answer where
  bdx : Option BlockSender
  reply : Option Message := none
  result : Option (Except ServeError Unit) := none

def isUnsecuredFrame (frame : Bytes) : Bool :=
  3 ≤ frame.length && frame[1]? == some 0 && frame[2]? == some 0

/-! A step of the loops. -/

namespace Serve

def stop (x : Serve) (e : ServeError) : Serve := { x with phase := .ended (.error e) }

/-- `accept_case` as it waits for a Sigma1. -/
def await (x : Serve) (discarded : Nat) (frame : Bytes) : Serve :=
  match decodeUnsecured frame with
  | .ok m =>
    if m.opcode = opSigma1 then
      { x with credentials := x.credentials - 1, phase := .handshaking m }
    else discard
  | .error _ => discard
where
  -- past the budget the accept fails, and the next one starts
  discard : Serve :=
    let budget := maxAwaitSigma1Discards
    { x with phase := .accepting (if discarded + 1 ≥ budget then 0 else discarded + 1) }

def accept (x : Serve) (carried : Option Bytes) : Serve :=
  if x.credentials = 0 then x.stop .poolExhausted
  else
    match carried with
    | none => { x with phase := .accepting 0 }
    | some frame => x.await 0 frame

def retry (x : Serve) (e : ServeError) : Serve :=
  if x.credentials = 0 then x.stop e else x.accept none

end Serve

namespace OtaServer
variable (server : OtaServer)

def maxProgress : Nat := server.image.length / (max server.maxBlockSize 1).toNat + 64

def maxIterations : Nat := max (server.maxProgress * 8) 1024

/-- The head of the loop over a session's messages. -/
def resume (x : Serve) (s : Serving) : Serve :=
  { x with phase :=
      if s.progress < server.maxProgress ∧ s.iterations < server.maxIterations then .serving s
      else .ended (.error (.incomplete s.progress s.iterations)) }

def sender : BlockSender := .fromShared server.image server.maxBlockSize

def invokeReply (payload : Bytes) : Message := ⟨opInvokeResponse, .interactionModel, payload, ⟨false⟩⟩

def commandReply (name : String) (command : UInt32) (fields : Except String Bytes) :
    Except ServeError Message := do
  let fields ← fields.mapError (.command name)
  let payload ← (buildInvokeResponseCommand ⟨0, otaProviderCluster, command⟩ fields).mapError .panicked
  return invokeReply payload

def answerCommand (bdx : Option BlockSender) (cmd : InvokedCommand) : Except ServeError Answer := do
  if cmd.path.command = cmdQueryImage then
    let message ← commandReply "QueryImage" cmdQueryImageResponse
      (server.handlers.handleQueryImage cmd.fieldsTlv)
    return { bdx := some server.sender, reply := some message }
  else if cmd.path.command = cmdApplyUpdateRequest then
    let message ← commandReply "ApplyUpdateRequest" cmdApplyUpdateResponse
      (server.handlers.handleApplyUpdateRequest cmd.fieldsTlv)
    return { bdx, reply := some message }
  else if cmd.path.command = cmdNotifyUpdateApplied then
    let _ ← (server.handlers.parseNotifyUpdateApplied cmd.fieldsTlv).mapError
      (.command "NotifyUpdateApplied")
    let payload ← (buildInvokeResponseStatus ⟨0, otaProviderCluster, cmdNotifyUpdateApplied⟩
      .success).mapError .panicked
    return { bdx, reply := some (invokeReply payload), result := some (.ok ()) }
  else throw (.unexpectedCommand cmd.path.command)

def answerInvoke (bdx : Option BlockSender) (payload : Codec.Octets) : Except ServeError Answer := do
  let parsed ← (parseInvokeRequest payload).mapError .interactionModel
  match parsed.commands.head? with
  | none => throw .noCommand
  | some cmd => server.answerCommand bdx cmd

/-- `MessageType::from_u8` and `BdxMessage::decode`. The messages a sender has no use for are
not decoded: they end the serve whatever they hold. -/
def decodeBdx (opcode : UInt8) (body : Bytes) : Except ServeError (Option Received) := do
  let blockCounter := (DataBlock.decode body).map (·.blockCounter)
  if opcode = 0x04 then
    return some (.receiveInit (← (TransferInit.decode body).mapError .bdxDecode))
  else if opcode = 0x10 then return some (.blockQuery (← blockCounter.mapError .bdxDecode))
  else if opcode = 0x14 then return some (.blockAckEof (← blockCounter.mapError .bdxDecode))
  else if opcode ∈ [0x01, 0x02, 0x05, 0x11, 0x12, 0x13] then return none
  else throw (.unknownBdxOpcode opcode)

def bdxOpcode : MessageType → UInt8
  | .receiveAccept => 0x05
  | .block => 0x11
  | .blockEof => 0x12

def bdxStatus : BdxStatusCode → UInt16
  | .badBlockCounter => 0x0017
  | .unexpectedMessage => 0x0018
  | .transferMethodNotSupported => 0x0050

def encodeStatusReportBody (general : UInt16) (proto : ProtocolId) (status : UInt16) : Bytes :=
  LittleEndian.encode 2 general.toNat ++
    LittleEndian.encode 4 (proto.vendor.toNat * 2 ^ 16 + proto.protocol.toNat) ++
    LittleEndian.encode 2 status.toNat

def bdxReply (out : OutgoingMessage) : Message :=
  ⟨bdxOpcode out.messageType, .bdx, out.payload, ⟨true⟩⟩

def bdxAnswer : SenderOutcome × BlockSender → Answer
  | (.send out, sender) => { bdx := some sender, reply := some (bdxReply out) }
  | (.done, sender) => { bdx := some sender }
  | (.abort code, sender) => {
      bdx := some sender
      reply := some ⟨opcodeStatusReport, .secureChannel,
        encodeStatusReportBody 1 .bdx (bdxStatus code), ⟨true⟩⟩
      result := some (.error (.aborted (bdxStatus code))) }

/-- A `ReceiveInit` starts an armed transfer over. -/
def answerBdx (bdx : Option BlockSender) (opcode : UInt8) (payload : Bytes) :
    Except ServeError Answer := do
  let message ← decodeBdx opcode payload
  let armed := if opcode = 0x04 then bdx.map fun _ => server.sender else bdx
  match armed, message with
  | none, _ => throw .beforeQueryImage
  | some _, none => throw .unexpectedBdxMessage
  | some sender, some message => return bdxAnswer (sender.answer message)

def peerAbort (payload : Bytes) : ServeError :=
  if payload.length < 8 then .statusReportTruncated
  else .abortedByPeer (.ofNat (LittleEndian.decode (payload.take 2)))
    (.ofNat (LittleEndian.decode ((payload.drop 2).take 4)))
    (.ofNat (LittleEndian.decode ((payload.drop 6).take 2)))

/-- A payload that came in a datagram is not long. -/
def octets (payload : Bytes) : Codec.Octets where
  bytes := payload.take (2 ^ 16)
  addressable := (List.length_take_le _ _).trans_lt (by decide)

def advances (protocolId : ProtocolId) (opcode : UInt8) : Bool :=
  protocolId = .interactionModel ∧ opcode = opInvokeRequest ∨ protocolId = .bdx

def answer (bdx : Option BlockSender) (protocolId : ProtocolId) (opcode : UInt8) (payload : Bytes) :
    Except ServeError Answer :=
  if protocolId = .interactionModel ∧ opcode = opInvokeRequest then
    server.answerInvoke bdx (octets payload)
  else if protocolId = .secureChannel ∧ opcode = opcodeStatusReport then .error (peerAbort payload)
  else if protocolId = .bdx then server.answerBdx bdx opcode payload
  else .ok { bdx }

/-- The notice of an abort is sent if it can be. -/
def failed (result : Option (Except ServeError Unit)) (e : ServeError) : ServeError :=
  match result with
  | some (.error aborted) => aborted
  | _ => e

def proceed (x : Serve) (s : Serving) (answer : Answer) : Serve :=
  match answer.result with
  | none => server.resume { x with bdx := answer.bdx } s
  | some result => { x with bdx := answer.bdx, phase := .ended result }

def respond (x : Serve) (s : Serving) (exchange : ExchangeKey) (answer : Answer) (now : Instant)
    (sent : Except String Unit) : List ServeOutput × Serve :=
  match answer.reply with
  | none => ([], server.proceed x s answer)
  | some message =>
    match s.sessions.encodeOutboundWithRole server.aead s.sid exchange.id exchange.isLocalInitiator
      message now with
    | (.error e, _) => ([], x.stop (failed answer.result (.transport e)))
    | (.ok out, sessions) =>
      ([.reply message out.wireBytes],
        match sent with
        | .error e => x.stop (failed answer.result (.io e))
        | .ok _ => server.proceed x { s with sessions } answer)

def serveFrame (x : Serve) (s : Serving) (wire : Bytes) (now : Instant)
    (sent : Except String Unit) : List ServeOutput × Serve :=
  let s := { s with iterations := s.iterations + 1 }
  if isUnsecuredFrame wire then ([], x.accept (some wire))
  else
    match s.sessions.decodeInbound server.aead wire now with
    | (.error _, sessions) => ([], server.resume x { s with sessions })
    | (.ok (.ackOnly ..), sessions) => ([], server.resume x { s with sessions })
    | (.ok (.duplicateReliableAckResent _ _ packet), sessions) =>
      ([.packet packet],
        match sent with
        | .error e => x.stop (.io e)
        | .ok _ => server.resume x { s with sessions })
    | (.ok (.appMessage _ exchangeId isInitiator protocolId opcode payload), sessions) =>
      match server.answer x.bdx protocolId opcode payload with
      | .error e => ([], x.stop e)
      | .ok answer =>
        let progress := if advances protocolId opcode then s.progress + 1 else s.progress
        server.respond x { s with sessions, progress } ⟨exchangeId, !isInitiator⟩ answer now sent

def timerPacket : MrpEvent → Option ServeOutput
  | .retransmit _ _ _ packet | .sendStandaloneAck _ _ packet => some (.packet packet)
  | _ => none

def step (x : Serve) : ServeInput → List ServeOutput × Serve
  | .datagram received now sent =>
    match x.phase, received with
    | .accepting discarded, .ok frame => ([], x.await discarded frame)
    | .accepting _, .error e => ([], x.retry (.io e))
    | .serving s, .ok wire => server.serveFrame x s wire now sent
    | .serving _, .error e => ([], x.stop (.io e))
    | _, _ => ([], x)
  | .timers now order sent =>
    match x.phase with
    | .serving s =>
      let fired := s.sessions.handleTimeout server.aead now [] fun _ => order
      let packets := fired.1.filterMap timerPacket
      (packets,
        match packets, sent with
        | _ :: _, .error e => x.stop (.io e)
        | _, _ => { x with phase := .serving { s with sessions := fired.2 } })
    | _ => ([], x)
  | .handshake outcome now sent =>
    match x.phase, outcome with
    | .handshaking _, .error e => ([], x.retry (.handshake e))
    | .handshaking sigma1, .ok accepted =>
      let s : Serving := ⟨accepted.sessions, accepted.sessionId, sigma1.exchangeId, 0, 0⟩
      match accepted.nextHandshake, accepted.pendingSecured with
      | some frame, _ => ([], x.accept (some frame))
      | none, some wire => server.serveFrame x s wire now sent
      | none, none => ([], server.resume x s)
    | _, _ => ([], x)

def next (x : Serve) (input : ServeInput) : Serve := (server.step x input).2

/-- Everything handed to the socket along a run. -/
def outputs (x : Serve) : List ServeInput → List ServeOutput
  | [] => []
  | input :: inputs => (server.step x input).1 ++ outputs (server.next x input) inputs

/-! Unsecured frames that arrive while a session is served. -/

/-- A Sigma1 on another exchange than that of the handshake behind the session. -/
def OpensHandshake (s : Serving) (frame : Bytes) : Prop :=
  ∃ m, decodeUnsecured frame = .ok m ∧ m.opcode = opSigma1 ∧ m.exchangeId ≠ s.exchange

/-- The input is an unsecured frame that opens no handshake, while `s` is served. -/
def Strays (s : Serving) (x : Serve) (input : ServeInput) : Prop :=
  x.phase = .serving s ∧ ∃ frame now sent, input = .datagram (.ok frame) now sent ∧
    isUnsecuredFrame frame = true ∧ ¬ OpensHandshake s frame

/-- Such a frame leaves the session and the transfer as they were, and all that comes later
is answered as if it had not arrived. -/
def Undisturbed (x : Serve) (input : ServeInput) : Prop :=
  ∀ s, Strays s x input → ∃ t, server.next x input = { x with phase := .serving t } ∧
    t.sessions = s.sessions ∧ t.sid = s.sid ∧
    ∀ later, server.outputs (server.next x input) later = server.outputs x later

theorem await_leaves (x : Serve) (discarded : Nat) (frame : Bytes) (s : Serving) :
    (x.await discarded frame).phase ≠ .serving s := by
  intro served
  unfold Serve.await at served
  split at served
  · split at served <;> cases served
  · cases served

theorem accept_leaves (x : Serve) (carried : Option Bytes) (s : Serving) :
    (x.accept carried).phase ≠ .serving s := by
  intro served
  unfold Serve.accept at served
  split at served
  · cases served
  · cases carried with
    | none => cases served
    | some frame => exact await_leaves x 0 frame s served

/-- Any unsecured frame takes the server from the session to the next accept. -/
theorem next_strays (strays : Strays s x input) :
    ∃ frame, server.next x input = x.accept (some frame) := by
  obtain ⟨serving, frame, now, sent, rfl, unsecured, _⟩ := strays
  refine ⟨frame, ?_⟩
  simp [next, step, serving, serveFrame, unsecured]

theorem undisturbed_iff (x : Serve) (input : ServeInput) :
    server.Undisturbed x input ↔ ∀ s, ¬ Strays s x input := by
  constructor
  · intro undisturbed s strays
    obtain ⟨t, kept, _⟩ := undisturbed s strays
    obtain ⟨frame, left⟩ := server.next_strays strays
    apply accept_leaves x (some frame) t
    rw [← left, kept]
  · intro none s strays
    exact absurd strays (none s)

/-- A stray unsecured frame never goes unnoticed: along a run all of them do exactly if
there is none. -/
theorem session_survives_strays_iff (server : OtaServer) (x : Serve) (inputs : List ServeInput) :
    EveryStep server.next server.Undisturbed x inputs ↔
      EveryStep server.next (fun x input => ∀ s, ¬ Strays s x input) x inputs := by
  constructor
  · intro every pre input within
    exact (server.undisturbed_iff _ input).mp (every pre input within)
  · intro every pre input within
    exact (server.undisturbed_iff _ input).mpr (every pre input within)

/-- The initiator's acknowledgement of the closing `StatusReport`. -/
def lateAck : Bytes :=
  encodeUnsecured 9 0x1234 opcodeMrpStandaloneAck .secureChannel true false (some 5) none []

def servingPeer : Serve where
  credentials := 2
  bdx := some (.fromShared [1, 2, 3] 512)
  phase := .serving {
    sessions := (SessionManager.new 0).register pairingPeer pairingDraws
    sid := 1
    exchange := 0x1234
    progress := 1
    iterations := 1 }

theorem late_acknowledgement_ends_session :
    let handlers : OtaHandlers := ⟨fun _ => .ok [], fun _ => .ok [], fun _ => .ok ([], 0)⟩
    let server : OtaServer := ⟨.aes128Ccm, handlers, [1, 2, 3], 512⟩
    ¬ EveryStep server.next server.Undisturbed servingPeer [.datagram (.ok lateAck) 0 (.ok ())] := by
  intro handlers server every
  have undisturbed := ((everyStep_cons _ _).mp every).1
  refine (server.undisturbed_iff _ _).mp undisturbed _ ⟨rfl, _, _, _, rfl, by decide, ?_⟩
  rintro ⟨m, decoded, sigma1, _⟩
  have ack : (decodeUnsecured lateAck).map (·.opcode) = .ok opcodeMrpStandaloneAck := by decide
  rw [decoded] at ack
  have opcode : m.opcode = opcodeMrpStandaloneAck := Except.ok.inj ack
  exact absurd (sigma1.symm.trans opcode) (by decide)

end OtaServer

end Matter.Controller
