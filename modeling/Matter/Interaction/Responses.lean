import Matter.Interaction.Reports

/-! `WriteResponseMessage`, `InvokeResponseMessage` and
`SubscribeResponseMessage`, and the completeness of all response parsers: each
takes exactly one whole message. -/
namespace Matter.Interaction
open Codec TlvReader

def writeResponsesMember (out : List (AttributePath × ImStatus)) :
    ElementRef → ImM (List (AttributePath × ImStatus))
  | .containerStart _ .struct => do
    let status ← parseAttributeStatusIb
    return out ++ [status]
  | element => skipMember out element

def writeResponseMessage : ImM (List (AttributePath × ImStatus)) := do
  expectMessageStruct
  if ← findArray 0 then
    let out ← eachMember unclosed writeResponsesMember []
    fromCodec .codec finish
    return out
  else
    fromCodec .codec finish
    return []

def parseWriteResponse (bytes : Octets) : Except ImError (List (AttributePath × ImStatus)) :=
  parseWhole writeResponseMessage bytes

inductive InvokeResponse where
  | command (path : CommandPath) (fieldsTlv : Bytes)
  | status (status : ImStatus)
  deriving DecidableEq, Repr

structure InvokeResponseEntry where
  commandRef : Option UInt16
  response : InvokeResponse
  deriving DecidableEq, Repr

/-- The body of the container that was just opened under an anonymous header of
the same kind. -/
def retagContainerAnonymous (kind : ContainerKind) : ImM Bytes := do
  let span ← fromCodec .codec skipContainerSpan
  let r ← get
  return encodeTag .anonymous (.container kind) ++ r.spanBytes span.bodyStart span.stop

def emptyAnonymousStruct : Bytes :=
  encodeTag .anonymous (.container .struct) ++ [ElementType.endOfContainer.code]

structure CommandPathFields where
  endpoint : Option UInt16 := none
  cluster : Option UInt32 := none
  command : Option UInt32 := none

def commandPathMember (fields : CommandPathFields) : ElementRef → ImM CommandPathFields
  | .scalar (.context 0) (.uint n) => do
    let endpoint ← okOr (.unexpectedValue "CommandPath.endpoint exceeds u16") (u16TryFrom n)
    return { fields with endpoint := some endpoint }
  | .scalar (.context 1) (.uint n) => do
    let cluster ← okOr (.unexpectedValue "CommandPath.cluster exceeds u32") (u32TryFrom n)
    return { fields with cluster := some cluster }
  | .scalar (.context 2) (.uint n) => do
    let command ← okOr (.unexpectedValue "CommandPath.command exceeds u32") (u32TryFrom n)
    return { fields with command := some command }
  | element => skipMember fields element

def commandPathFromReader : ImM CommandPath := do
  let fields ← eachMember unclosed commandPathMember {}
  let endpoint ← okOr (.missingField "CommandPath.endpoint") fields.endpoint
  let cluster ← okOr (.missingField "CommandPath.cluster") fields.cluster
  let command ← okOr (.missingField "CommandPath.command") fields.command
  return ⟨endpoint, cluster, command⟩

structure CommandDataFields where
  path : Option CommandPath := none
  fields : Bytes := []
  commandRef : Option UInt16 := none

def commandDataMember (data : CommandDataFields) : ElementRef → ImM CommandDataFields
  | .containerStart (.context 0) .list => do
    let path ← commandPathFromReader
    return { data with path := some path }
  | .containerStart (.context 1) kind => do
    let fields ← retagContainerAnonymous kind
    return { data with fields := fields }
  | .scalar (.context 2) (.uint n) => return { data with commandRef := u16TryFrom n }
  | element => skipMember data element

def parseCommandDataRef : ImM (CommandPath × Bytes × Option UInt16) := do
  let data ← eachMember (.missingField "CommandDataIB.body") commandDataMember {}
  let fields := if data.fields.isEmpty then emptyAnonymousStruct else data.fields
  let path ← okOr (.missingField "CommandDataIB.CommandPath") data.path
  return (path, fields, data.commandRef)

def parseCommandData : ImM (CommandPath × Bytes) := do
  let (path, fields, _) ← parseCommandDataRef
  return (path, fields)

def commandStatusIbMember (status : Option UInt64) : ElementRef → ImM (Option UInt64)
  | .scalar (.context 0) (.uint n) => return some n
  | element => skipMember status element

def commandStatusMember (fields : Option UInt64 × Option UInt16) :
    ElementRef → ImM (Option UInt64 × Option UInt16)
  | .containerStart (.context 1) .struct => do
    let status ← eachMember unclosed commandStatusIbMember fields.1
    return (status, fields.2)
  | .scalar (.context 2) (.uint n) => return (fields.1, u16TryFrom n)
  | element => skipMember fields element

def parseCommandStatusRef : ImM (ImStatus × Option UInt16) := do
  let (status, commandRef) ←
    eachMember (.missingField "CommandStatusIB.body") commandStatusMember (none, none)
  let raw ← okOr (.missingField "StatusIB.Status") status
  let code ← okOr (.invalidStatusCode raw) (u8TryFrom raw)
  return (.fromU8 code, commandRef)

def parseCommandStatus : ImM ImStatus := do
  let (status, _) ← parseCommandStatusRef
  return status

/-- The loop over the first `InvokeResponseIB`, which stops at the first command
or status in it. -/
def firstResponse (_ : Unit) : ElementRef → ImM (Flow Unit InvokeResponse)
  | .containerEnd => throw .emptyInvokeResponse
  | .containerStart (.context 0) .struct => do
    let (path, fields) ← parseCommandData
    return .leave (.command path fields)
  | .containerStart (.context 1) .struct => do
    let status ← parseCommandStatus
    return .leave (.status status)
  | element => return .again (← skipMember () element)

def expectInvokeResponseIb : ImM Unit := do
  match ← nextElement .codec (.missingField "InvokeResponseIB") with
  | .containerStart _ .struct => return ()
  | _ => throw (.missingField "InvokeResponseIB")

def invokeResponseMessage : ImM InvokeResponse := do
  expectMessageStruct
  if ← findArray 1 then
    expectInvokeResponseIb
    let response ← elements .codec unclosed firstResponse ()
    fromCodec .codec finish
    return response
  else throw (.missingField "InvokeResponses")

def parseInvokeResponse (bytes : Octets) : Except ImError InvokeResponse :=
  parseWhole invokeResponseMessage bytes

def invokeResponseIbMember (entry : Option InvokeResponseEntry) :
    ElementRef → ImM (Option InvokeResponseEntry)
  | .containerStart (.context 0) .struct => do
    let (path, fields, commandRef) ← parseCommandDataRef
    return some ⟨commandRef, .command path fields⟩
  | .containerStart (.context 1) .struct => do
    let (status, commandRef) ← parseCommandStatusRef
    return some ⟨commandRef, .status status⟩
  | element => skipMember entry element

def parseInvokeResponseIb : ImM InvokeResponseEntry := do
  let entry ← eachMember unclosed invokeResponseIbMember none
  okOr .emptyInvokeResponse entry

def invokeResponsesMember (out : List InvokeResponseEntry) :
    ElementRef → ImM (List InvokeResponseEntry)
  | .containerStart _ .struct => do
    let entry ← parseInvokeResponseIb
    return out ++ [entry]
  | element => skipMember out element

def invokeResponseBatchMessage : ImM (List InvokeResponseEntry) := do
  expectMessageStruct
  if ← findArray 1 then
    let out ← eachMember unclosed invokeResponsesMember []
    fromCodec .codec finish
    return out
  else throw (.missingField "InvokeResponses")

def parseInvokeResponseBatch (bytes : Octets) : Except ImError (List InvokeResponseEntry) :=
  parseWhole invokeResponseBatchMessage bytes

structure SubscribeResponse where
  subscriptionId : UInt32
  maxInterval : UInt16
  deriving DecidableEq, Repr

def subscribeResponseMember (fields : Option UInt32 × Option UInt16) :
    ElementRef → ImM (Option UInt32 × Option UInt16)
  | .scalar (.context 0) (.uint n) => do
    let id ← okOr (.unexpectedValue "SubscribeResponse.subscriptionId exceeds u32") (u32TryFrom n)
    return (some id, fields.2)
  | .scalar (.context 2) (.uint n) => do
    let interval ←
      okOr (.unexpectedValue "SubscribeResponse.maxInterval exceeds u16") (u16TryFrom n)
    return (fields.1, some interval)
  | element => skipMember fields element

def subscribeResponseMessage : ImM SubscribeResponse := do
  expectMessageStruct
  let fields ← eachMember unclosed subscribeResponseMember (none, none)
  fromCodec .codec finish
  let subscriptionId ← okOr (.missingField "SubscribeResponse.subscriptionId") fields.1
  let maxInterval ← okOr (.missingField "SubscribeResponse.maxInterval") fields.2
  return ⟨subscriptionId, maxInterval⟩

def parseSubscribeResponse (bytes : Octets) : Except ImError SubscribeResponse :=
  parseWhole subscribeResponseMessage bytes

theorem closing_writeResponseMessage : Closing writeResponseMessage := by
  have members : ∀ out element, Forward (writeResponsesMember out element) := by
    intro out element
    unfold writeResponsesMember
    split
    · exact forward_parseAttributeStatusIb.bind_pure
    · exact forward_skipMember out _
  refine .bind forward_expectMessageStruct fun _ => .bind (forward_findArray 0) fun found => .ite ?_ ?_
  · exact .bind (forward_eachMember members _) fun _ => closing_finish.fromCodec.followed
  · exact closing_finish.fromCodec.followed

theorem forward_retagContainerAnonymous (kind : ContainerKind) :
    Forward (retagContainerAnonymous kind) := by
  intro r blob r' bound ran
  obtain ⟨span, r₁, spanRan, restRan⟩ := Exits.of_run_bind_ok ran
  obtain ⟨settled, stop⟩ := skipContainerSpan_settled bound (fromCodec_ok.mp spanRan)
  cases restRan
  refine ⟨settled.onward, fun longer extends_ => ?_⟩
  have within : span.stop ≤ r'.input.bytes.length := stop ▸ settled.onward.within
  have same : (r'.before longer).spanBytes span.bodyStart span.stop = _ :=
    spanBytes_before (settled.onward.input ▸ extends_) within
  rw [retagContainerAnonymous, Exits.run_bind_ok (settled.fromCodec.again longer extends_),
    Exits.run_bind_ok (EStateM.run_get _), same]
  rfl

theorem forward_commandPathFromReader : Forward commandPathFromReader := by
  refine (forward_eachMember (fun fields element => ?_) _).bind fun fields => ?_
  · unfold commandPathMember
    split
    · exact (forward_okOr _ _).bind_pure
    · exact (forward_okOr _ _).bind_pure
    · exact (forward_okOr _ _).bind_pure
    · exact forward_skipMember fields _
  · exact (forward_okOr _ _).bind fun _ => (forward_okOr _ _).bind fun _ =>
      (forward_okOr _ _).bind_pure

theorem forward_parseCommandDataRef : Forward parseCommandDataRef := by
  refine (forward_eachMember (fun data element => ?_) _).bind fun data => ?_
  · unfold commandDataMember
    split
    · exact forward_commandPathFromReader.bind_pure
    · exact (forward_retagContainerAnonymous _).bind_pure
    · exact .pure _
    · exact forward_skipMember data _
  · exact (forward_okOr _ _).bind_pure

theorem forward_parseCommandStatusRef : Forward parseCommandStatusRef := by
  refine (forward_eachMember (fun fields element => ?_) _).bind fun fields => ?_
  · unfold commandStatusMember
    split
    · refine (forward_eachMember (fun status element => ?_) _).bind_pure
      unfold commandStatusIbMember
      split
      · exact .pure _
      · exact forward_skipMember status _
    · exact .pure _
    · exact forward_skipMember fields _
  · exact (forward_okOr _ _).bind fun _ => (forward_okOr _ _).bind_pure

theorem forward_firstResponse (state : Unit) (element : ElementRef) :
    Forward (firstResponse state element) := by
  unfold firstResponse
  split
  · exact .throw _
  · exact (forward_parseCommandDataRef.bind_pure).bind_pure
  · exact (forward_parseCommandStatusRef.bind_pure).bind_pure
  · exact (forward_skipMember _ _).bind_pure

theorem closing_invokeResponseMessage : Closing invokeResponseMessage := by
  have block : Forward expectInvokeResponseIb := by
    refine (forward_nextElement _ _).bind fun element => ?_
    split
    · exact .pure _
    · exact .throw _
  refine .bind forward_expectMessageStruct fun _ => .bind (forward_findArray 1) fun found => .ite ?_ ?_
  · refine .bind block fun _ => .bind (forward_elements forward_firstResponse _) fun response => ?_
    exact closing_finish.fromCodec.followed
  · exact .throw _

theorem closing_invokeResponseBatchMessage : Closing invokeResponseBatchMessage := by
  have block : Forward parseInvokeResponseIb := by
    refine (forward_eachMember (fun entry element => ?_) _).bind fun entry => forward_okOr _ entry
    unfold invokeResponseIbMember
    split
    · exact forward_parseCommandDataRef.bind_pure
    · exact forward_parseCommandStatusRef.bind_pure
    · exact forward_skipMember entry _
  have members : ∀ out element, Forward (invokeResponsesMember out element) := by
    intro out element
    unfold invokeResponsesMember
    split
    · exact block.bind_pure
    · exact forward_skipMember out _
  refine .bind forward_expectMessageStruct fun _ => .bind (forward_findArray 1) fun found => .ite ?_ ?_
  · exact .bind (forward_eachMember members _) fun _ => closing_finish.fromCodec.followed
  · exact .throw _

theorem closing_subscribeResponseMessage : Closing subscribeResponseMessage := by
  have members : ∀ fields element, Forward (subscribeResponseMember fields element) := by
    intro fields element
    unfold subscribeResponseMember
    split
    · exact (forward_okOr _ _).bind_pure
    · exact (forward_okOr _ _).bind_pure
    · exact forward_skipMember fields _
  refine .bind forward_expectMessageStruct fun _ => ?_
  exact .bind (forward_eachMember members _) fun fields => closing_finish.fromCodec.followed

/-- Of a message that a parser accepts, it accepts neither a part cut off at the
end nor the message with anything after it. -/
theorem only_complete_messages_accepted :
    OnlyComplete parseReportData ∧ OnlyComplete parseWriteResponse ∧
      OnlyComplete parseInvokeResponse ∧ OnlyComplete parseInvokeResponseBatch ∧
      OnlyComplete parseSubscribeResponse :=
  ⟨closing_reportDataMessage.onlyComplete, closing_writeResponseMessage.onlyComplete,
    closing_invokeResponseMessage.onlyComplete, closing_invokeResponseBatchMessage.onlyComplete,
    closing_subscribeResponseMessage.onlyComplete⟩

/-- A subscription response, and what is left of it without its last byte. -/
example :
    parseSubscribeResponse ⟨[0x15, 0x24, 0, 7, 0x24, 2, 60, 0x18], by decide⟩ = .ok ⟨7, 60⟩ ∧
      parseSubscribeResponse ⟨[0x15, 0x24, 0, 7, 0x24, 2, 60], by decide⟩ = .error unclosed := by
  decide +kernel

end Matter.Interaction
