import Matter.Codec.Splices
import Matter.Interaction.ListWrite
import Matter.Interaction.Responses

/-! `InvokeRequestMessage` and the command form of `InvokeResponseMessage`. The command
fields are spliced into the message under a context tag, and cut out again under an
anonymous one. -/
namespace Matter.Interaction
open Codec TlvReader TlvWriter

structure InvokedCommand where
  path : CommandPath
  fieldsTlv : Bytes
  commandRef : Option UInt16
  deriving DecidableEq, Repr

structure ParsedInvokeRequest where
  suppressResponse : Bool
  timed : Bool
  commands : List InvokedCommand
  deriving DecidableEq, Repr

structure InvokedFields where
  path : Option CommandPath := none
  fieldsTlv : Option Bytes := none
  commandRef : Option UInt16 := none

def invokedMember (data : InvokedFields) : ElementRef → ImM InvokedFields
  | .containerStart (.context 0) .list => do
    let path ← commandPathFromReader
    return { data with path := some path }
  | .containerStart (.context 1) .struct => do
    let fields ← retagContainerAnonymous .struct
    return { data with fieldsTlv := some fields }
  | .scalar (.context 2) (.uint n) => return { data with commandRef := u16TryFrom n }
  | element => skipMember data element

def readCommandData : ImM InvokedCommand := do
  let data ← eachMember unclosed invokedMember {}
  let path ← okOr (.missingField "CommandDataIB.CommandPath") data.path
  let fieldsTlv ← okOr (.missingField "CommandDataIB.CommandFields") data.fieldsTlv
  return ⟨path, fieldsTlv, data.commandRef⟩

def invokeRequestsMember (out : List InvokedCommand) : ElementRef → ImM (List InvokedCommand)
  | .containerStart _ .struct => do
    let command ← readCommandData
    return out ++ [command]
  | element => skipMember out element

def readInvokeRequests (out : List InvokedCommand) : ImM (List InvokedCommand) :=
  eachMember unclosed invokeRequestsMember out

def invokeRequestMember (request : ParsedInvokeRequest) : ElementRef → ImM ParsedInvokeRequest
  | .scalar (.context 0) (.bool b) => return { request with suppressResponse := b }
  | .scalar (.context 1) (.bool b) => return { request with timed := b }
  | .containerStart (.context 2) .array => do
    let commands ← readInvokeRequests request.commands
    return { request with commands := commands }
  | element => skipMember request element

def invokeRequestMessage : ImM ParsedInvokeRequest := do
  expectMessageStruct
  let request ← eachMember unclosed invokeRequestMember ⟨false, false, []⟩
  fromCodec .codec finish
  return request

def parseInvokeRequest (bytes : Octets) : Except ImError ParsedInvokeRequest :=
  parseWhole invokeRequestMessage bytes

def writeCommandPath (tag : Tag) (path : CommandPath) : WriterM Unit := do
  startList tag
  putUint (.context 0) path.endpoint.toUInt64
  putUint (.context 1) path.cluster.toUInt64
  putUint (.context 2) path.command.toUInt64
  endContainer

def buildInvokeRequestInner (path : CommandPath) (commandFieldsTlv : Bytes)
    (timed suppressResponse : Bool) : Except Codec.Error Bytes := written do
  startStructure .anonymous
  putBool (.context 0) suppressResponse
  putBool (.context 1) timed
  startArray (.context 2)
  startStructure .anonymous
  writeCommandPath (.context 0) path
  putPreencoded (.context 1) commandFieldsTlv
  endContainer
  endContainer
  putUint (.context 0xff) imRevision.toUInt64
  endContainer

def buildInvokeRequest (path : CommandPath) (commandFieldsTlv : Bytes) :=
  buildInvokeRequestInner path commandFieldsTlv false false

def buildInvokeRequestTimed (path : CommandPath) (commandFieldsTlv : Bytes) :=
  buildInvokeRequestInner path commandFieldsTlv true false

def buildInvokeRequestGroup (path : CommandPath) (commandFieldsTlv : Bytes) :=
  buildInvokeRequestInner path commandFieldsTlv false true

/-- The `CommandRef` of the command at an index, capped at the widest. -/
def commandRef (i : Nat) : UInt16 := if i < 2 ^ 16 then UInt16.ofNat i else 0xffff

def buildInvokeRequestBatch (commands : List (CommandPath × Bytes)) : Except Codec.Error Bytes :=
  written do
    startStructure .anonymous
    putBool (.context 0) false
    putBool (.context 1) false
    startArray (.context 2)
    commands.zipIdx.forM fun ((path, fields), i) => do
      startStructure .anonymous
      writeCommandPath (.context 0) path
      putPreencoded (.context 1) fields
      putUint (.context 2) (commandRef i).toUInt64
      endContainer
    endContainer
    putUint (.context 0xff) imRevision.toUInt64
    endContainer

def buildInvokeResponseCommand (path : CommandPath) (responseFieldsTlv : Bytes) :
    Except Codec.Error Bytes := written do
  startStructure .anonymous
  putBool (.context 0) false
  startArray (.context 1)
  startStructure .anonymous
  startStructure (.context 0)
  writeCommandPath (.context 0) path
  putPreencoded (.context 1) responseFieldsTlv
  endContainer
  endContainer
  endContainer
  putUint (.context 0xff) imRevision.toUInt64
  endContainer

def buildInvokeResponseStatus (path : CommandPath) (status : ImStatus) :
    Except Codec.Error Bytes := written do
  startStructure .anonymous
  putBool (.context 0) false
  startArray (.context 1)
  startStructure .anonymous
  startStructure (.context 1)
  writeCommandPath (.context 0) path
  startStructure (.context 1)
  putUint (.context 0) status.toU8.toUInt64
  endContainer
  endContainer
  endContainer
  endContainer
  putUint (.context 0xff) imRevision.toUInt64
  endContainer

/-! What the builders write. -/

def uintWire (n : UInt8) (value : UInt64) : Bytes := (ValueRef.uint value).encode (.context n)

def pathWire (path : CommandPath) : Bytes :=
  uintWire 0 path.endpoint.toUInt64 ++ uintWire 1 path.cluster.toUInt64 ++
    uintWire 2 path.command.toUInt64

def dataWire (path : CommandPath) (fields : Bytes) (ref : Option UInt16) : Bytes :=
  enclose (.context 0) .list (pathWire path) ++ retag (.context 1) fields ++
    ref.elim [] fun c => uintWire 2 c.toUInt64

def requestWire (suppress timed : Bool) (commands : List InvokedCommand) : Bytes :=
  enclose .anonymous .struct ((ValueRef.bool suppress).encode (.context 0) ++
    (ValueRef.bool timed).encode (.context 1) ++
    enclose (.context 2) .array (commands.map fun c =>
      enclose .anonymous .struct (dataWire c.path c.fieldsTlv c.commandRef)).flatten ++
    uintWire 0xff imRevision.toUInt64)

theorem appends_writeCommandPath (tag : Tag) (path : CommandPath) :
    Appends (writeCommandPath tag path) (enclose tag .list (pathWire path)) := by
  refine .congr (.bind (appends_start _ _) <| .bind (appends_putUint _ _) <|
    .bind (appends_putUint _ _) <| .bind (appends_putUint _ _) appends_end) ?_
  simp [enclose, pathWire, uintWire]

theorem appends_putStruct (valid : IsStruct n fields) (tag : Tag) :
    Appends (putPreencoded tag fields) (retag tag fields) := by
  obtain ⟨members, rfl, _⟩ := valid
  intro out
  rfl

theorem buildInvokeRequestInner_eq (path : CommandPath) (valid : IsStruct n fields)
    (timed suppress : Bool) : buildInvokeRequestInner path fields timed suppress =
      .ok (requestWire suppress timed [⟨path, fields, none⟩]) := by
  refine written_of_appends (.congr (.bind (appends_start _ _) <| .bind (appends_putBool _ _) <|
    .bind (appends_putBool _ _) <| .bind (appends_start _ _) <| .bind (appends_start _ _) <|
    .bind (appends_writeCommandPath _ path) <| .bind (appends_putStruct valid _) <|
    .bind appends_end <| .bind appends_end <| .bind (appends_putUint _ _) appends_end) ?_)
  simp [requestWire, dataWire, enclose, uintWire]

def numbered (commands : List (CommandPath × Bytes)) : List InvokedCommand :=
  commands.zipIdx.map fun (command, i) => ⟨command.1, command.2, some (commandRef i)⟩

theorem buildInvokeRequestBatch_eq (valid : ∀ command ∈ commands, IsStruct n command.2) :
    buildInvokeRequestBatch commands = .ok (requestWire false false (numbered commands)) := by
  have each : ∀ entry ∈ commands.zipIdx, Appends (do
      startStructure .anonymous
      writeCommandPath (.context 0) entry.1.1
      putPreencoded (.context 1) entry.1.2
      putUint (.context 2) (commandRef entry.2).toUInt64
      endContainer) (enclose .anonymous .struct (dataWire entry.1.1 entry.1.2
        (some (commandRef entry.2)))) := by
    intro entry member
    have fields := valid _ (List.fst_mem_of_mem_zipIdx member)
    refine .congr (.bind (appends_start _ _) <| .bind (appends_writeCommandPath _ _) <|
      .bind (appends_putStruct fields _) <| .bind (appends_putUint _ _) appends_end) ?_
    simp [dataWire, enclose, uintWire]
  refine written_of_appends (.congr (.bind (appends_start _ _) <| .bind (appends_putBool _ _) <|
    .bind (appends_putBool _ _) <| .bind (appends_start _ _) <| .bind (.forM each) <|
    .bind appends_end <| .bind (appends_putUint _ _) appends_end) ?_)
  simp [requestWire, numbered, enclose, uintWire, Function.comp_def]

def responseFront (path : CommandPath) (fields : Bytes) : Bytes :=
  encodeTag .anonymous (.container .struct) ++ (ValueRef.bool false).encode (.context 0) ++
    encodeTag (.context 1) (.container .array) ++ encodeTag .anonymous (.container .struct) ++
    enclose (.context 0) .struct (dataWire path fields none)

/-- What is left of a response behind its command: the ends of the block, of the array
and of the message. -/
def responseRest : Bytes :=
  [ElementType.endOfContainer.code] ++ ([ElementType.endOfContainer.code] ++
    ([uintWire 0xff imRevision.toUInt64].flatten ++ [ElementType.endOfContainer.code] ++ []))

theorem buildInvokeResponseCommand_eq (path : CommandPath) (valid : IsStruct n fields) :
    buildInvokeResponseCommand path fields = .ok (responseFront path fields ++ responseRest) := by
  refine written_of_appends (.congr (.bind (appends_start _ _) <| .bind (appends_putBool _ _) <|
    .bind (appends_start _ _) <| .bind (appends_start _ _) <| .bind (appends_start _ _) <|
    .bind (appends_writeCommandPath _ path) <| .bind (appends_putStruct valid _) <|
    .bind appends_end <| .bind appends_end <| .bind appends_end <|
    .bind (appends_putUint _ _) appends_end) ?_)
  simp [responseFront, responseRest, dataWire, enclose, uintWire]

/-! What the parsers read. -/

section Rounds
variable {σ : Type} {cut : ImError} {member : σ → ElementRef → ImM σ} {s s' t : σ} {d : Nat}

/-- A round of the loop over the members of a container. -/
def memberRound (member : σ → ElementRef → ImM σ) (state : σ) (element : ElementRef) :
    ImM (Flow σ σ) :=
  match element with
  | .containerEnd => return .leave state
  | element => return .again (← member state element)

theorem denotes_eachMember (rounds : Rounds .codec cut (memberRound member) d s bytes t)
    (opened : 0 < d) :
    Denotes (eachMember cut member s) d (bytes ++ [ElementType.endOfContainer.code]) (.ok t)
      (d - 1) :=
  rounds.denotes_elements (denotes_end opened (.pure _ _))

theorem rounds_scalar (plain : value.beforeIs1 = value)
    (taken : member s (.scalar tag value) = pure s') :
    Rounds .codec cut (memberRound member) d s (value.encode tag) s' := by
  have round : Denotes (memberRound member s (.scalar tag value)) d [] (.ok (.again s')) d := by
    change Denotes (member s (.scalar tag value) >>= fun a => pure (Flow.again a)) _ _ _ _
    rw [taken]
    exact .pure _ _
  have here : Denotes (nextElement .codec cut >>= memberRound member s) d (value.encode tag ++ [])
      (.ok (.again s')) d := denotes_scalar (plain.symm ▸ round)
  have some := encode_length_pos tag (.ofRef value)
  rw [Value.encode_ofRef] at some
  rw [List.append_nil] at here
  exact .one some here

theorem positive_start (tag : Tag) (kind : ContainerKind) (body : Bytes) :
    0 < (encodeTag tag (.container kind) ++ body).length := by
  obtain ⟨payload, _, shape⟩ := encodeTag_shape tag
  rw [shape]
  exact Nat.succ_pos _

theorem rounds_container (shallow : d < maxDepth)
    (inner : Denotes (member s (.containerStart tag kind)) (d + 1) body (.ok s') d) :
    Rounds .codec cut (memberRound member) d s (encodeTag tag (.container kind) ++ body) s' :=
  .one (positive_start tag kind body) (denotes_start shallow (inner.bind_pure Flow.again))

/-- The command fields: what is kept is the body under an anonymous header. -/
theorem rounds_retag {keep : Bytes → σ} (shallow : d < maxDepth) (closes : Closes (d + 1) body)
    (taken : member s (.containerStart tag kind) = do
      let fields ← retagContainerAnonymous kind
      return keep fields) :
    Rounds .codec cut (memberRound member) d s (encodeTag tag (.container kind) ++ body)
      (keep (encodeTag .anonymous (.container kind) ++ body)) := by
  refine .one (positive_start tag kind body) ?_
  intro r tail bound opened here
  subst opened
  rw [List.append_assoc] at here
  obtain ⟨opened, span, r', next, skipped, cut_, moved⟩ := nextRef_span bound here shallow closes
  have ran : (memberRound member s (.containerStart tag kind)).run opened =
      .ok (.again (keep (encodeTag .anonymous (.container kind) ++ body))) r' := by
    change EStateM.run (member s (.containerStart tag kind) >>= fun a => pure (Flow.again a)) _ = _
    rw [taken, retagContainerAnonymous, bind_assoc, bind_assoc,
      Exits.run_bind_ok (fromCodec_ok.mpr skipped), bind_assoc,
      Exits.run_bind_ok (EStateM.run_get _), cut_]
    rfl
  rw [Exits.run_bind_ok (nextElement_ok.mpr next), ran]
  exact .ok moved

end Rounds

theorem u16TryFrom_toUInt64 (n : UInt16) : u16TryFrom n.toUInt64 = some n := by
  have bound := n.toNat_lt
  simp only [u16TryFrom, UInt16.toNat_toUInt64, if_pos bound]
  simp

theorem u32TryFrom_toUInt64 (n : UInt32) : u32TryFrom n.toUInt64 = some n := by
  have bound := n.toNat_lt
  simp only [u32TryFrom, UInt32.toNat_toUInt64, if_pos bound]
  simp

theorem denotes_commandPath (path : CommandPath) (opened : 0 < d) :
    Denotes commandPathFromReader d (pathWire path ++ [ElementType.endOfContainer.code])
      (.ok path) (d - 1) := by
  have endpoint : commandPathMember {} (.scalar (.context 0) (.uint path.endpoint.toUInt64)) =
      pure ⟨some path.endpoint, none, none⟩ := by
    simp only [commandPathMember, u16TryFrom_toUInt64]
    rfl
  have cluster : commandPathMember ⟨some path.endpoint, none, none⟩
      (.scalar (.context 1) (.uint path.cluster.toUInt64)) =
      pure ⟨some path.endpoint, some path.cluster, none⟩ := by
    simp only [commandPathMember, u32TryFrom_toUInt64]
    rfl
  have command : commandPathMember ⟨some path.endpoint, some path.cluster, none⟩
      (.scalar (.context 2) (.uint path.command.toUInt64)) =
      pure ⟨some path.endpoint, some path.cluster, some path.command⟩ := by
    simp only [commandPathMember, u32TryFrom_toUInt64]
    rfl
  have first : Rounds .codec unclosed (memberRound commandPathMember) d {} _ _ :=
    rounds_scalar rfl endpoint
  have rounds := (first.append (rounds_scalar rfl cluster)).append (rounds_scalar rfl command)
  exact (denotes_eachMember rounds opened).then_pure rfl

/-- The members of a `CommandDataIB`, for a loop that reads the path and the fields. -/
theorem rounds_dataWire (withPath : σ → CommandPath → σ) (withFields : σ → Bytes → σ)
    (valid : IsStruct n fields) (fits : d + (n + 1) ≤ maxDepth)
    (onPath : ∀ s, member s (.containerStart (.context 0) .list) = do
      let path ← commandPathFromReader
      return withPath s path) (onFields : ∀ s, member s (.containerStart (.context 1) .struct) = do
      let fields ← retagContainerAnonymous .struct
      return withFields s fields) (path : CommandPath) :
    Rounds .codec cut (memberRound member) d s (dataWire path fields none)
      (withFields (withPath s path) fields) := by
  have shallow : d < maxDepth := by omega
  have first : Rounds .codec cut (memberRound member) d s
      (enclose (.context 0) .list (pathWire path)) (withPath s path) := by
    rw [enclose, List.append_assoc]
    refine rounds_container shallow ?_
    rw [onPath]
    exact (denotes_commandPath path (Nat.succ_pos d)).then_pure rfl
  obtain ⟨members, rfl, each⟩ := valid
  have second : Rounds .codec cut (memberRound member) d (withPath s path) _ _ :=
    rounds_retag shallow (closes_nested each (d := d + 1) (by omega)) (onFields (withPath s path))
  have wire : retag (.context 1) (enclose .anonymous .struct members.flatten) =
      encodeTag (.context 1) (.container .struct) ++
        (members.flatten ++ [ElementType.endOfContainer.code]) := rfl
  rw [dataWire, wire, Option.elim, List.append_nil]
  have whole := first.append second
  rwa [← List.append_assoc (encodeTag .anonymous _)] at whole

theorem denotes_readCommandData (valid : IsStruct n command.fieldsTlv)
    (fits : d + (n + 1) ≤ maxDepth) (opened : 0 < d) :
    Denotes readCommandData d (dataWire command.path command.fieldsTlv command.commandRef ++
      [ElementType.endOfContainer.code]) (.ok command) (d - 1) := by
  obtain ⟨path, fields, ref⟩ := command
  have front : Rounds .codec unclosed (memberRound invokedMember) d {} (dataWire path fields none)
      ⟨some path, some fields, none⟩ :=
    rounds_dataWire (fun (data : InvokedFields) path => { data with path := some path })
      (fun data fields => { data with fieldsTlv := some fields }) valid fits
      (fun _ => rfl) (fun _ => rfl) path
  cases ref with
  | none => exact (denotes_eachMember front opened).then_pure rfl
  | some c =>
    have taken : invokedMember ⟨some path, some fields, none⟩
        (.scalar (.context 2) (.uint c.toUInt64)) =
        pure ⟨some path, some fields, some c⟩ := by
      simp [invokedMember, u16TryFrom_toUInt64]
    have rounds := front.append (rounds_scalar rfl taken)
    have whole : Denotes readCommandData d _ (.ok ⟨path, fields, some c⟩) (d - 1) :=
      (denotes_eachMember rounds opened).then_pure rfl
    simpa [dataWire, uintWire] using whole

theorem rounds_requests (out : List InvokedCommand)
    (valid : ∀ command ∈ commands, IsStruct n command.fieldsTlv) (fits : d + 1 + (n + 1) ≤ maxDepth) :
    Rounds .codec unclosed (memberRound invokeRequestsMember) d out
      (commands.map fun c =>
        enclose .anonymous .struct (dataWire c.path c.fieldsTlv c.commandRef)).flatten
      (out ++ commands) := by
  induction commands generalizing out with
  | nil =>
    rw [List.append_nil]
    exact .nil out
  | cons command rest ih =>
    obtain ⟨first, others⟩ := List.forall_mem_cons.mp valid
    have here : Rounds .codec unclosed (memberRound invokeRequestsMember) d out
        (enclose .anonymous .struct (dataWire command.path command.fieldsTlv command.commandRef))
        (out ++ [command]) := by
      rw [enclose, List.append_assoc]
      exact rounds_container (by omega)
        ((denotes_readCommandData first fits (Nat.succ_pos d)).then_pure rfl)
    have later := ih (out ++ [command]) others
    rw [List.append_assoc] at later
    exact here.append later

theorem denotes_expectMessageStruct :
    Denotes expectMessageStruct 0 (encodeTag .anonymous (.container .struct) ++ []) (.ok ()) 1 :=
  denotes_start (by decide) (.pure () 1)

theorem parseInvokeRequest_eq (valid : ∀ command ∈ commands, IsStruct n command.fieldsTlv)
    (fits : n + 4 ≤ maxDepth) (wire : message.bytes = requestWire suppress timed commands) :
    parseInvokeRequest message = .ok ⟨suppress, timed, commands⟩ := by
  have requests : Denotes (readInvokeRequests []) 2 _ (.ok commands) 1 :=
    denotes_eachMember (rounds_requests [] valid (d := 2) (by omega)) (by decide)
  have array : Rounds .codec unclosed (memberRound invokeRequestMember) 1 ⟨suppress, timed, []⟩
      (encodeTag (.context 2) (.container .array) ++ _) ⟨suppress, timed, commands⟩ :=
    rounds_container (by decide) (requests.then_pure rfl)
  have first : Rounds .codec unclosed (memberRound invokeRequestMember) 1 ⟨false, false, []⟩
      ((ValueRef.bool suppress).encode (.context 0)) ⟨suppress, false, []⟩ := rounds_scalar rfl rfl
  have second : Rounds .codec unclosed (memberRound invokeRequestMember) 1 ⟨suppress, false, []⟩
      ((ValueRef.bool timed).encode (.context 1)) ⟨suppress, timed, []⟩ := rounds_scalar rfl rfl
  have revision : Rounds .codec unclosed (memberRound invokeRequestMember) 1
      ⟨suppress, timed, commands⟩ (uintWire 0xff imRevision.toUInt64)
      ⟨suppress, timed, commands⟩ := rounds_scalar rfl rfl
  have members := denotes_eachMember (((first.append second).append array).append revision)
    (by decide)
  have finished : Concludes (do
      fromCodec ImError.codec finish
      return (⟨suppress, timed, commands⟩ : ParsedInvokeRequest)) 0 [] _ := concludes_finish .nil _
  have whole : Concludes invokeRequestMessage 0 _ _ :=
    denotes_expectMessageStruct.conclude (members.conclude finished)
  refine Concludes.parseWhole ?_
  rw [wire]
  simpa [requestWire, enclose, uintWire] using whole

theorem denotes_parseCommandData (path : CommandPath) (valid : IsStruct n fields)
    (fits : d + (n + 1) ≤ maxDepth) (opened : 0 < d) :
    Denotes parseCommandData d (dataWire path fields none ++ [ElementType.endOfContainer.code])
      (.ok (path, fields)) (d - 1) := by
  have rounds : Rounds .codec (.missingField "CommandDataIB.body") (memberRound commandDataMember) d
      {} (dataWire path fields none) ⟨some path, fields, none⟩ :=
    rounds_dataWire (fun (data : CommandDataFields) path => { data with path := some path })
      (fun data fields => { data with fields := fields }) valid fits
      (fun _ => rfl) (fun _ => rfl) path
  obtain ⟨members, rfl, _⟩ := valid
  have whole : Denotes parseCommandDataRef d _ _ (d - 1) :=
    (denotes_eachMember rounds opened).then_pure rfl
  exact whole.then_pure rfl

/-- The rounds before the array of responses. -/
theorem denotes_findArray : Denotes (findArray 1) 1
    ((ValueRef.bool false).encode (.context 0) ++ (encodeTag (.context 1) (.container .array) ++ []))
    (.ok true) 2 := by
  refine Rounds.denotes_elements (t := ()) (.one (by decide) ?_) (denotes_start (by decide) (.pure _ _))
  rw [← List.append_nil (ValueRef.encode _ _)]
  exact denotes_scalar (.pure _ _)

theorem parseInvokeResponse_eq (valid : IsStruct n fields) (fits : n + 5 ≤ maxDepth)
    (wire : message.bytes = responseFront path fields ++ responseRest) :
    parseInvokeResponse message = .ok (.command path fields) := by
  have response : Denotes (elements .codec unclosed firstResponse ()) 3 ([] ++
      (encodeTag (.context 0) (.container .struct) ++ _)) (.ok (.command path fields)) 3 :=
    Rounds.denotes_elements (.nil ()) (denotes_start (by decide)
      ((denotes_parseCommandData path valid (d := 4) (by omega) (by decide)).then_pure rfl))
  have block : Denotes expectInvokeResponseIb 2
      (encodeTag .anonymous (.container .struct) ++ []) (.ok ()) 3 :=
    denotes_start (by decide) (.pure () 3)
  have revision : Nested 0 (uintWire 0xff imRevision.toUInt64) :=
    show Nested 0 (controlOctet .context (.uint .w8) :: [0xff] ++ [11]) from .scalar rfl rfl
  have closes : ClosesAll 3 responseRest :=
    .cons (closes_end 3) (.cons (closes_end 2)
      (.cons (closes_nested (List.forall_mem_singleton.mpr revision) (by decide)) .nil))
  have finished : Concludes (do
      fromCodec ImError.codec finish
      return InvokeResponse.command path fields) 3 responseRest _ := concludes_finish closes _
  have inArray : Concludes (do
      expectInvokeResponseIb
      let response ← elements .codec unclosed firstResponse ()
      fromCodec .codec finish
      return response) 2 _ _ := block.conclude (response.conclude finished)
  have whole : Concludes invokeResponseMessage 0 _ _ :=
    denotes_expectMessageStruct.conclude (denotes_findArray.conclude inArray)
  refine Concludes.parseWhole ?_
  rw [wire]
  simpa [responseFront, enclose] using whole

/-- What is built arrives, and is parsed to `a`. -/
def Carries (built : Except Codec.Error Bytes) (parse : Octets → Except ImError α) (a : α) : Prop :=
  ∃ wire, built = .ok wire ∧ ∀ message : Octets, message.bytes = wire → parse message = .ok a

/-- Command fields pass through unchanged: in the three single-command requests with the
flags of each, in a response command, and in a batch, where each command has its index
for a reference. The structure that is spliced nests `n + 1` deep, in a request under
three containers and in a response under four. -/
theorem command_fields_pass_through (n : Nat) :
    (∀ path fields, IsStruct n fields → 3 + (n + 1) ≤ maxDepth →
      Carries (buildInvokeRequest path fields) parseInvokeRequest
        ⟨false, false, [⟨path, fields, none⟩]⟩ ∧
      Carries (buildInvokeRequestTimed path fields) parseInvokeRequest
        ⟨false, true, [⟨path, fields, none⟩]⟩ ∧
      Carries (buildInvokeRequestGroup path fields) parseInvokeRequest
        ⟨true, false, [⟨path, fields, none⟩]⟩) ∧
    (∀ path fields, IsStruct n fields → 4 + (n + 1) ≤ maxDepth →
      Carries (buildInvokeResponseCommand path fields) parseInvokeResponse
        (.command path fields)) ∧
    ∀ commands : List (CommandPath × Bytes), (∀ command ∈ commands, IsStruct n command.2) →
      3 + (n + 1) ≤ maxDepth → commands.length ≤ 65536 →
      Carries (buildInvokeRequestBatch commands) parseInvokeRequest ⟨false, false,
        commands.zipIdx.map fun (command, i) => ⟨command.1, command.2, some (UInt16.ofNat i)⟩⟩ := by
  have single : ∀ path fields timed suppress, IsStruct n fields → 3 + (n + 1) ≤ maxDepth →
      Carries (buildInvokeRequestInner path fields timed suppress) parseInvokeRequest
        ⟨suppress, timed, [⟨path, fields, none⟩]⟩ := by
    intro path fields timed suppress valid fits
    exact ⟨_, buildInvokeRequestInner_eq path valid timed suppress, fun message wire =>
      parseInvokeRequest_eq (List.forall_mem_singleton.mpr valid) (by omega) wire⟩
  refine ⟨?_, ?_, ?_⟩
  · intro path fields valid fits
    exact ⟨single path fields false false valid fits, single path fields true false valid fits,
      single path fields false true valid fits⟩
  · intro path fields valid fits
    exact ⟨_, buildInvokeResponseCommand_eq path valid, fun message wire =>
      parseInvokeResponse_eq valid (by omega) wire⟩
  · intro commands valid fits few
    have indexed : numbered commands = commands.zipIdx.map fun (command, i) =>
        ⟨command.1, command.2, some (UInt16.ofNat i)⟩ := by
      refine List.map_congr_left fun entry member => ?_
      have below := List.snd_lt_of_mem_zipIdx member
      simp only [commandRef, if_pos (show entry.2 < 2 ^ 16 by omega)]
    have parsed : ∀ command ∈ numbered commands, IsStruct n command.fieldsTlv := by
      intro command member
      obtain ⟨entry, found, rfl⟩ := List.mem_map.mp member
      exact valid _ (List.fst_mem_of_mem_zipIdx found)
    rw [← indexed]
    exact ⟨_, buildInvokeRequestBatch_eq valid, fun message wire =>
      parseInvokeRequest_eq parsed (by omega) wire⟩

/-- A structure with the number 1 in eight bytes, which the writer never picks. -/
theorem wide_fields_pass_through :
    Carries (buildInvokeResponseCommand ⟨0, 0x29, 1⟩ [0x15, 0x27, 0, 1, 0, 0, 0, 0, 0, 0, 0, 0x18])
      parseInvokeResponse (.command ⟨0, 0x29, 1⟩ [0x15, 0x27, 0, 1, 0, 0, 0, 0, 0, 0, 0, 0x18]) := by
  refine (command_fields_pass_through 0).2.1 _ _ ⟨[[0x27, 0, 1, 0, 0, 0, 0, 0, 0, 0]], rfl, ?_⟩
    (by decide)
  refine List.forall_mem_singleton.mpr ?_
  exact show Nested 0 (controlOctet .context (.uint .w64) :: [0] ++ [1, 0, 0, 0, 0, 0, 0, 0]) from
    .scalar rfl rfl

end Matter.Interaction
