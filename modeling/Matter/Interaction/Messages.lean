import Matter.Codec.Parsing

/-! What the Interaction Model parsers share: errors, paths and statuses, the
loop over the members of an open container, and the readers of the blocks that
occur in several messages. -/
namespace Matter.Interaction
open Codec TlvReader
variable {σ α : Type}

inductive ImError where
  | codec (error : Codec.Error)
  | notAStruct
  | missingField (field : String)
  | unexpectedValue (field : String)
  | emptyInvokeResponse
  | invalidStatusCode (code : UInt64)
  | accumulatorOverflow (elements bytes maxElements maxBytes : Nat)
  deriving DecidableEq, Repr

abbrev ImM := ParserM ImError

/-- The interaction model revision every message ends with. -/
def imRevision : UInt8 := 11

structure CommandPath where
  endpoint : UInt16
  cluster : UInt32
  command : UInt32
  deriving DecidableEq, Repr

structure AttributePath where
  endpoint : UInt16
  cluster : UInt32
  attr : UInt32
  deriving DecidableEq, Repr

inductive ImStatus where
  | success
  | failure (code : UInt8)
  deriving DecidableEq, Repr

def ImStatus.fromU8 (code : UInt8) : ImStatus :=
  if code = 0 then .success else .failure code

def ImStatus.toU8 : ImStatus → UInt8
  | .success => 0
  | .failure code => code

/-- End of input before the end of a container. -/
def unclosed : ImError := .codec .unclosedContainer

def u8TryFrom (n : UInt64) : Option UInt8 := if n.toNat < 2 ^ 8 then some n.toUInt8 else none

def u16TryFrom (n : UInt64) : Option UInt16 := if n.toNat < 2 ^ 16 then some n.toUInt16 else none

def u32TryFrom (n : UInt64) : Option UInt32 := if n.toNat < 2 ^ 32 then some n.toUInt32 else none

def okOr (error : ImError) : Option α → ImM α
  | none => throw error
  | some a => return a

def expectMessageStruct : ImM Unit := do
  match ← nextElement .codec .notAStruct with
  | .containerStart .anonymous .struct => return ()
  | _ => throw .notAStruct

def skipContainer : ImM Unit := fromCodec .codec TlvReader.skipContainer

/-- What every parser does with a member it does not know: a container is
skipped, a scalar ignored. -/
def skipMember (state : σ) : ElementRef → ImM σ
  | .containerStart _ _ => do
    skipContainer
    return state
  | _ => return state

/-- The loop over the members of an open container, up to its end. -/
def eachMember (cut : ImError) (member : σ → ElementRef → ImM σ) (init : σ) : ImM σ :=
  elements .codec cut (fun state element =>
    match element with
    | .containerEnd => return .leave state
    | element => return .again (← member state element)) init

/-- The loop that looks for the array at context tag `n`: whether the message
has it, with the reader just after its start. -/
def findArray (n : UInt8) : ImM Bool :=
  elements .codec unclosed (fun (_ : Unit) element =>
    match element with
    | .containerEnd => return .leave false
    | .containerStart tag kind =>
      if tag = .context n ∧ kind = .array then return .leave true
      else do
        skipContainer
        return .again ()
    | .scalar _ _ => return .again ()) ()

/-- `read_container_members`, with `read_container_value` for the containers
among the members; the children of an array lose their tags. -/
def readMembersFrom : Nat → List (Tag × Value) → ImM (List (Tag × Value))
  | 0, _ => throw unclosed
  | fuel + 1, out => do
    match ← nextElement .codec unclosed with
    | .containerEnd => return out
    | .scalar tag value => readMembersFrom fuel (out ++ [(tag, Value.ofRef value)])
    | .containerStart tag kind =>
      let members ← readMembersFrom fuel []
      readMembersFrom fuel (out ++ [(tag, Value.ofMembers kind members)])

def readContainerMembers : ImM (List (Tag × Value)) := do
  let r ← get
  readMembersFrom (r.remaining + 1) []

def readContainerValue (kind : ContainerKind) : ImM Value :=
  return Value.ofMembers kind (← readContainerMembers)

structure AttributePathFields where
  endpoint : Option UInt16 := none
  cluster : Option UInt32 := none
  attr : Option UInt32 := none
  append : Bool := false

def attributePathMember (fields : AttributePathFields) : ElementRef → ImM AttributePathFields
  | .scalar (.context 2) (.uint n) => do
    let endpoint ← okOr (.unexpectedValue "AttributePath.endpoint exceeds u16") (u16TryFrom n)
    return { fields with endpoint := some endpoint }
  | .scalar (.context 3) (.uint n) => do
    let cluster ← okOr (.unexpectedValue "AttributePath.cluster exceeds u32") (u32TryFrom n)
    return { fields with cluster := some cluster }
  | .scalar (.context 4) (.uint n) => do
    let attr ← okOr (.unexpectedValue "AttributePath.attribute exceeds u32") (u32TryFrom n)
    return { fields with attr := some attr }
  | .scalar (.context 5) .null => return { fields with append := true }
  | element => skipMember fields element

def attributePathFromReader : ImM (AttributePath × Bool) := do
  let fields ← eachMember unclosed attributePathMember {}
  let endpoint ← okOr (.missingField "AttributePath.endpoint") fields.endpoint
  let cluster ← okOr (.missingField "AttributePath.cluster") fields.cluster
  let attr ← okOr (.missingField "AttributePath.attribute") fields.attr
  return (⟨endpoint, cluster, attr⟩, fields.append)

/-- `parse_status_ib_body`: the last status seen. -/
def statusIbMember (status : Option ImStatus) : ElementRef → ImM (Option ImStatus)
  | .scalar (.context 0) (.uint n) => do
    let code ← okOr (.invalidStatusCode n) (u8TryFrom n)
    return some (.fromU8 code)
  | element => skipMember status element

def parseStatusIbBody : ImM (Option ImStatus) := eachMember unclosed statusIbMember none

def attributeStatusMember (fields : Option AttributePath × Option ImStatus) :
    ElementRef → ImM (Option AttributePath × Option ImStatus)
  | .containerStart (.context 0) .list => do
    let (path, _) ← attributePathFromReader
    return (some path, fields.2)
  | .containerStart (.context 1) .struct => do
    match ← parseStatusIbBody with
    | some status => return (fields.1, some status)
    | none => return fields
  | element => skipMember fields element

def parseAttributeStatusIb : ImM (AttributePath × ImStatus) := do
  let fields ← eachMember unclosed attributeStatusMember (none, none)
  let path ← okOr (.missingField "AttributeStatusIB.Path") fields.1
  let status ← okOr (.missingField "AttributeStatusIB.Status") fields.2
  return (path, status)

theorem forward_okOr (error : ImError) (a : Option α) : Forward (okOr error a) := by
  cases a with
  | none => exact .throw error
  | some a => exact .pure a

theorem forward_skipContainer : Forward skipContainer :=
  TlvReader.forward_skipContainer.fromCodec

theorem forward_skipMember (state : σ) (element : ElementRef) :
    Forward (skipMember state element) := by
  cases element with
  | containerStart tag kind => exact forward_skipContainer.bind_pure
  | _ => exact .pure _

theorem forward_expectMessageStruct : Forward expectMessageStruct := by
  refine (forward_nextElement _ _).bind fun element => ?_
  split
  · exact .pure _
  · exact .throw _

theorem forward_eachMember (members : ∀ state element, Forward (member state element)) (init : σ) :
    Forward (eachMember cut member init) := by
  refine forward_elements (fun state element => ?_) init
  split
  · exact .pure _
  · exact (members state _).bind_pure

theorem forward_findArray (n : UInt8) : Forward (findArray n) := by
  refine forward_elements (fun state element => ?_) ()
  cases element with
  | containerEnd => exact .pure _
  | containerStart tag kind =>
    exact .ite (.pure _) (forward_skipContainer.bind_pure)
  | scalar tag value => exact .pure _

theorem readMembersFrom_settled (enough : fuel ≤ fuel') (bound : r.InBounds)
    (ran : (readMembersFrom fuel out).run r = .ok members r') :
    Settled (readMembersFrom fuel' out) r members r' := by
  induction fuel generalizing fuel' out members r r' with
  | zero => cases ran
  | succ fuel ih =>
    obtain ⟨fuel', rfl⟩ : ∃ n, fuel' = n + 1 := ⟨fuel' - 1, by omega⟩
    have less := Nat.le_of_succ_le_succ enough
    obtain ⟨element, r₁, nextRan, restRan⟩ := Exits.of_run_bind_ok ran
    have next := forward_nextElement _ _ r element r₁ bound nextRan
    refine next.bind ?_
    cases element with
    | containerEnd => exact Forward.pure out r₁ members r' next.onward.within restRan
    | scalar tag value => exact ih less next.onward.within restRan
    | containerStart tag kind =>
      obtain ⟨children, r₂, innerRan, tailRan⟩ := Exits.of_run_bind_ok restRan
      have inner := ih less next.onward.within innerRan
      exact inner.bind (ih less inner.onward.within tailRan)

theorem forward_readContainerValue (kind : ContainerKind) : Forward (readContainerValue kind) := by
  refine Forward.bind ?_ fun _ => .pure _
  exact forward_fueled fun enough bound ran => readMembersFrom_settled enough bound ran

theorem forward_attributePathFromReader : Forward attributePathFromReader := by
  refine (forward_eachMember (fun fields element => ?_) _).bind fun fields => ?_
  · unfold attributePathMember
    split
    · exact (forward_okOr _ _).bind_pure
    · exact (forward_okOr _ _).bind_pure
    · exact (forward_okOr _ _).bind_pure
    · exact .pure _
    · exact forward_skipMember fields _
  · exact (forward_okOr _ _).bind fun _ => (forward_okOr _ _).bind fun _ =>
      (forward_okOr _ _).bind_pure

theorem forward_parseStatusIbBody : Forward parseStatusIbBody := by
  refine forward_eachMember (fun status element => ?_) none
  unfold statusIbMember
  split
  · exact (forward_okOr _ _).bind_pure
  · exact forward_skipMember status _

theorem forward_parseAttributeStatusIb : Forward parseAttributeStatusIb := by
  refine (forward_eachMember (fun fields element => ?_) _).bind fun fields => ?_
  · unfold attributeStatusMember
    split
    · exact forward_attributePathFromReader.bind_pure
    · refine forward_parseStatusIbBody.bind fun status => ?_
      split
      · exact .pure _
      · exact .pure _
    · exact forward_skipMember fields _
  · exact (forward_okOr _ _).bind fun _ => (forward_okOr _ _).bind_pure

end Matter.Interaction
