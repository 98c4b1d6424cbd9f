import Matter.Cert.Certificate
import Matter.Codec.Members

/-! What the message codecs of the password- and certificate-authenticated
handshakes share: their errors, fixed-size fields, and the capture of the session
parameters as raw TLV. -/
namespace Matter.Handshake
open Codec TlvReader
open Cert (Block)

inductive PaseMessageKind where
  | pbkdfParamRequest
  | pbkdfParamResponse
  | pake1
  | pake2
  | pake3
  deriving DecidableEq, Repr

inductive CaseMessageKind where
  | sigma1
  | sigma2
  | sigma3
  | sigma2Resume
  | sigma3Resume
  deriving DecidableEq, Repr

/-- What the modelled functions return of `matter_crypto::Error`. A panic counts
as an exit of its own: the object stays as it was left. -/
inductive Error where
  | invalidParameter
  | codec (error : Codec.Error)
  | invalidScalar
  | confirmationTagMismatch
  | unexpectedMessage (expected got : PaseMessageKind)
  | pinDerivationFailed
  | pbkdfIterationsTooLow (iterations : UInt32)
  | pbkdfIterationsTooHigh (iterations max : UInt32)
  | pbkdfSaltLengthInvalid (length : Nat)
  | handshakeIncomplete
  | invalidPeerNocChain (error : Cert.Error)
  | fabricIdMismatch (peer expected : UInt64)
  | peerNodeIdMismatch (peer expected : UInt64)
  | ephemeralKeyGenerationFailed
  | encryptedBlobDecryptionFailed
  | encryptionFailed
  | peerSignatureInvalid
  | resumptionMacMismatch
  | rng
  | signingFailed
  | unexpectedCaseMessage (expected got : CaseMessageKind)
  | panicked
  deriving DecidableEq, Repr

abbrev FieldsM := ParserM Error

def orInvalid {α : Type} : Option α → Except Error α
  | none => .error .invalidParameter
  | some a => .ok a

/-- `block[start..start + n]`. -/
def slice {m : Nat} (block : Block m) (start n : Nat) (inside : start + n ≤ m) : Block n where
  bytes := (block.bytes.drop start).take n
  size := by
    have whole := block.size
    rw [List.length_take, List.length_drop]
    omega

def ascii (text : String) : Bytes := text.toList.map fun c => UInt8.ofNat c.toNat

/-- Bytes as a reader gets them; memory holds no longer ones. -/
def received (bytes : Bytes) : Octets :=
  if short : bytes.length < allocLimit then ⟨bytes, short⟩ else ⟨[], by decide⟩

/-- A message as the other side gets it. -/
def onWire {ε : Type} (sent : Except ε Bytes) : Octets := received (sent.toOption.getD [])

/-- `try_into` of a byte string. -/
def fixed (n : Nat) (octets : Octets) : Except Error (Block n) :=
  orInvalid (Block.tryFrom n octets.bytes)

def sessionId (n : UInt64) : Except Error UInt16 := orInvalid (Wire.toU16? n)

def expectAnonStructStart : FieldsM Unit := do
  match ← nextElement .codec .invalidParameter with
  | .containerStart .anonymous .struct => return ()
  | _ => throw .invalidParameter

/-- A member of a structure that holds scalars only. -/
def scalarMember {σ : Type} (scalar : σ → Tag → ValueRef → Except Error σ) (state : σ) :
    ElementRef → FieldsM σ
  | .scalar tag value => MonadExcept.ofExcept (scalar state tag value)
  | _ => throw .invalidParameter

/-- The loop over the members of a message, up to its end. -/
def fields {σ : Type} (member : σ → ElementRef → FieldsM σ) (init : σ) : FieldsM σ :=
  forEachMember .codec .invalidParameter member init

/-- What a message holds behind its anonymous structure start. -/
def decodeMessage {σ α : Type} (member : σ → ElementRef → FieldsM σ) (init : σ)
    (message : σ → Except Error α) (bytes : Octets) : Except Error α :=
  parseWhole (do
    expectAnonStructStart
    let state ← fields member init
    MonadExcept.ofExcept (message state)) bytes

/-! Session parameters are kept as they stand on the wire. -/

/-- `skip_container_body`; the state is the number of open containers. -/
def skipContainerBody : FieldsM Unit :=
  elements .codec .invalidParameter (fun (depth : Nat) element =>
    match element with
    | .containerStart _ _ => return .again (depth + 1)
    | .containerEnd => return if depth = 1 then .leave () else .again (depth - 1)
    | .scalar _ _ => return .again depth) 1

/-- `collect_structure_body`, `collect_array_body` and `collect_list_body`: the
three loops differ only in that an array forgets the tags. -/
def collectBody : Nat → List (Tag × Value) → FieldsM (List (Tag × Value))
  | 0, _ => throw .invalidParameter
  | fuel + 1, members => do
    match ← nextElement .codec .invalidParameter with
    | .containerEnd => return members
    | .scalar tag value => collectBody fuel (members ++ [(tag, .ofRef value)])
    | .containerStart tag kind =>
      let inner ← collectBody fuel []
      collectBody fuel (members ++ [(tag, .ofMembers kind inner)])

def collectStructureBody : FieldsM Value := do
  let members ← collectBody ((← get).remaining + 1) []
  return .struct members

def written (m : WriterM Unit) : Except Error Bytes :=
  match m.run [] with
  | .ok () out => .ok out
  | .error e _ => .error (.codec e)

/-- The first structure with the tag in the message, encoded again. -/
def findSubstructure (contextTag : UInt8) : FieldsM Bytes := do
  expectAnonStructStart
  elements .codec .invalidParameter (fun (_ : Unit) element =>
    match element with
    | .containerEnd => throw .invalidParameter
    | .containerStart tag kind =>
      if tag = .context contextTag ∧ kind = .struct then do
        let value ← collectStructureBody
        let raw ← MonadExcept.ofExcept (written (TlvWriter.writeValue tag value))
        return .leave raw
      else do
        skipContainerBody
        return .again ()
    | .scalar _ _ => return .again ()) ()

/-- `skip_and_capture_substructure`: the reader of the message moves over the
structure, and a fresh one finds it again. -/
def skipAndCaptureSubstructure (fullMessage : Octets) (contextTag : UInt8) : FieldsM Bytes := do
  skipContainerBody
  MonadExcept.ofExcept (parseWhole (findSubstructure contextTag) fullMessage)

/-! Writing messages. -/

def putRaw (raw : Bytes) : WriterM Unit := modify (· ++ raw)

end Matter.Handshake
