import Matter.Handshake.Encoding
import Matter.Pase.Messages

/-! Every message an honest party sends is decoded by the other as it was meant.
Neither party sends session parameters. -/
namespace Matter.Pase
open Codec hiding Error
open TlvReader TlvWriter Value Handshake
open Cert (Block appends_putBlock)

namespace PbkdfParamsInner

def members (params : PbkdfParamsInner) : List (Tag × Value) :=
  [(.context 1, uint params.iterations.toUInt64), (.context 2, bytes params.salt)]

theorem encode_ok {params : PbkdfParamsInner} (fits : saltFits params.salt = true) (tag : Tag) :
    params.encode tag = .ok ((struct params.members).encode tag) := by
  rw [encode, fits]
  apply written_of_appends
  refine .congr (.bind (appends_start _ _) (.bind (appends_putUint _ _)
    (.bind (appends_putBytes _ _) appends_end))) ?_
  simp [members, Value.encode, enclose, encodeMembers]

theorem denotes_decodeBody (fits : saltFits params.salt = true) (opened : 0 < d)
    (shallow : d < maxDepth) :
    Denotes decodeBody d (encodeMembers params.members ++ [ElementType.endOfContainer.code])
      (.ok params) (d - 1) := by
  have folds : Folds (scalarMember scalar) d {} params.members
      (.ok ⟨some params.iterations, some params.salt⟩) := by
    apply Folds.uint
    · simp only [scalarMember, scalar, toU32?_toUInt64]
      rfl
    apply Folds.bytes
    · simp only [scalarMember, scalar, fits]
      rfl
    exact .nil _
  exact (denotes_fields folds opened shallow).bind_check ofFields

theorem length_members_le {params : PbkdfParamsInner} (fits : saltFits params.salt = true) :
    (encodeMembers params.members).length ≤ 52 := by
  have iterations := length_uint_le 1 params.iterations.toUInt64
  have salt := length_bytes_le 2 params.salt
  simp only [saltFits, Bool.and_eq_true, decide_eq_true_eq] at fits
  have most : params.salt.bytes.length ≤ 32 := fits.2
  simp only [members, encodeMembers, List.length_append, List.length_nil]
  omega

end PbkdfParamsInner

namespace PbkdfParamRequest

def members (request : PbkdfParamRequest) : List (Tag × Value) := [
  (.context 1, bytes (request.initiatorRandom.octets (by decide))),
  (.context 2, uint request.initiatorSessionId.toUInt64),
  (.context 3, uint request.passcodeId.toUInt64),
  (.context 4, bool request.hasPbkdfParameters)]

theorem transmits (plain : request.initiatorSessionParams = none) :
    Transmits request.encode decode request := by
  apply Transmits.of_struct request.members
  · apply written_of_appends
    rw [plain]
    refine .congr (.bind (appends_start _ _) (.bind (appends_putBlock _ _ (by decide))
      (.bind (appends_putUint _ _) (.bind (appends_putUint _ _) (.bind (appends_putBool _ _)
        (.bind .pure appends_end)))))) ?_
    simp [members, Value.encode, enclose, encodeMembers]
  · have random := length_block_le 1 request.initiatorRandom (by decide)
    have id := length_uint_le 2 request.initiatorSessionId.toUInt64
    have passcode := length_uint_le 3 request.passcodeId.toUInt64
    have params := length_bool 4 request.hasPbkdfParameters
    simp only [members, encodeMembers, List.length_append, List.length_nil, allocLimit] at *
    omega
  · intro octets
    apply Folds.bytes
    · simp only [member, scalar, fixed_octets]
      rfl
    apply Folds.uint
    · simp only [member, scalar, sessionId, toU16?_toUInt64]
      rfl
    apply Folds.uint
    · simp only [member, scalar, sessionId, toU16?_toUInt64]
      rfl
    exact .bool rfl (.nil _)
  · obtain ⟨random, id, passcode, has, params⟩ := request
    cases plain
    rfl

end PbkdfParamRequest

namespace PbkdfParamResponse

def members (response : PbkdfParamResponse) (params : PbkdfParamsInner) : List (Tag × Value) := [
  (.context 1, bytes (response.initiatorRandom.octets (by decide))),
  (.context 2, bytes (response.responderRandom.octets (by decide))),
  (.context 3, uint response.responderSessionId.toUInt64),
  (.context 4, struct params.members)]

theorem transmits (plain : response.responderSessionParams = none)
    (offered : response.pbkdfParameters = some params) (fits : saltFits params.salt = true) :
    Transmits response.encode decode response := by
  apply Transmits.of_struct (response.members params)
  · rw [encode, offered, plain]
    simp only [PbkdfParamsInner.encode_ok fits]
    apply written_of_appends
    refine .congr (.bind (appends_start _ _) (.bind (appends_putBlock _ _ (by decide))
      (.bind (appends_putBlock _ _ (by decide)) (.bind (appends_putUint _ _)
        (.bind (appends_putRaw _) (.bind .pure appends_end)))))) ?_
    simp [members, Value.encode, enclose, encodeMembers]
  · have initiator := length_block_le 1 response.initiatorRandom (by decide)
    have responder := length_block_le 2 response.responderRandom (by decide)
    have id := length_uint_le 3 response.responderSessionId.toUInt64
    have inner := PbkdfParamsInner.length_members_le fits
    have outer := length_struct_context 4 params.members
    simp only [members, encodeMembers, List.length_append, List.length_nil, allocLimit] at *
    omega
  · intro octets
    apply Folds.bytes
    · simp only [member, scalar, fixed_octets]
      rfl
    apply Folds.bytes
    · simp only [member, scalar, fixed_octets]
      rfl
    apply Folds.uint
    · simp only [member, scalar, sessionId, toU16?_toUInt64]
      rfl
    have inner := (PbkdfParamsInner.denotes_decodeBody fits (d := 2) (by decide)
      (by decide)).bind_pure fun inner =>
        ({ initiatorRandom := some response.initiatorRandom
           responderRandom := some response.responderRandom
           responderSessionId := some response.responderSessionId
           pbkdfParameters := some inner } : Fields)
    exact .struct inner (.nil _)
  · obtain ⟨initiator, responder, id, _, _⟩ := response
    cases plain
    cases offered
    rfl

end PbkdfParamResponse

namespace Pake1

def members (message : Pake1) : List (Tag × Value) :=
  [(.context 1, bytes (message.x.octets point_short))]

theorem transmits (message : Pake1) : Transmits message.encode decode message := by
  apply Transmits.of_struct message.members
  · apply written_of_appends
    refine .congr (.bind (appends_start _ _) (.bind (appends_putBlock _ _ (by decide))
      appends_end)) ?_
    simp [members, Value.encode, enclose, encodeMembers]
  · have share := length_block_le 1 message.x (by decide)
    simp only [members, encodeMembers, List.length_append, List.length_nil, allocLimit] at *
    omega
  · intro octets
    apply Folds.bytes
    · simp only [scalarMember, scalar, fixed_octets]
      rfl
    exact .nil _
  · rfl

end Pake1

namespace Pake2

def members (message : Pake2) : List (Tag × Value) := [
  (.context 1, bytes (message.y.octets point_short)),
  (.context 2, bytes (message.verifier.octets (by decide)))]

theorem transmits (message : Pake2) : Transmits message.encode decode message := by
  apply Transmits.of_struct message.members
  · apply written_of_appends
    refine .congr (.bind (appends_start _ _) (.bind (appends_putBlock _ _ (by decide))
      (.bind (appends_putBlock _ _ (by decide)) appends_end))) ?_
    simp [members, Value.encode, enclose, encodeMembers]
  · have share := length_block_le 1 message.y (by decide)
    have tag := length_block_le 2 message.verifier (by decide)
    simp only [members, encodeMembers, List.length_append, List.length_nil, allocLimit] at *
    omega
  · intro octets
    apply Folds.bytes
    · simp only [scalarMember, scalar, fixed_octets]
      rfl
    apply Folds.bytes
    · simp only [scalarMember, scalar, fixed_octets]
      rfl
    exact .nil _
  · rfl

end Pake2

namespace Pake3

def members (message : Pake3) : List (Tag × Value) :=
  [(.context 1, bytes (message.verifier.octets (by decide)))]

theorem transmits (message : Pake3) : Transmits message.encode decode message := by
  apply Transmits.of_struct message.members
  · apply written_of_appends
    refine .congr (.bind (appends_start _ _) (.bind (appends_putBlock _ _ (by decide))
      appends_end)) ?_
    simp [members, Value.encode, enclose, encodeMembers]
  · have tag := length_block_le 1 message.verifier (by decide)
    simp only [members, encodeMembers, List.length_append, List.length_nil, allocLimit] at *
    omega
  · intro octets
    apply Folds.bytes
    · simp only [scalarMember, scalar, fixed_octets]
      rfl
    exact .nil _
  · rfl

end Pake3

end Matter.Pase
