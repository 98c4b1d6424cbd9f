import Matter.Cert.Members
import Matter.Handshake.Fields

/-! Handshake messages on the wire: what the writers produce is one anonymous
structure, and the decoders read such a structure member by member. -/
namespace Matter.Handshake
open Codec hiding Error
open TlvReader TlvWriter Value
open Cert (Block)

theorem received_bytes {bytes : Bytes} (short : bytes.length < allocLimit) :
    (received bytes).bytes = bytes := by
  rw [received, dif_pos short]

theorem written_of_appends {bytes : Bytes} (appends : Appends m bytes) : written m = .ok bytes := by
  rw [written, appends []]
  rfl

theorem appends_putRaw (raw : Bytes) : Appends (putRaw raw) raw := fun _ => rfl

/-! Messages are short. -/

theorem length_encodeTag_context (n : UInt8) (type : ElementType) :
    (encodeTag (.context n) type).length = 2 := rfl

theorem length_uint_le (n : UInt8) (v : UInt64) : ((uint v).encode (.context n)).length ≤ 10 := by
  have width : (Width.ofUnsigned v.toNat).bytes ≤ 8 := by
    cases Width.ofUnsigned v.toNat <;> decide
  rw [encode, ValueRef.encode, List.length_append, length_encodeTag_context, ValueRef.body,
    LittleEndian.length_encode]
  omega

theorem length_bool (n : UInt8) (b : Bool) : ((bool b).encode (.context n)).length = 2 := rfl

theorem length_bytes_le (n : UInt8) (octets : Octets) :
    ((bytes octets).encode (.context n)).length ≤ 10 + octets.bytes.length := by
  have width : (Width.ofUnsigned octets.bytes.length).bytes ≤ 8 := by
    cases Width.ofUnsigned octets.bytes.length <;> decide
  rw [encode, ValueRef.encode, List.length_append, length_encodeTag_context, ValueRef.body,
    lengthPrefixed, List.length_append, LittleEndian.length_encode]
  omega

theorem length_block_le (n : UInt8) (block : Block m) (small : m < allocLimit) :
    ((bytes (block.octets small)).encode (.context n)).length ≤ 10 + m := by
  have whole := length_bytes_le n (block.octets small)
  rwa [Block.octets, block.size] at whole

theorem length_struct_anonymous (members : List (Tag × Value)) :
    ((struct members).encode .anonymous).length = (encodeMembers members).length + 2 := by
  rw [encode, enclose, List.length_append, List.length_append]
  simp only [encodeTag, List.length_singleton]
  omega

theorem length_struct_context (n : UInt8) (members : List (Tag × Value)) :
    ((struct members).encode (.context n)).length = (encodeMembers members).length + 3 := by
  rw [encode, enclose, List.length_append, List.length_append, length_encodeTag_context,
    List.length_singleton]
  omega

theorem denotes_fields (folds : Folds member d init members verdict) (opened : 0 < d)
    (shallow : d < maxDepth) :
    Denotes (fields member init) d (encodeMembers members ++ [ElementType.endOfContainer.code])
      verdict (d - 1) :=
  denotes_forEachMember_folds folds opened shallow

theorem decodeMessage_folds {message : σ → Except Error α} {bytes : Octets}
    (here : bytes.bytes = (struct members).encode .anonymous)
    (folds : Folds member 1 init members (.ok state)) (complete : message state = .ok a) :
    decodeMessage member init message bytes = .ok a := by
  have denotes : Denotes (do
      expectAnonStructStart
      let state ← fields member init
      MonadExcept.ofExcept (message state)) 0 ((struct members).encode .anonymous) (.ok a) 0 := by
    rw [expectAnonStructStart, bind_assoc, encode, enclose, List.append_assoc]
    refine denotes_start (by decide) ?_
    have body := (denotes_fields folds (by decide) (by decide)).bind_check message
    rwa [show ((.ok state : Except Error σ) >>= message) = .ok a from complete] at body
  have ended := denotes (new bytes) [] (inBounds_new bytes) rfl (by
    rw [List.append_nil, ← here]
    rfl)
  rw [decodeMessage, parseWhole]
  generalize EStateM.run _ (new bytes) = result at ended ⊢
  cases ended
  rfl

/-- What is encoded arrives, and is decoded to `a`. -/
def Transmits {α : Type} (encoded : Except Error Bytes) (decode : Octets → Except Error α)
    (a : α) : Prop :=
  ∃ sent, encoded = .ok sent ∧ (received sent).bytes = sent ∧ decode (received sent) = .ok a

theorem Transmits.of_struct {member : Octets → σ → ElementRef → FieldsM σ}
    (members : List (Tag × Value))
    (writes : encoded = .ok ((struct members).encode .anonymous))
    (short : (encodeMembers members).length + 2 < allocLimit)
    (folds : ∀ bytes, Folds (member bytes) 1 init members (.ok state))
    (complete : message state = .ok a) :
    Transmits encoded (fun bytes => decodeMessage (member bytes) init message bytes) a := by
  have whole : (received ((struct members).encode .anonymous)).bytes = _ :=
    received_bytes (by rwa [length_struct_anonymous])
  exact ⟨_, writes, whole, decodeMessage_folds whole (folds _) complete⟩

/-! Fields that were encoded are decoded. -/

theorem fixed_octets (block : Block n) (small : n < allocLimit) :
    fixed n (block.octets small) = .ok block := by
  rw [fixed, Block.tryFrom, dif_pos (show (block.octets small).bytes.length = n from block.size)]
  rfl

theorem toU16?_toUInt64 (id : UInt16) : Wire.toU16? id.toUInt64 = some id := by
  have bound := id.toNat_lt
  rw [Wire.toU16?, if_pos (by simpa using bound)]
  simp

theorem toU32?_toUInt64 (n : UInt32) : Wire.toU32? n.toUInt64 = some n := by
  have bound := n.toNat_lt
  rw [Wire.toU32?, if_pos (by simpa using bound)]
  simp

end Matter.Handshake
