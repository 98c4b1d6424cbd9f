import Matter.Base.LittleEndian

/-! Authenticated encryption as the transport uses it, and counter mode with
CBC-MAC over any block cipher as an instance of it: 13-byte nonces, 16-byte tags
and a two-byte length field. Nothing here refers to a particular protocol. -/
namespace Matter.Crypto

/-- An authenticated cipher. It encrypts every plaintext below the limit of its
length field and decrypts what it encrypted. -/
structure Aead where
  encrypt : (key nonce aad plaintext : Bytes) → Option Bytes
  decrypt : (key nonce aad ciphertext : Bytes) → Option Bytes
  encrypts : ∀ key nonce aad plaintext, plaintext.length < 2 ^ 16 →
    ∃ ciphertext, encrypt key nonce aad plaintext = some ciphertext
  decrypts : ∀ {key nonce aad plaintext ciphertext},
    encrypt key nonce aad plaintext = some ciphertext →
      decrypt key nonce aad ciphertext = some plaintext

abbrev Block := Vector UInt8 16

namespace Block

/-- The first sixteen bytes, padded with zeros. -/
def ofBytes (bytes : Bytes) : Block := .ofFn fun i => bytes.getD i 0

def xor (a b : Block) : Block := a.zipWith (· ^^^ ·) b

end Block

namespace Ccm

def bigEndian (width n : Nat) : Bytes := (LittleEndian.encode width n).reverse

def tagLength : Nat := 16

section Mode
variable (cipher : Bytes → Block → Block)

def keystreamBlock (key nonce : Bytes) (i : Nat) : Block :=
  cipher key (.ofBytes (1 :: nonce ++ bigEndian 2 i))

/-- At least `n` bytes of keystream, from counter block one on. -/
def keystream (key nonce : Bytes) (n : Nat) : Bytes :=
  (List.range (n / 16 + 1)).flatMap fun i => (keystreamBlock cipher key nonce (i + 1)).toList

/-- Sixteen-byte blocks, the last one padded with zeros. -/
def blocks (bytes : Bytes) : List Block :=
  (List.range ((bytes.length + 15) / 16)).map fun i => .ofBytes (bytes.drop (16 * i))

def associatedLength (n : Nat) : Bytes :=
  if n < 0xff00 then bigEndian 2 n else 0xff :: 0xfe :: bigEndian 4 n

/-- The blocks the tag is computed over. -/
def macBlocks (nonce aad plaintext : Bytes) : List Block :=
  let flags : UInt8 := if aad.isEmpty then 0x39 else 0x79
  .ofBytes (flags :: nonce ++ bigEndian 2 plaintext.length) ::
    ((if aad.isEmpty then [] else blocks (associatedLength aad.length ++ aad)) ++ blocks plaintext)

def tag (key nonce aad plaintext : Bytes) : Bytes :=
  let mac := (macBlocks nonce aad plaintext).foldl (fun mac block => cipher key (mac.xor block))
    (.replicate 16 0)
  (mac.xor (keystreamBlock cipher key nonce 0)).toList

def applyKeystream (key nonce message : Bytes) : Bytes :=
  List.zipWith (· ^^^ ·) message (keystream cipher key nonce message.length)

def encrypt (key nonce aad plaintext : Bytes) : Option Bytes :=
  if plaintext.length < 2 ^ 16 then
    some (applyKeystream cipher key nonce plaintext ++ tag cipher key nonce aad plaintext)
  else none

def decrypt (key nonce aad ciphertext : Bytes) : Option Bytes :=
  if ciphertext.length < tagLength then none
  else
    let body := ciphertext.take (ciphertext.length - tagLength)
    let plaintext := applyKeystream cipher key nonce body
    if tag cipher key nonce aad plaintext = ciphertext.drop (ciphertext.length - tagLength) then
      some plaintext
    else none

theorem length_keystream (key nonce : Bytes) (n : Nat) :
    n ≤ (keystream cipher key nonce n).length := by
  simp only [keystream, List.length_flatMap, Vector.length_toList, List.map_const', List.length_range,
    List.sum_replicate_nat]
  omega

theorem length_applyKeystream (key nonce message : Bytes) :
    (applyKeystream cipher key nonce message).length = message.length := by
  have enough := length_keystream cipher key nonce message.length
  simp only [applyKeystream, List.length_zipWith]
  omega

theorem zipWith_xor_cancel (stream : Bytes) (enough : message.length ≤ stream.length) :
    List.zipWith (· ^^^ ·) (List.zipWith (· ^^^ ·) message stream) stream = message := by
  induction message generalizing stream with
  | nil => simp
  | cons b rest ih =>
    cases stream with
    | nil => simp at enough
    | cons k stream =>
      have shorter : rest.length ≤ stream.length := by simpa using enough
      simp only [List.zipWith_cons_cons, ih stream shorter, UInt8.xor_assoc, UInt8.xor_self,
        UInt8.xor_zero]

theorem applyKeystream_twice (key nonce message : Bytes) :
    applyKeystream cipher key nonce (applyKeystream cipher key nonce message) = message := by
  rw [applyKeystream, length_applyKeystream]
  exact zipWith_xor_cancel _ (length_keystream cipher key nonce message.length)

theorem length_tag (key nonce aad plaintext : Bytes) :
    (tag cipher key nonce aad plaintext).length = tagLength := by
  simp only [tag, Vector.length_toList, tagLength]

theorem length_encrypt (sealed : encrypt cipher key nonce aad plaintext = some ciphertext) :
    ciphertext.length = plaintext.length + tagLength := by
  unfold encrypt at sealed
  split at sealed
  · cases sealed
    rw [List.length_append, length_applyKeystream, length_tag]
  · cases sealed

theorem decrypt_encrypt (sealed : encrypt cipher key nonce aad plaintext = some ciphertext) :
    decrypt cipher key nonce aad ciphertext = some plaintext := by
  have length := length_encrypt cipher sealed
  unfold encrypt at sealed
  split at sealed
  · cases sealed
    have front := length_applyKeystream cipher key nonce plaintext
    rw [decrypt, length, if_neg (by omega), Nat.add_sub_cancel]
    simp only [← front, List.take_left, List.drop_left]
    rw [applyKeystream_twice, if_pos rfl]
  · cases sealed

end Mode

end Ccm

def Aead.ccm (cipher : Bytes → Block → Block) : Aead where
  encrypt := Ccm.encrypt cipher
  decrypt := Ccm.decrypt cipher
  encrypts _ _ _ _ short := ⟨_, if_pos short⟩
  decrypts := Ccm.decrypt_encrypt cipher

end Matter.Crypto
