import Mathlib.Data.List.GetD
import Matter.Base.Exits
import Matter.Base.LittleEndian

/-! The Base38 text of a QR code, as the bytes of a string. Three bytes make five characters,
and what is left of a payload makes four or two. -/
namespace Matter.Setup.Base38
open Exits

inductive Error where
  | invalidBase38Char (ch : Char) (position : Nat)
  | base38ChunkOutOfRange (position : Nat)
  deriving DecidableEq

def alphabet : Bytes :=
  "0123456789ABCDEFGHIJKLMNOPQRSTUVWXYZ-.".toList.map fun ch => UInt8.ofNat ch.toNat

/-- The `count` low digits of `value`, the least significant first. -/
def pushChars : Nat → Nat → Bytes
  | 0, _ => []
  | count + 1, value => alphabet.getD (value % 38) 0 :: pushChars count (value / 38)

def encode : Bytes → Bytes
  | b0 :: b1 :: b2 :: rest => pushChars 5 (LittleEndian.decode [b0, b1, b2]) ++ encode rest
  | [b0, b1] => pushChars 4 (LittleEndian.decode [b0, b1])
  | [b0] => pushChars 2 (LittleEndian.decode [b0])
  | [] => []

def alphabetIndex (byte : UInt8) (position : Nat) : Except Error Nat :=
  if alphabet.idxOf byte < 38 then .ok (alphabet.idxOf byte)
  else .error (.invalidBase38Char (Char.ofNat byte.toNat) position)

/-- The value of a chunk, whose last character is looked up first. -/
def chunkValue (position : Nat) : Bytes → Except Error Nat
  | [] => .ok 0
  | byte :: rest => do
    let value ← chunkValue (position + 1) rest
    let idx ← alphabetIndex byte position
    return value * 38 + idx

def byteCount : Nat → Option Nat
  | 5 => some 3
  | 4 => some 2
  | 2 => some 1
  | _ => none

def decodeChunk (position : Nat) (chunk : Bytes) : Except Error Bytes := do
  let value ← chunkValue position chunk
  match byteCount chunk.length with
  | none => .error (.invalidBase38Char '?' (position + chunk.length - 1))
  | some count =>
    if value >>> (count * 8) ≠ 0 then .error (.base38ChunkOutOfRange position)
    else .ok (LittleEndian.encode count value)

def decodeFrom (position : Nat) : Bytes → Except Error Bytes
  | [] => .ok []
  | c0 :: c1 :: c2 :: c3 :: c4 :: rest => do
    let bytes ← decodeChunk position [c0, c1, c2, c3, c4]
    let later ← decodeFrom (position + 5) rest
    return bytes ++ later
  | chunk => decodeChunk position chunk

def decode (s : Bytes) : Except Error Bytes := decodeFrom 0 s

theorem alphabetIndex_ok :
    alphabetIndex byte position = .ok idx ↔ idx < 38 ∧ alphabet.getD idx 0 = byte := by
  have distinct : alphabet.Nodup := by decide
  have size : alphabet.length = 38 := by decide
  unfold alphabetIndex
  constructor
  · intro found
    split at found
    · rename_i small
      cases found
      rw [← size] at small
      rw [List.getD_eq_getElem _ _ small, List.getElem_idxOf]
      exact ⟨size ▸ small, rfl⟩
    · cases found
  · rintro ⟨small, rfl⟩
    have here : idx < alphabet.length := size ▸ small
    rw [List.getD_eq_getElem _ _ here, distinct.idxOf_getElem, if_pos small]

theorem chunkValue_ok : chunkValue position chunk = .ok value ↔
    value < 38 ^ chunk.length ∧ chunk = pushChars chunk.length value := by
  induction chunk generalizing position value with
  | nil => simp [chunkValue, pushChars, eq_comm]
  | cons byte rest ih =>
    rw [chunkValue, List.length_cons, pushChars, Nat.pow_succ]
    constructor
    · intro read
      obtain ⟨high, later, read⟩ := of_bind_ok read
      obtain ⟨idx, found, rfl⟩ := of_bind_pure read
      obtain ⟨fits, same⟩ := ih.mp later
      obtain ⟨small, here⟩ := alphabetIndex_ok.mp found
      rw [show (high * 38 + idx) % 38 = idx by omega, show (high * 38 + idx) / 38 = high by omega,
        here, ← same]
      exact ⟨by omega, rfl⟩
    · rintro ⟨fits, same⟩
      obtain ⟨head, tail⟩ := List.cons.inj same
      have high : value / 38 < 38 ^ rest.length := by omega
      refine bind_ok.mpr ⟨_, ih.mpr ⟨high, tail⟩, bind_ok.mpr ⟨value % 38, ?_, ?_⟩⟩
      · exact alphabetIndex_ok.mpr ⟨Nat.mod_lt value (by decide), head.symm⟩
      · exact congrArg Except.ok (Nat.div_add_mod' value 38)

theorem shifted_out : value >>> (count * 8) = 0 ↔ value < 256 ^ count := by
  rw [Nat.shiftRight_eq_div_pow, Nat.mul_comm, Nat.pow_mul]
  exact Nat.div_eq_zero_iff_lt (Nat.pow_pos (by decide))

/-- No value of the bytes is too large for the characters. -/
theorem roomy (counts : byteCount n = some count) : 256 ^ count ≤ 38 ^ n := by
  unfold byteCount at counts
  split at counts <;> cases counts <;> decide

theorem decodeChunk_ok : decodeChunk position chunk = .ok bytes ↔
    byteCount chunk.length = some bytes.length ∧
      chunk = pushChars chunk.length (LittleEndian.decode bytes) := by
  unfold decodeChunk
  rw [bind_ok]
  cases counts : byteCount chunk.length with
  | none => simp
  | some count =>
    constructor
    · rintro ⟨value, read, done⟩
      dsimp only at done
      split at done
      · cases done
      · rename_i fits
        cases done
        rw [LittleEndian.length_encode, LittleEndian.decode_encode (shifted_out.mp (not_not.mp fits))]
        exact ⟨rfl, (chunkValue_ok.mp read).2⟩
    · rintro ⟨size, same⟩
      cases size
      have small := LittleEndian.decode_lt bytes
      refine ⟨_, chunkValue_ok.mpr ⟨Nat.lt_of_lt_of_le small (roomy counts), same⟩, ?_⟩
      dsimp only
      rw [if_neg (not_not.mpr (shifted_out.mpr small)), LittleEndian.encode_decode]

theorem decodeFrom_encode (position : Nat) (bytes : Bytes) :
    decodeFrom position (encode bytes) = .ok bytes := by
  fun_induction encode bytes generalizing position with
  | case1 b0 b1 b2 rest ih =>
    refine (bind_ok (m := decodeChunk position (pushChars 5 _))).mpr ⟨[b0, b1, b2], ?_, ?_⟩
    · exact decodeChunk_ok.mpr ⟨rfl, rfl⟩
    · exact bind_ok.mpr ⟨_, ih _, rfl⟩
  | case2 b0 b1 | case3 b0 => exact decodeChunk_ok.mpr ⟨rfl, rfl⟩
  | case4 => rfl

theorem encode_of_decodeFrom (read : decodeFrom position s = .ok bytes) : encode bytes = s := by
  fun_induction decodeFrom position s generalizing bytes with
  | case1 =>
    cases read
    rfl
  | case2 position c0 c1 c2 c3 c4 rest ih =>
    obtain ⟨first, here, read⟩ := of_bind_ok read
    obtain ⟨later, there, rfl⟩ := of_bind_pure read
    obtain ⟨size, chunk⟩ := decodeChunk_ok.mp here
    match first, size with
    | [b0, b1, b2], _ =>
      change pushChars 5 (LittleEndian.decode [b0, b1, b2]) ++ encode later = _
      rw [ih there]
      exact congrArg (· ++ rest) chunk.symm
  | case3 position chunk filled short =>
    obtain ⟨size, same⟩ := decodeChunk_ok.mp read
    match chunk with
    | [] => exact absurd rfl filled
    | [_] | [_, _, _] => cases size
    | [_, _] =>
      match bytes, size with
      | [_], _ => exact same.symm
    | [_, _, _, _] =>
      match bytes, size with
      | [_, _], _ => exact same.symm
    | c0 :: c1 :: c2 :: c3 :: c4 :: rest => exact absurd rfl (short c0 c1 c2 c3 c4 rest)

/-- A string is accepted if and only if it is the encoding of what it is decoded to. -/
theorem base38_bijection (s bytes : Bytes) : decode s = .ok bytes ↔ encode bytes = s := by
  constructor
  · exact encode_of_decodeFrom
  · rintro rfl
    exact decodeFrom_encode 0 bytes

end Matter.Setup.Base38
