import Mathlib.Algebra.Field.ZMod
import Matter.Pase.Spake2p

/-! A suite small enough to evaluate: the group of three elements, and checksums
for hash and key derivation. -/
namespace Matter.Pase
open Codec hiding Error
open Cert (Block)

abbrev Z3 := ZMod 3

def checksum (bytes : Bytes) : UInt8 := bytes.foldl (· + ·) 0

/-- An element as the last octet of a block. -/
def lastOctet (n : Nat) (s : Z3) : Block (n + 1) where
  bytes := List.replicate n 4 ++ [UInt8.ofNat s.val]
  size := by simp

def ofLastOctet (bytes : Bytes) : Option Z3 :=
  bytes.getLast?.bind fun b => if b < 3 then some (b.toNat : Z3) else none

theorem ofLastOctet_lastOctet (n : Nat) (s : Z3) : ofLastOctet (lastOctet n s).bytes = some s := by
  have each : ∀ s : Z3, (if UInt8.ofNat s.val < 3 then some ((UInt8.ofNat s.val).toNat : Z3)
      else none) = some s := by decide
  rw [ofLastOctet, lastOctet, List.getLast?_concat, Option.bind_some]
  exact each s

def smallSuite : Suite Z3 Z3 where
  order := 3
  generator := 1
  mPoint := 1
  nPoint := 1
  mBytes := lastOctet 64 1
  nBytes := lastOctet 64 1
  toSec1 point := if point = 0 then [0] else (lastOctet 64 point).bytes
  fromSec1 := ofLastOctet
  toRepr := lastOctet 31
  fromRepr block := ofLastOctet block.bytes
  sha256 bytes := .fill 32 (checksum bytes)
  hmac key message := .fill 32 (checksum key + checksum message)
  hkdf secret info length := some (.fill length (checksum secret + checksum info))
  pbkdf2 password _ _ := .fill 80 (checksum password)
  generator_ne_zero := by decide
  toSec1_size point nonzero := by rw [if_neg nonzero, (lastOctet 64 point).size]
  toSec1_zero := rfl
  fromSec1_toSec1 point nonzero := by rw [if_neg nonzero, ofLastOctet_lastOctet]
  fromRepr_toRepr scalar := ofLastOctet_lastOctet 31 scalar
  hkdf_short _ _ _ _ := ⟨_, rfl⟩

end Matter.Pase
