import Mathlib.Tactic.Ring

/-! The onboarding payload of a setup code. -/
namespace Matter.Setup

inductive CommissioningFlow where
  | standard
  | userIntent
  | custom
  deriving DecidableEq, Repr

/-- The transports on which a device can be discovered, unknown bits included. -/
structure DiscoveryCapabilities where
  bits : UInt8
  deriving DecidableEq, Repr

/-- A short discriminator is kept in the upper four of the twelve bits. -/
structure Discriminator where
  value : UInt16
  isShort : Bool
  twelveBits : value.toNat ≤ 0x0fff
  extended : isShort = true → value.toNat % 256 = 0
  deriving DecidableEq

def disallowedPasscodes : List UInt32 :=
  [0, 11111111, 22222222, 33333333, 44444444, 55555555, 66666666, 77777777, 88888888, 99999999,
    12345678, 87654321]

def maxPasscode : UInt32 := 99999998

structure Passcode where
  value : UInt32
  allowed : value ∉ disallowedPasscodes
  bounded : value ≤ maxPasscode
  deriving DecidableEq

structure SetupPayload where
  version : UInt8
  vendorId : Option UInt16
  productId : Option UInt16
  commissioningFlow : CommissioningFlow
  discoveryCapabilities : DiscoveryCapabilities
  discriminator : Discriminator
  passcode : Passcode
  deriving DecidableEq

end Matter.Setup
