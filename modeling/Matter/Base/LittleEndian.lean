import Mathlib.Tactic.Ring

/-! Fixed-width little-endian numbers, unsigned and two's complement. -/
namespace Matter

abbrev Bytes := List UInt8

theorem map_inj_between {first second : List α} (inj : ∀ a ∈ first, ∀ b ∈ second, f a = f b → a = b)
    (same : first.map f = second.map f) : first = second := by
  induction first generalizing second with
  | nil => exact (List.map_eq_nil_iff.mp same.symm).symm
  | cons a first ih =>
    cases second with
    | nil => cases same
    | cons b second =>
      obtain ⟨head, tail⟩ := List.cons.inj same
      rw [inj a List.mem_cons_self b List.mem_cons_self head,
        ih (fun a found b found' => inj a (List.mem_cons_of_mem _ found) b
          (List.mem_cons_of_mem _ found')) tail]

namespace LittleEndian

/-- The `width` low bytes of `n`. -/
def encode : Nat → Nat → Bytes
  | 0, _ => []
  | width + 1, n => UInt8.ofNat n :: encode width (n / 256)

def decode : Bytes → Nat
  | [] => 0
  | b :: rest => b.toNat + 256 * decode rest

@[simp] theorem length_encode (width n : Nat) : (encode width n).length = width := by
  induction width generalizing n with
  | zero => rfl
  | succ width ih => simp only [encode, List.length_cons, ih]

theorem decode_lt (bytes : Bytes) : decode bytes < 256 ^ bytes.length := by
  induction bytes with
  | nil => simp [decode]
  | cons b rest ih =>
    have bound := b.toNat_lt
    simp only [decode, List.length_cons, Nat.pow_succ]
    omega

theorem decode_encode (fits : n < 256 ^ width) : decode (encode width n) = n := by
  induction width generalizing n with
  | zero =>
    simp only [Nat.pow_zero, Nat.lt_one_iff] at fits
    simp [encode, decode, fits]
  | succ width ih =>
    have rest : n / 256 < 256 ^ width := by
      omega
    simp only [encode, decode, ih rest, UInt8.toNat_ofNat']
    omega

theorem encode_decode (bytes : Bytes) : encode bytes.length (decode bytes) = bytes := by
  induction bytes with
  | nil => rfl
  | cons b rest ih =>
    have bound := b.toNat_lt
    rw [List.length_cons, decode, encode, Nat.add_mul_div_left _ _ (by decide : 0 < 256),
      Nat.div_eq_of_lt bound, Nat.zero_add, ih]
    congr 1
    exact UInt8.toNat_inj.mp (by rw [UInt8.toNat_ofNat']; omega)

/-- The number a two's complement pattern of `width` bytes stands for. -/
def signed (width n : Nat) : Int :=
  if n < 256 ^ width / 2 then n else (n : Int) - (256 ^ width : Nat)

/-- The two's complement pattern of `v`. -/
def pattern (width : Nat) (v : Int) : Nat :=
  (v % (256 ^ width : Nat)).toNat

/-- `v` is in the range of a signed number of `width` bytes. -/
def InRange (width : Nat) (v : Int) : Prop :=
  -(256 ^ width / 2 : Nat) ≤ v ∧ v < (256 ^ width / 2 : Nat)

instance (width : Nat) (v : Int) : Decidable (InRange width v) :=
  inferInstanceAs (Decidable (_ ∧ _))

theorem pattern_lt (width : Nat) (v : Int) : pattern width v < 256 ^ width := by
  unfold pattern
  omega

theorem signed_pattern (fits : InRange width v) : signed width (pattern width v) = v := by
  obtain ⟨low, high⟩ := fits
  unfold signed pattern
  generalize 256 ^ width = whole at *
  by_cases negative : v < 0
  · have wrapped : v % (whole : Int) = v + whole := by
      rw [← Int.add_emod_right]
      exact Int.emod_eq_of_lt (by omega) (by omega)
    split <;> omega
  · have same : v % (whole : Int) = v := Int.emod_eq_of_lt (by omega) (by omega)
    split <;> omega

theorem signed_inRange (fits : n < 256 ^ (width + 1)) :
    InRange (width + 1) (signed (width + 1) n) := by
  unfold InRange signed
  split <;> omega

end LittleEndian
end Matter
