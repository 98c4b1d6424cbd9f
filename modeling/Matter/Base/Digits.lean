import Mathlib.Data.List.Induction
import Matter.Base.LittleEndian

/-! Numerals of a fixed width in a base, as text. -/
namespace Matter.Digits

/-- The `width` low digits of `n`, the most significant first. -/
def digits (base : Nat) : Nat → Nat → List Nat
  | 0, _ => []
  | width + 1, n => digits base width (n / base) ++ [n % base]

def ofDigits (base : Nat) (ds : List Nat) : Nat := ds.foldl (fun n d => base * n + d) 0

@[simp] theorem length_digits (base width n : Nat) : (digits base width n).length = width := by
  induction width generalizing n with
  | zero => rfl
  | succ width ih => rw [digits, List.length_append, ih, List.length_singleton]

theorem ofDigits_concat (base : Nat) (ds : List Nat) (d : Nat) :
    ofDigits base (ds ++ [d]) = base * ofDigits base ds + d := by
  simp [ofDigits]

theorem ofDigits_digits (fits : n < base ^ width) : ofDigits base (digits base width n) = n := by
  induction width generalizing n with
  | zero => exact (Nat.lt_one_iff.mp fits).symm
  | succ width ih =>
    rw [Nat.pow_succ'] at fits
    rw [digits, ofDigits_concat, ih (Nat.div_lt_of_lt_mul fits), Nat.div_add_mod]

theorem digits_inj (nFits : n < base ^ width) (mFits : m < base ^ width)
    (same : digits base width n = digits base width m) : n = m := by
  rw [← ofDigits_digits nFits, same, ofDigits_digits mFits]

theorem digits_lt (positive : 0 < base) (width n : Nat) : ∀ d ∈ digits base width n, d < base := by
  induction width generalizing n with
  | zero => nofun
  | succ width ih =>
    intro d found
    rw [digits, List.mem_append, List.mem_singleton] at found
    obtain found | rfl := found
    · exact ih _ d found
    · exact Nat.mod_lt n positive

/-- A digit up to fifteen, in upper case. -/
def ascii (d : Nat) : UInt8 := if d < 10 then UInt8.ofNat (0x30 + d) else UInt8.ofNat (0x37 + d)

theorem ascii_inj : ∀ d < 16, ∀ e < 16, ascii d = ascii e → d = e := by decide

def numeral (base width n : Nat) : Bytes := (digits base width n).map ascii

@[simp] theorem length_numeral (base width n : Nat) : (numeral base width n).length = width := by
  rw [numeral, List.length_map, length_digits]

theorem numeral_inj (positive : 0 < base) (small : base ≤ 16) (nFits : n < base ^ width)
    (mFits : m < base ^ width) (same : numeral base width n = numeral base width m) : n = m := by
  have below : ∀ k, ∀ d ∈ digits base width k, d < 16 := fun k d found =>
    Nat.lt_of_lt_of_le (digits_lt positive width k d found) small
  exact digits_inj nFits mFits (map_inj_between (fun d inN e inM => ascii_inj d (below n d inN)
    e (below m e inM)) same)

end Matter.Digits
