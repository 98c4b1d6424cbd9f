import Matter.Base.Logs
import Matter.Transport.Framing
import Mathlib.Order.Lattice.Nat

/-! The replay window of a session: the highest counter accepted and a bitmap of
the 32 counters behind it. It stands for the set of all counters ever accepted,
as far as that set can still matter. -/
namespace Matter.Transport
open Logs (log)

structure ReplayWindow where
  highestSeen : UInt32
  bitmap : BitVec 32
deriving DecidableEq, Repr

namespace ReplayWindow

def width : Nat := 32

def new : ReplayWindow := ⟨0, 0⟩

/-- The distance of `counter` behind the highest one. -/
def offset (w : ReplayWindow) (counter : UInt32) : Nat :=
  w.highestSeen.toNat - counter.toNat

def classify (w : ReplayWindow) (counter : UInt32) : Except Error Unit :=
  if counter > w.highestSeen then .ok ()
  else if counter = w.highestSeen then .error (.replayedCounter counter)
  else if w.offset counter > width then
    .error (.counterTooOld counter (UInt32.ofNat (w.highestSeen.toNat - width)) w.highestSeen)
  else if w.bitmap &&& (1#32 <<< (w.offset counter - 1)) ≠ 0 then .error (.replayedCounter counter)
  else .ok ()

def wouldReject (w : ReplayWindow) (counter : UInt32) : Except Error Unit :=
  w.classify counter

/-- The bitmap after a forward jump: the previous highest counter is now `shift`
behind, and a jump past the window clears it. -/
def jump (bitmap : BitVec 32) (shift : Nat) : BitVec 32 :=
  if shift > width then 0
  else (if shift < 32 then bitmap <<< shift else 0) ||| (1#32 <<< (shift - 1))

/-- The window after `counter` is accepted. -/
def record (w : ReplayWindow) (counter : UInt32) : ReplayWindow :=
  if counter > w.highestSeen then
    { highestSeen := counter, bitmap := jump w.bitmap (counter.toNat - w.highestSeen.toNat) }
  else { w with bitmap := w.bitmap ||| (1#32 <<< (w.offset counter - 1)) }

def checkAndRecord (w : ReplayWindow) (counter : UInt32) : Except Error Unit × ReplayWindow :=
  match w.classify counter with
  | .error e => (.error e, w)
  | .ok () => (.ok (), w.record counter)

/-- The window knows of every accepted counter that it is not behind it, or too
far behind to be accepted again, or recorded in the bitmap. -/
structure Represents (w : ReplayWindow) (accepted : Set UInt32) : Prop where
  highest : w.highestSeen ∈ accepted
  bounded : ∀ c ∈ accepted, c ≤ w.highestSeen
  behind : ∀ c < w.highestSeen, w.offset c ≤ width →
    (w.bitmap.getLsbD (w.offset c - 1) = true ↔ c ∈ accepted)

theorem represents_new : Represents new {0} := by
  constructor
  · rfl
  · rintro c rfl
    exact UInt32.le_refl 0
  · intro c below
    exact absurd below UInt32.not_lt_zero

theorem bit_test (bitmap : BitVec 32) (inside : n < 32) :
    bitmap &&& (1#32 <<< n) ≠ 0 ↔ bitmap.getLsbD n = true := by
  rw [← BitVec.twoPow_eq, BitVec.and_twoPow]
  split
  · rename_i set
    refine ⟨fun _ => set, fun _ zero => ?_⟩
    have bit := congrArg (·.getLsbD n) zero
    simp [inside] at bit
  · rename_i clear
    exact ⟨fun nonzero => absurd rfl nonzero, fun set => absurd set clear⟩

theorem getLsbD_jump (bitmap : BitVec 32) (positive : 0 < shift) (inside : n < 32) :
    (jump bitmap shift).getLsbD n = true ↔
      n + 1 = shift ∨ (shift ≤ n ∧ bitmap.getLsbD (n - shift) = true) := by
  unfold jump
  split
  · rename_i past
    unfold width at past
    simp only [BitVec.ofNat_eq_ofNat, BitVec.getLsbD_zero, Bool.false_eq_true, false_iff, not_or,
      not_and]
    omega
  · rw [BitVec.getLsbD_or, ← BitVec.twoPow_eq, BitVec.getLsbD_twoPow]
    split
    · simp only [BitVec.getLsbD_shiftLeft, inside, decide_true, Bool.true_and, Bool.or_eq_true,
        Bool.and_eq_true, Bool.not_eq_true', decide_eq_false_iff_not, decide_eq_true_eq, Nat.not_lt]
      rw [or_comm, show shift - 1 < 32 ∧ shift - 1 = n ↔ n + 1 = shift by omega]
    · simp only [BitVec.ofNat_eq_ofNat, BitVec.getLsbD_zero, Bool.false_or, Bool.and_eq_true,
        decide_eq_true_eq]
      omega

variable {w : ReplayWindow} {accepted : Set UInt32} {counter : UInt32}

/-- The verdict of the window is the one of the set it stands for. -/
theorem Represents.classify_eq [Decidable (counter ∈ accepted)] (represents : Represents w accepted) :
    w.classify counter =
      if w.highestSeen < counter then .ok ()
      else if width < w.offset counter then
        .error (.counterTooOld counter (UInt32.ofNat (w.highestSeen.toNat - width)) w.highestSeen)
      else if counter ∈ accepted then .error (.replayedCounter counter) else .ok () := by
  unfold classify
  split
  · rfl
  split
  · rename_i same
    subst same
    rw [if_neg (by simp [offset]), if_pos represents.highest]
  have below : counter < w.highestSeen := by grind
  split
  · rfl
  rename_i near
  have positive : w.offset counter - 1 < 32 := by
    unfold width at near
    omega
  have recorded := represents.behind counter below (by omega)
  have tested := (bit_test w.bitmap positive).trans recorded
  simp only [tested]

section
variable (represents : Represents w accepted)
include represents

/-- Exactly the counters ahead of the window, and those inside it that were not
accepted before, are fresh. -/
theorem Represents.classify_ok :
    w.classify counter = .ok () ↔
      w.highestSeen < counter ∨ (w.offset counter ≤ width ∧ counter ∉ accepted) := by
  classical
  rw [represents.classify_eq]
  split
  · rename_i ahead
    exact ⟨fun _ => Or.inl ahead, fun _ => rfl⟩
  rename_i within
  split
  · rename_i old
    simp [within, Nat.not_le.mpr old]
  · rename_i near
    simp [within, Nat.not_lt.mp near]

theorem Represents.fresh_notMem (fresh : w.classify counter = .ok ()) : counter ∉ accepted := by
  rcases represents.classify_ok.mp fresh with ahead | ⟨_, unseen⟩
  · intro seen
    have below := represents.bounded counter seen
    grind
  · exact unseen

theorem Represents.record_ahead (ahead : w.highestSeen < counter) :
    Represents (w.record counter) (insert counter accepted) := by
  have advanced := UInt32.lt_iff_toNat_lt.mp ahead
  constructor
  · rw [record, if_pos ahead]
    exact Set.mem_insert counter accepted
  · rw [record, if_pos ahead]
    rintro c (rfl | before)
    · exact UInt32.le_refl c
    · exact UInt32.le_of_lt (UInt32.lt_of_le_of_lt (represents.bounded c before) ahead)
  · intro c below near
    simp only [record, if_pos ahead, offset, width] at below near ⊢
    have order := UInt32.lt_iff_toNat_lt.mp below
    have distinct : c ≠ counter := UInt32.ne_of_lt below
    rw [Set.mem_insert_iff, or_iff_right distinct, getLsbD_jump w.bitmap (by omega) (by omega)]
    rcases Nat.lt_trichotomy c.toNat w.highestSeen.toNat with old | same | new
    · have recorded := represents.behind c (UInt32.lt_iff_toNat_lt.mpr old)
        (by simp only [offset, width]; omega)
      have position : counter.toNat - c.toNat - 1 - (counter.toNat - w.highestSeen.toNat) =
          w.offset c - 1 := by
        simp only [offset]
        omega
      rw [position, recorded]
      constructor
      · rintro (previous | ⟨_, seen⟩)
        · omega
        · exact seen
      · intro seen
        exact Or.inr ⟨by omega, seen⟩
    · obtain rfl := UInt32.toNat_inj.mp same
      simp only [represents.highest, iff_true]
      exact Or.inl (by omega)
    · constructor
      · rintro (previous | ⟨beyond, _⟩) <;> omega
      · intro seen
        have bound := UInt32.le_iff_toNat_le.mp (represents.bounded c seen)
        omega

theorem Represents.record_within (within : ¬ w.highestSeen < counter)
    (near : w.offset counter ≤ width) (unseen : counter ∉ accepted) :
    Represents (w.record counter) (insert counter accepted) := by
  have different : counter ≠ w.highestSeen := by
    rintro rfl
    exact unseen represents.highest
  have below : counter.toNat < w.highestSeen.toNat := by
    have bound := UInt32.not_lt.mp within
    exact UInt32.lt_iff_toNat_lt.mp (UInt32.lt_of_le_of_ne bound different)
  constructor
  · rw [record, if_neg within]
    exact Or.inr represents.highest
  · rw [record, if_neg within]
    rintro c (rfl | before)
    · exact UInt32.not_lt.mp within
    · exact represents.bounded c before
  · intro c under close
    simp only [record, if_neg within, offset, width] at under close near ⊢
    have order := UInt32.lt_iff_toNat_lt.mp under
    have recorded := represents.behind c under close
    rw [BitVec.getLsbD_or, ← BitVec.twoPow_eq, BitVec.getLsbD_twoPow, Set.mem_insert_iff, ← recorded]
    have same : c = counter ↔ w.highestSeen.toNat - counter.toNat - 1 < 32 ∧
        w.highestSeen.toNat - counter.toNat - 1 = w.highestSeen.toNat - c.toNat - 1 := by
      rw [← UInt32.toNat_inj]
      omega
    rw [same, or_comm, Bool.or_eq_true, Bool.and_eq_true, decide_eq_true_eq, decide_eq_true_eq]
    rfl

theorem Represents.record (fresh : w.classify counter = .ok ()) :
    Represents (w.record counter) (insert counter accepted) := by
  by_cases ahead : w.highestSeen < counter
  · exact represents.record_ahead ahead
  · rcases represents.classify_ok.mp fresh with forward | ⟨near, unseen⟩
    · exact absurd forward ahead
    · exact represents.record_within ahead near unseen

end

def next (w : ReplayWindow) (counter : UInt32) : ReplayWindow :=
  (w.checkAndRecord counter).2

theorem checkAndRecord_verdict (w : ReplayWindow) (counter : UInt32) :
    (w.checkAndRecord counter).1 = w.classify counter := by
  unfold checkAndRecord
  split
  · rename_i rejected
    exact rejected.symm
  · rename_i fresh
    exact fresh.symm

theorem next_of_rejected (rejected : w.classify counter ≠ .ok ()) : w.next counter = w := by
  unfold next checkAndRecord
  split
  · rfl
  · rename_i fresh
    exact absurd fresh rejected

/-- What a window stands for: every counter accepted so far, and 0. -/
abbrev SeenSet := Finset UInt32

namespace SeenSet

def highest (seen : SeenSet) : Nat := seen.sup UInt32.toNat

def verdict (seen : SeenSet) (counter : UInt32) : Except Error Unit :=
  if seen.highest < counter.toNat then .ok ()
  else if width < seen.highest - counter.toNat then
    .error (.counterTooOld counter (.ofNat (seen.highest - width)) (.ofNat seen.highest))
  else if counter ∈ seen then .error (.replayedCounter counter)
  else .ok ()

def next (seen : SeenSet) (counter : UInt32) : SeenSet :=
  if seen.verdict counter = .ok () then insert counter seen else seen

end SeenSet

variable {seen : SeenSet}

theorem Represents.verdict_eq (represents : Represents w seen) (counter : UInt32) :
    w.classify counter = seen.verdict counter := by
  have highest : seen.highest = w.highestSeen.toNat := by
    apply Nat.le_antisymm
    · apply Finset.sup_le
      intro c found
      exact UInt32.le_iff_toNat_le.mp (represents.bounded c found)
    · exact Finset.le_sup (f := UInt32.toNat) represents.highest
  rw [represents.classify_eq, SeenSet.verdict, highest, UInt32.ofNat_toNat]
  rfl

theorem Represents.next (represents : Represents w seen) (counter : UInt32) :
    Represents (w.next counter) (seen.next counter) := by
  unfold SeenSet.next
  rw [← represents.verdict_eq]
  split
  · rename_i fresh
    rw [Finset.coe_insert, ReplayWindow.next, checkAndRecord, fresh]
    exact represents.record fresh
  · rename_i rejected
    rwa [next_of_rejected rejected]

/-- A call and its verdict. -/
def call (w : ReplayWindow) (counter : UInt32) : UInt32 × Except Error Unit :=
  (counter, (w.checkAndRecord counter).1)

def SeenSet.call (seen : SeenSet) (counter : UInt32) : UInt32 × Except Error Unit :=
  (counter, seen.verdict counter)

theorem Represents.call_eq (represents : Represents w seen) (counter : UInt32) :
    w.call counter = seen.call counter := by
  rw [call, SeenSet.call, checkAndRecord_verdict, represents.verdict_eq]

/-- No counter was accepted twice, and those accepted are in the set. -/
structure Once (calls : List (UInt32 × Except Error Unit)) (seen : SeenSet) : Prop where
  kept : ∀ call ∈ calls, call.2 = .ok () → call.1 ∈ seen
  once : calls.Pairwise fun first second =>
    first.2 = .ok () → second.2 = .ok () → first.1 ≠ second.1

theorem Once.next (earlier : Once calls seen) (represents : Represents w seen) (counter : UInt32) :
    Once (calls ++ [w.call counter]) (seen.next counter) := by
  have verdict : (w.call counter).2 = w.classify counter := checkAndRecord_verdict w counter
  constructor
  · intro call mem accepted
    unfold SeenSet.next
    rcases List.mem_append.mp mem with before | here
    · have known := earlier.kept call before accepted
      split
      · exact Finset.mem_insert_of_mem known
      · exact known
    · obtain rfl := List.mem_singleton.mp here
      rw [if_pos ((represents.verdict_eq counter).symm.trans (verdict.symm.trans accepted))]
      exact Finset.mem_insert_self counter seen
  · refine List.pairwise_append.mpr ⟨earlier.once, List.pairwise_singleton _ _, ?_⟩
    intro first before second here accepted again same
    obtain rfl := List.mem_singleton.mp here
    have unseen := represents.fresh_notMem (verdict.symm.trans again)
    have known := earlier.kept first before accepted
    rw [same] at known
    exact unseen known

theorem replayWindow_refines_seenSet (counters : List UInt32) :
    log next call new counters = log SeenSet.next SeenSet.call {0} counters ∧
    (∀ w counter, wouldReject w counter = (w.checkAndRecord counter).1 ∧
      (wouldReject w counter ≠ .ok () → (w.checkAndRecord counter).2 = w)) ∧
    (log next call new counters).Pairwise fun first second =>
      first.2 = .ok () → second.2 = .ok () → first.1 ≠ second.1 := by
  have start : Represents new ({0} : SeenSet) := by
    rw [Finset.coe_singleton]
    exact represents_new
  refine ⟨?_, ?_, ?_⟩
  · generalize new = w, ({0} : SeenSet) = seen at start
    induction counters generalizing w seen with
    | nil => rfl
    | cons c counters ih => rw [log, log, start.call_eq, ih _ _ (start.next c)]
  · intro w counter
    exact ⟨(checkAndRecord_verdict w counter).symm, next_of_rejected⟩
  · have along : ∃ seen : SeenSet, Represents (Runs.run next new counters) seen ∧
        Once (log next call new counters) seen :=
      Logs.invariant (P := fun calls w => ∃ seen : SeenSet, Represents w seen ∧ Once calls seen)
        (by
          rintro _ _ c ⟨_, represents, once⟩
          exact ⟨_, represents.next c, once.next represents c⟩)
        ⟨{0}, start, by simp, .nil⟩ counters
    obtain ⟨_, _, once⟩ := along
    exact once.once

end ReplayWindow
end Matter.Transport
