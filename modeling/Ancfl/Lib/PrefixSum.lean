/-
  Prefix sums of natural numbers.

  * `InSlot l i d`: `d` is one of the `l[i]` numbers that the `i`-th element
    stands for, when the numbers below the sum are dealt out in order;
  * `exists_inSlot`, `InSlot.unique`: every number below the sum is in one slot;
  * `card_inSlot`: how many are in each.
-/
import Mathlib.Algebra.GroupWithZero.Nat
import Mathlib.Algebra.Order.BigOperators.Group.List
import Mathlib.Algebra.Order.Group.Nat
import Mathlib.Order.Interval.Finset.Nat

namespace Lib

variable {l : List ℕ} {i j d : ℕ}

/-- The numbers of the `i`-th element. -/
def InSlot (l : List ℕ) (i d : ℕ) : Prop := (l.take i).sum ≤ d ∧ d < (l.take (i + 1)).sum

theorem sum_take_mono (l : List ℕ) : Monotone fun i => (l.take i).sum := List.monotone_sum_take l

theorem sum_take_le (l : List ℕ) (i : ℕ) : (l.take i).sum ≤ l.sum := by
  have h : (l.take i).sum ≤ (l.take (max i l.length)).sum := sum_take_mono l (Nat.le_max_left _ _)
  rwa [List.take_of_length_le (Nat.le_max_right _ _)] at h

theorem InSlot.lt_length (h : InSlot l i d) : i < l.length := by
  by_contra hi
  have heq : l.take (i + 1) = l.take i := by
    rw [List.take_of_length_le (by omega), List.take_of_length_le (by omega)]
  have hlt := h.2
  rw [heq] at hlt
  exact absurd hlt (Nat.not_lt.2 h.1)

theorem exists_inSlot (h : d < l.sum) : ∃ i, InSlot l i d := by
  have hex : ∃ i, d < (l.take (i + 1)).sum :=
    ⟨l.length, by rwa [List.take_of_length_le (Nat.le_succ _)]⟩
  refine ⟨Nat.find hex, ?_, Nat.find_spec hex⟩
  by_contra hlt
  cases hi : Nat.find hex with
  | zero =>
    rw [hi] at hlt
    simp at hlt
  | succ i =>
    rw [hi] at hlt
    exact Nat.find_min hex (m := i) (by omega) (Nat.lt_of_not_le hlt)

theorem InSlot.unique (hi : InSlot l i d) (hj : InSlot l j d) : i = j := by
  have hle {i j : ℕ} (hi : InSlot l i d) (hj : InSlot l j d) : i ≤ j := by
    by_contra hlt
    have hmono : (l.take (j + 1)).sum ≤ (l.take i).sum := sum_take_mono l (Nat.lt_of_not_le hlt)
    exact absurd (hj.2.trans_le hmono) (Nat.not_lt.2 hi.1)
  exact Nat.le_antisymm (hle hi hj) (hle hj hi)

theorem InSlot.lt_sum (h : InSlot l i d) : d < l.sum := h.2.trans_le (sum_take_le l _)

theorem InSlot.pos (h : InSlot l i d) {w : ℕ} (hw : l[i]? = some w) : 0 < w := by
  obtain ⟨hi, rfl⟩ := List.getElem?_eq_some_iff.1 hw
  have hlt := h.1.trans_lt h.2
  rw [List.sum_take_succ l i hi] at hlt
  omega

instance (l : List ℕ) (i d : ℕ) : Decidable (InSlot l i d) := instDecidableAnd

/-- **Each element has as many numbers as it says.** -/
theorem card_inSlot {w : ℕ} (hw : l[i]? = some w) : ((Finset.range l.sum).filter (InSlot l i)).card = w := by
  obtain ⟨hi, rfl⟩ := List.getElem?_eq_some_iff.1 hw
  have heq : (Finset.range l.sum).filter (InSlot l i) = Finset.Ico (l.take i).sum (l.take (i + 1)).sum := by
    ext d
    simp only [Finset.mem_filter, Finset.mem_range, Finset.mem_Ico]
    exact ⟨fun h => h.2, fun h => ⟨InSlot.lt_sum h, h⟩⟩
  rw [heq, Nat.card_Ico, List.sum_take_succ l i hi]
  omega

end Lib
