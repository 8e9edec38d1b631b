/-
  Lists sorted by a strict weak order.

  * `Tied`: neither of two elements comes before the other;
  * `Place lt l x p`: `p` is where `x` stands among the elements of `l`, or
    would stand (`exists_place`);
  * `pairwise_set`, `Place.insert`: a list stays sorted when `x` takes the place
    of the element it is tied with, or is put at its place if there is none.
-/
import Mathlib.Data.List.Pairwise
import Mathlib.Order.Lattice
import Mathlib.Order.RelClasses

namespace Lib

instance isStrictWeakOrder_lt {β : Type} [LinearOrder β] : IsStrictWeakOrder β (· < ·) :=
  isStrictWeakOrder_of_isOrderConnected

variable {α : Type} (lt : α → α → Prop)

/-- Neither of the two comes before the other. -/
def Tied (x y : α) : Prop := ¬lt x y ∧ ¬lt y x

instance [DecidableRel lt] (x y : α) : Decidable (Tied lt x y) := instDecidableAnd

/-- Of the elements of `l` those before `p` come before `x`, the one at `p` does not, and `x` comes
    before those behind `p`. -/
structure Place (l : List α) (x : α) (p : ℕ) : Prop where
  le : p ≤ l.length
  before : ∀ (i : ℕ) y, l[i]? = some y → i < p → lt y x
  here : ∀ y, l[p]? = some y → ¬lt y x
  behind : ∀ (i : ℕ) y, l[i]? = some y → p < i → lt x y

variable {lt}

/-- An element tied with `x` stands at its place. -/
theorem Place.eq_of_tied {l : List α} {x y : α} {p i : ℕ} (h : Place lt l x p) (hi : l[i]? = some y)
    (hy : Tied lt y x) : i = p := by
  rcases Nat.lt_trichotomy i p with hip | hip | hip
  · exact absurd (h.before i y hi hip) hy.1
  · exact hip
  · exact absurd (h.behind i y hi hip) hy.2

theorem Place.unique {l : List α} {x : α} {p q : ℕ} (hp : Place lt l x p) (hq : Place lt l x q) : p = q := by
  have hle {p q : ℕ} (hp : Place lt l x p) (hq : Place lt l x q) : p ≤ q := by
    by_contra hlt
    have hget := List.getElem?_eq_getElem (l := l) (i := q) (by have := hp.le; omega)
    exact hq.here _ hget (hp.before q _ hget (by omega))
  exact Nat.le_antisymm (hle hp hq) (hle hq hp)

variable [IsStrictWeakOrder α lt]

theorem lt_of_not_lt_of_lt {x y z : α} (hxy : ¬lt y x) (hyz : lt y z) : lt x z := by
  by_contra hxz
  by_cases hlt : lt x y
  · exact hxz (IsTrans.trans _ _ _ hlt hyz)
  · by_cases hzx : lt z x
    · exact hxy (IsTrans.trans _ _ _ hyz hzx)
    · have htied := IsStrictWeakOrder.incomp_trans y x z ⟨hxy, hlt⟩ ⟨hxz, hzx⟩
      exact htied.1 hyz

theorem exists_place {l : List α} (hl : l.Pairwise lt) (x : α) : ∃ p, Place lt l x p := by
  induction l with
  | nil => exact ⟨0, Nat.le_refl _, by simp, by simp, by simp⟩
  | cons y l ih =>
    obtain ⟨hy, hl⟩ := List.pairwise_cons.1 hl
    by_cases hyx : lt y x
    · obtain ⟨p, hp⟩ := ih hl
      refine ⟨p + 1, Nat.succ_le_succ hp.le, fun i z hz hi => ?_, hp.here, fun i z hz hi => ?_⟩
      · cases i with
        | zero => cases hz; exact hyx
        | succ i => exact hp.before i z hz (Nat.lt_of_succ_lt_succ hi)
      · cases i with
        | zero => exact absurd hi (Nat.not_lt_zero _)
        | succ i => exact hp.behind i z hz (Nat.lt_of_succ_lt_succ hi)
    · refine ⟨0, Nat.zero_le _, fun i z hz hi => absurd hi (Nat.not_lt_zero _), ?_, fun i z hz hi => ?_⟩
      · intro z hz
        cases hz
        exact hyx
      · cases i with
        | zero => exact absurd hi (Nat.lt_irrefl _)
        | succ i => exact lt_of_not_lt_of_lt hyx (hy z (List.mem_of_getElem? hz))

section
variable {l : List α} {x y : α} {p i : ℕ}

theorem Place.le_of_lt (h : Place lt l x p) (hi : l[i]? = some y) (hlt : lt x y) : p ≤ i := by
  by_contra hip
  exact Std.Irrefl.irrefl x (IsTrans.trans _ _ _ hlt (h.before i y hi (by omega)))

theorem Place.lt_of_lt (h : Place lt l x p) (hi : l[i]? = some y) (hlt : lt y x) : i < p := by
  by_contra hip
  rcases Nat.eq_or_lt_of_le (Nat.le_of_not_lt hip) with rfl | hip
  · exact h.here y hi hlt
  · exact Std.Irrefl.irrefl x (IsTrans.trans _ _ _ (h.behind i y hi hip) hlt)

end

theorem Tied.lt_left {x y z : α} (h : Tied lt x y) (hz : lt z x) : lt z y := by
  by_contra hzy
  exact h.2 (lt_of_not_lt_of_lt hzy hz)

theorem Tied.lt_right {x y z : α} (h : Tied lt x y) (hz : lt x z) : lt y z := lt_of_not_lt_of_lt h.1 hz

section
variable {l : List α} {x : α} {p : ℕ}

/-- **`x` takes the place of the element it is tied with.** -/
theorem pairwise_set (hl : l.Pairwise lt) (htied : ∀ y, l[p]? = some y → Tied lt y x) :
    (l.set p x).Pairwise lt := by
  rw [List.pairwise_iff_getElem] at hl ⊢
  intro i j hi hj hij
  rw [List.length_set] at hi hj
  have hlt := hl i j hi hj hij
  rw [List.getElem_set, List.getElem_set]
  split_ifs with hpi hpj hpj
  · exact absurd (hpi.symm.trans hpj) (Nat.ne_of_lt hij)
  · subst hpi
    exact (htied _ (List.getElem?_eq_getElem hi)).lt_right hlt
  · subst hpj
    exact (htied _ (List.getElem?_eq_getElem hj)).lt_left hlt
  · exact hlt

/-- **`x` is put at its place**, where it is not tied with any element. -/
theorem Place.insert (h : Place lt l x p) (hl : l.Pairwise lt) (hlt : ∀ y, l[p]? = some y → lt x y) :
    (l.take p ++ x :: l.drop p).Pairwise lt := by
  have hbefore : ∀ y ∈ l.take p, lt y x := by
    intro y hy
    obtain ⟨i, hi⟩ := List.mem_iff_getElem?.1 hy
    rw [List.getElem?_take] at hi
    split_ifs at hi with hip
    exact h.before i y hi hip
  have hbehind : ∀ y ∈ l.drop p, lt x y := by
    intro y hy
    obtain ⟨i, hi⟩ := List.mem_iff_getElem?.1 hy
    rw [List.getElem?_drop] at hi
    rcases Nat.eq_zero_or_pos i with rfl | hpos
    · exact hlt y hi
    · exact h.behind _ y hi (by omega)
  refine List.pairwise_append.2 ⟨hl.sublist (List.take_sublist _ _), ?_, fun y hy z hz => ?_⟩
  · exact List.pairwise_cons.2 ⟨hbehind, hl.sublist (List.drop_sublist _ _)⟩
  · rcases List.mem_cons.1 hz with rfl | hz
    · exact hbefore y hy
    · exact IsTrans.trans _ _ _ (hbefore y hy) (hbehind z hz)

end

end Lib
