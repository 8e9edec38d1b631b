/-
  Lists of activities under way, of which one makes a step.

  * `getElem?_perm`, `pairwise_iff_of_getElem?`: the one that is taken, and the
    others;
  * `tally`: the sum of a quantity over a list; `tally_eraseIdx`, `tally_set` and
    `tally_append` for the list after a step;
  * `IsAt l p n`: the `n`-th one is one of `p`; `isAt_set` and `isAt_append` for
    the list after a step.
-/
import Mathlib.Algebra.Order.BigOperators.Group.List
import Mathlib.Algebra.Order.Group.Nat
import Mathlib.Data.List.Perm.Basic

namespace Lib

variable {α M : Type} {l l' : List α} {n : ℕ} {c : α}

theorem getElem?_perm (h : l[n]? = some c) : (c :: l.eraseIdx n).Perm l := by
  obtain ⟨hn, heq⟩ := List.getElem?_eq_some_iff.1 h
  exact heq ▸ List.getElem_cons_eraseIdx_perm hn

theorem mem_iff_of_getElem? (h : l[n]? = some c) {d : α} : d ∈ l ↔ d = c ∨ d ∈ l.eraseIdx n := by
  rw [← (getElem?_perm h).mem_iff, List.mem_cons]

theorem pairwise_iff_of_getElem? {R : α → α → Prop} (hsymm : ∀ a b, R a b → R b a) (h : l[n]? = some c) :
    l.Pairwise R ↔ (∀ d ∈ l.eraseIdx n, R c d) ∧ (l.eraseIdx n).Pairwise R := by
  rw [← (getElem?_perm h).pairwise_iff (fun {a b} => hsymm a b), List.pairwise_cons]

section
variable [AddCommMonoid M] (f : α → M)

/-- The sum of `f` over a list. -/
def tally (l : List α) : M := (l.map f).sum

@[simp] theorem tally_nil : tally f [] = 0 := rfl

@[simp] theorem tally_cons : tally f (c :: l) = f c + tally f l := rfl

@[simp] theorem tally_append : tally f (l ++ l') = tally f l + tally f l' := by
  rw [tally, List.map_append, List.sum_append, tally, tally]

theorem tally_perm (h : l.Perm l') : tally f l = tally f l' := (h.map f).sum_eq

theorem tally_eraseIdx (h : l[n]? = some c) : f c + tally f (l.eraseIdx n) = tally f l :=
  tally_perm f (getElem?_perm h)

theorem tally_set (h : l[n]? = some c) (c' : α) :
    tally f (l.set n c') + f c = tally f l + f c' := by
  obtain ⟨hn, -⟩ := List.getElem?_eq_some_iff.1 h
  have hset : (l.set n c')[n]? = some c' := List.getElem?_set_self hn
  rw [← tally_eraseIdx f h, ← tally_eraseIdx f hset, List.eraseIdx_set_eq, add_right_comm,
    add_comm (f c'), add_right_comm]

end

/-- No summand is positive where the sum is zero. -/
theorem tally_eq_zero {f : α → ℕ} : tally f l = 0 ↔ ∀ c ∈ l, f c = 0 := by
  rw [tally, List.sum_eq_zero_iff, List.forall_mem_map]

theorem tally_nonneg {f : α → ℤ} (h : ∀ c ∈ l, 0 ≤ f c) : 0 ≤ tally f l :=
  List.sum_nonneg (List.forall_mem_map.2 h)

theorem tally_le {f g : α → ℕ} (h : ∀ c ∈ l, f c ≤ g c) : tally f l ≤ tally g l :=
  List.sum_le_sum h

theorem le_tally {f : α → ℕ} (h : c ∈ l) : f c ≤ tally f l :=
  List.le_sum_of_mem (List.mem_map_of_mem h)

theorem add_le_tally {f : α → ℕ} {m : ℕ} {d : α} (hn : l[n]? = some c) (hm : l[m]? = some d)
    (hne : m ≠ n) : f c + f d ≤ tally f l := by
  rw [← tally_eraseIdx f hn]
  exact Nat.add_le_add_left (le_tally (List.mem_eraseIdx_iff_getElem?.2 ⟨m, hne, hm⟩)) _

theorem count_le_tally [DecidableEq α] {f : α → ℕ} (h : 1 ≤ f c) : l.count c ≤ tally f l := by
  induction l with
  | nil => exact le_rfl
  | cons d l ih =>
    rw [List.count_cons, tally_cons]
    split_ifs with hd
    · rw [beq_iff_eq.1 hd]
      omega
    · omega

/-! ## Places -/

/-- The `n`-th one is one of `p`. -/
def IsAt (l : List α) (p : α → Bool) (n : ℕ) : Prop := ∃ c, l[n]? = some c ∧ p c

section
variable {p : α → Bool} {m : ℕ} {c' : α}

@[simp] theorem not_isAt_nil : ¬IsAt [] p n := by
  rintro ⟨_, h, -⟩
  cases h

theorem isAt_iff (hn : l[n]? = some c) : IsAt l p n ↔ p c := by
  simp [IsAt, hn]

theorem isAt_set (hn : l[n]? = some c) (c' : α) :
    IsAt (l.set n c') p m ↔ if m = n then p c' = true else IsAt l p m := by
  obtain ⟨hlt, -⟩ := List.getElem?_eq_some_iff.1 hn
  split_ifs with h
  · rw [h, isAt_iff (List.getElem?_set_self hlt)]
  · unfold IsAt
    rw [List.getElem?_set_ne fun hmn => h hmn.symm]

/-- The one that goes on is one of `p` if it was. -/
theorem isAt_set_of_eq (hn : l[n]? = some c) (h : p c' = p c) :
    IsAt (l.set n c') p m ↔ IsAt l p m := by
  rw [isAt_set hn]
  split_ifs with hm
  · rw [hm, isAt_iff hn, h]
  · rfl

theorem isAt_append (h : ∀ c ∈ l', p c = false) : IsAt (l ++ l') p m ↔ IsAt l p m := by
  unfold IsAt
  rw [List.getElem?_append]
  split_ifs with hm
  · rfl
  · rw [List.getElem?_eq_none (Nat.not_lt.1 hm)]
    refine iff_of_false ?_ (fun ⟨_, h, _⟩ => nomatch h)
    rintro ⟨c, hc, hp⟩
    rw [h c (List.mem_of_getElem? hc)] at hp
    cases hp

theorem isAt_concat (h : IsAt (l ++ [c]) p n) : IsAt l p n ∨ n = l.length := by
  obtain ⟨d, hd, hp⟩ := h
  rw [List.getElem?_append] at hd
  split_ifs at hd with hn
  · exact .inl ⟨d, hd, hp⟩
  · obtain ⟨hlt, -⟩ := List.getElem?_eq_some_iff.1 hd
    rw [List.length_singleton] at hlt
    exact .inr (by omega)

theorem mem_set_of_ne (hn : l[n]? = some c) {d : α} (hd : d ∈ l) (hne : d ≠ c) :
    d ∈ l.set n c' := by
  obtain ⟨m, hm⟩ := List.mem_iff_getElem?.1 hd
  refine List.mem_iff_getElem?.2 ⟨m, ?_⟩
  rw [List.getElem?_set_ne, hm]
  rintro rfl
  exact hne (Option.some.inj (hm.symm.trans hn))

theorem mem_set_self (hn : l[n]? = some c) (c' : α) : c' ∈ l.set n c' :=
  List.mem_set (List.getElem?_eq_some_iff.1 hn).1 c'

theorem modify_eq_set (hn : l[n]? = some c) (f : α → α) : l.modify n f = l.set n (f c) := by
  refine List.ext_getElem? fun m => ?_
  rw [List.getElem?_modify, List.getElem?_set]
  split_ifs with h h'
  · rw [← h, hn]
    rfl
  · exact absurd (List.getElem?_eq_some_iff.1 hn).1 h'
  · simp

end

end Lib
