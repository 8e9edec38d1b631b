/-
  Sets of objects, ordered by a key, as their elements in order.

  * `setInsert` and `setFind` are `insert` and `find` of an ordered set: they go
    to the first element whose key is not smaller;
  * `setInsert_ret`, `setInsert_mem`, `setFind_ret`: on a set that is in order;
  * `SortedBy.congr`: a key may change for what is not in the set.
-/
import Ancfl.Lib.Sorted
import Mathlib.Data.List.TakeWhile

namespace Lib

variable {α κ : Type} [LinearOrder κ] (f : α → κ)

/-- The number of elements with a smaller key. -/
def setLower (l : List α) (x : κ) : ℕ := (l.takeWhile fun y => f y < x).length

/-- Insert `x` unless there is an element with its key; the place of that element and the set. -/
def setInsert (l : List α) (x : α) : ℕ × List α :=
  let it := setLower f l (f x)
  match l[it]? with
  | none => (it, l ++ [x])
  | some y => if f x < f y then (it, l.take it ++ x :: l.drop it) else (it, l)

/-- The place of the key `x`, or the length. -/
def setFind (l : List α) (x : κ) : ℕ :=
  match l[setLower f l x]? with
  | none => l.length
  | some y => if x < f y then l.length else setLower f l x

section
variable {f} {a b l : List α} {x : κ}

theorem setLower_append (ha : ∀ y ∈ a, f y < x) (hb : ∀ y ∈ b, ¬f y < x) :
    setLower f (a ++ b) x = a.length := by
  rw [setLower, List.takeWhile_append_of_pos fun y hy => decide_eq_true (ha y hy)]
  cases b with
  | nil => simp
  | cons y b => simp [hb y (by simp)]

/-- **A new key** gets its place. -/
theorem setInsert_ret (h : SortedBy f l) {y : α} (hy : ∀ z ∈ l, f z ≠ f y) : ∃ a b, l = a ++ b ∧
    setInsert f l y = (a.length, a ++ y :: b) ∧ SortedBy f (a ++ y :: b) := by
  obtain ⟨a, b, rfl, ha, hb⟩ := exists_split h (f y)
  refine ⟨a, b, rfl, ?_, ?_⟩
  · rw [setInsert, setLower_append ha hb]
    cases b with
    | nil => simp
    | cons z b =>
      have hyz : f y < f z := lt_of_le_of_ne (not_lt.1 (hb z (by simp))) (hy z (by simp)).symm
      simp [hyz]
  · obtain ⟨hsa, hsb, hab⟩ := List.pairwise_append.1 h
    refine List.pairwise_append.2 ⟨hsa, List.pairwise_cons.2 ⟨fun z hz => ?_, hsb⟩, fun z hz w hw => ?_⟩
    · exact lt_of_le_of_ne (not_lt.1 (hb z hz)) (hy z (by simp [hz])).symm
    · rcases List.mem_cons.1 hw with rfl | hw
      · exact ha z hz
      · exact hab z hz w hw

theorem setLower_mem {y : α} (h : SortedBy f (a ++ y :: b)) :
    setLower f (a ++ y :: b) (f y) = a.length := by
  obtain ⟨-, hyb, hab⟩ := List.pairwise_append.1 h
  refine setLower_append (fun z hz => hab z hz y (by simp)) fun z hz => ?_
  rcases List.mem_cons.1 hz with rfl | hz
  · exact lt_irrefl _
  · exact lt_asymm (List.rel_of_pairwise_cons hyb hz)

/-- **A key that is there is found.** -/
theorem setFind_ret {y : α} (h : SortedBy f (a ++ y :: b)) : setFind f (a ++ y :: b) (f y) = a.length := by
  rw [setFind, setLower_mem h, List.getElem?_append_right le_rfl, Nat.sub_self]
  exact if_neg (lt_irrefl _)

/-- **A key that is there** is not inserted again. -/
theorem setInsert_mem {y z : α} (h : SortedBy f (a ++ y :: b)) (hz : f z = f y) :
    setInsert f (a ++ y :: b) z = (a.length, a ++ y :: b) := by
  rw [setInsert, hz, setLower_mem h]
  simp only [List.getElem?_append_right le_rfl, Nat.sub_self, List.getElem?_cons_zero]
  exact if_neg (lt_irrefl _)

theorem SortedBy.congr {g : α → κ} (h : SortedBy f l) (hfg : ∀ y ∈ l, f y = g y) : SortedBy g l :=
  List.Pairwise.imp_of_mem (fun hy hz hlt => hfg _ hy ▸ hfg _ hz ▸ hlt) h

theorem SortedBy.nodup (h : SortedBy f l) : l.Nodup := List.Nodup.of_map f h.keys_nodup

theorem eraseIdx_append_cons (a b : List α) (y : α) : (a ++ y :: b).eraseIdx a.length = a ++ b := by
  rw [List.eraseIdx_append_of_length_le le_rfl, Nat.sub_self, List.eraseIdx_cons_zero]

end

end Lib
