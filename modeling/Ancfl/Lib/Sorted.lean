/-
  Arrays kept sorted by a key.

  * `lowerBound` is the binary search of the standard library,
    `lowerBound_append` its result on a partitioned array; the same for
    `upperBound`;
  * `binarySearch` returns the place of a key, or the end: `binarySearch_mem`,
    `binarySearch_not_mem`;
  * `sinkLast` moves the last element down to its place, `sinkLast_append`, and keeps
    the elements, `sinkLast_perm`;
  * `sortBy` sorts, `sortBy_sorted` and `sortBy_perm`.
-/
import Mathlib.Data.List.Induction
import Mathlib.Data.List.Sort

namespace Lib

variable {α κ : Type} [LinearOrder κ] (f : α → κ)

/-! ## Searching -/

/-- The loop of `std::lower_bound`: `first` and `len` are the range that is left, of at most
    `fuel` elements. -/
def bisect (l : List α) (x : κ) : (fuel first len : ℕ) → ℕ
  | 0, first, _ => first
  | fuel + 1, first, len =>
    if len = 0 then first
    else
      match l[first + len / 2]? with
      | none => first
      | some y =>
        if f y < x then bisect l x fuel (first + len / 2 + 1) (len - len / 2 - 1)
        else bisect l x fuel first (len / 2)

/-- `std::lower_bound` -/
def lowerBound (l : List α) (x : κ) : ℕ := bisect f l x l.length 0 l.length

/-- The place of the key `x`, or the length. -/
def binarySearch (l : List α) (x : κ) : ℕ :=
  match l[lowerBound f l x]? with
  | none => l.length
  | some y => if ¬x < f y then lowerBound f l x else l.length

/-- Strictly sorted by the key. -/
abbrev SortedBy (l : List α) : Prop := l.Pairwise fun x y => f x < f y

section
variable {f} {a b : List α} {x : κ}

theorem bisect_append (ha : ∀ y ∈ a, f y < x) (hb : ∀ y ∈ b, ¬f y < x) {fuel first len : ℕ}
    (hfuel : len ≤ fuel) (hfirst : first ≤ a.length) (hlen : a.length ≤ first + len)
    (hend : first + len ≤ (a ++ b).length) : bisect f (a ++ b) x fuel first len = a.length := by
  induction fuel generalizing first len with
  | zero => rw [bisect]; omega
  | succ fuel ih =>
    rw [bisect]
    split_ifs with h0
    · omega
    · have hin : first + len / 2 < (a ++ b).length := by omega
      rw [List.getElem?_eq_getElem hin]
      by_cases hleft : first + len / 2 < a.length
      · have hlt := ha _ (List.getElem_mem hleft)
        simp only [List.getElem_append_left hleft, if_pos hlt]
        exact ih (by omega) (by omega) (by omega) (by omega)
      · have hmem : (a ++ b)[first + len / 2] ∈ b := by
          rw [List.getElem_append_right (by omega)]
          exact List.getElem_mem _
        simp only [if_neg (hb _ hmem)]
        exact ih (by omega) hfirst (by omega) (by omega)

/-- **On a partitioned array, binary search finds the boundary.** -/
theorem lowerBound_append (ha : ∀ y ∈ a, f y < x) (hb : ∀ y ∈ b, ¬f y < x) :
    lowerBound f (a ++ b) x = a.length :=
  bisect_append ha hb le_rfl (Nat.zero_le _) (by rw [List.length_append]; omega) (by omega)

/-- A key that is there is found. -/
theorem binarySearch_mem {y : α} (h : SortedBy f (a ++ y :: b)) :
    binarySearch f (a ++ y :: b) (f y) = a.length := by
  obtain ⟨-, hyb, hab⟩ := List.pairwise_append.1 h
  have hlow : lowerBound f (a ++ y :: b) (f y) = a.length := by
    refine lowerBound_append (fun z hz => hab z hz y (by simp)) fun z hz => ?_
    rcases List.mem_cons.1 hz with rfl | hz
    · exact lt_irrefl _
    · exact lt_asymm (List.rel_of_pairwise_cons hyb hz)
  rw [binarySearch, hlow, List.getElem?_append_right le_rfl, Nat.sub_self]
  exact if_pos (lt_irrefl _)

/-- What is found is there, sorted or not. -/
theorem exists_of_binarySearch_ne {l : List α} (h : binarySearch f l x ≠ l.length) :
    ∃ y, l[binarySearch f l x]? = some y := by
  rw [binarySearch] at h ⊢
  rcases hy : l[lowerBound f l x]? with _ | y
  · rw [hy] at h
    exact absurd rfl h
  · by_cases hx : x < f y
    · rw [hy] at h
      exact absurd (if_neg (not_not.2 hx)) h
    · simp only [hx, not_false_eq_true, if_true]
      exact ⟨y, hy⟩

/-- A sorted array is partitioned by every key. -/
theorem exists_split {l : List α} (h : SortedBy f l) (x : κ) :
    ∃ a b, l = a ++ b ∧ (∀ y ∈ a, f y < x) ∧ ∀ y ∈ b, ¬f y < x := by
  induction l with
  | nil => exact ⟨[], [], rfl, by simp, by simp⟩
  | cons z l ih =>
    obtain ⟨hz, hl⟩ := List.pairwise_cons.1 h
    by_cases hzx : f z < x
    · obtain ⟨a, b, rfl, ha, hb⟩ := ih hl
      refine ⟨z :: a, b, rfl, fun y hy => ?_, hb⟩
      rcases List.mem_cons.1 hy with rfl | hy
      · exact hzx
      · exact ha y hy
    · refine ⟨[], z :: l, rfl, by simp, fun y hy => ?_⟩
      rcases List.mem_cons.1 hy with rfl | hy
      · exact hzx
      · exact fun hyx => hzx ((hz y hy).trans hyx)

/-- A key that is not there is not found. -/
theorem binarySearch_not_mem {l : List α} (h : SortedBy f l) (hx : ∀ y ∈ l, f y ≠ x) :
    binarySearch f l x = l.length := by
  obtain ⟨a, b, rfl, ha, hb⟩ := exists_split h x
  rw [binarySearch, lowerBound_append ha hb]
  cases b with
  | nil => simp
  | cons y b =>
    have hxy : x < f y := lt_of_le_of_ne (not_lt.1 (hb y (by simp))) (hx y (by simp)).symm
    rw [List.getElem?_append_right le_rfl, Nat.sub_self]
    exact if_neg (not_not.2 hxy)

end

/-- `std::upper_bound`: where the elements begin that come after `x`. -/
def upperBound (l : List α) (x : κ) : ℕ := lowerBound (fun y => decide (x < f y)) l true

theorem upperBound_append {f : α → κ} {a b : List α} {x : κ} (ha : ∀ y ∈ a, ¬x < f y)
    (hb : ∀ y ∈ b, x < f y) : upperBound f (a ++ b) x = a.length := by
  refine lowerBound_append (fun y hy => ?_) fun y hy => ?_
  · simp [ha y hy]
  · simp [hb y hy]

/-! ## Inserting at the end -/

/-- The loop of inserting the last element: compare the elements `i + 1` and `i`, and go on while
    they are swapped. -/
def sinkLast (data : List α) : ℕ → List α
  | 0 => data
  | i + 1 =>
    match data[i]?, data[i + 1]? with
    | some y, some x => if f x < f y then sinkLast ((data.set (i + 1) y).set i x) i else data
    | _, _ => data

section
variable {f} {l r : List α} {x : α}

theorem swap_append (l r : List α) (x y : α) :
    ((l ++ [y] ++ x :: r).set (l.length + 1) y).set l.length x = l ++ x :: y :: r := by
  simp

theorem sinkLast_perm (l : List α) (i : ℕ) : (sinkLast f l i).Perm l := by
  induction i generalizing l with
  | zero => rfl
  | succ i ih =>
    rw [sinkLast]
    split
    · rename_i y x hy hx
      obtain ⟨hi, rfl⟩ := List.getElem?_eq_some_iff.1 hy
      obtain ⟨hi', rfl⟩ := List.getElem?_eq_some_iff.1 hx
      split_ifs
      · exact (ih _).trans (List.set_set_perm hi' hi)
      · rfl
    · rfl

/-- A sorted array stays as it is. -/
theorem sinkLast_sorted (h : SortedBy f l) (i : ℕ) : sinkLast f l i = l := by
  cases i with
  | zero => rfl
  | succ i =>
    rw [sinkLast]
    by_cases hi : i + 1 < l.length
    · have hlt := List.pairwise_iff_getElem.1 h i (i + 1) (by omega) hi (Nat.lt_succ_self i)
      rw [List.getElem?_eq_getElem hi, List.getElem?_eq_getElem (by omega)]
      exact if_neg (lt_asymm hlt)
    · rw [List.getElem?_eq_none (i := i + 1) (by omega)]
      cases l[i]? <;> rfl

/-- **The element behind a sorted array moves to its place.** -/
theorem sinkLast_append (h : SortedBy f l) : ∃ a b, l = a ++ b ∧
    sinkLast f (l ++ x :: r) l.length = a ++ x :: b ++ r ∧ (∀ y ∈ a, f y ≤ f x) ∧ ∀ y ∈ b, f x < f y := by
  induction l using List.reverseRecOn generalizing r with
  | nil => exact ⟨[], [], rfl, rfl, by simp, by simp⟩
  | append_singleton l y ih =>
    obtain ⟨hl, -, hly⟩ := List.pairwise_append.1 h
    rw [List.length_append, List.length_singleton, sinkLast]
    have hy : (l ++ [y] ++ x :: r)[l.length]? = some y := by simp
    have hx : (l ++ [y] ++ x :: r)[l.length + 1]? = some x := by simp
    simp only [hy, hx]
    split_ifs with hlt
    · obtain ⟨a, b, rfl, hsink, ha, hb⟩ := ih hl (r := y :: r)
      refine ⟨a, b ++ [y], by simp, ?_, ha, fun z hz => ?_⟩
      · rw [swap_append, hsink]
        simp
      · rcases List.mem_append.1 hz with hz | hz
        · exact hb z hz
        · exact List.mem_singleton.1 hz ▸ hlt
    · refine ⟨l ++ [y], [], by simp, by simp, fun z hz => ?_, by simp⟩
      rcases List.mem_append.1 hz with hz | hz
      · exact ((hly z hz y (by simp)).trans_le (not_lt.1 hlt)).le
      · exact List.mem_singleton.1 hz ▸ not_lt.1 hlt

end

/-! ## Sorting -/

/-- Sort by the key. -/
def sortBy (l : List α) : List α := l.insertionSort fun x y => f x ≤ f y

section
variable {f} {l l' : List α}

theorem sortBy_perm (l : List α) : (sortBy f l).Perm l := List.perm_insertionSort _ l

theorem sortBy_le (l : List α) : (sortBy f l).Pairwise fun x y => f x ≤ f y :=
  haveI : Std.Total fun x y => f x ≤ f y := ⟨fun x y => le_total (f x) (f y)⟩
  haveI : IsTrans α fun x y => f x ≤ f y := ⟨fun _ _ _ => le_trans⟩
  List.pairwise_insertionSort _ l

theorem SortedBy.keys_nodup (h : SortedBy f l) : (l.map f).Nodup :=
  List.pairwise_map.2 (h.imp fun hxy => hxy.ne)

/-- Elements with different keys are sorted strictly. -/
theorem sortBy_sorted (h : (l.map f).Nodup) : SortedBy f (sortBy f l) := by
  have hnodup := ((sortBy_perm (f := f) l).map f).nodup_iff.2 h
  exact (sortBy_le l).and (List.pairwise_map.1 hnodup) |>.imp fun hxy => lt_of_le_of_ne hxy.1 hxy.2

end

end Lib
