/-
  Maps whose keys are compared by a `less`, as their entries in order.  Two
  keys neither of which is less than the other are the same key.

  * `set` is `m[k] = v`: an entry keeps the key it was made with;
  * `insert` is `m.insert({k, v})`: an entry that is there stays;
  * `find` looks a key up, after a `set` or an `insert` in `find_set` and
    `find_insert`, after many of them in `find_setAll` and `find_insertAll`.
-/
import Mathlib.Data.List.Pairwise
import Mathlib.Tactic.Common

namespace Lib

/-- The entries of a map, in order. -/
structure OrderedMap (α β : Type) (less : α → α → Bool) where
  entries : List (α × β)
  sorted : entries.Pairwise fun x y => less x.1 y.1
deriving DecidableEq

namespace OrderedMap

variable {α β : Type} {less : α → α → Bool}

/-- The map with no entries. -/
def empty : OrderedMap α β less := ⟨[], .nil⟩

/-- Neither key is less than the other. -/
def same (less : α → α → Bool) (k k' : α) : Bool := !less k k' && !less k' k

/-- The value of a key. -/
def find (m : OrderedMap α β less) (k : α) : Option β :=
  (m.entries.find? fun x => same less x.1 k).map Prod.snd

/-- Set the value of a key among entries in order. -/
def setEntry (less : α → α → Bool) (k : α) (v : β) : List (α × β) → List (α × β)
  | [] => [(k, v)]
  | x :: rest =>
    if less x.1 k then x :: setEntry less k v rest
    else if less k x.1 then (k, v) :: x :: rest
    else (x.1, v) :: rest

theorem setEntry_cases {k : α} {v : β} {y : α × β} : ∀ {l : List (α × β)},
    y ∈ setEntry less k v l → y.1 = k ∨ ∃ x ∈ l, x.1 = y.1
  | [], h => .inl (by rw [List.mem_singleton.1 h])
  | x :: rest, h => by
    rw [setEntry] at h
    split_ifs at h
    · rcases List.mem_cons.1 h with rfl | h
      · exact .inr ⟨y, by simp, rfl⟩
      · rcases setEntry_cases h with h | ⟨z, hz, h⟩
        · exact .inl h
        · exact .inr ⟨z, List.mem_cons_of_mem _ hz, h⟩
    · rcases List.mem_cons.1 h with rfl | h
      · exact .inl rfl
      · exact .inr ⟨y, h, rfl⟩
    · rcases List.mem_cons.1 h with rfl | h
      · exact .inr ⟨x, by simp, rfl⟩
      · exact .inr ⟨y, List.mem_cons_of_mem _ h, rfl⟩

theorem setEntry_sorted (htrans : ∀ a b c, less a b → less b c → less a c) {k : α} {v : β} :
    ∀ {l : List (α × β)}, (l.Pairwise fun x y => less x.1 y.1) →
      (setEntry less k v l).Pairwise fun x y => less x.1 y.1
  | [], _ => List.pairwise_singleton _ _
  | x :: rest, h => by
    obtain ⟨hx, hrest⟩ := List.pairwise_cons.1 h
    rw [setEntry]
    split_ifs with hlt hgt
    · refine List.pairwise_cons.2 ⟨fun y hy => ?_, setEntry_sorted htrans hrest⟩
      rcases setEntry_cases hy with hk | ⟨z, hz, hzy⟩
      · rw [hk]; exact hlt
      · rw [← hzy]; exact hx z hz
    · refine List.pairwise_cons.2 ⟨fun y hy => ?_, h⟩
      rcases List.mem_cons.1 hy with rfl | hy
      · exact hgt
      · exact htrans _ _ _ hgt (hx y hy)
    · exact List.pairwise_cons.2 ⟨hx, hrest⟩

/-- Set the value of a key, if `less` is transitive. -/
def set (htrans : ∀ a b c, less a b → less b c → less a c) (m : OrderedMap α β less) (k : α) (v : β) :
    OrderedMap α β less :=
  ⟨setEntry less k v m.entries, setEntry_sorted htrans m.sorted⟩

/-- Insert an entry, unless the key has one. -/
def insert (htrans : ∀ a b c, less a b → less b c → less a c) (m : OrderedMap α β less) (k : α) (v : β) :
    OrderedMap α β less :=
  if (m.find k).isSome then m else m.set htrans k v

section
variable {k k' : α} {v : β} {m : OrderedMap α β less}

theorem same_symm (h : same less k k') : same less k' k := by
  rw [same, Bool.and_comm]
  exact h

theorem same_congr (hsame : ∀ a b c, same less a b → same less b c → same less a c) {a : α}
    (h : same less k k') : same less k a = same less k' a :=
  Bool.eq_iff_iff.2 ⟨hsame _ _ _ (same_symm h), hsame _ _ _ h⟩

theorem find_setEntry (hsame : ∀ a b c, same less a b → same less b c → same less a c) :
    ∀ l : List (α × β), ((setEntry less k v l).find? fun x => same less x.1 k').map Prod.snd =
      if same less k k' then some v else (l.find? fun x => same less x.1 k').map Prod.snd
  | [] => by
    rw [setEntry, List.find?_singleton]
    split_ifs <;> rfl
  | x :: rest => by
    have ih := find_setEntry hsame rest
    have hboth (hlt : ¬ less x.1 k) (hgt : ¬ less k x.1) : same less x.1 k := by simp [same, hlt, hgt]
    rw [setEntry]
    by_cases hk : same less k k'
    · rw [if_pos hk] at ih ⊢
      split_ifs with hlt hgt <;> rw [List.find?_cons]
      · have hx : same less x.1 k' = false := by
          by_contra hx
          rw [Bool.not_eq_false] at hx
          have hxk := hsame _ _ _ hx (same_symm hk)
          simp [same, hlt] at hxk
        rw [hx, ih]
      · rw [hk]
        rfl
      · rw [same_congr hsame (hboth hlt hgt), hk]
        rfl
    · rw [if_neg hk] at ih ⊢
      rw [Bool.not_eq_true] at hk
      split_ifs with hlt hgt
      · simp only [List.find?_cons]
        cases same less x.1 k' with
        | true => rfl
        | false => exact ih
      · rw [List.find?_cons, hk]
      · rw [List.find?_cons, List.find?_cons, same_congr hsame (hboth hlt hgt), hk]

/-- **A look-up after a `set`**, if keys that are the same are so among each other. -/
theorem find_set (hsame : ∀ a b c, same less a b → same less b c → same less a c)
    {htrans : ∀ a b c, less a b → less b c → less a c} :
    (m.set htrans k v).find k' = if same less k k' then some v else m.find k' :=
  find_setEntry hsame m.entries

theorem find_same (hsame : ∀ a b c, same less a b → same less b c → same less a c)
    (h : same less k k') : m.find k = m.find k' := by
  have hfun : (fun x : α × β => same less x.1 k) = fun x => same less x.1 k' := by
    funext x
    exact Bool.eq_iff_iff.2 ⟨fun hx => hsame _ _ _ hx h, fun hx => hsame _ _ _ hx (same_symm h)⟩
  rw [find, find, hfun]

/-- **A look-up after an `insert`**: the entry that was there wins. -/
theorem find_insert (hsame : ∀ a b c, same less a b → same less b c → same less a c)
    {htrans : ∀ a b c, less a b → less b c → less a c} :
    (m.insert htrans k v).find k' = (m.find k').or (if same less k k' then some v else none) := by
  unfold insert
  split_ifs with hold hk hk
  · rw [find_same hsame hk] at hold
    obtain ⟨w, hw⟩ := Option.isSome_iff_exists.1 hold
    rw [hw]
    rfl
  · rw [Option.or_none]
  · rw [find_set hsame, if_pos hk, ← find_same hsame hk, Option.not_isSome_iff_eq_none.1 hold]
    rfl
  · rw [find_set hsame, if_neg hk, Option.or_none]

/-- Inserting entries one after the other. -/
def insertAll (htrans : ∀ a b c, less a b → less b c → less a c) (m : OrderedMap α β less)
    (l : List (α × β)) : OrderedMap α β less :=
  l.foldl (fun m x => m.insert htrans x.1 x.2) m

/-- **The first entry of a key wins.** -/
theorem find_insertAll (hsame : ∀ a b c, same less a b → same less b c → same less a c)
    {htrans : ∀ a b c, less a b → less b c → less a c} : ∀ (l : List (α × β)) (m : OrderedMap α β less),
    (m.insertAll htrans l).find k' =
      (m.find k').or ((l.find? fun x => same less x.1 k').map Prod.snd)
  | [], m => by
    rw [List.find?_nil, Option.map_none, Option.or_none]
    rfl
  | x :: l, m => by
    have ih : ((m.insert htrans x.1 x.2).insertAll htrans l).find k' = _ := find_insertAll hsame l _
    rw [insertAll, List.foldl_cons, ← insertAll, ih, find_insert hsame, Option.or_assoc, List.find?_cons]
    congr 1
    cases same less x.1 k' <;> rfl

/-- Setting entries one after the other. -/
def setAll (htrans : ∀ a b c, less a b → less b c → less a c) (m : OrderedMap α β less)
    (l : List (α × β)) : OrderedMap α β less :=
  l.foldl (fun m x => m.set htrans x.1 x.2) m

/-- **The last entry of a key wins.** -/
theorem find_setAll (hsame : ∀ a b c, same less a b → same less b c → same less a c)
    {htrans : ∀ a b c, less a b → less b c → less a c} (l : List (α × β)) (m : OrderedMap α β less) :
    (m.setAll htrans l).find k' = ((l.reverse.find? fun x => same less x.1 k').map Prod.snd).or (m.find k') := by
  induction l generalizing m with
  | nil => rfl
  | cons x l ih =>
    have hcons : m.setAll htrans (x :: l) = (m.set htrans x.1 x.2).setAll htrans l := rfl
    rw [hcons, ih, find_set hsame, List.reverse_cons, List.find?_append, Option.map_or, Option.or_assoc,
      List.find?_singleton]
    congr 1
    split_ifs <;> rfl

/-- Entries in order have a key once, so that they may be searched from the end. -/
theorem find?_reverse (hsame : ∀ a b c, same less a b → same less b c → same less a c) {l : List (α × β)}
    (hl : l.Pairwise fun x y => less x.1 y.1) :
    (l.reverse.find? fun x => same less x.1 k) = l.find? fun x => same less x.1 k := by
  induction l with
  | nil => rfl
  | cons x l ih =>
    obtain ⟨hx, hl⟩ := List.pairwise_cons.1 hl
    rw [List.reverse_cons, List.find?_append, ih hl]
    cases hk : same less x.1 k with
    | false => simp [hk]
    | true =>
      have hnone : (l.find? fun y => same less y.1 k) = none := by
        refine List.find?_eq_none.2 fun y hy hyk => ?_
        have hxy := hsame _ _ _ hk (same_symm hyk)
        simp [same, hx y hy] at hxy
      simp [hnone, hk]

end

end OrderedMap
end Lib
