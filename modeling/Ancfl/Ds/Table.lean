/-
  The table that `HashMap` and `HashMultimap` have in common: an array of
  buckets, each a vector of nodes sorted by their keys.

  * `Table.bucket`, `push`, `remove`, `rehash`: the pieces of their operations;
  * `Rep hash t m`: the table is well-formed and holds the finite map `m`;
  * `Rep.find`, `Rep.inserted`, `Rep.replaced`, `Rep.removed`, `Rep.rehashed`: what
    the pieces do to the map.
-/
import Ancfl.Lib.Int32
import Ancfl.Lib.Sorted
import Mathlib.Data.List.Perm.Basic
import Mathlib.Logic.Function.Basic

namespace Ancfl.Ds

open Lib

/-- `basket(n)`. For 0 and the least `int` the logarithm is not a finite number; converted to `int`
    it is the least one, and a shift by it is one by 0. -/
def basket (n : ℤ) : ℕ := if n = 0 ∨ n = -2 ^ 31 then 1 else 2 ^ min (n.natAbs.log2 + 1) 30

/-- `SortLast(data, size)` -/
def sortLast {α κ : Type} [LinearOrder κ] (f : α → κ) (data : List α) (size : ℤ) : List α :=
  if size ≤ 1 then data else sinkLast f data (size - 1).toNat

structure Node (K P : Type) where
  key : K
  val : P
deriving DecidableEq

/-- `m_size`, `m_total` and `m_datas`, which has `m_size` vectors. -/
structure Table (K P : Type) where
  size : ℕ
  total : ℕ
  datas : List (List (Node K P))
deriving DecidableEq

namespace Table

variable {K P : Type} (hash : K → UInt32)

/-! ## The pieces of the operations -/

def new (K P : Type) (size : UInt32) : Table K P :=
  let n := basket (toInt32 size.toNat)
  ⟨n, 0, List.replicate n []⟩

/-- `getRate() > 16`. The sizes are powers of two, so that only the rounding to a `float` counts:
    from `16 + 2 ^ -20` on down it is to 16. -/
def needRehash (t : Table K P) : Bool := decide ((2 ^ 24 + 1) * t.size < t.total * 2 ^ 20)

/-- `datas[m_posHash(n.key) % size].push_back(n)` for all nodes. -/
def distribute (size : ℕ) (ns : List (Node K P)) : List (List (Node K P)) :=
  ns.foldl (fun datas n => datas.modify ((hash n.key).toNat % size) (· ++ [n])) (List.replicate size [])

/-- `pos` and `m_datas[pos]` for a key; a division by zero has no defined behaviour, as has an access
    outside the array. -/
def bucket (t : Table K P) (k : K) : Option (ℕ × List (Node K P)) :=
  if t.size = 0 then none
  else
    let pos := (hash k).toNat % t.size
    t.datas[pos]?.map (pos, ·)

/-- The table with another vector at `pos`. -/
def put (t : Table K P) (pos : ℕ) (l : List (Node K P)) (total : ℕ) : Table K P :=
  ⟨t.size, total, t.datas.set pos l⟩

/-- All nodes. -/
def entries (t : Table K P) : List (Node K P) := t.datas.flatten

/-- Every node is in the bucket of its key. -/
def Home (t : Table K P) : Prop :=
  ∀ pos l, t.datas[pos]? = some l → ∀ n ∈ l, (hash n.key).toNat % t.size = pos

/-- The bucket of a key, among the others. -/
structure Split (t : Table K P) (k : K) (A : List (List (Node K P))) (l : List (Node K P))
    (B : List (List (Node K P))) : Prop where
  datas_eq : t.datas = A ++ l :: B
  pos_eq : (hash k).toNat % t.size = A.length
  bucket_eq : t.bucket hash k = some (A.length, l)

section
variable {hash} {t : Table K P} {k : K} {A B : List (List (Node K P))} {l : List (Node K P)}

theorem Split.getElem? (hs : Split hash t k A l B) : t.datas[A.length]? = some l := by
  rw [hs.datas_eq]; simp

/-- The nodes of a key are in its bucket. -/
theorem Home.mem_iff (h : Home hash t) {n : Node K P} (hl : t.datas[(hash n.key).toNat % t.size]? = some l) :
    n ∈ l ↔ n ∈ t.entries := by
  constructor
  · exact fun hn => List.mem_flatten.2 ⟨l, List.mem_of_getElem? hl, hn⟩
  · intro hn
    obtain ⟨l', hl', hnl⟩ := List.mem_flatten.1 hn
    obtain ⟨pos, hpos⟩ := List.mem_iff_getElem?.1 hl'
    rw [h pos l' hpos n hnl, hpos] at hl
    exact Option.some.inj hl ▸ hnl

theorem basket_pos (n : ℤ) : 0 < basket n := by
  rw [basket]
  split_ifs
  · exact Nat.one_pos
  · exact Nat.two_pow_pos _

theorem flatten_modify_perm {D : List (List (Node K P))} {i : ℕ} (hi : i < D.length) (n : Node K P) :
    (D.modify i (· ++ [n])).flatten.Perm (n :: D.flatten) := by
  induction D generalizing i with
  | nil => cases hi
  | cons l D ih =>
    cases i with
    | zero =>
      rw [List.modify_zero_cons, List.flatten_cons, List.flatten_cons, List.append_assoc]
      exact List.perm_middle
    | succ i =>
      rw [List.modify_succ_cons, List.flatten_cons, List.flatten_cons]
      exact ((ih (Nat.lt_of_succ_lt_succ hi)).append_left l).trans List.perm_middle

variable (hash) in
/-- **Distributing nodes** keeps them, and puts each into the bucket of its key. -/
theorem distribute_ret {size : ℕ} (hsize : 0 < size) (ns : List (Node K P)) :
    (distribute hash size ns).length = size ∧ (distribute hash size ns).flatten.Perm ns ∧
      ∀ pos l, (distribute hash size ns)[pos]? = some l → ∀ n ∈ l, (hash n.key).toNat % size = pos := by
  induction ns using List.reverseRecOn with
  | nil =>
    refine ⟨List.length_replicate, ?_, fun pos l hl n hn => ?_⟩
    · rw [distribute, List.foldl_nil, List.flatten_eq_nil_iff.2 fun l hl => List.eq_of_mem_replicate hl]
    · rw [List.eq_of_mem_replicate (List.mem_of_getElem? hl)] at hn
      cases hn
  | append_singleton ns x ih =>
    obtain ⟨hlen, hperm, hhome⟩ := ih
    rw [distribute, List.foldl_append, List.foldl_cons, List.foldl_nil, ← distribute]
    refine ⟨?_, ?_, fun pos l hl n hn => ?_⟩
    · rw [List.length_modify, hlen]
    · have hpos : (hash x.key).toNat % size < (distribute hash size ns).length := by
        rw [hlen]; exact Nat.mod_lt _ hsize
      exact (flatten_modify_perm hpos x).trans
        ((hperm.cons x).trans (List.perm_append_singleton x ns).symm)
    · rw [List.getElem?_modify] at hl
      obtain ⟨l', hl', rfl⟩ := Option.map_eq_some_iff.1 hl
      split_ifs at hn with hpos
      · rcases List.mem_append.1 hn with hn | hn
        · exact hhome pos l' hl' n hn
        · exact List.mem_singleton.1 hn ▸ hpos
      · exact hhome pos l' hl' n hn

end

variable [LinearOrder K]

def rehashUnlock (t : Table K P) : Table K P :=
  let size := basket (toInt32 t.total)
  if size = t.size then t
  else { t with size := size, datas := (distribute hash size t.datas.flatten).map (sortBy Node.key) }

def rehash (t : Table K P) : Table K P := if t.needRehash then t.rehashUnlock hash else t

/-- `m_datas[pos].push_back(node); SortLast(&m_datas[pos][0], m_datas[pos].size());` -/
def push (l : List (Node K P)) (n : Node K P) : List (Node K P) :=
  sortLast Node.key (l ++ [n]) (toInt32 (l.length + 1 : ℕ))

/-- `std::swap(*it, back())` if there is more than one node, `resize(size() - 1)` and `std::sort`. -/
def remove (l : List (Node K P)) (it : ℕ) : List (Node K P) :=
  let l' := if l.length > 1 then
      match l[it]?, l.getLast? with
      | some x, some y => (l.set (l.length - 1) x).set it y
      | _, _ => l
    else l
  sortBy Node.key l'.dropLast

/-! ## Tables and maps -/

/-- The table is well-formed, and holds the map `m`. -/
structure Rep (t : Table K P) (m : K → Option P) : Prop where
  size_pos : 0 < t.size
  length_eq : t.datas.length = t.size
  sorted : ∀ l ∈ t.datas, SortedBy Node.key l
  home : Home hash t
  total_eq : t.total = t.entries.length
  holds : ∀ n : Node K P, m n.key = some n.val ↔ n ∈ t.entries

section
variable {hash} {t : Table K P} {m : K → Option P} {k : K}

theorem rep_new (size : UInt32) : Rep hash (new K P size) fun _ => none := by
  obtain ⟨n, hn, hnew⟩ : ∃ n, 0 < n ∧ new K P size = ⟨n, 0, List.replicate n []⟩ :=
    ⟨_, basket_pos _, rfl⟩
  have hentries : (⟨n, 0, List.replicate n []⟩ : Table K P).entries = [] :=
    List.flatten_eq_nil_iff.2 fun l hl => List.eq_of_mem_replicate hl
  rw [hnew]
  refine ⟨hn, List.length_replicate, fun l hl => ?_, fun pos l hl x hx => ?_, ?_, fun x => ?_⟩
  · rw [List.eq_of_mem_replicate hl]; exact List.Pairwise.nil
  · rw [List.eq_of_mem_replicate (List.mem_of_getElem? hl)] at hx
    cases hx
  · rw [hentries]; rfl
  · rw [hentries]; simp

theorem Rep.split (h : Rep hash t m) (k : K) : ∃ A l B, Split hash t k A l B := by
  have hpos : (hash k).toNat % t.size < t.datas.length := by
    rw [h.length_eq]; exact Nat.mod_lt _ h.size_pos
  have hlen : (t.datas.take ((hash k).toNat % t.size)).length = (hash k).toNat % t.size :=
    List.length_take_of_le hpos.le
  refine ⟨t.datas.take _, t.datas[(hash k).toNat % t.size], t.datas.drop ((hash k).toNat % t.size + 1), ?_,
    hlen.symm, ?_⟩
  · rw [← List.drop_eq_getElem_cons hpos, List.take_append_drop]
  · rw [bucket, if_neg h.size_pos.ne', hlen]
    exact congrArg (Option.map _) (List.getElem?_eq_getElem hpos)

variable {A B : List (List (Node K P))} {l l' : List (Node K P)}

theorem Split.mem_iff (hs : Split hash t k A l B) (h : Rep hash t m) {n : Node K P} (hn : n.key = k) :
    n ∈ l ↔ n ∈ t.entries := by
  subst hn
  exact h.home.mem_iff (hs.pos_eq ▸ hs.getElem?)

/-- **The bucket of a key**, and the place of the key in it. -/
theorem Rep.find (h : Rep hash t m) (hs : Split hash t k A l B) :
    (m k = none ∧ binarySearch Node.key l k = l.length ∧ ∀ n ∈ l, n.key ≠ k) ∨
      ∃ a b v, l = a ++ ⟨k, v⟩ :: b ∧ m k = some v ∧ binarySearch Node.key l k = a.length := by
  have hsorted := h.sorted l (List.mem_of_getElem? hs.getElem?)
  by_cases hk : ∃ n ∈ l, n.key = k
  · obtain ⟨n, hn, rfl⟩ := hk
    obtain ⟨a, b, rfl⟩ := List.append_of_mem hn
    exact .inr ⟨a, b, n.val, rfl, (h.holds n).2 ((hs.mem_iff h rfl).1 hn), binarySearch_mem hsorted⟩
  · have hnone : ∀ n ∈ l, n.key ≠ k := fun n hn hnk => hk ⟨n, hn, hnk⟩
    refine .inl ⟨?_, binarySearch_not_mem hsorted hnone, hnone⟩
    rw [Option.eq_none_iff_forall_ne_some]
    intro v hv
    have hmem := (h.holds ⟨k, v⟩).1 hv
    exact hnone _ ((hs.mem_iff h rfl).2 hmem) rfl

/-- Another vector in the place of a bucket. -/
theorem Rep.put_bucket (h : Rep hash t m) (hs : Split hash t k A l B) (hl' : SortedBy Node.key l')
    (hhome : ∀ n ∈ l', n.key = k ∨ n ∈ l) {total : ℕ} (htotal : total + l.length = t.total + l'.length)
    {m' : K → Option P} (hm : ∀ n : Node K P, n.key ≠ k → (m' n.key = m n.key ∧ (n ∈ l' ↔ n ∈ l)))
    (hk : ∀ v, m' k = some v ↔ ⟨k, v⟩ ∈ l') : Rep hash (t.put A.length l' total) m' := by
  have hdatas : (t.put A.length l' total).datas = A ++ l' :: B := by
    rw [put, hs.datas_eq]
    simp
  have hentries : (t.put A.length l' total).entries = A.flatten ++ (l' ++ B.flatten) := by
    rw [entries, hdatas, List.flatten_append, List.flatten_cons]
  have hold : t.entries = A.flatten ++ (l ++ B.flatten) := by
    rw [entries, hs.datas_eq, List.flatten_append, List.flatten_cons]
  have hget {pos : ℕ} {x : List (Node K P)} (hx : (A ++ l' :: B)[pos]? = some x) :
      (pos = A.length ∧ x = l') ∨ t.datas[pos]? = some x := by
    by_cases hpos : pos = A.length
    · subst hpos
      rw [List.getElem?_append_right le_rfl, Nat.sub_self] at hx
      exact .inl ⟨rfl, (Option.some.inj hx).symm⟩
    · refine .inr ?_
      rw [hs.datas_eq, ← hx, List.getElem?_append, List.getElem?_append]
      split_ifs with hlt
      · rfl
      · obtain ⟨i, hi⟩ : ∃ i, pos - A.length = i + 1 := ⟨pos - A.length - 1, by omega⟩
        rw [hi]
        rfl
  have hhome' : Home hash (t.put A.length l' total) := by
    intro pos x hx n hn
    rw [hdatas] at hx
    rcases hget hx with ⟨rfl, rfl⟩ | hx
    · rcases hhome n hn with hk | hn
      · exact hk ▸ hs.pos_eq
      · exact h.home _ l hs.getElem? n hn
    · exact h.home pos x hx n hn
  refine ⟨h.size_pos, ?_, fun x hx => ?_, hhome', ?_, fun n => ?_⟩
  · rw [put, List.length_set]
    exact h.length_eq
  · rw [hdatas] at hx
    obtain ⟨pos, hpos⟩ := List.mem_iff_getElem?.1 hx
    rcases hget hpos with ⟨-, rfl⟩ | hpos
    · exact hl'
    · exact h.sorted x (List.mem_of_getElem? hpos)
  · have htot := h.total_eq
    rw [hold] at htot
    rw [hentries]
    simp only [put, List.length_append] at htot ⊢
    omega
  · by_cases hn : n.key = k
    · subst hn
      rw [hk n.val]
      refine hhome'.mem_iff ?_
      rw [hdatas, show (t.put A.length l' total).size = t.size from rfl, hs.pos_eq]
      simp
    · obtain ⟨hm, hmem⟩ := hm n hn
      rw [hm, h.holds, hentries, hold]
      simp only [List.mem_append, hmem]

/-! ### Appending a node -/

/-- `SortLast` has the vector's size in an `int`. -/
def Fits (l : List (Node K P)) (k : K) : Prop := l.length + 1 < 2 ^ 31 ∨ ∀ n ∈ l, n.key < k

/-- **`SortLast`** puts a new last element to its place. -/
theorem sortLast_ret {α κ : Type} [LinearOrder κ] {f : α → κ} {l : List α} (hl : SortedBy f l) {x : α}
    (hx : ∀ y ∈ l, f y ≠ f x) (h31 : l.length + 1 < 2 ^ 31) : ∃ a b, l = a ++ b ∧
      sortLast f (l ++ [x]) (toInt32 (l.length + 1 : ℕ)) = a ++ x :: b ∧ SortedBy f (a ++ x :: b) := by
  obtain ⟨a, b, rfl, hsink, ha, hb⟩ := sinkLast_append (f := f) hl (x := x) (r := [])
  obtain ⟨hsa, hsb, hab⟩ := List.pairwise_append.1 hl
  refine ⟨a, b, rfl, ?_, ?_⟩
  · rw [sortLast, toInt32_natCast h31, Nat.cast_succ, Int.add_sub_cancel, Int.toNat_natCast, hsink,
      List.append_nil]
    split_ifs with h1
    · have hnil : a ++ b = [] := List.length_eq_zero_iff.1 (by omega)
      obtain ⟨rfl, rfl⟩ := List.append_eq_nil_iff.1 hnil
      rfl
    · rfl
  · refine List.pairwise_append.2 ⟨hsa, List.pairwise_cons.2 ⟨hb, hsb⟩, fun y hy z hz => ?_⟩
    rcases List.mem_cons.1 hz with rfl | hz
    · exact lt_of_le_of_ne (ha y hy) (hx y (by simp [hy]))
    · exact hab y hy z hz

theorem push_ret (hl : SortedBy Node.key l) {n : Node K P} (hk : ∀ x ∈ l, x.key ≠ n.key)
    (hfits : Fits l n.key) : ∃ a b, l = a ++ b ∧ push l n = a ++ n :: b ∧ SortedBy Node.key (push l n) := by
  rcases hfits with h31 | hlast
  · obtain ⟨a, b, hab, hpush, hsorted⟩ := sortLast_ret hl hk h31
    have hpush : push l n = a ++ n :: b := hpush
    exact ⟨a, b, hab, hpush, hpush ▸ hsorted⟩
  · have hsorted : SortedBy Node.key (l ++ [n]) := by
      refine List.pairwise_append.2 ⟨hl, List.pairwise_singleton _ _, fun x hx y hy => ?_⟩
      rw [List.mem_singleton.1 hy]
      exact hlast x hx
    have hpush : push l n = l ++ [n] := by
      rw [push, sortLast, sinkLast_sorted hsorted, ite_self]
    exact ⟨l, [], (List.append_nil l).symm, hpush, hpush ▸ hsorted⟩

/-- **Appending a node with a new key** inserts it into the map. -/
theorem Rep.inserted (h : Rep hash t m) (hs : Split hash t k A l B) (hk : m k = none) (hfits : Fits l k) (v : P) :
    Rep hash (t.put A.length (push l ⟨k, v⟩) (t.total + 1)) (Function.update m k (some v)) := by
  have hnone : ∀ x ∈ l, x.key ≠ k := by
    rintro ⟨k', v'⟩ hx rfl
    rw [(h.holds ⟨k', v'⟩).2 ((hs.mem_iff h rfl).1 hx)] at hk
    cases hk
  obtain ⟨a, b, hl, hpush, hsorted⟩ := push_ret (h.sorted l (List.mem_of_getElem? hs.getElem?))
    (n := ⟨k, v⟩) hnone hfits
  have hmem (n : Node K P) : n ∈ push l ⟨k, v⟩ ↔ n = ⟨k, v⟩ ∨ n ∈ l := by
    rw [hpush, hl, List.mem_append, List.mem_cons, List.mem_append]
    exact or_left_comm
  refine h.put_bucket hs hsorted (fun n hn => ?_) ?_ (fun n hn => ⟨?_, ?_⟩) fun v' => ?_
  · rcases (hmem n).1 hn with rfl | hn
    · exact .inl rfl
    · exact .inr hn
  · rw [hpush, hl, List.length_append, List.length_append, List.length_cons]
    omega
  · rw [Function.update_of_ne hn]
  · rw [hmem]
    exact or_iff_right fun he => hn (congrArg Node.key he)
  · rw [Function.update_self, hmem, Option.some.injEq, or_iff_left fun hx => hnone _ hx rfl, Node.mk.injEq]
    exact ⟨fun hv => ⟨rfl, hv.symm⟩, fun hv => hv.2.symm⟩

/-! ### Replacing and removing a node -/

variable {a b : List (Node K P)} {v : P}

theorem sorted_cons_iff {x : Node K P} : SortedBy Node.key (a ++ x :: b) ↔
    SortedBy Node.key a ∧ SortedBy Node.key b ∧ (∀ y ∈ a, y.key < x.key) ∧ (∀ z ∈ b, x.key < z.key) ∧
      ∀ y ∈ a, ∀ z ∈ b, y.key < z.key := by
  rw [SortedBy, List.pairwise_append, List.pairwise_cons]
  simp only [List.mem_cons, forall_eq_or_imp, forall_and]
  tauto

/-- **Another value in a node.** -/
theorem Rep.replaced (h : Rep hash t m) (hs : Split hash t k A (a ++ ⟨k, v⟩ :: b) B) (v' : P) :
    Rep hash (t.put A.length (a ++ ⟨k, v'⟩ :: b) t.total) (Function.update m k (some v')) := by
  obtain ⟨ha, hb, hak, hkb, hab⟩ := sorted_cons_iff.1 (h.sorted _ (List.mem_of_getElem? hs.getElem?))
  have hsorted : SortedBy Node.key (a ++ ⟨k, v'⟩ :: b) := sorted_cons_iff.2 ⟨ha, hb, hak, hkb, hab⟩
  refine h.put_bucket hs hsorted (fun n hn => ?_) ?_
    (fun n hn => ⟨Function.update_of_ne hn (some v') m, ?_⟩) fun w => ?_
  · rcases List.mem_append.1 hn with hn | hn
    · exact .inr (by simp [hn])
    · rcases List.mem_cons.1 hn with rfl | hn
      · exact .inl rfl
      · exact .inr (by simp [hn])
  · rw [List.length_append, List.length_append, List.length_cons, List.length_cons]
  · have hne (w : P) : n ≠ ⟨k, w⟩ := fun he => hn (congrArg Node.key he)
    simp only [List.mem_append, List.mem_cons, hne, false_or]
  · rw [Function.update_self, Option.some.injEq]
    constructor
    · rintro rfl
      simp
    · intro hw
      rcases List.mem_append.1 hw with hw | hw
      · exact absurd (hak _ hw) (lt_irrefl _)
      · rcases List.mem_cons.1 hw with hw | hw
        · exact (Node.mk.inj hw).2.symm
        · exact absurd (hkb _ hw) (lt_irrefl _)

/-- `remove` sorts the other nodes. -/
theorem remove_eq (x : Node K P) :
    ∃ l, remove (a ++ x :: b) a.length = sortBy Node.key l ∧ l.Perm (a ++ b) := by
  refine ⟨_, rfl, ?_⟩
  split_ifs with hlen
  · have hget : (a ++ x :: b)[a.length]? = some x := by simp
    rcases List.eq_nil_or_concat' b with rfl | ⟨c, y, rfl⟩
    · rw [hget]
      simp
    · have hlast : (a ++ x :: (c ++ [y])).getLast? = some y := by
        rw [← List.cons_append, ← List.append_assoc, List.getLast?_concat]
      have hswap : ((a ++ x :: (c ++ [y])).set ((a ++ x :: (c ++ [y])).length - 1) x).set a.length y =
          (a ++ y :: c) ++ [x] := by
        have hend : (a ++ x :: (c ++ [y])).length - 1 = a.length + (c.length + 1) := by
          simp only [List.length_append, List.length_cons, List.length_nil]
          omega
        rw [hend, List.set_append_right _ _ (Nat.le_add_right _ _), Nat.add_sub_cancel_left]
        simp
      simp only [hget, hlast, hswap, List.dropLast_concat]
      exact List.Perm.append_left a (List.perm_append_singleton y c).symm
  · rw [List.length_append, List.length_cons] at hlen
    obtain rfl : a = [] := List.length_eq_zero_iff.1 (by omega)
    obtain rfl : b = [] := List.length_eq_zero_iff.1 (by omega)
    rfl

/-- **Removing a node.** -/
theorem Rep.removed (h : Rep hash t m) (hs : Split hash t k A (a ++ ⟨k, v⟩ :: b) B) :
    Rep hash (t.put A.length (remove (a ++ ⟨k, v⟩ :: b) a.length) (t.total - 1))
      (Function.update m k none) := by
  have hsorted := h.sorted _ (List.mem_of_getElem? hs.getElem?)
  obtain ⟨ha, hb, hak, hkb, hab⟩ := sorted_cons_iff.1 hsorted
  obtain ⟨l, hremove, hl⟩ := remove_eq (a := a) (b := b) ⟨k, v⟩
  have hperm := (sortBy_perm (f := Node.key) l).trans hl
  rw [hremove]
  have hmem (n : Node K P) : n ∈ sortBy Node.key l ↔ n ∈ a ∨ n ∈ b := by
    rw [hperm.mem_iff, List.mem_append]
  refine h.put_bucket hs ?_ (fun n hn => .inr ?_) ?_
    (fun n hn => ⟨Function.update_of_ne hn none m, ?_⟩) fun w => ?_
  · refine sortBy_sorted ((hl.map _).nodup_iff.2 (SortedBy.keys_nodup ?_))
    exact List.pairwise_append.2 ⟨ha, hb, hab⟩
  · rcases (hmem n).1 hn with hn | hn <;> simp [hn]
  · have htotal := h.total_eq
    have hpos : 0 < t.entries.length :=
      List.length_pos_of_mem ((hs.mem_iff h (n := ⟨k, v⟩) rfl).1 (by simp))
    rw [hperm.length_eq, List.length_append, List.length_append, List.length_cons]
    omega
  · have hne : n ≠ ⟨k, v⟩ := fun he => hn (congrArg Node.key he)
    simp only [hmem, List.mem_append, List.mem_cons, hne, false_or]
  · rw [Function.update_self, hmem]
    refine iff_of_false (fun hw => nomatch hw) ?_
    rintro (hw | hw)
    · exact absurd (hak _ hw) (lt_irrefl _)
    · exact absurd (hkb _ hw) (lt_irrefl _)

/-! ### Rehashing -/

theorem Rep.keys_nodup (h : Rep hash t m) : (t.entries.map Node.key).Nodup := by
  refine List.pairwise_map.2 (List.pairwise_flatten.2 ⟨fun l hl => ?_, ?_⟩)
  · exact (h.sorted l hl).imp fun hlt => hlt.ne
  · rw [List.pairwise_iff_getElem]
    intro i j hi hj hij x hx y hy hxy
    have hx' := h.home i _ (List.getElem?_eq_getElem hi) x hx
    have hy' := h.home j _ (List.getElem?_eq_getElem hj) y hy
    rw [hxy, hy'] at hx'
    omega

/-- The nodes, distributed to the buckets of a new size. -/
theorem Rep.resized (h : Rep hash t m) {size : ℕ} (hsize : 0 < size) :
    Rep hash ⟨size, t.total, (distribute hash size t.datas.flatten).map (sortBy Node.key)⟩ m := by
  obtain ⟨hlen, hperm, hhome⟩ := distribute_ret hash hsize t.entries
  have hkeys := h.keys_nodup
  have hentries : ((distribute hash size t.entries).map (sortBy Node.key)).flatten.Perm t.entries := by
    refine List.Perm.trans (List.Perm.flatten_congr ?_) hperm
    rw [List.forall₂_map_left_iff, List.forall₂_same]
    exact fun l _ => sortBy_perm l
  refine ⟨hsize, ?_, fun l hl => ?_, fun pos l hl n hn => ?_, ?_, fun n => ?_⟩
  · rw [List.length_map]; exact hlen
  · obtain ⟨l', hl', rfl⟩ := List.mem_map.1 hl
    refine sortBy_sorted (List.Nodup.sublist ?_ ((hperm.map Node.key).nodup_iff.2 hkeys))
    exact (List.sublist_flatten_of_mem hl').map _
  · obtain ⟨l', hl', rfl⟩ := Option.map_eq_some_iff.1 (List.getElem?_map.symm.trans hl)
    exact hhome pos l' hl' n ((sortBy_perm l').mem_iff.1 hn)
  · exact h.total_eq.trans hentries.length_eq.symm
  · exact (h.holds n).trans hentries.mem_iff.symm

/-- **Rehashing** keeps the map. -/
theorem Rep.rehashUnlock (h : Rep hash t m) : Rep hash (t.rehashUnlock hash) m := by
  rw [Table.rehashUnlock]
  split_ifs
  · exact h
  · exact h.resized (basket_pos _)

theorem rehash_total (t : Table K P) : (t.rehash hash).total = t.total := by
  rw [rehash, Table.rehashUnlock]
  split_ifs <;> rfl

theorem Rep.rehashed (h : Rep hash t m) : Rep hash (t.rehash hash) m := by
  rw [rehash]
  split_ifs
  · exact h.rehashUnlock
  · exact h

theorem needRehash_rehash (t : Table K P) :
    (if t.needRehash then t.rehash hash else t) = t.rehash hash := by
  rw [rehash]
  split_ifs <;> rfl

variable (hash) in
/-- Setting the key `k` does not append to a vector that is too long for `SortLast`. -/
def SetFits (t : Table K P) (k : K) : Prop :=
  ∀ pos l, (t.rehash hash).bucket hash k = some (pos, l) → (∃ n ∈ l, n.key = k) ∨ Fits l k

/-- A key larger than all others can be appended. -/
theorem Rep.setFits_of_lt (h : Rep hash t m) (hlt : ∀ x v, m x = some v → x < k) : SetFits hash t k := by
  intro pos l hl
  obtain ⟨A, l', B, hs⟩ := h.rehashed.split k
  rw [hs.bucket_eq] at hl
  obtain ⟨-, rfl⟩ := Prod.mk.inj (Option.some.inj hl)
  refine .inr (.inr fun x hx => hlt x.key x.val ((h.rehashed.holds x).2 ?_))
  exact List.mem_flatten_of_mem (List.mem_of_getElem? hs.getElem?) hx

/-- **The bucket of a key to be set**, after rehashing. -/
theorem Rep.find_set (h : Rep hash t m) (hfits : SetFits hash t k) : ∃ A l B,
    Split hash (t.rehash hash) k A l B ∧
      ((m k = none ∧ binarySearch Node.key l k = l.length ∧ Fits l k) ∨
        ∃ a b v, l = a ++ ⟨k, v⟩ :: b ∧ m k = some v ∧ binarySearch Node.key l k = a.length ∧
          a.length ≠ l.length) := by
  obtain ⟨A, l, B, hs⟩ := h.rehashed.split k
  refine ⟨A, l, B, hs, ?_⟩
  rcases h.rehashed.find hs with ⟨hk, hit, hnone⟩ | ⟨a, b, v, rfl, hk, hit⟩
  · exact .inl ⟨hk, hit, (hfits _ l hs.bucket_eq).resolve_left fun ⟨n, hn, hnk⟩ => hnone n hn hnk⟩
  · refine .inr ⟨a, b, v, rfl, hk, hit, ?_⟩
    rw [List.length_append, List.length_cons]
    omega

theorem modify_node {α : Type} (a b : List α) (x : α) (g : α → α) :
    (a ++ x :: b).modify a.length g = a ++ g x :: b := by
  rw [List.modify_eq_take_cons_drop (by simp)]
  simp

end

end Table

end Ancfl.Ds
