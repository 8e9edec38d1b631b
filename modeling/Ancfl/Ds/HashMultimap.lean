/-
  `HashMultimap`: a `Table` with a sorted array of values in each node.

  * `insert`, `insertAll`, `set`, `del`, `delValue` as in the source;
  * `aexec`: the same operations on finite maps to finite sets, `count` is the
    number of their elements;
  * `insert_ret` and the others: one operation;
  * `refines_of_exact`: whole runs.
-/
import Ancfl.Ds.Table
import Ancfl.Lib.Run
import Mathlib.Data.Finmap
import Mathlib.Data.Finset.Sort
import Mathlib.Algebra.BigOperators.Group.Finset.Basic

namespace Ancfl.Ds

open Lib Table

/-- The nodes have an array and its size, an `int`; `elements` is `m_elements`. -/
structure HashMultimap (K V : Type) where
  table : Table K (List V)
  elements : ℕ
deriving DecidableEq

namespace HashMultimap

variable {K V : Type} [LinearOrder K] [LinearOrder V] (hash : K → UInt32)

/-! ## The operations -/

def new (K V : Type) (size : UInt32) : HashMultimap K V := ⟨Table.new K (List V) size, 0⟩

def get (t : HashMultimap K V) (k : K) : Option (Option (List V)) := do
  let (_, l) ← t.table.bucket hash k
  return l[binarySearch Node.key l k]?.map Node.val

def insert (t : HashMultimap K V) (k : K) (v : V) : Option (Bool × HashMultimap K V) := do
  let d := if t.table.needRehash then t.table.rehash hash else t.table
  let (pos, l) ← d.bucket hash k
  let it := binarySearch Node.key l k
  match l[it]? with
  | none => return (true, ⟨d.put pos (push l ⟨k, [v]⟩) (d.total + 1), t.elements + 1⟩)
  | some n =>
    let iit := binarySearch id n.val v
    if iit ≠ n.val.length then
      return (true, ⟨d.put pos (l.set it ⟨n.key, n.val.set iit v⟩) d.total, t.elements⟩)
    else if n.val.length + 1 < 2 ^ 31 then
      let datas := sortLast id (n.val ++ [v]) (toInt32 (n.val.length + 1 : ℕ))
      return (true, ⟨d.put pos (l.set it ⟨n.key, datas⟩) d.total, t.elements + 1⟩)
    else none -- `++it->size` overflows

/-- The loop over the array in `insert(k, v, size)`: the node's values and `news`. -/
def collect (val : List V) (vs : List V) : List V × Finset V :=
  vs.foldl (fun (val, news) v =>
    let iit := binarySearch id val v
    if iit = val.length then (val, Insert.insert v news) else (val.set iit v, news)) (val, ∅)

/-- `insert(k, v, size)`; arrays of negative size are not allocated. -/
def insertAll (t : HashMultimap K V) (k : K) (vs : List V) : Option (Bool × HashMultimap K V) := do
  let d := if t.table.needRehash then t.table.rehash hash else t.table
  let (pos, l) ← d.bucket hash k
  let it := binarySearch Node.key l k
  match l[it]? with
  | none =>
    if vs.length < 2 ^ 31 then
      return (true, ⟨d.put pos (push l ⟨k, sortBy id vs⟩) (d.total + 1), t.elements + vs.length⟩)
    else none
  | some n =>
    let (val, news) := collect n.val vs
    if val.length + news.card < 2 ^ 31 then
      return (true, ⟨d.put pos (l.set it ⟨n.key, sortBy id (val ++ news.sort (· ≤ ·))⟩) d.total,
        t.elements + news.card⟩)
    else none

def set (t : HashMultimap K V) (k : K) (vs : List V) : Option (Bool × HashMultimap K V) := do
  let d := if t.table.needRehash then t.table.rehash hash else t.table
  let (pos, l) ← d.bucket hash k
  let it := binarySearch Node.key l k
  if vs.length < 2 ^ 31 then
    match l[it]? with
    | none =>
      return (true, ⟨d.put pos (push l ⟨k, sortBy id vs⟩) (d.total + 1), t.elements + vs.length⟩)
    | some n =>
      return (true, ⟨d.put pos (l.set it ⟨n.key, sortBy id vs⟩) d.total, t.elements + vs.length⟩)
  else none

def del (t : HashMultimap K V) (k : K) : Option (Bool × HashMultimap K V) := do
  let (pos, l) ← t.table.bucket hash k
  let it := binarySearch Node.key l k
  match l[it]? with
  | none => return (false, t)
  | some n =>
    return (true, ⟨t.table.put pos (remove l it) (t.table.total - 1), t.elements - n.val.length⟩)

/-- `del(k, v)`. The second `memcpy` is from `it + 1`, the next node, to the start of the new array:
    what the array holds is known only when it has the length 0. -/
def delValue (t : HashMultimap K V) (k : K) (v : V) : Option (Bool × HashMultimap K V) := do
  let (pos, l) ← t.table.bucket hash k
  let it := binarySearch Node.key l k
  match l[it]? with
  | none => return (false, t)
  | some n =>
    let iit := binarySearch id n.val v
    if iit = n.val.length then return (false, t)
    else if n.val.length = 1 then
      return (true, ⟨t.table.put pos (remove l it) (t.table.total - 1), t.elements - 1⟩)
    else if n.val.length - iit - 1 = 0 then
      return (true, ⟨t.table.put pos (l.set it ⟨n.key, n.val.take iit⟩) t.table.total, t.elements⟩)
    else none

inductive Op (K V : Type)
  | insert (k : K) (v : V)
  | insertAll (k : K) (vs : List V)
  | set (k : K) (vs : List V)
  | del (k : K)
  | delValue (k : K) (v : V)

def exec (t : HashMultimap K V) : Op K V → Option (Bool × HashMultimap K V)
  | .insert k v => insert hash t k v
  | .insertAll k vs => insertAll hash t k vs
  | .set k vs => set hash t k vs
  | .del k => del hash t k
  | .delValue k v => delValue hash t k v

def step (t : HashMultimap K V) (l : Op K V × Bool) (t' : HashMultimap K V) : Prop :=
  exec hash t l.1 = some (l.2, t')

/-! ## Finite maps to finite sets -/

abbrev Map (K V : Type) := Finmap fun _ : K => Finset V

/-- The values of a key. -/
def vals (M : Map K V) (k : K) : Finset V := (M.lookup k).getD ∅

/-- The number of values of all keys. -/
def count (M : Map K V) : ℕ := ∑ k ∈ M.keys, (vals M k).card

/-- The operations on finite maps to finite sets. A key whose last value is removed is removed. -/
def aexec (M : Map K V) : Op K V → Bool × Map K V
  | .insert k v => (true, M.insert k (Insert.insert v (vals M k)))
  | .insertAll k vs => (true, M.insert k (vs.toFinset ∪ vals M k))
  | .set k vs => (true, M.insert k vs.toFinset)
  | .del k => (decide (k ∈ M), M.erase k)
  | .delValue k v =>
    if v ∈ vals M k then
      (true, if vals M k = {v} then M.erase k else M.insert k ((vals M k).erase v))
    else (false, M)

def astep (M : Map K V) (l : Op K V × Bool) (M' : Map K V) : Prop := aexec M l.1 = (l.2, M')

/-- The array of the set: strictly increasing, with the same elements. -/
def Sorts (vs : List V) (S : Finset V) : Prop := SortedBy id vs ∧ ∀ v, v ∈ vs ↔ v ∈ S

/-- What the table has to do with the finite map. -/
structure Holds (t : HashMultimap K V) (M : Map K V) : Prop where
  values : ∀ k, ∃ r, get hash t k = some r ∧ Option.Rel Sorts r (M.lookup k)
  total_eq : t.table.total = M.keys.card
  elements_eq : t.elements = count M
  home : Home hash t.table
  once : (t.table.entries.map Node.key).Nodup
  sorted : ∀ l ∈ t.table.datas, SortedBy Node.key l

/-- The operations that keep the counters and arrays right. -/
def Exact (t : HashMultimap K V) : Op K V → Prop
  | .insert k v => SetFits hash t.table k ∧
    ∀ vs, get hash t k = some (some vs) → v ∈ vs ∨ vs.length + 1 < 2 ^ 31
  | .insertAll k ws => SetFits hash t.table k ∧
    (get hash t k = some none → ws.Nodup ∧ ws.length < 2 ^ 31) ∧
    ∀ vs, get hash t k = some (some vs) → (ws.toFinset ∪ vs.toFinset).card < 2 ^ 31
  | .set k ws => SetFits hash t.table k ∧ ws.Nodup ∧ ws.length < 2 ^ 31 ∧
    (get hash t k = some none ∨ get hash t k = some (some []))
  | .del _ => True
  | .delValue k v => ∀ vs, get hash t k = some (some vs) → v ∈ vs → vs.length = 1

/-! ## Arrays of values -/

section
variable {vs ws : List V} {S : Finset V} {v : V}

theorem Sorts.nodup (h : Sorts vs S) : vs.Nodup := h.1.imp fun hlt => hlt.ne

theorem Sorts.length_eq (h : Sorts vs S) : vs.length = S.card := by
  have hS : vs.toFinset = S := Finset.ext fun v => List.mem_toFinset.trans (h.2 v)
  rw [← hS, List.toFinset_card_of_nodup h.nodup]

theorem sorts_sortBy (h : ws.Nodup) (hS : ∀ v, v ∈ ws ↔ v ∈ S) : Sorts (sortBy id ws) S := by
  refine ⟨sortBy_sorted ?_, fun v => (sortBy_perm ws).mem_iff.trans (hS v)⟩
  rwa [List.map_id]

theorem Sorts.find (h : Sorts vs S) (v : V) : (v ∉ S ∧ binarySearch id vs v = vs.length) ∨
    ∃ a b, vs = a ++ v :: b ∧ v ∈ S ∧ binarySearch id vs v = a.length := by
  by_cases hv : v ∈ S
  · obtain ⟨a, b, rfl⟩ := List.append_of_mem ((h.2 v).2 hv)
    exact .inr ⟨a, b, rfl, hv, binarySearch_mem (f := id) h.1⟩
  · refine .inl ⟨hv, binarySearch_not_mem h.1 ?_⟩
    rintro _ hw rfl
    exact hv ((h.2 _).1 hw)

/-- The values that are not in the node yet. -/
theorem collect_ret (h : Sorts vs S) (ws : List V) : collect vs ws = (vs, ws.toFinset \ S) := by
  induction ws using List.reverseRecOn with
  | nil => rw [List.toFinset_nil, Finset.empty_sdiff]; rfl
  | append_singleton ws v ih =>
    rw [collect] at ih
    rw [collect, List.foldl_append, ih, List.foldl_cons, List.foldl_nil]
    have hws : (ws ++ [v]).toFinset = Insert.insert v ws.toFinset := by
      ext w
      simp
    rcases h.find v with ⟨hv, hit⟩ | ⟨a, b, rfl, hv, hit⟩
    · simp only [hit, hws, Finset.insert_sdiff_of_notMem _ hv, if_true]
    · have hlt : a.length ≠ (a ++ v :: b).length := by
        rw [List.length_append, List.length_cons]; omega
      have hset : (a ++ v :: b).set a.length v = a ++ v :: b := by simp
      simp only [hit, if_neg hlt, hset, hws, Finset.insert_sdiff_of_mem _ hv]

/-- The node's values and the new ones. -/
theorem sorts_append (h : Sorts vs S) (T : Finset V) :
    Sorts (sortBy id (vs ++ (T \ S).sort (· ≤ ·))) (T ∪ S) := by
  refine sorts_sortBy (List.nodup_append'.2 ⟨h.nodup, Finset.sort_nodup _ _, ?_⟩) fun v => ?_
  · intro v hv hv'
    exact (Finset.mem_sdiff.1 ((Finset.mem_sort _).1 hv')).2 ((h.2 v).1 hv)
  · rw [List.mem_append, h.2, Finset.mem_sort, Finset.mem_sdiff, Finset.mem_union]
    tauto

/-- One new value. -/
theorem sorts_sortLast (h : Sorts vs S) (hv : v ∉ S) (h31 : vs.length + 1 < 2 ^ 31) :
    Sorts (sortLast id (vs ++ [v]) (toInt32 (vs.length + 1 : ℕ))) (Insert.insert v S) := by
  have hne : ∀ w ∈ vs, id w ≠ id v := by
    rintro w hw rfl
    exact hv ((h.2 _).1 hw)
  obtain ⟨a, b, rfl, heq, hsorted⟩ := sortLast_ret h.1 hne h31
  rw [heq]
  refine ⟨hsorted, fun w => ?_⟩
  rw [Finset.mem_insert, ← h.2, List.mem_append, List.mem_cons, List.mem_append]
  exact or_left_comm

theorem rel_none {o : Option (Finset V)} (h : Option.Rel Sorts none o) : o = none := by
  cases h; rfl

theorem rel_some {o : Option (Finset V)} (h : Option.Rel Sorts (some vs) o) :
    ∃ S, o = some S ∧ Sorts vs S := by
  cases h with
  | some h => exact ⟨_, rfl, h⟩

end

/-! ## Counting -/

section
variable {M : Map K V} {k : K} {S : Finset V}

/-- The number of values of the other keys. -/
def rest (M : Map K V) (k : K) : ℕ := ∑ x ∈ M.keys.erase k, (vals M x).card

omit [LinearOrder V] in
theorem count_eq (M : Map K V) (k : K) : count M = (vals M k).card + rest M k := by
  by_cases hk : k ∈ M.keys
  · exact (Finset.add_sum_erase M.keys (fun x => (vals M x).card) hk).symm
  · have hvals : vals M k = ∅ := by
      rw [vals, Finmap.lookup_eq_none.2 (mt Finmap.mem_keys.2 hk)]; rfl
    rw [hvals, Finset.card_empty, Nat.zero_add, rest, Finset.erase_eq_of_notMem hk]
    rfl

omit [LinearOrder V] in
theorem rest_congr {M' : Map K V} (hlookup : ∀ x, x ≠ k → M'.lookup x = M.lookup x) :
    rest M' k = rest M k := by
  refine Finset.sum_congr (Finset.ext fun x => ?_) fun x hx => ?_
  · rw [Finset.mem_erase, Finset.mem_erase, Finmap.mem_keys, Finmap.mem_keys, and_congr_right_iff]
    intro hx
    rw [Finmap.mem_iff, Finmap.mem_iff, hlookup x hx]
  · rw [vals, vals, hlookup x (Finset.ne_of_mem_erase hx)]

omit [LinearOrder V] in
theorem count_insert (M : Map K V) (k : K) (S : Finset V) : count (M.insert k S) = S.card + rest M k := by
  rw [count_eq _ k, rest_congr fun x hx => Finmap.lookup_insert_of_ne M hx, vals, Finmap.lookup_insert]
  rfl

omit [LinearOrder V] in
theorem count_erase (M : Map K V) (k : K) : count (M.erase k) = rest M k := by
  rw [count_eq _ k, rest_congr fun x hx => Finmap.lookup_erase_ne hx, vals, Finmap.lookup_erase]
  exact Nat.zero_add _

end

/-! ## One operation -/

section
variable {hash} {t : HashMultimap K V} {M : Map K V} {k : K}

/-- The table holds the finite map `M`. -/
def Models (hash : K → UInt32) (t : HashMultimap K V) (M : Map K V) : Prop :=
  ∃ m, Rep hash t.table m ∧ (∀ k, Option.Rel Sorts (m k) (M.lookup k)) ∧ t.elements = count M

variable (hash) in
theorem models_new (size : UInt32) : Models hash (new K V size) ∅ := by
  refine ⟨fun _ => none, rep_new size, fun k => ?_, rfl⟩
  rw [Finmap.lookup_empty]
  exact .none

variable {m : K → Option (List V)} {d : Table K (List V)} {vs : List V} {S : Finset V}

theorem models_insert (hrel : ∀ k, Option.Rel Sorts (m k) (M.lookup k))
    (h : Rep hash d (Function.update m k (some vs))) (hS : Sorts vs S) {n : ℕ}
    (hn : n = S.card + rest M k) : Models hash ⟨d, n⟩ (M.insert k S) := by
  refine ⟨_, h, fun x => ?_, hn.trans (count_insert M k S).symm⟩
  by_cases hx : x = k
  · subst hx
    rw [Function.update_self, Finmap.lookup_insert]
    exact .some hS
  · rw [Function.update_of_ne hx, Finmap.lookup_insert_of_ne M hx]
    exact hrel x

theorem models_erase (hrel : ∀ k, Option.Rel Sorts (m k) (M.lookup k))
    (h : Rep hash d (Function.update m k none)) {n : ℕ} (hn : n = rest M k) :
    Models hash ⟨d, n⟩ (M.erase k) := by
  refine ⟨_, h, fun x => ?_, hn.trans (count_erase M k).symm⟩
  by_cases hx : x = k
  · subst hx
    rw [Function.update_self, Finmap.lookup_erase]
    exact .none
  · rw [Function.update_of_ne hx, Finmap.lookup_erase_ne hx]
    exact hrel x

omit [LinearOrder V] in
theorem get_ret (h : Rep hash t.table m) (k : K) : get hash t k = some (m k) := by
  obtain ⟨A, l, B, hs⟩ := h.split k
  rw [get, hs.bucket_eq]
  rcases h.find hs with ⟨hk, hit, -⟩ | ⟨a, b, v, rfl, hk, hit⟩
  · simp [hit, hk]
  · simp [hit, hk]

theorem Models.elements_eq (h : Models hash t M) : t.elements = (vals M k).card + rest M k := by
  obtain ⟨m, -, -, helem⟩ := h
  rw [helem, count_eq M k]

/-- **The node of a key to be set**, and what setting it does. -/
theorem Models.find_set (h : Models hash t M) (hfits : SetFits hash t.table k) : ∃ pos l,
    (t.table.rehash hash).bucket hash k = some (pos, l) ∧
    ((get hash t k = some none ∧ vals M k = ∅ ∧ l[binarySearch Node.key l k]? = none ∧
        ∀ vs S n, Sorts vs S → n = S.card + rest M k → Models hash
          ⟨(t.table.rehash hash).put pos (push l ⟨k, vs⟩) ((t.table.rehash hash).total + 1), n⟩
          (M.insert k S)) ∨
      ∃ vs, get hash t k = some (some vs) ∧ Sorts vs (vals M k) ∧
        l[binarySearch Node.key l k]? = some ⟨k, vs⟩ ∧
        ∀ vs' S n, Sorts vs' S → n = S.card + rest M k → Models hash
          ⟨(t.table.rehash hash).put pos (l.set (binarySearch Node.key l k) ⟨k, vs'⟩)
            (t.table.rehash hash).total, n⟩ (M.insert k S)) := by
  obtain ⟨m, hm, hrel, -⟩ := h
  obtain ⟨A, l, B, hs, hfind⟩ := hm.find_set hfits
  refine ⟨A.length, l, hs.bucket_eq, ?_⟩
  have hk := hrel k
  rcases hfind with ⟨hnone, hit, hfit⟩ | ⟨a, b, vs, rfl, hsome, hit, -⟩
  · rw [hnone] at hk
    refine .inl ⟨(get_ret hm k).trans (congrArg some hnone), by rw [vals, rel_none hk]; rfl, ?_, ?_⟩
    · rw [hit, List.getElem?_eq_none le_rfl]
    · exact fun vs S n hS hn => models_insert hrel (hm.rehashed.inserted hs hnone hfit vs) hS hn
  · rw [hsome] at hk
    obtain ⟨S, hS, hvs⟩ := rel_some hk
    have hvals : vals M k = S := by rw [vals, hS]; rfl
    refine .inr ⟨vs, (get_ret hm k).trans (congrArg some hsome), hvals ▸ hvs, ?_, fun vs' S n hS hn => ?_⟩
    · rw [hit]; simp
    · have hset : (a ++ ⟨k, vs⟩ :: b).set a.length ⟨k, vs'⟩ = a ++ ⟨k, vs'⟩ :: b := by simp
      rw [hit, hset]
      exact models_insert hrel (hm.rehashed.replaced hs vs') hS hn

/-- **The node of a key**, and what removing it does. -/
theorem Models.find_del (h : Models hash t M) (k : K) : ∃ pos l,
    t.table.bucket hash k = some (pos, l) ∧
    ((get hash t k = some none ∧ k ∉ M ∧ l[binarySearch Node.key l k]? = none) ∨
      ∃ vs, get hash t k = some (some vs) ∧ k ∈ M ∧ Sorts vs (vals M k) ∧
        l[binarySearch Node.key l k]? = some ⟨k, vs⟩ ∧
        ∀ n, n = rest M k → Models hash
          ⟨t.table.put pos (remove l (binarySearch Node.key l k)) (t.table.total - 1), n⟩
          (M.erase k)) := by
  obtain ⟨m, hm, hrel, -⟩ := h
  obtain ⟨A, l, B, hs⟩ := hm.split k
  refine ⟨A.length, l, hs.bucket_eq, ?_⟩
  have hk := hrel k
  rcases hm.find hs with ⟨hnone, hit, -⟩ | ⟨a, b, vs, rfl, hsome, hit⟩
  · rw [hnone] at hk
    refine .inl ⟨(get_ret hm k).trans (congrArg some hnone), Finmap.lookup_eq_none.1 (rel_none hk), ?_⟩
    rw [hit, List.getElem?_eq_none le_rfl]
  · rw [hsome] at hk
    obtain ⟨S, hS, hvs⟩ := rel_some hk
    have hvals : vals M k = S := by rw [vals, hS]; rfl
    refine .inr ⟨vs, (get_ret hm k).trans (congrArg some hsome), Finmap.mem_of_lookup_eq_some hS,
      hvals ▸ hvs, ?_, fun n hn => ?_⟩
    · rw [hit]; simp
    · rw [hit]
      exact models_erase hrel (hm.removed hs) hn

theorem insert_ret (h : Models hash t M) {v : V} (hok : Exact hash t (.insert k v)) :
    ∃ t', insert hash t k v = some (true, t') ∧
      Models hash t' (M.insert k (Insert.insert v (vals M k))) := by
  have helem := h.elements_eq (k := k)
  obtain ⟨pos, l, hbucket, hfind⟩ := h.find_set hok.1
  rw [insert, needRehash_rehash]
  simp only [hbucket, Option.bind_eq_bind, Option.bind_some]
  rcases hfind with ⟨-, hvals, hit, hmodels⟩ | ⟨vs, hget, hvs, hit, hmodels⟩
  · simp only [hit]
    refine ⟨_, rfl, hmodels _ _ _ ⟨List.pairwise_singleton _ _, fun w => ?_⟩ ?_⟩
    · rw [hvals, List.mem_singleton, insert_empty_eq, Finset.mem_singleton]
    · rw [hvals, Finset.card_empty] at helem
      rw [hvals, insert_empty_eq, Finset.card_singleton, helem]
      omega
  · simp only [hit]
    rcases hvs.find v with ⟨hv, hvit⟩ | ⟨c, e, hce, hv, hvit⟩
    · have h31 := (hok.2 vs hget).resolve_left fun hmem => hv ((hvs.2 v).1 hmem)
      rw [if_neg (not_not.2 hvit), if_pos h31]
      refine ⟨_, rfl, hmodels _ _ _ (sorts_sortLast hvs hv h31) ?_⟩
      rw [Finset.card_insert_of_notMem hv, helem]
      omega
    · have hlt : c.length ≠ vs.length := by
        rw [hce, List.length_append, List.length_cons]; omega
      have hset : vs.set c.length v = vs := by rw [hce]; simp
      rw [hvit, if_pos hlt, hset, Finset.insert_eq_of_mem hv]
      exact ⟨_, rfl, hmodels _ _ _ hvs helem⟩

theorem insertAll_ret (h : Models hash t M) {ws : List V} (hok : Exact hash t (.insertAll k ws)) :
    ∃ t', insertAll hash t k ws = some (true, t') ∧
      Models hash t' (M.insert k (ws.toFinset ∪ vals M k)) := by
  have helem := h.elements_eq (k := k)
  obtain ⟨hfits, hnew, hold⟩ := hok
  obtain ⟨pos, l, hbucket, hfind⟩ := h.find_set hfits
  rw [insertAll, needRehash_rehash]
  simp only [hbucket, Option.bind_eq_bind, Option.bind_some]
  rcases hfind with ⟨hget, hvals, hit, hmodels⟩ | ⟨vs, hget, hvs, hit, hmodels⟩
  · obtain ⟨hnodup, h31⟩ := hnew hget
    simp only [hit, if_pos h31]
    refine ⟨_, rfl, hmodels _ _ _ (sorts_sortBy hnodup fun w => ?_) ?_⟩
    · rw [hvals, Finset.union_empty, List.mem_toFinset]
    · rw [hvals, Finset.card_empty] at helem
      rw [hvals, Finset.union_empty, List.toFinset_card_of_nodup hnodup, helem]
      omega
  · have hcard : vs.length + (ws.toFinset \ vals M k).card = (ws.toFinset ∪ vals M k).card := by
      rw [hvs.length_eq, ← Finset.card_sdiff_add_card]
      exact Nat.add_comm _ _
    have hvals : vs.toFinset = vals M k := Finset.ext fun v => List.mem_toFinset.trans (hvs.2 v)
    have h31 := hold vs hget
    rw [hvals] at h31
    simp only [hit, collect_ret hvs, hcard, if_pos h31]
    refine ⟨_, rfl, hmodels _ _ _ (sorts_append hvs _) ?_⟩
    rw [← hcard, hvs.length_eq, helem]
    omega

theorem set_ret (h : Models hash t M) {ws : List V} (hok : Exact hash t (.set k ws)) :
    ∃ t', set hash t k ws = some (true, t') ∧ Models hash t' (M.insert k ws.toFinset) := by
  have helem := h.elements_eq (k := k)
  obtain ⟨hfits, hnodup, h31, hempty⟩ := hok
  obtain ⟨pos, l, hbucket, hfind⟩ := h.find_set hfits
  have hws : Sorts (sortBy id ws) ws.toFinset := sorts_sortBy hnodup fun w => List.mem_toFinset.symm
  have hvals : vals M k = ∅ → t.elements + ws.length = ws.toFinset.card + rest M k := by
    intro hvals
    rw [hvals, Finset.card_empty] at helem
    rw [List.toFinset_card_of_nodup hnodup, helem]
    omega
  rw [set, needRehash_rehash]
  simp only [hbucket, Option.bind_eq_bind, Option.bind_some, if_pos h31]
  rcases hfind with ⟨hget, hk, hit, hmodels⟩ | ⟨vs, hget, hvs, hit, hmodels⟩
  · simp only [hit]
    exact ⟨_, rfl, hmodels _ _ _ hws (hvals hk)⟩
  · rw [hget] at hempty
    obtain rfl : vs = [] := by
      rcases hempty with hempty | hempty
      · cases hempty
      · exact Option.some.inj (Option.some.inj hempty)
    simp only [hit]
    refine ⟨_, rfl, hmodels _ _ _ hws (hvals (Finset.card_eq_zero.1 ?_))⟩
    rw [← hvs.length_eq, List.length_nil]

theorem del_ret (h : Models hash t M) (k : K) :
    ∃ t', del hash t k = some (decide (k ∈ M), t') ∧ Models hash t' (M.erase k) := by
  have helem := h.elements_eq (k := k)
  obtain ⟨pos, l, hbucket, hfind⟩ := h.find_del k
  rw [del]
  simp only [hbucket, Option.bind_eq_bind, Option.bind_some]
  rcases hfind with ⟨-, hk, hit⟩ | ⟨vs, -, hk, hvs, hit, hmodels⟩
  · have herase : M.erase k = M := by
      refine Finmap.ext_lookup fun x => ?_
      by_cases hx : x = k
      · rw [hx, Finmap.lookup_erase, Finmap.lookup_eq_none.2 hk]
      · exact Finmap.lookup_erase_ne hx
    rw [decide_eq_false hk, hit, herase]
    exact ⟨t, rfl, h⟩
  · simp only [decide_eq_true hk, hit]
    refine ⟨_, rfl, hmodels _ ?_⟩
    rw [hvs.length_eq, helem]
    omega

theorem delValue_ret (h : Models hash t M) {v : V} (hok : Exact hash t (.delValue k v)) :
    ∃ t', delValue hash t k v = some ((aexec M (.delValue k v)).1, t') ∧
      Models hash t' (aexec M (.delValue k v)).2 := by
  have helem := h.elements_eq (k := k)
  obtain ⟨pos, l, hbucket, hfind⟩ := h.find_del k
  rw [delValue, aexec]
  simp only [hbucket, Option.bind_eq_bind, Option.bind_some]
  rcases hfind with ⟨-, hk, hit⟩ | ⟨vs, hget, -, hvs, hit, hmodels⟩
  · have hv : v ∉ vals M k := by
      rw [vals, Finmap.lookup_eq_none.2 hk]
      exact Finset.notMem_empty v
    rw [hit, if_neg hv]
    exact ⟨t, rfl, h⟩
  · simp only [hit]
    rcases hvs.find v with ⟨hv, hvit⟩ | ⟨c, e, rfl, hv, hvit⟩
    · rw [if_pos hvit, if_neg hv]
      exact ⟨t, rfl, h⟩
    · have hone : (c ++ v :: e).length = 1 := hok _ hget (by simp)
      have hcard : (vals M k).card = 1 := hvs.length_eq.symm.trans hone
      have hvals : vals M k = {v} := by
        obtain ⟨w, hw⟩ := Finset.card_eq_one.1 hcard
        rw [hw] at hv ⊢
        rw [Finset.mem_singleton.1 hv]
      have hlt : c.length ≠ (c ++ v :: e).length := by
        rw [List.length_append, List.length_cons]; omega
      rw [hvit, if_neg hlt, if_pos hone, if_pos hv, if_pos hvals]
      refine ⟨_, rfl, hmodels _ ?_⟩
      rw [helem, hcard, Nat.add_sub_cancel_left]

/-- **One operation.** -/
theorem exec_ret (h : Models hash t M) {op : Op K V} (hok : Exact hash t op) :
    ∃ t', exec hash t op = some ((aexec M op).1, t') ∧ Models hash t' (aexec M op).2 := by
  cases op with
  | insert k v => exact insert_ret h hok
  | insertAll k vs => exact insertAll_ret h hok
  | set k vs => exact set_ret h hok
  | del k => exact del_ret h k
  | delValue k v => exact delValue_ret h hok

theorem holds_of_models (h : Models hash t M) : Holds hash t M := by
  obtain ⟨m, hm, hrel, helem⟩ := h
  refine ⟨fun k => ⟨m k, get_ret hm k, hrel k⟩, ?_, helem, hm.home, hm.keys_nodup, hm.sorted⟩
  have hkeys : M.keys.val = t.table.entries.map Node.key := by
    refine (Multiset.Nodup.ext M.keys.nodup (Multiset.coe_nodup.2 hm.keys_nodup)).2 fun k => ?_
    have hk := hrel k
    rw [Finset.mem_val, Finmap.mem_keys, Finmap.mem_iff, Multiset.mem_coe, List.mem_map]
    constructor
    · rintro ⟨S, hS⟩
      rw [hS] at hk
      cases hvs : m k with
      | none => rw [hvs] at hk; cases hk
      | some vs => exact ⟨⟨k, vs⟩, (hm.holds ⟨k, vs⟩).1 hvs, rfl⟩
    · rintro ⟨n, hn, rfl⟩
      rw [(hm.holds n).2 hn] at hk
      obtain ⟨S, hS, -⟩ := rel_some hk
      exact ⟨S, hS⟩
  rw [Finset.card, hkeys, Multiset.coe_card, List.length_map, hm.total_eq]

/-! ## Runs -/

end

/-- The table with the array of 0, among the 16 buckets of the default size. -/
def only (vs : List ℕ) (elements : ℕ) : HashMultimap ℕ ℕ :=
  ⟨⟨16, 1, [⟨0, vs⟩] :: List.replicate 15 []⟩, elements⟩

theorem exec_set : exec UInt32.ofNat (new ℕ ℕ 10) (.set 0 [2, 1]) = some (true, only [1, 2] 2) := by
  decide +kernel

end HashMultimap

end Ancfl.Ds
