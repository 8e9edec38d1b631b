/-
  `HashMap`: a `Table` with a value in each node.

  * `get`, `existsKey`, `set`, `del`, `merge`, `rehash` as in the source; `exec`
    performs an operation on one or two of several maps;
  * `aexec`: the same operations on finite maps;
  * `set_ret` and the others: one operation on a table that holds a finite map;
  * `refines_of_fits`: whole runs.
-/
import Ancfl.Ds.Table
import Ancfl.Lib.Run
import Mathlib.Data.Finmap

namespace Ancfl.Ds

open Lib Table

abbrev HashMap (K V : Type) := Table K V

namespace HashMap

variable {K V ι : Type} [LinearOrder K] [DecidableEq ι] (hash : K → UInt32)

/-! ## The operations -/

def get (t : HashMap K V) (k : K) : Option (Option V) := do
  let (_, l) ← t.bucket hash k
  return l[binarySearch Node.key l k]?.map Node.val

def existsKey (t : HashMap K V) (k : K) : Option Bool := do
  let (_, l) ← t.bucket hash k
  return binarySearch Node.key l k != l.length

/-- The second component is the map afterwards. -/
def set (t : HashMap K V) (k : K) (v : V) : Option (Bool × HashMap K V) := do
  let t := if t.needRehash then t.rehash hash else t
  let (pos, l) ← t.bucket hash k
  let it := binarySearch Node.key l k
  if it = l.length then return (true, t.put pos (push l ⟨k, v⟩) (t.total + 1))
  else return (false, t.put pos (l.modify it fun n => ⟨n.key, v⟩) t.total)

def del (t : HashMap K V) (k : K) : Option (Bool × HashMap K V) := do
  let (pos, l) ← t.bucket hash k
  let it := binarySearch Node.key l k
  if it = l.length then return (false, t)
  else return (true, t.put pos (remove l it) (t.total - 1))

/-- `for (auto& i : tmp) set(i.first, i.second);` -/
def setAll (t : HashMap K V) : List (Node K V) → Option (HashMap K V)
  | [] => some t
  | n :: tmp => do
    let (_, t) ← set hash t n.key n.val
    setAll t tmp

def merge (t oth : HashMap K V) : Option (HashMap K V) := setAll hash t oth.entries

inductive Op (ι K V : Type)
  | get (i : ι) (k : K)
  | existsKey (i : ι) (k : K)
  | set (i : ι) (k : K) (v : V)
  | del (i : ι) (k : K)
  | merge (i j : ι)
  | swap (i j : ι)
  | rehash (i : ι)

inductive Answer (V : Type)
  | value (v : Option V)
  | bool (b : Bool)
  | unit

/-- An operation on the maps `s`; `swap` locks `m_mutex` of both maps. -/
def exec (s : ι → HashMap K V) : Op ι K V → Option (Answer V × (ι → HashMap K V))
  | .get i k => do
    let v ← get hash (s i) k
    return (.value v, s)
  | .existsKey i k => do
    let b ← existsKey hash (s i) k
    return (.bool b, s)
  | .set i k v => do
    let (b, t) ← set hash (s i) k v
    return (.bool b, Function.update s i t)
  | .del i k => do
    let (b, t) ← del hash (s i) k
    return (.bool b, Function.update s i t)
  | .merge i j => do
    let t ← merge hash (s i) (s j)
    return (.unit, Function.update s i t)
  | .swap i j =>
    if i = j then none else some (.unit, Function.update (Function.update s i (s j)) j (s i))
  | .rehash i => some (.unit, Function.update s i ((s i).rehash hash))

/-- The steps: an operation and its answer. -/
def step (s : ι → HashMap K V) (l : Op ι K V × Answer V) (s' : ι → HashMap K V) : Prop :=
  exec hash s l.1 = some (l.2, s')

/-! ## Finite maps -/

abbrev Map (K V : Type) := Finmap fun _ : K => V

/-- The operations on finite maps. -/
def aexec (M : ι → Map K V) : Op ι K V → Answer V × (ι → Map K V)
  | .get i k => (.value ((M i).lookup k), M)
  | .existsKey i k => (.bool (decide (k ∈ M i)), M)
  | .set i k v => (.bool (decide (k ∉ M i)), Function.update M i ((M i).insert k v))
  | .del i k => (.bool (decide (k ∈ M i)), Function.update M i ((M i).erase k))
  | .merge i j => (.unit, Function.update M i (M j ∪ M i))
  | .swap i j => (.unit, Function.update (Function.update M i (M j)) j (M i))
  | .rehash _ => (.unit, M)

def astep (M : ι → Map K V) (l : Op ι K V × Answer V) (M' : ι → Map K V) : Prop :=
  aexec M l.1 = (l.2, M')

/-- The table as a finite map: every key is in its bucket, once, and the buckets are sorted. -/
structure Holds (t : HashMap K V) (M : Map K V) : Prop where
  length_eq : t.datas.length = t.size
  total_eq : t.total = M.keys.card
  bucket_iff : ∀ k v, M.lookup k = some v ↔
    ∃ l, t.datas[(hash k).toNat % t.size]? = some l ∧ ⟨k, v⟩ ∈ l
  home : Home hash t
  once : (t.entries.map Node.key).Nodup
  sorted : ∀ l ∈ t.datas, SortedBy Node.key l

/-- Setting the nodes of `tmp` in turn does not. -/
def SetAllFits (t : HashMap K V) : List (Node K V) → Prop
  | [] => True
  | n :: tmp => SetFits hash t n.key ∧
    ∀ b t', set hash t n.key n.val = some (b, t') → SetAllFits t' tmp

/-- The sets of an operation fit, and no map is swapped with itself. -/
def OpFits (s : ι → HashMap K V) : Op ι K V → Prop
  | .set i k _ => SetFits hash (s i) k
  | .merge i j => SetAllFits hash (s i) (s j).entries
  | .swap i j => i ≠ j
  | _ => True

/-! ## One operation -/

section
variable {hash} {t : HashMap K V} {M : Map K V} {k : K}

/-- The table holds the finite map `M`. -/
abbrev Models (hash : K → UInt32) (t : HashMap K V) (M : Map K V) : Prop :=
  Rep hash t fun k => M.lookup k

variable (hash) in
theorem models_new (size : UInt32) : Models hash (Table.new K V size) ∅ := by
  rw [Models, funext fun k : K => Finmap.lookup_empty (β := fun _ => V) k]
  exact rep_new size

theorem lookup_insert_eq (M : Map K V) (k : K) (v : V) :
    (fun x => (M.insert k v).lookup x) = Function.update (fun x => M.lookup x) k (some v) := by
  ext1 x
  by_cases hx : x = k
  · subst hx
    rw [Finmap.lookup_insert, Function.update_self]
  · rw [Finmap.lookup_insert_of_ne _ hx, Function.update_of_ne hx]

theorem lookup_erase_eq (M : Map K V) (k : K) :
    (fun x => (M.erase k).lookup x) = Function.update (fun x => M.lookup x) k none := by
  ext1 x
  by_cases hx : x = k
  · subst hx
    rw [Finmap.lookup_erase, Function.update_self]
  · rw [Finmap.lookup_erase_ne hx, Function.update_of_ne hx]

theorem get_ret (h : Models hash t M) (k : K) : get hash t k = some (M.lookup k) := by
  obtain ⟨A, l, B, hs⟩ := h.split k
  rw [get, hs.bucket_eq]
  rcases h.find hs with ⟨hk, hit, -⟩ | ⟨a, b, v, rfl, hk, hit⟩
  · simp [hit, hk]
  · simp [hit, hk]

theorem existsKey_ret (h : Models hash t M) (k : K) : existsKey hash t k = some (decide (k ∈ M)) := by
  obtain ⟨A, l, B, hs⟩ := h.split k
  rw [existsKey, hs.bucket_eq]
  rcases h.find hs with ⟨hk, hit, -⟩ | ⟨a, b, v, rfl, hk, hit⟩
  · have hM : k ∉ M := Finmap.lookup_eq_none.1 hk
    simp [hit, hM]
  · have hM : k ∈ M := Finmap.mem_of_lookup_eq_some hk
    simp [hit, hM]

theorem mem_key (h : Models hash t M) {l : List (Node K V)} (hl : l ∈ t.datas) {x : Node K V}
    (hx : x ∈ l) : x.key ∈ M :=
  Finmap.mem_of_lookup_eq_some ((h.holds x).2 (List.mem_flatten_of_mem hl hx))

/-- **Setting a key.** -/
theorem set_ret (h : Models hash t M) (hfits : SetFits hash t k) (v : V) :
    ∃ t', set hash t k v = some (decide (k ∉ M), t') ∧ Models hash t' (M.insert k v) := by
  obtain ⟨A, l, B, hs, hfind⟩ := h.find_set hfits
  rw [set, needRehash_rehash]
  simp only [hs.bucket_eq, Option.bind_eq_bind, Option.bind_some]
  rcases hfind with ⟨hk, hit, hfit⟩ | ⟨a, b, w, rfl, hk, hit, hlt⟩
  · have hM : k ∉ M := Finmap.lookup_eq_none.1 hk
    rw [hit, if_pos rfl, decide_eq_true hM]
    refine ⟨_, rfl, ?_⟩
    rw [Models, lookup_insert_eq]
    exact h.rehashed.inserted hs hk hfit v
  · have hM : ¬k ∉ M := not_not.2 (Finmap.mem_of_lookup_eq_some hk)
    rw [hit, if_neg hlt, decide_eq_false hM, modify_node]
    refine ⟨_, rfl, ?_⟩
    rw [Models, lookup_insert_eq]
    exact h.rehashed.replaced hs v

/-- **Deleting a key.** -/
theorem del_ret (h : Models hash t M) (k : K) :
    ∃ t', del hash t k = some (decide (k ∈ M), t') ∧ Models hash t' (M.erase k) := by
  obtain ⟨A, l, B, hs⟩ := h.split k
  rw [del]
  simp only [hs.bucket_eq, Option.bind_eq_bind, Option.bind_some]
  rcases h.find hs with ⟨hk, hit, -⟩ | ⟨a, b, v, rfl, hk, hit⟩
  · have hM : k ∉ M := Finmap.lookup_eq_none.1 hk
    rw [hit, if_pos rfl, decide_eq_false hM]
    refine ⟨t, rfl, ?_⟩
    rw [Models, lookup_erase_eq, Function.update_eq_self_iff.2 hk.symm]
    exact h
  · have hM : k ∈ M := Finmap.mem_of_lookup_eq_some hk
    have hlt : a.length ≠ (a ++ ⟨k, v⟩ :: b).length := by
      rw [List.length_append, List.length_cons]; omega
    rw [hit, if_neg hlt, decide_eq_true hM]
    refine ⟨_, rfl, ?_⟩
    rw [Models, lookup_erase_eq]
    exact h.removed hs

theorem setAll_ret (h : Models hash t M) {tmp : List (Node K V)} (hfits : SetAllFits hash t tmp) :
    ∃ t', setAll hash t tmp = some t' ∧
      Models hash t' (tmp.foldl (fun M n => M.insert n.key n.val) M) := by
  induction tmp generalizing t M with
  | nil => exact ⟨t, rfl, h⟩
  | cons n tmp ih =>
    obtain ⟨t₁, hset, h₁⟩ := set_ret h hfits.1 n.val
    rw [setAll, hset]
    exact ih h₁ (hfits.2 _ _ hset)

theorem lookup_foldl {tmp : List (Node K V)} (hnodup : (tmp.map Node.key).Nodup) (M : Map K V) :
    (∀ n ∈ tmp, (tmp.foldl (fun M n => M.insert n.key n.val) M).lookup n.key = some n.val) ∧
      ∀ k, k ∉ tmp.map Node.key →
        (tmp.foldl (fun M n => M.insert n.key n.val) M).lookup k = M.lookup k := by
  induction tmp generalizing M with
  | nil => exact ⟨fun n hn => (nomatch hn), fun k _ => rfl⟩
  | cons x tmp ih =>
    obtain ⟨hx, hnodup⟩ := List.nodup_cons.1 hnodup
    obtain ⟨hin, hout⟩ := ih hnodup (M.insert x.key x.val)
    refine ⟨fun n hn => ?_, fun k hk => ?_⟩
    · rcases List.mem_cons.1 hn with rfl | hn
      · exact (hout _ hx).trans (Finmap.lookup_insert M)
      · exact hin n hn
    · rw [List.map_cons, List.mem_cons, not_or] at hk
      exact (hout k hk.2).trans (Finmap.lookup_insert_of_ne M hk.1)

/-- Setting all entries of a map is a union. -/
theorem foldl_entries {oth : HashMap K V} {N : Map K V} (h : Models hash oth N) (M : Map K V) :
    oth.entries.foldl (fun M n => M.insert n.key n.val) M = N ∪ M := by
  obtain ⟨hin, hout⟩ := lookup_foldl h.keys_nodup M
  refine Finmap.ext_lookup fun k => ?_
  by_cases hk : k ∈ N
  · obtain ⟨v, hv⟩ := Finmap.mem_iff.1 hk
    rw [Finmap.lookup_union_left hk, hv]
    exact hin ⟨k, v⟩ ((h.holds ⟨k, v⟩).1 hv)
  · rw [Finmap.lookup_union_right hk]
    refine hout k fun hmem => hk ?_
    obtain ⟨n, hn, rfl⟩ := List.mem_map.1 hmem
    exact Finmap.mem_of_lookup_eq_some ((h.holds n).2 hn)

theorem merge_ret (h : Models hash t M) {oth : HashMap K V} {N : Map K V} (hoth : Models hash oth N)
    (hfits : SetAllFits hash t oth.entries) :
    ∃ t', merge hash t oth = some t' ∧ Models hash t' (N ∪ M) :=
  foldl_entries hoth M ▸ setAll_ret h hfits

theorem keys_perm (h : Models hash t M) : M.keys.val = t.entries.map Node.key := by
  refine (Multiset.Nodup.ext M.keys.nodup (Multiset.coe_nodup.2 h.keys_nodup)).2 fun k => ?_
  rw [Finset.mem_val, Finmap.mem_keys, Finmap.mem_iff, Multiset.mem_coe, List.mem_map]
  constructor
  · rintro ⟨v, hv⟩
    exact ⟨⟨k, v⟩, (h.holds ⟨k, v⟩).1 hv, rfl⟩
  · rintro ⟨n, hn, rfl⟩
    exact ⟨n.val, (h.holds n).2 hn⟩

theorem holds_of_models (h : Models hash t M) : Holds hash t M where
  length_eq := h.length_eq
  total_eq := by
    rw [Finset.card, keys_perm h, Multiset.coe_card, List.length_map, h.total_eq]
  bucket_iff k v := by
    obtain ⟨A, l, B, hs⟩ := h.split k
    have hl : t.datas[(hash k).toNat % t.size]? = some l := hs.pos_eq ▸ hs.getElem?
    rw [h.holds ⟨k, v⟩, ← hs.mem_iff h rfl, hl]
    exact ⟨fun hmem => ⟨l, rfl, hmem⟩, fun ⟨l', hl', hmem⟩ => Option.some.inj hl' ▸ hmem⟩
  home := h.home
  once := h.keys_nodup
  sorted := h.sorted

end

/-! ## Runs -/

section
variable {hash} {s : ι → HashMap K V} {M : ι → Map K V}

theorem models_update (h : ∀ i, Models hash (s i) (M i)) {i : ι} {t : HashMap K V} {N : Map K V}
    (ht : Models hash t N) (j : ι) :
    Models hash (Function.update s i t j) (Function.update M i N j) := by
  by_cases hj : j = i
  · subst hj
    rwa [Function.update_self, Function.update_self]
  · rw [Function.update_of_ne hj, Function.update_of_ne hj]
    exact h j

/-- **One operation** returns, as it does on finite maps. -/
theorem exec_ret (h : ∀ i, Models hash (s i) (M i)) {op : Op ι K V} (hfits : OpFits hash s op) :
    ∃ s', exec hash s op = some ((aexec M op).1, s') ∧ ∀ i, Models hash (s' i) ((aexec M op).2 i) := by
  cases op with
  | get i k => exact ⟨s, by rw [exec, get_ret (h i)]; rfl, h⟩
  | existsKey i k => exact ⟨s, by rw [exec, existsKey_ret (h i)]; rfl, h⟩
  | set i k v =>
    obtain ⟨t', hset, ht'⟩ := set_ret (h i) hfits v
    exact ⟨_, by rw [exec, hset]; rfl, models_update h ht'⟩
  | del i k =>
    obtain ⟨t', hdel, ht'⟩ := del_ret (h i) k
    exact ⟨_, by rw [exec, hdel]; rfl, models_update h ht'⟩
  | merge i j =>
    obtain ⟨t', hmerge, ht'⟩ := merge_ret (h i) (h j) hfits
    exact ⟨_, by rw [exec, hmerge]; rfl, models_update h ht'⟩
  | swap i j => exact ⟨_, if_neg hfits, models_update (models_update h (h j)) (h i)⟩
  | rehash i =>
    refine ⟨_, rfl, fun j => ?_⟩
    have hj := models_update h (i := i) (h i).rehashed j
    rwa [Function.update_eq_self] at hj

theorem step_simulates (h : ∀ i, Models hash (s i) (M i)) {l : Op ι K V × Answer V}
    {s' : ι → HashMap K V} (hstep : OpFits hash s l.1 ∧ step hash s l s') :
    ∃ M', astep M l M' ∧ ∀ i, Models hash (s' i) (M' i) := by
  obtain ⟨s'', hexec, h'⟩ := exec_ret h hstep.1
  obtain ⟨hanswer, hs'⟩ := Prod.mk.inj (Option.some.inj (hexec.symm.trans hstep.2))
  subst hs'
  exact ⟨(aexec M l.1).2, Prod.ext hanswer rfl, h'⟩

/-- **Runs whose sets fit** answer as finite maps; the tables hold these maps, and every operation
    that fits returns. -/
theorem refines_of_fits {size : ι → UInt32} {ls : List (Op ι K V × Answer V)}
    (h : Run (fun s l s' => OpFits hash s l.1 ∧ step hash s l s') (fun i => Table.new K V (size i))
      ls s) :
    (∃ M : ι → Map K V, Run astep (fun _ => ∅) ls M ∧ ∀ i, Holds hash (s i) (M i)) ∧
      ∀ op, OpFits hash s op → ∃ a s', exec hash s op = some (a, s') := by
  obtain ⟨M, hrun, hM⟩ := h.simulates (R := fun s (M : ι → Map K V) => ∀ i, Models hash (s i) (M i))
    (fun s M l s' hs hstep => step_simulates (s := s) (M := M) (l := l) hs hstep) fun i => models_new hash (size i)
  refine ⟨⟨M, hrun, fun i => holds_of_models (hM i)⟩, fun op hop => ?_⟩
  obtain ⟨s', hexec, -⟩ := exec_ret hM hop
  exact ⟨_, s', hexec⟩

/-- A key is set and read. -/
theorem refines_set : ∃ s : Unit → HashMap ℕ ℕ,
    (∃ M : Unit → Map ℕ ℕ, Run astep (fun _ => ∅)
      [(.set () 1 5, .bool true), (.get () 1, .value (some 5))] M ∧
        ∀ i, Holds UInt32.ofNat (s i) (M i)) ∧
      ∀ op, OpFits UInt32.ofNat s op → ∃ a s', exec UInt32.ofNat s op = some (a, s') := by
  have hnew := models_new (K := ℕ) (V := ℕ) UInt32.ofNat 0
  have hfits := hnew.setFits_of_lt (k := 1) fun x v hx => absurd (Finmap.mem_of_lookup_eq_some hx) Finmap.notMem_empty
  obtain ⟨t, hset, ht⟩ := set_ret hnew hfits 5
  rw [decide_eq_true Finmap.notMem_empty] at hset
  have hget := get_ret ht 1
  rw [Finmap.lookup_insert] at hget
  have hstep : step UInt32.ofNat (fun _ => Table.new ℕ ℕ 0) (.set () 1 5, .bool true) fun _ => t := by
    rw [step, exec, hset]
    rfl
  have hstep' : step UInt32.ofNat (fun _ => t) (.get () 1, .value (some 5)) fun _ => t := by
    rw [step, exec, hget]
    rfl
  have hrun : Run (fun s l s' => OpFits UInt32.ofNat s l.1 ∧ step UInt32.ofNat s l s')
      (fun _ => Table.new ℕ ℕ 0) [(.set () 1 5, .bool true), (.get () 1, .value (some 5))]
      (fun _ : Unit => t) :=
    .cons ⟨hfits, hstep⟩ (.cons ⟨trivial, hstep'⟩ (.nil _))
  exact ⟨fun _ => t, refines_of_fits hrun⟩

end

/-! ## A vector that is too long -/

/-- `Murmur3Hash<uint64_t>` -/
def hash64 (data : Fin (2 ^ 64)) : UInt32 := UInt32.ofNat data.val

/-- The keys with the hash 0. -/
def zeroKey (n : ℕ) : Fin (2 ^ 64) := Fin.ofNat (2 ^ 64) (n * 2 ^ 32)

theorem zeroKey_val {n : ℕ} (hn : n < 2 ^ 32) : (zeroKey n).val = n * 2 ^ 32 := by
  refine (Fin.val_ofNat _ _).trans (Nat.mod_eq_of_lt ?_)
  calc n * 2 ^ 32 < 2 ^ 32 * 2 ^ 32 := Nat.mul_lt_mul_of_pos_right hn (Nat.two_pow_pos 32)
    _ = 2 ^ 64 := (Nat.pow_add 2 32 32).symm

theorem hash64_zeroKey {n : ℕ} (hn : n < 2 ^ 32) : (hash64 (zeroKey n)).toNat = 0 := by
  rw [hash64, UInt32.toNat_ofNat', zeroKey_val hn, Nat.mul_mod_left]

/-- A table with the keys `zeroKey 1`, .., `zeroKey n`. -/
def Filled (n : ℕ) (t : HashMap (Fin (2 ^ 64)) Unit) : Prop :=
  ∃ M, Models hash64 t M ∧ t.total = n ∧ ∀ k ∈ M, ∃ i, 0 < i ∧ i ≤ n ∧ k = zeroKey i

section
variable {n : ℕ} {t : HashMap (Fin (2 ^ 64)) Unit}

/-- All nodes are in one bucket. -/
theorem Filled.bucket (h : Filled n t) (hn : n < 2 ^ 32) : ∃ A l B,
    Split hash64 (t.rehash hash64) (zeroKey 0) A l B ∧ l.length = n ∧
      ∀ x ∈ l, ∃ i, 0 < i ∧ i ≤ n ∧ x.key = zeroKey i := by
  obtain ⟨M, hM, htotal, hkeys⟩ := h
  have hM' := hM.rehashed
  obtain ⟨A, l, B, hs⟩ := hM'.split (zeroKey 0)
  have hmem : ∀ x ∈ l, x.key ∈ M := fun x hx => mem_key hM' (List.mem_of_getElem? hs.getElem?) hx
  refine ⟨A, l, B, hs, ?_, fun x hx => hkeys _ (hmem x hx)⟩
  have hall (x : Node (Fin (2 ^ 64)) Unit) : x ∈ l ↔ x ∈ (t.rehash hash64).entries := by
    constructor
    · exact fun hx => List.mem_flatten_of_mem (List.mem_of_getElem? hs.getElem?) hx
    · intro hx
      obtain ⟨i, -, hi, hxi⟩ := hkeys _ (Finmap.mem_of_lookup_eq_some ((hM'.holds x).2 hx))
      refine (hM'.home.mem_iff (l := l) ?_).2 hx
      have hpos := hs.pos_eq
      rw [hash64_zeroKey (Nat.two_pow_pos 32)] at hpos
      rw [hxi, hash64_zeroKey (hi.trans_lt hn), hpos]
      exact hs.getElem?
  have hnodup := List.Nodup.of_map _ hM'.keys_nodup
  have hl : l.Nodup := List.Nodup.sublist (List.sublist_flatten_of_mem (List.mem_of_getElem? hs.getElem?)) hnodup
  rw [((List.perm_ext_iff_of_nodup hl hnodup).2 hall).length_eq, ← hM'.total_eq, ← htotal]
  exact rehash_total t

theorem zeroKey_lt {i j : ℕ} (hij : i < j) (hj : j < 2 ^ 32) : zeroKey i < zeroKey j := by
  rw [Fin.lt_def, zeroKey_val (hij.trans hj), zeroKey_val hj]
  exact Nat.mul_lt_mul_of_pos_right hij (Nat.two_pow_pos 32)

/-- A larger key is appended. -/
theorem Filled.succ (h : Filled n t) (hn : n + 1 < 2 ^ 32) :
    ∃ t', set hash64 t (zeroKey (n + 1)) () = some (true, t') ∧ Filled (n + 1) t' := by
  obtain ⟨M, hM, htotal, hkeys⟩ := h
  have hlt : ∀ k ∈ M, k < zeroKey (n + 1) := by
    intro k hk
    obtain ⟨i, -, hi, rfl⟩ := hkeys k hk
    exact zeroKey_lt (Nat.lt_succ_of_le hi) hn
  have hnot : zeroKey (n + 1) ∉ M := fun hmem => lt_irrefl _ (hlt _ hmem)
  obtain ⟨t', hset, hM'⟩ := set_ret hM (hM.setFits_of_lt fun x v hx => hlt x (Finmap.mem_of_lookup_eq_some hx)) ()
  refine ⟨t', hset.trans (by rw [decide_eq_true hnot]), _, hM', ?_, fun k hk => ?_⟩
  · have hinsert : (M.insert (zeroKey (n + 1)) ()).keys = insert (zeroKey (n + 1)) M.keys := by
      ext k
      rw [Finmap.mem_keys, Finmap.mem_insert, Finset.mem_insert, Finmap.mem_keys]
    rw [(holds_of_models hM').total_eq, hinsert, Finset.card_insert_of_notMem (mt Finmap.mem_keys.1 hnot),
      ← (holds_of_models hM).total_eq, htotal]
  · rcases Finmap.mem_insert.1 hk with rfl | hk
    · exact ⟨n + 1, Nat.succ_pos n, le_rfl, rfl⟩
    · obtain ⟨i, h0, hi, rfl⟩ := hkeys k hk
      exact ⟨i, h0, Nat.le_succ_of_le hi, rfl⟩

theorem exists_filled (hn : n < 2 ^ 32) : ∃ ls s,
    Run (step hash64) (fun _ : Unit => Table.new (Fin (2 ^ 64)) Unit 0) ls s ∧ Filled n (s ()) := by
  induction n with
  | zero =>
    refine ⟨[], _, .nil _, ∅, ?_, rfl, fun k hk => absurd hk Finmap.notMem_empty⟩
    exact models_new hash64 0
  | succ n ih =>
    obtain ⟨ls, s, hrun, h⟩ := ih (Nat.lt_of_succ_lt hn)
    obtain ⟨t', hset, ht'⟩ := h.succ hn
    refine ⟨ls ++ [(.set () (zeroKey (n + 1)) (), .bool true)], Function.update s () t',
      Run.snoc_iff.2 ⟨s, hrun, ?_⟩, ?_⟩
    · rw [step, exec, hset]
      rfl
    · rwa [Function.update_self]

/-- **Not all buckets stay sorted**: after `2 ^ 31 - 1` keys with the hash 0, a smaller one. -/
theorem not_sorted : ¬∀ (ls : List (Op Unit (Fin (2 ^ 64)) Unit × Answer Unit)) s,
    Run (step hash64) (fun _ => Table.new (Fin (2 ^ 64)) Unit 0) ls s →
      ∀ l ∈ (s ()).datas, SortedBy Node.key l := by
  intro h
  obtain ⟨n, hn⟩ : ∃ n, n + 1 = 2 ^ 31 := ⟨2 ^ 31 - 1, rfl⟩
  have hn32 : n < 2 ^ 32 := by omega
  obtain ⟨ls, s, hrun, hs⟩ := exists_filled hn32
  obtain ⟨A, l, B, hsplit, hlen, hkeys⟩ := hs.bucket hn32
  obtain ⟨M, hM, -, -⟩ := hs
  have hpush : push l ⟨zeroKey 0, ()⟩ = l ++ [⟨zeroKey 0, ()⟩] := by
    have hneg : toInt32 (l.length + 1 : ℕ) < 0 := toInt32_of_ge (by omega) (by omega)
    rw [push, sortLast, if_pos (by omega)]
  have hpos : ∀ x ∈ l, zeroKey 0 < x.key := by
    intro x hx
    obtain ⟨i, h0, hi, hxi⟩ := hkeys x hx
    rw [hxi]
    exact zeroKey_lt h0 (hi.trans_lt hn32)
  have hset : set hash64 (s ()) (zeroKey 0) () =
      some (true, ((s ()).rehash hash64).put A.length (l ++ [⟨zeroKey 0, ()⟩])
        (((s ()).rehash hash64).total + 1)) := by
    have hit : binarySearch Node.key l (zeroKey 0) = l.length :=
      binarySearch_not_mem (hM.rehashed.sorted l (List.mem_of_getElem? hsplit.getElem?))
        fun x hx => (hpos x hx).ne'
    rw [set, needRehash_rehash]
    simp only [hsplit.bucket_eq, Option.bind_eq_bind, Option.bind_some]
    rw [hit, if_pos rfl, hpush]
    rfl
  have hsorted := h (ls ++ [(.set () (zeroKey 0) (), .bool true)]) _
    (Run.snoc_iff.2 ⟨s, hrun, show exec hash64 s _ = _ by rw [exec, hset]; rfl⟩)
    (l ++ [⟨zeroKey 0, ()⟩]) (by
      rw [Function.update_self, put, hsplit.datas_eq]
      simp)
  obtain ⟨x, hx⟩ := List.exists_mem_of_length_pos (l := l) (by omega)
  exact lt_asymm (hpos x hx) ((List.pairwise_append.1 hsorted).2.2 x hx _ (List.mem_singleton_self _))

end

end HashMap

end Ancfl.Ds
