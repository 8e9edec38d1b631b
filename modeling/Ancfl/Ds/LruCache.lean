/-
  `LruCache`: a map of iterators into a list, the last used keys first.

  * `set`, `get`, `del`, `existsKey`, `clear` and `prune` as in the source; `exec`
    performs an operation;
  * `Lru` is what such a cache is for: values with the time of their last use,
    and `Evicts`: the entries used last are kept;
  * `Refines`: the list and the map hold the same keys, as a state of `Lru`;
  * `set_ret` and the others: one operation, `refines_lru`: any sequence.
-/
import Ancfl.Lib.LinkedList
import Ancfl.Lib.Run

namespace Ancfl.Ds

open Lib

/-! ## The cache -/

/-- The counters are of type `int64_t`. -/
structure CacheStatus where
  get : BitVec 64 := 0
  set : BitVec 64 := 0
  del : BitVec 64 := 0
  timeout : BitVec 64 := 0
  prune : BitVec 64 := 0
  hit : BitVec 64 := 0
deriving DecidableEq

namespace CacheStatus

def incGet (s : CacheStatus) : CacheStatus := { s with get := s.get + 1 }
def incSet (s : CacheStatus) : CacheStatus := { s with set := s.set + 1 }
def incDel (s : CacheStatus) : CacheStatus := { s with del := s.del + 1 }
def incPrune (s : CacheStatus) (v : ℕ) : CacheStatus := { s with prune := s.prune + BitVec.ofNat 64 v }
def incHit (s : CacheStatus) : CacheStatus := { s with hit := s.hit + 1 }

end CacheStatus

structure LruCache (K V : Type) where
  cache : Finmap fun _ : K => ℕ
  keys : List (ListNode (K × V))
  maxSize : UInt64
  elasticity : UInt64
  /-- the calls of the prune callback, if it is set -/
  cb : Option (List (K × V))
  status : CacheStatus
  /-- the address of the next node -/
  next : ℕ

variable {K V : Type} [DecidableEq K]

namespace LruCache

def new (K V : Type) (max_size elasticity : UInt64) (cb : Option (List (K × V))) : LruCache K V where
  cache := ∅
  keys := []
  maxSize := max_size
  elasticity := elasticity
  cb := cb
  status := {}
  next := 0

def size (c : LruCache K V) : ℕ := c.cache.keys.card

def getMaxAllowedSize (c : LruCache K V) : UInt64 := c.maxSize + c.elasticity

/-- The loop of `prune`; `back()` of an empty list is undefined. -/
def pruneLoop (c : LruCache K V) (count : ℕ) : Option (ℕ × LruCache K V) :=
  if c.maxSize.toNat < c.size then
    match hback : c.keys.getLast? with
    | none => none
    | some back =>
      pruneLoop { c with
        cb := c.cb.map (· ++ [back.val])
        cache := c.cache.erase back.val.1
        keys := c.keys.dropLast } (count + 1)
  else some (count, c)
termination_by c.keys.length
decreasing_by
  have hne : c.keys ≠ [] := by rintro h; rw [h] at hback; cases hback
  have := List.length_pos_iff.2 hne
  rw [List.length_dropLast]
  omega

def prune (c : LruCache K V) : Option (ℕ × LruCache K V) := do
  if c.maxSize = 0 ∨ c.size < c.getMaxAllowedSize.toNat then return (0, c)
  else
    let (count, c) ← pruneLoop c 0
    return (count, { c with status := c.status.incPrune count })

def set (c : LruCache K V) (k : K) (v : V) : Option (LruCache K V) := do
  let c := { c with status := c.status.incSet }
  match c.cache.lookup k with
  | some it =>
    let keys ← assign c.keys it fun (key, _) => (key, v)
    let keys ← toFront keys it
    return { c with keys := keys }
  | none =>
    let (_, c) ← prune { c with
      keys := ⟨c.next, (k, v)⟩ :: c.keys
      cache := c.cache.insert k c.next
      next := c.next + 1 }
    return c

/-- `bool get(k, v)`: `none` if it returns `false`. -/
def get (c : LruCache K V) (k : K) : Option (Option V × LruCache K V) := do
  let c := { c with status := c.status.incGet }
  match c.cache.lookup k with
  | none => return (none, c)
  | some it =>
    let keys ← toFront c.keys it
    let (_, v) ← deref keys it
    return (some v, { c with keys := keys, status := c.status.incHit })

/-- `V get(k)` -/
def getValue [Inhabited V] (c : LruCache K V) (k : K) : Option (V × LruCache K V) := do
  let (v, c) ← get c k
  return (v.getD default, c)

def del (c : LruCache K V) (k : K) : Option (Bool × LruCache K V) := do
  let c := { c with status := c.status.incDel }
  match c.cache.lookup k with
  | none => return (false, c)
  | some it =>
    let keys ← eraseAt c.keys it
    return (true, { c with keys := keys, cache := c.cache.erase k })

/-- `exists(k)` -/
def existsKey (c : LruCache K V) (k : K) : Bool := decide (k ∈ c.cache)

def empty (c : LruCache K V) : Bool := decide (c.cache.keys = ∅)

def clear (c : LruCache K V) : Bool × LruCache K V := (true, { c with cache := ∅, keys := [] })

inductive Op (K V : Type)
  | set (k : K) (v : V)
  | get (k : K)
  | getValue (k : K)
  | del (k : K)
  | existsKey (k : K)
  | size
  | empty
  | clear

inductive Answer (V : Type)
  | unit
  | found (v : Option V)
  | value (v : V)
  | bool (b : Bool)
  | nat (n : ℕ)

def exec [Inhabited V] (c : LruCache K V) : Op K V → Option (Answer V × LruCache K V)
  | .set k v => do
    let c ← set c k v
    return (.unit, c)
  | .get k => do
    let (v, c) ← get c k
    return (.found v, c)
  | .getValue k => do
    let (v, c) ← getValue c k
    return (.value v, c)
  | .del k => do
    let (b, c) ← del c k
    return (.bool b, c)
  | .existsKey k => some (.bool (existsKey c k), c)
  | .size => some (.nat (size c), c)
  | .empty => some (.bool (empty c), c)
  | .clear =>
    let (b, c) := clear c
    some (.bool b, c)

/-- The steps: an operation and its answer. -/
def step [Inhabited V] (c : LruCache K V) (l : Op K V × Answer V) (c' : LruCache K V) : Prop :=
  exec c l.1 = some (l.2, c')

end LruCache

/-! ## Least recently used -/

/-- The entries with the time of their last use, and the time. -/
structure Lru (K V : Type) where
  entries : Finmap fun _ : K => V × ℕ
  clock : ℕ

/-- `N` is `M` without some entries: at most `max` are kept, those that were used last. -/
structure Evicts (max : ℕ) (M N : Finmap fun _ : K => V × ℕ) : Prop where
  kept : ∀ k e, N.lookup k = some e → M.lookup k = some e
  card_eq : N.keys.card = min max M.keys.card
  least : ∀ k e k' e', N.lookup k = some e → M.lookup k' = some e' → k' ∉ N → e'.2 < e.2

namespace Lru

/-- The entries after `set`; when a new key makes `allowed` of them, all but `max` are evicted. -/
def SetEntries (max allowed : ℕ) (s : Lru K V) (k : K) (v : V)
    (N : Finmap fun _ : K => V × ℕ) : Prop :=
  let M := s.entries.insert k (v, s.clock)
  if k ∈ s.entries ∨ M.keys.card < allowed then N = M else Evicts max M N

/-- The entries after `get`. -/
def touch (s : Lru K V) (k : K) : Finmap fun _ : K => V × ℕ :=
  match s.entries.lookup k with
  | some (v, _) => s.entries.insert k (v, s.clock)
  | none => s.entries

def step [Inhabited V] (max allowed : ℕ) (s : Lru K V) (l : LruCache.Op K V × LruCache.Answer V)
    (s' : Lru K V) : Prop :=
  s'.clock = s.clock + 1 ∧
    match l.1 with
    | .set k v => l.2 = .unit ∧ SetEntries max allowed s k v s'.entries
    | .get k => l.2 = .found ((s.entries.lookup k).map Prod.fst) ∧ s'.entries = s.touch k
    | .getValue k =>
      l.2 = .value (((s.entries.lookup k).map Prod.fst).getD default) ∧ s'.entries = s.touch k
    | .del k => l.2 = .bool (decide (k ∈ s.entries)) ∧ s'.entries = s.entries.erase k
    | .existsKey k => l.2 = .bool (decide (k ∈ s.entries)) ∧ s'.entries = s.entries
    | .size => l.2 = .nat s.entries.keys.card ∧ s'.entries = s.entries
    | .empty => l.2 = .bool (decide (s.entries.keys = ∅)) ∧ s'.entries = s.entries
    | .clear => l.2 = .bool true ∧ s'.entries = ∅

/-- The time of the last use of a key. -/
def used (s : Lru K V) (k : K) : ℕ := (s.entries.lookup k).elim 0 Prod.snd

end Lru

namespace LruCache

/-! ## Refinement -/

/-- **The list and the map hold the same keys, once each**, as the entries of `s` do; the list is in
    the order of the last use. -/
structure Refines (c : LruCache K V) (s : Lru K V) : Prop where
  indexed : Indexed Prod.fst c.cache c.keys
  fresh : ∀ n ∈ c.keys, n.addr < c.next
  value_iff : ∀ k v, (s.entries.lookup k).map Prod.fst = some v ↔ ∃ n ∈ c.keys, n.val = (k, v)
  recent : c.keys.Pairwise fun m n => s.used n.val.1 < s.used m.val.1
  used_lt : ∀ n ∈ c.keys, s.used n.val.1 < s.clock

section
variable {c : LruCache K V} {s : Lru K V} {k : K}

theorem Refines.mem_iff (h : Refines c s) : k ∈ s.entries ↔ k ∈ c.cache := by
  rw [h.indexed.mem_iff, ← Finmap.lookup_isSome, Option.isSome_iff_exists]
  constructor
  · rintro ⟨⟨v, t⟩, hk⟩
    obtain ⟨n, hn, hv⟩ := (h.value_iff k v).1 (by rw [hk]; rfl)
    exact ⟨n, hn, by rw [hv]⟩
  · rintro ⟨n, hn, rfl⟩
    have hv := (h.value_iff n.val.1 n.val.2).2 ⟨n, hn, rfl⟩
    obtain ⟨e, he, -⟩ := Option.map_eq_some_iff.1 hv
    exact ⟨e, he⟩

theorem Refines.keys_eq (h : Refines c s) : s.entries.keys = c.cache.keys := by
  ext k
  rw [Finmap.mem_keys, Finmap.mem_keys, h.mem_iff]

theorem Refines.card_eq (h : Refines c s) : s.entries.keys.card = c.keys.length := by
  rw [h.keys_eq, h.indexed.card_eq]

theorem Refines.lookup_node (h : Refines c s) {n : ListNode (K × V)} (hn : n ∈ c.keys) :
    s.entries.lookup n.val.1 = some (n.val.2, s.used n.val.1) := by
  obtain ⟨e, he, hv⟩ := Option.map_eq_some_iff.1 ((h.value_iff n.val.1 n.val.2).2 ⟨n, hn, rfl⟩)
  rw [Lru.used, he, ← hv]
  rfl

theorem refines_new (max_size elasticity : UInt64) (cb : Option (List (K × V))) :
    Refines (new K V max_size elasticity cb) ⟨∅, 0⟩ :=
  ⟨indexed_nil _, nofun, fun k v => by simp [new], .nil, nofun⟩

/-- Fields that do not matter. -/
theorem Refines.congr (h : Refines c s) {c' : LruCache K V} (hcache : c'.cache = c.cache)
    (hkeys : c'.keys = c.keys) (hnext : c'.next = c.next) : Refines c' s := by
  obtain ⟨hi, hf, hv, hr, hu⟩ := h
  exact ⟨by rw [hcache, hkeys]; exact hi, by rw [hkeys, hnext]; exact hf, by rw [hkeys]; exact hv,
    by rw [hkeys]; exact hr, by rw [hkeys]; exact hu⟩

/-- Time passes. -/
theorem Refines.tick (h : Refines c s) : Refines c ⟨s.entries, s.clock + 1⟩ :=
  ⟨h.indexed, h.fresh, h.value_iff, h.recent, fun n hn => (h.used_lt n hn).trans (Nat.lt_succ_self _)⟩

theorem used_insert (v : V) : Lru.used ⟨s.entries.insert k (v, s.clock), s.clock + 1⟩ k = s.clock := by
  rw [Lru.used, Finmap.lookup_insert]
  rfl

theorem used_insert_of_ne {k' : K} (v : V) (hk : k' ≠ k) :
    Lru.used ⟨s.entries.insert k (v, s.clock), s.clock + 1⟩ k' = s.used k' := by
  rw [Lru.used, Finmap.lookup_insert_of_ne _ hk, Lru.used]

/-- **A key is used**: its node is at the front, the nodes of the other keys follow as before. -/
theorem Refines.use {l : List (ListNode (K × V))} {n : ListNode (K × V)} {index : Finmap fun _ : K => ℕ}
    {next : ℕ} (h : Refines c s) (hindexed : Indexed Prod.fst index (n :: l))
    (hfresh : ∀ m ∈ n :: l, m.addr < next) (hl : l.Sublist c.keys)
    (hkeys : ∀ m ∈ c.keys, m.val.1 ≠ n.val.1 → m ∈ l) :
    Refines { c with cache := index, keys := n :: l, next := next }
      ⟨s.entries.insert n.val.1 (n.val.2, s.clock), s.clock + 1⟩ := by
  have hkey := (List.nodup_cons.1 (List.map_cons (f := fun m : ListNode (K × V) => m.val.1) ▸
    hindexed.key_nodup)).1
  have hne : ∀ m ∈ l, m.val.1 ≠ n.val.1 := fun m hm heq => hkey (List.mem_map.2 ⟨m, hm, heq⟩)
  have hused : ∀ m ∈ l, Lru.used ⟨s.entries.insert n.val.1 (n.val.2, s.clock), s.clock + 1⟩ m.val.1 =
      s.used m.val.1 := fun m hm => used_insert_of_ne n.val.2 (hne m hm)
  refine ⟨hindexed, hfresh, fun k v => ?_, List.pairwise_cons.2 ⟨fun m hm => ?_, ?_⟩, fun m hm => ?_⟩
  · by_cases hk : k = n.val.1
    · subst hk
      rw [Finmap.lookup_insert, Option.map_some, Option.some.injEq]
      constructor
      · rintro rfl
        exact ⟨n, List.mem_cons_self, rfl⟩
      · rintro ⟨m, hm, hv⟩
        rcases List.mem_cons.1 hm with rfl | hm
        · rw [hv]
        · exact (hne m hm (by rw [hv])).elim
    · rw [Finmap.lookup_insert_of_ne _ hk, h.value_iff]
      constructor
      · rintro ⟨m, hm, hv⟩
        exact ⟨m, List.mem_cons_of_mem n (hkeys m hm (by rw [hv]; exact hk)), hv⟩
      · rintro ⟨m, hm, hv⟩
        rcases List.mem_cons.1 hm with rfl | hm
        · exact (hk (by rw [hv])).elim
        · exact ⟨m, hl.subset hm, hv⟩
  · rw [hused m hm, used_insert]
    exact h.used_lt m (hl.subset hm)
  · refine (h.recent.sublist hl).imp_of_mem fun ha hb hlt => ?_
    rw [hused _ ha, hused _ hb]
    exact hlt
  · rcases List.mem_cons.1 hm with rfl | hm
    · rw [used_insert]
      exact Nat.lt_succ_self _
    · rw [hused m hm]
      exact (h.used_lt m (hl.subset hm)).trans (Nat.lt_succ_self _)

/-- A node that is found. -/
theorem Refines.split (h : Refines c s) {it : ℕ} (hk : c.cache.lookup k = some it) :
    ∃ l₁ n l₂, c.keys = l₁ ++ n :: l₂ ∧ n.addr = it ∧ n.val.1 = k ∧ (∀ m ∈ l₁, m.addr ≠ n.addr) ∧
      s.entries.lookup k = some (n.val.2, s.used k) := by
  obtain ⟨l₁, n, l₂, hkeys, hit, hkey⟩ := h.indexed.split hk
  refine ⟨l₁, n, l₂, hkeys, hit, hkey, addr_ne_of_nodup (hkeys ▸ h.indexed.addr_nodup), ?_⟩
  have hn := h.lookup_node (n := n) (by simp [hkeys])
  rwa [hkey] at hn

theorem Refines.lookup_none (h : Refines c s) (hk : c.cache.lookup k = none) :
    s.entries.lookup k = none :=
  Finmap.lookup_eq_none.2 fun hmem => Finmap.lookup_eq_none.1 hk (h.mem_iff.1 hmem)

/-- A node that is found goes to the front. -/
theorem Refines.useNode (h : Refines c s) {l₁ l₂ : List (ListNode (K × V))} {n : ListNode (K × V)}
    (hkeys : c.keys = l₁ ++ n :: l₂) (v : V) :
    Refines { c with keys := { n with val := (n.val.1, v) } :: (l₁ ++ l₂) }
      ⟨s.entries.insert n.val.1 (v, s.clock), s.clock + 1⟩ := by
  have hperm : c.keys.Perm (n :: (l₁ ++ l₂)) := hkeys ▸ List.perm_middle
  have hindexed : Indexed Prod.fst c.cache ([] ++ n :: (l₁ ++ l₂)) := h.indexed.perm hperm
  refine h.use (n := { n with val := (n.val.1, v) }) (hindexed.assign rfl) (fun m hm => ?_) ?_
    fun m hm hne => ?_
  · rcases List.mem_cons.1 hm with rfl | hm
    · exact h.fresh n (by simp [hkeys])
    · exact h.fresh m (hperm.mem_iff.2 (List.mem_cons_of_mem n hm))
  · rw [hkeys]
    exact (List.sublist_cons_self n l₂).append_left l₁
  · rcases List.mem_cons.1 (hperm.mem_iff.1 hm) with rfl | hm
    · exact (hne rfl).elim
    · exact hm

/-! ## Operations -/

theorem get_ret (h : Refines c s) (k : K) : ∃ c', get c k =
    some ((s.entries.lookup k).map Prod.fst, c') ∧ Refines c' ⟨s.touch k, s.clock + 1⟩ ∧
      c'.maxSize = c.maxSize ∧ c'.elasticity = c.elasticity := by
  rw [get, Lru.touch]
  dsimp only
  cases hk : c.cache.lookup k with
  | none =>
    rw [h.lookup_none hk]
    exact ⟨_, rfl, h.tick.congr rfl rfl rfl, rfl, rfl⟩
  | some it =>
    obtain ⟨l₁, n, l₂, hkeys, rfl, rfl, haddr, hlookup⟩ := h.split hk
    dsimp only
    rw [hlookup, hkeys, toFront_split haddr, Option.bind_eq_bind, Option.bind_some,
      show n :: (l₁ ++ l₂) = [] ++ n :: (l₁ ++ l₂) from rfl, deref_split (by simp), Option.bind_eq_bind,
      Option.bind_some]
    exact ⟨_, rfl, (h.useNode hkeys n.val.2).congr rfl rfl rfl, rfl, rfl⟩

/-- Some nodes are dropped. -/
theorem Refines.drop (h : Refines c s) {l : List (ListNode (K × V))} {index : Finmap fun _ : K => ℕ}
    {N : Finmap fun _ : K => V × ℕ} (hindexed : Indexed Prod.fst index l) (hl : l.Sublist c.keys)
    (hN : ∀ k, k ∈ index → N.lookup k = s.entries.lookup k) (hnone : ∀ k, k ∉ index → N.lookup k = none) :
    Refines { c with cache := index, keys := l } ⟨N, s.clock⟩ := by
  have hused : ∀ m ∈ l, Lru.used ⟨N, s.clock⟩ m.val.1 = s.used m.val.1 := fun m hm => by
    rw [Lru.used, hN _ (hindexed.mem_iff.2 ⟨m, hm, rfl⟩), Lru.used]
  refine ⟨hindexed, fun m hm => h.fresh m (hl.subset hm), fun k v => ?_, ?_, fun m hm => ?_⟩
  · by_cases hk : k ∈ index
    · rw [hN k hk, h.value_iff]
      constructor
      · rintro ⟨n, hn, hv⟩
        obtain ⟨m, hm, hkm⟩ := hindexed.mem_iff.1 hk
        have hmn := h.lookup_node (hl.subset hm)
        rw [hkm, show k = n.val.1 by rw [hv], h.lookup_node hn] at hmn
        exact ⟨m, hm, Prod.ext hkm (by rw [← (Prod.mk.inj (Option.some.inj hmn)).1, hv])⟩
      · rintro ⟨m, hm, hv⟩
        exact ⟨m, hl.subset hm, hv⟩
    · rw [hnone k hk]
      refine ⟨nofun, ?_⟩
      rintro ⟨m, hm, hv⟩
      exact (hk (hindexed.mem_iff.2 ⟨m, hm, by rw [hv]⟩)).elim
  · refine (h.recent.sublist hl).imp_of_mem fun ha hb hlt => ?_
    rw [hused _ ha, hused _ hb]
    exact hlt
  · rw [hused m hm]
    exact h.used_lt m (hl.subset hm)

theorem del_ret (h : Refines c s) (k : K) : ∃ c', del c k =
    some (decide (k ∈ s.entries), c') ∧ Refines c' ⟨s.entries.erase k, s.clock + 1⟩ ∧
      c'.maxSize = c.maxSize ∧ c'.elasticity = c.elasticity := by
  rw [del]
  dsimp only
  cases hk : c.cache.lookup k with
  | none =>
    have hmem : k ∉ s.entries := Finmap.lookup_eq_none.1 (h.lookup_none hk)
    have herase : s.entries.erase k = s.entries := by
      refine Finmap.ext_lookup fun k' => ?_
      by_cases hk' : k' = k
      · rw [hk', Finmap.lookup_erase, h.lookup_none hk]
      · rw [Finmap.lookup_erase_ne hk']
    rw [decide_eq_false hmem, herase]
    exact ⟨_, rfl, h.tick.congr rfl rfl rfl, rfl, rfl⟩
  | some it =>
    obtain ⟨l₁, n, l₂, hkeys, rfl, rfl, haddr, hlookup⟩ := h.split hk
    have hmem : n.val.1 ∈ s.entries := Finmap.mem_of_lookup_eq_some hlookup
    dsimp only
    rw [decide_eq_true hmem, hkeys, eraseAt_split haddr, Option.bind_eq_bind, Option.bind_some]
    have hindexed : Indexed Prod.fst c.cache (l₁ ++ n :: l₂) := hkeys ▸ h.indexed
    refine ⟨_, rfl, (h.tick.drop hindexed.erase ?_ (fun k' hk' => ?_) fun k' hk' => ?_).congr rfl rfl rfl,
      rfl, rfl⟩
    · rw [hkeys]
      exact (List.sublist_cons_self n l₂).append_left l₁
    · rw [Finmap.mem_erase] at hk'
      exact Finmap.lookup_erase_ne hk'.1
    · by_cases hkn : k' = n.val.1
      · rw [hkn, Finmap.lookup_erase]
      · rw [Finmap.lookup_erase_ne hkn, Finmap.lookup_eq_none, h.mem_iff]
        exact fun hmem' => hk' (Finmap.mem_erase.2 ⟨hkn, hmem'⟩)

/-! ## Pruning -/

/-- **The loop leaves the first nodes**; the callback is called for the others, the last one first. -/
theorem pruneLoop_ret : ∀ (n : ℕ) {c : LruCache K V} (count : ℕ), c.keys.length = n →
    Indexed Prod.fst c.cache c.keys → ∃ index,
      pruneLoop c count = some (count + (c.keys.length - c.maxSize.toNat), { c with
        cb := c.cb.map (· ++ ((c.keys.drop c.maxSize.toNat).reverse.map ListNode.val))
        cache := index
        keys := c.keys.take c.maxSize.toNat }) ∧
      Indexed Prod.fst index (c.keys.take c.maxSize.toNat)
  | n, c, count, hn, h => by
    rw [pruneLoop, size, h.card_eq]
    by_cases hlt : c.maxSize.toNat < c.keys.length
    · rw [if_pos hlt]
      obtain ⟨l, back, hl⟩ : ∃ l back, c.keys = l ++ [back] :=
        ⟨_, _, (List.dropLast_append_getLast (List.ne_nil_of_length_pos (by omega))).symm⟩
      have hback : c.keys.getLast? = some back := by rw [hl, List.getLast?_concat]
      have hdropLast : c.keys.dropLast = l := by rw [hl, List.dropLast_concat]
      split
      · rename_i hnone
        rw [hback] at hnone
        cases hnone
      rename_i back' hsome
      obtain rfl : back = back' := Option.some.inj (hback.symm.trans hsome)
      have hlen : c.keys.length = l.length + 1 := by rw [hl, List.length_append, List.length_singleton]
      have hindexed : Indexed Prod.fst (c.cache.erase back.val.1) l := by
        have := (hl ▸ h : Indexed Prod.fst c.cache (l ++ back :: [])).erase
        rwa [List.append_nil] at this
      rw [hdropLast]
      obtain ⟨index, hloop, hindex⟩ := pruneLoop_ret l.length
        (c := { c with
          cb := c.cb.map (· ++ [back.val]), cache := c.cache.erase back.val.1, keys := l })
        (count + 1) rfl hindexed
      have htake : c.keys.take c.maxSize.toNat = l.take c.maxSize.toNat := by
        rw [hl, List.take_append_of_le_length (by omega)]
      have hdrop : c.keys.drop c.maxSize.toNat = l.drop c.maxSize.toNat ++ [back] := by
        rw [hl, List.drop_append_of_le_length (by omega)]
      refine ⟨index, hloop.trans ?_, htake ▸ hindex⟩
      rw [htake, hdrop, hlen, List.reverse_append, Option.map_map,
        show count + 1 + (l.length - c.maxSize.toNat) = count + (l.length + 1 - c.maxSize.toNat) by omega]
      congr 4
      funext calls
      simp
    · rw [if_neg hlt, List.take_of_length_le (by omega), List.drop_of_length_le (by omega),
        Nat.sub_eq_zero_of_le (by omega)]
      refine ⟨c.cache, ?_, h⟩
      cases hcb : c.cb <;> simp [← hcb]
termination_by n => n
decreasing_by omega

theorem lookup_eraseAll (l : List (ListNode (K × V))) (M : Finmap fun _ : K => V × ℕ) (k : K) :
    (l.foldl (fun M n => M.erase n.val.1) M).lookup k =
      if ∃ n ∈ l, n.val.1 = k then none else M.lookup k := by
  induction l generalizing M with
  | nil => simp
  | cons n l ih =>
    rw [List.foldl_cons, ih]
    by_cases hk : k = n.val.1
    · subst hk
      rw [Finmap.lookup_erase, if_pos (c := ∃ m ∈ n :: l, m.val.1 = n.val.1) ⟨n, by simp, rfl⟩, ite_self]
    · rw [Finmap.lookup_erase_ne hk]
      simp [Ne.symm hk]

/-- **Only the entries used last are kept** by the first nodes. -/
theorem Refines.evict (h : Refines c s) {max : ℕ} {index : Finmap fun _ : K => ℕ}
    (hindexed : Indexed Prod.fst index (c.keys.take max)) :
    ∃ N, Evicts max s.entries N ∧
      Refines { c with cache := index, keys := c.keys.take max } ⟨N, s.clock⟩ := by
  set N := (c.keys.drop max).foldl (fun M n => M.erase n.val.1) s.entries with hNdef
  have hrecent := h.recent
  have hnodup := h.indexed.key_nodup
  rw [← List.take_append_drop max c.keys] at hrecent hnodup
  rw [List.map_append] at hnodup
  have hlookup (k : K) : N.lookup k =
      if ∃ n ∈ c.keys.drop max, n.val.1 = k then none else s.entries.lookup k :=
    lookup_eraseAll (c.keys.drop max) s.entries k
  have hdrop : Refines { c with cache := index, keys := c.keys.take max } ⟨N, s.clock⟩ := by
    refine h.drop hindexed (List.take_sublist max c.keys) (fun k hk => ?_) fun k hk => ?_
    · obtain ⟨m, hm, rfl⟩ := hindexed.mem_iff.1 hk
      rw [hlookup, if_neg]
      rintro ⟨n, hn, hnm⟩
      exact (List.nodup_append.1 hnodup).2.2 _ (List.mem_map_of_mem hm) _
        (List.mem_map_of_mem (f := fun n : ListNode (K × V) => n.val.1) hn) hnm.symm
    · rw [hlookup]
      split_ifs with hex
      · rfl
      · rw [Finmap.lookup_eq_none, h.mem_iff, h.indexed.mem_iff]
        rintro ⟨n, hn, rfl⟩
        rcases List.mem_append.1 ((List.take_append_drop max c.keys).symm ▸ hn) with hn | hn
        · exact hk (hindexed.mem_iff.2 ⟨n, hn, rfl⟩)
        · exact hex ⟨n, hn, rfl⟩
  have hkept : ∀ k e, N.lookup k = some e → s.entries.lookup k = some e := by
    intro k e he
    rw [hlookup] at he
    split_ifs at he
    exact he
  refine ⟨N, ⟨hkept, ?_, fun k e k' e' he he' hk' => ?_⟩, hdrop⟩
  · rw [hdrop.card_eq, h.card_eq, List.length_take]
  · obtain ⟨m, hm, rfl⟩ := hindexed.mem_iff.1 (hdrop.mem_iff.1 (Finmap.mem_of_lookup_eq_some he))
    obtain ⟨n, hn, rfl⟩ := h.indexed.mem_iff.1 (h.mem_iff.1 (Finmap.mem_of_lookup_eq_some he'))
    have hout : n ∈ c.keys.drop max := by
      rcases List.mem_append.1 ((List.take_append_drop max c.keys).symm ▸ hn) with hn | hn
      · exact (hk' (hdrop.mem_iff.2 (hindexed.mem_iff.2 ⟨n, hn, rfl⟩))).elim
      · exact hn
    have hlt := (List.pairwise_append.1 hrecent).2.2 m hm n hout
    rw [Lru.used, Lru.used, he', hkept _ _ he] at hlt
    exact hlt

theorem prune_ret (h : Refines c s) (hmax : c.maxSize ≠ 0) : ∃ r c' N, prune c = some (r, c') ∧
    Refines c' ⟨N, s.clock⟩ ∧ c'.maxSize = c.maxSize ∧ c'.elasticity = c.elasticity ∧
      if s.entries.keys.card < c.getMaxAllowedSize.toNat then N = s.entries
      else Evicts c.maxSize.toNat s.entries N := by
  rw [prune, size, h.keys_eq]
  by_cases hlt : c.cache.keys.card < c.getMaxAllowedSize.toNat
  · rw [if_pos (.inr hlt)]
    exact ⟨0, c, s.entries, rfl, h, rfl, rfl, (if_pos hlt).mpr rfl⟩
  · rw [if_neg (not_or.2 ⟨hmax, hlt⟩)]
    obtain ⟨index, hloop, hindexed⟩ := pruneLoop_ret _ 0 rfl h.indexed
    obtain ⟨N, hN, hrefines⟩ := h.evict hindexed
    rw [hloop, Option.bind_eq_bind, Option.bind_some]
    exact ⟨_, _, N, rfl, hrefines.congr rfl rfl rfl, rfl, rfl, (if_neg hlt).mpr hN⟩

theorem set_ret (h : Refines c s) (hmax : c.maxSize ≠ 0) (k : K) (v : V) : ∃ c' N,
    set c k v = some c' ∧ Refines c' ⟨N, s.clock + 1⟩ ∧ c'.maxSize = c.maxSize ∧
      c'.elasticity = c.elasticity ∧
        s.SetEntries c.maxSize.toNat c.getMaxAllowedSize.toNat k v N := by
  rw [set]
  cases hk : c.cache.lookup k with
  | some it =>
    obtain ⟨l₁, n, l₂, hkeys, rfl, rfl, haddr, hlookup⟩ := h.split hk
    have hmem : n.val.1 ∈ s.entries := Finmap.mem_of_lookup_eq_some hlookup
    have haddr' : ∀ m ∈ l₁, m.addr ≠ ({ n with val := (n.val.1, v) } : ListNode (K × V)).addr := haddr
    dsimp only
    rw [hkeys, assign_split haddr, Option.bind_eq_bind, Option.bind_some]
    rw [toFront_split haddr', Option.bind_some]
    exact ⟨_, _, rfl, (h.useNode hkeys v).congr rfl rfl rfl, rfl, rfl, (if_pos (.inl hmem)).mpr rfl⟩
  | none =>
    have hmem : k ∉ c.cache := Finmap.lookup_eq_none.1 hk
    have hpush : Indexed Prod.fst (c.cache.insert k c.next) (⟨c.next, (k, v)⟩ :: c.keys) :=
      h.indexed.push (n := ⟨c.next, (k, v)⟩) hmem fun m hm => (h.fresh m hm).ne
    have hnew := h.use hpush (fun m hm => (?_ : m.addr < c.next + 1)) (List.Sublist.refl c.keys)
      fun m hm _ => hm
    · obtain ⟨r, c', N, hprune, hrefines, hmax', helast, hN⟩ := prune_ret (c := { c with
          keys := ⟨c.next, (k, v)⟩ :: c.keys, cache := c.cache.insert k c.next, next := c.next + 1,
          status := c.status.incSet }) (hnew.congr rfl rfl rfl) hmax
      dsimp only at hprune ⊢
      rw [hprune, Option.bind_eq_bind, Option.bind_some]
      refine ⟨c', N, rfl, hrefines, hmax', helast, ?_⟩
      by_cases hfits : (s.entries.insert k (v, s.clock)).keys.card < c.getMaxAllowedSize.toNat
      · exact (if_pos (.inr hfits)).mpr ((if_pos hfits).mp hN)
      · exact (if_neg (not_or.2 ⟨fun hk' => hmem (h.mem_iff.1 hk'), hfits⟩)).mpr ((if_neg hfits).mp hN)
    · rcases List.mem_cons.1 hm with rfl | hm
      · exact Nat.lt_succ_self _
      · exact (h.fresh m hm).trans (Nat.lt_succ_self _)

/-! ## Runs -/

/-- The most entries there are after pruning. -/
def bound (max elasticity : ℕ) : ℕ := if elasticity = 0 then max else max + elasticity - 1

theorem keys_insert {M : Finmap fun _ : K => V × ℕ} {e : V × ℕ} :
    (M.insert k e).keys = insert k M.keys := by
  ext k'
  rw [Finmap.mem_keys, Finmap.mem_insert, Finset.mem_insert, Finmap.mem_keys]

theorem card_touch (s : Lru K V) (k : K) : (s.touch k).keys.card = s.entries.keys.card := by
  rw [Lru.touch]
  split
  · rename_i v t hk
    rw [keys_insert, Finset.insert_eq_of_mem (Finmap.mem_keys.2 (Finmap.mem_of_lookup_eq_some hk))]
  · rfl

theorem card_setEntries {max e allowed : ℕ} (hallowed : allowed ≤ max + e) {v : V}
    {N : Finmap fun _ : K => V × ℕ} (hN : s.SetEntries max allowed k v N)
    (hs : s.entries.keys.card ≤ bound max e) : N.keys.card ≤ bound max e := by
  unfold Lru.SetEntries at hN
  dsimp only at hN
  unfold bound at hs ⊢
  split_ifs at hN with hfits
  · rcases hfits with hk | hfits
    · rw [hN, keys_insert, Finset.insert_eq_of_mem (Finmap.mem_keys.2 hk)]
      exact hs
    · rw [hN]
      split_ifs <;> omega
  · rw [hN.card_eq]
    split_ifs <;> omega

/-- **An operation keeps the bound.** -/
theorem card_step [Inhabited V] {max e allowed : ℕ} (hallowed : allowed ≤ max + e)
    {l : LruCache.Op K V × LruCache.Answer V} {s' : Lru K V} (hstep : s.step max allowed l s')
    (hs : s.entries.keys.card ≤ bound max e) : s'.entries.keys.card ≤ bound max e := by
  obtain ⟨op, a⟩ := l
  obtain ⟨-, hstep⟩ := hstep
  cases op with
  | set k v => exact card_setEntries hallowed hstep.2 hs
  | get k => rw [hstep.2, card_touch]; exact hs
  | getValue k => rw [hstep.2, card_touch]; exact hs
  | del k =>
    rw [hstep.2, Finmap.keys_erase]
    exact (Finset.card_erase_le).trans hs
  | existsKey k => rw [hstep.2]; exact hs
  | size => rw [hstep.2]; exact hs
  | empty => rw [hstep.2]; exact hs
  | clear => rw [hstep.2, Finmap.keys_empty]; exact Nat.zero_le _

/-- **Any operation** returns, with the answer of an LRU cache. -/
theorem exec_ret [Inhabited V] (h : Refines c s) (hmax : c.maxSize ≠ 0) (op : LruCache.Op K V) :
    ∃ a c' s', exec c op = some (a, c') ∧
      s.step c.maxSize.toNat c.getMaxAllowedSize.toNat (op, a) s' ∧ Refines c' s' ∧
        c'.maxSize = c.maxSize ∧ c'.elasticity = c.elasticity := by
  cases op with
  | set k v =>
    obtain ⟨c', N, hset, h', hm, he, hN⟩ := set_ret h hmax k v
    exact ⟨_, c', ⟨N, s.clock + 1⟩, by rw [exec, hset]; rfl, ⟨rfl, rfl, hN⟩, h', hm, he⟩
  | get k =>
    obtain ⟨c', hget, h', hm, he⟩ := get_ret h k
    exact ⟨_, c', _, by rw [exec, hget]; rfl, ⟨rfl, rfl, rfl⟩, h', hm, he⟩
  | getValue k =>
    obtain ⟨c', hget, h', hm, he⟩ := get_ret h k
    exact ⟨_, c', _, by rw [exec, getValue, hget]; rfl, ⟨rfl, rfl, rfl⟩, h', hm, he⟩
  | del k =>
    obtain ⟨c', hdel, h', hm, he⟩ := del_ret h k
    exact ⟨_, c', _, by rw [exec, hdel]; rfl, ⟨rfl, rfl, rfl⟩, h', hm, he⟩
  | existsKey k =>
    refine ⟨_, c, ⟨s.entries, s.clock + 1⟩, rfl, ⟨rfl, ?_, rfl⟩, h.tick, rfl, rfl⟩
    rw [existsKey, decide_eq_decide.2 h.mem_iff.symm]
  | size =>
    refine ⟨_, c, ⟨s.entries, s.clock + 1⟩, rfl, ⟨rfl, ?_, rfl⟩, h.tick, rfl, rfl⟩
    rw [size, h.keys_eq]
  | empty =>
    refine ⟨_, c, ⟨s.entries, s.clock + 1⟩, rfl, ⟨rfl, ?_, rfl⟩, h.tick, rfl, rfl⟩
    rw [empty, h.keys_eq]
  | clear =>
    refine ⟨_, _, ⟨∅, s.clock + 1⟩, rfl, ⟨rfl, rfl, rfl⟩, ?_, rfl, rfl⟩
    exact ⟨indexed_nil _, nofun, fun k v => by simp, .nil, nofun⟩

/-- The states of a run: the operations return, and answer as an LRU cache. -/
theorem run_ret [Inhabited V] {max e : UInt64} (hmax : max ≠ 0) :
    ∀ (ops : List (LruCache.Op K V)) {c : LruCache K V} {s : Lru K V}, Refines c s → c.maxSize = max →
      c.elasticity = e → s.entries.keys.card ≤ bound max.toNat e.toNat → ∃ ls c' s',
        ls.map Prod.fst = ops ∧ Run step c ls c' ∧
          Run (Lru.step max.toNat (max + e).toNat) s ls s' ∧ Refines c' s' ∧
            c'.keys.length ≤ bound max.toNat e.toNat
  | [], c, s, h, _, _, hb => ⟨[], c, s, rfl, .nil c, .nil s, h, h.card_eq ▸ hb⟩
  | op :: ops, c, s, h, hm, he, hb => by
    obtain ⟨a, c₁, s₁, hexec, hstep, h₁, hm₁, he₁⟩ := exec_ret h (hm ▸ hmax) op
    rw [LruCache.getMaxAllowedSize, hm, he] at hstep
    have hallowed : (max + e).toNat ≤ max.toNat + e.toNat := by
      rw [UInt64.toNat_add]
      exact Nat.mod_le _ _
    obtain ⟨ls, c', s', hls, hrun, hrun', h', hb'⟩ :=
      run_ret hmax ops h₁ (hm₁.trans hm) (he₁.trans he) (card_step hallowed hstep hb)
    exact ⟨(op, a) :: ls, c', s', by rw [List.map_cons, hls], .cons hexec hrun, .cons hstep hrun', h', hb'⟩

/-- **`LruCache` is an LRU cache**: any operations return, with the answers of `Lru`; the list and the
    map hold the keys of its entries, and no more of them than the bound. -/
theorem refines_lru [Inhabited V] {max elasticity : UInt64} (hmax : 0 < max)
    (cb : Option (List (K × V))) (ops : List (LruCache.Op K V)) : ∃ ls c s,
      ls.map Prod.fst = ops ∧ Run step (new K V max elasticity cb) ls c ∧
        Run (Lru.step max.toNat (max + elasticity).toNat) ⟨∅, 0⟩ ls s ∧ Refines c s ∧
          c.keys.length ≤ bound max.toNat elasticity.toNat := by
  have hzero : (∅ : Finmap fun _ : K => V × ℕ).keys.card ≤ bound max.toNat elasticity.toNat := by
    rw [Finmap.keys_empty]
    exact Nat.zero_le _
  exact run_ret (UInt64.ne_of_lt hmax).symm ops (refines_new max elasticity cb) rfl rfl hzero

/-- The second of two keys is kept. -/
theorem refines_lru_two : ∃ ls c s, ls.map Prod.fst = [.set 1 5, .set 2 6, .get 1] ∧
    Run step (new ℕ ℕ 1 0 none) ls c ∧
      Run (Lru.step (1 : UInt64).toNat ((1 : UInt64) + 0).toNat) ⟨∅, 0⟩ ls s ∧ Refines c s ∧
        c.keys.length ≤ bound (1 : UInt64).toNat (0 : UInt64).toNat :=
  refines_lru (by decide) none _

end

end LruCache
end Ancfl.Ds
