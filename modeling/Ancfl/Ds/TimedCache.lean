/-
  `TimedCache`: the set of the items in the order of their expiry times, and a
  map of iterators into it.

  * `set`, `get`, `del`, `expired`, `checkTimeout`, `prune` as in the source; the
    clock's reading is an argument, `none` is undefined behaviour;
  * `Timed` is what such a cache is for: values with their expiry times, of
    which a timeout drops those that are due;
  * `Valid`: the map and the set have the same keys, once each;
  * `Fresh`: a `set` of a key that is there, or a call of `expired`, changes
    neither the value nor the time;
  * `refines_timed`: the cache is a `Timed` one in a run of such calls, as long
    as there is room for the keys.
-/
import Ancfl.Ds.LruCache
import Ancfl.Lib.OrderedSet
import Mathlib.Data.Prod.Lex

namespace Ancfl.Ds

open Lib

structure TimedCache.Item (K V : Type) where
  key : K
  val : V
  ts : UInt64
deriving DecidableEq

structure TimedCache (K V : Type) where
  cache : Finmap fun _ : K => ℕ
  /-- the nodes of the set in their order; an iterator is the address of a node -/
  timed : List (ListNode (TimedCache.Item K V))
  maxSize : UInt64
  elasticity : UInt64
  /-- the calls of the prune callback, if it is set -/
  cb : Option (List (K × V))
  status : CacheStatus
  /-- the address of the next node -/
  next : ℕ

variable {K V : Type} [LinearOrder K]

namespace TimedCache

def new (K V : Type) (max_size elasticity : UInt64) (cb : Option (List (K × V))) : TimedCache K V where
  cache := ∅
  timed := []
  maxSize := max_size
  elasticity := elasticity
  cb := cb
  status := {}
  next := 0

/-! ## The operations -/

/-- `Item::operator<` compares by this key. -/
def timeKey (n : ListNode (Item K V)) : ℕ ×ₗ K := toLex (n.val.ts.toNat, n.val.key)

/-- `m_timed.insert(item)`: the iterator to the item, or to the one with its time and key, and the
    set. -/
def timedInsert (timed : List (ListNode (Item K V))) (n : ListNode (Item K V)) :
    Option (ℕ × List (ListNode (Item K V))) := do
  let (it, timed) := setInsert timeKey timed n
  return ((← timed[it]?).addr, timed)

def size (c : TimedCache K V) : ℕ := c.cache.keys.card

def getMaxAllowedSize (c : TimedCache K V) : UInt64 := c.maxSize + c.elasticity

/-- The loop of `prune`, on the items from `begin()` on; there has to be one. -/
def pruneLoop : List (ListNode (Item K V)) → TimedCache K V → ℕ → Option (ℕ × TimedCache K V)
  | [], c, count => if c.maxSize.toNat < c.size then none else some (count, c)
  | it :: rest, c, count =>
    if c.maxSize.toNat < c.size then
      pruneLoop rest { c with
        cb := c.cb.map (· ++ [(it.val.key, it.val.val)])
        cache := c.cache.erase it.val.key
        timed := rest } (count + 1)
    else some (count, c)

def prune (c : TimedCache K V) : Option (ℕ × TimedCache K V) := do
  if c.maxSize = 0 ∨ c.size < c.getMaxAllowedSize.toNat then return (0, c)
  else
    let (count, c) ← pruneLoop c.timed c 0
    return (count, { c with status := c.status.incPrune count })

/-- `set(k, v, expired)`; `now` is what `GetCurrentMS()` returns. -/
def set (c : TimedCache K V) (k : K) (v : V) (expired now : UInt64) : Option (TimedCache K V) := do
  let c := { c with status := c.status.incSet }
  let cache := if k ∈ c.cache then c.cache.erase k else c.cache
  let (it, timed) ← timedInsert c.timed ⟨c.next, ⟨k, v, expired + now⟩⟩
  let (_, c) ← prune { c with cache := cache.insert k it, timed := timed, next := c.next + 1 }
  return c

/-- `bool get(k, v)`: `none` if it returns `false`. -/
def get (c : TimedCache K V) (k : K) : Option (Option V × TimedCache K V) := do
  let c := { c with status := c.status.incGet }
  match c.cache.lookup k with
  | none => return (none, c)
  | some it =>
    let item ← deref c.timed it
    return (some item.val, { c with status := c.status.incHit })

/-- `V get(k)` -/
def getValue [Inhabited V] (c : TimedCache K V) (k : K) : Option (V × TimedCache K V) := do
  let (v, c) ← get c k
  return (v.getD default, c)

/-- `del(k)`: the function ends without a `return` when it has dropped the key. -/
def del (c : TimedCache K V) (k : K) : Option (Option Bool × TimedCache K V) := do
  let c := { c with status := c.status.incDel }
  match c.cache.lookup k with
  | none => return (some false, c)
  | some it =>
    let timed ← eraseAt c.timed it
    return (none, { c with timed := timed, cache := c.cache.erase k, status := c.status.incHit })

/-- `expired(k, ts)`: the item that is inserted again is the one that was there. -/
def expired (c : TimedCache K V) (k : K) (ts now : UInt64) : Option (Bool × TimedCache K V) := do
  match c.cache.lookup k with
  | none => return (false, c)
  | some it =>
    let tts := ts + now
    let item ← deref c.timed it
    if item.ts = tts then return (true, c)
    else
      let timed ← eraseAt c.timed it
      let (iit, timed) ← timedInsert timed ⟨c.next, item⟩
      return (true, { c with cache := c.cache.insert k iit, timed := timed, next := c.next + 1 })

/-- `exists(k)` -/
def existsKey (c : TimedCache K V) (k : K) : Bool := decide (k ∈ c.cache)

def empty (c : TimedCache K V) : Bool := decide (c.cache.keys = ∅)

def clear (c : TimedCache K V) : Bool × TimedCache K V := (true, { c with cache := ∅, timed := [] })

/-- The loop of `checkTimeout`, on the items from `begin()` on. -/
def checkLoop (ts : UInt64) :
    List (ListNode (Item K V)) → TimedCache K V → ℕ → ℕ × TimedCache K V
  | [], c, size => (size, c)
  | it :: rest, c, size =>
    if it.val.ts ≤ ts then
      checkLoop ts rest { c with
        cb := c.cb.map (· ++ [(it.val.key, it.val.val)])
        cache := c.cache.erase it.val.key
        timed := rest } (size + 1)
    else (size, c)

def checkTimeout (c : TimedCache K V) (ts : UInt64) : ℕ × TimedCache K V := checkLoop ts c.timed c 0

inductive Op (K V : Type)
  | set (k : K) (v : V) (expired now : UInt64)
  | get (k : K)
  | getValue (k : K)
  | del (k : K)
  | expired (k : K) (ts now : UInt64)
  | existsKey (k : K)
  | size
  | empty
  | clear
  | checkTimeout (ts : UInt64)

inductive Answer (V : Type)
  | unit
  | found (v : Option V)
  | value (v : V)
  | bool (b : Bool)
  | nat (n : ℕ)
  /-- nothing is returned where a value should be -/
  | missing
deriving DecidableEq

def exec [Inhabited V] (c : TimedCache K V) : Op K V → Option (Answer V × TimedCache K V)
  | .set k v expired now => do
    let c ← set c k v expired now
    return (.unit, c)
  | .get k => do
    let (v, c) ← get c k
    return (.found v, c)
  | .getValue k => do
    let (v, c) ← getValue c k
    return (.value v, c)
  | .del k => do
    let (b, c) ← del c k
    return (b.elim .missing .bool, c)
  | .expired k ts now => do
    let (b, c) ← expired c k ts now
    return (.bool b, c)
  | .existsKey k => some (.bool (existsKey c k), c)
  | .size => some (.nat (size c), c)
  | .empty => some (.bool (empty c), c)
  | .clear =>
    let (b, c) := clear c
    some (.bool b, c)
  | .checkTimeout ts =>
    let (n, c) := checkTimeout c ts
    some (.nat n, c)

/-- The steps: an operation and its answer. -/
def step [Inhabited V] (c : TimedCache K V) (l : Op K V × Answer V) (c' : TimedCache K V) : Prop :=
  exec c l.1 = some (l.2, c')

/-! ## What the cache is for -/

/-- The value of a key, and the time at which it expires. -/
abbrev Timed (K V : Type) := K → Option (V × UInt64)

/-- One operation.  The last value set is found until a timeout that is not before its time. -/
def Timed.step [Inhabited V] (a : Timed K V) (l : Op K V × Answer V) (a' : Timed K V) : Prop :=
  match l.1 with
  | .set k v expired now => a' = Function.update a k (some (v, expired + now))
  | .get k => l.2 = .found ((a k).map Prod.fst) ∧ a' = a
  | .getValue k => l.2 = .value (((a k).map Prod.fst).getD default) ∧ a' = a
  | .del k => a' = Function.update a k none
  | .expired k ts now =>
    l.2 = .bool (a k).isSome ∧ a' = Function.update a k ((a k).map fun e => (e.1, ts + now))
  | .existsKey k => l.2 = .bool (a k).isSome ∧ a' = a
  | .size | .empty => a' = a
  | .clear => a' = fun _ => none
  | .checkTimeout ts => a' = fun k => (a k).filter fun e => ts < e.2

/-- The time index holds exactly one entry for each key in the map. -/
structure OneEach (c : TimedCache K V) : Prop where
  nodup : (c.timed.map fun n => n.val.key).Nodup
  mem_iff : ∀ k, k ∈ c.cache ↔ ∃ n ∈ c.timed, n.val.key = k

/-- A key that is there is set to the same value and time, or given the same time. -/
def Fresh (c : TimedCache K V) : Op K V → Prop
  | .set k v expired now => ∀ n ∈ c.timed, n.val.key = k → n.val.val = v ∧ n.val.ts = expired + now
  | .expired k ts now => ∀ n ∈ c.timed, n.val.key = k → n.val.ts = ts + now
  | _ => True

/-- The capacity is not reached. -/
def Room (c : TimedCache K V) : Op K V → Prop
  | .set k _ _ _ => c.maxSize = 0 ∨ (insert k c.cache.keys).card < c.getMaxAllowedSize.toNat
  | _ => True

/-! ## The indexes -/

/-- **The map and the set have the same keys, once each**, and the set is in order. -/
structure Valid (c : TimedCache K V) : Prop where
  indexed : Indexed Item.key c.cache c.timed
  sorted : SortedBy timeKey c.timed
  fresh : ∀ n ∈ c.timed, n.addr < c.next

/-- The items of the set are the values of `a`. -/
def Holds (c : TimedCache K V) (a : Timed K V) : Prop :=
  ∀ k v ts, a k = some (v, ts) ↔ ∃ n ∈ c.timed, n.val = ⟨k, v, ts⟩

section
variable {c c' : TimedCache K V} {a : Timed K V} {l₁ l₂ : List (ListNode (Item K V))}
  {n : ListNode (Item K V)} {k : K}

theorem Valid.oneEach (h : Valid c) : OneEach c := ⟨h.indexed.key_nodup, fun _ => h.indexed.mem_iff⟩

theorem valid_new (max_size elasticity : UInt64) (cb : Option (List (K × V))) :
    Valid (new K V max_size elasticity cb) :=
  ⟨indexed_nil _, .nil, nofun⟩

/-- Fields that do not matter. -/
theorem Valid.congr (h : Valid c) (hcache : ∀ k, c'.cache.lookup k = c.cache.lookup k)
    (htimed : c'.timed = c.timed) (hnext : c.next ≤ c'.next) : Valid c' where
  indexed := by
    rw [htimed]
    exact ⟨h.indexed.addr_nodup, h.indexed.key_nodup, fun k it => by rw [hcache, h.indexed.lookup_iff]⟩
  sorted := by rw [htimed]; exact h.sorted
  fresh n hn := (h.fresh n (htimed ▸ hn)).trans_le hnext

/-- An item is dropped. -/
theorem Valid.erase (h : Valid c) (htimed : c.timed = l₁ ++ n :: l₂) :
    Valid { c with cache := c.cache.erase n.val.key, timed := l₁ ++ l₂ } := by
  obtain ⟨hindexed, hsorted, hfresh⟩ := h
  rw [htimed] at hindexed hsorted hfresh
  have hsub : (l₁ ++ l₂).Sublist (l₁ ++ n :: l₂) := (List.sublist_cons_self n l₂).append_left l₁
  exact ⟨hindexed.erase, hsorted.sublist hsub, fun m hm => hfresh m (hsub.subset hm)⟩

/-- **A new key** is put into the set and the map. -/
theorem Valid.insert (h : Valid c) (item : Item K V) (hkey : item.key ∉ c.cache) :
    ∃ l₁ l₂, c.timed = l₁ ++ l₂ ∧
      timedInsert c.timed ⟨c.next, item⟩ = some (c.next, l₁ ++ ⟨c.next, item⟩ :: l₂) ∧
      Valid { c with
        cache := c.cache.insert item.key c.next
        timed := l₁ ++ ⟨c.next, item⟩ :: l₂
        next := c.next + 1 } := by
  have hne : ∀ m ∈ c.timed, timeKey m ≠ timeKey ⟨c.next, item⟩ := fun m hm heq =>
    hkey (h.indexed.mem_iff.2 ⟨m, hm, congrArg (fun x => (ofLex x).2) heq⟩)
  obtain ⟨l₁, l₂, htimed, hinsert, hsorted⟩ := setInsert_ret h.sorted hne
  refine ⟨l₁, l₂, htimed, ?_, ?_, hsorted, fun m hm => ?_⟩
  · rw [timedInsert, hinsert]
    simp
  · have hpush := h.indexed.push (n := ⟨c.next, item⟩) hkey fun m hm => (h.fresh m hm).ne
    exact hpush.perm (htimed ▸ List.perm_middle.symm)
  · rcases List.mem_cons.1 (List.perm_middle.mem_iff.1 hm) with rfl | hm
    · exact Nat.lt_succ_self _
    · exact (h.fresh m (htimed ▸ hm)).trans (Nat.lt_succ_self _)

/-! ## What the cache holds -/

omit [LinearOrder K] in
theorem Holds.congr (h : Holds c a) (htimed : c'.timed = c.timed) : Holds c' a := by
  intro k v ts
  rw [h, htimed]

omit [LinearOrder K] in
theorem Holds.node (h : Holds c a) (hn : n ∈ c.timed) : a n.val.key = some (n.val.val, n.val.ts) :=
  (h _ _ _).2 ⟨n, hn, rfl⟩

theorem Holds.absent (h : Holds c a) (hc : Valid c) (hk : k ∉ c.cache) : a k = none := by
  by_contra hne
  obtain ⟨⟨v, ts⟩, hv⟩ := Option.ne_none_iff_exists'.1 hne
  obtain ⟨n, hn, hval⟩ := (h k v ts).1 hv
  exact hk (hc.indexed.mem_iff.2 ⟨n, hn, by rw [hval]⟩)

omit [LinearOrder K] in
/-- An item of another key is one of the rest. -/
theorem mem_middle_iff {item : Item K V} (hne : item ≠ n.val) :
    (∃ m ∈ l₁ ++ n :: l₂, m.val = item) ↔ ∃ m ∈ l₁ ++ l₂, m.val = item := by
  constructor
  · rintro ⟨m, hm, rfl⟩
    rcases List.mem_cons.1 (List.perm_middle.mem_iff.1 hm) with rfl | hm
    · exact (hne rfl).elim
    · exact ⟨m, hm, rfl⟩
  · rintro ⟨m, hm, rfl⟩
    exact ⟨m, List.perm_middle.mem_iff.2 (List.mem_cons_of_mem n hm), rfl⟩

theorem Holds.erase (h : Holds c a) (hc : Valid c) (htimed : c.timed = l₁ ++ n :: l₂)
    (htimed' : c'.timed = l₁ ++ l₂) : Holds c' (Function.update a n.val.key none) := by
  intro k v ts
  rw [htimed']
  by_cases hk : k = n.val.key
  · subst hk
    rw [Function.update_self]
    refine ⟨nofun, ?_⟩
    rintro ⟨m, hm, hval⟩
    have hindexed := hc.indexed
    rw [htimed] at hindexed
    have hnot : n.val.key ∉ c.cache.erase n.val.key := Finmap.notMem_erase_self
    exact (hnot (hindexed.erase.mem_iff.2 ⟨m, hm, by rw [hval]⟩)).elim
  · have hne : (⟨k, v, ts⟩ : Item K V) ≠ n.val := fun heq => hk (congrArg Item.key heq)
    rw [Function.update_of_ne hk, h, htimed, mem_middle_iff hne]

theorem Holds.insert (h : Holds c a) (hc : Valid c) (it : ℕ) (item : Item K V)
    (hkey : item.key ∉ c.cache) (htimed : c.timed = l₁ ++ l₂)
    (htimed' : c'.timed = l₁ ++ ⟨it, item⟩ :: l₂) :
    Holds c' (Function.update a item.key (some (item.val, item.ts))) := by
  intro k v ts
  rw [htimed']
  by_cases hk : k = item.key
  · subst hk
    rw [Function.update_self]
    constructor
    · intro heq
      cases heq
      exact ⟨⟨it, item⟩, by simp, rfl⟩
    · rintro ⟨m, hm, hval⟩
      rcases List.mem_cons.1 (List.perm_middle.mem_iff.1 hm) with rfl | hm
      · rw [show item = ⟨item.key, v, ts⟩ from hval]
      · exact (hkey (hc.indexed.mem_iff.2 ⟨m, htimed ▸ hm, by rw [hval]⟩)).elim
  · have hne : (⟨k, v, ts⟩ : Item K V) ≠ item := fun heq => hk (congrArg Item.key heq)
    rw [Function.update_of_ne hk, h, htimed]
    exact (mem_middle_iff (n := ⟨it, item⟩) hne).symm

/-! ## The operations -/

theorem pruneLoop_ret : ∀ (timed : List (ListNode (Item K V))) {c : TimedCache K V} (count : ℕ),
    c.timed = timed → Valid c → ∃ r c', pruneLoop timed c count = some (r, c') ∧ Valid c'
  | [], c, count, htimed, h => by
    have hsize : c.size = 0 := by rw [size, h.indexed.card_eq, htimed]; rfl
    exact ⟨count, c, by rw [pruneLoop, if_neg (by omega)], h⟩
  | n :: rest, c, count, htimed, h => by
    rw [pruneLoop]
    split_ifs
    · have herase := @Valid.erase K V _ c [] rest n h htimed
      exact pruneLoop_ret rest (count + 1) rfl (herase.congr (fun _ => rfl) rfl le_rfl)
    · exact ⟨count, c, rfl, h⟩

theorem prune_ret (h : Valid c) : ∃ r c', prune c = some (r, c') ∧ Valid c' ∧
    (c.maxSize = 0 ∨ c.size < c.getMaxAllowedSize.toNat → c' = c) := by
  rw [prune]
  split_ifs with hroom
  · exact ⟨0, c, rfl, h, fun _ => rfl⟩
  · obtain ⟨r, c', hloop, h'⟩ := pruneLoop_ret c.timed 0 rfl h
    rw [hloop, Option.bind_eq_bind, Option.bind_some]
    exact ⟨_, _, rfl, h'.congr (fun _ => rfl) rfl le_rfl, fun hr => (hroom hr).elim⟩

theorem size_insert (it : ℕ) : (c.cache.insert k it).keys.card = (insert k c.cache.keys).card := by
  congr 1
  ext x
  rw [Finmap.mem_keys, Finmap.mem_insert, Finset.mem_insert, Finmap.mem_keys]

/-- **`set`** of a new key, or of one with that value and time. -/
theorem set_ret (h : Valid c) (ha : Holds c a) {v : V} {expired now : UInt64}
    (hfresh : Fresh c (.set k v expired now)) : ∃ c', set c k v expired now = some c' ∧ Valid c' ∧
      (Room c (.set k v expired now) → Holds c' (Function.update a k (some (v, expired + now)))) := by
  by_cases hk : k ∈ c.cache
  · -- the set has the item already
    obtain ⟨it, hit⟩ := Option.isSome_iff_exists.1 (Finmap.lookup_isSome.2 hk)
    obtain ⟨l₁, n, l₂, htimed, rfl, hkey⟩ := h.indexed.split hit
    have hn : n ∈ c.timed := by rw [htimed]; simp
    obtain ⟨hv, hts⟩ := hfresh n hn hkey
    have hinsert : timedInsert c.timed ⟨c.next, ⟨k, v, expired + now⟩⟩ = some (n.addr, c.timed) := by
      have hsorted := h.sorted
      rw [htimed] at hsorted ⊢
      rw [timedInsert, setInsert_mem hsorted (by rw [timeKey, timeKey, hkey, hts])]
      simp
    have hlookup (k' : K) : ((c.cache.erase k).insert k n.addr).lookup k' = c.cache.lookup k' := by
      by_cases hk' : k' = k
      · rw [hk', Finmap.lookup_insert, hit]
      · rw [Finmap.lookup_insert_of_ne _ hk', Finmap.lookup_erase_ne hk']
    have hc : Valid { c with
        status := c.status.incSet
        cache := (c.cache.erase k).insert k n.addr
        next := c.next + 1 } := h.congr hlookup rfl (Nat.le_succ _)
    obtain ⟨r, c', hprune, hc', hroom⟩ := prune_ret hc
    refine ⟨c', ?_, hc', fun hr => ?_⟩
    · rw [set]
      simp only [if_pos hk, hinsert, Option.bind_eq_bind, Option.bind_some, hprune]
      rfl
    · have hsame : Function.update a k (some (v, expired + now)) = a := by
        rw [← hv, ← hts, ← hkey, ← ha.node hn, Function.update_eq_self]
      rw [hsame, hroom (hr.imp_right fun hlt => ?_)]
      · exact ha.congr rfl
      · have hkeys : ((c.cache.erase k).insert k n.addr).keys = insert k c.cache.keys := by
          ext x
          rw [Finmap.mem_keys, Finmap.mem_insert, Finset.mem_insert, Finmap.mem_keys, Finmap.mem_erase]
          tauto
        show ((c.cache.erase k).insert k n.addr).keys.card < c.getMaxAllowedSize.toNat
        rw [hkeys]
        exact hlt
  · obtain ⟨l₁, l₂, htimed, hinsert, hvalid⟩ := h.insert ⟨k, v, expired + now⟩ hk
    have hc : Valid { c with
        status := c.status.incSet
        cache := c.cache.insert k c.next
        timed := l₁ ++ ⟨c.next, ⟨k, v, expired + now⟩⟩ :: l₂
        next := c.next + 1 } := hvalid.congr (fun _ => rfl) rfl le_rfl
    obtain ⟨r, c', hprune, hc', hroom⟩ := prune_ret hc
    refine ⟨c', ?_, hc', fun hr => ?_⟩
    · rw [set]
      simp only [if_neg hk, hinsert, Option.bind_eq_bind, Option.bind_some, hprune]
      rfl
    · rw [hroom (hr.imp_right fun hlt => by rw [size, size_insert]; exact hlt)]
      exact ha.insert h c.next ⟨k, v, expired + now⟩ hk htimed rfl

theorem get_ret (h : Valid c) (ha : Holds c a) (k : K) : ∃ c', get c k = some ((a k).map Prod.fst, c') ∧
    Valid c' ∧ Holds c' a := by
  rw [get]
  cases hk : c.cache.lookup k with
  | none =>
    rw [ha.absent h (Finmap.lookup_eq_none.1 hk)]
    exact ⟨_, rfl, h.congr (fun _ => rfl) rfl le_rfl, ha.congr rfl⟩
  | some it =>
    obtain ⟨l₁, n, l₂, htimed, rfl, rfl⟩ := h.indexed.split hk
    have hn : n ∈ c.timed := by rw [htimed]; simp
    rw [ha.node hn]
    simp only [(deref_eq_some_iff h.indexed.addr_nodup).2 hn, Option.bind_eq_bind, Option.bind_some]
    exact ⟨_, rfl, h.congr (fun _ => rfl) rfl le_rfl, ha.congr rfl⟩

theorem del_ret (h : Valid c) (ha : Holds c a) (k : K) : ∃ b c', del c k = some (b, c') ∧ Valid c' ∧
    Holds c' (Function.update a k none) := by
  rw [del]
  cases hk : c.cache.lookup k with
  | none =>
    have hsame : Function.update a k none = a := by
      rw [← ha.absent h (Finmap.lookup_eq_none.1 hk), Function.update_eq_self]
    rw [hsame]
    exact ⟨_, _, rfl, h.congr (fun _ => rfl) rfl le_rfl, ha.congr rfl⟩
  | some it =>
    obtain ⟨l₁, n, l₂, htimed, rfl, rfl⟩ := h.indexed.split hk
    have haddr := addr_ne_of_nodup (htimed ▸ h.indexed.addr_nodup)
    simp only [htimed, eraseAt_split haddr, Option.bind_eq_bind, Option.bind_some]
    exact ⟨_, _, rfl, (h.erase htimed).congr (fun _ => rfl) rfl le_rfl, ha.erase h htimed rfl⟩

/-- **`expired`** of a key that has the time already, or of none. -/
theorem expired_ret (h : Valid c) (ha : Holds c a) {ts now : UInt64}
    (hfresh : Fresh c (.expired k ts now)) : expired c k ts now = some ((a k).isSome, c) ∧
      Function.update a k ((a k).map fun e => (e.1, ts + now)) = a := by
  rw [expired]
  cases hk : c.cache.lookup k with
  | none =>
    rw [ha.absent h (Finmap.lookup_eq_none.1 hk)]
    refine ⟨rfl, ?_⟩
    rw [Option.map_none, ← ha.absent h (Finmap.lookup_eq_none.1 hk), Function.update_eq_self]
  | some it =>
    obtain ⟨l₁, n, l₂, htimed, rfl, rfl⟩ := h.indexed.split hk
    have hn : n ∈ c.timed := by rw [htimed]; simp
    have hts := hfresh n hn rfl
    simp only [(deref_eq_some_iff h.indexed.addr_nodup).2 hn, hts, Option.bind_eq_bind, Option.bind_some,
      if_true]
    rw [ha.node hn]
    refine ⟨rfl, ?_⟩
    rw [Option.map_some, ← hts, ← ha.node hn, Function.update_eq_self]

/-- **`checkTimeout`** drops the items that are due. -/
theorem checkLoop_ret (ts : UInt64) : ∀ (timed : List (ListNode (Item K V))) {c : TimedCache K V}
    {a : Timed K V} (size : ℕ), c.timed = timed → Valid c → Holds c a →
    Valid (checkLoop ts timed c size).2 ∧
      Holds (checkLoop ts timed c size).2 fun k => (a k).filter fun e => ts < e.2
  | [], c, a, size, htimed, h, ha => by
    refine ⟨h, ?_⟩
    have hnone : a = fun _ => none := by
      funext k
      refine ha.absent h fun hk => ?_
      obtain ⟨n, hn, -⟩ := h.indexed.mem_iff.1 hk
      rw [htimed] at hn
      cases hn
    intro k v t
    rw [hnone, show (checkLoop ts [] c size).2 = c from rfl, htimed]
    simp
  | n :: rest, c, a, size, htimed, h, ha => by
    rw [checkLoop]
    split_ifs with hdue
    · have herase := @Valid.erase K V _ c [] rest n h htimed
      have hc : Valid { c with
        cb := c.cb.map (· ++ [(n.val.key, n.val.val)])
        cache := c.cache.erase n.val.key
        timed := rest } := herase.congr (fun _ => rfl) rfl le_rfl
      obtain ⟨hvalid, hholds⟩ := checkLoop_ret ts rest (size + 1) rfl hc
        (@Holds.erase K V _ c _ a [] rest n ha h htimed rfl)
      refine ⟨hvalid, ?_⟩
      have hsame : (fun k => (Function.update a n.val.key none k).filter fun e => ts < e.2) =
          fun k => (a k).filter fun e => ts < e.2 := by
        funext k
        by_cases hk : k = n.val.key
        · rw [hk, Function.update_self, ha.node (by rw [htimed]; simp)]
          exact (if_neg (by simpa using hdue)).symm
        · rw [Function.update_of_ne hk]
      rwa [hsame] at hholds
    · -- the items after this one are not due either
      refine ⟨h, ?_⟩
      have hlater : ∀ m ∈ c.timed, ts < m.val.ts := by
        intro m hm
        have hn : ts < n.val.ts := UInt64.not_le.1 hdue
        rw [htimed] at hm
        rcases List.mem_cons.1 hm with rfl | hm
        · exact hn
        · have hsorted := h.sorted
          rw [htimed] at hsorted
          have hlt := List.rel_of_pairwise_cons hsorted hm
          have hle : n.val.ts.toNat ≤ m.val.ts.toNat := by
            rcases Prod.Lex.lt_iff.1 hlt with hlt | ⟨heq, -⟩
            · exact hlt.le
            · exact heq.le
          exact UInt64.lt_iff_toNat_lt.2 ((UInt64.lt_iff_toNat_lt.1 hn).trans_le hle)
      have hsame : (fun k => (a k).filter fun e => ts < e.2) = a := by
        funext k
        cases hk : a k with
        | none => rfl
        | some e =>
          obtain ⟨m, hm, hval⟩ := (ha k e.1 e.2).1 hk
          have := hlater m hm
          rw [hval] at this
          simp [this]
      rw [hsame]
      exact ha

/-- One operation that is fresh: it returns, and keeps the indexes; as long as there is room, it is
    one of the abstract cache. -/
theorem exec_ret [Inhabited V] (h : Valid c) (ha : Holds c a) {op : Op K V} (hfresh : Fresh c op) :
    ∃ x c' a', exec c op = some (x, c') ∧ Valid c' ∧ Timed.step a (op, x) a' ∧
      (Room c op → Holds c' a') := by
  have hisSome (k : K) : (a k).isSome = decide (k ∈ c.cache) := by
    by_cases hk : k ∈ c.cache
    · obtain ⟨n, hn, rfl⟩ := h.indexed.mem_iff.1 hk
      rw [ha.node hn, decide_eq_true hk]
      rfl
    · rw [ha.absent h hk, decide_eq_false hk]
      rfl
  cases op with
  | set k v expired now =>
    obtain ⟨c', hset, h', ha'⟩ := set_ret h ha hfresh
    exact ⟨.unit, c', _, by rw [exec, hset]; rfl, h', rfl, ha'⟩
  | get k =>
    obtain ⟨c', hget, h', ha'⟩ := get_ret h ha k
    exact ⟨_, c', a, by rw [exec, hget]; rfl, h', ⟨rfl, rfl⟩, fun _ => ha'⟩
  | getValue k =>
    obtain ⟨c', hget, h', ha'⟩ := get_ret h ha k
    exact ⟨_, c', a, by rw [exec, getValue, hget]; rfl, h', ⟨rfl, rfl⟩, fun _ => ha'⟩
  | del k =>
    obtain ⟨b, c', hdel, h', ha'⟩ := del_ret h ha k
    exact ⟨_, c', _, by rw [exec, hdel]; rfl, h', rfl, fun _ => ha'⟩
  | expired k ts now =>
    obtain ⟨hexpired, hsame⟩ := expired_ret h ha hfresh
    exact ⟨_, c, a, by rw [exec, hexpired]; rfl, h, ⟨rfl, hsame.symm⟩, fun _ => ha⟩
  | existsKey k => exact ⟨_, c, a, rfl, h, ⟨by rw [hisSome]; rfl, rfl⟩, fun _ => ha⟩
  | size => exact ⟨_, c, a, rfl, h, rfl, fun _ => ha⟩
  | empty => exact ⟨_, c, a, rfl, h, rfl, fun _ => ha⟩
  | clear =>
    refine ⟨_, _, _, rfl, ⟨indexed_nil _, .nil, nofun⟩, rfl, fun _ k v ts => ?_⟩
    simp
  | checkTimeout ts =>
    obtain ⟨h', ha'⟩ := checkLoop_ret ts c.timed 0 rfl h ha
    exact ⟨_, _, _, rfl, h', rfl, fun _ => ha'⟩

/-- The contents of the cache as values with their times. -/
def contents (c : TimedCache K V) : Timed K V := fun k =>
  (c.timed.find? fun n => n.val.key = k).map fun n => (n.val.val, n.val.ts)

theorem holds_contents (h : Valid c) : Holds c (contents c) := by
  intro k v ts
  have hnodup := h.indexed.key_nodup
  constructor
  · intro hk
    obtain ⟨n, hn, hval⟩ := Option.map_eq_some_iff.1 hk
    have hkey : n.val.key = k := by simpa using List.find?_some hn
    cases hval
    exact ⟨n, List.mem_of_find?_eq_some hn, by rw [← hkey]⟩
  · rintro ⟨n, hn, hval⟩
    cases hfind : c.timed.find? fun n => n.val.key = k with
    | none =>
      have := List.find?_eq_none.1 hfind n hn
      rw [hval] at this
      exact absurd rfl (of_decide_eq_false (Bool.eq_false_iff.2 this))
    | some m =>
      have hm := List.mem_of_find?_eq_some hfind
      have hkey : m.val.key = k := by simpa using List.find?_some hfind
      have hmn : m = n := List.inj_on_of_nodup_map hnodup hm hn (by rw [hkey, hval])
      rw [contents, hfind, hmn, Option.map_some, hval]

theorem run_valid [Inhabited V] {ls : List (Op K V × Answer V)} (h : Valid c)
    (hrun : Run (fun c l c' => Fresh c l.1 ∧ step c l c') c ls c') : Valid c' := by
  refine hrun.invariant (fun c l c' h hs => ?_) h
  obtain ⟨x, c₁, a', hexec, h', -⟩ := exec_ret h (holds_contents h) hs.1
  have hstep : exec c l.1 = some (l.2, c') := hs.2
  cases hexec.symm.trans hstep
  exact h'

theorem run_timed [Inhabited V] {ls : List (Op K V × Answer V)} (h : Valid c) (ha : Holds c a)
    (hrun : Run (fun c l c' => Fresh c l.1 ∧ Room c l.1 ∧ step c l c') c ls c') :
    ∃ a', Run Timed.step a ls a' ∧ Valid c' ∧ Holds c' a' := by
  refine hrun.simulates (R := fun c a => Valid c ∧ Holds c a) (fun c a l c' hR hs => ?_) ⟨h, ha⟩
  obtain ⟨x, c₁, a', hexec, h', hstep', ha'⟩ := exec_ret hR.1 hR.2 hs.1
  have hstep : exec c l.1 = some (l.2, c') := hs.2.2
  cases hexec.symm.trans hstep
  exact ⟨a', hstep', h', ha' hs.2.1⟩

end

end TimedCache
end Ancfl.Ds
