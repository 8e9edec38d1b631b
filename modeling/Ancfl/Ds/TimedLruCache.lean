/-
  `TimedLruCache`: a map of iterators into a list, and the set of the iterators
  in the order of the expiry times.

  * `set`, `get`, `del`, `checkTimeout`, `prune` as in the source; the clock's
    reading is an argument; an operation that compares an iterator that is not
    in the list is undefined (`none`);
  * `Valid`: the map, the list and the set have the same keys, and the set is in
    order;
  * `set_ret` and the others: one operation keeps it, `together_of_declared`:
    any sequence of operations the class declares; `expired` is not declared.
-/
import Ancfl.Ds.LruCache
import Ancfl.Lib.OrderedSet
import Mathlib.Data.Prod.Lex
import Mathlib.Order.WithBot

namespace Ancfl.Ds

open Lib

structure TimedLruCache.Item (K V : Type) where
  key : K
  val : V
  ts : UInt64

structure TimedLruCache (K V : Type) where
  cache : Finmap fun _ : K => ℕ
  keys : List (ListNode (TimedLruCache.Item K V))
  timed : List ℕ
  maxSize : UInt64
  elasticity : UInt64
  /-- the calls of the prune callback, if it is set -/
  cb : Option (List (K × V))
  status : CacheStatus
  /-- the address of the next node -/
  next : ℕ

variable {K V : Type} [LinearOrder K]

namespace TimedLruCache

def new (K V : Type) (max_size elasticity : UInt64) (cb : Option (List (K × V))) :
    TimedLruCache K V where
  cache := ∅
  keys := []
  timed := []
  maxSize := max_size
  elasticity := elasticity
  cb := cb
  status := {}
  next := 0

/-! ## The set -/

/-- `ItemTimeOp` compares the items of two iterators by this key. -/
def timeKey (keys : List (ListNode (Item K V))) (it : ℕ) : WithBot (ℕ ×ₗ K) :=
  (deref keys it).map fun item => toLex (item.ts.toNat, item.key)

/-- The iterators can be dereferenced. -/
def Comparable (keys : List (ListNode (Item K V))) (its : List ℕ) : Prop :=
  ∀ it ∈ its, (deref keys it).isSome

instance (keys : List (ListNode (Item K V))) (its : List ℕ) : Decidable (Comparable keys its) := by
  unfold Comparable; infer_instance

/-- `m_timed.insert(it)` -/
def timedInsert (keys : List (ListNode (Item K V))) (timed : List ℕ) (it : ℕ) : Option (List ℕ) :=
  if Comparable keys (it :: timed) then some (setInsert (timeKey keys) timed it).2 else none

/-- `m_timed.erase(it)` -/
def timedErase (keys : List (ListNode (Item K V))) (timed : List ℕ) (it : ℕ) : Option (List ℕ) :=
  if Comparable keys (it :: timed) then
    some (timed.eraseIdx (setFind (timeKey keys) timed (timeKey keys it)))
  else none

/-! ## The operations -/

def size (c : TimedLruCache K V) : ℕ := c.cache.keys.card

def getMaxAllowedSize (c : TimedLruCache K V) : UInt64 := c.maxSize + c.elasticity

/-- The loop of `prune`; `back()` of an empty list is undefined. -/
def pruneLoop (c : TimedLruCache K V) (count : ℕ) : Option (ℕ × TimedLruCache K V) :=
  if c.maxSize.toNat < c.size then
    match hback : c.keys.getLast? with
    | none => none
    | some back =>
      match timedErase c.keys c.timed back.addr with
      | none => none
      | some timed =>
        pruneLoop { c with
          cb := c.cb.map (· ++ [(back.val.key, back.val.val)])
          cache := c.cache.erase back.val.key
          timed := timed
          keys := c.keys.dropLast } (count + 1)
  else some (count, c)
termination_by c.keys.length
decreasing_by
  have hne : c.keys ≠ [] := by rintro h; rw [h] at hback; cases hback
  have := List.length_pos_iff.2 hne
  rw [List.length_dropLast]
  omega

def prune (c : TimedLruCache K V) : Option (ℕ × TimedLruCache K V) := do
  if c.maxSize = 0 ∨ c.size < c.getMaxAllowedSize.toNat then return (0, c)
  else
    let (count, c) ← pruneLoop c 0
    return (count, { c with status := c.status.incPrune count })

/-- `set(k, v, expired)`; `now` is what `GetCurrentMS()` returns. -/
def set (c : TimedLruCache K V) (k : K) (v : V) (expired now : UInt64) : Option (TimedLruCache K V) := do
  let c := { c with status := c.status.incSet }
  match c.cache.lookup k with
  | some it =>
    let keys ← toFront c.keys it
    let timed ← timedErase keys c.timed it
    let keys ← assign keys it fun item => { item with val := v, ts := expired + now }
    let timed ← timedInsert keys timed it
    return { c with keys := keys, timed := timed }
  | none =>
    let keys := ⟨c.next, ⟨k, v, expired + now⟩⟩ :: c.keys
    let timed ← timedInsert keys c.timed c.next
    let (_, c) ← prune { c with
      keys := keys
      cache := c.cache.insert k c.next
      timed := timed
      next := c.next + 1 }
    return c

/-- `bool get(k, v)`: `none` if it returns `false`. -/
def get (c : TimedLruCache K V) (k : K) : Option (Option V × TimedLruCache K V) := do
  let c := { c with status := c.status.incGet }
  match c.cache.lookup k with
  | none => return (none, c)
  | some it =>
    let keys ← toFront c.keys it
    let item ← deref keys it
    return (some item.val, { c with keys := keys, status := c.status.incHit })

/-- `V get(k)` -/
def getValue [Inhabited V] (c : TimedLruCache K V) (k : K) : Option (V × TimedLruCache K V) := do
  let (v, c) ← get c k
  return (v.getD default, c)

def del (c : TimedLruCache K V) (k : K) : Option (Bool × TimedLruCache K V) := do
  let c := { c with status := c.status.incDel }
  match c.cache.lookup k with
  | none => return (false, c)
  | some it =>
    let timed ← timedErase c.keys c.timed it
    let keys ← eraseAt c.keys it
    return (true, { c with timed := timed, keys := keys, cache := c.cache.erase k })

/-- `exists(k)` -/
def existsKey (c : TimedLruCache K V) (k : K) : Bool := decide (k ∈ c.cache)

def empty (c : TimedLruCache K V) : Bool := decide (c.cache.keys = ∅)

def clear (c : TimedLruCache K V) : Bool × TimedLruCache K V :=
  (true, { c with cache := ∅, keys := [], timed := [] })

/-- The loop of `checkTimeout` over `m_timed` from its first element on; the iterator `it` is erased
    from the set as it is, without a comparison. -/
def checkLoop (ts : UInt64) : List ℕ → TimedLruCache K V → ℕ → Option (ℕ × TimedLruCache K V)
  | [], c, size => some (size, c)
  | it :: rest, c, size => do
    let item ← deref c.keys it
    if item.ts ≤ ts then
      let keys ← eraseAt c.keys it
      checkLoop ts rest { c with
        cb := c.cb.map (· ++ [(item.key, item.val)])
        cache := c.cache.erase item.key
        keys := keys
        timed := rest } (size + 1)
    else some (size, c)

def checkTimeout (c : TimedLruCache K V) (ts : UInt64) : Option (ℕ × TimedLruCache K V) :=
  checkLoop ts c.timed c 0

/-- `HashTimedLruCache::expired` calls `expired`, which the class does not declare. -/
inductive Op (K V : Type)
  | set (k : K) (v : V) (expired now : UInt64)
  | get (k : K)
  | getValue (k : K)
  | del (k : K)
  | expired (k : K) (ts : UInt64)
  | existsKey (k : K)
  | size
  | empty
  | clear
  | checkTimeout (ts : UInt64)
  | prune

inductive Answer (V : Type)
  | unit
  | found (v : Option V)
  | value (v : V)
  | bool (b : Bool)
  | nat (n : ℕ)

/-- There is no call of `expired`. -/
def exec [Inhabited V] (c : TimedLruCache K V) : Op K V → Option (Answer V × TimedLruCache K V)
  | .set k v expired now => do
    let c ← set c k v expired now
    return (.unit, c)
  | .get k => do
    let (v, c) ← get c k
    return (.found v, c)
  | .getValue k => do
    let (v, c) ← getValue c k
    return (.value v, c)
  | .del k => do
    let (b, c) ← del c k
    return (.bool b, c)
  | .expired _ _ => none
  | .existsKey k => some (.bool (existsKey c k), c)
  | .size => some (.nat (size c), c)
  | .empty => some (.bool (empty c), c)
  | .clear =>
    let (b, c) := clear c
    some (.bool b, c)
  | .checkTimeout ts => do
    let (n, c) ← checkTimeout c ts
    return (.nat n, c)
  | .prune => do
    let (n, c) ← prune c
    return (.nat n, c)

/-- The steps: an operation and its answer. -/
def step [Inhabited V] (c : TimedLruCache K V) (l : Op K V × Answer V) (c' : TimedLruCache K V) : Prop :=
  exec c l.1 = some (l.2, c')

/-! ## The indexes -/

/-- The set has the iterators of the list, once each, in the order of the expiry times. -/
structure Timed (keys : List (ListNode (Item K V))) (timed : List ℕ) : Prop where
  perm : timed.Perm (keys.map ListNode.addr)
  sorted : SortedBy (timeKey keys) timed

/-- **The map, the list and the set have the same keys, once each**, and the set is in the order of
    the expiry times. -/
structure Valid (c : TimedLruCache K V) : Prop where
  indexed : Indexed Item.key c.cache c.keys
  timed : Timed c.keys c.timed
  fresh : ∀ n ∈ c.keys, n.addr < c.next

section
variable {keys l l₁ l₂ : List (ListNode (Item K V))} {n : ListNode (Item K V)} {timed : List ℕ}
  {index : Finmap fun _ : K => ℕ}

theorem timeKey_node (h : Indexed Item.key index keys) (hn : n ∈ keys) :
    timeKey keys n.addr = ((toLex (n.val.ts.toNat, n.val.key) : ℕ ×ₗ K) : WithBot (ℕ ×ₗ K)) := by
  rw [timeKey, (deref_eq_some_iff h.addr_nodup).2 hn]
  rfl

/-- A node keeps its place among others. -/
theorem timeKey_congr {index' : Finmap fun _ : K => ℕ} {keys' : List (ListNode (Item K V))}
    (h : Indexed Item.key index keys) (h' : Indexed Item.key index' keys') (hn : n ∈ keys)
    (hn' : n ∈ keys') : timeKey keys n.addr = timeKey keys' n.addr := by
  rw [timeKey_node h hn, timeKey_node h' hn']

theorem comparable_addrs (h : Indexed Item.key index keys) {its : List ℕ}
    (hits : ∀ it ∈ its, it ∈ keys.map ListNode.addr) : Comparable keys its := by
  intro it hit
  obtain ⟨n, hn, rfl⟩ := List.mem_map.1 (hits it hit)
  rw [(deref_eq_some_iff h.addr_nodup).2 hn]
  rfl

theorem Timed.perm_keys (h : Timed keys timed) (hindexed : Indexed Item.key index keys)
    (hp : keys.Perm l) : Timed l timed := by
  refine ⟨h.perm.trans (hp.map _), h.sorted.congr fun it hit => ?_⟩
  obtain ⟨n, hn, rfl⟩ := List.mem_map.1 (h.perm.mem_iff.1 hit)
  exact timeKey_congr hindexed (hindexed.perm hp) hn (hp.mem_iff.1 hn)

/-- Nodes are dropped from the list and the set. -/
theorem Timed.drop (h : Timed keys timed) (hindexed : Indexed Item.key index keys) {index' : Finmap fun _ : K => ℕ}
    (hindexed' : Indexed Item.key index' l) (hl : ∀ m ∈ l, m ∈ keys) {its : List ℕ}
    (hperm : its.Perm (l.map ListNode.addr)) (hits : its.Sublist timed) : Timed l its := by
  refine ⟨hperm, SortedBy.congr (h.sorted.sublist hits) fun it hit => ?_⟩
  obtain ⟨m, hm, rfl⟩ := List.mem_map.1 (hperm.mem_iff.1 hit)
  exact timeKey_congr hindexed hindexed' (hl m hm) hm

/-- **A node is erased from the set.** -/
theorem Timed.erase (h : Timed (l₁ ++ n :: l₂) timed) (hindexed : Indexed Item.key index (l₁ ++ n :: l₂)) :
    ∃ its, timedErase (l₁ ++ n :: l₂) timed n.addr = some its ∧ Timed (l₁ ++ l₂) its := by
  have hn : n.addr ∈ timed := h.perm.mem_iff.2 (by simp)
  obtain ⟨a, b, rfl⟩ := List.append_of_mem hn
  have hcomp : Comparable (l₁ ++ n :: l₂) (n.addr :: (a ++ n.addr :: b)) := by
    refine comparable_addrs hindexed fun it hit => ?_
    rcases List.mem_cons.1 hit with rfl | hit
    · simp
    · exact h.perm.mem_iff.1 hit
  have hperm : (a ++ b).Perm ((l₁ ++ l₂).map ListNode.addr) := by
    have := h.perm
    rw [List.map_append, List.map_cons] at this
    rw [List.map_append]
    exact (List.perm_cons _).1 (List.perm_middle.symm.trans (this.trans List.perm_middle))
  refine ⟨a ++ b, ?_, h.drop hindexed hindexed.erase (fun m hm => ?_) hperm
    ((List.sublist_cons_self _ b).append_left a)⟩
  · rw [timedErase, if_pos hcomp, setFind_ret h.sorted, eraseIdx_append_cons]
  · rcases List.mem_append.1 hm with hm | hm
    · exact List.mem_append_left _ hm
    · exact List.mem_append_right _ (List.mem_cons_of_mem n hm)

/-- **A node is put into the set.** -/
theorem Timed.insert {index' : Finmap fun _ : K => ℕ} (h : Timed l timed)
    (hindexed : Indexed Item.key index l) (hindexed' : Indexed Item.key index' (n :: l)) :
    ∃ its, timedInsert (n :: l) timed n.addr = some its ∧ Timed (n :: l) its := by
  have hcomp : Comparable (n :: l) (n.addr :: timed) := by
    refine comparable_addrs hindexed' fun it hit => ?_
    rw [List.map_cons]
    exact List.mem_cons.2 ((List.mem_cons.1 hit).imp_right h.perm.mem_iff.1)
  have hsorted : SortedBy (timeKey (n :: l)) timed := by
    refine h.sorted.congr fun it hit => ?_
    obtain ⟨m, hm, rfl⟩ := List.mem_map.1 (h.perm.mem_iff.1 hit)
    exact timeKey_congr hindexed hindexed' hm (List.mem_cons_of_mem n hm)
  have hkey : ∀ it ∈ timed, timeKey (n :: l) it ≠ timeKey (n :: l) n.addr := by
    intro it hit heq
    obtain ⟨m, hm, rfl⟩ := List.mem_map.1 (h.perm.mem_iff.1 hit)
    rw [timeKey_node hindexed' (List.mem_cons_of_mem n hm), timeKey_node hindexed' List.mem_cons_self] at heq
    have hmn : m.val.key = n.val.key := congrArg (fun x => (ofLex x).2) (WithBot.coe_injective heq)
    exact (List.nodup_cons.1 (List.map_cons (f := fun m : ListNode (Item K V) => m.val.key) ▸
      hindexed'.key_nodup)).1 (List.mem_map.2 ⟨m, hm, hmn⟩)
  obtain ⟨a, b, rfl, hinsert, hsorted'⟩ := setInsert_ret hsorted hkey
  refine ⟨a ++ n.addr :: b, by rw [timedInsert, if_pos hcomp, hinsert], ?_, hsorted'⟩
  exact List.perm_middle.trans (h.perm.cons n.addr)

variable {c : TimedLruCache K V}

theorem valid_new (max_size elasticity : UInt64) (cb : Option (List (K × V))) :
    Valid (new K V max_size elasticity cb) :=
  ⟨indexed_nil _, ⟨.nil, .nil⟩, nofun⟩

/-- Fields that do not matter. -/
theorem Valid.congr (h : Valid c) {c' : TimedLruCache K V} (hcache : c'.cache = c.cache)
    (hkeys : c'.keys = c.keys) (htimed : c'.timed = c.timed) (hnext : c'.next = c.next) : Valid c' := by
  obtain ⟨hi, ht, hf⟩ := h
  exact ⟨by rw [hcache, hkeys]; exact hi, by rw [hkeys, htimed]; exact ht, by rw [hkeys, hnext]; exact hf⟩

/-- A node is dropped. -/
theorem Valid.erase (h : Valid c) (hkeys : c.keys = l₁ ++ n :: l₂) :
    ∃ timed, timedErase c.keys c.timed n.addr = some timed ∧
      Valid { c with cache := c.cache.erase n.val.key, keys := l₁ ++ l₂, timed := timed } := by
  obtain ⟨hindexed, htimed, hfresh⟩ := h
  rw [hkeys] at hindexed htimed hfresh ⊢
  obtain ⟨timed, herase, htimed'⟩ := htimed.erase hindexed
  refine ⟨timed, herase, hindexed.erase, htimed', fun m hm => hfresh m ?_⟩
  rcases List.mem_append.1 hm with hm | hm
  · exact List.mem_append_left _ hm
  · exact List.mem_append_right _ (List.mem_cons_of_mem n hm)

/-- A node goes to the front. -/
theorem Valid.front (h : Valid c) (hkeys : c.keys = l₁ ++ n :: l₂) :
    Valid { c with keys := n :: (l₁ ++ l₂) } := by
  have hperm : c.keys.Perm (n :: (l₁ ++ l₂)) := hkeys ▸ List.perm_middle
  exact ⟨h.indexed.perm hperm, h.timed.perm_keys h.indexed hperm,
    fun m hm => h.fresh m (hperm.mem_iff.2 hm)⟩

/-- **A node goes to the front with another value and time**; it is put into the set anew. -/
theorem Valid.assign (h : Valid c) (hkeys : c.keys = l₁ ++ n :: l₂) (v : V) (ts : UInt64) :
    ∃ its timed, timedErase (n :: (l₁ ++ l₂)) c.timed n.addr = some its ∧
      timedInsert ({ n with val := { n.val with val := v, ts := ts } } :: (l₁ ++ l₂)) its n.addr =
        some timed ∧
      Valid { c with
        keys := { n with val := { n.val with val := v, ts := ts } } :: (l₁ ++ l₂), timed := timed } := by
  have hfront := h.front hkeys
  have hindexed : Indexed Item.key c.cache ([] ++ n :: (l₁ ++ l₂)) := hfront.indexed
  obtain ⟨its, herase, h'⟩ := hfront.timed.erase hindexed
  obtain ⟨timed, hinsert, htimed⟩ :=
    h'.insert hindexed.erase (hindexed.assign (x := { n.val with val := v, ts := ts }) rfl)
  refine ⟨its, timed, herase, hinsert, hindexed.assign rfl, htimed, fun m hm => ?_⟩
  rcases List.mem_cons.1 hm with rfl | hm
  · exact hfront.fresh n List.mem_cons_self
  · exact hfront.fresh m (List.mem_cons_of_mem n hm)

/-- **A new node** is put into the map, the list and the set. -/
theorem Valid.push (h : Valid c) (item : Item K V) (hkey : item.key ∉ c.cache) :
    ∃ timed, timedInsert (⟨c.next, item⟩ :: c.keys) c.timed c.next = some timed ∧
      Valid { c with
        keys := ⟨c.next, item⟩ :: c.keys
        cache := c.cache.insert item.key c.next
        timed := timed
        next := c.next + 1 } := by
  have hindexed := h.indexed.push (n := ⟨c.next, item⟩) hkey fun m hm => (h.fresh m hm).ne
  obtain ⟨timed, hinsert, htimed⟩ := h.timed.insert h.indexed hindexed
  refine ⟨timed, hinsert, hindexed, htimed, fun m hm => ?_⟩
  rcases List.mem_cons.1 hm with rfl | hm
  · exact Nat.lt_succ_self _
  · exact (h.fresh m hm).trans (Nat.lt_succ_self _)

/-! ## The operations keep them -/

theorem get_ret (h : Valid c) (k : K) : ∃ v c', get c k = some (v, c') ∧ Valid c' := by
  rw [get]
  cases hk : c.cache.lookup k with
  | none => exact ⟨none, _, rfl, h.congr rfl rfl rfl rfl⟩
  | some it =>
    obtain ⟨l₁, n, l₂, hkeys, rfl, rfl⟩ := h.indexed.split hk
    have hfront := h.front hkeys
    have hderef : deref (n :: (l₁ ++ l₂)) n.addr = some n.val :=
      (deref_eq_some_iff hfront.indexed.addr_nodup).2 List.mem_cons_self
    have haddr := addr_ne_of_nodup (hkeys ▸ h.indexed.addr_nodup)
    simp only [hkeys, toFront_split haddr, hderef, Option.bind_eq_bind, Option.bind_some]
    exact ⟨_, _, rfl, hfront.congr rfl rfl rfl rfl⟩

theorem del_ret (h : Valid c) (k : K) : ∃ b c', del c k = some (b, c') ∧ Valid c' := by
  rw [del]
  cases hk : c.cache.lookup k with
  | none => exact ⟨false, _, rfl, h.congr rfl rfl rfl rfl⟩
  | some it =>
    obtain ⟨l₁, n, l₂, hkeys, rfl, rfl⟩ := h.indexed.split hk
    obtain ⟨timed, herase, h'⟩ := h.erase hkeys
    have haddr := addr_ne_of_nodup (hkeys ▸ h.indexed.addr_nodup)
    rw [hkeys] at herase
    simp only [hkeys, herase, eraseAt_split haddr, Option.bind_eq_bind, Option.bind_some]
    exact ⟨_, _, rfl, h'.congr rfl rfl rfl rfl⟩

theorem pruneLoop_ret : ∀ (n : ℕ) {c : TimedLruCache K V} (count : ℕ), c.keys.length = n → Valid c →
    ∃ r c', pruneLoop c count = some (r, c') ∧ Valid c'
  | n, c, count, hn, h => by
    rw [pruneLoop, size, h.indexed.card_eq]
    by_cases hlt : c.maxSize.toNat < c.keys.length
    · rw [if_pos hlt]
      obtain ⟨l, back, hl⟩ : ∃ l back, c.keys = l ++ [back] :=
        ⟨_, _, (List.dropLast_append_getLast (List.ne_nil_of_length_pos (by omega))).symm⟩
      have hback : c.keys.getLast? = some back := by rw [hl, List.getLast?_concat]
      have hdropLast : c.keys.dropLast = l := by rw [hl, List.dropLast_concat]
      have hlen : c.keys.length = l.length + 1 := by rw [hl, List.length_append, List.length_singleton]
      obtain ⟨timed, herase, h'⟩ := h.erase hl
      rw [List.append_nil] at h'
      split
      · rename_i hnone
        rw [hback] at hnone
        cases hnone
      rename_i back' hsome
      obtain rfl : back = back' := Option.some.inj (hback.symm.trans hsome)
      rw [herase, hdropLast]
      exact pruneLoop_ret l.length (count + 1) rfl (h'.congr rfl rfl rfl rfl)
    · rw [if_neg hlt]
      exact ⟨count, c, rfl, h⟩
termination_by n => n
decreasing_by omega

theorem prune_ret (h : Valid c) : ∃ r c', prune c = some (r, c') ∧ Valid c' := by
  rw [prune]
  split_ifs
  · exact ⟨0, c, rfl, h⟩
  · obtain ⟨r, c', hloop, h'⟩ := pruneLoop_ret _ 0 rfl h
    rw [hloop, Option.bind_eq_bind, Option.bind_some]
    exact ⟨_, _, rfl, h'.congr rfl rfl rfl rfl⟩

theorem set_ret (h : Valid c) (k : K) (v : V) (expired now : UInt64) :
    ∃ c', set c k v expired now = some c' ∧ Valid c' := by
  rw [set]
  cases hk : c.cache.lookup k with
  | some it =>
    obtain ⟨l₁, n, l₂, hkeys, rfl, rfl⟩ := h.indexed.split hk
    obtain ⟨its, timed, herase, hinsert, h'⟩ := h.assign hkeys v (expired + now)
    have haddr := addr_ne_of_nodup (hkeys ▸ h.indexed.addr_nodup)
    have hassign := @assign_split _ [] (l₁ ++ l₂) n (by simp)
      fun item => { item with val := v, ts := expired + now }
    rw [List.nil_append, List.nil_append] at hassign
    simp only [hkeys, toFront_split haddr, herase, hassign, hinsert, Option.bind_eq_bind, Option.bind_some]
    exact ⟨_, rfl, h'.congr rfl rfl rfl rfl⟩
  | none =>
    obtain ⟨timed, hinsert, h'⟩ :=
      h.push ⟨k, v, expired + now⟩ (Finmap.lookup_eq_none.1 hk)
    obtain ⟨r, c', hprune, hc'⟩ := prune_ret (c := { c with
      keys := ⟨c.next, ⟨k, v, expired + now⟩⟩ :: c.keys, cache := c.cache.insert k c.next,
      timed := timed, next := c.next + 1, status := c.status.incSet }) (h'.congr rfl rfl rfl rfl)
    simp only [hinsert, hprune, Option.bind_eq_bind, Option.bind_some]
    exact ⟨c', rfl, hc'⟩

/-- **`checkTimeout` drops the entries that are due.** -/
theorem checkLoop_ret (ts : UInt64) : ∀ (timed : List ℕ) {c : TimedLruCache K V} (size : ℕ),
    c.timed = timed → Valid c → ∃ c',
      checkLoop ts timed c size = some (size + (c.keys.filter fun n => n.val.ts ≤ ts).length, c') ∧
        Valid c' ∧ c'.keys = c.keys.filter fun n => ts < n.val.ts
  | [], c, size, htimed, h => by
    have hnil : c.keys = [] := by
      have := h.timed.perm
      rw [htimed, List.nil_perm, List.map_eq_nil_iff] at this
      exact this
    exact ⟨c, by rw [checkLoop, hnil]; rfl, h, by rw [hnil]; rfl⟩
  | it :: rest, c, size, htimed, h => by
    have hit : it ∈ c.keys.map ListNode.addr := h.timed.perm.mem_iff.1 (by rw [htimed]; simp)
    obtain ⟨n, hn, rfl⟩ := List.mem_map.1 hit
    rw [checkLoop, (deref_eq_some_iff h.indexed.addr_nodup).2 hn, Option.bind_eq_bind, Option.bind_some]
    by_cases hts : n.val.ts ≤ ts
    · obtain ⟨l₁, l₂, hkeys⟩ := List.append_of_mem hn
      have hindexed : Indexed Item.key c.cache (l₁ ++ n :: l₂) := hkeys ▸ h.indexed
      have hperm : rest.Perm ((l₁ ++ l₂).map ListNode.addr) := by
        have := h.timed.perm
        rw [htimed, hkeys, List.map_append, List.map_cons] at this
        rw [List.map_append]
        exact (List.perm_cons _).1 (this.trans List.perm_middle)
      have hmem : ∀ m ∈ l₁ ++ l₂, m ∈ c.keys := fun m hm =>
        (hkeys ▸ List.perm_middle : c.keys.Perm (n :: (l₁ ++ l₂))).mem_iff.2 (List.mem_cons_of_mem n hm)
      have hvalid : Valid { c with
          cb := c.cb.map (· ++ [(n.val.key, n.val.val)]), cache := c.cache.erase n.val.key,
          keys := l₁ ++ l₂, timed := rest } :=
        ⟨hindexed.erase, h.timed.drop h.indexed hindexed.erase hmem hperm
          (htimed ▸ List.sublist_cons_self _ rest), fun m hm => h.fresh m (hmem m hm)⟩
      obtain ⟨c', hloop, h', hkeys'⟩ := checkLoop_ret ts rest (size + 1) rfl hvalid
      rw [if_pos hts, hkeys, eraseAt_split (addr_ne_of_nodup hindexed.addr_nodup), Option.bind_eq_bind,
        Option.bind_some]
      refine ⟨c', hloop.trans ?_, h', hkeys'.trans ?_⟩
      · simp [hts]
        omega
      · simp [hts]
    · have hall : ∀ m ∈ c.keys, ¬ m.val.ts ≤ ts := by
        intro m hm hle
        have hmt : m.addr ∈ n.addr :: rest := htimed ▸ h.timed.perm.mem_iff.2 (List.mem_map_of_mem hm)
        rcases List.mem_cons.1 hmt with heq | hmt
        · have hmn : (⟨n.addr, m.val⟩ : ListNode (Item K V)) ∈ c.keys := heq ▸ hm
          have heq' := ((deref_eq_some_iff h.indexed.addr_nodup).2 hmn).symm.trans
            ((deref_eq_some_iff h.indexed.addr_nodup).2 hn)
          rw [Option.some.inj heq'] at hle
          exact hts hle
        · have hlt := List.rel_of_pairwise_cons (htimed ▸ h.timed.sorted) hmt
          rw [timeKey_node h.indexed hn, timeKey_node h.indexed hm, WithBot.coe_lt_coe, Prod.Lex.lt_iff] at hlt
          have hnm : n.val.ts.toNat ≤ m.val.ts.toNat := hlt.elim le_of_lt fun heq => heq.1.le
          exact hts (UInt64.le_trans (UInt64.le_iff_toNat_le.2 hnm) hle)
      rw [if_neg hts]
      refine ⟨c, ?_, h, ?_⟩
      · rw [List.filter_eq_nil_iff.2 fun m hm => by simpa using hall m hm]
        rfl
      · exact (List.filter_eq_self.2 fun m hm => by simpa using hall m hm).symm

theorem checkTimeout_ret (h : Valid c) (ts : UInt64) : ∃ c',
    checkTimeout c ts = some ((c.keys.filter fun n => n.val.ts ≤ ts).length, c') ∧ Valid c' ∧
      c'.keys = c.keys.filter fun n => ts < n.val.ts := by
  have hloop := checkLoop_ret ts c.timed 0 rfl h
  rwa [Nat.zero_add] at hloop

/-- The class declares the operation. -/
def Op.Declared : Op K V → Prop
  | .expired _ _ => False
  | _ => True

/-- **Any operation** that the class declares returns, and keeps the indexes together. -/
theorem exec_ret [Inhabited V] (h : Valid c) {op : Op K V} (hop : op.Declared) :
    ∃ a c', exec c op = some (a, c') ∧ Valid c' := by
  cases op with
  | set k v expired now =>
    obtain ⟨c', hset, h'⟩ := set_ret h k v expired now
    exact ⟨_, c', by rw [exec, hset]; rfl, h'⟩
  | get k =>
    obtain ⟨v, c', hget, h'⟩ := get_ret h k
    exact ⟨_, c', by rw [exec, hget]; rfl, h'⟩
  | getValue k =>
    obtain ⟨v, c', hget, h'⟩ := get_ret h k
    exact ⟨_, c', by rw [exec, getValue, hget]; rfl, h'⟩
  | del k =>
    obtain ⟨b, c', hdel, h'⟩ := del_ret h k
    exact ⟨_, c', by rw [exec, hdel]; rfl, h'⟩
  | expired k ts => exact hop.elim
  | existsKey k => exact ⟨_, c, rfl, h⟩
  | size => exact ⟨_, c, rfl, h⟩
  | empty => exact ⟨_, c, rfl, h⟩
  | clear => exact ⟨_, _, rfl, indexed_nil _, ⟨.nil, .nil⟩, nofun⟩
  | checkTimeout ts =>
    obtain ⟨c', hcheck, h', -⟩ := checkTimeout_ret h ts
    exact ⟨_, c', by rw [exec, hcheck]; rfl, h'⟩
  | prune =>
    obtain ⟨r, c', hprune, h'⟩ := prune_ret h
    exact ⟨_, c', by rw [exec, hprune]; rfl, h'⟩

theorem run_ret [Inhabited V] : ∀ {ops : List (Op K V)} {c : TimedLruCache K V}, Valid c →
    (∀ op ∈ ops, op.Declared) → ∃ ls c', ls.map Prod.fst = ops ∧ Run step c ls c' ∧ Valid c'
  | [], c, h, _ => ⟨[], c, rfl, .nil c, h⟩
  | op :: ops, c, h, hops => by
    obtain ⟨a, c₁, hexec, h₁⟩ := exec_ret h (hops op List.mem_cons_self)
    obtain ⟨ls, c', hls, hrun, h'⟩ := run_ret h₁ fun op' hop' => hops op' (List.mem_cons_of_mem op hop')
    exact ⟨(op, a) :: ls, c', by rw [List.map_cons, hls], .cons hexec hrun, h'⟩

/-- The operations return, with a map, a list and a set of the same keys; `checkTimeout` then drops
    the entries that are due, and returns their number. -/
def Together [Inhabited V] (c₀ : TimedLruCache K V) (ops : List (Op K V)) : Prop :=
  ∃ ls c, ls.map Prod.fst = ops ∧ Run step c₀ ls c ∧ Valid c ∧ ∀ ts, ∃ c',
    checkTimeout c ts = some ((c.keys.filter fun n => n.val.ts ≤ ts).length, c') ∧
      c'.keys = c.keys.filter fun n => ts < n.val.ts

/-- **The three indexes stay together** in any sequence of operations the class declares. -/
theorem together_of_declared [Inhabited V] (max_size elasticity : UInt64) (cb : Option (List (K × V)))
    (ops : List (Op K V)) (hops : ∀ op ∈ ops, op.Declared) :
    Together (new K V max_size elasticity cb) ops := by
  obtain ⟨ls, c, hls, hrun, h⟩ := run_ret (valid_new max_size elasticity cb) hops
  refine ⟨ls, c, hls, hrun, h, fun ts => ?_⟩
  obtain ⟨c', hcheck, -, hkeys⟩ := checkTimeout_ret h ts
  exact ⟨c', hcheck, hkeys⟩

end

/-- Two keys are set, one of them again, and the times are checked. -/
theorem together_set : Together (new ℕ ℕ 2 0 none)
    [.set 1 5 10 100, .set 2 6 20 100, .set 1 7 30 100, .checkTimeout 125] :=
  together_of_declared 2 0 none _ (by simp [Op.Declared])

/-- `expired` cannot be called. -/
theorem not_together : ¬ ∀ (max_size elasticity : UInt64) (ops : List (Op ℕ ℕ)),
    Together (new ℕ ℕ max_size elasticity none) ops := by
  intro hall
  obtain ⟨ls, c, hls, hrun, -⟩ := hall 2 0 [.expired 1 1000]
  cases hrun with
  | nil => cases hls
  | cons hstep _ =>
    obtain ⟨hop, -⟩ := List.cons.inj hls
    rw [step, hop] at hstep
    cases hstep

end TimedLruCache
end Ancfl.Ds
