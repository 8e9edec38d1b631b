/-
  `HashLruCache`: an `LruCache` for each bucket of the keys.

  * the buckets share `m_status`; `exec` performs an operation;
  * `proj`: what the cache of a bucket sees of an operation and its answer;
  * `bucketStep`: a step of one of the caches, whatever `m_status` is;
  * `refines_buckets`: in any sequence of operations each bucket is an LRU cache
    of its own keys, and they all keep to their bounds.
-/
import Ancfl.Ds.LruCache
import Ancfl.Lib.Family
import Mathlib.Algebra.BigOperators.Fin
import Mathlib.Algebra.Order.BigOperators.Group.Finset

namespace Ancfl.Ds

open Lib

variable {K V : Type} [DecidableEq K] {bucket : ℕ}

/-- `m_bucket` is the number `bucket` of the caches; `m_maxSize` and `m_elasticity` are for the getters
    only. -/
structure HashLruCache (K V : Type) (bucket : ℕ) where
  m_datas : Fin bucket → LruCache K V
  m_maxSize : UInt64
  m_elasticity : UInt64
  m_status : CacheStatus

namespace HashLruCache

/-- `std::ceil(v * 1.0 / m_bucket)`, as it is for sizes below 2^53. -/
def perBucket (bucket : ℕ) (v : UInt64) : UInt64 := UInt64.ofNat ((v.toNat + bucket - 1) / bucket)

/-- With the prune callback, if it is set. -/
def new (K V : Type) (bucket : ℕ) (max_size elasticity : UInt64) (cb : Option (List (K × V))) :
    HashLruCache K V bucket where
  m_datas := fun _ => .new K V (perBucket bucket max_size) (perBucket bucket elasticity) cb
  m_maxSize := perBucket bucket max_size * UInt64.ofNat bucket
  m_elasticity := perBucket bucket elasticity * UInt64.ofNat bucket
  m_status := {}

def size (c : HashLruCache K V bucket) : ℕ := ((List.finRange bucket).map fun i => (c.m_datas i).size).sum

def empty (c : HashLruCache K V bucket) : Bool := (List.finRange bucket).all fun i => (c.m_datas i).empty

def clear (c : HashLruCache K V bucket) : HashLruCache K V bucket :=
  { c with m_datas := fun i => (c.m_datas i).clear.2 }

variable [Inhabited V] [NeZero bucket] (m_hash : K → UInt64)

/-- `m_hash(k) % m_bucket` -/
def indexOf (bucket : ℕ) [NeZero bucket] (k : K) : Fin bucket := Fin.ofNat bucket (m_hash k).toNat

/-- An operation on the cache of a bucket. -/
def onBucket (c : HashLruCache K V bucket) (i : Fin bucket) (op : LruCache.Op K V) :
    Option (LruCache.Answer V × HashLruCache K V bucket) := do
  let (a, d) ← LruCache.exec { c.m_datas i with status := c.m_status } op
  return (a, { c with m_datas := Function.update c.m_datas i d, m_status := d.status })

def exec (c : HashLruCache K V bucket) (op : LruCache.Op K V) :
    Option (LruCache.Answer V × HashLruCache K V bucket) :=
  match op with
  | .set k _ | .get k | .getValue k | .del k | .existsKey k => c.onBucket (indexOf m_hash bucket k) op
  | .size => some (.nat c.size, c)
  | .empty => some (.bool c.empty, c)
  | .clear => some (.unit, c.clear)

def step (c : HashLruCache K V bucket) (l : LruCache.Op K V × LruCache.Answer V)
    (c' : HashLruCache K V bucket) : Prop := exec m_hash c l.1 = some (l.2, c')

/-! ## Buckets -/

/-- What the cache of the bucket `i` sees of an operation. -/
def proj (l : LruCache.Op K V × LruCache.Answer V) (i : Fin bucket) :
    Option (LruCache.Op K V × LruCache.Answer V) :=
  match l.1 with
  | .set k _ | .get k | .getValue k | .del k | .existsKey k => if indexOf m_hash bucket k = i then some l else none
  | .size | .empty => none
  | .clear => some (.clear, .bool true)

/-- A step of one cache; the counters are not its own. -/
def bucketStep (c : LruCache K V) (l : LruCache.Op K V × LruCache.Answer V) (c' : LruCache K V) : Prop :=
  ∃ status, LruCache.step { c with status := status } l c'

variable {m_hash} {c c' : HashLruCache K V bucket}

/-- An operation on a bucket is one of a family of caches. -/
theorem family_of_onBucket {op : LruCache.Op K V} {a : LruCache.Answer V} {k : K}
    (hproj : ∀ i : Fin bucket, proj m_hash (op, a) i = if indexOf m_hash bucket k = i then some (op, a) else none)
    (h : c.onBucket (indexOf m_hash bucket k) op = some (a, c')) :
    Family bucketStep (proj m_hash) c.m_datas (op, a) c'.m_datas := by
  obtain ⟨⟨a', d⟩, hexec, h⟩ := Option.bind_eq_some_iff.1 h
  obtain ⟨rfl, rfl⟩ := Prod.mk.inj (Option.some.inj h)
  exact Family.update hproj ⟨c.m_status, hexec⟩

theorem family_of_step {l : LruCache.Op K V × LruCache.Answer V} (h : step m_hash c l c') :
    Family bucketStep (proj m_hash) c.m_datas l c'.m_datas := by
  obtain ⟨op, a⟩ := l
  cases op with
  | set k v => exact family_of_onBucket (fun _ => rfl) h
  | get k => exact family_of_onBucket (fun _ => rfl) h
  | getValue k => exact family_of_onBucket (fun _ => rfl) h
  | del k => exact family_of_onBucket (fun _ => rfl) h
  | existsKey k => exact family_of_onBucket (fun _ => rfl) h
  | size =>
    obtain ⟨-, rfl⟩ := Prod.mk.inj (Option.some.inj h)
    exact Family.stay fun _ => rfl
  | empty =>
    obtain ⟨-, rfl⟩ := Prod.mk.inj (Option.some.inj h)
    exact Family.stay fun _ => rfl
  | clear =>
    obtain ⟨-, rfl⟩ := Prod.mk.inj (Option.some.inj h)
    exact fun i => ⟨(c.m_datas i).status, rfl⟩

/-- The cache of a bucket with the bounds `max` and `e`, and an LRU cache that has the same entries. -/
structure Bounded (max e : UInt64) (c : LruCache K V) (s : Lru K V) : Prop where
  refines : LruCache.Refines c s
  maxSize_eq : c.maxSize = max
  elasticity_eq : c.elasticity = e
  card_le : s.entries.keys.card ≤ LruCache.bound max.toNat e.toNat

omit [Inhabited V] in
theorem bounded_new (max e : UInt64) (cb : Option (List (K × V))) : Bounded max e (.new K V max e cb) ⟨∅, 0⟩ := by
  refine ⟨LruCache.refines_new max e cb, rfl, rfl, ?_⟩
  rw [Finmap.keys_empty]
  exact Nat.zero_le _

/-- An operation on the cache of a bucket returns, and is one of an LRU cache. -/
theorem Bounded.exec_ret {max e : UInt64} {d : LruCache K V} {s : Lru K V} (h : Bounded max e d s) (hmax : max ≠ 0)
    (status : CacheStatus) (op : LruCache.Op K V) : ∃ a d' s',
      LruCache.exec { d with status := status } op = some (a, d') ∧
        Lru.step max.toNat (max + e).toNat s (op, a) s' ∧ Bounded max e d' s' := by
  obtain ⟨hrefines, hm, he, hcard⟩ := h
  have hstatus : LruCache.Refines { d with status := status } s :=
    hrefines.congr rfl rfl rfl
  obtain ⟨a, d', s', hexec, hstep, hrefines', hm', he'⟩ := LruCache.exec_ret hstatus (hm ▸ hmax) op
  rw [LruCache.getMaxAllowedSize, hm, he] at hstep
  have hallowed : (max + e).toNat ≤ max.toNat + e.toNat := by
    rw [UInt64.toNat_add]
    exact Nat.mod_le _ _
  exact ⟨a, d', s', hexec, hstep, hrefines', hm'.trans hm, he'.trans he, LruCache.card_step hallowed hstep hcard⟩

theorem Bounded.step {max e : UInt64} {d d' : LruCache K V} {s : Lru K V} (h : Bounded max e d s) (hmax : max ≠ 0)
    {l : LruCache.Op K V × LruCache.Answer V} (hstep : bucketStep d l d') :
    ∃ s', Lru.step max.toNat (max + e).toNat s l s' ∧ Bounded max e d' s' := by
  obtain ⟨status, hexec⟩ := hstep
  obtain ⟨a, d₁, s', hexec', hlru, h'⟩ := h.exec_ret hmax status l.1
  obtain ⟨rfl, rfl⟩ := Prod.mk.inj (Option.some.inj (hexec.symm.trans hexec'))
  exact ⟨s', hlru, h'⟩

/-- Any operation returns. -/
theorem exec_total {max e : UInt64} (hmax : max ≠ 0) (h : ∀ i, ∃ s, Bounded max e (c.m_datas i) s)
    (op : LruCache.Op K V) : ∃ a c', exec m_hash c op = some (a, c') := by
  have hbucket (i : Fin bucket) (op : LruCache.Op K V) : ∃ a c', c.onBucket i op = some (a, c') := by
    obtain ⟨s, hs⟩ := h i
    obtain ⟨a, d, -, hexec, -⟩ := hs.exec_ret hmax c.m_status op
    exact ⟨a, _, by rw [onBucket, hexec]; rfl⟩
  cases op with
  | set k v => exact hbucket _ _
  | get k => exact hbucket _ _
  | getValue k => exact hbucket _ _
  | del k => exact hbucket _ _
  | existsKey k => exact hbucket _ _
  | size => exact ⟨_, _, rfl⟩
  | empty => exact ⟨_, _, rfl⟩
  | clear => exact ⟨_, _, rfl⟩

/-- The buckets keep to their bounds in a step. -/
theorem bounded_of_step {max e : UInt64} (hmax : max ≠ 0) {l : LruCache.Op K V × LruCache.Answer V}
    (h : ∀ i, ∃ s, Bounded max e (c.m_datas i) s) (hstep : step m_hash c l c') :
    ∀ i, ∃ s, Bounded max e (c'.m_datas i) s := by
  intro i
  have hi := family_of_step hstep i
  obtain ⟨s, hs⟩ := h i
  cases hproj : proj m_hash l i with
  | none =>
    rw [hproj] at hi
    exact ⟨s, hi ▸ hs⟩
  | some k =>
    rw [hproj] at hi
    obtain ⟨s', -, hs'⟩ := hs.step hmax hi
    exact ⟨s', hs'⟩

theorem run_total {max e : UInt64} (hmax : max ≠ 0) : ∀ (ops : List (LruCache.Op K V)) {c : HashLruCache K V bucket},
    (∀ i, ∃ s, Bounded max e (c.m_datas i) s) → ∃ ls c', ls.map Prod.fst = ops ∧ Run (step m_hash) c ls c'
  | [], c, _ => ⟨[], c, rfl, .nil c⟩
  | op :: ops, c, h => by
    obtain ⟨a, c₁, hexec⟩ : ∃ a c₁, exec m_hash c op = some (a, c₁) := exec_total hmax h op
    have hstep : step m_hash c (op, a) c₁ := hexec
    obtain ⟨ls, c', hls, hrun⟩ := run_total hmax ops (bounded_of_step hmax h hstep)
    exact ⟨(op, a) :: ls, c', by rw [List.map_cons, hls], .cons hstep hrun⟩

theorem perBucket_ne_zero {max_size : UInt64} (hmax : 0 < max_size) : perBucket bucket max_size ≠ 0 := by
  have hbucket : 0 < bucket := Nat.pos_of_ne_zero (NeZero.ne bucket)
  have hpos : 0 < max_size.toNat := UInt64.lt_iff_toNat_lt.1 hmax
  have hlt : (max_size.toNat + bucket - 1) / bucket < 2 ^ 64 := by
    have hsize := max_size.toNat_lt
    have hle : (max_size.toNat + bucket - 1) / bucket ≤ max_size.toNat := by
      rw [Nat.div_le_iff_le_mul hbucket]
      have hmul : max_size.toNat ≤ max_size.toNat * bucket := Nat.le_mul_of_pos_right _ hbucket
      omega
    omega
  have hone : 0 < (max_size.toNat + bucket - 1) / bucket := Nat.div_pos (by omega) hbucket
  intro h
  have hzero := congrArg UInt64.toNat h
  rw [perBucket, UInt64.toNat_ofNat_of_lt' hlt] at hzero
  exact absurd hzero (Nat.ne_of_gt hone)

omit [Inhabited V] [NeZero bucket] in
theorem size_eq {max e : UInt64} {s : Fin bucket → Lru K V} (h : ∀ i, Bounded max e (c.m_datas i) (s i)) :
    c.size = ∑ i, (s i).entries.keys.card := by
  rw [size, ← Fin.sum_univ_def]
  refine Finset.sum_congr rfl fun i _ => ?_
  rw [LruCache.size, (h i).refines.keys_eq]

omit [Inhabited V] [NeZero bucket] in
theorem size_le {max e : UInt64} {s : Fin bucket → Lru K V} (h : ∀ i, Bounded max e (c.m_datas i) (s i)) :
    c.size ≤ bucket * LruCache.bound max.toNat e.toNat :=
  calc c.size = ∑ i, (s i).entries.keys.card := size_eq h
    _ ≤ ∑ _i : Fin bucket, LruCache.bound max.toNat e.toNat := Finset.sum_le_sum fun i _ => (h i).card_le
    _ = bucket * LruCache.bound max.toNat e.toNat := by simp

/-- **Each bucket is an LRU cache** of its own keys, in any sequence of operations. -/
theorem refines_buckets {max_size elasticity : UInt64} (hmax : 0 < max_size) (cb : Option (List (K × V)))
    (ops : List (LruCache.Op K V)) :
    let pre := perBucket bucket max_size
    let extra := perBucket bucket elasticity
    ∃ ls c, ∃ s : Fin bucket → Lru K V, ls.map Prod.fst = ops ∧
      Run (step m_hash) (new K V bucket max_size elasticity cb) ls c ∧
      (∀ i, Run (Lru.step pre.toNat (pre + extra).toNat) ⟨∅, 0⟩ (ls.filterMap fun l => proj m_hash l i) (s i) ∧
        LruCache.Refines (c.m_datas i) (s i)) ∧
      c.size = ∑ i, (s i).entries.keys.card ∧ c.size ≤ bucket * LruCache.bound pre.toNat extra.toNat := by
  intro pre extra
  have hpre : pre ≠ 0 := perBucket_ne_zero hmax
  have hnew (i : Fin bucket) : Bounded pre extra ((new K V bucket max_size elasticity cb).m_datas i) ⟨∅, 0⟩ :=
    bounded_new pre extra cb
  obtain ⟨ls, c, hls, hrun⟩ : ∃ ls c, ls.map Prod.fst = ops ∧ Run (step m_hash) _ ls c :=
    run_total hpre ops fun i => ⟨_, hnew i⟩
  obtain ⟨datas, hfamily, rfl⟩ := Run.simulates (R := fun c datas => m_datas c = datas)
    (fun _ _ _ _ h hstep => ⟨_, h ▸ family_of_step hstep, rfl⟩) rfl hrun
  have hbucket (i : Fin bucket) := Run.simulates
    (fun _ _ _ _ hb hstep => hb.step hpre hstep) (hnew i) (run_family_iff.1 hfamily i)
  choose s hs hb using hbucket
  exact ⟨ls, c, s, hls, hrun, fun i => ⟨hs i, (hb i).refines⟩, size_eq hb, size_le hb⟩

/-- The keys 1 and 3 share a bucket, which has room for one. -/
theorem refines_buckets_three :
    let pre := perBucket 2 2
    let extra := perBucket 2 0
    ∃ ls c, ∃ s : Fin 2 → Lru ℕ ℕ, ls.map Prod.fst = [.set 1 5, .set 2 6, .set 3 7, .get 1] ∧
      Run (step UInt64.ofNat) (new ℕ ℕ 2 2 0 none) ls c ∧
      (∀ i, Run (Lru.step pre.toNat (pre + extra).toNat) ⟨∅, 0⟩
        (ls.filterMap fun l => proj UInt64.ofNat l i) (s i) ∧ LruCache.Refines (c.m_datas i) (s i)) ∧
      c.size = ∑ i, (s i).entries.keys.card ∧ c.size ≤ 2 * LruCache.bound pre.toNat extra.toNat :=
  refines_buckets (by decide) none [.set 1 5, .set 2 6, .set 3 7, .get 1]

end HashLruCache
end Ancfl.Ds
