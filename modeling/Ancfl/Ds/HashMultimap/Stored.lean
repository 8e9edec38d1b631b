/-
  `HashMultimap::writeTo` and `readFrom`, among the other operations.

  * `writeTo` leaves out keys with an empty array, `readFrom` counts `m_elements`
    again;
  * `perform`: an operation on a map whose `m_datas` may be null; `RoundTrip` and
    `Usable` are as for a `HashMap`;
  * `Counted t`: no array is empty, and `m_elements` is the number of their
    values: `roundTrip_iff_counted`;
  * `stays_iff_meets`: all of it holds in the runs that read whole streams only,
    without the operations that miscount.
-/
import Ancfl.Ds.HashMultimap
import Ancfl.Ds.HashMap.Stored

namespace Ancfl.Ds

open Lib Table

namespace HashMultimap

variable {K V : Type} [LinearOrder K] [LinearOrder V] (hash : K → UInt32) (podV : Pod V)
  (podN : Pod (RawNode K))

/-! ## The operations -/

def existsKey (t : HashMultimap K V) (k : K) : Option Bool := HashMap.existsKey hash t.table k

/-- `exists(k, v)` -/
def existsValue (t : HashMultimap K V) (k : K) (v : V) : Option Bool := do
  let (_, l) ← t.table.bucket hash k
  match l[binarySearch Node.key l k]? with
  | none => return false
  | some n => return binarySearch id n.val v != n.val.length

/-- The values of a node are copied up to `n.val + n.size`. -/
def writeTo (t : HashMultimap K V) : Option (List UInt8) := do
  let d ← t.table.live
  if ∀ n ∈ d.entries, n.val.length < 2 ^ 31 then
    return arraysImage podV podN d.size (d.entries.filter fun n => n.val.length ≠ 0)
  else none

/-- The number of values. -/
def sizes (ns : List (Node K (List V))) : ℕ := (ns.map fun n => n.val.length).sum

def readFrom (t : HashMultimap K V) (memory : Memory) (is : List UInt8) :
    Option (Bool × HashMultimap K V) := do
  let r ← readArrays podV podN memory is
  let (b, d) ← install hash t.table (readBuckets t.table.size is) r
  let elements := match r with
    | .broken => t.elements
    | .unallocated _ => 0
    | .nodes ns => sizes ns
  return (b, ⟨d, elements⟩)

inductive Act (K V : Type)
  | get (k : K)
  | existsKey (k : K)
  | existsValue (k : K) (v : V)
  | op (o : Op K V)
  | rehash
  | wforeach (cb : K → List V → (ℕ → V → V) × Bool) -- changes values in their places
  | readFrom (memory : Memory) (is : List UInt8)

inductive Answer (V : Type)
  | values (vs : Option (List V))
  | bool (b : Bool)
  | unit

def perform (t : HashMultimap K V) : Act K V → Option (Answer V × HashMultimap K V)
  | .get k => do
    let vs ← get hash t k
    return (.values vs, t)
  | .existsKey k => do
    let b ← existsKey hash t k
    return (.bool b, t)
  | .existsValue k v => do
    let b ← existsValue hash t k v
    return (.bool b, t)
  | .op o => do
    let d ← t.table.live
    let (b, t) ← exec hash ⟨d, t.elements⟩ o
    return (.bool b, t)
  | .rehash =>
    if t.table.needRehash ∧ basket (toInt32 t.table.total) ≠ t.table.size ∧ ¬t.table.live.isSome then none
    else some (.unit, ⟨t.table.rehash hash, t.elements⟩)
  | .wforeach cb => do
    let d ← t.table.live
    return (.unit, ⟨d.wforeach fun k vs => (vs.mapIdx (cb k vs).1, (cb k vs).2), t.elements⟩)
  | .readFrom memory is => do
    let (b, t) ← readFrom hash podV podN t memory is
    return (.bool b, t)

def performs (t : HashMultimap K V) (l : Act K V × Answer V) (t' : HashMultimap K V) : Prop :=
  perform hash podV podN t l.1 = some (l.2, t')

/-- The sizes are those of objects in memory. -/
def InMemory (t : HashMultimap K V) : Prop := t.table.size < 2 ^ 64 ∧
  (t.table.entries.flatMap Node.val).length * podV.size < 2 ^ 64 ∧ t.table.entries.length * podN.size < 2 ^ 64

/-! ## Maps that stay usable -/

/-- What `writeTo` writes is read into any map as the same one. -/
def RoundTrip (t : HashMultimap K V) : Prop := ∃ bytes, writeTo podV podN t = some bytes ∧
  ∀ u rest, ∃ t', readFrom hash podV podN u .all (bytes ++ rest) = some (true, t') ∧
    Same hash t.table t'.table ∧ t'.elements = t.elements

/-- The operations that have to answer. -/
def Following : Act K V → Prop
  | .get _ | .existsKey _ | .existsValue _ _ | .op _ => True
  | _ => False

/-- The operations are defined, and answer as on the old map or on one without entries. -/
def Usable (t t' : HashMultimap K V) : Prop :=
  ∃ r, (r = t ∨ r = new K V 10) ∧ AnswersAs (performs hash podV podN) Following t' r

/-- The map was not read. -/
def Loses (l : Act K V × Answer V) : Prop := ∃ memory is, l = (.readFrom memory is, .bool false)

structure Stays (t : HashMultimap K V) (l : Act K V × Answer V) (t' : HashMultimap K V) : Prop where
  roundTrip : RoundTrip hash podV podN t'
  usable : Loses l → Usable hash podV podN t t'

/-- The array that a key has when it is to be set. -/
def found (t : HashMultimap K V) (k : K) : Option (Option (List V)) :=
  get hash ⟨t.table.rehash hash, t.elements⟩ k

/-- No key gets an empty array, only new ones are set, and a value is deleted only with its key. -/
def OpMeets (t : HashMultimap K V) : Op K V → Prop
  | .insertAll k vs => found hash t k = some none → vs ≠ []
  | .set k vs => found hash t k = some none ∧ vs ≠ []
  | .delValue k v => existsValue hash t k v = some true → ∃ w, get hash t k = some (some [w])
  | _ => True

/-- That, and all that is read is there. -/
def Meets (t : HashMultimap K V) : Act K V → Prop
  | .op o => OpMeets hash t o
  | .readFrom memory is => ArraysThere memory is
  | _ => True

/-- The sizes of arrays are `int`s. -/
structure Sound (t : HashMultimap K V) : Prop where
  whole : Whole t.table
  arrays : ∀ n ∈ t.table.entries, n.val.length < 2 ^ 31

/-- No array is empty, and `m_elements` is right. -/
structure Counted (t : HashMultimap K V) : Prop where
  nonempty : ∀ n ∈ t.table.entries, n.val ≠ []
  elements_eq : t.elements = sizes t.table.entries

/-! ## What the pieces do to the counters -/

section
variable {hash podV podN} {t t' : HashMultimap K V} {k : K} {v : V} {vs : List V} {b : Bool}
  {n n' : Node K (List V)} {r ns ns' : List (Node K (List V))} {d : Table K (List V)}

omit [LinearOrder K] [LinearOrder V] in
theorem sizes_perm (h : ns.Perm ns') : sizes ns = sizes ns' := (h.map _).sum_eq

omit [LinearOrder K] [LinearOrder V] in
theorem sizes_cons (n : Node K (List V)) (ns : List (Node K (List V))) :
    sizes (n :: ns) = n.val.length + sizes ns := by
  rw [sizes, List.map_cons, List.sum_cons, sizes]

omit [LinearOrder K] [LinearOrder V] in
theorem counted_new (size : UInt32) : Sound (new K V size) ∧ Counted (new K V size) := by
  obtain ⟨hwhole, -, hentries⟩ := new_ret (K := K) (P := List V) size
  have hnone (n : Node K (List V)) (hn : n ∈ (new K V size).table.entries) : False := by
    rw [new, hentries] at hn
    cases hn
  refine ⟨⟨hwhole, fun n hn => (hnone n hn).elim⟩, fun n hn => (hnone n hn).elim, ?_⟩
  rw [new, hentries]
  rfl

omit [LinearOrder V] in
theorem Sound.rehash (h : Sound t) : Sound ⟨t.table.rehash hash, t.elements⟩ :=
  ⟨h.whole.rehash, fun n hn => h.arrays n ((rehash_entries t.table).mem_iff.1 hn)⟩

omit [LinearOrder V] in
theorem Counted.rehash (h : Counted t) : Counted ⟨t.table.rehash hash, t.elements⟩ :=
  ⟨fun n hn => h.nonempty n ((rehash_entries t.table).mem_iff.1 hn),
    h.elements_eq.trans (sizes_perm (rehash_entries t.table)).symm⟩

omit [LinearOrder K] [LinearOrder V] in
/-- A new node. -/
theorem counted_cons (h : Counted t) (hperm : d.entries.Perm (n :: t.table.entries)) (elements : ℕ) :
    Counted ⟨d, elements⟩ ↔ n.val ≠ [] ∧ elements = t.elements + n.val.length := by
  have hsizes : sizes d.entries = t.elements + n.val.length := by
    rw [sizes_perm hperm, sizes_cons, h.elements_eq, Nat.add_comm]
  constructor
  · intro h'
    exact ⟨h'.nonempty n (hperm.mem_iff.2 List.mem_cons_self), h'.elements_eq.trans hsizes⟩
  · rintro ⟨hne, helements⟩
    refine ⟨fun x hx => ?_, helements.trans hsizes.symm⟩
    rcases List.mem_cons.1 (hperm.mem_iff.1 hx) with rfl | hx
    · exact hne
    · exact h.nonempty x hx

omit [LinearOrder K] [LinearOrder V] in
/-- A node in the place of another. -/
theorem counted_replaced (h : Counted t) (hr : t.table.entries.Perm (n :: r))
    (hr' : d.entries.Perm (n' :: r)) (elements : ℕ) :
    Counted ⟨d, elements⟩ ↔ n'.val ≠ [] ∧ elements + n.val.length = t.elements + n'.val.length := by
  have hsizes : sizes d.entries + n.val.length = t.elements + n'.val.length := by
    rw [sizes_perm hr', sizes_cons, h.elements_eq, sizes_perm hr, sizes_cons]
    omega
  constructor
  · intro h'
    refine ⟨h'.nonempty n' (hr'.mem_iff.2 List.mem_cons_self), ?_⟩
    rw [← hsizes, ← h'.elements_eq]
  · rintro ⟨hne, helements⟩
    refine ⟨fun x hx => ?_, Nat.add_right_cancel (helements.trans hsizes.symm)⟩
    rcases List.mem_cons.1 (hr'.mem_iff.1 hx) with rfl | hx
    · exact hne
    · exact h.nonempty x (hr.mem_iff.2 (List.mem_cons_of_mem n hx))

omit [LinearOrder K] [LinearOrder V] in
/-- Without a node. -/
theorem counted_removed (h : Counted t) (hperm : t.table.entries.Perm (n :: d.entries)) :
    Counted ⟨d, t.elements - n.val.length⟩ := by
  refine ⟨fun x hx => h.nonempty x (hperm.mem_iff.2 (List.mem_cons_of_mem n hx)), ?_⟩
  rw [h.elements_eq, sizes_perm hperm, sizes_cons, Nat.add_sub_cancel_left]

/-! ## One operation -/

omit [LinearOrder K] in
theorem length_collect (val ws : List V) : (collect val ws).1.length = val.length := by
  suffices h : ∀ p : List V × Finset V, (ws.foldl (fun q v =>
      if binarySearch id q.1 v = q.1.length then (q.1, Insert.insert v q.2)
      else (q.1.set (binarySearch id q.1 v) v, q.2)) p).1.length = p.1.length from h (val, ∅)
  induction ws with
  | nil => exact fun p => rfl
  | cons w ws ih =>
    intro p
    rw [List.foldl_cons, ih]
    split_ifs
    · rfl
    · exact List.length_set

omit [LinearOrder K] in
theorem length_sortBy (ws : List V) : (sortBy id ws).length = ws.length := (sortBy_perm ws).length_eq

omit [LinearOrder K] in
theorem length_sortLast (ws : List V) (size : ℤ) : (sortLast id ws size).length = ws.length := by
  rw [sortLast]
  split_ifs
  · rfl
  · exact (sinkLast_perm ws _).length_eq

variable {elements : ℕ}

omit [LinearOrder V] in
/-- **A node for a new key.** -/
theorem push_ret (hs : Sound ⟨d, elements⟩) (hc : Counted ⟨d, elements⟩) {pos : ℕ}
    {l : List (Node K (List V))} (hb : d.bucket hash k = some (pos, l)) (h31 : vs.length < 2 ^ 31) (e : ℕ) :
    Sound ⟨d.put pos (push l ⟨k, vs⟩) (d.total + 1), e⟩ ∧
      (Counted ⟨d.put pos (push l ⟨k, vs⟩) (d.total + 1), e⟩ ↔ vs ≠ [] ∧ e = elements + vs.length) := by
  have hperm := pushed hb ⟨k, vs⟩ (d.total + 1)
  refine ⟨⟨hs.whole.pushed hb _, fun x hx => ?_⟩, (counted_cons hc hperm e :)⟩
  rcases List.mem_cons.1 (hperm.mem_iff.1 hx) with rfl | hx
  · exact h31
  · exact hs.arrays x hx

omit [LinearOrder K] [LinearOrder V] in
/-- **Another array in a node.** -/
theorem put_ret (hs : Sound ⟨d, elements⟩) (hc : Counted ⟨d, elements⟩) {pos it : ℕ}
    {l : List (Node K (List V))} (hb : d.bucket hash k = some (pos, l)) (hit : l[it]? = some n)
    (h31 : vs.length < 2 ^ 31) (e : ℕ) :
    Sound ⟨d.put pos (l.set it ⟨n.key, vs⟩) d.total, e⟩ ∧
      (Counted ⟨d.put pos (l.set it ⟨n.key, vs⟩) d.total, e⟩ ↔
        vs ≠ [] ∧ e + n.val.length = elements + vs.length) := by
  obtain ⟨r, hr, hput⟩ := replaced hb hit ⟨n.key, vs⟩ d.total
  refine ⟨⟨hs.whole.replaced hb hit _, fun x hx => ?_⟩, (counted_replaced hc hr hput e :)⟩
  rcases List.mem_cons.1 (hput.mem_iff.1 hx) with rfl | hx
  · exact h31
  · exact hs.arrays x (hr.mem_iff.2 (List.mem_cons_of_mem n hx))

omit [LinearOrder V] in
/-- **A node is removed.** -/
theorem remove_ret (hs : Sound t) (hc : Counted t) {pos it : ℕ} {l : List (Node K (List V))}
    (hb : t.table.bucket hash k = some (pos, l)) (hit : l[it]? = some n) :
    Sound ⟨t.table.put pos (remove l it) (t.table.total - 1), t.elements - n.val.length⟩ ∧
      Counted ⟨t.table.put pos (remove l it) (t.table.total - 1), t.elements - n.val.length⟩ := by
  have hperm := removed hb hit (t.table.total - 1)
  refine ⟨⟨hs.whole.removed hb hit, fun x hx => ?_⟩, counted_removed hc hperm⟩
  exact hs.arrays x (hperm.mem_iff.2 (List.mem_cons_of_mem n hx))

omit [LinearOrder V] in
theorem found_eq {pos : ℕ} {l : List (Node K (List V))}
    (hb : (t.table.rehash hash).bucket hash k = some (pos, l)) :
    found hash t k = some (l[binarySearch Node.key l k]?.map Node.val) := by
  rw [found, get, hb]
  rfl

omit [LinearOrder K] [LinearOrder V] in
theorem node_mem {pos it : ℕ} {l : List (Node K (List V))} (hb : d.bucket hash k = some (pos, l))
    (hit : l[it]? = some n) : n ∈ d.entries :=
  List.mem_flatten.2 ⟨l, List.mem_of_getElem? (getElem?_of_bucket hb), List.mem_of_getElem? hit⟩

theorem insert_stored (hs : Sound t) (hc : Counted t) (h : insert hash t k v = some (b, t')) :
    Sound t' ∧ Counted t' := by
  rw [insert, needRehash_rehash] at h
  obtain ⟨⟨pos, l⟩, hb, h⟩ := Option.bind_eq_some_iff.1 h
  have hs' : Sound ⟨t.table.rehash hash, t.elements⟩ := hs.rehash
  have hc' : Counted ⟨t.table.rehash hash, t.elements⟩ := hc.rehash
  rcases hit : l[binarySearch Node.key l k]? with _ | n
  · simp only [hit] at h
    obtain ⟨-, rfl⟩ := Prod.mk.inj (Option.some.inj h)
    have h31 : [v].length < 2 ^ 31 := by rw [List.length_singleton]; decide
    obtain ⟨hsound, hcounted⟩ := push_ret hs' hc' hb h31 (t.elements + 1)
    exact ⟨hsound, hcounted.2 ⟨List.cons_ne_nil v [], rfl⟩⟩
  · have hn := node_mem hb hit
    have hpos : 0 < n.val.length := List.length_pos_iff.2 (hc'.nonempty n hn)
    simp only [hit] at h
    split_ifs at h with hv h31
    · obtain ⟨-, rfl⟩ := Prod.mk.inj (Option.some.inj h)
      have hlen : (n.val.set (binarySearch id n.val v) v).length = n.val.length := List.length_set
      obtain ⟨hsound, hcounted⟩ := put_ret hs' hc' hb hit (hlen.trans_lt (hs'.arrays n hn)) t.elements
      refine ⟨hsound, hcounted.2 ⟨List.ne_nil_of_length_pos (hpos.trans_eq hlen.symm), by rw [hlen]⟩⟩
    · obtain ⟨-, rfl⟩ := Prod.mk.inj (Option.some.inj h)
      have hlen : (sortLast id (n.val ++ [v]) (toInt32 (n.val.length + 1 : ℕ))).length =
          n.val.length + 1 := by
        rw [length_sortLast, List.length_append, List.length_singleton]
      obtain ⟨hsound, hcounted⟩ := put_ret hs' hc' hb hit (hlen.trans_lt h31) (t.elements + 1)
      refine ⟨hsound, hcounted.2 ⟨List.ne_nil_of_length_pos ?_, ?_⟩⟩
      · rw [hlen]
        exact Nat.succ_pos _
      · rw [hlen]
        exact Nat.add_right_comm _ _ _

theorem insertAll_stored (hs : Sound t) (hc : Counted t) (h : insertAll hash t k vs = some (b, t')) :
    Sound t' ∧ (Counted t' ↔ OpMeets hash t (.insertAll k vs)) := by
  rw [insertAll, needRehash_rehash] at h
  obtain ⟨⟨pos, l⟩, hb, h⟩ := Option.bind_eq_some_iff.1 h
  have hs' : Sound ⟨t.table.rehash hash, t.elements⟩ := hs.rehash
  have hc' : Counted ⟨t.table.rehash hash, t.elements⟩ := hc.rehash
  have hfound := found_eq hb
  rw [OpMeets, hfound]
  rcases hit : l[binarySearch Node.key l k]? with _ | n
  · simp only [hit] at h
    split_ifs at h with h31
    obtain ⟨-, rfl⟩ := Prod.mk.inj (Option.some.inj h)
    have hlen : (sortBy id vs).length = vs.length := length_sortBy vs
    obtain ⟨hsound, hcounted⟩ := push_ret hs' hc' hb (hlen.trans_lt h31) (t.elements + vs.length)
    refine ⟨hsound, hcounted.trans ⟨fun hret _ => ?_, fun hmeets => ⟨?_, by rw [hlen]⟩⟩⟩
    · exact List.ne_nil_of_length_pos (hlen ▸ List.length_pos_iff.2 hret.1)
    · exact List.ne_nil_of_length_pos ((List.length_pos_iff.2 (hmeets rfl)).trans_eq hlen.symm)
  · have hn := node_mem hb hit
    have hpos : 0 < n.val.length := List.length_pos_iff.2 (hc'.nonempty n hn)
    simp only [hit] at h
    rcases hcollect : collect n.val vs with ⟨val, news⟩
    have hval : val.length = n.val.length := by rw [← length_collect n.val vs, hcollect]
    simp only [hcollect] at h
    split_ifs at h with h31
    obtain ⟨-, rfl⟩ := Prod.mk.inj (Option.some.inj h)
    have hlen : (sortBy id (val ++ news.sort (· ≤ ·))).length = n.val.length + news.card := by
      rw [length_sortBy, List.length_append, Finset.length_sort, hval]
    obtain ⟨hsound, hcounted⟩ := put_ret hs' hc' hb hit (hlen.trans_lt (hval ▸ h31)) (t.elements + news.card)
    refine ⟨hsound, iff_of_true (hcounted.2 ⟨List.ne_nil_of_length_pos ?_, ?_⟩) fun hnone => by cases hnone⟩
    · exact (hpos.trans_le (Nat.le_add_right _ _)).trans_eq hlen.symm
    · rw [hlen]
      omega

theorem set_stored (hs : Sound t) (hc : Counted t) (h : set hash t k vs = some (b, t')) :
    Sound t' ∧ (Counted t' ↔ OpMeets hash t (.set k vs)) := by
  rw [set, needRehash_rehash] at h
  obtain ⟨⟨pos, l⟩, hb, h⟩ := Option.bind_eq_some_iff.1 h
  have hs' : Sound ⟨t.table.rehash hash, t.elements⟩ := hs.rehash
  have hc' : Counted ⟨t.table.rehash hash, t.elements⟩ := hc.rehash
  have hlen : (sortBy id vs).length = vs.length := length_sortBy vs
  have hfound := found_eq hb
  rw [OpMeets, hfound]
  simp only at h
  split_ifs at h with h31
  rcases hit : l[binarySearch Node.key l k]? with _ | n
  · simp only [hit] at h
    obtain ⟨-, rfl⟩ := Prod.mk.inj (Option.some.inj h)
    obtain ⟨hsound, hcounted⟩ := push_ret hs' hc' hb (hlen.trans_lt h31) (t.elements + vs.length)
    refine ⟨hsound, hcounted.trans ⟨fun hret => ⟨rfl, ?_⟩, fun hmeets => ⟨?_, by rw [hlen]⟩⟩⟩
    · exact List.ne_nil_of_length_pos (hlen ▸ List.length_pos_iff.2 hret.1)
    · exact List.ne_nil_of_length_pos ((List.length_pos_iff.2 hmeets.2).trans_eq hlen.symm)
  · have hpos : 0 < n.val.length := List.length_pos_iff.2 (hc'.nonempty n (node_mem hb hit))
    simp only [hit] at h
    obtain ⟨-, rfl⟩ := Prod.mk.inj (Option.some.inj h)
    obtain ⟨hsound, hcounted⟩ := put_ret hs' hc' hb hit (hlen.trans_lt h31) (t.elements + vs.length)
    refine ⟨hsound, iff_of_false (fun hcount => ?_) fun hmeets => by cases hmeets.1⟩
    -- the old array is still counted
    have helements := (hcounted.1 hcount).2
    rw [hlen] at helements
    omega

omit [LinearOrder V] in
theorem del_stored (hs : Sound t) (hc : Counted t) (h : del hash t k = some (b, t')) :
    Sound t' ∧ Counted t' := by
  rw [del] at h
  obtain ⟨⟨pos, l⟩, hb, h⟩ := Option.bind_eq_some_iff.1 h
  rcases hit : l[binarySearch Node.key l k]? with _ | n
  · simp only [hit] at h
    obtain ⟨-, rfl⟩ := Prod.mk.inj (Option.some.inj h)
    exact ⟨hs, hc⟩
  · simp only [hit] at h
    obtain ⟨-, rfl⟩ := Prod.mk.inj (Option.some.inj h)
    exact remove_ret hs hc hb hit

theorem delValue_stored (hs : Sound t) (hc : Counted t) (h : delValue hash t k v = some (b, t')) :
    Sound t' ∧ (Counted t' ↔ OpMeets hash t (.delValue k v)) := by
  rw [delValue] at h
  obtain ⟨⟨pos, l⟩, hb, h⟩ := Option.bind_eq_some_iff.1 h
  have hget : get hash t k = some (l[binarySearch Node.key l k]?.map Node.val) := by
    rw [get, hb]
    rfl
  rw [OpMeets, existsValue, hget, hb, Option.bind_eq_bind, Option.bind_some]
  rcases hit : l[binarySearch Node.key l k]? with _ | n
  · simp only [hit] at h ⊢
    obtain ⟨-, rfl⟩ := Prod.mk.inj (Option.some.inj h)
    refine ⟨hs, iff_of_true hc fun hexists => ?_⟩
    exact absurd (Option.some.inj hexists) Bool.false_ne_true
  · simp only [hit] at h ⊢
    split_ifs at h with hv hone hlast
    · obtain ⟨-, rfl⟩ := Prod.mk.inj (Option.some.inj h)
      refine ⟨hs, iff_of_true hc fun hexists => ?_⟩
      rw [hv] at hexists
      simp at hexists
    · obtain ⟨-, rfl⟩ := Prod.mk.inj (Option.some.inj h)
      obtain ⟨hsound, hcounted⟩ := remove_ret hs hc hb hit
      rw [hone] at hsound hcounted
      obtain ⟨w, hw⟩ := List.length_eq_one_iff.1 hone
      exact ⟨hsound, iff_of_true hcounted fun _ => ⟨w, by rw [Option.map_some, hw]⟩⟩
    · obtain ⟨-, rfl⟩ := Prod.mk.inj (Option.some.inj h)
      have hlt : (n.val.take (binarySearch id n.val v)).length < n.val.length := by
        obtain ⟨y, hy⟩ := exists_of_binarySearch_ne hv
        rw [List.length_take]
        exact (min_le_left _ _).trans_lt (List.getElem?_eq_some_iff.1 hy).1
      obtain ⟨hsound, hcounted⟩ := put_ret hs hc hb hit (hlt.trans (hs.arrays n (node_mem hb hit))) t.elements
      refine ⟨hsound, iff_of_false (fun hcount => ?_) fun hmeets => ?_⟩
      · -- the value is still counted
        have helements := (hcounted.1 hcount).2
        omega
      · obtain ⟨w, hw⟩ := hmeets (by simp [hv])
        exact hone (by rw [Option.some.inj (Option.some.inj hw)]; rfl)

/-- **One operation** counts right or not. -/
theorem exec_stored (hs : Sound t) (hc : Counted t) {o : Op K V} (h : exec hash t o = some (b, t')) :
    Sound t' ∧ (Counted t' ↔ OpMeets hash t o) := by
  cases o with
  | insert k v =>
    obtain ⟨hsound, hcounted⟩ := insert_stored hs hc h
    exact ⟨hsound, iff_of_true hcounted trivial⟩
  | insertAll k vs => exact insertAll_stored hs hc h
  | set k vs => exact set_stored hs hc h
  | del k =>
    obtain ⟨hsound, hcounted⟩ := del_stored hs hc h
    exact ⟨hsound, iff_of_true hcounted trivial⟩
  | delValue k v => exact delValue_stored hs hc h

omit [LinearOrder K] [LinearOrder V] in
theorem wforeach_stored (hs : Sound t) (hc : Counted t) (cb : K → List V → (ℕ → V → V) × Bool) :
    Sound ⟨t.table.wforeach fun k vs => (vs.mapIdx (cb k vs).1, (cb k vs).2), t.elements⟩ ∧
      Counted ⟨t.table.wforeach fun k vs => (vs.mapIdx (cb k vs).1, (cb k vs).2), t.elements⟩ := by
  have hall := (wforeach_ret (fun k vs => (vs.mapIdx (cb k vs).1, (cb k vs).2)) t.table).2
  have hlen : (t.table.wforeach fun k vs => (vs.mapIdx (cb k vs).1, (cb k vs).2)).entries.map
      (fun n => n.val.length) = t.table.entries.map fun n => n.val.length := by
    symm
    rw [← List.forall₂_eq_eq_eq, List.forall₂_map_left_iff, List.forall₂_map_right_iff]
    refine hall.imp fun n n' hn => ?_
    rcases hn.2 with hval | hval
    · rw [hval]
    · rw [hval, List.length_mapIdx]
  have hmem {x : Node K (List V)}
      (hx : x ∈ (t.table.wforeach fun k vs => (vs.mapIdx (cb k vs).1, (cb k vs).2)).entries) :
      ∃ y ∈ t.table.entries, y.val.length = x.val.length := by
    have hx' := List.mem_map_of_mem (f := fun n : Node K (List V) => n.val.length) hx
    rw [hlen] at hx'
    exact List.mem_map.1 hx'
  refine ⟨⟨hs.whole.wforeach _, fun x hx => ?_⟩, fun x hx => ?_, hc.elements_eq.trans ?_⟩
  · obtain ⟨y, hy, hxy⟩ := hmem hx
    exact hxy ▸ hs.arrays y hy
  · obtain ⟨y, hy, hxy⟩ := hmem hx
    exact List.ne_nil_of_length_pos (hxy ▸ List.length_pos_iff.2 (hc.nonempty y hy))
  · rw [sizes, sizes, hlen]

/-! ## The round trip -/

omit [LinearOrder K] [LinearOrder V] in
/-- The nodes that are written have all the values. -/
theorem filter_values (ns : List (Node K (List V))) :
    (ns.filter fun n => n.val.length ≠ 0).flatMap Node.val = ns.flatMap Node.val ∧
      sizes (ns.filter fun n => n.val.length ≠ 0) = sizes ns := by
  induction ns with
  | nil => exact ⟨rfl, rfl⟩
  | cons n ns ih =>
    obtain ⟨hvalues, hsizes⟩ := ih
    by_cases hn : n.val.length ≠ 0
    · have hcons : ((n :: ns).filter fun n => n.val.length ≠ 0) = n :: ns.filter fun n => n.val.length ≠ 0 :=
        List.filter_cons_of_pos (decide_eq_true hn)
      rw [hcons, List.flatMap_cons, List.flatMap_cons, sizes_cons, sizes_cons, hvalues, hsizes]
      exact ⟨rfl, rfl⟩
    · have hcons : ((n :: ns).filter fun n => n.val.length ≠ 0) = ns.filter fun n => n.val.length ≠ 0 :=
        List.filter_cons_of_neg (by rwa [decide_eq_true_eq])
      have hnil : n.val = [] := List.length_eq_zero_iff.1 (not_not.1 hn)
      rw [hcons, List.flatMap_cons, sizes_cons, hnil, List.nil_append, List.length_nil, Nat.zero_add]
      exact ⟨hvalues, hsizes⟩

variable (hash) in
omit [LinearOrder V] in
/-- What is written, and what is read of it. -/
theorem stored_eq (hs : Sound t) (hmem : InMemory podV podN t) : ∃ bytes, writeTo podV podN t = some bytes ∧
    ∀ u rest, readFrom hash podV podN u .all (bytes ++ rest) =
      some (true, ⟨Table.load hash t.table.size (t.table.entries.filter fun n => n.val.length ≠ 0),
        sizes t.table.entries⟩) := by
  obtain ⟨hvalues, hsizes⟩ := filter_values t.table.entries
  refine ⟨arraysImage podV podN t.table.size (t.table.entries.filter fun n => n.val.length ≠ 0), ?_,
    fun u rest => ?_⟩
  · rw [writeTo, hs.whole.live_eq]
    exact if_pos hs.arrays
  · have harrays : ∀ n ∈ t.table.entries.filter (fun n => n.val.length ≠ 0),
        0 < n.val.length ∧ n.val.length < 2 ^ 31 := by
      intro n hn
      obtain ⟨hn, hpos⟩ := List.mem_filter.1 hn
      exact ⟨Nat.pos_of_ne_zero (of_decide_eq_true hpos), hs.arrays n hn⟩
    have hbytes : (t.table.entries.filter fun n => n.val.length ≠ 0).length * podN.size < 2 ^ 64 :=
      (Nat.mul_le_mul_right _ (List.length_filter_le _ _)).trans_lt hmem.2.2
    have hsize : readBuckets u.table.size (arraysImage podV podN t.table.size
        (t.table.entries.filter fun n => n.val.length ≠ 0) ++ rest) = t.table.size := by
      rw [arraysImage, List.append_assoc, readBuckets_leBytes hmem.1]
    have hzero : ¬(t.table.size = 0 ∧ (t.table.entries.filter fun n => n.val.length ≠ 0) ≠ []) := by
      rintro ⟨hzero, hns⟩
      rw [← hs.whole.length_eq] at hzero
      exact hns (by rw [entries, List.length_eq_zero_iff.1 hzero]; rfl)
    rw [readFrom, readArrays_image harrays (hvalues ▸ hmem.2.1) hbytes, hsize]
    simp only [Option.bind_eq_bind, Option.bind_some, install, if_neg hzero, hsizes]
    rfl

omit [LinearOrder V] in
/-- **The round trip** needs the counters to be right, and no more. -/
theorem roundTrip_iff_counted (hs : Sound t) (hmem : InMemory podV podN t) :
    RoundTrip hash podV podN t ↔ Counted t := by
  obtain ⟨bytes, hbytes, hread⟩ := stored_eq hash hs hmem
  constructor
  · rintro ⟨bytes', hbytes', hall⟩
    obtain rfl := Option.some.inj (hbytes.symm.trans hbytes')
    obtain ⟨t', ht', hsame, helements⟩ := hall t []
    obtain ⟨-, rfl⟩ := Prod.mk.inj (Option.some.inj ((hread t []).symm.trans ht'))
    have hlen : (t.table.entries.filter fun n => n.val.length ≠ 0).length = t.table.entries.length :=
      hsame.total_eq.trans hs.whole.total_eq
    refine ⟨fun n hn => ?_, helements.symm⟩
    have hpos := List.length_filter_eq_length_iff.1 hlen n hn
    exact List.ne_nil_of_length_pos (Nat.pos_of_ne_zero (of_decide_eq_true hpos))
  · intro hc
    refine ⟨bytes, hbytes, fun u rest => ⟨_, hread u rest, ?_, hc.elements_eq.symm⟩⟩
    have hfilter : (t.table.entries.filter fun n => n.val.length ≠ 0) = t.table.entries := by
      refine List.filter_eq_self.2 fun n hn => decide_eq_true ?_
      exact (List.length_pos_iff.2 (hc.nonempty n hn)).ne'
    obtain ⟨d, hd, hsame⟩ := hs.whole.install_entries hash u.table
    rw [install] at hd
    split_ifs at hd
    obtain ⟨-, rfl⟩ := Prod.mk.inj (Option.some.inj hd)
    rw [hfilter]
    exact hsame

omit [LinearOrder V] in
/-- **A stream is read** if all of it is there; otherwise the vectors are gone. -/
theorem readFrom_ret {memory : Memory} {is : List UInt8}
    (h : readFrom hash podV podN t memory is = some (b, t')) : (b = true ↔ ArraysThere memory is) ∧
      (b = true → Sound t' ∧ Counted t') ∧ (b = false → t'.table.datas = []) := by
  obtain ⟨res, hr, h⟩ := Option.bind_eq_some_iff.1 h
  obtain ⟨⟨b', d⟩, hinstall, heq⟩ := Option.bind_eq_some_iff.1 h
  obtain ⟨rfl, rfl⟩ := Prod.mk.inj (Option.some.inj heq)
  obtain ⟨hb, hreleased, hwhole⟩ := install_ret hinstall
  obtain ⟨hthere, harrays⟩ := readArrays_ret hr
  refine ⟨hb.trans hthere, fun hb' => ?_, hreleased⟩
  obtain ⟨ns, rfl⟩ := hb.1 hb'
  obtain ⟨hd, hperm⟩ := hwhole ns rfl
  have hns (n : Node K (List V)) (hn : n ∈ d.entries) := harrays ns rfl n (hperm.mem_iff.1 hn)
  exact ⟨⟨hd, fun n hn => (hns n hn).2⟩, fun n hn => List.ne_nil_of_length_pos (hns n hn).1,
    (sizes_perm hperm).symm⟩

/-- **What is not read** is not usable. -/
theorem not_usable [Inhabited K] (h : t'.table.datas = []) : ¬Usable hash podV podN t t' := by
  rintro ⟨r, -, hanswers⟩
  obtain ⟨b, t₁, hstep⟩ := hanswers.exists_step (a := .get default) trivial
  obtain ⟨⟨size, total, datas⟩, elements⟩ := t'
  obtain rfl : datas = [] := h
  rw [performs, perform, get, bucket_released] at hstep
  cases hstep

/-- **One operation** on a map with the right counters. -/
theorem perform_ret [Inhabited K] (hs : Sound t) (hc : Counted t) {l : Act K V × Answer V}
    (hstep : performs hash podV podN t l t') (hmem : InMemory podV podN t') :
    Meets hash t l.1 ∧ (Sound t' ∧ Counted t') ∧ Stays hash podV podN t l t' ∨
      ¬Meets hash t l.1 ∧ ¬Stays hash podV podN t l t' := by
  obtain ⟨act, a⟩ := l
  have hstays (hs' : Sound t') (hc' : Counted t') (hread : ∀ memory is, act ≠ .readFrom memory is) :
      Stays hash podV podN t (act, a) t' := by
    refine ⟨(roundTrip_iff_counted hs' hmem).2 hc', ?_⟩
    rintro ⟨memory, is, hl⟩
    exact absurd (Prod.mk.inj hl).1 (hread memory is)
  cases act with
  | get k =>
    obtain ⟨vs, -, heq⟩ := Option.bind_eq_some_iff.1 hstep
    obtain ⟨-, rfl⟩ := Prod.mk.inj (Option.some.inj heq)
    exact .inl ⟨trivial, ⟨hs, hc⟩, hstays hs hc fun _ _ hl => nomatch hl⟩
  | existsKey k =>
    obtain ⟨b, -, heq⟩ := Option.bind_eq_some_iff.1 hstep
    obtain ⟨-, rfl⟩ := Prod.mk.inj (Option.some.inj heq)
    exact .inl ⟨trivial, ⟨hs, hc⟩, hstays hs hc fun _ _ hl => nomatch hl⟩
  | existsValue k v =>
    obtain ⟨b, -, heq⟩ := Option.bind_eq_some_iff.1 hstep
    obtain ⟨-, rfl⟩ := Prod.mk.inj (Option.some.inj heq)
    exact .inl ⟨trivial, ⟨hs, hc⟩, hstays hs hc fun _ _ hl => nomatch hl⟩
  | op o =>
    obtain ⟨d, hlive, hstep⟩ := Option.bind_eq_some_iff.1 hstep
    obtain rfl := live_eq_some hlive
    obtain ⟨⟨b, t₁⟩, hexec, heq⟩ := Option.bind_eq_some_iff.1 hstep
    obtain ⟨-, rfl⟩ := Prod.mk.inj (Option.some.inj heq)
    obtain ⟨hs', hcounted⟩ := exec_stored hs hc hexec
    by_cases hc' : Counted t₁
    · exact .inl ⟨hcounted.1 hc', ⟨hs', hc'⟩, hstays hs' hc' fun _ _ hl => nomatch hl⟩
    · refine .inr ⟨fun hmeets => hc' (hcounted.2 hmeets), fun hst => ?_⟩
      exact hc' ((roundTrip_iff_counted hs' hmem).1 hst.roundTrip)
  | rehash =>
    rw [performs, perform] at hstep
    split_ifs at hstep
    obtain ⟨-, rfl⟩ := Prod.mk.inj (Option.some.inj hstep)
    exact .inl ⟨trivial, ⟨hs.rehash, hc.rehash⟩, hstays hs.rehash hc.rehash fun _ _ hl => nomatch hl⟩
  | wforeach cb =>
    obtain ⟨d, hlive, hstep⟩ := Option.bind_eq_some_iff.1 hstep
    obtain rfl := live_eq_some hlive
    obtain ⟨-, rfl⟩ := Prod.mk.inj (Option.some.inj hstep)
    obtain ⟨hs', hc'⟩ := wforeach_stored hs hc cb
    exact .inl ⟨trivial, ⟨hs', hc'⟩, hstays hs' hc' fun _ _ hl => nomatch hl⟩
  | readFrom memory is =>
    obtain ⟨⟨b, t₁⟩, hread, heq⟩ := Option.bind_eq_some_iff.1 hstep
    obtain ⟨rfl, rfl⟩ := Prod.mk.inj (Option.some.inj heq)
    obtain ⟨hthere, hkept, hreleased⟩ := readFrom_ret hread
    cases b with
    | true =>
      obtain ⟨hs', hc'⟩ := hkept rfl
      refine .inl ⟨hthere.1 rfl, ⟨hs', hc'⟩, (roundTrip_iff_counted hs' hmem).2 hc', ?_⟩
      rintro ⟨memory', is', hl⟩
      cases hl
    | false =>
      refine .inr ⟨fun hmeets => Bool.false_ne_true (hthere.2 hmeets), fun hst => ?_⟩
      exact not_usable (hreleased rfl) (hst.usable ⟨memory, is, rfl⟩)

end

/-! ## Runs -/

/-- **A map stays usable**, over all operations whose results are in memory, if and only if every
    stream is there as a whole and no operation miscounts. -/
theorem stays_iff_meets [Inhabited K] {t t' : HashMultimap K V} {ls : List (Act K V × Answer V)}
    (h : Sound t ∧ Counted t) :
    Run (fun t l t' => (performs hash podV podN t l t' ∧ InMemory podV podN t') ∧ Stays hash podV podN t l t')
        t ls t' ↔
      Run (fun t l t' => (performs hash podV podN t l t' ∧ InMemory podV podN t') ∧ Meets hash t l.1)
        t ls t' := by
  refine Run.and_iff_and (I := fun t => Sound t ∧ Counted t) (fun t l t' h hstep hstays => ?_)
    (fun t l t' h hstep => ?_) h
  · rcases perform_ret h.1 h.2 hstep.1 hstep.2 with ⟨-, hkept, -⟩ | ⟨-, hnot⟩
    · exact hkept
    · exact absurd hstays hnot
  · rcases perform_ret h.1 h.2 hstep.1 hstep.2 with ⟨hmeets, -, hs⟩ | ⟨hmeets, hnot⟩
    · exact iff_of_true hs hmeets
    · exact iff_of_false hnot hmeets

end HashMultimap

end Ancfl.Ds
