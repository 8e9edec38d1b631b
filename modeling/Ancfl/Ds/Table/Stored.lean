/-
  Tables that are written to a stream and read again.

  * `pushed`, `replaced`, `removed`, `rehash_entries`, `wforeach_ret`: what the pieces of the
    operations do to the nodes, wherever these are;
  * `Whole t`: `m_datas` has `m_size` vectors and `m_total` counts their nodes. A
    released `m_datas` has none, whatever `m_size` is;
  * `Loaded` is what `readFrom` finds in a stream: `readNodes` in `HashMap`,
    `readArrays` in `Dict` and `HashMultimap`; `install` is what becomes of the table;
  * `readNodes_image` and `readArrays_image`: what `writeTo` wrote is read;
  * `Same t t'`: the nodes of `t` are those of `t'`.
-/
import Ancfl.Ds.Table
import Ancfl.Lib.Pod

namespace Ancfl.Ds

open Lib

namespace Table

variable {K P : Type} (hash : K → UInt32)

/-! ## The nodes of a table -/

/-- The vectors are there, and `m_total` counts the nodes. -/
structure Whole (t : Table K P) : Prop where
  length_eq : t.datas.length = t.size
  total_eq : t.total = t.entries.length

/-- The table, if its vectors can be used. `m_datas` is null after it was released: it has no vector
    then, and `m_size` may be of another state. -/
def live (t : Table K P) : Option (Table K P) := if t.datas.length = t.size then some t else none

/-- The inner loop of `wforeach`: the callback may change the value, and goes on or not. -/
def visitVector (cb : K → P → P × Bool) : List (Node K P) → List (Node K P) × Bool
  | [] => ([], true)
  | n :: l =>
    let (v, go) := cb n.key n.val
    if go then
      let (l', go') := visitVector cb l
      (⟨n.key, v⟩ :: l', go')
    else (⟨n.key, v⟩ :: l, false)

def visitVectors (cb : K → P → P × Bool) : List (List (Node K P)) → List (List (Node K P))
  | [] => []
  | l :: ls =>
    let (l', go) := visitVector cb l
    if go then l' :: visitVectors cb ls else l' :: ls

def wforeach (t : Table K P) (cb : K → P → P × Bool) : Table K P :=
  { t with datas := visitVectors cb t.datas }

section
variable {hash} {t : Table K P} {k : K} {pos it : ℕ} {l : List (Node K P)} {n : Node K P}

theorem basket_lt (n : ℤ) : basket n < 2 ^ 64 := by
  have hle : 2 ^ min (n.natAbs.log2 + 1) 30 ≤ 2 ^ 30 :=
    Nat.pow_le_pow_right Nat.two_pos (Nat.min_le_right _ _)
  rw [basket]
  split_ifs <;> omega

/-- A new table has no nodes. -/
theorem new_ret (size : UInt32) : Whole (new K P size) ∧ (new K P size).size < 2 ^ 64 ∧
    (new K P size).entries = [] := by
  obtain ⟨n, hn, hnew⟩ : ∃ n, n < 2 ^ 64 ∧ new K P size = ⟨n, 0, List.replicate n []⟩ :=
    ⟨_, basket_lt _, rfl⟩
  have hentries : (⟨n, 0, List.replicate n []⟩ : Table K P).entries = [] :=
    List.flatten_eq_nil_iff.2 fun _ hl => List.eq_of_mem_replicate hl
  rw [hnew]
  exact ⟨⟨List.length_replicate, by rw [hentries]; rfl⟩, hn, hentries⟩

theorem Whole.live_eq (h : Whole t) : t.live = some t := if_pos h.length_eq

theorem live_eq_some {t' : Table K P} (h : t.live = some t') : t' = t := by
  rw [live] at h
  split_ifs at h
  exact (Option.some.inj h).symm

theorem bucket_released (size total : ℕ) : (⟨size, total, []⟩ : Table K P).bucket hash k = none := by
  rw [bucket]
  split_ifs <;> rfl

theorem getElem?_of_bucket (h : t.bucket hash k = some (pos, l)) : t.datas[pos]? = some l := by
  rw [bucket] at h
  split_ifs at h
  obtain ⟨l', hl', heq⟩ := Option.map_eq_some_iff.1 h
  obtain ⟨rfl, rfl⟩ := Prod.mk.inj heq
  exact hl'

/-- The nodes of one vector, among the others. -/
theorem entries_perm (h : t.datas[pos]? = some l) : ∃ r, t.entries.Perm (l ++ r) ∧
    ∀ l' total, (t.put pos l' total).entries.Perm (l' ++ r) := by
  obtain ⟨hpos, rfl⟩ := List.getElem?_eq_some_iff.1 h
  refine ⟨(t.datas.take pos).flatten ++ (t.datas.drop (pos + 1)).flatten, ?_, fun l' total => ?_⟩
  · have hdatas := List.take_append_drop pos t.datas
    rw [List.drop_eq_getElem_cons hpos] at hdatas
    rw [entries, ← congrArg List.flatten hdatas, List.flatten_append, List.flatten_cons]
    exact List.perm_append_comm_assoc _ _ _
  · rw [entries, put, List.set_eq_take_append_cons_drop, if_pos hpos, List.flatten_append, List.flatten_cons]
    exact List.perm_append_comm_assoc _ _ _

theorem Whole.put (h : Whole t) {l' : List (Node K P)} {total : ℕ}
    (htotal : total = (t.put pos l' total).entries.length) : Whole (t.put pos l' total) :=
  ⟨List.length_set.trans h.length_eq, htotal⟩

/-- **Another value in a node.** -/
theorem replaced (hb : t.bucket hash k = some (pos, l)) (hit : l[it]? = some n) (n' : Node K P) (total : ℕ) :
    ∃ r, t.entries.Perm (n :: r) ∧ (t.put pos (l.set it n') total).entries.Perm (n' :: r) := by
  obtain ⟨r, hr, hput⟩ := entries_perm (getElem?_of_bucket hb)
  obtain ⟨hlt, rfl⟩ := List.getElem?_eq_some_iff.1 hit
  refine ⟨l.take it ++ l.drop (it + 1) ++ r, hr.trans ?_, (hput _ total).trans ?_⟩
  · have hl := List.take_append_drop it l
    rw [List.drop_eq_getElem_cons hlt] at hl
    rw [← List.cons_append]
    refine List.Perm.append_right r ?_
    calc l = l.take it ++ l[it] :: l.drop (it + 1) := hl.symm
      List.Perm _ (l[it] :: (l.take it ++ l.drop (it + 1))) := List.perm_middle
  · rw [List.set_eq_take_append_cons_drop, if_pos hlt, ← List.cons_append]
    exact List.Perm.append_right r List.perm_middle

theorem Whole.replaced (h : Whole t) (hb : t.bucket hash k = some (pos, l)) (hit : l[it]? = some n)
    (n' : Node K P) : Whole (t.put pos (l.set it n') t.total) := by
  obtain ⟨r, hr, hput⟩ := Table.replaced hb hit n' t.total
  exact h.put (by rw [hput.length_eq, h.total_eq, hr.length_eq, List.length_cons, List.length_cons])

/-- A node after the callback. -/
def Visited (cb : K → P → P × Bool) (n n' : Node K P) : Prop :=
  n'.key = n.key ∧ (n'.val = n.val ∨ n'.val = (cb n.key n.val).1)

theorem visitVector_ret (cb : K → P → P × Bool) (l : List (Node K P)) :
    List.Forall₂ (Visited cb) l (visitVector cb l).1 := by
  have hsame (l : List (Node K P)) : List.Forall₂ (Visited cb) l l :=
    List.forall₂_same.2 fun _ _ => ⟨rfl, .inl rfl⟩
  induction l with
  | nil => exact .nil
  | cons n l ih =>
    rw [visitVector]
    rcases hcb : cb n.key n.val with ⟨v, go⟩
    have hn : Visited cb n ⟨n.key, v⟩ := ⟨rfl, .inr (by rw [hcb])⟩
    cases go with
    | true => exact .cons hn ih
    | false => exact .cons hn (hsame l)

/-- **`wforeach`** changes values only. -/
theorem wforeach_ret (cb : K → P → P × Bool) (t : Table K P) :
    (t.wforeach cb).datas.length = t.datas.length ∧
      List.Forall₂ (Visited cb) t.entries (t.wforeach cb).entries := by
  have hall (ls : List (List (Node K P))) :
      List.Forall₂ (List.Forall₂ (Visited cb)) ls (visitVectors cb ls) := by
    induction ls with
    | nil => exact .nil
    | cons l ls ih =>
      have hl := visitVector_ret cb l
      rw [visitVectors]
      rcases hvisit : visitVector cb l with ⟨l', go⟩
      rw [hvisit] at hl
      cases go with
      | true => exact .cons hl ih
      | false =>
        refine .cons hl (List.forall₂_same.2 fun l _ => List.forall₂_same.2 fun _ _ => ⟨rfl, .inl rfl⟩)
  exact ⟨(hall t.datas).length_eq.symm, List.rel_flatten (hall t.datas)⟩

theorem Whole.wforeach (h : Whole t) (cb : K → P → P × Bool) : Whole (t.wforeach cb) := by
  obtain ⟨hlen, hentries⟩ := wforeach_ret cb t
  exact ⟨hlen.trans h.length_eq, h.total_eq.trans hentries.length_eq⟩

variable [LinearOrder K]

/-- **Appending a node.** -/
theorem pushed (hb : t.bucket hash k = some (pos, l)) (n : Node K P) (total : ℕ) :
    (t.put pos (push l n) total).entries.Perm (n :: t.entries) := by
  obtain ⟨r, hr, hput⟩ := entries_perm (getElem?_of_bucket hb)
  have hpush : (push l n).Perm (n :: l) := by
    rw [push, sortLast]
    split_ifs
    · exact List.perm_append_singleton n l
    · exact (sinkLast_perm _ _).trans (List.perm_append_singleton n l)
  exact (hput _ total).trans ((hpush.append_right r).trans (hr.symm.cons n))

theorem Whole.pushed (h : Whole t) (hb : t.bucket hash k = some (pos, l)) (n : Node K P) :
    Whole (t.put pos (push l n) (t.total + 1)) :=
  h.put (by rw [(Table.pushed hb n _).length_eq, h.total_eq, List.length_cons])

/-- **Removing a node.** -/
theorem removed (hb : t.bucket hash k = some (pos, l)) (hit : l[it]? = some n) (total : ℕ) :
    t.entries.Perm (n :: (t.put pos (remove l it) total).entries) := by
  obtain ⟨r, hr, hput⟩ := entries_perm (getElem?_of_bucket hb)
  obtain ⟨hlt, rfl⟩ := List.getElem?_eq_some_iff.1 hit
  obtain ⟨a, b, hl, ha⟩ : ∃ a b, l = a ++ l[it] :: b ∧ a.length = it := by
    refine ⟨l.take it, l.drop (it + 1), ?_, List.length_take_of_le hlt.le⟩
    rw [← List.drop_eq_getElem_cons hlt, List.take_append_drop]
  obtain ⟨l', hremove, hl'⟩ := remove_eq (a := a) (b := b) l[it]
  rw [← hl, ha] at hremove
  have hsort : (remove l it).Perm (a ++ b) := hremove ▸ (sortBy_perm l').trans hl'
  have hmiddle : l.Perm (l[it] :: (a ++ b)) := by
    conv_lhs => rw [hl]
    exact List.perm_middle
  refine hr.trans ((hmiddle.append_right r).trans ?_)
  exact ((hsort.symm.append_right r).trans (hput _ total).symm).cons _

theorem Whole.removed (h : Whole t) (hb : t.bucket hash k = some (pos, l)) (hit : l[it]? = some n) :
    Whole (t.put pos (remove l it) (t.total - 1)) := by
  have hlen := (Table.removed hb hit (t.total - 1)).length_eq
  rw [List.length_cons] at hlen
  refine h.put ?_
  rw [h.total_eq] at hlen ⊢
  omega

variable (hash) in
theorem distribute_sorted {size : ℕ} (hsize : 0 < size) (ns : List (Node K P)) :
    ((distribute hash size ns).map (sortBy Node.key)).flatten.Perm ns ∧
      ((distribute hash size ns).map (sortBy Node.key)).length = size := by
  obtain ⟨hlen, hperm, -⟩ := distribute_ret hash hsize ns
  refine ⟨List.Perm.trans (List.Perm.flatten_congr ?_) hperm, by rw [List.length_map, hlen]⟩
  rw [List.forall₂_map_left_iff, List.forall₂_same]
  exact fun l _ => sortBy_perm l

/-- **Rehashing** moves the nodes. -/
theorem rehash_entries (t : Table K P) : (t.rehash hash).entries.Perm t.entries := by
  rw [rehash, rehashUnlock]
  split_ifs
  · rfl
  · exact (distribute_sorted hash (basket_pos _) t.datas.flatten).1
  · rfl

theorem Whole.rehash (h : Whole t) : Whole (t.rehash hash) := by
  refine ⟨?_, by rw [rehash_total, rehash_entries t |>.length_eq, h.total_eq]⟩
  obtain ⟨-, hlen⟩ := distribute_sorted hash (basket_pos (toInt32 t.total)) t.datas.flatten
  rw [Table.rehash, rehashUnlock]
  split_ifs
  · exact h.length_eq
  · rw [hlen]
  · exact h.length_eq

end

/-! ## What is found in a stream -/

/-- Which of the allocations in `readFrom` succeed. -/
structure Memory where
  values : Bool
  nodes : Bool
  buckets : Bool

def Memory.all : Memory := ⟨true, true, true⟩

/-- The stream ends before the nodes, or there is no memory; there is no memory for the vectors, when
    `m_total` is set; the nodes are read. -/
inductive Loaded (K P : Type)
  | broken
  | unallocated (total : ℕ)
  | nodes (ns : List (Node K P))

/-- `m_size` after `ReadFromStream(is, m_size)`: of a stream that ends before, the bytes that are
    there. -/
def readBuckets (size : ℕ) (is : List UInt8) : ℕ := leNat (overwrite (leBytes 8 size) 0 (is.take 8))

/-- The nodes of a `HashMap`, behind the number of buckets. -/
def readNodes (pod : Pod (Node K P)) (memory : Memory) (is : List UInt8) : Option (Loaded K P) :=
  if is.length < 8 then some .broken
  else
    match pod.readSized memory.nodes (is.drop 8) with
    | none => none
    | some none => some .broken
    | some (some (ns, _)) =>
      if memory.buckets = false then some (.unallocated ns.length) else some (.nodes ns)

/-- A node with an array, as in memory: `size` has the bits of an `int`, `val` is a pointer. -/
structure RawNode (K : Type) where
  key : K
  size : UInt32
  val : UInt64

variable {V : Type}

/-- `n.val = (V*)offset;` -/
def rawNodes : List (Node K (List V)) → (offset : ℕ) → List (RawNode K)
  | [], _ => []
  | n :: ns, offset =>
    ⟨n.key, UInt32.ofNat n.val.length, UInt64.ofNat offset⟩ :: rawNodes ns (offset + n.val.length)

/-- `n.val = &vs[0] + (uint64_t)n.val;` for arrays that are one behind the other, as `writeTo` puts
    them. Other nodes would have values in common, or values that are not in `vs`. -/
def cut (vs : List V) : List (RawNode K) → (offset : ℕ) → Option (List (Node K (List V)))
  | [], _ => some []
  | n :: ns, offset =>
    let size := n.size.toNat
    if n.val.toNat = offset ∧ 0 < size ∧ size < 2 ^ 31 ∧ offset + size ≤ vs.length then do
      let ns ← cut vs ns (offset + size)
      return ⟨n.key, slice vs offset size⟩ :: ns
    else none

/-- The nodes of a `Dict` or a `HashMultimap`, behind the number of buckets and the values. -/
def readArrays (podV : Pod V) (podN : Pod (RawNode K)) (memory : Memory) (is : List UInt8) :
    Option (Loaded K (List V)) :=
  if is.length < 8 then some .broken
  else
    match podV.readSized memory.values (is.drop 8) with
    | none => none
    | some none => some .broken
    | some (some (vs, is)) =>
      match podN.readSized memory.nodes is with
      | none => none
      | some none => some .broken
      | some (some (ns, _)) =>
        if memory.buckets = false then some (.unallocated ns.length) else (cut vs ns 0).map .nodes

/-- All that `readNodes` needs is there. -/
def NodesThere (memory : Memory) (is : List UInt8) : Prop :=
  memory.nodes = true ∧ memory.buckets = true ∧ 8 ≤ is.length ∧ Pod.Announced is 8

/-- All that `readArrays` needs is there. -/
def ArraysThere (memory : Memory) (is : List UInt8) : Prop :=
  memory.values = true ∧ memory.nodes = true ∧ memory.buckets = true ∧ 8 ≤ is.length ∧
    Pod.Announced is 8 ∧ Pod.Announced is (Pod.behind is 8)

theorem readNodes_ret {pod : Pod (Node K P)} {memory : Memory} {is : List UInt8} {r : Loaded K P}
    (h : readNodes pod memory is = some r) : (∃ ns, r = .nodes ns) ↔ NodesThere memory is := by
  rw [readNodes] at h
  by_cases h8 : is.length < 8
  · rw [if_pos h8] at h
    cases h
    refine iff_of_false (fun ⟨_, hr⟩ => nomatch hr) fun hr => ?_
    have := hr.2.2.1
    omega
  · rw [if_neg h8] at h
    rcases hread : pod.readSized memory.nodes (is.drop 8) with _ | o
    · rw [hread] at h
      cases h
    · have hsome := (pod.readSized_drop hread).1
      rw [hread] at h
      rcases o with _ | ⟨ns, rest⟩
      · cases h
        refine iff_of_false (fun ⟨_, hr⟩ => nomatch hr) fun hr => ?_
        exact Bool.false_ne_true (hsome.2 ⟨hr.1, hr.2.2.2⟩)
      · obtain ⟨hnodes, hthere⟩ := hsome.1 rfl
        simp only at h
        split_ifs at h with hbuckets
        · cases h
          refine iff_of_false (fun ⟨_, hr⟩ => nomatch hr) fun hr => ?_
          exact Bool.false_ne_true (hbuckets.symm.trans hr.2.1)
        · cases h
          exact iff_of_true ⟨ns, rfl⟩ ⟨hnodes, Bool.eq_true_of_not_eq_false hbuckets, by omega, hthere⟩

theorem cut_ret {vs : List V} {raws : List (RawNode K)} {offset : ℕ} {ns : List (Node K (List V))}
    (h : cut vs raws offset = some ns) : ∀ n ∈ ns, 0 < n.val.length ∧ n.val.length < 2 ^ 31 := by
  induction raws generalizing offset ns with
  | nil =>
    cases h
    exact fun n hn => (nomatch hn)
  | cons raw raws ih =>
    rw [cut] at h
    split_ifs at h with hraw
    obtain ⟨ns', hns', heq⟩ := Option.bind_eq_some_iff.1 h
    obtain ⟨-, hpos, h31, hend⟩ := hraw
    rw [← Option.some.inj heq]
    intro n hn
    rcases List.mem_cons.1 hn with rfl | hn
    · rw [length_slice hend]
      exact ⟨hpos, h31⟩
    · exact ih hns' n hn

theorem readArrays_ret {podV : Pod V} {podN : Pod (RawNode K)} {memory : Memory} {is : List UInt8}
    {r : Loaded K (List V)} (h : readArrays podV podN memory is = some r) :
    ((∃ ns, r = .nodes ns) ↔ ArraysThere memory is) ∧
      ∀ ns, r = .nodes ns → ∀ n ∈ ns, 0 < n.val.length ∧ n.val.length < 2 ^ 31 := by
  have hbroken {p : Prop} (hp : ¬p) (hr : r = .broken) : ((∃ ns, r = .nodes ns) ↔ p) ∧
      ∀ ns, r = .nodes ns → ∀ n ∈ ns, 0 < n.val.length ∧ n.val.length < 2 ^ 31 := by
    subst hr
    exact ⟨iff_of_false (fun ⟨_, hr⟩ => nomatch hr) hp, fun ns hr => (nomatch hr)⟩
  rw [readArrays] at h
  by_cases h8 : is.length < 8
  · rw [if_pos h8] at h
    refine hbroken (fun hr => ?_) (Option.some.inj h).symm
    have := hr.2.2.2.1
    omega
  rw [if_neg h8] at h
  rcases hvals : podV.readSized memory.values (is.drop 8) with _ | o
  · rw [hvals] at h
    cases h
  obtain ⟨hsomeV, hrest⟩ := podV.readSized_drop hvals
  rw [hvals] at h
  rcases o with _ | ⟨vs, rest⟩
  · refine hbroken (fun hr => ?_) (Option.some.inj h).symm
    exact Bool.false_ne_true (hsomeV.2 ⟨hr.1, hr.2.2.2.2.1⟩)
  obtain ⟨hvalues, hthereV⟩ := hsomeV.1 rfl
  obtain rfl := hrest vs rest rfl
  rcases hnodes : podN.readSized memory.nodes (is.drop (Pod.behind is 8)) with _ | o
  · simp only [hnodes] at h
    cases h
  have hsomeN := (podN.readSized_drop hnodes).1
  simp only [hnodes] at h
  rcases o with _ | ⟨raws, rest⟩
  · refine hbroken (fun hr => ?_) (Option.some.inj h).symm
    exact Bool.false_ne_true (hsomeN.2 ⟨hr.2.1, hr.2.2.2.2.2⟩)
  obtain ⟨hmem, hthereN⟩ := hsomeN.1 rfl
  by_cases hbuckets : memory.buckets = false
  · simp only [if_pos hbuckets] at h
    cases h
    refine ⟨iff_of_false (fun ⟨_, hr⟩ => nomatch hr) fun hr => ?_, fun ns hr => (nomatch hr)⟩
    exact Bool.false_ne_true (hbuckets.symm.trans hr.2.2.1)
  · simp only [if_neg hbuckets] at h
    obtain ⟨ns, hcut, rfl⟩ := Option.map_eq_some_iff.1 h
    refine ⟨iff_of_true ⟨ns, rfl⟩ ⟨hvalues, hmem, Bool.eq_true_of_not_eq_false hbuckets, by omega, hthereV,
      hthereN⟩, fun ns' hr => ?_⟩
    cases hr
    exact cut_ret hcut

/-! ## What `writeTo` writes -/

/-- The stream of the buckets and nodes of a `HashMap`. -/
def nodesImage (pod : Pod (Node K P)) (t : Table K P) : List UInt8 :=
  leBytes 8 t.size ++ pod.writeSized t.entries

/-- The stream of the buckets, values and nodes of a `Dict` or a `HashMultimap`; `ns` are the nodes
    that are written. -/
def arraysImage (podV : Pod V) (podN : Pod (RawNode K)) (size : ℕ) (ns : List (Node K (List V))) :
    List UInt8 :=
  leBytes 8 size ++ (podV.writeSized (ns.flatMap Node.val) ++ podN.writeSized (rawNodes ns 0))

theorem readBuckets_leBytes {size : ℕ} (hsize : size < 2 ^ 64) (old : ℕ) (r : List UInt8) :
    readBuckets old (leBytes 8 size ++ r) = size := by
  have hlen : (leBytes 8 size).length = 8 := length_leBytes 8 size
  have htake : (leBytes 8 size ++ r).take 8 = leBytes 8 size := hlen ▸ List.take_left
  have hold : (leBytes 8 old).drop (leBytes 8 size).length = [] := by
    rw [hlen, List.drop_of_length_le (length_leBytes 8 old).le]
  rw [readBuckets, htake, overwrite_zero, hold, List.append_nil, leNat_leBytes,
    show 256 ^ 8 = 2 ^ 64 from rfl, Nat.mod_eq_of_lt hsize]

theorem readBuckets_lt (size : ℕ) (is : List UInt8) : readBuckets size is < 2 ^ 64 := by
  have hle : 0 + (is.take 8).length ≤ (leBytes 8 size).length := by
    rw [length_leBytes, List.length_take]
    omega
  have hlt := leNat_lt (overwrite (leBytes 8 size) 0 (is.take 8))
  rwa [length_overwrite hle, length_leBytes] at hlt

theorem drop_leBytes (size : ℕ) (r : List UInt8) :
    ¬(leBytes 8 size ++ r).length < 8 ∧ (leBytes 8 size ++ r).drop 8 = r := by
  have hlen : (leBytes 8 size).length = 8 := length_leBytes 8 size
  exact ⟨by rw [List.length_append, hlen]; omega, hlen ▸ List.drop_left⟩

theorem readNodes_image {pod : Pod (Node K P)} {t : Table K P} (hbytes : t.entries.length * pod.size < 2 ^ 64)
    (r : List UInt8) : readNodes pod .all (nodesImage pod t ++ r) = some (.nodes t.entries) := by
  obtain ⟨h8, hdrop⟩ := drop_leBytes t.size (pod.writeSized t.entries ++ r)
  rw [readNodes, nodesImage, List.append_assoc, if_neg h8, hdrop, Memory.all, pod.readSized_writeSized hbytes]
  exact if_neg Bool.false_ne_true.symm

theorem length_rawNodes (ns : List (Node K (List V))) (offset : ℕ) :
    (rawNodes ns offset).length = ns.length := by
  induction ns generalizing offset with
  | nil => rfl
  | cons n ns ih => rw [rawNodes, List.length_cons, List.length_cons, ih]

/-- **The arrays are found** where `writeTo` put them. -/
theorem cut_rawNodes {ns : List (Node K (List V))} (hns : ∀ n ∈ ns, 0 < n.val.length ∧ n.val.length < 2 ^ 31)
    {vs : List V} (hbytes : (vs ++ ns.flatMap Node.val).length < 2 ^ 64) :
    cut (vs ++ ns.flatMap Node.val) (rawNodes ns vs.length) vs.length = some ns := by
  induction ns generalizing vs with
  | nil => rfl
  | cons n ns ih =>
    obtain ⟨hn, hns⟩ := List.forall_mem_cons.1 hns
    have happend : vs ++ (n :: ns).flatMap Node.val = (vs ++ n.val) ++ ns.flatMap Node.val := by
      rw [List.flatMap_cons, List.append_assoc]
    rw [happend] at hbytes ⊢
    have hlen := hbytes
    rw [List.length_append, List.length_append] at hlen
    have hsize : (UInt32.ofNat n.val.length).toNat = n.val.length := by
      rw [UInt32.toNat_ofNat']
      omega
    have hoffset : (UInt64.ofNat vs.length).toNat = vs.length := by
      rw [UInt64.toNat_ofNat']
      omega
    have hslice : slice ((vs ++ n.val) ++ ns.flatMap Node.val) vs.length n.val.length = n.val := by
      rw [slice, List.append_assoc, List.drop_left, List.take_left]
    have hrest := ih hns hbytes
    rw [List.length_append] at hrest
    rw [rawNodes, cut]
    simp only [hsize, hoffset, hslice, hrest, List.length_append]
    rw [if_pos ⟨trivial, hn.1, hn.2, by omega⟩]
    rfl

theorem readArrays_image {podV : Pod V} {podN : Pod (RawNode K)} {size : ℕ} {ns : List (Node K (List V))}
    (hns : ∀ n ∈ ns, 0 < n.val.length ∧ n.val.length < 2 ^ 31)
    (hvalues : (ns.flatMap Node.val).length * podV.size < 2 ^ 64) (hnodes : ns.length * podN.size < 2 ^ 64)
    (r : List UInt8) : readArrays podV podN .all (arraysImage podV podN size ns ++ r) = some (.nodes ns) := by
  obtain ⟨h8, hdrop⟩ := drop_leBytes size
    (podV.writeSized (ns.flatMap Node.val) ++ (podN.writeSized (rawNodes ns 0) ++ r))
  have hlt : (ns.flatMap Node.val).length < 2 ^ 64 :=
    lt_of_le_of_lt (Nat.le_mul_of_pos_right _ podV.size_pos) hvalues
  have hraw : (rawNodes ns 0).length * podN.size < 2 ^ 64 := by rwa [length_rawNodes]
  have hcut : cut (ns.flatMap Node.val) (rawNodes ns 0) 0 = some ns := by
    have hcut := @cut_rawNodes K V ns hns [] (by rwa [List.nil_append])
    rwa [List.nil_append] at hcut
  rw [readArrays, arraysImage, List.append_assoc, List.append_assoc, if_neg h8, hdrop, Memory.all,
    podV.readSized_writeSized hvalues]
  simp only [podN.readSized_writeSized hraw]
  rw [if_neg Bool.false_ne_true.symm]
  rw [hcut]
  rfl

/-! ## What becomes of the table -/

variable [LinearOrder K]

/-- The nodes are pushed into the vectors of their keys, which are then sorted. -/
def load (size : ℕ) (ns : List (Node K P)) : Table K P :=
  ⟨size, ns.length, (distribute hash size ns).map (sortBy Node.key)⟩

/-- The end of `readFrom`, after `freeDatas` and with the `m_size` that was read; a node is put into
    the vector of a position modulo `m_size`. -/
def install (t : Table K P) (size : ℕ) : Loaded K P → Option (Bool × Table K P)
  | .broken => some (false, ⟨size, t.total, []⟩)
  | .unallocated total => some (false, ⟨size, total, []⟩)
  | .nodes ns => if size = 0 ∧ ns ≠ [] then none else some (true, load hash size ns)

/-- The nodes, `m_total` and what is found are the same. -/
structure Same (t t' : Table K P) : Prop where
  entries : t'.entries.Perm t.entries
  total_eq : t'.total = t.total
  holds : ∀ m, Rep hash t m → Rep hash t' m

section
variable {hash}

variable (hash) in
theorem whole_load {size : ℕ} {ns : List (Node K P)} (h : ¬(size = 0 ∧ ns ≠ [])) :
    Whole (load hash size ns) ∧ (load hash size ns).entries.Perm ns := by
  rcases Nat.eq_zero_or_pos size with rfl | hsize
  · obtain rfl : ns = [] := by
      by_contra hns
      exact h ⟨rfl, hns⟩
    exact ⟨⟨rfl, rfl⟩, List.Perm.nil⟩
  · obtain ⟨hperm, hlen⟩ := distribute_sorted hash hsize ns
    exact ⟨⟨hlen, hperm.length_eq.symm⟩, hperm⟩

/-- **What is read is there, or nothing is.** -/
theorem install_ret {t t' : Table K P} {size : ℕ} {r : Loaded K P} {b : Bool}
    (h : install hash t size r = some (b, t')) :
    (b = true ↔ ∃ ns, r = .nodes ns) ∧ (b = false → t'.datas = []) ∧
      ∀ ns, r = .nodes ns → Whole t' ∧ t'.entries.Perm ns := by
  have hbroken {size total : ℕ} (hr : ∀ ns, r ≠ .nodes ns)
      (heq : some (false, (⟨size, total, []⟩ : Table K P)) = some (b, t')) :
      (b = true ↔ ∃ ns, r = .nodes ns) ∧ (b = false → t'.datas = []) ∧
        ∀ ns, r = .nodes ns → Whole t' ∧ t'.entries.Perm ns := by
    obtain ⟨rfl, rfl⟩ := Prod.mk.inj (Option.some.inj heq)
    refine ⟨iff_of_false Bool.false_ne_true fun ⟨ns, hns⟩ => hr ns hns, fun _ => rfl, fun ns hns => ?_⟩
    exact absurd hns (hr ns)
  cases r with
  | broken => exact hbroken (fun _ hr => nomatch hr) h
  | unallocated total => exact hbroken (fun _ hr => nomatch hr) h
  | nodes ns =>
    rw [install] at h
    split_ifs at h with hsize
    obtain ⟨rfl, rfl⟩ := Prod.mk.inj (Option.some.inj h)
    refine ⟨iff_of_true rfl ⟨ns, rfl⟩, fun hb => (nomatch hb), fun ns' hr => ?_⟩
    cases hr
    exact whole_load hash hsize

variable (hash) in
/-- **The nodes of a table, read again.** -/
theorem Whole.install_entries {t : Table K P} (h : Whole t) (u : Table K P) :
    ∃ t', install hash u t.size (.nodes t.entries) = some (true, t') ∧ Same hash t t' := by
  have hsize : ¬(t.size = 0 ∧ t.entries ≠ []) := by
    rintro ⟨hsize, hns⟩
    rw [← h.length_eq] at hsize
    exact hns (by rw [entries, List.length_eq_zero_iff.1 hsize]; rfl)
  obtain ⟨-, hperm⟩ := whole_load hash hsize
  refine ⟨load hash t.size t.entries, if_neg hsize, hperm, h.total_eq.symm, fun m hm => ?_⟩
  rw [load, ← h.total_eq]
  exact hm.resized hm.size_pos

end

end Table

end Ancfl.Ds
