/-
  `Dict`: a `Table` with an array of values in each node, which `insert` replaces
  as a whole.

  * `get`, `existsKey`, `insert`, `del`, `writeTo`, `readFrom` as in the source;
    `perform` is one of them, on a dictionary whose `m_datas` may be null;
  * `RoundTrip` and `Usable` are as for a `HashMap`;
  * `stays_iff_meets`: all of it holds in the runs that read whole streams only,
    and insert arrays whose size is an `int`.
-/
import Ancfl.Ds.HashMap.Stored

namespace Ancfl.Ds

open Lib Table

/-- The nodes have an array and its size, an `int`. Arrays longer than that are there, but their size
    is negative. -/
abbrev Dict (K V : Type) := Table K (List V)

namespace Dict

variable {K V : Type} [LinearOrder K] (hash : K → UInt32) (podV : Pod V) (podN : Pod (RawNode K))

/-! ## The operations -/

/-- `get(k)` and `get(k, v)`; an array of negative size is not copied. -/
def get (t : Dict K V) (k : K) : Option (Option (List V)) := do
  let (_, l) ← t.bucket hash k
  match l[binarySearch Node.key l k]? with
  | none => return none
  | some n => if n.val.length < 2 ^ 31 then return some n.val else none

def existsKey (t : Dict K V) (k : K) : Option Bool := HashMap.existsKey hash t k

/-- `insert(k, v, size)`, where `size` is a `uint32_t`; a new array of negative size is not allocated,
    one in the place of another is. -/
def insert (t : Dict K V) (k : K) (vs : List V) : Option (Bool × Dict K V) :=
  if vs.isEmpty then some (true, t)
  else do
    let t ← t.live
    let t := if t.needRehash then t.rehash hash else t
    let (pos, l) ← t.bucket hash k
    let it := binarySearch Node.key l k
    match l[it]? with
    | none =>
      if vs.length < 2 ^ 31 then return (true, t.put pos (push l ⟨k, vs⟩) (t.total + 1)) else none
    | some n =>
      if vs.length < 2 ^ 32 then return (true, t.put pos (l.set it ⟨n.key, vs⟩) t.total) else none

def del (t : Dict K V) (k : K) : Option (Bool × Dict K V) := HashMap.del hash t k

/-- The values of a node are copied up to `n.val + n.size`. -/
def writeTo (t : Dict K V) : Option (List UInt8) := do
  let t ← t.live
  if ∀ n ∈ t.entries, n.val.length < 2 ^ 31 then return arraysImage podV podN t.size t.entries else none

def readFrom (t : Dict K V) (memory : Memory) (is : List UInt8) : Option (Bool × Dict K V) := do
  let r ← readArrays podV podN memory is
  install hash t (readBuckets t.size is) r

inductive Act (K V : Type)
  | get (k : K)
  | existsKey (k : K)
  | insert (k : K) (vs : List V)
  | del (k : K)
  | rehash
  | readFrom (memory : Memory) (is : List UInt8)

inductive Answer (V : Type)
  | values (vs : Option (List V))
  | bool (b : Bool)
  | unit

def perform (t : Dict K V) : Act K V → Option (Answer V × Dict K V)
  | .get k => do
    let vs ← get hash t k
    return (.values vs, t)
  | .existsKey k => do
    let b ← existsKey hash t k
    return (.bool b, t)
  | .insert k vs => do
    let (b, t) ← insert hash t k vs
    return (.bool b, t)
  | .del k => do
    let (b, t) ← del hash t k
    return (.bool b, t)
  | .rehash =>
    if t.needRehash ∧ basket (toInt32 t.total) ≠ t.size ∧ ¬t.live.isSome then none
    else some (.unit, t.rehash hash)
  | .readFrom memory is => do
    let (b, t) ← readFrom hash podV podN t memory is
    return (.bool b, t)

def performs (t : Dict K V) (l : Act K V × Answer V) (t' : Dict K V) : Prop :=
  perform hash podV podN t l.1 = some (l.2, t')

/-- The sizes are those of objects in memory. -/
def InMemory (t : Dict K V) : Prop := t.size < 2 ^ 64 ∧
  (t.entries.flatMap Node.val).length * podV.size < 2 ^ 64 ∧ t.entries.length * podN.size < 2 ^ 64

/-! ## Dictionaries that stay usable -/

/-- What `writeTo` writes is read into any dictionary as the same one. -/
def RoundTrip (t : Dict K V) : Prop := ∃ bytes, writeTo podV podN t = some bytes ∧
  ∀ u rest, ∃ t', readFrom hash podV podN u .all (bytes ++ rest) = some (true, t') ∧ Same hash t t'

/-- The operations that have to answer. -/
def Following : Act K V → Prop
  | .get _ | .existsKey _ | .insert _ _ | .del _ => True
  | _ => False

/-- The operations are defined, and answer as on the old dictionary or on one without entries. -/
def Usable (t t' : Dict K V) : Prop :=
  ∃ r, (r = t ∨ r = Table.new K (List V) 0) ∧ AnswersAs (performs hash podV podN) Following t' r

/-- The dictionary was not read. -/
def Loses (l : Act K V × Answer V) : Prop := ∃ memory is, l = (.readFrom memory is, .bool false)

structure Stays (t : Dict K V) (l : Act K V × Answer V) (t' : Dict K V) : Prop where
  roundTrip : RoundTrip hash podV podN t'
  usable : Loses l → Usable hash podV podN t t'

/-- The sizes of arrays are `int`s, and all that is read is there. -/
def Meets : Act K V → Prop
  | .insert _ vs => vs.length < 2 ^ 31
  | .readFrom memory is => ArraysThere memory is
  | _ => True

/-- The arrays are neither empty nor of a negative size. -/
structure Intact (t : Dict K V) : Prop where
  whole : Whole t
  arrays : ∀ n ∈ t.entries, 0 < n.val.length ∧ n.val.length < 2 ^ 31

/-! ## One operation -/

section
variable {hash podV podN} {t t' : Dict K V} {k : K} {vs : List V} {b : Bool}

omit [LinearOrder K] in
theorem intact_new (size : UInt32) : Intact (Table.new K (List V) size) := by
  obtain ⟨hwhole, -, hentries⟩ := new_ret (K := K) (P := List V) size
  refine ⟨hwhole, fun n hn => ?_⟩
  rw [hentries] at hn
  cases hn

omit [LinearOrder K] in
theorem inMemory_new (size : UInt32) : InMemory podV podN (Table.new K (List V) size) := by
  obtain ⟨-, hsize, hentries⟩ := new_ret (K := K) (P := List V) size
  refine ⟨hsize, ?_⟩
  rw [hentries, List.flatMap_nil, List.length_nil, List.length_nil, Nat.zero_mul, Nat.zero_mul]
  exact ⟨Nat.two_pow_pos 64, Nat.two_pow_pos 64⟩

theorem Intact.rehash (h : Intact t) : Intact (t.rehash hash) :=
  ⟨h.whole.rehash, fun n hn => h.arrays n ((rehash_entries t).mem_iff.1 hn)⟩

omit [LinearOrder K] in
/-- An array is put into a node, among some of the other nodes. -/
theorem Intact.of_perm (h : Intact t) (ht' : Whole t') {k : K} {r : List (Node K (List V))}
    (hperm : t'.entries.Perm (⟨k, vs⟩ :: r)) (hr : ∀ n ∈ r, n ∈ t.entries) (hvs : vs ≠ [])
    (h31 : vs.length < 2 ^ 31) : Intact t' := by
  refine ⟨ht', fun n hn => ?_⟩
  rcases List.mem_cons.1 (hperm.mem_iff.1 hn) with rfl | hn
  · exact ⟨List.length_pos_of_ne_nil hvs, h31⟩
  · exact h.arrays n (hr n hn)

/-- **Inserting an array.** -/
theorem insert_ret (h : Intact t) (hinsert : insert hash t k vs = some (b, t')) :
    if vs.length < 2 ^ 31 then Intact t' else ∃ n ∈ t'.entries, n.val = vs := by
  rw [insert] at hinsert
  by_cases hvs : vs = []
  · subst hvs
    obtain ⟨-, rfl⟩ := Prod.mk.inj (Option.some.inj hinsert)
    exact (if_pos (Nat.two_pow_pos 31)).mpr h
  rw [if_neg (by rwa [List.isEmpty_iff]), h.whole.live_eq, Option.bind_eq_bind, Option.bind_some] at hinsert
  rw [needRehash_rehash] at hinsert
  obtain ⟨⟨pos, l⟩, hb, hinsert⟩ := Option.bind_eq_some_iff.1 hinsert
  have hd : Intact (t.rehash hash) := h.rehash
  rcases hit : l[binarySearch Node.key l k]? with _ | n
  · simp only [hit] at hinsert
    split_ifs at hinsert with h31
    obtain ⟨-, rfl⟩ := Prod.mk.inj (Option.some.inj hinsert)
    rw [if_pos h31]
    exact hd.of_perm (hd.whole.pushed hb _) (pushed hb _ _) (fun _ hn => hn) hvs h31
  · simp only [hit] at hinsert
    split_ifs at hinsert with h32
    obtain ⟨-, rfl⟩ := Prod.mk.inj (Option.some.inj hinsert)
    obtain ⟨r, hr, hput⟩ := replaced hb hit ⟨n.key, vs⟩ (t.rehash hash).total
    split_ifs with h31
    · refine hd.of_perm (hd.whole.replaced hb hit _) hput (fun x hx => ?_) hvs h31
      exact hr.mem_iff.2 (List.mem_cons_of_mem n hx)
    · exact ⟨_, hput.mem_iff.2 List.mem_cons_self, rfl⟩

theorem del_ret (h : Intact t) (hdel : del hash t k = some (b, t')) : Intact t' := by
  refine ⟨HashMap.del_whole h.whole hdel, ?_⟩
  obtain ⟨⟨pos, l⟩, hb, hdel⟩ := Option.bind_eq_some_iff.1 hdel
  simp only at hdel
  split_ifs at hdel with hit
  · obtain ⟨-, rfl⟩ := Prod.mk.inj (Option.some.inj hdel)
    exact h.arrays
  · obtain ⟨-, rfl⟩ := Prod.mk.inj (Option.some.inj hdel)
    obtain ⟨n, hn⟩ := exists_of_binarySearch_ne hit
    exact fun x hx => h.arrays x ((removed hb hn _).mem_iff.2 (List.mem_cons_of_mem n hx))

/-- **A stream is read** if all of it is there; otherwise the vectors are gone. -/
theorem readFrom_ret {memory : Memory} {is : List UInt8}
    (h : readFrom hash podV podN t memory is = some (b, t')) :
    (b = true ↔ ArraysThere memory is) ∧ (b = true → Intact t') ∧ (b = false → t'.datas = []) := by
  obtain ⟨r, hr, hinstall⟩ := Option.bind_eq_some_iff.1 h
  obtain ⟨hb, hreleased, hwhole⟩ := install_ret hinstall
  obtain ⟨hthere, harrays⟩ := readArrays_ret hr
  refine ⟨hb.trans hthere, fun hb' => ?_, hreleased⟩
  obtain ⟨ns, hns⟩ := hb.1 hb'
  obtain ⟨ht', hperm⟩ := hwhole ns hns
  exact ⟨ht', fun n hn => harrays ns hns n (hperm.mem_iff.1 hn)⟩

/-- **The round trip.** -/
theorem roundTrip (h : Intact t) (hmem : InMemory podV podN t) : RoundTrip hash podV podN t := by
  have h31 : ∀ n ∈ t.entries, n.val.length < 2 ^ 31 := fun n hn => (h.arrays n hn).2
  refine ⟨arraysImage podV podN t.size t.entries, ?_, fun u rest => ?_⟩
  · rw [writeTo, h.whole.live_eq]
    exact if_pos h31
  · obtain ⟨t', ht', hsame⟩ := h.whole.install_entries hash u
    refine ⟨t', ?_, hsame⟩
    have hsize : readBuckets u.size (arraysImage podV podN t.size t.entries ++ rest) = t.size := by
      rw [arraysImage, List.append_assoc, readBuckets_leBytes hmem.1]
    rw [readFrom, readArrays_image h.arrays hmem.2.1 hmem.2.2, hsize]
    exact ht'

/-- Arrays of negative size are not written. -/
theorem not_roundTrip {n : Node K (List V)} (hn : n ∈ t.entries) (h31 : ¬n.val.length < 2 ^ 31) :
    ¬RoundTrip hash podV podN t := by
  rintro ⟨bytes, hbytes, -⟩
  obtain ⟨t', hlive, hwrite⟩ := Option.bind_eq_some_iff.1 hbytes
  obtain rfl := live_eq_some hlive
  split_ifs at hwrite with hall
  exact h31 (hall n hn)

/-- **What is not read** is not usable. -/
theorem not_usable [Inhabited K] (h : t'.datas = []) : ¬Usable hash podV podN t t' := by
  rintro ⟨r, -, hanswers⟩
  obtain ⟨b, t₁, hstep⟩ := hanswers.exists_step (a := .get default) trivial
  obtain ⟨size, total, datas⟩ := t'
  obtain rfl : datas = [] := h
  rw [performs, perform, get, bucket_released] at hstep
  cases hstep

/-- **One operation** on a dictionary that is intact. -/
theorem perform_ret [Inhabited K] (h : Intact t) {l : Act K V × Answer V}
    (hstep : performs hash podV podN t l t') (hmem : InMemory podV podN t') :
    Meets l.1 ∧ Intact t' ∧ Stays hash podV podN t l t' ∨ ¬Meets l.1 ∧ ¬Stays hash podV podN t l t' := by
  obtain ⟨act, a⟩ := l
  have hstays (ht' : Intact t') (hread : ∀ memory is, act ≠ .readFrom memory is) :
      Stays hash podV podN t (act, a) t' := by
    refine ⟨roundTrip ht' hmem, ?_⟩
    rintro ⟨memory, is, hl⟩
    exact absurd (Prod.mk.inj hl).1 (hread memory is)
  cases act with
  | get k =>
    obtain ⟨vs, -, heq⟩ := Option.bind_eq_some_iff.1 hstep
    obtain ⟨-, rfl⟩ := Prod.mk.inj (Option.some.inj heq)
    exact .inl ⟨trivial, h, hstays h fun _ _ hl => nomatch hl⟩
  | existsKey k =>
    obtain ⟨b, -, heq⟩ := Option.bind_eq_some_iff.1 hstep
    obtain ⟨-, rfl⟩ := Prod.mk.inj (Option.some.inj heq)
    exact .inl ⟨trivial, h, hstays h fun _ _ hl => nomatch hl⟩
  | insert k vs =>
    obtain ⟨⟨b, t₁⟩, hinsert, heq⟩ := Option.bind_eq_some_iff.1 hstep
    obtain ⟨-, rfl⟩ := Prod.mk.inj (Option.some.inj heq)
    have hret := insert_ret h hinsert
    by_cases h31 : vs.length < 2 ^ 31
    · rw [if_pos h31] at hret
      exact .inl ⟨h31, hret, hstays hret fun _ _ hl => nomatch hl⟩
    · rw [if_neg h31] at hret
      obtain ⟨n, hn, rfl⟩ := hret
      exact .inr ⟨h31, fun hs => not_roundTrip hn h31 hs.roundTrip⟩
  | del k =>
    obtain ⟨⟨b, t₁⟩, hdel, heq⟩ := Option.bind_eq_some_iff.1 hstep
    obtain ⟨-, rfl⟩ := Prod.mk.inj (Option.some.inj heq)
    have hret := del_ret h hdel
    exact .inl ⟨trivial, hret, hstays hret fun _ _ hl => nomatch hl⟩
  | rehash =>
    rw [performs, perform] at hstep
    split_ifs at hstep
    obtain ⟨-, rfl⟩ := Prod.mk.inj (Option.some.inj hstep)
    exact .inl ⟨trivial, h.rehash, hstays h.rehash fun _ _ hl => nomatch hl⟩
  | readFrom memory is =>
    obtain ⟨⟨b, t₁⟩, hread, heq⟩ := Option.bind_eq_some_iff.1 hstep
    obtain ⟨rfl, rfl⟩ := Prod.mk.inj (Option.some.inj heq)
    obtain ⟨hthere, hintact, hreleased⟩ := readFrom_ret hread
    cases b with
    | true =>
      have ht' := hintact rfl
      refine .inl ⟨hthere.1 rfl, ht', roundTrip ht' hmem, ?_⟩
      rintro ⟨memory', is', hl⟩
      cases hl
    | false =>
      refine .inr ⟨fun hmeets => Bool.false_ne_true (hthere.2 hmeets), fun hs => ?_⟩
      exact not_usable (hreleased rfl) (hs.usable ⟨memory, is, rfl⟩)

end

/-! ## Runs -/

/-- **A dictionary stays usable**, over all operations whose results are in memory, if and only if
    every stream is there as a whole and every array has a size that is an `int`. -/
theorem stays_iff_meets [Inhabited K] {t t' : Dict K V} {ls : List (Act K V × Answer V)} (h : Intact t) :
    Run (fun t l t' => (performs hash podV podN t l t' ∧ InMemory podV podN t') ∧ Stays hash podV podN t l t')
        t ls t' ↔
      Run (fun t l t' => (performs hash podV podN t l t' ∧ InMemory podV podN t') ∧ Meets l.1) t ls t' := by
  refine Run.and_iff_and (I := Intact) (fun t l t' h hstep hstays => ?_) (fun t l t' h hstep => ?_) h
  · rcases perform_ret h hstep.1 hstep.2 with ⟨-, hintact, -⟩ | ⟨-, hnot⟩
    · exact hintact
    · exact absurd hstays hnot
  · rcases perform_ret h hstep.1 hstep.2 with ⟨hmeets, -, hs⟩ | ⟨hmeets, hnot⟩
    · exact iff_of_true hs hmeets
    · exact iff_of_false hnot hmeets

end Dict

end Ancfl.Ds
