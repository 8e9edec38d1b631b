/-
  `HashMap::clear`, `writeTo` and `readFrom`, among the other operations.

  * `clear` and a `readFrom` that returns false leave `m_datas` null;
  * `perform`: an operation on some of several maps, whose `m_datas` may be null;
  * `RoundTrip`: what `writeTo` writes is read as the same map; `Usable`: after the
    entries were lost, `get`, `exists`, `set` and `del` answer as for the old map
    or for one without entries;
  * `stays_iff_meets`: all of it holds in the runs without `clear` that read whole
    streams only.
-/
import Ancfl.Ds.HashMap
import Ancfl.Ds.Table.Stored

namespace Ancfl.Ds

open Lib Table

namespace HashMap

variable {K V ι : Type} [LinearOrder K] [DecidableEq ι] (hash : K → UInt32) (pod : Pod (Node K V))

/-! ## The operations -/

/-- `m_size` is set before `freeDatas`, which does not use it. -/
def clear (_ : HashMap K V) : HashMap K V := ⟨0, 0, []⟩

def writeTo (t : HashMap K V) : Option (List UInt8) := do
  let t ← t.live
  return nodesImage pod t

def readFrom (t : HashMap K V) (memory : Memory) (is : List UInt8) : Option (Bool × HashMap K V) := do
  let r ← readNodes pod memory is
  install hash t (readBuckets t.size is) r

inductive Act (ι K V : Type)
  | op (o : Op ι K V)
  | wforeach (i : ι) (cb : K → V → V × Bool)
  | clear (i : ι)
  | readFrom (i : ι) (memory : Memory) (is : List UInt8)

/-- The maps whose vectors an operation uses. -/
def accessed (s : ι → HashMap K V) : Op ι K V → List ι
  | .get i _ | .existsKey i _ | .set i _ _ | .del i _ => [i]
  | .merge i j => if (s j).entries.isEmpty then [j] else [j, i]
  | .swap _ _ => []
  | .rehash i => if (s i).needRehash ∧ basket (toInt32 (s i).total) ≠ (s i).size then [i] else []

def perform (s : ι → HashMap K V) : Act ι K V → Option (Answer V × (ι → HashMap K V))
  | .op o => if ∀ i ∈ accessed s o, (s i).live.isSome then exec hash s o else none
  | .wforeach i cb => do
    let t ← (s i).live
    return (.unit, Function.update s i (t.wforeach cb))
  | .clear i => some (.unit, Function.update s i (clear (s i)))
  | .readFrom i memory is => do
    let (b, t) ← readFrom hash pod (s i) memory is
    return (.bool b, Function.update s i t)

def performs (s : ι → HashMap K V) (l : Act ι K V × Answer V) (s' : ι → HashMap K V) : Prop :=
  perform hash pod s l.1 = some (l.2, s')

/-- The sizes are those of objects in memory. -/
def InMemory (t : HashMap K V) : Prop := t.size < 2 ^ 64 ∧ t.entries.length * pod.size < 2 ^ 64

/-! ## Maps that stay usable -/

/-- What `writeTo` writes is read into any map as the same one. -/
def RoundTrip (t : HashMap K V) : Prop := ∃ bytes, writeTo pod t = some bytes ∧
  ∀ u rest, ∃ t', readFrom hash pod u .all (bytes ++ rest) = some (true, t') ∧ Same hash t t'

/-- The operations on the map `i` that have to answer. -/
def Following (i : ι) : Act ι K V → Prop
  | .op (.get j _) | .op (.existsKey j _) | .op (.set j _ _) | .op (.del j _) => j = i
  | _ => False

/-- The operations on the map `i` are defined, and answer as on the old one or on one without
    entries. -/
def Usable (s s' : ι → HashMap K V) (i : ι) : Prop :=
  ∃ r, (r = s i ∨ r = Table.new K V 0) ∧
    AnswersAs (performs hash pod) (Following i) s' (Function.update s' i r)

/-- The map `i` was cleared, or was not read. -/
def Loses (i : ι) (l : Act ι K V × Answer V) : Prop :=
  l.1 = .clear i ∨ ∃ memory is, l = (.readFrom i memory is, .bool false)

structure Stays (s : ι → HashMap K V) (l : Act ι K V × Answer V) (s' : ι → HashMap K V) : Prop where
  roundTrip : ∀ i, RoundTrip hash pod (s' i)
  usable : ∀ i, Loses i l → Usable hash pod s s' i

/-- No map is cleared, and all that is read is there. -/
def Meets : Act ι K V → Prop
  | .op _ | .wforeach _ _ => True
  | .clear _ => False
  | .readFrom _ memory is => NodesThere memory is

/-! ## One operation -/

section
variable {hash pod} {t t' : HashMap K V} {s s' : ι → HashMap K V}

omit [LinearOrder K] in
theorem inMemory_new (size : UInt32) : InMemory pod (Table.new K V size) := by
  obtain ⟨-, hsize, hentries⟩ := new_ret (K := K) (P := V) size
  refine ⟨hsize, ?_⟩
  rw [hentries, List.length_nil, Nat.zero_mul]
  exact Nat.two_pow_pos 64

theorem set_whole (h : Whole t) {k : K} {v : V} {b : Bool} (hset : set hash t k v = some (b, t')) :
    Whole t' := by
  rw [set, needRehash_rehash] at hset
  obtain ⟨⟨pos, l⟩, hb, hset⟩ := Option.bind_eq_some_iff.1 hset
  simp only at hset
  split_ifs at hset with hit
  · obtain ⟨-, rfl⟩ := Prod.mk.inj (Option.some.inj hset)
    exact h.rehash.pushed hb _
  · obtain ⟨-, rfl⟩ := Prod.mk.inj (Option.some.inj hset)
    obtain ⟨n, hn⟩ := exists_of_binarySearch_ne hit
    rw [List.modify_eq_set_getElem?, hn]
    exact h.rehash.replaced hb hn _

theorem del_whole (h : Whole t) {k : K} {b : Bool} (hdel : del hash t k = some (b, t')) : Whole t' := by
  rw [del] at hdel
  obtain ⟨⟨pos, l⟩, hb, hdel⟩ := Option.bind_eq_some_iff.1 hdel
  simp only at hdel
  split_ifs at hdel with hit
  · obtain ⟨-, rfl⟩ := Prod.mk.inj (Option.some.inj hdel)
    exact h
  · obtain ⟨-, rfl⟩ := Prod.mk.inj (Option.some.inj hdel)
    obtain ⟨n, hn⟩ := exists_of_binarySearch_ne hit
    exact h.removed hb hn

theorem setAll_whole (h : Whole t) {tmp : List (Node K V)} (hset : setAll hash t tmp = some t') :
    Whole t' := by
  induction tmp generalizing t with
  | nil => exact Option.some.inj hset ▸ h
  | cons n tmp ih =>
    obtain ⟨⟨b, t₁⟩, h₁, hset⟩ := Option.bind_eq_some_iff.1 hset
    exact ih (set_whole h h₁) hset

omit [LinearOrder K] in
theorem update_whole (h : ∀ i, Whole (s i)) {i : ι} (ht : Whole t) (j : ι) :
    Whole (Function.update s i t j) := by
  by_cases hj : j = i
  · subst hj
    rwa [Function.update_self]
  · rw [Function.update_of_ne hj]
    exact h j

theorem exec_whole (h : ∀ i, Whole (s i)) {o : Op ι K V} {a : Answer V}
    (hexec : exec hash s o = some (a, s')) :
    ∀ i, Whole (s' i) := by
  cases o with
  | get i k =>
    obtain ⟨v, -, heq⟩ := Option.bind_eq_some_iff.1 hexec
    obtain ⟨-, rfl⟩ := Prod.mk.inj (Option.some.inj heq)
    exact h
  | existsKey i k =>
    obtain ⟨b, -, heq⟩ := Option.bind_eq_some_iff.1 hexec
    obtain ⟨-, rfl⟩ := Prod.mk.inj (Option.some.inj heq)
    exact h
  | set i k v =>
    obtain ⟨⟨b, t⟩, hset, heq⟩ := Option.bind_eq_some_iff.1 hexec
    obtain ⟨-, rfl⟩ := Prod.mk.inj (Option.some.inj heq)
    exact update_whole h (set_whole (h i) hset)
  | del i k =>
    obtain ⟨⟨b, t⟩, hdel, heq⟩ := Option.bind_eq_some_iff.1 hexec
    obtain ⟨-, rfl⟩ := Prod.mk.inj (Option.some.inj heq)
    exact update_whole h (del_whole (h i) hdel)
  | merge i j =>
    obtain ⟨t, hmerge, heq⟩ := Option.bind_eq_some_iff.1 hexec
    obtain ⟨-, rfl⟩ := Prod.mk.inj (Option.some.inj heq)
    exact update_whole h (setAll_whole (h i) hmerge)
  | swap i j =>
    rw [exec] at hexec
    split_ifs at hexec
    obtain ⟨-, rfl⟩ := Prod.mk.inj (Option.some.inj hexec)
    exact update_whole (update_whole h (h j)) (h i)
  | rehash i =>
    obtain ⟨-, rfl⟩ := Prod.mk.inj (Option.some.inj hexec)
    exact update_whole h (h i).rehash

/-- **A stream is read** if all of it is there; otherwise the vectors are gone. -/
theorem readFrom_ret {memory : Memory} {is : List UInt8} {b : Bool}
    (h : readFrom hash pod t memory is = some (b, t')) :
    (b = true ↔ NodesThere memory is) ∧ (b = true → Whole t') ∧ (b = false → t'.datas = []) := by
  obtain ⟨r, hr, hinstall⟩ := Option.bind_eq_some_iff.1 h
  obtain ⟨hb, hreleased, hwhole⟩ := install_ret hinstall
  refine ⟨hb.trans (readNodes_ret hr), fun hb' => ?_, hreleased⟩
  obtain ⟨ns, hns⟩ := hb.1 hb'
  exact (hwhole ns hns).1

variable (hash pod t) in
theorem readFrom_short (memory : Memory) (is : List UInt8) (h : is.length < 8) :
    readFrom hash pod t memory is = some (false, ⟨readBuckets t.size is, t.total, []⟩) := by
  rw [readFrom, readNodes, if_pos h]
  rfl

/-- **The round trip.** -/
theorem roundTrip (h : Whole t) (hmem : InMemory pod t) : RoundTrip hash pod t := by
  refine ⟨nodesImage pod t, by rw [writeTo, h.live_eq]; rfl, fun u rest => ?_⟩
  obtain ⟨t', ht', hsame⟩ := h.install_entries hash u
  refine ⟨t', ?_, hsame⟩
  have hsize : readBuckets u.size (nodesImage pod t ++ rest) = t.size := by
    rw [nodesImage, List.append_assoc, readBuckets_leBytes hmem.1]
  rw [readFrom, readNodes_image hmem.2, hsize]
  exact ht'

theorem perform_released {i : ι} (h : (s i).datas = []) (k : K) :
    perform hash pod s (.op (.get i k)) = none := by
  rcases hs : s i with ⟨size, total, datas⟩
  rw [hs] at h
  obtain rfl : datas = [] := h
  rw [perform, exec, get, hs, bucket_released]
  split_ifs <;> rfl

/-- **What is lost** is not usable. -/
theorem not_usable [Inhabited K] {i : ι} (h : (s' i).datas = []) : ¬Usable hash pod s s' i := by
  rintro ⟨r, -, hanswers⟩
  obtain ⟨b, t, hstep⟩ := hanswers.exists_step (a := .op (.get i default)) rfl
  rw [performs, perform_released h] at hstep
  cases hstep

/-- **One operation** on maps that are whole. -/
theorem perform_whole (h : ∀ i, Whole (s i)) {l : Act ι K V × Answer V} (hstep : performs hash pod s l s') :
    (Meets l.1 ∧ (∀ i, Whole (s' i)) ∧ ∀ i, ¬Loses i l) ∨
      ¬Meets l.1 ∧ ∃ i, Loses i l ∧ (s' i).datas = [] := by
  obtain ⟨act, a⟩ := l
  have hop (hact : ∀ i, act ≠ .clear i) (hread : ∀ i memory is, act ≠ .readFrom i memory is) (i : ι) :
      ¬Loses i (act, a) := by
    rintro (hl | ⟨memory, is, hl⟩)
    · exact hact i hl
    · exact hread i memory is (Prod.mk.inj hl).1
  cases act with
  | op o =>
    rw [performs, perform] at hstep
    split_ifs at hstep
    exact .inl ⟨trivial, exec_whole h hstep, hop (fun _ hl => nomatch hl) fun _ _ _ hl => nomatch hl⟩
  | wforeach i cb =>
    rw [performs, perform, (h i).live_eq] at hstep
    obtain ⟨-, rfl⟩ := Prod.mk.inj (Option.some.inj hstep)
    exact .inl ⟨trivial, update_whole h ((h i).wforeach cb),
      hop (fun _ hl => nomatch hl) fun _ _ _ hl => nomatch hl⟩
  | clear i =>
    obtain ⟨-, rfl⟩ := Prod.mk.inj (Option.some.inj hstep)
    exact .inr ⟨id, i, .inl rfl, by rw [Function.update_self]; rfl⟩
  | readFrom i memory is =>
    obtain ⟨⟨b, t⟩, hread, heq⟩ := Option.bind_eq_some_iff.1 hstep
    obtain ⟨rfl, rfl⟩ := Prod.mk.inj (Option.some.inj heq)
    obtain ⟨hthere, hwhole, hreleased⟩ := readFrom_ret hread
    cases b with
    | true =>
      refine .inl ⟨hthere.1 rfl, update_whole h (hwhole rfl), fun j hl => ?_⟩
      rcases hl with hl | ⟨memory', is', hl⟩
      · cases hl
      · cases hl
    | false =>
      refine .inr ⟨fun hmeets => Bool.false_ne_true (hthere.2 hmeets), i, .inr ⟨memory, is, rfl⟩, ?_⟩
      rw [Function.update_self]
      exact hreleased rfl

end

/-! ## Runs -/

/-- **Maps stay usable**, over all operations whose results are in memory, if and only if none is
    cleared and every stream is there as a whole. -/
theorem stays_iff_meets [Inhabited K] {s s' : ι → HashMap K V} {ls : List (Act ι K V × Answer V)}
    (h : ∀ i, Whole (s i)) :
    Run (fun s l s' => (performs hash pod s l s' ∧ ∀ i, InMemory pod (s' i)) ∧ Stays hash pod s l s')
        s ls s' ↔
      Run (fun s l s' => (performs hash pod s l s' ∧ ∀ i, InMemory pod (s' i)) ∧ Meets l.1) s ls s' := by
  refine Run.and_iff_and (I := fun s => ∀ i, Whole (s i)) (fun s l s' h hstep hstays => ?_)
    (fun s l s' h hstep => ?_) h
  · rcases perform_whole h hstep.1 with ⟨-, hwhole, -⟩ | ⟨-, i, hl, hreleased⟩
    · exact hwhole
    · exact absurd (hstays.usable i hl) (not_usable hreleased)
  · rcases perform_whole h hstep.1 with ⟨hmeets, hwhole, hloses⟩ | ⟨hmeets, i, hl, hreleased⟩
    · refine iff_of_true ⟨fun i => roundTrip (hwhole i) (hstep.2 i), fun i hl => ?_⟩ hmeets
      exact absurd hl (hloses i)
    · exact iff_of_false (fun hstays => not_usable hreleased (hstays.usable i hl)) hmeets

end HashMap

end Ancfl.Ds
