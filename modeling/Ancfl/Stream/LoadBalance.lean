/-
  `WeightLoadBalance`: an item is chosen by its weight.

  * `initNolock` takes the valid items and sums up their weights; `getIdx` is the
    search in the sums, and `get` goes on from there to the next valid item;
  * `getIdx_of_inSlot`: each item has the values of its slot, as long as its
    index is an `int32_t`;
  * `fair_iff`: when the choice is proportional and safe.
-/
import Ancfl.Lib.Int32
import Ancfl.Lib.PrefixSum
import Ancfl.Lib.Sorted
import Mathlib.Algebra.BigOperators.Ring.Finset

namespace Ancfl.LoadBalance

open Lib

variable {I : Type}

/-! ## The load balancer -/

/-- What a call ends with instead of a result. -/
inductive Fault where
  | division_by_zero | assertion
deriving DecidableEq

/-- What the items answer at the time of a call; weights are `int32_t`. -/
structure Items (I : Type) where
  isValid : I → Bool
  getWeight : I → ℤ

/-- `I` are the pointers to items.  `m_datas` holds those of the map, in the order of its
    iterators. -/
structure WeightLoadBalance (I : Type) where
  m_datas : List I
  m_lastInitTime : ℕ
  m_items : List I
  m_weights : List ℤ
  /-- no container is larger than the memory -/
  max_size : m_datas.length ≤ 2 ^ 59

/-- `total += weight; m_weights[i] = total;` with an `int64_t`. -/
def sums (total : ℤ) : List ℤ → List ℤ
  | [] => []
  | weight :: weights => toInt64 (total + weight) :: sums (toInt64 (total + weight)) weights

def initNolock (now : Items I) (s : WeightLoadBalance I) : WeightLoadBalance I :=
  let items := s.m_datas.filter now.isValid
  { s with m_items := items, m_weights := sums 0 (items.map now.getWeight) }

def checkInit (now : Items I) (ts : ℕ) (s : WeightLoadBalance I) : WeightLoadBalance I :=
  if 500 < toUInt64 (ts - s.m_lastInitTime) then { initNolock now s with m_lastInitTime := ts } else s

/-- `getIdx(v)` for a `uint64_t`; `rand` is what `rand()` returns. -/
def getIdx (rand : ℕ) (s : WeightLoadBalance I) (v : ℕ) : Except Fault ℤ :=
  match s.m_weights.getLast? with
  | none => .ok (-1)
  | some total =>
    if toUInt64 total = 0 then .error .division_by_zero
    else
      let dis := (if v = 2 ^ 64 - 1 then rand else v) % toUInt64 total
      let it := upperBound toUInt64 s.m_weights dis
      if it = s.m_weights.length then .error .assertion else .ok (toInt32 it)

/-- The first valid item from `idx` on, round the list; `idx + i` is a `size_t`. -/
def firstValid (now : Items I) (s : WeightLoadBalance I) (idx : ℤ) : Option I :=
  (List.range s.m_items.length).findSome? fun (i : ℕ) =>
    s.m_items[toUInt64 (idx + i) % s.m_items.length]?.filter now.isValid

/-- `get(v)`: the item, and the load balancer afterwards. -/
def get (now : Items I) (ts rand : ℕ) (s : WeightLoadBalance I) (v : ℕ) :
    Except Fault (Option I × WeightLoadBalance I) := do
  let s := checkInit now ts s
  let idx ← getIdx rand s v
  return (if idx = -1 then none else firstValid now s idx, s)

/-! ## Searching the sums -/

/-- The weights, as they are summed up. -/
def weights (now : Items I) (s : WeightLoadBalance I) : List ℕ :=
  s.m_items.map fun h => (now.getWeight h).toNat

theorem sums_eq {l : List ℕ} {t : ℕ} (h : t + l.sum < 2 ^ 63) :
    sums t (l.map (Nat.cast : ℕ → ℤ)) =
      (List.range l.length).map fun i => ((t + (l.take (i + 1)).sum : ℕ) : ℤ) := by
  induction l generalizing t with
  | nil => rfl
  | cons w l ih =>
    rw [List.sum_cons] at h
    have hw : toInt64 ((t : ℤ) + w) = ((t + w : ℕ) : ℤ) := by
      rw [← Nat.cast_add, toInt64_natCast (by omega)]
    rw [List.map_cons, sums, hw, ih (by omega), List.length_cons, List.range_succ_eq_map, List.map_cons,
      List.map_map]
    refine congrArg₂ List.cons ?_ (List.map_congr_left fun i _ => ?_)
    · simp
    · rw [Function.comp_apply, List.take_succ_cons, List.sum_cons, Nat.add_assoc]

section
variable {now : Items I} {s : WeightLoadBalance I} {rand v i d : ℕ}

/-- The sums are those of the weights, which are not negative. -/
structure Summed (now : Items I) (s : WeightLoadBalance I) : Prop where
  eq : s.m_weights =
    (List.range s.m_items.length).map fun i => (((weights now s).take (i + 1)).sum : ℤ)
  pos : 0 < (weights now s).sum
  lt : (weights now s).sum < 2 ^ 63
  length_le : s.m_items.length ≤ 2 ^ 59

theorem length_weights : (weights now s).length = s.m_items.length := List.length_map _

theorem Summed.getLast (h : Summed now s) : s.m_weights.getLast? = some ((weights now s).sum : ℤ) := by
  have hlen : s.m_items.length ≠ 0 := by
    intro h0
    have hpos := h.pos
    rw [List.eq_nil_of_length_eq_zero (length_weights.trans h0)] at hpos
    exact absurd hpos (Nat.lt_irrefl 0)
  rw [h.eq, List.getLast?_eq_getElem?, List.length_map, List.length_range, List.getElem?_map,
    List.getElem?_range (by omega), Option.map_some, Nat.sub_add_cancel (by omega), List.take_of_length_le]
  exact length_weights.le

/-- The sums before a slot are not above the numbers in it, the others are. -/
theorem Summed.upperBound (h : Summed now s) (hd : InSlot (weights now s) i d) :
    upperBound toUInt64 s.m_weights d = i := by
  have hi : i < s.m_items.length := hd.lt_length.trans_eq length_weights
  have hcast (j : ℕ) : toUInt64 ((((weights now s).take (j + 1)).sum : ℕ) : ℤ) =
      ((weights now s).take (j + 1)).sum :=
    toUInt64_natCast (((sum_take_le _ _).trans_lt h.lt).trans (by decide))
  have hmono := sum_take_mono (weights now s)
  have hlen : s.m_weights.length = s.m_items.length := by rw [h.eq, List.length_map, List.length_range]
  have hget {j : ℕ} {y : ℤ} (hy : s.m_weights[j]? = some y) :
      toUInt64 y = ((weights now s).take (j + 1)).sum := by
    rw [h.eq, List.getElem?_map, Option.map_eq_some_iff] at hy
    obtain ⟨k, hk, rfl⟩ := hy
    obtain rfl : j = k := by
      obtain ⟨hj, hk⟩ := List.getElem?_eq_some_iff.1 hk
      rwa [List.getElem_range] at hk
    exact hcast j
  have hbound := upperBound_append (f := toUInt64) (a := s.m_weights.take i) (b := s.m_weights.drop i) (x := d)
    ?_ ?_
  · rwa [List.take_append_drop, List.length_take, Nat.min_eq_left (by omega)] at hbound
  · intro y hy
    obtain ⟨j, hj⟩ := List.mem_iff_getElem?.1 hy
    rw [List.getElem?_take] at hj
    split_ifs at hj with hji
    rw [hget hj]
    exact Nat.not_lt.2 ((hmono hji).trans hd.1)
  · intro y hy
    obtain ⟨j, hj⟩ := List.mem_iff_getElem?.1 hy
    rw [List.getElem?_drop] at hj
    rw [hget hj]
    exact hd.2.trans_le (hmono (by omega : i + 1 ≤ i + j + 1))

/-- The number that is searched for. -/
def dis (rand v total : ℕ) : ℕ := (if v = 2 ^ 64 - 1 then rand else v) % total

/-- **An index is that of the slot**, as an `int32_t`. -/
theorem Summed.getIdx (h : Summed now s) (hd : InSlot (weights now s) i (dis rand v (weights now s).sum)) :
    getIdx rand s v = .ok (toInt32 i) := by
  have hpos := h.pos
  have htotal : toUInt64 ((weights now s).sum : ℤ) = (weights now s).sum :=
    toUInt64_natCast (h.lt.trans (by decide))
  have hi : i < s.m_weights.length := by
    rw [h.eq, List.length_map, List.length_range]
    exact hd.lt_length.trans_eq length_weights
  rw [LoadBalance.getIdx, h.getLast]
  dsimp only
  rw [htotal, if_neg (by omega)]
  have hbound := h.upperBound hd
  rw [dis] at hbound
  rw [hbound, if_neg (by omega)]

theorem Summed.exists_slot (h : Summed now s) (rand v : ℕ) :
    ∃ i, InSlot (weights now s) i (dis rand v (weights now s).sum) :=
  exists_inSlot (Nat.mod_lt _ h.pos)

theorem Summed.lt_total (h : Summed now s) (hv : v < (weights now s).sum) :
    dis rand v (weights now s).sum = v := by
  have hlt := h.lt
  rw [dis, if_neg (by omega), Nat.mod_eq_of_lt hv]

end

/-! ## The choice -/

/-- **The choice is proportional and safe.** -/
structure Fair (now : Items I) (s : WeightLoadBalance I) : Prop where
  share : ∀ (rand i : ℕ) h, s.m_items[i]? = some h →
    ((Finset.range (weights now s).sum).filter fun v => getIdx rand s v = .ok (i : ℤ)).card =
      (now.getWeight h).toNat
  periodic : ∀ rand v, v < 2 ^ 64 → v ≠ 2 ^ 64 - 1 →
    getIdx rand s v = getIdx rand s (v % (weights now s).sum)
  safe : ∀ rand v, v < 2 ^ 64 → ∃ idx, getIdx rand s v = .ok idx
  valid : ∀ (later : Items I) (ts rand v : ℕ), v < 2 ^ 64 → toUInt64 (ts - s.m_lastInitTime) ≤ 500 →
    (∃ h ∈ s.m_items, later.isValid h) →
    ∃ h ∈ s.m_items, later.isValid h ∧ get later ts rand s v = .ok (some h, s)

section
variable {now : Items I} {s : WeightLoadBalance I}

/-- An item with a weight has an index that is an `int32_t`. -/
def Indexed (now : Items I) (s : WeightLoadBalance I) : Prop :=
  ∀ (i : ℕ) h, s.m_items[i]? = some h → 0 < now.getWeight h → i < 2 ^ 31

theorem weights_getElem? {i : ℕ} {h : I} (hi : s.m_items[i]? = some h) :
    (weights now s)[i]? = some (now.getWeight h).toNat := by
  rw [weights, List.getElem?_map, hi, Option.map_some]

theorem Indexed.lt (hs : Indexed now s) {i d : ℕ} (hd : InSlot (weights now s) i d) : i < 2 ^ 31 := by
  have hi : i < s.m_items.length := hd.lt_length.trans_eq length_weights
  have hget := List.getElem?_eq_getElem hi
  have hpos := hd.pos (weights_getElem? hget)
  exact hs i _ hget (by omega)

theorem Indexed.getIdx (hs : Indexed now s) (h : Summed now s) {rand v i : ℕ}
    (hd : InSlot (weights now s) i (dis rand v (weights now s).sum)) : getIdx rand s v = .ok (i : ℤ) := by
  rw [h.getIdx hd, toInt32_natCast (hs.lt hd)]

/-- **The next valid item is found** from every index. -/
theorem firstValid_some {later : Items I} (hlen : s.m_items.length ≤ 2 ^ 59) {i : ℕ}
    (hi : i < s.m_items.length) (hex : ∃ h ∈ s.m_items, later.isValid h) :
    ∃ h ∈ s.m_items, later.isValid h ∧ firstValid later s i = some h := by
  have hpos : 0 < s.m_items.length := by omega
  obtain ⟨h, hmem, hvalid⟩ := hex
  obtain ⟨k, hk⟩ := List.mem_iff_getElem?.1 hmem
  have hklt : k < s.m_items.length := (List.getElem?_eq_some_iff.1 hk).1
  -- the turn in which the item at `k` is looked at
  have hturn : ∃ j < s.m_items.length, (i + j) % s.m_items.length = k := by
    rcases Nat.lt_or_ge k i with hki | hki
    · refine ⟨k + s.m_items.length - i, by omega, ?_⟩
      rw [Nat.add_sub_cancel' (by omega), Nat.add_mod_right, Nat.mod_eq_of_lt hklt]
    · exact ⟨k - i, by omega, by rw [Nat.add_sub_cancel' hki, Nat.mod_eq_of_lt hklt]⟩
  obtain ⟨j, hj, hjk⟩ := hturn
  have hcast {j : ℕ} (hj : j < s.m_items.length) : toUInt64 ((i : ℤ) + j) = i + j := by
    rw [← Nat.cast_add, toUInt64_natCast (by omega)]
  have hsome : (firstValid later s i).isSome := by
    rw [firstValid, List.findSome?_isSome_iff]
    refine ⟨j, List.mem_range.2 hj, ?_⟩
    rw [hcast hj, hjk, hk, Option.filter_some, hvalid]
    rfl
  obtain ⟨r, hr⟩ := Option.isSome_iff_exists.1 hsome
  obtain ⟨j', hj', hfilter⟩ := List.exists_of_findSome?_eq_some hr
  obtain ⟨hget, hrvalid⟩ := Option.filter_eq_some_iff.1 hfilter
  exact ⟨r, List.mem_of_getElem? hget, hrvalid, hr⟩

/-- Where the indices are those of the slots, the choice is proportional and safe. -/
theorem Summed.fair (h : Summed now s) (hs : Indexed now s) : Fair now s where
  share rand i item hi := by
    have hweight : (weights now s)[i]? = some (now.getWeight item).toNat := weights_getElem? hi
    rw [← card_inSlot hweight]
    congr 1
    refine Finset.filter_congr fun v hv => ?_
    obtain ⟨j, hj⟩ := h.exists_slot rand v
    rw [hs.getIdx h hj]
    rw [h.lt_total (Finset.mem_range.1 hv)] at hj
    constructor
    · intro heq
      obtain rfl : j = i := Nat.cast_injective (Except.ok.inj heq)
      exact hj
    · intro hslot
      rw [hj.unique hslot]
  periodic rand v _ hv := by
    have hlt := Nat.mod_lt v h.pos
    have hdis : dis rand v (weights now s).sum = dis rand (v % (weights now s).sum) (weights now s).sum := by
      rw [h.lt_total hlt, dis, if_neg hv]
    obtain ⟨i, hi⟩ := h.exists_slot rand v
    rw [hs.getIdx h hi]
    rw [hdis] at hi
    rw [hs.getIdx h hi]
  safe rand v _ := by
    obtain ⟨i, hi⟩ := h.exists_slot rand v
    exact ⟨i, hs.getIdx h hi⟩
  valid later ts rand v _ hts hex := by
    obtain ⟨i, hi⟩ := h.exists_slot rand v
    obtain ⟨item, hmem, hvalid, hfirst⟩ := firstValid_some h.length_le
      (hi.lt_length.trans_eq length_weights) hex
    refine ⟨item, hmem, hvalid, ?_⟩
    have hcheck : checkInit later ts s = s := if_neg (Nat.not_lt.2 hts)
    rw [get, hcheck, hs.getIdx h hi]
    show Except.ok (if (i : ℤ) = -1 then none else firstValid later s i, s) = _
    rw [if_neg (by omega), hfirst]

theorem Summed.indexed (h : Summed now s) (hf : Fair now s) : Indexed now s := by
  intro i item hi hw
  have hcard := hf.share 0 i item hi
  have hne : ((Finset.range (weights now s).sum).filter fun v => LoadBalance.getIdx 0 s v = .ok (i : ℤ)).Nonempty := by
    rw [← Finset.card_pos, hcard]
    omega
  obtain ⟨v, hv⟩ := hne
  obtain ⟨j, hj⟩ := h.exists_slot 0 v
  have hidx := (Finset.mem_filter.1 hv).2
  rw [h.getIdx hj] at hidx
  have hrange := (toInt32_range (j : ℤ)).2
  rw [Except.ok.inj hidx] at hrange
  omega

end

/-- The sum of the weights of the valid items. -/
def total (now : Items I) (s : WeightLoadBalance I) : ℤ :=
  ((s.m_datas.filter now.isValid).map now.getWeight).sum

theorem summed_initNolock {now : Items I} {s : WeightLoadBalance I}
    (hw : ∀ h ∈ s.m_datas, now.isValid h → 0 ≤ now.getWeight h) (hpos : 0 < total now s)
    (hlt : total now s < 2 ^ 63) : Summed now (initNolock now s) := by
  have hcast : ((weights now (initNolock now s)).map (Nat.cast : ℕ → ℤ)) =
      (s.m_datas.filter now.isValid).map now.getWeight := by
    rw [weights, List.map_map]
    refine List.map_congr_left fun h hh => ?_
    obtain ⟨hmem, hvalid⟩ := List.mem_filter.1 hh
    exact Int.toNat_of_nonneg (hw h hmem hvalid)
  have hsum : ((weights now (initNolock now s)).sum : ℤ) = total now s := by
    rw [total, ← hcast, Nat.cast_list_sum]
  have hlt' : (weights now (initNolock now s)).sum < 2 ^ 63 := by omega
  refine ⟨?_, by omega, hlt', (List.length_filter_le _ _).trans s.max_size⟩
  have heq := sums_eq (t := 0) (l := weights now (initNolock now s)) (by omega)
  rw [hcast, length_weights] at heq
  simp only [Nat.zero_add] at heq
  exact heq

/-- **Weighted choice is proportional and safe** iff every item that has a weight has an index that is
    an `int32_t`. -/
theorem fair_iff (now : Items I) (s : WeightLoadBalance I)
    (hw : ∀ h ∈ s.m_datas, now.isValid h → 0 ≤ now.getWeight h) (hpos : 0 < total now s)
    (hlt : total now s < 2 ^ 63) : Fair now (initNolock now s) ↔ Indexed now (initNolock now s) :=
  have h := summed_initNolock hw hpos hlt
  ⟨h.indexed, h.fair⟩

theorem fair_iff_two : Fair ⟨fun _ => true, fun i : ℕ => i⟩
    (initNolock ⟨fun _ => true, fun i : ℕ => i⟩ ⟨[1, 3], 0, [], [], by decide⟩) :=
  (fair_iff _ _ (fun h _ _ => Int.natCast_nonneg h) (by decide) (by decide)).2 fun i h hi _ => by
    have hlt := (List.getElem?_eq_some_iff.1 hi).1
    exact hlt.trans (by decide)

/-- All items are valid, and only the `n`-th one has a weight. -/
def lastOnly (n : ℕ) : Items ℕ := ⟨fun _ => true, fun i => if i = n then 1 else 0⟩

theorem total_lastOnly {n : ℕ} {s : WeightLoadBalance ℕ} (hs : s.m_datas = List.range (n + 1)) :
    total (lastOnly n) s = 1 := by
  have hzero : (List.range n).map (lastOnly n).getWeight = (List.range n).map fun _ => 0 := by
    refine List.map_congr_left fun i hi => if_neg ?_
    have hlt := List.mem_range.1 hi
    omega
  have hall : s.m_datas.filter (lastOnly n).isValid = s.m_datas := List.filter_eq_self.2 fun _ _ => rfl
  rw [total, hall, hs, List.range_succ, List.map_append, hzero]
  simp [lastOnly]

/-- A last item that no `int32_t` is the index of. -/
theorem not_fair : ¬∀ (now : Items ℕ) (s : WeightLoadBalance ℕ),
    (∀ h ∈ s.m_datas, now.isValid h → 0 ≤ now.getWeight h) → 0 < total now s → total now s < 2 ^ 63 →
    Fair now (initNolock now s) := by
  intro h
  obtain ⟨n, hn⟩ : ∃ n, n = 2 ^ 31 := ⟨_, rfl⟩
  let s : WeightLoadBalance ℕ := ⟨List.range (n + 1), 0, [], [], by rw [List.length_range]; omega⟩
  have hw : ∀ i ∈ s.m_datas, (lastOnly n).isValid i → 0 ≤ (lastOnly n).getWeight i := by
    intro i _ _
    simp only [lastOnly]
    split_ifs <;> decide
  have htotal := total_lastOnly (s := s) rfl
  have hfair := h (lastOnly n) s hw (by omega) (by omega)
  have hsummed := summed_initNolock hw (by omega) (by omega)
  have hitem : (initNolock (lastOnly n) s).m_items[n]? = some n := by
    have hall : s.m_datas.filter (lastOnly n).isValid = s.m_datas := List.filter_eq_self.2 fun _ _ => rfl
    rw [initNolock]
    dsimp only
    rw [hall]
    exact List.getElem?_range (Nat.lt_succ_self n)
  have hlt := hsummed.indexed hfair n n hitem (by simp [lastOnly])
  omega

end Ancfl.LoadBalance
