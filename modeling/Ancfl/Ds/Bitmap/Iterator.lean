/-
  The iterators of a plain bitmap, and when all enumerations agree.

  * `next`, `prev` are `next()` of the two iterators; their position and their
    copy of the size are signed 32-bit numbers;
  * `Visits`: the loop `for (it = begin(); !it; it.next())` over an iterator;
  * `visits_next`, `visits_prev`: for sizes below `2 ^ 31` the loops visit the
    bits set, upwards and downwards;
  * `enumerates_iff`: all enumerations visit the bits set below the size iff the
    last word has no bit at the index `size`, and the size fits in 31 bits or no
    bit is set.
-/
import Ancfl.Ds.Bitmap.Foreach
import Ancfl.Lib.Int32

namespace Ancfl.Bitmap

open Lib

/-! ## The iterators -/

/-- `for (; i < VALUE_SIZE && m_pos < m_size; ++i, ++m_pos)`, with the bits of the word still to be
    tested; `done` where `next()` returns. -/
def findAsc (mSize : ℤ) (v : Word) : List ℕ → ℤ → ForInStep ℤ
  | [], mPos => .yield mPos
  | i :: is, mPos =>
    if mPos < mSize then
      if v &&& pos i ≠ 0 then .done mPos else findAsc mSize v is (mPos + 1)
    else .yield mPos

def wordsAsc (mSize : ℤ) (data : List Word) : List ℕ → ℤ → Result ℤ
  | [], mPos => .ok mPos
  | i :: is, mPos => do
    if mPos < mSize then
      let v ← load data i
      if v = 0 then wordsAsc mSize data is (toInt32 (mPos + valueSize))
      else
        match findAsc mSize v (List.range valueSize) mPos with
        | .done mPos => return mPos
        | .yield mPos => wordsAsc mSize data is mPos
    else return mPos

/-- The words from that of `mPos` on. -/
def wordsFrom (b : Bitmap) (mPos : ℤ) : Result ℤ :=
  let i := toUInt32 mPos / valueSize
  wordsAsc (toInt32 b.size) b.data (List.range' i (b.data.length - i)) mPos

/-- `iterator::next()` -/
def next (b : Bitmap) (mPos : ℤ) : Result ℤ := do
  let mPos := mPos + 1
  let left := toUInt32 mPos % valueSize
  if left ≠ 0 then
    let v ← load b.data (toUInt32 mPos / valueSize)
    match findAsc (toInt32 b.size) v (List.range' left (valueSize - left)) mPos with
    | .done mPos => return mPos
    | .yield mPos => wordsFrom b mPos
  else wordsFrom b mPos

/-- `for (; i >= 0 && m_pos >= 0; --i, --m_pos)`, with the bits of the word still to be tested. -/
def findDesc (v : Word) : List ℕ → ℤ → ForInStep ℤ
  | [], mPos => .yield mPos
  | i :: is, mPos =>
    if 0 ≤ mPos then
      if v &&& pos i ≠ 0 then .done mPos else findDesc v is (mPos - 1)
    else .yield mPos

def wordsDesc (data : List Word) : List ℕ → ℤ → Result ℤ
  | [], mPos => .ok mPos
  | i :: is, mPos => do
    if 0 ≤ mPos then
      let v ← load data i
      if v = 0 then wordsDesc data is (toInt32 (mPos - valueSize))
      else
        match findDesc v (List.range valueSize).reverse mPos with
        | .done mPos => return mPos
        | .yield mPos => wordsDesc data is mPos
    else return mPos

/-- `iterator_reverse::next()` -/
def prev (b : Bitmap) (mPos : ℤ) : Result ℤ := do
  if mPos ≤ 0 then return -1
  let mPos := mPos - 1
  let left := toUInt32 mPos % valueSize
  let i := toUInt32 mPos / valueSize
  if left ≠ valueSize - 1 then
    let v ← load b.data i
    match findDesc v (List.range (left + 1)).reverse mPos with
    | .done mPos => return mPos
    | .yield mPos => wordsDesc b.data (List.range i).reverse mPos
  else wordsDesc b.data (List.range (i + 1)).reverse mPos

def start (b : Bitmap) : Result ℤ := next b (-1)

def rstart (b : Bitmap) : Result ℤ := prev b (toInt32 b.size)

/-- `!it` -/
def valid (b : Bitmap) (mPos : ℤ) : Bool := !decide (mPos ≥ toInt32 b.size ∨ mPos < 0)

/-- The loop `for (; !it; it.next())` from a position of the iterator, with the indices `*it`. -/
inductive Visits (b : Bitmap) (step : ℤ → Result ℤ) : ℤ → List ℕ → Prop where
  | stop {p : ℤ} : valid b p = false → Visits b step p []
  | next {p : ℕ} {q : ℤ} {l : List ℕ} : valid b p = true → step p = .ok q → Visits b step q l →
      Visits b step p (p :: l)

/-- All enumerations visit the indices `l`, which are those of the bits set below the size. -/
structure Enumerates (b : Bitmap) (l : List ℕ) : Prop where
  sorted : l.Pairwise (· < ·)
  mem_iff : ∀ i, i ∈ l ↔ i < b.size ∧ b.get i = .ok true
  foreach_eq : ∀ {ε σ : Type} (cb : ℕ → Call ε σ Bool), foreach cb b = finish (visit cb l)
  rforeach_eq : ∀ {ε σ : Type} (cb : ℕ → Call ε σ Bool), rforeach cb b = finish (visit cb l.reverse)
  listPosAsc_eq : ∀ {ε : Type} (pos : List ℕ),
    (listPosAsc b : Call ε (List ℕ) Unit) pos = .ret () (pos ++ l)
  iterator : ∃ p, b.start = .ok p ∧ Visits b b.next p l
  reverse_iterator : ∃ p, b.rstart = .ok p ∧ Visits b b.prev p l.reverse

/-! ## Positions -/

section
variable {b : Bitmap}

theorem toInt32_size (h : b.size < 2 ^ 31) : toInt32 b.size = b.size := toInt32_natCast h

theorem valid_iff (h : b.size < 2 ^ 31) {p : ℤ} : valid b p = true ↔ 0 ≤ p ∧ p < b.size := by
  rw [valid, toInt32_size h]
  simp
  omega

/-- A position that has run over the size is not valid, even where it wraps around. -/
theorem not_valid_of_ge (h : b.size < 2 ^ 31) {n : ℕ} (hn : b.size ≤ n) (h32 : n < 2 ^ 32) :
    valid b (toInt32 n) = false := by
  refine Bool.eq_false_iff.2 fun hv => ?_
  obtain ⟨h0, hlt⟩ := (valid_iff h).1 hv
  rcases Nat.lt_or_ge n (2 ^ 31) with h31 | h31
  · rw [toInt32_of_lt (by omega) (by omega)] at hlt
    omega
  · exact absurd (toInt32_of_ge h31 h32) (by omega)

end

/-! ## Upwards -/

/-- No bit from `q` to `n` is set. -/
def Clear (b : Bitmap) (q n : ℕ) : Prop := ∀ i, q ≤ i → i < n → b.bit i = false

theorem Clear.append {b : Bitmap} {q p n : ℕ} (h : Clear b q p) (h' : Clear b p n) : Clear b q n := by
  intro i hq hn
  rcases Nat.lt_or_ge i p with hp | hp
  · exact h i hq hp
  · exact h' i hp hn

/-- The first bit set from `q` on, or a position that is not valid. -/
def First (b : Bitmap) (q : ℕ) (r : ℤ) : Prop :=
  (∃ i : ℕ, r = i ∧ q ≤ i ∧ i < b.size ∧ b.bit i = true ∧ Clear b q i) ∨
    (valid b r = false ∧ Clear b q b.size)

theorem First.of_clear {b : Bitmap} {q p : ℕ} {r : ℤ} (hc : Clear b q p) (hqp : q ≤ p) (h : First b p r) :
    First b q r := by
  rcases h with ⟨i, hr, hpi, hi, hbit, hclear⟩ | ⟨hr, hclear⟩
  · exact .inl ⟨i, hr, hqp.trans hpi, hi, hbit, hc.append hclear⟩
  · exact .inr ⟨hr, hc.append hclear⟩

section
variable {b : Bitmap}

/-- The loop over the bits of a word finds the first bit set, or comes to the end of the word. -/
theorem findAsc_ret {j n k : ℕ} (h : n + k ≤ 14) (hle : valueSize * j + n ≤ b.size) :
    (∃ i : ℕ, findAsc b.size (b.data.getD j 0) (List.range' n k) (valueSize * j + n : ℕ) = .done i ∧
      valueSize * j + n ≤ i ∧ i < b.size ∧ b.bit i = true ∧ Clear b (valueSize * j + n) i) ∨
    (findAsc b.size (b.data.getD j 0) (List.range' n k) (valueSize * j + n : ℕ) =
        .yield (min (valueSize * j + n + k) b.size : ℕ) ∧
      Clear b (valueSize * j + n) (min (valueSize * j + n + k) b.size)) := by
  induction k generalizing n with
  | zero =>
    rw [Nat.add_zero, Nat.min_eq_left hle]
    exact .inr ⟨rfl, fun i hi hlt => absurd hlt (Nat.not_lt.2 hi)⟩
  | succ k ih =>
    rw [List.range'_succ, findAsc]
    by_cases hlt : valueSize * j + n < b.size
    · rw [if_pos (by omega)]
      by_cases hbit : b.bit (valueSize * j + n) = true
      · rw [if_pos ((test_bit (by omega)).2 hbit)]
        exact .inl ⟨_, rfl, le_rfl, hlt, hbit, fun i hi hlt => absurd hlt (Nat.not_lt.2 hi)⟩
      · have hone : Clear b (valueSize * j + n) (valueSize * j + n + 1) := by
          intro i hi hlt
          obtain rfl : i = valueSize * j + n := by omega
          exact Bool.eq_false_iff.2 hbit
        rw [if_neg (mt (test_bit (by omega)).1 hbit), ← Nat.cast_succ, Nat.add_comm k, ← Nat.add_assoc]
        rcases ih (n := n + 1) (by omega) hlt with ⟨i, hfind, hle, hi, hbit, hclear⟩ | ⟨hfind, hclear⟩
        · exact .inl ⟨i, hfind, (Nat.le_succ _).trans hle, hi, hbit, hone.append hclear⟩
        · exact .inr ⟨hfind, hone.append hclear⟩
    · have hend : valueSize * j + n = b.size := by omega
      rw [if_neg (by omega), Nat.min_eq_right (by omega), hend]
      exact .inr ⟨rfl, fun i hi hlt => absurd hlt (Nat.not_lt.2 hi)⟩

theorem clear_of_zero {j : ℕ} (h : b.data.getD j 0 = 0) :
    Clear b (valueSize * j) (valueSize * (j + 1)) := by
  intro i hi hlt
  obtain ⟨n, rfl⟩ := Nat.exists_eq_add_of_le hi
  exact bit_of_zero (by rw [valueSize] at *; omega) h

theorem wordsAsc_ret (hb : Plain b) (h31 : b.size < 2 ^ 31) {k : ℕ} : ∀ {j : ℕ}, j + k = b.data.length →
    ∃ r, wordsAsc b.size b.data (List.range' j k) (min (valueSize * j) b.size : ℕ) = .ok r ∧
      First b (min (valueSize * j) b.size) r := by
  have hlen := hb.length_eq
  have hvalid : valid b b.size = false := by
    have := not_valid_of_ge h31 le_rfl b.size_lt
    rwa [toInt32_size h31] at this
  induction k with
  | zero =>
    intro j hj
    have hle : b.size ≤ valueSize * j := by
      rw [show j = b.data.length by omega, hlen, words, valueSize]; omega
    rw [Nat.min_eq_right hle]
    exact ⟨b.size, rfl, .inr ⟨hvalid, fun i hi hlt => absurd hlt (Nat.not_lt.2 hi)⟩⟩
  | succ k ih =>
    intro j hj
    obtain ⟨r, hr, hfirst⟩ := ih (j := j + 1) (by omega)
    have hlt := (words_bounds b.size_lt).2.1 j (by omega)
    have hload : load b.data j = .ok (b.data.getD j 0) := load_getD (by omega)
    rw [Nat.min_eq_left hlt.le, List.range'_succ, wordsAsc, if_pos (by omega), hload, ok_bind]
    by_cases h0 : b.data.getD j 0 = 0
    · have hclear := clear_of_zero h0
      rw [if_pos h0, show ((valueSize * j : ℕ) : ℤ) + valueSize = (valueSize * (j + 1) : ℕ) by
        rw [Nat.mul_succ, Nat.cast_add]]
      by_cases hle : valueSize * (j + 1) ≤ b.size
      · rw [Nat.min_eq_left hle] at hr hfirst
        rw [toInt32_of_lt (by omega) (by omega)]
        exact ⟨r, hr, hfirst.of_clear hclear (Nat.mul_le_mul_left _ (Nat.le_succ j))⟩
      · -- the last word: the position runs over the size
        have hlast : k = 0 := by
          by_contra hk
          exact hle ((words_bounds b.size_lt).2.1 (j + 1) (by omega)).le
        rw [hlast, List.range'_zero, wordsAsc]
        refine ⟨_, rfl, .inr ⟨not_valid_of_ge h31 (Nat.le_of_not_le hle) ?_, ?_⟩⟩
        · rw [valueSize] at *; omega
        · exact fun i hi hlt => hclear i hi (hlt.trans_le (Nat.le_of_not_le hle))
    · rw [if_neg h0, List.range_eq_range']
      have hfind := findAsc_ret (b := b) (j := j) (n := 0) (k := valueSize) le_rfl (by omega)
      rw [Nat.add_zero] at hfind
      rcases hfind with ⟨i, hfind, hle, hi, hbit, hclear⟩ | ⟨hfind, hclear⟩
      · rw [hfind]
        exact ⟨i, rfl, .inl ⟨i, rfl, hle, hi, hbit, hclear⟩⟩
      · rw [hfind]
        exact ⟨r, hr, hfirst.of_clear hclear (by rw [Nat.le_min]; exact ⟨by omega, hlt.le⟩)⟩

theorem wordsAsc_end (n : ℤ) (data : List Word) (is : List ℕ) : wordsAsc n data is n = .ok n := by
  cases is with
  | nil => rfl
  | cons i is => rw [wordsAsc, if_neg (lt_irrefl n)]; rfl

theorem wordsFrom_ret (hb : Plain b) (h31 : b.size < 2 ^ 31) {j : ℕ} (hj : j ≤ b.data.length) :
    ∃ r, wordsFrom b (min (valueSize * j) b.size : ℕ) = .ok r ∧ First b (min (valueSize * j) b.size) r := by
  obtain ⟨k, hk⟩ := Nat.exists_eq_add_of_le hj
  obtain ⟨r, hr, hfirst⟩ := wordsAsc_ret hb h31 hk.symm
  have h32 := b.size_lt
  rw [wordsFrom, toInt32_size h31, toUInt32_natCast ((Nat.min_le_right _ _).trans_lt h32)]
  rcases Nat.le_total (valueSize * j) b.size with hle | hle
  · rw [Nat.min_eq_left hle] at *
    rw [Nat.mul_div_cancel_left _ (show 0 < valueSize by decide), hk, Nat.add_sub_cancel_left]
    exact ⟨r, hr, hfirst⟩
  · -- at the size, whatever words are left
    rw [Nat.min_eq_right hle, wordsAsc_end]
    have hvalid := not_valid_of_ge h31 le_rfl h32
    rw [toInt32_size h31] at hvalid
    exact ⟨_, rfl, .inr ⟨hvalid, fun i hi hlt => absurd hlt (Nat.not_lt.2 hi)⟩⟩

/-- **`next()` finds the first bit set** after the position. -/
theorem next_ret (hb : Plain b) (h31 : b.size < 2 ^ 31) {q : ℕ} (hq : q ≤ b.size) :
    ∃ r, next b ((q : ℤ) - 1) = .ok r ∧ First b q r := by
  have hlen := hb.length_eq
  rw [words, valueSize] at hlen
  have hdiv : valueSize * (q / valueSize) + q % valueSize = q := Nat.div_add_mod q valueSize
  have hmod : q % valueSize < 14 := Nat.mod_lt q (by decide)
  rw [next, Int.sub_add_cancel, toUInt32_natCast (hq.trans_lt b.size_lt)]
  by_cases hleft : q % valueSize = 0
  · have hword : min (valueSize * (q / valueSize)) b.size = q := by omega
    have hret := wordsFrom_ret hb h31 (j := q / valueSize) (by rw [valueSize] at *; omega)
    rw [hword] at hret
    rw [if_neg (not_not.2 hleft)]
    exact hret
  · have hload : load b.data (q / valueSize) = .ok (b.data.getD (q / valueSize) 0) :=
      load_getD (by rw [valueSize] at *; omega)
    obtain ⟨r, hr, hfirst⟩ := wordsFrom_ret hb h31 (j := q / valueSize + 1) (by rw [valueSize] at *; omega)
    have hfind := findAsc_ret (b := b) (j := q / valueSize) (n := q % valueSize)
      (k := valueSize - q % valueSize) (by rw [valueSize] at *; omega) (by omega)
    have hend : q + (valueSize - q % valueSize) = valueSize * (q / valueSize + 1) := by
      rw [valueSize] at *; omega
    rw [hdiv, hend] at hfind
    rw [if_pos hleft, hload, ok_bind]
    rcases hfind with ⟨i, hfind, hle, hi, hbit, hclear⟩ | ⟨hfind, hclear⟩
    · rw [toInt32_size h31, hfind]
      exact ⟨i, rfl, .inl ⟨i, rfl, hle, hi, hbit, hclear⟩⟩
    · rw [toInt32_size h31, hfind]
      exact ⟨r, hr, hfirst.of_clear hclear (by rw [Nat.le_min]; exact ⟨by omega, hq⟩)⟩

/-- The bits set from `q` on. -/
def onesFrom (b : Bitmap) (q : ℕ) : List ℕ := (List.range' q (b.size - q)).filter b.bit

theorem onesFrom_of_clear {q p : ℕ} (h : Clear b q p) (hqp : q ≤ p) (hp : p ≤ b.size) :
    b.onesFrom q = b.onesFrom p := by
  obtain ⟨k, rfl⟩ := Nat.exists_eq_add_of_le hqp
  rw [onesFrom, onesFrom, show b.size - q = k + (b.size - (q + k)) by omega, ← List.range'_append_1,
    List.filter_append, List.filter_eq_nil_iff.2 fun i hi => ?_]
  · rfl
  · rw [List.mem_range'_1] at hi
    rw [h i hi.1 hi.2]
    decide

/-- **The loop over the iterator visits the bits set** from its position on. -/
theorem visits_next (hb : Plain b) (h31 : b.size < 2 ^ 31) {q : ℕ} (hq : q ≤ b.size) {r : ℤ}
    (h : First b q r) : Visits b b.next r (b.onesFrom q) := by
  obtain ⟨k, hk⟩ : ∃ k, b.size - q < k := ⟨_, Nat.lt_succ_self _⟩
  induction k generalizing q r with
  | zero => exact absurd hk (Nat.not_lt_zero _)
  | succ k ih =>
    rcases h with ⟨i, rfl, hqi, hi, hbit, hclear⟩ | ⟨hr, hclear⟩
    · obtain ⟨r', hr', hfirst⟩ := next_ret hb h31 (q := i + 1) hi
      rw [Nat.cast_succ, Int.add_sub_cancel] at hr'
      have hones : b.onesFrom q = i :: b.onesFrom (i + 1) := by
        rw [onesFrom_of_clear hclear hqi hi.le, onesFrom, show b.size - i = b.size - (i + 1) + 1 by omega,
          List.range'_succ, List.filter_cons_of_pos hbit]
        rfl
      rw [hones]
      exact .next ((valid_iff h31).2 ⟨by omega, by omega⟩) hr' (ih hi hfirst (by omega))
    · have hones : b.onesFrom q = [] := by
        rw [onesFrom_of_clear hclear hq le_rfl, onesFrom, Nat.sub_self]
        rfl
      rw [hones]
      exact .stop hr

end

/-! ## Downwards -/

/-- The last bit set before `q`, or a position that is not valid. -/
def Last (b : Bitmap) (q : ℕ) (r : ℤ) : Prop :=
  (∃ i : ℕ, r = i ∧ i < q ∧ b.bit i = true ∧ Clear b (i + 1) q) ∨ (valid b r = false ∧ Clear b 0 q)

theorem Last.of_clear {b : Bitmap} {q p : ℕ} {r : ℤ} (hc : Clear b p q) (hpq : p ≤ q) (h : Last b p r) :
    Last b q r := by
  rcases h with ⟨i, hr, hi, hbit, hclear⟩ | ⟨hr, hclear⟩
  · exact .inl ⟨i, hr, hi.trans_le hpq, hbit, hclear.append hc⟩
  · exact .inr ⟨hr, hclear.append hc⟩

section
variable {b : Bitmap}

/-- The loop over the bits of a word below its bit `n` finds the last bit set, or comes to the
    word before. -/
theorem findDesc_ret {j n : ℕ} (h : n ≤ 14) :
    (∃ i : ℕ, findDesc (b.data.getD j 0) (List.range n).reverse ((valueSize * j + n : ℕ) - 1) = .done i ∧
      i < valueSize * j + n ∧ b.bit i = true ∧ Clear b (i + 1) (valueSize * j + n)) ∨
    (findDesc (b.data.getD j 0) (List.range n).reverse ((valueSize * j + n : ℕ) - 1) =
        .yield ((valueSize * j : ℕ) - 1) ∧ Clear b (valueSize * j) (valueSize * j + n)) := by
  induction n with
  | zero => exact .inr ⟨rfl, fun i hi hlt => absurd hlt (Nat.not_lt.2 hi)⟩
  | succ n ih =>
    rw [List.range_succ, List.reverse_append, List.reverse_singleton, List.singleton_append, findDesc,
      if_pos (by omega), ← Nat.add_assoc, Nat.cast_succ, Int.add_sub_cancel]
    by_cases hbit : b.bit (valueSize * j + n) = true
    · rw [if_pos ((test_bit h).2 hbit)]
      exact .inl ⟨_, rfl, Nat.lt_succ_self _, hbit, fun i hi hlt => absurd hlt (Nat.not_lt.2 hi)⟩
    · have hone : Clear b (valueSize * j + n) (valueSize * j + n + 1) := by
        intro i hi hlt
        obtain rfl : i = valueSize * j + n := by omega
        exact Bool.eq_false_iff.2 hbit
      rw [if_neg (mt (test_bit h).1 hbit)]
      rcases ih (by omega) with ⟨i, hfind, hi, hbit, hclear⟩ | ⟨hfind, hclear⟩
      · exact .inl ⟨i, hfind, hi.trans (Nat.lt_succ_self _), hbit, hclear.append hone⟩
      · exact .inr ⟨hfind, hclear.append hone⟩

theorem wordsDesc_ret (hb : Plain b) (h31 : b.size < 2 ^ 31) {j : ℕ} (hj : j ≤ b.data.length) :
    ∃ r, wordsDesc b.data (List.range j).reverse ((valueSize * j : ℕ) - 1) = .ok r ∧
      Last b (valueSize * j) r := by
  induction j with
  | zero =>
    refine ⟨-1, rfl, .inr ⟨?_, fun i _ hlt => absurd hlt (Nat.not_lt_zero i)⟩⟩
    exact Bool.eq_false_iff.2 fun hv => absurd ((valid_iff h31).1 hv).1 (by decide)
  | succ j ih =>
    obtain ⟨r, hr, hlast⟩ := ih (by omega)
    have hlt := (words_bounds b.size_lt).2.1 j (by rw [← hb.length_eq]; omega)
    have hload : load b.data j = .ok (b.data.getD j 0) := load_getD (by omega)
    have hpos : ((valueSize * (j + 1) : ℕ) : ℤ) - 1 - valueSize = (valueSize * j : ℕ) - 1 := by
      rw [Nat.mul_succ, Nat.cast_add]; omega
    rw [List.range_succ, List.reverse_append, List.reverse_singleton, List.singleton_append, wordsDesc,
      if_pos (by rw [valueSize]; omega), hload, ok_bind]
    have hle : valueSize * j ≤ valueSize * (j + 1) := Nat.mul_le_mul_left _ (Nat.le_succ j)
    by_cases h0 : b.data.getD j 0 = 0
    · rw [if_pos h0, hpos, toInt32_of_lt (by omega) (by omega)]
      exact ⟨r, hr, hlast.of_clear (clear_of_zero h0) hle⟩
    · rw [if_neg h0]
      rcases findDesc_ret (b := b) (j := j) (n := 14) le_rfl with
        ⟨i, hfind, hi, hbit, hclear⟩ | ⟨hfind, hclear⟩
      · exact ⟨i, by rw [Nat.mul_succ]; erw [hfind]; rfl, .inl ⟨i, rfl, hi, hbit, hclear⟩⟩
      · exact ⟨r, by rw [Nat.mul_succ]; erw [hfind]; exact hr, hlast.of_clear hclear hle⟩

/-- **`next()` of the reverse iterator finds the last bit set** before the position. -/
theorem prev_ret (hb : Plain b) (h31 : b.size < 2 ^ 31) {q : ℕ} (hq : q ≤ b.size) :
    ∃ r, prev b q = .ok r ∧ Last b q r := by
  have hlen := hb.length_eq
  rw [words, valueSize] at hlen
  rcases Nat.eq_zero_or_pos q with rfl | hpos
  · refine ⟨-1, rfl, .inr ⟨?_, fun i _ hlt => absurd hlt (Nat.not_lt_zero i)⟩⟩
    exact Bool.eq_false_iff.2 fun hv => absurd ((valid_iff h31).1 hv).1 (by decide)
  · obtain ⟨m, rfl⟩ := Nat.exists_eq_succ_of_ne_zero hpos.ne'
    have hdiv : valueSize * (m / valueSize) + m % valueSize = m := Nat.div_add_mod m valueSize
    have hmod : m % valueSize < 14 := Nat.mod_lt m (by decide)
    have h32 := b.size_lt
    rw [prev, if_neg (by omega), Nat.cast_succ, Int.add_sub_cancel]
    dsimp only
    rw [toUInt32_natCast (by omega)]
    by_cases hleft : m % valueSize = valueSize - 1
    · obtain ⟨r, hr, hlast⟩ := wordsDesc_ret hb h31 (j := m / valueSize + 1)
        (by rw [valueSize] at *; omega)
      have hend : valueSize * (m / valueSize + 1) = m + 1 := by rw [valueSize] at *; omega
      rw [hend, Nat.cast_succ, Int.add_sub_cancel] at hr
      rw [hend] at hlast
      rw [if_neg (not_not.2 hleft)]
      exact ⟨r, hr, hlast⟩
    · obtain ⟨r, hr, hlast⟩ := wordsDesc_ret hb h31 (j := m / valueSize) (by rw [valueSize] at *; omega)
      have hload : load b.data (m / valueSize) = .ok (b.data.getD (m / valueSize) 0) :=
        load_getD (by rw [valueSize] at *; omega)
      have hfind := findDesc_ret (b := b) (j := m / valueSize) (n := m % valueSize + 1) hmod
      rw [← Nat.add_assoc, hdiv, Nat.cast_succ, Int.add_sub_cancel] at hfind
      rw [if_pos hleft, hload, ok_bind]
      rcases hfind with ⟨i, hfind, hi, hbit, hclear⟩ | ⟨hfind, hclear⟩
      · rw [hfind]
        exact ⟨i, rfl, .inl ⟨i, rfl, hi, hbit, hclear⟩⟩
      · rw [hfind]
        exact ⟨r, hr, hlast.of_clear hclear (by omega)⟩

/-- The bits set below `q`. -/
def onesBelow (b : Bitmap) (q : ℕ) : List ℕ := (List.range q).filter b.bit

theorem onesBelow_of_clear {q p : ℕ} (h : Clear b p q) (hpq : p ≤ q) : b.onesBelow q = b.onesBelow p := by
  obtain ⟨k, rfl⟩ := Nat.exists_eq_add_of_le hpq
  rw [onesBelow, onesBelow, List.range_add, List.filter_append,
    List.filter_eq_nil_iff (l := (List.range k).map _).2 fun i hi => ?_, List.append_nil]
  obtain ⟨j, hj, rfl⟩ := List.mem_map.1 hi
  rw [List.mem_range] at hj
  rw [h (p + j) (by omega) (by omega)]
  decide

/-- **The loop over the reverse iterator visits the bits set** from its position down. -/
theorem visits_prev (hb : Plain b) (h31 : b.size < 2 ^ 31) {q : ℕ} (hq : q ≤ b.size) {r : ℤ}
    (h : Last b q r) : Visits b b.prev r (b.onesBelow q).reverse := by
  induction q using Nat.strong_induction_on generalizing r with
  | _ q ih =>
    rcases h with ⟨i, rfl, hi, hbit, hclear⟩ | ⟨hr, hclear⟩
    · obtain ⟨r', hr', hlast⟩ := prev_ret hb h31 (q := i) (by omega)
      have hones : (b.onesBelow q).reverse = i :: (b.onesBelow i).reverse := by
        rw [onesBelow_of_clear hclear hi, onesBelow, List.range_succ, List.filter_append,
          List.reverse_append, List.filter_cons_of_pos hbit]
        rfl
      rw [hones]
      exact .next ((valid_iff h31).2 ⟨by omega, by omega⟩) hr' (ih i hi (by omega) hlast)
    · have hones : b.onesBelow q = [] := by
        rw [onesBelow_of_clear hclear (Nat.zero_le q)]
        rfl
      rw [hones]
      exact .stop hr

end

/-! ## The condition -/

section
variable {b : Bitmap}

/-- The last word has no bit at the index `size`, and the size fits in 31 bits or no bit is set. -/
def Countable (b : Bitmap) : Prop :=
  (b.size % valueSize = 0 ∨ b.get b.size = .ok false) ∧
    (b.size < 2 ^ 31 ∨ ∀ i < b.size, b.get i = .ok false)

theorem get_size (hb : Plain b) (h : b.size % valueSize ≠ 0) : b.get b.size = .ok (b.bit b.size) := by
  refine get_ret ?_
  rw [hb.length_eq, words]
  rw [valueSize] at *
  omega

/-- `rforeach` begins inside the bitmap iff the last word has no bit at the index `size`. -/
theorem surplus_iff (hb : Plain b) :
    b.surplus = [] ↔ b.size % valueSize = 0 ∨ b.get b.size = .ok false := by
  rw [surplus]
  by_cases h14 : b.size % valueSize = 0
  · exact iff_of_true (if_neg fun h => h.1 h14) (.inl h14)
  · rw [get_size hb h14]
    cases b.bit b.size <;> simp [h14]

theorem rforeach_iff (hb : Plain b) : (∀ {ε σ : Type} (cb : ℕ → Call ε σ Bool),
    rforeach cb b = finish (visit cb b.ones.reverse)) ↔ b.surplus = [] := by
  constructor
  · intro h
    have hpush := congrFun (h (ε := Unit) pushBack) []
    rw [rforeach_ret hb, visit_pushBack, visit_pushBack, List.nil_append, List.nil_append] at hpush
    injection hpush with _ heq
    have := congrArg List.length heq
    rw [List.length_append] at this
    exact List.length_eq_zero_iff.1 (by omega)
  · intro h ε σ cb
    rw [rforeach_ret hb, h, List.nil_append]

/-- The iterators of a bitmap of `2 ^ 31` bits or more visit nothing. -/
theorem visits_of_ge (h31 : 2 ^ 31 ≤ b.size) (p : ℤ) (step : ℤ → Result ℤ) (l : List ℕ) :
    Visits b step p l ↔ l = [] := by
  have hneg := toInt32_of_ge h31 b.size_lt
  have hvalid : valid b p = false := by
    rw [valid]
    simp
    omega
  constructor
  · intro h
    cases h with
    | stop _ => rfl
    | next hv _ _ => exact absurd hv (by rw [hvalid]; decide)
  · rintro rfl
    exact .stop hvalid

theorem start_of_ge (h31 : 2 ^ 31 ≤ b.size) :
    (∃ p, b.start = .ok p) ∧ ∃ p, b.rstart = .ok p := by
  have hneg := toInt32_of_ge h31 b.size_lt
  refine ⟨⟨0, ?_⟩, ⟨-1, ?_⟩⟩
  · have hwords (is : List ℕ) : wordsAsc (toInt32 b.size) b.data is 0 = .ok 0 := by
      cases is with
      | nil => rfl
      | cons i is => rw [wordsAsc, if_neg (by omega)]; rfl
    exact hwords _
  · rw [rstart, prev, if_pos (by omega)]
    rfl

theorem ones_eq_of_mem {l : List ℕ} (hb : Plain b) (hl : l.Pairwise (· < ·))
    (h : ∀ i, i ∈ l ↔ i < b.size ∧ b.get i = .ok true) : l = b.ones := by
  refine List.Perm.eq_of_pairwise (fun i j _ _ hij hji => absurd hij (lt_asymm hji)) hl ones_sorted ?_
  refine (List.perm_ext_iff_of_nodup hl.nodup ones_sorted.nodup).2 fun i => ?_
  rw [h, mem_ones]
  refine and_congr_right fun hi => ?_
  rw [hb.get_ret hi]
  simp

theorem ones_eq_nil_iff (hb : Plain b) : b.ones = [] ↔ ∀ i < b.size, b.get i = .ok false := by
  rw [List.eq_nil_iff_forall_not_mem]
  refine forall_congr' fun i => ?_
  rw [mem_ones, not_and, Bool.not_eq_true]
  refine forall_congr' fun hi => ?_
  rw [hb.get_ret hi, Except.ok.injEq]

theorem onesFrom_zero : b.onesFrom 0 = b.ones := by
  rw [onesFrom, ones, Nat.sub_zero, List.range_eq_range']

/-- The iterators visit the bits set iff the size fits in 31 bits or there are none. -/
theorem iterators_iff (hb : Plain b) : ((∃ p, b.start = .ok p ∧ Visits b b.next p b.ones) ∧
    ∃ p, b.rstart = .ok p ∧ Visits b b.prev p b.ones.reverse) ↔
      b.size < 2 ^ 31 ∨ ∀ i < b.size, b.get i = .ok false := by
  rw [← ones_eq_nil_iff hb]
  rcases Nat.lt_or_ge b.size (2 ^ 31) with h31 | h31
  · refine iff_of_true ⟨?_, ?_⟩ (.inl h31)
    · obtain ⟨r, hr, hfirst⟩ := next_ret hb h31 (Nat.zero_le _)
      exact ⟨r, hr, onesFrom_zero ▸ visits_next hb h31 (Nat.zero_le _) hfirst⟩
    · obtain ⟨r, hr, hlast⟩ := prev_ret hb h31 le_rfl
      refine ⟨r, ?_, visits_prev hb h31 le_rfl hlast⟩
      rw [rstart, toInt32_size h31]
      exact hr
  · obtain ⟨⟨p, hp⟩, q, hq⟩ := start_of_ge h31
    simp only [visits_of_ge h31, List.reverse_eq_nil_iff]
    constructor
    · rintro ⟨⟨_, _, hnil⟩, -⟩
      exact .inr hnil
    · intro h
      have hnil := h.resolve_left (Nat.not_lt.2 h31)
      exact ⟨⟨p, hp, hnil⟩, q, hq, hnil⟩

/-- **All enumerations agree iff** the bitmap is countable. -/
theorem enumerates_iff {b : Bitmap} (hb : Built b) : (∃ l, Enumerates b l) ↔ Countable b := by
  have hp := hb.plain
  rw [Countable, ← surplus_iff hp, ← rforeach_iff hp, ← iterators_iff hp]
  constructor
  · rintro ⟨l, h⟩
    obtain rfl := ones_eq_of_mem hp h.sorted h.mem_iff
    exact ⟨h.rforeach_eq, h.iterator, h.reverse_iterator⟩
  · rintro ⟨hdown, hiter, hrev⟩
    refine ⟨b.ones, ones_sorted, fun i => ?_, fun cb => foreach_ret hp, hdown, listPosAsc_ret hp, hiter, hrev⟩
    rw [mem_ones]
    refine and_congr_right fun hi => ?_
    rw [hp.get_ret hi, Except.ok.injEq]

/-- A bitmap of 20 bits with the bit 3 set is enumerated. -/
theorem enumerates_set : ∃ l, Enumerates ⟨false, 20, by decide, [0x0008#16, 0x0000#16]⟩ l := by
  have hset : (new 20 (by decide) 0x00#8).set 3 true =
      .ok ⟨false, 20, by decide, [0x0008#16, 0x0000#16]⟩ := rfl
  have hbuilt : Built ⟨false, 20, by decide, [0x0008#16, 0x0000#16]⟩ :=
    .set (.new 20 (by decide) (.inl rfl)) trivial hset
  exact (enumerates_iff hbuilt).2 (And.intro (Or.inr rfl) (Or.inl (show 20 < 2 ^ 31 by decide)))

/-- Call back once: keep the index, and stop. -/
def keepFirst (i : ℕ) : Call Unit ℕ Bool := do
  Call.modify fun _ => i
  return false

/-- `rforeach` calls back with the index 15 of a bitmap of 15 bits filled with ones. -/
theorem not_enumerates : ¬∃ l, Enumerates (new 15 (by decide) 0xFF#8) l := by
  rintro ⟨l, h⟩
  have hfirst := congrFun (h.rforeach_eq keepFirst) 0
  have hcall : rforeach keepFirst (new 15 (by decide) 0xFF#8) 0 = .ret () 15 := rfl
  rw [hcall] at hfirst
  cases hl : l.reverse with
  | nil =>
    rw [hl] at hfirst
    cases hfirst
  | cons i is =>
    have hi : i ∈ l := List.mem_reverse.1 (hl ▸ List.mem_cons_self)
    have hkeep : finish (visit keepFirst (i :: is)) 0 = .ret () i := rfl
    rw [hl, hkeep] at hfirst
    injection hfirst with _ heq
    exact absurd ((h.mem_iff i).1 hi).1 (heq ▸ lt_irrefl 15)

end

end Ancfl.Bitmap
