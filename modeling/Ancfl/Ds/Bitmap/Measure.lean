/-
  `any` and `getCount` on plain bitmaps.

  * `countTo d m`: how many of the first `m` bits are set;
  * `any_plain`, `getCount_plain`: what the two return for a plain bitmap;
  * `measures_plain`: when this measures the bits below the size.
-/
import Ancfl.Ds.Bitmap.Mixed

namespace Ancfl.Bitmap

open Lib

/-! ## The operations -/

/-- `MASK[i]` -/
def mask (i : ℕ) : Word := pos i - 1

/-- The test of a word of a compressed bitmap; `cur` is a `uint8_t`. -/
def shown (w : Word) : Bool :=
  let cur : Word := (w.setWidth 8).setWidth 16
  if cur &&& compressMask ≠ 0 then cur &&& valueMask ≠ 0 else cur ≠ 0

/-- `any()`; where there are no words, `m_data` is null or there is nothing to look at. -/
def any (b : Bitmap) : Result Bool := do
  if b.data.length = 0 then return false
  if b.isCompress then
    return b.data.any shown
  else
    if ← anyMeet (fun i => do return (← load b.data i) ≠ 0) (List.range (b.data.length - 1)) then
      return true
    return (← load b.data (b.data.length - 1)) &&& mask (b.size % valueSize) ≠ 0

/-- `count_bits` of a 64-bit number -/
def countBits64 (v : BitVec 64) : ℕ := (List.range 64).countP fun i => v.getLsbD i

/-- The loop over the bits of a word: `count` and `cur_pos` after it. -/
def countWord (size : ℕ) (tmp : Word) : List ℕ → ℕ × ℕ → ℕ × ℕ
  | [], st => st
  | n :: ns, (count, curPos) =>
    if curPos < size then
      countWord size tmp ns (if tmp &&& pos n ≠ 0 then (count + 1) % 2 ^ 32 else count, (curPos + 1) % 2 ^ 32)
    else (count, curPos)

/-- What a word of a compressed bitmap adds. -/
def weight (tmp : Word) : ℕ :=
  if tmp &&& compressMask ≠ 0 then
    if tmp &&& valueMask ≠ 0 then (tmp &&& countMask).toNat else 0
  else countBits tmp

/-- `getCount()` -/
def getCount (b : Bitmap) : Result ℕ := do
  if b.isCompress then
    return b.data.foldl (fun count tmp => (count + weight tmp) % 2 ^ 32) 0
  else
    let len := b.data.length / u64DivBase
    let count ← (List.range len).foldlM (fun count i => do
      return (count + countBits64 (← load64 b.data i)) % 2 ^ 32) 0
    let (count, _) ← (List.range' (len * u64DivBase) (b.data.length - len * u64DivBase)).foldlM
      (fun st i => do
        let tmp ← load b.data i
        return if tmp ≠ 0 then countWord b.size tmp (List.range valueSize) st
          else (st.1, (st.2 + valueSize) % 2 ^ 32)) (count, u64ValueSize * len % 2 ^ 32)
    return count

/-- `any` and `getCount` measure the bits `r` below the size. -/
structure Measures (b : Bitmap) (r : ℕ → Bool) : Prop where
  any_eq : any b = .ok (decide (∃ i < b.size, r i = true))
  count_eq : getCount b = .ok ((List.range b.size).countP r)

/-! ## Counting bits -/

/-- How many of the first `m` bits are set. -/
def countTo (d : List Word) (m : ℕ) : ℕ := (List.range m).countP (bitAt d)

theorem countP_range_add (p : ℕ → Bool) (m n : ℕ) : (List.range (m + n)).countP p =
    (List.range m).countP p + (List.range n).countP fun i => p (m + i) := by
  rw [List.range_add, List.countP_append, List.countP_map]
  rfl

/-- A word more has its value bits more. -/
theorem countTo_succ (d : List Word) (j : ℕ) :
    countTo d (valueSize * (j + 1)) = countTo d (valueSize * j) + countBits (bits (d.getD j 0)) := by
  rw [countTo, Nat.mul_succ, countP_range_add, countBits_bits]
  refine congrArg (countTo d (valueSize * j) + ·) (List.countP_congr fun i hi => ?_)
  rw [bitAt_mul_add d (List.mem_range.1 hi)]

/-- The bits above the value bits are counted as well. -/
theorem countBits_flagged {f : Bool} {w : Word} (hw : w.getLsbD 14 = f ∧ w.getLsbD 15 = f) :
    countBits w = countBits (bits w) + if f then 2 else 0 := by
  rw [countBits_bits, countBits, show List.range 16 = List.range 14 ++ [14, 15] by rfl, List.countP_append]
  simp only [List.countP_cons, List.countP_nil, hw.1, hw.2]
  cases f with
  | false => rfl
  | true => rfl

theorem countP_range_64 (p : ℕ → Bool) : (List.range 64).countP p = (List.range 16).countP p +
    ((List.range 16).countP fun i => p (16 + i)) + ((List.range 16).countP fun i => p (32 + i)) +
      (List.range 16).countP fun i => p (48 + i) := by
  rw [show 64 = 16 + 16 + 16 + 16 by rfl, countP_range_add, countP_range_add, countP_range_add]

theorem countBits64_block (w₀ w₁ w₂ w₃ : Word) : countBits64 (block w₀ w₁ w₂ w₃) =
    countBits w₀ + countBits w₁ + countBits w₂ + countBits w₃ := by
  rw [countBits64, countP_range_64]
  congr 1
  · congr 1
    · congr 1
      · exact List.countP_congr fun i hi => by
          rw [getLsbD_block, if_pos (List.mem_range.1 hi)]
      · exact List.countP_congr fun i hi => by
          have hlt := List.mem_range.1 hi
          rw [getLsbD_block, if_neg (by omega), if_pos (by omega), Nat.add_sub_cancel_left]
    · exact List.countP_congr fun i hi => by
        have hlt := List.mem_range.1 hi
        rw [getLsbD_block, if_neg (by omega), if_neg (by omega), if_pos (by omega), Nat.add_sub_cancel_left]
  · exact List.countP_congr fun i hi => by
      rw [getLsbD_block, if_neg (by omega), if_neg (by omega), if_neg (by omega), Nat.add_sub_cancel_left]

/-! ## The loops -/

/-- A loop over a range keeps an invariant that mentions the index. -/
theorem foldlM_range' {σ : Type} {f : σ → ℕ → Result σ} {P : ℕ → σ → Prop} {a n : ℕ} {s : σ} (h0 : P a s)
    (hstep : ∀ j s, a ≤ j → j < a + n → P j s → ∃ s', f s j = .ok s' ∧ P (j + 1) s') :
    ∃ s', (List.range' a n).foldlM f s = .ok s' ∧ P (a + n) s' := by
  induction n generalizing a s with
  | zero => exact ⟨s, rfl, h0⟩
  | succ n ih =>
    obtain ⟨s₁, h₁, hP₁⟩ := hstep a s le_rfl (by omega) h0
    obtain ⟨s₂, h₂, hP₂⟩ := ih (a := a + 1) hP₁ fun j s hj hlt => hstep j s (by omega) (by omega)
    refine ⟨s₂, ?_, by rwa [Nat.add_right_comm] at hP₂⟩
    rw [List.range'_succ, List.foldlM_cons, h₁]
    exact h₂

theorem countP_range_lt (p : ℕ → Bool) (a n s : ℕ) :
    ((List.range n).countP fun i => decide (a + i < s) && p i) = (List.range (min n (s - a))).countP p := by
  obtain ⟨m, hm⟩ : ∃ m, min n (s - a) + m = n := ⟨n - min n (s - a), by omega⟩
  rw [← hm, countP_range_add, hm]
  have hlow : ((List.range (min n (s - a))).countP fun i => decide (a + i < s) && p i) =
      (List.range (min n (s - a))).countP p := by
    refine List.countP_congr fun i hi => ?_
    have hlt := List.mem_range.1 hi
    simp only [(by omega : a + i < s), decide_true, Bool.true_and]
  have hhigh : ((List.range m).countP fun i => decide (a + (min n (s - a) + i) < s) && p (min n (s - a) + i)) = 0 := by
    refine List.countP_eq_zero.2 fun i hi h => ?_
    have hin := List.mem_range.1 hi
    have hlt := of_decide_eq_true (Bool.and_eq_true_iff.1 h).1
    omega
  rw [hlow, hhigh, Nat.add_zero]

section
variable {d : List Word} {size : ℕ}

/-- The loop over the bits of a word counts those below the size. -/
theorem countWord_range' {w : Word} {base k m c : ℕ} (hsize : size < 2 ^ 32) (hk : k + m ≤ 14)
    (hle : base + k ≤ size) (hc : c < 2 ^ 32) :
    countWord size w (List.range' k m) (c, base + k) =
      ((c + (List.range' k m).countP fun i => decide (base + i < size) && w.getLsbD i) % 2 ^ 32,
        min (base + (k + m)) size) := by
  induction m generalizing k c with
  | zero =>
    rw [List.range'_zero, countWord, List.countP_nil, Nat.add_zero, Nat.mod_eq_of_lt hc, Nat.add_zero,
      Nat.min_eq_left hle]
  | succ m ih =>
    rw [List.range'_succ, countWord, List.countP_cons]
    by_cases hlt : base + k < size
    · rw [if_pos hlt, Nat.mod_eq_of_lt (by omega : base + k + 1 < 2 ^ 32), Nat.add_assoc base k 1,
        ih (k := k + 1) (by omega) (by omega)]
      · have hbit := and_pos_ne_zero (i := k) (by omega) w
        simp only [hlt, decide_true, Bool.true_and, hbit]
        congr 1
        · split_ifs
          · rw [Nat.mod_add_mod]
            congr 1
            omega
          · rfl
        · congr 1
          omega
      · split_ifs
        · exact Nat.mod_lt _ (by decide)
        · exact hc
    · have hnone : ((List.range' (k + 1) m).countP fun i => decide (base + i < size) && w.getLsbD i) = 0 := by
        refine List.countP_eq_zero.2 fun i hi h => ?_
        have hge := (List.mem_range'_1.1 hi).1
        have hin := of_decide_eq_true (Bool.and_eq_true_iff.1 h).1
        omega
      rw [if_neg hlt, hnone]
      simp only [hlt, decide_false, Bool.false_and, Bool.false_eq_true, if_false, Nat.add_zero,
        Nat.mod_eq_of_lt hc]
      congr 1
      omega

/-- The bits of a word below the size. -/
theorem countTo_word (d : List Word) (size j : ℕ) :
    countTo d (min (valueSize * (j + 1)) size) = countTo d (min (valueSize * j) size) +
      (List.range 14).countP fun i => decide (valueSize * j + i < size) && (d.getD j 0).getLsbD i := by
  have hcongr : ((List.range 14).countP fun i => decide (valueSize * j + i < size) && (d.getD j 0).getLsbD i) =
      (List.range 14).countP fun i => decide (valueSize * j + i < size) && bitAt d (valueSize * j + i) :=
    List.countP_congr fun i hi => by rw [bitAt_mul_add d (List.mem_range.1 hi)]
  rw [hcongr, countP_range_lt (fun i => bitAt d (valueSize * j + i))]
  by_cases hle : valueSize * j ≤ size
  · rw [Nat.min_eq_left hle, countTo, countTo, ← countP_range_add]
    congr 2
    rw [valueSize] at *
    omega
  · rw [Nat.min_eq_right (by rw [valueSize] at *; omega), Nat.min_eq_right (by omega),
      Nat.sub_eq_zero_of_le (by omega), Nat.min_zero]
    rfl

end

/-! ## Plain bitmaps -/

/-- How many bits behind the size, in the last word, are `v`. -/
def padding (v : Bool) (b : Bitmap) : ℕ :=
  (List.range (valueSize * b.data.length - b.size)).countP fun i => b.bit (b.size + i) == v

section
variable {b : Bitmap} {f : Bool}

theorem size_le (hb : Plain b) : b.size ≤ valueSize * b.data.length ∧ valueSize * b.data.length ≤ b.size + 13 := by
  rw [hb.length_eq, words, valueSize]
  omega

theorem countTo_all (hb : Plain b) :
    countTo b.data (valueSize * b.data.length) = countTo b.data b.size + padding true b := by
  obtain ⟨m, hm⟩ := Nat.exists_eq_add_of_le (size_le hb).1
  rw [padding, hm, countTo, countP_range_add, Nat.add_sub_cancel_left]
  simp only [beq_true]
  rfl

theorem padding_le (hb : Plain b) (v : Bool) : padding v b ≤ 13 := by
  have hle := (size_le hb).2
  exact List.countP_le_length.trans (by rw [List.length_range]; omega)

/-- What the blocks of four words count too much. -/
def excess (f : Bool) (b : Bitmap) : ℕ :=
  (if f then 8 * (b.data.length / u64DivBase) else 0) + if b.data.length % u64DivBase = 0 then padding true b else 0

theorem Flagged.getD (hf : Flagged f b.data) {j : ℕ} (hj : j < b.data.length) :
    (b.data.getD j 0).getLsbD 14 = f ∧ (b.data.getD j 0).getLsbD 15 = f := by
  rw [List.getD_eq_getElem _ _ hj]
  exact hf _ (List.getElem_mem hj)

/-- A block counts the bits of four words, the two flag bits of each included. -/
theorem block_count (hf : Flagged f b.data) {j : ℕ} (hj : u64DivBase * j + 3 < b.data.length) :
    ∃ v, load64 b.data j = .ok v ∧
      countTo b.data (valueSize * (u64DivBase * j)) + countBits64 v =
        countTo b.data (valueSize * (u64DivBase * (j + 1))) + if f then 8 else 0 := by
  refine ⟨_, load64_ret hj, ?_⟩
  rw [countBits64_block, countBits_flagged (hf.getD (by omega)), countBits_flagged (hf.getD (by omega)),
    countBits_flagged (hf.getD (by omega)), countBits_flagged (hf.getD (by omega)), Nat.mul_succ u64DivBase j]
  have h₀ := countTo_succ b.data (u64DivBase * j)
  have h₁ : countTo b.data (valueSize * (u64DivBase * j + 2)) = _ := countTo_succ b.data (u64DivBase * j + 1)
  have h₂ : countTo b.data (valueSize * (u64DivBase * j + 3)) = _ := countTo_succ b.data (u64DivBase * j + 2)
  have h₃ : countTo b.data (valueSize * (u64DivBase * j + u64DivBase)) = _ := countTo_succ b.data (u64DivBase * j + 3)
  cases f
  · simp only [Bool.false_eq_true, if_false]
    omega
  · simp only [if_true]
    omega

/-- The blocks of four words are counted with all their bits. -/
theorem blocks_count (hf : Flagged f b.data) : (List.range (b.data.length / u64DivBase)).foldlM
    (fun count i => do return (count + countBits64 (← load64 b.data i)) % 2 ^ 32) 0 =
      (.ok ((countTo b.data (valueSize * (u64DivBase * (b.data.length / u64DivBase))) +
        if f then 8 * (b.data.length / u64DivBase) else 0) % 2 ^ 32) : Result ℕ) := by
  have hstep : ∀ j count, 0 ≤ j → j < 0 + b.data.length / u64DivBase →
      count = (countTo b.data (valueSize * (u64DivBase * j)) + if f then 8 * j else 0) % 2 ^ 32 →
      ∃ s', (do return (count + countBits64 (← load64 b.data j)) % 2 ^ 32 : Result ℕ) = .ok s' ∧
        s' = (countTo b.data (valueSize * (u64DivBase * (j + 1))) + if f then 8 * (j + 1) else 0) % 2 ^ 32 := by
    intro j count _ hj hcount
    have hlen : u64DivBase * j + 3 < b.data.length := by
      rw [u64DivBase] at *
      omega
    obtain ⟨v, hload, hv⟩ := block_count hf hlen
    refine ⟨_, by rw [hload]; rfl, ?_⟩
    rw [hcount, Nat.mod_add_mod]
    congr 1
    cases f
    · simp only [Bool.false_eq_true, if_false] at hv ⊢
      omega
    · simp only [if_true] at hv ⊢
      omega
  have hstart : 0 = (countTo b.data (valueSize * (u64DivBase * 0)) + if f then 8 * 0 else 0) % 2 ^ 32 := by
    cases f
    · rfl
    · rfl
  obtain ⟨c, hfold, hc⟩ := foldlM_range'
    (P := fun j count => count = (countTo b.data (valueSize * (u64DivBase * j)) + if f then 8 * j else 0) % 2 ^ 32)
    hstart hstep
  rw [List.range_eq_range', hfold, hc, Nat.zero_add]

/-- The words behind the blocks are counted up to the size. -/
theorem word_count (hb : Plain b) {j x : ℕ} (hj : j < b.data.length) {st : ℕ × ℕ}
    (hst : st.1 = (countTo b.data (min (valueSize * j) b.size) + x) % 2 ^ 32 ∧
      (j < b.data.length → st.2 = valueSize * j)) :
    ∃ st', (do
        let tmp ← load b.data j
        return if tmp ≠ 0 then countWord b.size tmp (List.range valueSize) st
          else (st.1, (st.2 + valueSize) % 2 ^ 32) : Result (ℕ × ℕ)) = .ok st' ∧
      st'.1 = (countTo b.data (min (valueSize * (j + 1)) b.size) + x) % 2 ^ 32 ∧
        (j + 1 < b.data.length → st'.2 = valueSize * (j + 1)) := by
  have hword := (words_bounds b.size_lt).2.1
  rw [← hb.length_eq] at hword
  have hjs := hword j hj
  have hsize := b.size_lt
  have hto := countTo_word b.data b.size j
  have hnext (h : j + 1 < b.data.length) := hword (j + 1) h
  obtain ⟨c, p⟩ := st
  obtain ⟨hc, hp⟩ := hst
  obtain rfl : p = valueSize * j := hp hj
  dsimp only at hc
  rw [load_getD hj, ok_bind]
  refine ⟨_, rfl, ?_⟩
  by_cases htmp : b.data.getD j 0 ≠ 0
  · have hstart : valueSize * j + 0 ≤ b.size := hjs.le
    have hcount := countWord_range' (w := b.data.getD j 0) (m := 14) hsize (Nat.zero_add 14).le hstart
      (by rw [hc]; exact Nat.mod_lt _ (by decide) : c < 2 ^ 32)
    rw [Nat.add_zero, ← List.range_eq_range', Nat.zero_add] at hcount
    rw [if_pos htmp, show List.range valueSize = List.range 14 by rfl, hcount]
    dsimp only
    constructor
    · rw [hto, hc, Nat.mod_add_mod]
      congr 1
      omega
    · intro h
      have := hnext h
      rw [valueSize] at *
      omega
  · rw [if_neg htmp]
    rw [not_not] at htmp
    dsimp only
    constructor
    · rw [hto, hc, htmp]
      simp
    · intro h
      have := hnext h
      rw [valueSize] at *
      omega

/-- **What `getCount` returns for a plain bitmap.** -/
theorem getCount_plain (hb : Plain b) (hf : Flagged f b.data) :
    getCount b = .ok ((countTo b.data b.size + excess f b) % 2 ^ 32) := by
  obtain ⟨len, hlen⟩ : ∃ len, b.data.length / u64DivBase = len := ⟨_, rfl⟩
  have hmod := Nat.div_add_mod b.data.length u64DivBase
  rw [hlen] at hmod
  obtain ⟨hlow, hhigh⟩ := size_le hb
  have hword := (words_bounds b.size_lt).2.1
  rw [← hb.length_eq] at hword
  rw [getCount, if_neg (by rw [hb.isCompress_eq]; decide), excess]
  dsimp only
  rw [blocks_count hf, hlen, ok_bind]
  obtain ⟨x, hx⟩ : ∃ x, (if f then 8 * len else 0) = x := ⟨_, rfl⟩
  rw [hx]
  by_cases h4 : b.data.length % u64DivBase = 0
  · have hall : u64DivBase * len = b.data.length := by omega
    rw [if_pos h4, Nat.mul_comm len, hall, Nat.sub_self, countTo_all hb]
    show Except.ok _ = _
    congr 2
    omega
  · rw [if_neg h4, Nat.add_zero]
    have hlt : u64DivBase * len < b.data.length := by omega
    have hstart := hword _ hlt
    have hpos : u64ValueSize * len % 2 ^ 32 = valueSize * (u64DivBase * len) := by
      have hsize := b.size_lt
      rw [u64ValueSize, Nat.mul_assoc, Nat.mod_eq_of_lt (by omega)]
    rw [hpos, Nat.mul_comm len]
    obtain ⟨st, hfold, hst⟩ := foldlM_range'
      (P := fun j (st : ℕ × ℕ) => st.1 = (countTo b.data (min (valueSize * j) b.size) + x) % 2 ^ 32 ∧
        (j < b.data.length → st.2 = valueSize * j))
      (s := ((countTo b.data (valueSize * (u64DivBase * len)) + x) % 2 ^ 32, valueSize * (u64DivBase * len)))
      ⟨by rw [Nat.min_eq_left hstart.le], fun _ => rfl⟩
      fun j st _ (hj : j < u64DivBase * len + (b.data.length - u64DivBase * len)) =>
        word_count hb (by omega : j < b.data.length)
    rw [hfold, ok_bind]
    show Except.ok st.1 = _
    rw [hst.1, Nat.add_sub_cancel' hlt.le, Nat.min_eq_right hlow]

/-- Some word has the run bit. -/
def HasRun (b : Bitmap) : Prop := b.data.any isRun = true

instance (b : Bitmap) : Decidable (HasRun b) := inferInstanceAs (Decidable (_ = true))

theorem Flagged.hasRun_iff (hf : Flagged f b.data) : HasRun b ↔ f = true ∧ 0 < b.data.length := by
  rw [HasRun, List.any_eq_true]
  constructor
  · rintro ⟨w, hw, hrun⟩
    rw [isRun_eq, (hf w hw).2] at hrun
    exact ⟨hrun, List.length_pos_of_mem hw⟩
  · rintro ⟨rfl, hlen⟩
    obtain ⟨w, hw⟩ := List.exists_mem_of_length_pos hlen
    exact ⟨w, hw, by rw [isRun_eq, (hf w hw).2]⟩

/-- The blocks of four words have no flag bits, and no bits behind the size. -/
def CountExact (b : Bitmap) : Prop :=
  (HasRun b → b.data.length < u64DivBase) ∧ (b.data.length % u64DivBase = 0 → padding true b = 0)

/-- The words before the last one are nonzero through the flag bits only if a bit is set, and the
    last one is looked at, or has no bit that no other word has. -/
def AnyExact (b : Bitmap) : Prop :=
  if HasRun b ∧ 2 ≤ b.data.length then ∃ i < b.size, b.bit i = true
  else b.size % valueSize = 0 → (∃ i < b.size, b.bit i = true) →
    ∃ i < valueSize * (b.data.length - 1), b.bit i = true

theorem excess_eq_zero_iff (hf : Flagged f b.data) : excess f b = 0 ↔ CountExact b := by
  rw [excess, CountExact, hf.hasRun_iff]
  cases f
  · simp
  · have := Nat.div_add_mod b.data.length u64DivBase
    simp only [if_true, Nat.add_eq_zero_iff, true_and]
    refine and_congr ⟨fun h _ => ?_, fun h => ?_⟩ ?_
    · rw [u64DivBase] at *
      omega
    · by_cases h0 : 0 < b.data.length
      · rw [Nat.div_eq_of_lt (h h0)]
      · rw [Nat.eq_zero_of_not_pos h0, Nat.zero_div]
    · split_ifs with h4
      · exact ⟨fun h _ => h, fun h => h h4⟩
      · exact ⟨fun _ h => absurd h h4, fun _ => rfl⟩

theorem countTo_le (d : List Word) (m : ℕ) : countTo d m ≤ m :=
  List.countP_le_length.trans (List.length_range (n := m)).le

/-- **`getCount` of a plain bitmap counts the bits below the size** exactly if there is no excess. -/
theorem getCount_plain_iff (hb : Plain b) (hf : Flagged f b.data) :
    getCount b = .ok ((List.range b.size).countP b.bit) ↔ CountExact b := by
  have hto : (List.range b.size).countP b.bit = countTo b.data b.size := rfl
  have hle := countTo_le b.data b.size
  have hsize := b.size_lt
  have hpad := padding_le hb true
  have hlen := (size_le hb).2
  have hexcess : excess f b ≤ 8 * (b.data.length / u64DivBase) + 13 := by
    rw [excess]
    split_ifs <;> omega
  rw [getCount_plain hb hf, Except.ok.injEq, hto, ← excess_eq_zero_iff hf]
  rw [valueSize] at hlen
  rw [u64DivBase] at hexcess
  omega

theorem getLsbD_mask {m : ℕ} (hm : m < 16) (i : ℕ) : (mask m).getLsbD i = decide (i < m) := by
  have hlt : 2 ^ m < 2 ^ 16 := Nat.pow_lt_pow_right (by decide) hm
  have hpos : 0 < 2 ^ m := Nat.two_pow_pos m
  have hnat : (mask m).toNat = 2 ^ m - 1 := by
    rw [mask, pos_eq, BitVec.toNat_sub_of_le, BitVec.toNat_twoPow, Nat.mod_eq_of_lt hlt]
    · rfl
    · rw [BitVec.le_def, BitVec.toNat_twoPow, Nat.mod_eq_of_lt hlt]
      exact hpos
  rw [← BitVec.testBit_toNat, hnat, Nat.testBit_two_pow_sub_one]

theorem and_mask_ne_zero {m : ℕ} (hm : m < 16) (w : Word) :
    w &&& mask m ≠ 0 ↔ ∃ i < m, w.getLsbD i = true := by
  have hmask (i : ℕ) : (mask m).getLsbD i = decide (i < m) := getLsbD_mask hm i
  constructor
  · intro h
    by_contra hnone
    refine h (BitVec.eq_of_getLsbD_eq fun i _ => ?_)
    rw [BitVec.getLsbD_and, hmask]
    by_cases hi : i < m
    · have hbit : w.getLsbD i = false := by
        rw [← Bool.not_eq_true]
        exact fun hw => hnone ⟨i, hi, hw⟩
      simp [hbit]
    · simp [hi]
  · rintro ⟨i, hi, hbit⟩ h0
    have := congrArg (BitVec.getLsbD · i) h0
    simp [hmask, hi, hbit] at this

/-- A word is nonzero through its flag bits or through a value bit. -/
theorem Flagged.ne_zero_iff (hf : Flagged f b.data) {j : ℕ} (hj : j < b.data.length) :
    b.data.getD j 0 ≠ 0 ↔ f = true ∨ ∃ i < valueSize, b.bit (valueSize * j + i) = true := by
  have hbits : (∃ i < valueSize, b.bit (valueSize * j + i) = true) ↔
      ∃ i < 14, (b.data.getD j 0).getLsbD i = true :=
    exists_congr fun i => and_congr_right fun hi => by rw [bit, bitAt_mul_add _ hi]
  rw [hbits]
  constructor
  · intro h
    by_contra hnone
    rw [not_or] at hnone
    refine h (BitVec.eq_of_getLsbD_eq fun i hi => ?_)
    have hzero : (0 : Word).getLsbD i = false := BitVec.getLsbD_zero
    rw [hzero, ← Bool.not_eq_true]
    intro hbit
    have hflag := hf.getD hj
    obtain hlt | rfl | rfl : i < 14 ∨ i = 14 ∨ i = 15 := by omega
    · exact hnone.2 ⟨i, hlt, hbit⟩
    · exact hnone.1 (hflag.1.symm.trans hbit)
    · exact hnone.1 (hflag.2.symm.trans hbit)
  · rintro h h0
    rcases h with rfl | ⟨i, _, hbit⟩
    · have := (hf.getD hj).1
      rw [h0] at this
      cases this
    · rw [h0] at hbit
      simp at hbit

theorem exists_words (p : ℕ → Prop) (m : ℕ) :
    (∃ j < m, ∃ i < valueSize, p (valueSize * j + i)) ↔ ∃ i < valueSize * m, p i := by
  constructor
  · rintro ⟨j, hj, i, hi, h⟩
    refine ⟨_, ?_, h⟩
    have := Nat.mul_le_mul_left valueSize (show j + 1 ≤ m from hj)
    rw [Nat.mul_succ] at this
    omega
  · rintro ⟨i, hi, h⟩
    exact ⟨i / valueSize, Nat.div_lt_of_lt_mul hi, i % valueSize, Nat.mod_lt i (by decide),
      by rwa [Nat.div_add_mod]⟩

/-- **What `any` returns for a plain bitmap**: the flag bits of the words before the last one count. -/
theorem any_plain (hb : Plain b) (hf : Flagged f b.data) : ∃ r, any b = .ok r ∧
    (r = true ↔ (f = true ∧ 2 ≤ b.data.length) ∨
      ∃ i < valueSize * (b.data.length - 1) + b.size % valueSize, b.bit i = true) := by
  obtain ⟨hlow, hhigh⟩ := size_le hb
  by_cases h0 : b.data.length = 0
  · refine ⟨false, by rw [any, if_pos h0]; rfl, iff_of_false (by decide) ?_⟩
    rintro (⟨_, h2⟩ | ⟨i, hi, hbit⟩)
    · omega
    · have hs : b.size = 0 := by rw [h0] at hlow; omega
      rw [h0, hs] at hi
      exact absurd hi (Nat.not_lt_zero i)
  · obtain ⟨r, hr, hiff⟩ := anyMeet_ret (l := List.range (b.data.length - 1))
      (f := fun i => do return (← load b.data i) ≠ 0) (P := fun i => b.data.getD i 0 ≠ 0) fun i hi => by
        have hlt := List.mem_range.1 hi
        rw [load_getD (by omega)]
        exact ⟨_, rfl, decide_eq_true_iff⟩
    have hlast : b.data.length - 1 < b.data.length := by omega
    have hm : b.size % valueSize < 14 := Nat.mod_lt _ (by decide)
    refine ⟨r || decide (b.data.getD (b.data.length - 1) 0 &&& mask (b.size % valueSize) ≠ 0), ?_, ?_⟩
    · rw [any, if_neg h0, hb.isCompress_eq, if_neg (by decide), hr, ok_bind]
      cases r with
      | true => rfl
      | false =>
        rw [if_neg (by decide), load_getD hlast]
        rfl
    · have hwords : (∃ i ∈ List.range (b.data.length - 1), b.data.getD i 0 ≠ 0) ↔
          (f = true ∧ 2 ≤ b.data.length) ∨ ∃ i < valueSize * (b.data.length - 1), b.bit i = true := by
        rw [← exists_words (fun i => b.bit i = true)]
        constructor
        · rintro ⟨j, hj, hne⟩
          have hlt := List.mem_range.1 hj
          rcases (hf.ne_zero_iff (by omega)).1 hne with h | h
          · exact .inl ⟨h, by omega⟩
          · exact .inr ⟨j, hlt, h⟩
        · rintro (⟨h, h2⟩ | ⟨j, hlt, h⟩)
          · exact ⟨0, List.mem_range.2 (by omega), (hf.ne_zero_iff (by omega)).2 (.inl h)⟩
          · exact ⟨j, List.mem_range.2 hlt, (hf.ne_zero_iff (by omega)).2 (.inr h)⟩
      have htail : (∃ i < b.size % valueSize, (b.data.getD (b.data.length - 1) 0).getLsbD i = true) ↔
          ∃ i < b.size % valueSize, b.bit (valueSize * (b.data.length - 1) + i) = true :=
        exists_congr fun i => and_congr_right fun hi => by rw [bit, bitAt_mul_add _ (by omega)]
      rw [Bool.or_eq_true, hiff, decide_eq_true_iff, and_mask_ne_zero (by omega), hwords, htail, or_assoc]
      refine or_congr_right ⟨?_, ?_⟩
      · rintro (⟨i, hi, h⟩ | ⟨i, hi, h⟩)
        · exact ⟨i, by omega, h⟩
        · exact ⟨_, by omega, h⟩
      · rintro ⟨i, hi, h⟩
        by_cases hlt : i < valueSize * (b.data.length - 1)
        · exact .inl ⟨i, hlt, h⟩
        · exact .inr ⟨i - valueSize * (b.data.length - 1), by omega, by rwa [Nat.add_sub_cancel' (by omega)]⟩

/-- **`any` of a plain bitmap is right** exactly if `AnyExact`. -/
theorem any_plain_iff (hb : Plain b) (hf : Flagged f b.data) :
    any b = .ok (decide (∃ i < b.size, b.bit i = true)) ↔ AnyExact b := by
  obtain ⟨r, hr, hiff⟩ := any_plain hb hf
  have hrun : HasRun b ∧ 2 ≤ b.data.length ↔ f = true ∧ 2 ≤ b.data.length := by
    rw [hf.hasRun_iff, and_assoc]
    exact and_congr_right fun _ => ⟨fun h => h.2, fun h => ⟨by omega, h⟩⟩
  rw [hr, Except.ok.injEq, ← Bool.eq_iff_iff.symm.eq, hiff, decide_eq_true_iff, AnyExact]
  simp only [hrun]
  have hsize : b.size = if b.size % valueSize = 0 then valueSize * b.data.length
      else valueSize * (b.data.length - 1) + b.size % valueSize := by
    rw [hb.length_eq, words, valueSize]
    split_ifs <;> omega
  by_cases h : f = true ∧ 2 ≤ b.data.length
  · rw [if_pos h]
    exact ⟨fun hi => hi.1 (.inl h), fun hi => ⟨fun _ => hi, fun _ => .inl h⟩⟩
  · rw [if_neg h, or_iff_right h]
    by_cases hm : b.size % valueSize = 0
    · rw [hm, Nat.add_zero]
      refine ⟨fun hi _ => hi.2, fun hi => ⟨?_, hi rfl⟩⟩
      rintro ⟨i, hlt, hbit⟩
      refine ⟨i, ?_, hbit⟩
      rw [if_pos hm] at hsize
      rw [hsize]
      exact lt_of_lt_of_le hlt (Nat.mul_le_mul_left _ (Nat.sub_le _ _))
    · rw [if_neg hm] at hsize
      rw [← hsize]
      exact ⟨fun _ h0 => absurd h0 hm, fun _ => Iff.rfl⟩

end

end Ancfl.Bitmap
