/-
  The loops that enumerate the bits of a plain bitmap.

  * `foreach`, `listPosAsc`, `rforeach`: words without a bit, and blocks of four
    such words, are skipped with a position of their own;
  * `ones` are the indices of the bits set below the size, in order;
  * `foreach_ret`, `listPosAsc_ret`: they visit `ones`;
  * `rforeach_ret`: it visits `ones` backwards, after the index `size` where the
    last word has a bit there.
-/
import Ancfl.Ds.Bitmap.Plain
import Ancfl.Lib.Call
import Ancfl.Lib.Visit

namespace Ancfl.Bitmap

open Lib

/-! ## The loops -/

/-- A loop that calls back and may be left early. -/
abbrev Loop (ε σ : Type) := OptionT (Call ε σ)

section
variable {ε σ α : Type}

/-- Read from the array inside a loop. -/
def fetch (x : Result α) : Loop ε σ α := OptionT.lift fun s =>
  match x with
  | .error _ => .undef
  | .ok a => .ret a s

/-- Run a loop, left early or not. -/
def finish (x : Loop ε σ α) : Call ε σ Unit := do let _ ← x.run

variable (cb : ℕ → Call ε σ Bool)

/-- `for (; n < VALUE_SIZE && cur_pos < m_size; ++n, ++cur_pos)`, with the bits `ns` of the word. -/
def askAsc (size : ℕ) (tmp : Word) : List ℕ → ℕ → Loop ε σ ℕ
  | [], curPos => pure curPos
  | n :: ns, curPos => do
    if curPos < size then
      if tmp &&& pos n ≠ 0 then ask cb curPos
      askAsc size tmp ns (curPos + 1)
    else pure curPos

def blockAsc (b : Bitmap) (curPos i : ℕ) : Loop ε σ ℕ := do
  let tmp ← fetch (load64 b.data i)
  if tmp = 0 then pure ((curPos + u64ValueSize) % 2 ^ 32)
  else (List.range u64DivBase).foldlM (fun curPos n => do
    let tmp ← fetch (load b.data (u64DivBase * i + n))
    askAsc cb b.size tmp (List.range valueSize) curPos) curPos

def wordAsc (b : Bitmap) (curPos i : ℕ) : Loop ε σ ℕ := do
  let tmp ← fetch (load b.data i)
  if tmp = 0 then pure ((curPos + valueSize) % 2 ^ 32)
  else askAsc cb b.size tmp (List.range valueSize) curPos

/-- The loops of `foreach` and `listPosAsc`. -/
def scanAsc (b : Bitmap) : Loop ε σ ℕ := do
  let curPos ← (List.range (maxSize b.size)).foldlM (blockAsc cb b) 0
  (restWords b.size b.data.length).foldlM (wordAsc cb b) curPos

def foreach (b : Bitmap) : Call ε σ Unit := finish (scanAsc cb b)

/-- `pos.push_back(cur_pos)` -/
def pushBack (curPos : ℕ) : Call ε (List ℕ) Bool := do
  Call.modify (· ++ [curPos])
  return true

def listPosAsc (b : Bitmap) : Call ε (List ℕ) Unit := finish (scanAsc pushBack b)

/-- `cur_pos -= n` -/
def back (curPos n : ℕ) : ℕ := (curPos + (2 ^ 32 - n)) % 2 ^ 32

/-- `for (; n >= 0; --n, --cur_pos)`, with the bits `ns` of the word. -/
def askDesc (tmp : Word) : List ℕ → ℕ → Loop ε σ ℕ
  | [], curPos => pure curPos
  | n :: ns, curPos => do
    if tmp &&& pos n ≠ 0 then ask cb curPos
    askDesc tmp ns (back curPos 1)

def wordDesc (b : Bitmap) (curPos i : ℕ) : Loop ε σ ℕ := do
  let tmp ← fetch (load b.data i)
  if tmp = 0 then
    if i = b.data.length - 1 then
      if b.size % valueSize = 0 then pure (back curPos valueSize)
      else pure (back curPos (b.size % valueSize))
    else pure (back curPos valueSize)
  else
    if i = b.data.length - 1 then
      if b.size % valueSize = 0 then askDesc cb tmp (List.range valueSize).reverse curPos
      else -- the bit `m_size % VALUE_SIZE` comes first
        askDesc cb tmp (List.range (b.size % valueSize + 1)).reverse ((curPos + 1) % 2 ^ 32)
    else askDesc cb tmp (List.range valueSize).reverse curPos

def blockDesc (b : Bitmap) (curPos i : ℕ) : Loop ε σ ℕ := do
  let tmp ← fetch (load64 b.data i)
  if tmp = 0 then pure (back curPos u64ValueSize)
  else (List.range u64DivBase).foldlM (fun curPos n => do
    let tmp ← fetch (load b.data (u64DivBase * (i + 1) - 1 - n))
    askDesc cb tmp (List.range valueSize).reverse curPos) curPos

/-- The first loop of `rforeach`. -/
def restDesc (b : Bitmap) : Loop ε σ ℕ :=
  if b.size % u64ValueSize ≠ 0 then
    (restWords b.size b.data.length).reverse.foldlM (wordDesc cb b) (back b.size 1)
  else pure (back b.size 1)

/-- The loops of `rforeach`. -/
def scanDesc (b : Bitmap) : Loop ε σ ℕ := do
  let curPos ← restDesc cb b
  (List.range (maxSize b.size)).reverse.foldlM (blockDesc cb b) curPos

def rforeach (b : Bitmap) : Call ε σ Unit := finish (scanDesc cb b)

end

/-! ## The bits below the size -/

section
variable (b : Bitmap)

/-- The bit `i` is set and below the size. -/
def one (i : ℕ) : Bool := decide (i < b.size) && b.bit i

/-- The indices of the bits set below the size. -/
def ones : List ℕ := (List.range b.size).filter b.bit

/-- Those of the word `j`. -/
def wordOnes (j : ℕ) : List ℕ := (List.range' (valueSize * j) valueSize).filter b.one

end

section
variable {b : Bitmap}

theorem ones_sorted : b.ones.Pairwise (· < ·) := List.pairwise_lt_range.filter _

theorem mem_ones {i : ℕ} : i ∈ b.ones ↔ i < b.size ∧ b.bit i = true := by
  rw [ones, List.mem_filter, List.mem_range]

theorem range_blocks (n k : ℕ) : (List.range k).flatMap (fun j => List.range' (n * j) n) = List.range (n * k) := by
  induction k with
  | zero => rfl
  | succ k ih =>
    rw [List.range_succ, List.flatMap_append, ih, List.flatMap_singleton, Nat.mul_succ, List.range_add,
      List.range'_eq_map_range]

theorem ones_eq_flatMap (hb : Plain b) : b.ones = (List.range b.data.length).flatMap b.wordOnes := by
  have hle : b.size ≤ valueSize * b.data.length := by
    rw [hb.length_eq, words, valueSize]; omega
  obtain ⟨k, hk⟩ := Nat.exists_eq_add_of_le hle
  have hall : (List.range b.data.length).flatMap b.wordOnes =
      (List.range (valueSize * b.data.length)).filter b.one := by
    rw [← range_blocks, List.filter_flatMap]
    rfl
  rw [hall, hk, List.range_add, List.filter_append]
  have hlow : (List.range b.size).filter b.one = b.ones := by
    refine List.filter_congr fun i hi => ?_
    rw [one, decide_eq_true (List.mem_range.1 hi), Bool.true_and]
  have hhigh : ((List.range k).map (b.size + ·)).filter b.one = [] := by
    refine List.filter_eq_nil_iff.2 fun i hi => ?_
    obtain ⟨j, -, rfl⟩ := List.mem_map.1 hi
    simp [one]
  rw [hlow, hhigh, List.append_nil]

/-- The words of a block. -/
def blockOnes (b : Bitmap) (i : ℕ) : List ℕ :=
  (List.range' 0 u64DivBase).flatMap fun n => b.wordOnes (u64DivBase * i + n)

theorem flatMap_blockOnes (k : ℕ) :
    (List.range k).flatMap b.blockOnes = (List.range (k * u64DivBase)).flatMap b.wordOnes := by
  induction k with
  | zero => simp
  | succ k ih =>
    rw [List.range_succ, List.flatMap_append, ih, List.flatMap_singleton, Nat.succ_mul, List.range_add,
      List.flatMap_append, List.flatMap_map, Nat.mul_comm k, blockOnes, ← List.range_eq_range']

/-- The words of the blocks and those that follow. -/
theorem ones_eq_append (hb : Plain b) : b.ones = (List.range' 0 (maxSize b.size)).flatMap b.blockOnes ++
    (restWords b.size b.data.length).flatMap b.wordOnes := by
  have hle : maxSize b.size * u64DivBase ≤ b.data.length := by
    rw [hb.length_eq]; exact maxSize_le b.size
  obtain ⟨k, hk⟩ := Nat.exists_eq_add_of_le hle
  rw [ones_eq_flatMap hb, ← List.range_eq_range', flatMap_blockOnes, ← List.flatMap_append, restWords, hk,
    Nat.add_sub_cancel_left, List.range_add, List.range'_eq_map_range]

theorem wordOnes_of_zero {j : ℕ} (h : b.data.getD j 0 = 0) : b.wordOnes j = [] := by
  refine List.filter_eq_nil_iff.2 fun i hi => ?_
  rw [List.mem_range'_1] at hi
  obtain ⟨k, rfl⟩ := Nat.exists_eq_add_of_le hi.1
  rw [one, bit_of_zero (by rw [valueSize] at hi; omega) h]
  simp

end

/-! ## Upwards -/

section
variable {ε σ : Type} {cb : ℕ → Call ε σ Bool} {b : Bitmap}

theorem fetch_ok {α : Type} (a : α) : (fetch (.ok a) : Loop ε σ α) = pure a := rfl

/-- The test of a bit. -/
theorem ask_bit {α : Type} {j n : ℕ} (hn : n < 14) (curPos : ℕ) (x : Loop ε σ α) :
    (if b.data.getD j 0 &&& pos n ≠ 0 then ask cb curPos >>= fun _ => x else x) =
      visit cb (if b.bit (valueSize * j + n) then [curPos] else []) >>= fun _ => x := by
  by_cases hbit : b.bit (valueSize * j + n) = true
  · rw [if_pos ((test_bit hn).2 hbit), if_pos hbit]
    simp
  · rw [if_neg (mt (test_bit hn).1 hbit), if_neg hbit]
    simp

theorem askAsc_ret {j n k : ℕ} (h : n + k ≤ 14) : ∃ p,
    askAsc cb b.size (b.data.getD j 0) (List.range' n k) (valueSize * j + n) =
      visit cb ((List.range' (valueSize * j + n) k).filter b.one) >>= (fun _ => pure p) ∧
      (valueSize * j + n + k ≤ b.size → p = valueSize * j + n + k) := by
  induction k generalizing n with
  | zero => exact ⟨_, rfl, fun _ => rfl⟩
  | succ k ih =>
    obtain ⟨p, hp, hend⟩ := ih (n := n + 1) (by omega)
    rw [List.range'_succ, List.range'_succ, List.filter_cons, askAsc]
    by_cases hlt : valueSize * j + n < b.size
    · refine ⟨p, ?_, fun hle => (hend (by omega)).trans (by omega)⟩
      have hone : b.one (valueSize * j + n) = b.bit (valueSize * j + n) := by
        rw [one, decide_eq_true hlt, Bool.true_and]
      rw [if_pos hlt, hone]
      refine (ask_bit (by omega) _ _).trans ?_
      rw [Nat.add_assoc (valueSize * j), hp, ← bind_assoc, ← visit_append]
      split_ifs <;> rfl
    · refine ⟨valueSize * j + n, ?_, fun hle => absurd hle (by omega)⟩
      have hnone : (List.range' (valueSize * j + n + 1) k).filter b.one = [] := by
        refine List.filter_eq_nil_iff.2 fun i hi => ?_
        rw [List.mem_range'_1] at hi
        simp [one, show ¬i < b.size by omega]
      rw [if_neg hlt, hnone, if_neg (by simp [one, hlt])]
      rfl

variable (cb) in
/-- A word that is not skipped. -/
theorem askAsc_word (j : ℕ) : ∃ p,
    askAsc cb b.size (b.data.getD j 0) (List.range valueSize) (valueSize * j) =
      visit cb (b.wordOnes j) >>= (fun _ => pure p) ∧
      (valueSize * (j + 1) ≤ b.size → p = valueSize * (j + 1)) := by
  rw [List.range_eq_range']
  exact askAsc_ret (show 0 + 14 ≤ 14 by decide)

variable (cb) in
theorem wordAsc_ret {j : ℕ} (hj : j < b.data.length) : ∃ p,
    wordAsc cb b (valueSize * j) j = visit cb (b.wordOnes j) >>= (fun _ => pure p) ∧
      (valueSize * (j + 1) ≤ b.size → p = valueSize * (j + 1)) := by
  rw [wordAsc, load_getD hj, fetch_ok, pure_bind]
  by_cases h0 : b.data.getD j 0 = 0
  · refine ⟨_, by rw [if_pos h0, wordOnes_of_zero h0]; rfl, fun hle => ?_⟩
    exact Nat.mod_eq_of_lt (hle.trans_lt b.size_lt)
  · rw [if_neg h0]
    exact askAsc_word cb j

theorem blockOnes_of_zero {i : ℕ} (h₀ : b.data.getD (u64DivBase * i) 0 = 0)
    (h₁ : b.data.getD (u64DivBase * i + 1) 0 = 0) (h₂ : b.data.getD (u64DivBase * i + 2) 0 = 0)
    (h₃ : b.data.getD (u64DivBase * i + 3) 0 = 0) : b.blockOnes i = [] := by
  rw [blockOnes, List.flatMap_eq_nil_iff]
  intro n hn
  have hcases : n = 0 ∨ n = 1 ∨ n = 2 ∨ n = 3 := by
    rw [List.mem_range'_1, u64DivBase] at hn; omega
  rcases hcases with rfl | rfl | rfl | rfl <;> exact wordOnes_of_zero ‹_›

theorem blockAsc_ret {i : ℕ} (hsize : u64ValueSize * (i + 1) ≤ b.size)
    (hi : u64DivBase * i + 3 < b.data.length) : blockAsc cb b (u64ValueSize * i) i =
      visit cb (b.blockOnes i) >>= fun _ => pure (u64ValueSize * (i + 1)) := by
  rw [blockAsc, load64_ret hi, fetch_ok, pure_bind]
  split_ifs with h0
  · obtain ⟨h₀, h₁, h₂, h₃⟩ := block_eq_zero.1 h0
    rw [blockOnes_of_zero h₀ h₁ h₂ h₃, visit_nil, pure_bind]
    exact congrArg pure (Nat.mod_eq_of_lt (hsize.trans_lt b.size_lt))
  · have hpos (i n : ℕ) : u64ValueSize * i + valueSize * n = valueSize * (u64DivBase * i + n) := by
      rw [u64ValueSize, Nat.mul_add, Nat.mul_assoc]
    rw [List.range_eq_range' (n := u64DivBase), blockOnes]
    refine (foldlM_visit (m := Call ε σ) (g := cb) (a := 0) (k := u64DivBase)
      (P := fun n => u64ValueSize * i + valueSize * n)
      (L := fun n => b.wordOnes (u64DivBase * i + n)) fun n _ hn => ?_).trans rfl
    rw [u64DivBase] at hi hn
    rw [u64ValueSize, u64DivBase, valueSize] at hsize
    rw [load_getD (by rw [u64DivBase]; omega), fetch_ok, pure_bind, hpos, hpos]
    obtain ⟨p, hp, hend⟩ := askAsc_word cb (b := b) (u64DivBase * i + n)
    rw [hp, hend (by rw [u64DivBase, valueSize]; omega), Nat.add_assoc]

variable (cb) in
/-- **The loops visit the bits set**, in order. -/
theorem scanAsc_ret (hb : Plain b) : ∃ p, scanAsc cb b = visit cb b.ones >>= fun _ => pure p := by
  have hle := maxSize_le b.size
  have hlen := hb.length_eq
  have hsize : u64ValueSize * maxSize b.size ≤ b.size := Nat.mul_div_le _ _
  have hblocks := foldlM_visit (m := Call ε σ) (g := cb) (f := blockAsc cb b)
    (P := fun i => u64ValueSize * i) (L := b.blockOnes) (a := 0) (k := maxSize b.size) fun i _ hi => by
      rw [Nat.zero_add] at hi
      refine blockAsc_ret ((Nat.mul_le_mul_left _ hi).trans hsize) ?_
      rw [u64DivBase] at *; omega
  obtain ⟨p, hwords⟩ := foldlM_visit_last (m := Call ε σ) (g := cb) (f := wordAsc cb b)
    (P := fun j => valueSize * j) (L := b.wordOnes) (a := maxSize b.size * u64DivBase)
    (k := b.data.length - maxSize b.size * u64DivBase) fun j _ hj => by
      obtain ⟨p, hp, hend⟩ := wordAsc_ret cb (b := b) (j := j) (by omega)
      exact ⟨p, hp, fun h => hend ((words_bounds b.size_lt).2.1 (j + 1) (by omega)).le⟩
  have hpos : u64ValueSize * (0 + maxSize b.size) = valueSize * (maxSize b.size * u64DivBase) := by
    rw [Nat.zero_add, u64ValueSize, Nat.mul_assoc, Nat.mul_comm u64DivBase]
  refine ⟨p, ?_⟩
  rw [ones_eq_append hb, visit_append, restWords, bind_assoc, ← hwords, ← hpos, scanAsc,
    List.range_eq_range']
  refine (congrArg (· >>= _) hblocks).trans ?_
  rw [bind_assoc]
  simp only [pure_bind, restWords]

theorem finish_bind {α β : Type} (x : Loop ε σ α) (b : β) :
    finish (x >>= fun _ => pure b) = finish x := by
  simp only [finish, OptionT.run_bind, Option.elimM, bind_assoc]
  congr 1
  funext r
  cases r <;> simp

/-- **`foreach` calls back on the bits set**, in order, until it is told to stop. -/
theorem foreach_ret (hb : Plain b) : foreach cb b = finish (visit cb b.ones) := by
  obtain ⟨p, hp⟩ := scanAsc_ret cb hb
  rw [foreach, hp, finish_bind]

theorem visit_pushBack (l pos : List ℕ) :
    (finish (visit pushBack l) : Call ε (List ℕ) Unit) pos = .ret () (pos ++ l) := by
  induction l generalizing pos with
  | nil => simp [finish]
  | cons i l ih =>
    have hstep : (finish (visit pushBack (i :: l)) : Call ε (List ℕ) Unit) pos =
        finish (visit pushBack l) (pos ++ [i]) := rfl
    rw [hstep, ih, List.append_assoc]
    rfl

/-- **`listPosAsc` lists the bits set**, in order. -/
theorem listPosAsc_ret (hb : Plain b) (pos : List ℕ) :
    (listPosAsc b : Call ε (List ℕ) Unit) pos = .ret () (pos ++ b.ones) := by
  obtain ⟨p, hp⟩ := scanAsc_ret (ε := ε) pushBack hb
  rw [listPosAsc, hp, finish_bind, visit_pushBack]

end

/-! ## Downwards -/

section
variable {ε σ : Type} {cb : ℕ → Call ε σ Bool} {b : Bitmap}

theorem back_succ {p : ℕ} (hp : p < 2 ^ 32) : back (p + 1) 1 = p := by
  rw [back, show p + 1 + (2 ^ 32 - 1) = p + 2 ^ 32 by omega, Nat.add_mod_right, Nat.mod_eq_of_lt hp]

theorem back_back {p k : ℕ} (hk : k ≤ p) (hp : p < 2 ^ 32) : back (back p 1) k = back (p - k) 1 := by
  rw [back, back, back, Nat.mod_add_mod]
  rw [show p + (2 ^ 32 - 1) + (2 ^ 32 - k) = p - k + (2 ^ 32 - 1) + 2 ^ 32 by omega, Nat.add_mod_right]

theorem back_mul_succ {n j : ℕ} (h : n * (j + 1) < 2 ^ 32) :
    back (back (n * (j + 1)) 1) n = back (n * j) 1 := by
  have hle : n ≤ n * (j + 1) := Nat.le_mul_of_pos_right n (Nat.succ_pos j)
  rw [back_back hle h, Nat.mul_add, Nat.mul_one, Nat.add_sub_cancel]

/-- The bits of a word below its bit `n`. -/
theorem askDesc_ret {j n : ℕ} (h : n ≤ valueSize) (h32 : valueSize * j + n ≤ 2 ^ 32) :
    askDesc cb (b.data.getD j 0) (List.range n).reverse (back (valueSize * j + n) 1) =
      visit cb ((List.range' (valueSize * j) n).filter b.bit).reverse >>=
        fun _ => pure (back (valueSize * j) 1) := by
  induction n with
  | zero => rfl
  | succ n ih =>
    rw [← Nat.add_assoc, back_succ (by omega), List.range_succ, List.reverse_append,
      List.reverse_singleton, List.singleton_append, askDesc]
    refine (ask_bit h _ _).trans ?_
    rw [ih (by omega) (by omega), ← bind_assoc, ← visit_append, List.range'_concat, List.filter_append,
      List.reverse_append, Nat.one_mul]
    split_ifs with hbit <;> simp [hbit]

/-- The word in which the bitmap ends, or one before it. -/
theorem wordOnes_eq {j n : ℕ} (hn : n ≤ valueSize) (h : valueSize * j + n ≤ b.size)
    (hend : n < valueSize → valueSize * j + n = b.size) :
    b.wordOnes j = (List.range' (valueSize * j) n).filter b.bit := by
  obtain ⟨k, hk⟩ := Nat.exists_eq_add_of_le hn
  have hsplit : List.range' (valueSize * j) valueSize =
      List.range' (valueSize * j) n ++ List.range' (valueSize * j + n) k := by
    rw [List.range'_append_1, ← hk]
  rw [wordOnes, hsplit, List.filter_append]
  have hlow : (List.range' (valueSize * j) n).filter b.one =
      (List.range' (valueSize * j) n).filter b.bit := by
    refine List.filter_congr fun i hi => ?_
    rw [List.mem_range'_1] at hi
    rw [one, decide_eq_true (by omega), Bool.true_and]
  have hhigh : (List.range' (valueSize * j + n) k).filter b.one = [] := by
    refine List.filter_eq_nil_iff.2 fun i hi => ?_
    rw [List.mem_range'_1] at hi
    rw [one, decide_eq_false (by omega)]
    simp
  rw [hlow, hhigh, List.append_nil]

/-- A word that ends below the size. -/
theorem askDesc_word {j : ℕ} (h : valueSize * (j + 1) ≤ b.size) :
    askDesc cb (b.data.getD j 0) (List.range valueSize).reverse (back (valueSize * (j + 1)) 1) =
      visit cb (b.wordOnes j).reverse >>= fun _ => pure (back (valueSize * j) 1) := by
  have h32 := b.size_lt
  rw [Nat.mul_succ] at h ⊢
  rw [askDesc_ret le_rfl (by omega), wordOnes_eq le_rfl h fun hlt => absurd hlt (lt_irrefl _)]

/-- The index `size`, if it is inside the last word and set there. -/
def surplus (b : Bitmap) : List ℕ :=
  if b.size % valueSize ≠ 0 ∧ b.bit b.size = true then [b.size] else []

/-- What `rforeach` visits in the word `j`. -/
def wordDown (b : Bitmap) (j : ℕ) : List ℕ :=
  if j + 1 = b.data.length then b.surplus ++ (b.wordOnes j).reverse else (b.wordOnes j).reverse

/-- The position before the word `j - 1`. -/
def above (b : Bitmap) (j : ℕ) : ℕ := back (min (valueSize * j) b.size) 1

theorem above_of_le {j : ℕ} (h : valueSize * j ≤ b.size) : b.above j = back (valueSize * j) 1 := by
  rw [above, Nat.min_eq_left h]

/-- A word that ends below the size. -/
theorem wordDesc_full {j : ℕ} (hj : j < b.data.length) (hle : valueSize * (j + 1) ≤ b.size)
    (hlast : j = b.data.length - 1 → b.size % valueSize = 0) :
    wordDesc cb b (back (valueSize * (j + 1)) 1) j =
      visit cb (b.wordOnes j).reverse >>= fun _ => pure (back (valueSize * j) 1) := by
  rw [wordDesc, load_getD hj, fetch_ok, pure_bind]
  have hback := back_mul_succ (hle.trans_lt b.size_lt)
  by_cases h0 : b.data.getD j 0 = 0
  · rw [if_pos h0, wordOnes_of_zero h0, hback]
    split_ifs with hend h14
    · rfl
    · exact absurd (hlast hend) h14
    · rfl
  · rw [if_neg h0, askDesc_word hle]
    split_ifs with hend h14
    · rfl
    · exact absurd (hlast hend) h14
    · rfl

/-- The word in which the bitmap ends: the bit above the end comes first. -/
theorem wordDesc_end {j : ℕ} (hj : j + 1 = b.data.length)
    (hsize : b.size = valueSize * j + b.size % valueSize) (hleft : b.size % valueSize ≠ 0) :
    wordDesc cb b (back b.size 1) j =
      visit cb (b.surplus ++ (b.wordOnes j).reverse) >>= fun _ => pure (back (valueSize * j) 1) := by
  have hlt : b.size % valueSize < 14 := Nat.mod_lt _ (by decide)
  have hlast : j = b.data.length - 1 := by omega
  rw [wordDesc, load_getD (by omega), fetch_ok, pure_bind, if_pos hlast, if_pos hlast, if_neg hleft,
    if_neg hleft]
  by_cases h0 : b.data.getD j 0 = 0
  · have hnone : b.surplus = [] := by
      refine if_neg fun h => ?_
      rw [hsize, Nat.mul_add_mod, Nat.mod_mod, bit_of_zero hlt h0] at h
      exact Bool.false_ne_true h.2
    rw [if_pos h0, hnone, wordOnes_of_zero h0, back_back (Nat.mod_le _ _) b.size_lt]
    rw [show b.size - b.size % valueSize = valueSize * j by omega]
    rfl
  · have hstart : (back b.size 1 + 1) % 2 ^ 32 = back (valueSize * j + (b.size % valueSize + 1)) 1 := by
      have h32 := b.size_lt
      rw [← Nat.add_assoc, ← hsize, back_succ h32, back, Nat.mod_add_mod,
        show b.size + (2 ^ 32 - 1) + 1 = b.size + 2 ^ 32 by omega, Nat.add_mod_right, Nat.mod_eq_of_lt h32]
    have h32 := b.size_lt
    rw [if_neg h0, hstart, askDesc_ret hlt (by omega), List.range'_concat, List.filter_append,
      List.reverse_append, Nat.one_mul, ← hsize, wordOnes_eq hlt.le hsize.ge fun _ => hsize.symm, surplus]
    by_cases hbit : b.bit b.size = true
    · rw [if_pos ⟨hleft, hbit⟩, List.filter_cons_of_pos hbit]
      rfl
    · rw [if_neg fun h => hbit h.2, List.filter_cons_of_neg hbit]
      rfl

theorem wordDesc_ret (hb : Plain b) {j : ℕ} (hj : j < b.data.length) :
    wordDesc cb b (b.above (j + 1)) j = visit cb (b.wordDown j) >>= fun _ => pure (b.above j) := by
  have hlen := hb.length_eq
  have hle := ((words_bounds b.size_lt).2.1 j (hlen ▸ hj)).le
  rw [above_of_le hle, wordDown]
  by_cases hlast : j + 1 = b.data.length
  · have hwords : words b.size = j + 1 := by rw [← hlen, hlast]
    rw [words, valueSize] at hwords
    by_cases h14 : b.size % valueSize = 0
    · have hsize : valueSize * (j + 1) = b.size := by rw [valueSize] at *; omega
      have hnone : b.surplus = [] := if_neg fun h => h.1 h14
      rw [if_pos hlast, hnone, above_of_le hsize.le, wordDesc_full hj hsize.le fun _ => h14]
      rfl
    · have hsize : b.size = valueSize * j + b.size % valueSize := by rw [valueSize] at *; omega
      rw [if_pos hlast, above, Nat.min_eq_right (by rw [valueSize] at *; omega),
        wordDesc_end hlast hsize h14]
  · have hlt := ((words_bounds b.size_lt).2.1 (j + 1) (by omega)).le
    rw [if_neg hlast, above_of_le hlt, wordDesc_full hj hlt fun h => absurd h (by omega)]

theorem blockDesc_ret {i : ℕ} (hsize : u64ValueSize * (i + 1) ≤ b.size)
    (hi : u64DivBase * i + 3 < b.data.length) : blockDesc cb b (back (u64ValueSize * (i + 1)) 1) i =
      visit cb (b.blockOnes i).reverse >>= fun _ => pure (back (u64ValueSize * i) 1) := by
  rw [blockDesc, load64_ret hi, fetch_ok, pure_bind]
  have h32 := b.size_lt
  split_ifs with h0
  · obtain ⟨h₀, h₁, h₂, h₃⟩ := block_eq_zero.1 h0
    rw [blockOnes_of_zero h₀ h₁ h₂ h₃, back_mul_succ (hsize.trans_lt h32)]
    rfl
  · have hpos : u64ValueSize * (i + 1) = valueSize * (u64DivBase * (i + 1)) := by
      rw [u64ValueSize, Nat.mul_assoc]
    rw [List.range_eq_range' (n := u64DivBase), hpos]
    refine (foldlM_visit (m := Call ε σ) (g := cb) (a := 0) (k := u64DivBase)
      (P := fun n => back (valueSize * (u64DivBase * (i + 1) - n)) 1)
      (L := fun n => (b.wordOnes (u64DivBase * (i + 1) - 1 - n)).reverse) fun n _ hn => ?_).trans ?_
    · rw [u64DivBase] at hi hn
      rw [u64ValueSize, u64DivBase, valueSize] at hsize
      obtain ⟨j, hj⟩ : ∃ j, u64DivBase * (i + 1) - n = j + 1 :=
        ⟨u64DivBase * (i + 1) - n - 1, by rw [u64DivBase]; omega⟩
      rw [u64DivBase] at hj
      rw [show u64DivBase * (i + 1) - 1 - n = j by rw [u64DivBase]; omega,
        show u64DivBase * (i + 1) - n = j + 1 from hj,
        show u64DivBase * (i + 1) - (n + 1) = j by rw [u64DivBase]; omega,
        load_getD (by omega), fetch_ok, pure_bind]
      exact askDesc_word (by rw [valueSize]; omega)
    · have hend : valueSize * (u64DivBase * (i + 1) - (0 + u64DivBase)) = u64ValueSize * i := by
        rw [u64ValueSize, Nat.zero_add, Nat.mul_succ, Nat.add_sub_cancel, Nat.mul_assoc]
      rw [hend, blockOnes, List.reverse_flatMap]
      rfl

theorem flatMap_wordDown {a k : ℕ} (h : a + (k + 1) = b.data.length) :
    (List.range' a (k + 1)).reverse.flatMap b.wordDown =
      b.surplus ++ ((List.range' a (k + 1)).flatMap b.wordOnes).reverse := by
  have hrest : (List.range' a k).reverse.flatMap b.wordDown =
      ((List.range' a k).flatMap b.wordOnes).reverse := by
    rw [List.reverse_flatMap]
    refine List.flatMap_congr fun j hj => if_neg ?_
    rw [List.mem_reverse, List.mem_range'_1] at hj
    omega
  have hlast : b.wordDown (a + k) = b.surplus ++ (b.wordOnes (a + k)).reverse := if_pos (by omega)
  rw [List.range'_concat, Nat.one_mul, List.reverse_append, List.reverse_singleton, List.flatMap_append,
    List.flatMap_append, List.flatMap_singleton, List.flatMap_singleton, List.reverse_append, hrest, hlast,
    List.append_assoc]

/-- The words after the blocks. -/
theorem restDesc_ret (hb : Plain b) : restDesc cb b =
    visit cb (b.surplus ++ ((restWords b.size b.data.length).flatMap b.wordOnes).reverse) >>=
      fun _ => pure (b.above (maxSize b.size * u64DivBase)) := by
  have hlen := hb.length_eq
  rw [restDesc, restWords]
  rw [words, valueSize] at hlen
  split_ifs with h56
  · obtain ⟨k, hk⟩ : ∃ k, b.data.length = maxSize b.size * u64DivBase + (k + 1) := by
      refine ⟨b.data.length - maxSize b.size * u64DivBase - 1, ?_⟩
      rw [u64ValueSize, u64DivBase, valueSize] at h56
      rw [maxSize, u64ValueSize, u64DivBase, valueSize]
      omega
    have hstart : back b.size 1 = b.above (maxSize b.size * u64DivBase + (k + 1)) := by
      rw [above, ← hk, Nat.min_eq_right (by rw [valueSize]; omega)]
    rw [hk, Nat.add_sub_cancel_left, hstart, ← flatMap_wordDown hk.symm]
    exact foldlM_reverse_visit (m := Call ε σ) fun j _ hj => wordDesc_ret hb (hk ▸ hj)
  · rw [not_not, u64ValueSize, u64DivBase, valueSize] at h56
    have hnone : b.surplus = [] := if_neg fun h => h.1 (by rw [valueSize]; omega)
    have hend : valueSize * (maxSize b.size * u64DivBase) = b.size := by
      rw [maxSize, u64ValueSize, u64DivBase, valueSize]; omega
    have hrest : b.data.length - maxSize b.size * u64DivBase = 0 := by
      rw [valueSize] at hend; omega
    rw [hrest, hnone, above_of_le hend.le, hend]
    rfl

/-- **`rforeach` calls back on the bits set** from the last to the first, until it is told to stop,
    but begins with the index `size` if the last word has a bit there. -/
theorem rforeach_ret (hb : Plain b) :
    rforeach cb b = finish (visit cb (b.surplus ++ b.ones.reverse)) := by
  have hsize : u64ValueSize * maxSize b.size ≤ b.size := Nat.mul_div_le _ _
  have hle := maxSize_le b.size
  have hblocks := foldlM_reverse_visit (m := Call ε σ) (g := cb) (f := blockDesc cb b)
    (P := fun i => back (u64ValueSize * i) 1) (L := fun i => (b.blockOnes i).reverse) (a := 0)
    (k := maxSize b.size) fun i _ hi => by
      rw [Nat.zero_add] at hi
      refine blockDesc_ret ((Nat.mul_le_mul_left _ hi).trans hsize) ?_
      rw [hb.length_eq]
      rw [u64DivBase] at *; omega
  have hpos : b.above (maxSize b.size * u64DivBase) = back (u64ValueSize * (0 + maxSize b.size)) 1 := by
    have hmul : valueSize * (maxSize b.size * u64DivBase) = u64ValueSize * maxSize b.size := by
      rw [u64ValueSize, Nat.mul_assoc, Nat.mul_comm u64DivBase]
    rw [above_of_le (by rw [hmul]; exact hsize), hmul, Nat.zero_add]
  have hlist : b.surplus ++ b.ones.reverse =
      (b.surplus ++ ((restWords b.size b.data.length).flatMap b.wordOnes).reverse) ++
        (List.range' 0 (maxSize b.size)).reverse.flatMap fun i => (b.blockOnes i).reverse := by
    have hblocks : ((List.range' 0 (maxSize b.size)).flatMap b.blockOnes).reverse =
        (List.range' 0 (maxSize b.size)).reverse.flatMap fun i => (b.blockOnes i).reverse :=
      List.reverse_flatMap
    rw [ones_eq_append hb, List.reverse_append, List.append_assoc, hblocks]
  rw [rforeach, scanDesc, restDesc_ret hb, bind_assoc]
  simp only [pure_bind]
  rw [hpos, List.range_eq_range', hblocks, ← bind_assoc, ← visit_append, ← hlist, finish_bind]

end

end Ancfl.Bitmap
