/-
  Byte strings: fixed-width numbers in little-endian order, and the parts of a
  list that a copy into memory reads and writes.

  * `leBytes n x` are the `n` low bytes of `x`, `leNat` reads them back
    (`leNat_leBytes`, `leBytes_leNat`);
  * `slice l i n` is what a copy of `n` elements from position `i` reads,
    `overwrite l i w` is `l` after a copy of `w` to position `i`;
  * a list of blocks of one length `s` is addressed as one memory: position
    `i` of block `k` is position `k * s + i` of their concatenation
    (`slice_flatten`, `overwrite_flatten`).
-/
import Mathlib.Tactic.Common
import Mathlib.Tactic.Ring
import Mathlib.Data.List.Flatten

namespace Lib

/-! ## Little-endian numbers -/

/-- The `n` low-order bytes of `x`, least significant first. -/
def leBytes : ℕ → ℕ → List UInt8
  | 0, _ => []
  | n + 1, x => UInt8.ofNat x :: leBytes n (x / 256)

/-- The number whose bytes are `bs`, least significant first. -/
def leNat : List UInt8 → ℕ
  | [] => 0
  | b :: bs => b.toNat + 256 * leNat bs

@[simp]
theorem length_leBytes : ∀ n x, (leBytes n x).length = n
  | 0, _ => rfl
  | n + 1, x => by simp [leBytes, length_leBytes n]

theorem leNat_lt : ∀ bs : List UInt8, leNat bs < 256 ^ bs.length
  | [] => by simp [leNat]
  | b :: bs => by
    have h := leNat_lt bs
    have hb := b.toNat_lt
    simp only [leNat, List.length_cons, pow_succ]
    omega

theorem leNat_leBytes : ∀ n x, leNat (leBytes n x) = x % 256 ^ n
  | 0, x => by simp [leBytes, leNat, Nat.mod_one]
  | n + 1, x => by
    rw [leBytes, leNat, leNat_leBytes n, pow_succ', Nat.mod_mul, UInt8.toNat_ofNat']

theorem leBytes_leNat : ∀ bs : List UInt8, leBytes bs.length (leNat bs) = bs
  | [] => rfl
  | b :: bs => by
    have hb := b.toNat_lt
    have h1 : UInt8.ofNat (b.toNat + 256 * leNat bs) = b := by
      apply UInt8.toNat_inj.mp; rw [UInt8.toNat_ofNat']; omega
    have h2 : (b.toNat + 256 * leNat bs) / 256 = leNat bs := by omega
    rw [List.length_cons, leNat, leBytes, h1, h2, leBytes_leNat bs]

/-- A bit of a number is a bit of one of its bytes. -/
theorem testBit_leNat : ∀ {bs : List UInt8} {j r : ℕ} {b : UInt8}, bs[j]? = some b → r < 8 →
    (leNat bs).testBit (8 * j + r) = b.toNat.testBit r
  | [], _, _, _, h, _ => by cases h
  | c :: bs, 0, r, b, h, hr => by
    obtain rfl : c = b := by simpa using h
    rw [leNat, Nat.add_comm, show 256 = 2 ^ 8 from rfl, Nat.testBit_two_pow_mul_add _ c.toNat_lt,
      Nat.mul_zero, Nat.zero_add, if_pos hr]
  | c :: bs, j + 1, r, b, h, hr => by
    rw [List.getElem?_cons_succ] at h
    rw [leNat, Nat.add_comm, show 256 = 2 ^ 8 from rfl, Nat.testBit_two_pow_mul_add _ c.toNat_lt,
      if_neg (by omega), ← testBit_leNat h hr]
    congr 1
    omega

/-! ## Copies -/

variable {α : Type}

/-- What a copy of `n` elements from position `i` of `l` reads. -/
def slice (l : List α) (i n : ℕ) : List α := (l.drop i).take n

/-- `l` after a copy of `w` to position `i`. -/
def overwrite (l : List α) (i : ℕ) (w : List α) : List α := l.take i ++ w ++ l.drop (i + w.length)

theorem length_slice {l : List α} {i n : ℕ} (h : i + n ≤ l.length) : (slice l i n).length = n := by
  simp [slice]; omega

@[simp]
theorem slice_zero (l : List α) (i : ℕ) : slice l i 0 = [] := by simp [slice]

theorem slice_add (l : List α) (i m n : ℕ) : slice l i (m + n) = slice l i m ++ slice l (i + m) n := by
  simp [slice, List.take_add, List.drop_drop]

theorem slice_take (l : List α) {i n m : ℕ} (h : i + n ≤ m) : slice (l.take m) i n = slice l i n := by
  rw [slice, slice, List.drop_take, List.take_take]; congr 1; omega

theorem slice_append_left (l r : List α) {i n : ℕ} (h : i + n ≤ l.length) :
    slice (l ++ r) i n = slice l i n := by
  rw [slice, slice, List.drop_append_of_le_length (by omega), List.take_append_of_le_length]
  simp; omega

theorem slice_append_right (l r : List α) (i n : ℕ) :
    slice (l ++ r) (l.length + i) n = slice r i n := by
  rw [slice, List.drop_append, List.drop_of_length_le (by omega), slice]
  simp

theorem length_overwrite {l : List α} {i : ℕ} {w : List α} (h : i + w.length ≤ l.length) :
    (overwrite l i w).length = l.length := by
  simp [overwrite]; omega

@[simp]
theorem overwrite_nil (l : List α) (i : ℕ) : overwrite l i [] = l := by simp [overwrite]

theorem overwrite_zero (l w : List α) : overwrite l 0 w = w ++ l.drop w.length := by
  rw [overwrite, List.take_zero, List.nil_append, Nat.zero_add]

theorem overwrite_append_left {l : List α} {i : ℕ} {w : List α} (r : List α)
    (h : i + w.length ≤ l.length) : overwrite (l ++ r) i w = overwrite l i w ++ r := by
  rw [overwrite, overwrite, List.take_append_of_le_length (by omega),
    List.drop_append_of_le_length h]
  simp

theorem overwrite_append_right (l r : List α) (i : ℕ) (w : List α) :
    overwrite (l ++ r) (l.length + i) w = l ++ overwrite r i w := by
  rw [overwrite, List.take_append, List.drop_append, List.take_of_length_le (by omega),
    List.drop_of_length_le (by omega), overwrite]
  simp [Nat.add_assoc]

/-- Two copies, one right after the other, are one. -/
theorem overwrite_overwrite {l : List α} {i : ℕ} (w w' : List α) (h : i ≤ l.length) :
    overwrite (overwrite l i w) (i + w.length) w' = overwrite l i (w ++ w') := by
  have hl : (l.take i ++ w).length = i + w.length := by simp; omega
  rw [overwrite, ← hl, overwrite, List.take_append_of_le_length (le_refl _), List.take_length,
    List.drop_append, List.drop_of_length_le (by omega), overwrite, hl]
  simp [Nat.add_assoc]

/-- A copy of `w` inside the first `m` elements, or reaching beyond them. -/
theorem take_overwrite {l : List α} {i m : ℕ} {w : List α} (hi : i ≤ m) (h : i + w.length ≤ l.length) :
    (overwrite l i w).take (max m (i + w.length)) = overwrite (l.take m) i w := by
  rcases le_total (i + w.length) m with hm | hm
  · rw [max_eq_left hm, overwrite, overwrite, List.take_take, min_eq_left hi, List.drop_take,
      List.take_append, List.take_of_length_le (by simp; omega)]
    congr 2; simp; omega
  · rw [max_eq_right hm, overwrite, overwrite, List.take_take, min_eq_left hi,
      List.take_append, List.take_of_length_le (by simp)]
    have h1 : (l.take m).drop (i + w.length) = [] := List.drop_of_length_le (by simp [hm])
    rw [h1]; simp; omega

/-! ## Blocks of one length -/

section
variable {bs : List (List α)} {s : ℕ}

theorem length_flatten_blocks : ∀ {bs : List (List α)}, (∀ b ∈ bs, b.length = s) →
    bs.flatten.length = bs.length * s
  | [], _ => by simp
  | b :: bs, h => by
    rw [List.flatten_cons, List.length_append, h b (by simp),
      length_flatten_blocks fun c hc => h c (by simp [hc]), List.length_cons]
    ring

/-- The block at `k` starts at position `k * s` of the concatenation. -/
theorem flatten_eq_of_getElem? (h : ∀ b ∈ bs, b.length = s) {k : ℕ} {b : List α}
    (hk : bs[k]? = some b) :
    bs.flatten = (bs.take k).flatten ++ (b ++ (bs.drop (k + 1)).flatten) ∧
      (bs.take k).flatten.length = k * s := by
  obtain ⟨hlt, rfl⟩ := List.getElem?_eq_some_iff.1 hk
  refine ⟨?_, ?_⟩
  · conv_lhs => rw [← List.take_append_drop k bs, List.drop_eq_getElem_cons hlt]
    rw [List.flatten_append, List.flatten_cons]
  · rw [length_flatten_blocks fun c hc => h c (List.mem_of_mem_take hc), List.length_take]
    rw [min_eq_left hlt.le]

/-- A copy out of block `k` is a copy out of the concatenation. -/
theorem slice_flatten (h : ∀ b ∈ bs, b.length = s) {k i n : ℕ} {b : List α}
    (hk : bs[k]? = some b) (hi : i + n ≤ s) : slice bs.flatten (k * s + i) n = slice b i n := by
  obtain ⟨he, hl⟩ := flatten_eq_of_getElem? h hk
  have hb : b.length = s := h b (List.mem_of_getElem? hk)
  rw [he, ← hl, slice_append_right, slice_append_left _ _ (by omega)]

/-- A copy into block `k` is a copy into the concatenation. -/
theorem overwrite_flatten (h : ∀ b ∈ bs, b.length = s) {k i : ℕ} {b w : List α}
    (hk : bs[k]? = some b) (hi : i + w.length ≤ s) :
    (bs.set k (overwrite b i w)).flatten = overwrite bs.flatten (k * s + i) w := by
  obtain ⟨he, hl⟩ := flatten_eq_of_getElem? h hk
  have hb : b.length = s := h b (List.mem_of_getElem? hk)
  obtain ⟨hlt, -⟩ := List.getElem?_eq_some_iff.1 hk
  rw [he, ← hl, overwrite_append_right, overwrite_append_left _ (by omega), List.set_eq_take_append_cons_drop,
    if_pos hlt]
  simp

end

end Lib
