/-
  The operations on plain bitmaps.

  * `bit` is the bit at an index, below the size or in the rest of the last word;
  * `get_ret`, `set_ret`, `complement_ret`, `andAssign_ret`, `orAssign_ret`: the
    loops four words at a time do what the operation does on each word;
  * `Built.plain`, `Built.flagged`: the bitmaps that can be made have a word for
    every bit, and the two bits above the value bits are the same in all words.
-/
import Ancfl.Ds.Bitmap
import Ancfl.Lib.Update
import Mathlib.Data.List.GetD

namespace Ancfl.Bitmap

open Lib

/-! ## Words -/

theorem getLsbD_and_countMask (w : Word) (i : ℕ) :
    (w &&& countMask).getLsbD i = (decide (i < 14) && w.getLsbD i) := by
  have hmask : countMask = BitVec.ofNat 16 (2 ^ 14 - 1) := rfl
  rw [BitVec.getLsbD_and, Bool.and_comm, hmask, BitVec.getLsbD_ofNat, Nat.testBit_two_pow_sub_one]
  congr 1
  by_cases hi : i < 14
  · simp [hi]; omega
  · simp [hi]

theorem pos_eq (i : ℕ) : pos i = BitVec.twoPow 16 i := (BitVec.twoPow_eq 16 i).symm

theorem and_pos_ne_zero {i : ℕ} (hi : i < 16) (w : Word) : w &&& pos i ≠ 0 ↔ w.getLsbD i = true := by
  rw [pos_eq, BitVec.and_twoPow]
  cases h : w.getLsbD i with
  | false => simp
  | true =>
    refine iff_of_true (fun h0 => ?_) rfl
    have := congrArg (BitVec.getLsbD · i) h0
    simp [hi] at this

theorem mod_valueSize_lt (i : ℕ) : i % valueSize < 16 :=
  (Nat.mod_lt i (by decide)).trans (by decide)

/-- The bit at an index, of the words. -/
def bitAt (data : List Word) (i : ℕ) : Bool := (data.getD (i / valueSize) 0).getLsbD (i % valueSize)

/-- The bit at an index, `false` outside the words. -/
def bit (b : Bitmap) (i : ℕ) : Bool := bitAt b.data i

theorem bitAt_mul_add (d : List Word) {j i : ℕ} (hi : i < 14) :
    bitAt d (valueSize * j + i) = (d.getD j 0).getLsbD i := by
  have hi' : i < valueSize := hi
  rw [bitAt, Nat.mul_add_div (by decide), Nat.div_eq_of_lt hi', Nat.add_zero, Nat.mul_add_mod,
    Nat.mod_eq_of_lt hi']

/-- The test of the bit `n` of the word `j`. -/
theorem test_bit {b : Bitmap} {j n : ℕ} (hn : n < 14) :
    b.data.getD j 0 &&& pos n ≠ 0 ↔ b.bit (valueSize * j + n) = true := by
  rw [bit, bitAt_mul_add _ hn, and_pos_ne_zero (by omega)]

theorem bit_of_zero {b : Bitmap} {j n : ℕ} (hn : n < 14) (h : b.data.getD j 0 = 0) :
    b.bit (valueSize * j + n) = false := by
  rw [bit, bitAt_mul_add _ hn, h]
  simp

/-! ## Accesses -/

section
variable {data a b : List Word} {i : ℕ}

theorem ok_bind {α β : Type} (a : α) (f : α → Result β) : (Except.ok a >>= f) = f a := rfl

theorem load_ret (h : i < data.length) : load data i = .ok data[i] := by
  rw [load, List.getElem?_eq_getElem h]

theorem store_ret (h : i < data.length) (w : Word) : store data i w = .ok (data.set i w) := if_pos h

theorem get_ret {b : Bitmap} (h : i / valueSize < b.data.length) : b.get i = .ok (b.bit i) := by
  rw [get, load_ret h]
  show Except.ok _ = _
  rw [bit, bitAt, List.getD_eq_getElem _ _ h]
  congr 1
  exact Bool.eq_iff_iff.2 (decide_eq_true_iff.trans (and_pos_ne_zero (mod_valueSize_lt i) _))

theorem set_ret {b b' : Bitmap} {v : Bool} (h : b.set i v = .ok b') :
    ∃ hi : i / valueSize < b.data.length, b' = ⟨b.isCompress, b.size, b.size_lt, b.data.set (i / valueSize)
      (if v then b.data[i / valueSize] ||| pos (i % valueSize)
        else b.data[i / valueSize] &&& npos (i % valueSize))⟩ := by
  by_cases hi : i / valueSize < b.data.length
  · rw [set, load_ret hi] at h
    refine ⟨hi, ?_⟩
    have h' : (store b.data (i / valueSize) _ >>= fun data => pure { b with data := data }) = .ok b' := h
    rw [store_ret hi] at h'
    exact (Except.ok.inj h').symm
  · rw [set, load, List.getElem?_eq_none (by omega)] at h
    cases h

theorem getLsbD_block (w₀ w₁ w₂ w₃ : Word) (i : ℕ) : (block w₀ w₁ w₂ w₃).getLsbD i =
    if i < 16 then w₀.getLsbD i else if i < 32 then w₁.getLsbD (i - 16)
    else if i < 48 then w₂.getLsbD (i - 32) else w₃.getLsbD (i - 48) := by
  show (w₃ ++ w₂ ++ w₁ ++ w₀ : BitVec (16 + 16 + 16 + 16)).getLsbD i = _
  simp only [BitVec.getLsbD_append]
  grind

/-- The words of a block. -/
theorem extract_block (w₀ w₁ w₂ w₃ : Word) :
    (block w₀ w₁ w₂ w₃).extractLsb' 0 16 = w₀ ∧ (block w₀ w₁ w₂ w₃).extractLsb' 16 16 = w₁ ∧
      (block w₀ w₁ w₂ w₃).extractLsb' 32 16 = w₂ ∧ (block w₀ w₁ w₂ w₃).extractLsb' 48 16 = w₃ := by
  refine ⟨?_, ?_, ?_, ?_⟩ <;> ext i hi <;> simp only [BitVec.getElem_extractLsb', getLsbD_block]
  · simp [hi]
  · rw [if_neg (by omega), if_pos (by omega)]; simp [BitVec.getLsbD_eq_getElem hi]
  · rw [if_neg (by omega), if_neg (by omega), if_pos (by omega)]; simp [BitVec.getLsbD_eq_getElem hi]
  · rw [if_neg (by omega), if_neg (by omega), if_neg (by omega)]; simp [BitVec.getLsbD_eq_getElem hi]

theorem block_eq_zero {w₀ w₁ w₂ w₃ : Word} :
    block w₀ w₁ w₂ w₃ = 0#64 ↔ w₀ = 0#16 ∧ w₁ = 0#16 ∧ w₂ = 0#16 ∧ w₃ = 0#16 := by
  constructor
  · intro h
    obtain ⟨h₀, h₁, h₂, h₃⟩ := extract_block w₀ w₁ w₂ w₃
    rw [h] at h₀ h₁ h₂ h₃
    exact ⟨h₀.symm, h₁.symm, h₂.symm, h₃.symm⟩
  · rintro ⟨rfl, rfl, rfl, rfl⟩
    rfl

theorem load_getD (h : i < data.length) : load data i = .ok (data.getD i 0) := by
  rw [load_ret h, List.getD_eq_getElem _ _ h]

theorem load64_ret (h : u64DivBase * i + 3 < data.length) :
    load64 data i = .ok (block (data.getD (u64DivBase * i) 0) (data.getD (u64DivBase * i + 1) 0)
      (data.getD (u64DivBase * i + 2) 0) (data.getD (u64DivBase * i + 3) 0)) := by
  rw [load64, load_getD (by omega), load_getD (by omega), load_getD (by omega), load_getD h]
  rfl

theorem store64_ret (h : u64DivBase * i + 3 < data.length) (x : BitVec 64) :
    store64 data i x = .ok ((((data.set (u64DivBase * i) (x.extractLsb' 0 16)).set
      (u64DivBase * i + 1) (x.extractLsb' 16 16)).set (u64DivBase * i + 2) (x.extractLsb' 32 16)).set
      (u64DivBase * i + 3) (x.extractLsb' 48 16)) := by
  rw [store64, store_ret (by omega)]
  show (store _ _ _ >>= _) = _
  rw [store_ret (by rw [List.length_set]; omega)]
  show (store _ _ _ >>= _) = _
  rw [store_ret (by rw [List.length_set, List.length_set]; omega)]
  show store _ _ _ = _
  rw [store_ret (by rw [List.length_set, List.length_set, List.length_set]; omega)]

/-- Storing a block updates its four words. -/
theorem store64_block {f : ℕ → Word → Word} {w₀ w₁ w₂ w₃ : Word} (h : u64DivBase * i + 3 < a.length)
    (h₀ : w₀ = f (u64DivBase * i) (a.getD (u64DivBase * i) 0))
    (h₁ : w₁ = f (u64DivBase * i + 1) (a.getD (u64DivBase * i + 1) 0))
    (h₂ : w₂ = f (u64DivBase * i + 2) (a.getD (u64DivBase * i + 2) 0))
    (h₃ : w₃ = f (u64DivBase * i + 3) (a.getD (u64DivBase * i + 3) 0)) :
    store64 a i (block w₀ w₁ w₂ w₃) = .ok (updateOn (fun j => j / u64DivBase = i) f a) := by
  obtain ⟨e₀, e₁, e₂, e₃⟩ := extract_block w₀ w₁ w₂ w₃
  rw [store64_ret h, e₀, e₁, e₂, e₃]
  have hlen : ∀ k ≤ 3, 4 * i + k < a.length := fun k hk => by rw [u64DivBase] at h; omega
  refine congrArg Except.ok (List.ext_getElem? fun j => ?_)
  rw [getElem?_updateOn]
  simp only [List.getElem?_set, List.length_set, u64DivBase] at *
  by_cases hj : j / 4 = i
  · have hcases : j = 4 * i ∨ j = 4 * i + 1 ∨ j = 4 * i + 2 ∨ j = 4 * i + 3 := by omega
    rcases hcases with rfl | rfl | rfl | rfl
    · have : 4 * i < a.length := hlen 0 (by decide)
      simp [this, h₀]
    · have := hlen 1 (by decide); simp [hj, this, h₁]
    · have := hlen 2 (by decide); simp [hj, this, h₂]
    · have := hlen 3 (by decide); simp [hj, this, h₃]
  · rw [if_neg (by omega), if_neg (by omega), if_neg (by omega), if_neg (by omega)]
    simp [hj]

theorem store_word {f : ℕ → Word → Word} {w : Word} (h : i < a.length) (hw : w = f i a[i]) :
    store a i w = .ok (updateOn (· = i) f a) := by
  rw [store_ret h, set_eq_updateOn (f := f) i w fun y hy => ?_]
  rw [hw, ← Option.some.inj ((List.getElem?_eq_getElem h).symm.trans hy)]

end

/-! ## The loops -/

theorem maxSize_le (size : ℕ) : maxSize size * u64DivBase ≤ words size := by
  simp only [maxSize, u64DivBase, words, u64ValueSize, valueSize]; omega

/-- The loops over the blocks and over the words that follow them update every word. -/
theorem blocks_ret {f : ℕ → Word → Word} {size : ℕ} {a : List Word} (ha : a.length = words size)
    {block word : List Word → ℕ → Result (List Word)}
    (hblock : ∀ a i, u64DivBase * i + 3 < a.length → a.length = words size →
      block a i = .ok (updateOn (fun j => j / u64DivBase = i) f a))
    (hword : ∀ a i, i < a.length → a.length = words size → word a i = .ok (updateOn (· = i) f a)) :
    (do let a ← (List.range (maxSize size)).foldlM block a
        (restWords size a.length).foldlM word a) = .ok (a.mapIdx f) := by
  have hle := maxSize_le size
  have hfirst := foldlM_updateOn (m := Result) (n := words size) (g := block) (f := f)
    (P := fun i j => j / u64DivBase = i) (List.range (maxSize size))
    (List.pairwise_lt_range.imp fun hlt j hj hj' => by omega)
    (fun i hi a ha => hblock a i (by rw [List.mem_range] at hi; rw [u64DivBase] at *; omega) ha) a ha
  rw [hfirst, pure_bind, length_updateOn]
  have hsecond := foldlM_updateOn (m := Result) (n := words size) (g := word) (f := f)
    (P := fun i j => j = i) (restWords size a.length)
    ((List.pairwise_lt_range' ..).imp fun hlt j hj hj' => by omega)
    (fun i hi b hb => hword b i
      (by rw [restWords, List.mem_range'_1] at hi; omega) hb)
    (updateOn (fun j => ∃ i ∈ List.range (maxSize size), j / u64DivBase = i) f a) (by simpa using ha)
  rw [hsecond, updateOn_updateOn]
  · refine congrArg Except.ok ?_
    rw [updateOn]
    refine List.ext_getElem? fun j => ?_
    rw [List.getElem?_mapIdx, List.getElem?_mapIdx]
    by_cases hj : j < a.length
    · refine Option.map_congr fun x _ => if_pos ?_
      by_cases hlow : j / u64DivBase < maxSize size
      · exact .inl ⟨_, List.mem_range.2 hlow, rfl⟩
      · refine .inr ⟨j, ?_, rfl⟩
        rw [restWords, List.mem_range'_1]
        rw [u64DivBase] at *; omega
    · rw [List.getElem?_eq_none (by omega)]; rfl
  · rintro j ⟨i, hi, rfl⟩ ⟨i', hi', rfl⟩
    rw [restWords, List.mem_range'_1] at hi'
    rw [List.mem_range] at hi
    rw [u64DivBase] at *; omega

/-! ### Bitwise operators -/

theorem block_eq_iff (w₀ w₁ w₂ w₃ : Word) (x : BitVec 64) : x = block w₀ w₁ w₂ w₃ ↔
    ∀ i < 16, x.getLsbD i = w₀.getLsbD i ∧ x.getLsbD (i + 16) = w₁.getLsbD i ∧
      x.getLsbD (i + 32) = w₂.getLsbD i ∧ x.getLsbD (i + 48) = w₃.getLsbD i := by
  constructor
  · rintro rfl i hi
    simp only [getLsbD_block]
    grind
  · intro h
    refine BitVec.eq_of_getLsbD_eq fun i hi => ?_
    rw [getLsbD_block]
    have hmod := h (i % 16) (Nat.mod_lt _ (by decide))
    split_ifs with h16 h32 h48
    · rw [Nat.mod_eq_of_lt h16] at hmod; exact hmod.1
    · rw [show i % 16 = i - 16 by omega, Nat.sub_add_cancel (by omega)] at hmod; exact hmod.2.1
    · rw [show i % 16 = i - 32 by omega, Nat.sub_add_cancel (by omega)] at hmod; exact hmod.2.2.1
    · rw [show i % 16 = i - 48 by omega, Nat.sub_add_cancel (by omega)] at hmod; exact hmod.2.2.2

/-- An operator that works bit by bit. -/
def Bitwise₂ (op : (w : ℕ) → BitVec w → BitVec w → BitVec w) : Prop :=
  ∀ x₀ x₁ x₂ x₃ y₀ y₁ y₂ y₃, op 64 (block x₀ x₁ x₂ x₃) (block y₀ y₁ y₂ y₃) =
    block (op 16 x₀ y₀) (op 16 x₁ y₁) (op 16 x₂ y₂) (op 16 x₃ y₃)

theorem bitwise_and : Bitwise₂ fun _ x y => x &&& y := by
  intro x₀ x₁ x₂ x₃ y₀ y₁ y₂ y₃
  rw [block_eq_iff]
  intro i hi
  have hx := (block_eq_iff x₀ x₁ x₂ x₃ _).1 rfl i hi
  have hy := (block_eq_iff y₀ y₁ y₂ y₃ _).1 rfl i hi
  simp only [BitVec.getLsbD_and, hx, hy, and_self]

theorem bitwise_or : Bitwise₂ fun _ x y => x ||| y := by
  intro x₀ x₁ x₂ x₃ y₀ y₁ y₂ y₃
  rw [block_eq_iff]
  intro i hi
  have hx := (block_eq_iff x₀ x₁ x₂ x₃ _).1 rfl i hi
  have hy := (block_eq_iff y₀ y₁ y₂ y₃ _).1 rfl i hi
  simp only [BitVec.getLsbD_or, hx, hy, and_self]

theorem not_block (x₀ x₁ x₂ x₃ : Word) :
    ~~~block x₀ x₁ x₂ x₃ = block (~~~x₀) (~~~x₁) (~~~x₂) (~~~x₃) := by
  rw [block_eq_iff]
  intro i hi
  have hx := (block_eq_iff x₀ x₁ x₂ x₃ _).1 rfl i hi
  simp only [BitVec.getLsbD_not, hx, hi, decide_true, Bool.true_and, show i < 64 by omega,
    show i + 16 < 64 by omega, show i + 32 < 64 by omega, show i + 48 < 64 by omega, and_self]

theorem mapBits_ret {size : ℕ} {a : List Word} (ha : a.length = words size) :
    mapBits (fun _ x => ~~~x) size a = .ok (a.map fun x => ~~~x) := by
  rw [mapBits, blocks_ret (f := fun _ x => ~~~x) ha]
  · refine congrArg Except.ok (List.ext_getElem? fun j => ?_)
    rw [List.getElem?_mapIdx, List.getElem?_map]
  · intro a i hi _
    rw [load64_ret hi]
    show store64 a i (~~~block _ _ _ _) = _
    rw [not_block]
    exact store64_block hi rfl rfl rfl rfl
  · intro a i hi _
    rw [load_ret hi]
    exact store_word hi rfl

theorem zipBits_ret {op : (w : ℕ) → BitVec w → BitVec w → BitVec w} (hop : Bitwise₂ op) {size : ℕ}
    {a b : List Word} (ha : a.length = words size) (hb : b.length = words size) :
    zipBits op size a b = .ok (List.zipWith (op 16) a b) := by
  rw [zipBits, blocks_ret (f := fun j x => op 16 x (b.getD j 0)) ha]
  · refine congrArg Except.ok (List.ext_getElem? fun j => ?_)
    rw [List.getElem?_mapIdx, List.getElem?_zipWith]
    by_cases hj : j < a.length
    · have hjb : j < b.length := by omega
      simp [List.getElem?_eq_getElem hj, List.getElem?_eq_getElem hjb]
    · rw [List.getElem?_eq_none (by omega)]; rfl
  · intro a i hi ha'
    have hib : u64DivBase * i + 3 < b.length := by omega
    rw [load64_ret hi, load64_ret hib]
    show store64 a i (op 64 (block _ _ _ _) (block _ _ _ _)) = _
    rw [hop]
    exact store64_block hi rfl rfl rfl rfl
  · intro a i hi ha'
    have hib : i < b.length := by omega
    rw [load_ret hi, load_ret hib]
    exact store_word hi (by rw [List.getD_eq_getElem _ _ hib])

/-! ## The operations -/

/-- An uncompressed bitmap has a word for every bit. -/
structure Plain (b : Bitmap) : Prop where
  isCompress_eq : b.isCompress = false
  length_eq : b.data.length = words b.size

theorem words_bounds {size : ℕ} (h : size < 2 ^ 32) :
    valueSize * (words size - 1) < 2 ^ 32 ∧ (∀ j < words size, valueSize * j < size) ∧
      (∀ i < size, i / valueSize < words size) := by
  simp only [words, valueSize]
  refine ⟨by omega, fun j hj => by omega, fun i hi => by omega⟩

theorem Plain.get_ret {b : Bitmap} (hb : Plain b) {i : ℕ} (hi : i < b.size) :
    b.get i = .ok (b.bit i) :=
  Bitmap.get_ret (by rw [hb.length_eq]; exact (words_bounds b.size_lt).2.2 i hi)

theorem Plain.length_le {b : Bitmap} (hb : Plain b) : b.data.length ≤ 2 ^ 32 := by
  have := (words_bounds b.size_lt).1
  rw [hb.length_eq]
  rw [valueSize] at this
  omega

section
variable {a b : Bitmap}

theorem complement_ret (hb : Plain b) : b.complement =
    .ok ⟨false, b.size, b.size_lt, b.data.map fun x => ~~~x⟩ := by
  rw [complement, if_neg (by simp [hb.isCompress_eq]), mapBits_ret hb.length_eq, ← hb.isCompress_eq]
  rfl

theorem andAssign_ret (ha : Plain a) (hb : Plain b) (hs : a.size = b.size) : a.andAssign b =
    .ok ⟨false, a.size, a.size_lt, List.zipWith (· &&& ·) a.data b.data⟩ := by
  rw [andAssign, if_neg (by simpa using hs), ha.isCompress_eq, hb.isCompress_eq]
  show (zipBits _ _ _ _ >>= _) = _
  rw [zipBits_ret bitwise_and ha.length_eq (hs ▸ hb.length_eq), ← ha.isCompress_eq]
  rfl

theorem orAssign_ret (ha : Plain a) (hb : Plain b) (hs : a.size = b.size) : a.orAssign b =
    .ok ⟨false, a.size, a.size_lt, List.zipWith (· ||| ·) a.data b.data⟩ := by
  rw [orAssign, if_neg (by simpa using hs), ha.isCompress_eq, hb.isCompress_eq]
  show (zipBits _ _ _ _ >>= _) = _
  rw [zipBits_ret bitwise_or ha.length_eq (hs ▸ hb.length_eq), ← ha.isCompress_eq]
  rfl

theorem size_eq_of_andAssign {a' : Bitmap} (h : a.andAssign b = .ok a') : a.size = b.size := by
  by_contra hs
  rw [andAssign, if_pos hs] at h
  cases h

theorem size_eq_of_orAssign {a' : Bitmap} (h : a.orAssign b = .ok a') : a.size = b.size := by
  by_contra hs
  rw [orAssign, if_pos hs] at h
  cases h

end

/-! ### Invariants -/

variable {R : ℕ → ℕ → Prop}

/-- **Every bit has a word.** -/
theorem Made.plain {b : Bitmap} (h : Made R b) : Plain b := by
  induction h with
  | new size h hfill => exact ⟨rfl, List.length_replicate⟩
  | set _ _ hset ih =>
    obtain ⟨hi, rfl⟩ := set_ret hset
    exact ⟨ih.isCompress_eq, by rw [List.length_set]; exact ih.length_eq⟩
  | complement _ hc ih =>
    rw [complement_ret ih] at hc
    obtain rfl := Except.ok.inj hc
    exact ⟨rfl, by rw [List.length_map]; exact ih.length_eq⟩
  | andAssign _ _ hand iha ihb =>
    have hs := size_eq_of_andAssign hand
    rw [andAssign_ret iha ihb hs] at hand
    obtain rfl := Except.ok.inj hand
    refine ⟨rfl, ?_⟩
    rw [List.length_zipWith, iha.length_eq, ihb.length_eq, hs, Nat.min_self]
  | orAssign _ _ hor iha ihb =>
    have hs := size_eq_of_orAssign hor
    rw [orAssign_ret iha ihb hs] at hor
    obtain rfl := Except.ok.inj hor
    refine ⟨rfl, ?_⟩
    rw [List.length_zipWith, iha.length_eq, ihb.length_eq, hs, Nat.min_self]

/-- The bits of a word `P` selects are all `f`. -/
def Uniform (P : ℕ → ℕ → Prop) (f : Bool) (data : List Word) : Prop :=
  ∀ p (hp : p < data.length), ∀ i < 16, P p i → data[p].getLsbD i = f

theorem getElem_new {size : ℕ} (h : size < 2 ^ 32) (fill : BitVec 8) {p : ℕ}
    (hp : p < (new size h fill).data.length) : (new size h fill).data[p] = fill ++ fill :=
  List.getElem_replicate _

/-- **Bits that no `set` reaches** are all the same. -/
theorem Made.uniform {P : ℕ → ℕ → ℕ → Prop}
    (hP : ∀ size idx, R size idx → ¬P size (idx / valueSize) (idx % valueSize)) {b : Bitmap}
    (h : Made R b) : ∃ f, Uniform (P b.size) f b.data := by
  induction h with
  | new size h hfill =>
    rcases hfill with rfl | rfl
    · refine ⟨false, fun p hp i hi _ => ?_⟩
      rw [getElem_new]
      clear * - hi
      revert i; decide
    · refine ⟨true, fun p hp i hi _ => ?_⟩
      rw [getElem_new]
      clear * - hi
      revert i; decide
  | @set b _ idx v _ hR hset ih =>
    obtain ⟨hi, rfl⟩ := set_ret hset
    obtain ⟨f, hf⟩ := ih
    refine ⟨f, fun p hp i hi16 hPi => ?_⟩
    rw [List.length_set] at hp
    by_cases hpi : idx / valueSize = p
    · subst hpi
      have hne : i ≠ idx % valueSize := fun he => hP _ _ hR (he ▸ hPi)
      rw [List.getElem_set_self, ← hf _ hp i hi16 hPi, npos, pos_eq]
      cases v with
      | false => simp [hi16, hne]
      | true => simp [Ne.symm hne]
    · rw [List.getElem_set_ne hpi]
      exact hf p hp i hi16 hPi
  | complement hb hc ih =>
    rw [complement_ret hb.plain] at hc
    obtain rfl := Except.ok.inj hc
    obtain ⟨f, hf⟩ := ih
    refine ⟨!f, fun p hp i hi16 hPi => ?_⟩
    rw [List.length_map] at hp
    rw [List.getElem_map, BitVec.getLsbD_not, hf p hp i hi16 hPi]
    simp [hi16]
  | andAssign ha hb hand iha ihb =>
    have hs := size_eq_of_andAssign hand
    rw [andAssign_ret ha.plain hb.plain hs] at hand
    obtain rfl := Except.ok.inj hand
    obtain ⟨f, hf⟩ := iha
    obtain ⟨g, hg⟩ := ihb
    refine ⟨f && g, fun p hp i hi16 hPi => ?_⟩
    rw [List.length_zipWith, Nat.lt_min] at hp
    rw [List.getElem_zipWith, BitVec.getLsbD_and, hf p hp.1 i hi16 hPi, hg p hp.2 i hi16 (hs ▸ hPi)]
  | orAssign ha hb hor iha ihb =>
    have hs := size_eq_of_orAssign hor
    rw [orAssign_ret ha.plain hb.plain hs] at hor
    obtain rfl := Except.ok.inj hor
    obtain ⟨f, hf⟩ := iha
    obtain ⟨g, hg⟩ := ihb
    refine ⟨f || g, fun p hp i hi16 hPi => ?_⟩
    rw [List.length_zipWith, Nat.lt_min] at hp
    rw [List.getElem_zipWith, BitVec.getLsbD_or, hf p hp.1 i hi16 hPi, hg p hp.2 i hi16 (hs ▸ hPi)]

/-- The two bits above the value bits are `f` in all words. -/
def Flagged (f : Bool) (data : List Word) : Prop :=
  ∀ w ∈ data, w.getLsbD 14 = f ∧ w.getLsbD 15 = f

theorem Made.flagged {b : Bitmap} (h : Made R b) : ∃ f, Flagged f b.data := by
  obtain ⟨f, hf⟩ := h.uniform (P := fun _ _ i => valueSize ≤ i)
    fun _ idx _ => by have := Nat.mod_lt idx (show 0 < valueSize by decide); omega
  refine ⟨f, fun w hw => ?_⟩
  obtain ⟨p, hp, rfl⟩ := List.mem_iff_getElem.1 hw
  exact ⟨hf p hp 14 (by decide) (Nat.le_refl 14), hf p hp 15 (by decide) (Nat.le_succ 14)⟩

/-- All bits outside the bitmap are `f`. -/
def Tidy (f : Bool) (b : Bitmap) : Prop :=
  Uniform (fun p i => valueSize ≤ i ∨ b.size ≤ valueSize * p + i) f b.data

theorem Tidy.flagged {f : Bool} {b : Bitmap} (h : Tidy f b) : Flagged f b.data := by
  intro w hw
  obtain ⟨p, hp, rfl⟩ := List.mem_iff_getElem.1 hw
  exact ⟨h p hp 14 (by decide) (.inl (Nat.le_refl 14)), h p hp 15 (by decide) (.inl (Nat.le_succ 14))⟩

theorem Made.tidy {b : Bitmap} (h : BuiltInside b) : ∃ f, Tidy f b := by
  refine h.uniform (P := fun size p i => valueSize ≤ i ∨ size ≤ valueSize * p + i) ?_
  rintro size idx hidx (hi | hi)
  · exact absurd (Nat.mod_lt idx (show 0 < valueSize by decide)) (by omega)
  · rw [Nat.div_add_mod] at hi
    omega

end Ancfl.Bitmap
