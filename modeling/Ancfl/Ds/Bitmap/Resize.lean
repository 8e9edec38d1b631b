/-
  `resize` of a plain bitmap.

  * `resize`: where it adds words it changes the last one there was as well: by
    the mask of the old size it sets the bits below the size for `v` true, and
    clears the bits behind it for `v` false;
  * `resize_keep`, `resize_grow`: the bits after it;
  * `resizes_iff`: when the old bits are kept and the new ones are `v`.
-/
import Ancfl.Ds.Bitmap.Measure

namespace Ancfl.Bitmap

open Lib

/-- `memset` with `0xFF` or with 0 -/
def newWord (v : Bool) : Word := if v then 0xFFFF#16 else 0x0000#16

/-- `resize(size, v)`; `m_dataSize - 1` is a `uint32_t`. -/
def resize (b : Bitmap) (size : ℕ) (h : size < 2 ^ 32) (v : Bool) : Result Bitmap := do
  if b.isCompress then throw (.logicError "compress bitmap not support resize")
  let len := words size
  if b.data.length < len then
    let newData := b.data ++ List.replicate (len - b.data.length) (newWord v)
    let left := b.size % valueSize
    let last := (b.data.length + (2 ^ 32 - 1)) % 2 ^ 32
    let w ← load newData last
    let data ← store newData last (if v then w ||| mask left else w &&& mask left)
    return ⟨b.isCompress, size, h, data⟩
  return ⟨b.isCompress, size, h, b.data.take len⟩

/-- `resize` keeps the bits below both sizes, and the bits it adds are `v`. -/
def Resizes (b : Bitmap) (size : ℕ) (h : size < 2 ^ 32) (v : Bool) : Prop :=
  ∃ b', b.resize size h v = .ok b' ∧ b'.size = size ∧ (∀ i < min b.size size, b'.get i = b.get i) ∧
    ∀ i, b.size ≤ i → i < size → b'.get i = .ok v

/-- No bit is added; or the bits that are added are in the last word, and are `v` there; or words are
    added, and the mask is the right one for `v`, or the bits of the last word are all `v`. -/
def Resizable (b : Bitmap) (size : ℕ) (v : Bool) : Prop :=
  size ≤ b.size ∨
    (words size = words b.size ∧ ∀ i, b.size ≤ i → i < size → b.bit i = v) ∨
    (words b.size < words size ∧ 0 < b.size ∧ ((v = true ↔ b.size % valueSize = 0) ∨
      ∀ i, i / valueSize + 1 = words b.size → b.bit i = v))

/-! ## The bits after it -/

theorem getLsbD_newWord (v : Bool) {i : ℕ} (hi : i < 16) : (newWord v).getLsbD i = v := by
  cases v with
  | false => simp [newWord]
  | true =>
    rw [newWord, if_pos rfl]
    revert i
    decide

/-- The last word after the mask was applied. -/
theorem getLsbD_masked (w : Word) (v : Bool) {m : ℕ} (hm : m < 16) (i : ℕ) :
    (if v then w ||| mask m else w &&& mask m).getLsbD i =
      if i < m then w.getLsbD i || v else w.getLsbD i && v := by
  cases v with
  | false => by_cases hi : i < m <;> simp [getLsbD_mask hm, hi]
  | true => by_cases hi : i < m <;> simp [getLsbD_mask hm, hi]

section
variable {b : Bitmap} {size : ℕ} {h : size < 2 ^ 32} {v : Bool}

theorem words_mono {m n : ℕ} (hmn : m ≤ n) : words m ≤ words n :=
  Nat.div_le_div_right (Nat.add_le_add_right hmn _)

theorem resize_keep (hb : Plain b) (hlen : words size ≤ b.data.length) : ∃ b',
    b.resize size h v = .ok b' ∧ Plain b' ∧ b'.size = size ∧ ∀ i < size, b'.bit i = b.bit i := by
  refine ⟨⟨b.isCompress, size, h, b.data.take (words size)⟩, ?_, ⟨hb.isCompress_eq, ?_⟩, rfl,
    fun i hi => ?_⟩
  · rw [resize, if_neg (by simp [hb.isCompress_eq])]
    exact if_neg (by omega)
  · rw [List.length_take, Nat.min_eq_left hlen]
  · have hword := (words_bounds h).2.2 i hi
    rw [bit, bit, bitAt, bitAt, List.getD_eq_getElem?_getD, List.getD_eq_getElem?_getD,
      List.getElem?_take_of_lt hword]

theorem resize_grow (hb : Plain b) (hpos : 0 < b.data.length) (hlen : b.data.length < words size) :
    ∃ b', b.resize size h v = .ok b' ∧ Plain b' ∧ b'.size = size ∧ ∀ i < size, b'.bit i =
      if i / valueSize + 1 < b.data.length then b.bit i
      else if i / valueSize + 1 = b.data.length then
        if i % valueSize < b.size % valueSize then b.bit i || v else b.bit i && v
      else v := by
  have hle := hb.length_le
  have hlast : (b.data.length + (2 ^ 32 - 1)) % 2 ^ 32 = b.data.length - 1 := by omega
  obtain ⟨added, hadded⟩ : ∃ l, List.replicate (words size - b.data.length) (newWord v) = l := ⟨_, rfl⟩
  have hcount : added.length = words size - b.data.length := by rw [← hadded, List.length_replicate]
  have hin : b.data.length - 1 < (b.data ++ added).length := by rw [List.length_append]; omega
  have hw : (b.data ++ added)[b.data.length - 1] = b.data[b.data.length - 1] :=
    List.getElem_append_left (by omega)
  obtain ⟨w, hmasked⟩ : ∃ w, (if v then b.data[b.data.length - 1] ||| mask (b.size % valueSize)
    else b.data[b.data.length - 1] &&& mask (b.size % valueSize)) = w := ⟨_, rfl⟩
  have hbits (i : ℕ) := hmasked ▸ getLsbD_masked b.data[b.data.length - 1] v
    (mod_valueSize_lt b.size) i
  refine ⟨⟨b.isCompress, size, h, (b.data ++ added).set (b.data.length - 1) w⟩, ?_,
    ⟨hb.isCompress_eq, ?_⟩, rfl, fun i hi => ?_⟩
  · rw [resize, if_neg (by simp [hb.isCompress_eq])]
    dsimp only
    rw [hadded, hlast, load_ret hin, hw, if_pos hlen, ok_bind, hmasked, store_ret hin]
    rfl
  · show ((b.data ++ added).set (b.data.length - 1) w).length = words size
    rw [List.length_set, List.length_append]
    omega
  · have hword := (words_bounds h).2.2 i hi
    rw [bit, bit, bitAt, bitAt, List.getD_eq_getElem _ _ (by rw [List.length_set, List.length_append]; omega),
      List.getElem_set]
    rcases lt_trichotomy (i / valueSize + 1) b.data.length with hlt | heq | hgt
    · rw [if_neg (by omega), if_pos hlt, List.getElem_append_left (by omega),
        List.getD_eq_getElem _ _ (by omega)]
    · have hindex : b.data.length - 1 = i / valueSize := by omega
      rw [if_pos hindex, if_neg heq.not_lt, if_pos heq, hbits, List.getD_eq_getElem _ _ (by omega)]
      simp only [hindex]
    · rw [if_neg (by omega), if_neg (by omega), if_neg (by omega), List.getElem_append_right (by omega)]
      simp only [← hadded, List.getElem_replicate]
      exact getLsbD_newWord v (mod_valueSize_lt i)

/-- **There is no last word**: the index `m_dataSize - 1` is outside of the new words. -/
theorem resize_undef (hb : Plain b) (hzero : b.data.length = 0) (hlen : 0 < words size) :
    b.resize size h v = .error .undefined := by
  have hle := (words_bounds h).1
  rw [valueSize] at hle
  rw [resize, if_neg (by simp [hb.isCompress_eq])]
  dsimp only
  rw [if_pos (by omega), load, List.getElem?_eq_none]
  · rfl
  · rw [List.length_append, List.length_replicate]
    omega

/-! ## When the bits are as they should be -/

theorem lt_size_iff {m i : ℕ} (hi : i / valueSize + 1 = words m) :
    i < m ↔ i % valueSize < m % valueSize ∨ m % valueSize = 0 := by
  simp only [words, valueSize] at *
  omega

theorem resizes_iff_bits {b' : Bitmap} (hb : Plain b) (hret : b.resize size h v = .ok b')
    (hb' : Plain b') (hsize : b'.size = size) : Resizes b size h v ↔
      (∀ i < min b.size size, b'.bit i = b.bit i) ∧ ∀ i, b.size ≤ i → i < size → b'.bit i = v := by
  have hold (i : ℕ) (hi : i < min b.size size) : b'.get i = b.get i ↔ b'.bit i = b.bit i := by
    rw [hb.get_ret (by omega), hb'.get_ret (by omega), Except.ok.injEq]
  have hnew (i : ℕ) (hi : i < size) : b'.get i = .ok v ↔ b'.bit i = v := by
    rw [hb'.get_ret (by omega), Except.ok.injEq]
  constructor
  · rintro ⟨b'', hret', -, hkeep, hfill⟩
    obtain rfl : b' = b'' := Except.ok.inj (hret.symm.trans hret')
    exact ⟨fun i hi => (hold i hi).1 (hkeep i hi), fun i hi hlt => (hnew i hlt).1 (hfill i hi hlt)⟩
  · rintro ⟨hkeep, hfill⟩
    exact ⟨b', hret, hsize, fun i hi => (hold i hi).2 (hkeep i hi),
      fun i hi hlt => (hnew i hlt).2 (hfill i hi hlt)⟩

/-- The words that are there are enough. -/
theorem resizes_keep_iff (hb : Plain b) (hlen : words size ≤ words b.size) :
    Resizes b size h v ↔ Resizable b size v := by
  obtain ⟨b', hret, hb', hsize, hbit⟩ := resize_keep (h := h) (v := v) hb (hb.length_eq ▸ hlen)
  rw [resizes_iff_bits hb hret hb' hsize, Resizable]
  constructor
  · rintro ⟨-, hfill⟩
    by_cases hle : size ≤ b.size
    · exact .inl hle
    · refine .inr (.inl ⟨Nat.le_antisymm hlen (words_mono (by omega)), fun i hi hlt => ?_⟩)
      rw [← hfill i hi hlt, hbit i hlt]
  · intro hcond
    refine ⟨fun i hi => hbit i (by omega), fun i hi hlt => ?_⟩
    rw [hbit i hlt]
    rcases hcond with hle | ⟨-, hpad⟩ | ⟨hmore, -⟩
    · omega
    · exact hpad i hi hlt
    · omega

theorem resizable_grow_iff (hpos : 0 < b.size) (hlen : words b.size < words size) :
    Resizable b size v ↔ (v = true ↔ b.size % valueSize = 0) ∨
      ∀ i, i / valueSize + 1 = words b.size → b.bit i = v := by
  refine ⟨fun hcond => ?_, fun hcond => .inr (.inr ⟨hlen, hpos, hcond⟩)⟩
  rcases hcond with hle | ⟨heq, -⟩ | ⟨-, -, hcond⟩
  · exact absurd (words_mono hle) (by omega)
  · omega
  · exact hcond

/-- Words are added to others. -/
theorem resizes_grow_iff (hb : Plain b) (hpos : 0 < b.size) (hlen : words b.size < words size) :
    Resizes b size h v ↔ Resizable b size v := by
  have hwords : 0 < words b.size := Nat.zero_lt_of_lt ((words_bounds b.size_lt).2.2 0 hpos)
  have hin : ∀ i, i / valueSize + 1 ≤ words b.size → i < size := fun i hi => by
    simp only [words, valueSize] at *
    omega
  obtain ⟨b', hret, hb', hsize, hbit⟩ := resize_grow (h := h) (v := v) hb (hb.length_eq ▸ hwords)
    (hb.length_eq ▸ hlen)
  rw [hb.length_eq] at hbit
  have hlast (i : ℕ) (hi : i / valueSize + 1 = words b.size) : b'.bit i =
      if i % valueSize < b.size % valueSize then b.bit i || v else b.bit i && v := by
    rw [hbit i (hin i hi.le), if_neg hi.not_lt, if_pos hi]
  rw [resizes_iff_bits hb hret hb' hsize, resizable_grow_iff hpos hlen]
  constructor
  · rintro ⟨hkeep, hfill⟩
    refine or_iff_not_imp_left.2 fun hmask i hi => ?_
    have hside := lt_size_iff hi
    have hnext := hlast i hi
    by_cases hlt : i < b.size
    · rw [hkeep i (lt_min hlt (hin i hi.le))] at hnext
      grind
    · rw [hfill i (by omega) (hin i hi.le)] at hnext
      grind
  · intro hcond
    refine ⟨fun i hi => ?_, fun i hi hlt => ?_⟩
    · have hword := (words_bounds b.size_lt).2.2 i (by omega)
      by_cases hi' : i / valueSize + 1 = words b.size
      · have hside := lt_size_iff hi'
        rw [hlast i hi']
        grind
      · rw [hbit i (by omega), if_pos (by omega)]
    · by_cases hi' : i / valueSize + 1 = words b.size
      · have hside := lt_size_iff hi'
        rw [hlast i hi']
        grind
      · have hbehind : words b.size ≤ i / valueSize := by
          simp only [words, valueSize] at *
          omega
        rw [hbit i hlt, if_neg (by omega), if_neg hi']

/-- **`resize` keeps the old bits and fills the new ones** exactly if it does not have to look at the
    last word, or the mask is right for it. -/
theorem resizes_iff (hb : Plain b) (h : size < 2 ^ 32) (v : Bool) :
    Resizes b size h v ↔ Resizable b size v := by
  rcases Nat.lt_or_ge (words b.size) (words size) with hlen | hlen
  · rcases Nat.eq_zero_or_pos b.size with hzero | hpos
    · have hempty : words b.size = 0 := by rw [hzero]; rfl
      have hundef := resize_undef (h := h) (v := v) hb (hb.length_eq.trans hempty) (by omega)
      refine iff_of_false ?_ ?_
      · rintro ⟨b', hret, -⟩
        exact nomatch hundef.symm.trans hret
      · rintro (hle | ⟨heq, -⟩ | ⟨-, hpos, -⟩)
        · exact absurd (words_mono hle) (by omega)
        · omega
        · omega
    · exact resizes_grow_iff hb hpos hlen
  · exact resizes_keep_iff hb hlen

end

/-- A bitmap of 28 bits grows by bits that are set. -/
theorem resizes_full : Resizes (new 28 (by decide) 0x00#8) 40 (by decide) true :=
  (resizes_iff ⟨rfl, rfl⟩ (by decide) true).2 (.inr (.inr ⟨by decide, by decide, .inl (by decide)⟩))

/-- **Bits that were not set are set**: the first one of a bitmap of one bit. -/
theorem not_resizes : ¬∀ (b : Bitmap), Plain b → ∀ size (h : size < 2 ^ 32) v, Resizes b size h v := by
  intro hall
  have hresizes := hall (new 1 (by decide) 0x00#8) ⟨rfl, rfl⟩ 15 (by decide) true
  rcases (resizes_grow_iff ⟨rfl, rfl⟩ (by decide) (by decide)).1 hresizes with hle | ⟨heq, -⟩ | ⟨-, -, hmask⟩
  · exact absurd hle (by decide)
  · exact absurd heq (by decide)
  · rcases hmask with hmask | hword
    · exact absurd (hmask.1 rfl) (by decide)
    · exact absurd (hword 0 (by decide)) (by decide)

end Ancfl.Bitmap
