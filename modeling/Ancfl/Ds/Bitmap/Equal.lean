/-
  `operator==` of plain bitmaps.

  * `eq`: all words are compared, and then the last ones once more, below the size;
  * `eq_ret`: so the answer is whether all words are the same;
  * `equates_iff`: when it is whether the bits below the size are the same;
    `equates_tidy_iff`: for bitmaps whose bits outside are all the same.
-/
import Ancfl.Ds.Bitmap.Measure

namespace Ancfl.Bitmap

/-- `operator==`; on one object it is true at once, as it is here (`eq_self`). -/
def eq (a b : Bitmap) : Result Bool := do
  if a.isCompress ≠ b.isCompress ∨ a.size ≠ b.size ∨ a.data.length ≠ b.data.length then return false
  -- `memcmp`
  if a.data ≠ b.data then return false
  let left := a.size % valueSize
  if left ≠ 0 then
    let w ← load a.data (a.data.length - 1)
    let w' ← load b.data (b.data.length - 1)
    return w &&& mask left = w' &&& mask left
  return true

/-- The answer is whether the bits below the size are the same. -/
def Equates (a b : Bitmap) : Prop :=
  ∃ e, a.eq b = .ok e ∧ (e = true ↔ ∀ i < a.size, a.get i = b.get i)

/-- The bits that no index below the size denotes are the same. -/
def OutsideAgree (a b : Bitmap) : Prop :=
  ∀ p < a.data.length, ∀ i < 16, valueSize ≤ i ∨ a.size ≤ valueSize * p + i →
    (a.data.getD p 0).getLsbD i = (b.data.getD p 0).getLsbD i

section
variable {a b : Bitmap}

theorem eq_ret (ha : Plain a) (hb : Plain b) (hs : a.size = b.size) :
    a.eq b = .ok (decide (a.data = b.data)) := by
  have hlen : a.data.length = b.data.length := by rw [ha.length_eq, hb.length_eq, hs]
  rw [eq, if_neg (by simp [ha.isCompress_eq, hb.isCompress_eq, hs, hlen])]
  by_cases hdata : a.data = b.data
  · have hpos : a.size % valueSize ≠ 0 → a.data.length - 1 < a.data.length := fun hleft => by
      rw [ha.length_eq]
      simp only [words, valueSize] at *
      omega
    rw [if_neg (not_not.2 hdata), decide_eq_true hdata]
    by_cases hleft : a.size % valueSize ≠ 0
    · dsimp only
      rw [if_pos hleft, ← hdata, load_ret (hpos hleft), ok_bind, ok_bind]
      exact congrArg Except.ok (decide_eq_true rfl)
    · exact if_neg hleft
  · rw [if_pos hdata, decide_eq_false hdata]
    rfl

theorem data_eq_iff (ha : Plain a) (hb : Plain b) (hs : a.size = b.size) :
    a.data = b.data ↔ (∀ i < a.size, a.bit i = b.bit i) ∧ OutsideAgree a b := by
  have hlen : a.data.length = b.data.length := by rw [ha.length_eq, hb.length_eq, hs]
  constructor
  · intro h
    refine ⟨fun i _ => ?_, fun p _ i _ _ => by rw [h]⟩
    rw [bit, bit, h]
  · rintro ⟨hin, hout⟩
    refine List.ext_getElem hlen fun p hp hp' => BitVec.eq_of_getLsbD_eq fun i hi => ?_
    by_cases hval : valueSize ≤ i ∨ a.size ≤ valueSize * p + i
    · have hword := hout p hp i hi hval
      rwa [List.getD_eq_getElem _ _ hp, List.getD_eq_getElem _ _ hp'] at hword
    · rw [not_or, not_le, not_le] at hval
      have hbit := hin (valueSize * p + i) hval.2
      rwa [bit, bit, bitAt_mul_add _ hval.1, bitAt_mul_add _ hval.1, List.getD_eq_getElem _ _ hp,
        List.getD_eq_getElem _ _ hp'] at hbit

theorem equates_plain_iff (ha : Plain a) (hb : Plain b) (hs : a.size = b.size) :
    Equates a b ↔ (∃ i < a.size, a.bit i ≠ b.bit i) ∨ OutsideAgree a b := by
  have hget (i : ℕ) (hi : i < a.size) : a.get i = b.get i ↔ a.bit i = b.bit i := by
    rw [ha.get_ret hi, hb.get_ret (hs ▸ hi), Except.ok.injEq]
  have hbits : (∀ i < a.size, a.get i = b.get i) ↔ ∀ i < a.size, a.bit i = b.bit i :=
    forall₂_congr hget
  have hequates : Equates a b ↔ (a.data = b.data ↔ ∀ i < a.size, a.bit i = b.bit i) := by
    rw [Equates, eq_ret ha hb hs, hbits]
    constructor
    · rintro ⟨e, he, hiff⟩
      rw [← hiff, ← Except.ok.inj he, decide_eq_true_iff]
    · exact fun hiff => ⟨_, rfl, decide_eq_true_iff.trans hiff⟩
  rw [hequates, data_eq_iff ha hb hs]
  by_cases hsame : ∀ i < a.size, a.bit i = b.bit i
  · have hnone : ¬∃ i < a.size, a.bit i ≠ b.bit i := fun ⟨i, hi, hne⟩ => hne (hsame i hi)
    rw [and_iff_right hsame, iff_true_right hsame, or_iff_right hnone]
  · have hsome : ∃ i < a.size, a.bit i ≠ b.bit i := by
      by_contra hnone
      exact hsame fun i hi => not_not.1 fun hne => hnone ⟨i, hi, hne⟩
    exact iff_of_true (iff_of_false (fun h => hsame h.1) hsame) (.inl hsome)

/-- **Equality is that of the bits below the size** exactly if one of these differs, or the bits
    outside are the same. -/
theorem equates_iff (ha : Built a) (hb : Built b) (hs : a.size = b.size) :
    Equates a b ↔ (∃ i < a.size, a.bit i ≠ b.bit i) ∨ OutsideAgree a b :=
  equates_plain_iff ha.plain hb.plain hs

/-- An `0xFF` bitmap of three bits, and a copy of it with a bit cleared. -/
theorem equates_three : Equates (new 3 (by decide) 0xFF#8) ⟨false, 3, by decide, [0xFFFB#16]⟩ := by
  have hnew : Built (new 3 (by decide) 0xFF#8) := .new 3 (by decide) (.inr rfl)
  have hset : Built ⟨false, 3, by decide, [0xFFFB#16]⟩ :=
    .set hnew trivial (rfl : (new 3 _ 0xFF#8).set 2 false = _)
  exact (equates_iff hnew hset rfl).2 (.inl ⟨2, by decide, by decide⟩)

/-- **One bit, which is set in both**: the other bits of their words differ. -/
theorem not_equates : ¬∀ a b : Bitmap, Built a → Built b → a.size = b.size → Equates a b := by
  intro h
  have hones : Built (new 1 (by decide) 0xFF#8) := .new 1 (by decide) (.inr rfl)
  have hset : Built ⟨false, 1, by decide, [0x0001#16]⟩ :=
    .set (.new 1 (by decide) (.inl rfl)) trivial (rfl : (new 1 _ 0x00#8).set 0 true = _)
  rcases (equates_plain_iff hones.plain hset.plain rfl).1 (h _ _ hones hset rfl) with ⟨i, hi, hne⟩ | hout
  · obtain rfl : i = 0 := Nat.lt_one_iff.1 hi
    exact hne (by decide)
  · exact absurd (hout 0 (by decide) 1 (by decide) (.inr (by decide))) (by decide)

/-- The bits outside are `f` in the one and `g` in the other. -/
theorem equates_tidy_iff {f g : Bool} (ha : Plain a) (hb : Plain b) (hs : a.size = b.size)
    (hf : Tidy f a) (hg : Tidy g b) : Equates a b ↔
      (∃ i < a.size, a.bit i ≠ b.bit i) ∨ f = g ∨ a.size = 0 := by
  have hlen : a.data.length = b.data.length := by rw [ha.length_eq, hb.length_eq, hs]
  rw [equates_plain_iff ha hb hs]
  refine or_congr_right ⟨fun hout => ?_, fun h p hp i hi hval => ?_⟩
  · refine or_iff_not_imp_right.2 fun hpos => ?_
    have hp : 0 < a.data.length := by
      rw [ha.length_eq]
      exact Nat.zero_lt_of_lt ((words_bounds a.size_lt).2.2 0 (Nat.pos_of_ne_zero hpos))
    have hword := hout 0 hp 14 (by decide) (.inl (Nat.le_refl 14))
    rwa [List.getD_eq_getElem _ _ hp, List.getD_eq_getElem _ _ (hlen ▸ hp),
      hf 0 hp 14 (by decide) (.inl (Nat.le_refl 14)),
      hg 0 (hlen ▸ hp) 14 (by decide) (.inl (Nat.le_refl 14))] at hword
  · rcases h with rfl | hzero
    · rw [List.getD_eq_getElem _ _ hp, List.getD_eq_getElem _ _ (hlen ▸ hp), hf p hp i hi hval,
        hg p (hlen ▸ hp) i hi (hs ▸ hval)]
    · rw [ha.length_eq, hzero] at hp
      exact absurd hp (Nat.not_lt_zero p)

end

end Ancfl.Bitmap
