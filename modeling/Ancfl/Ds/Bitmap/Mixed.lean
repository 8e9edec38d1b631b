/-
  Operations with a compressed operand against those with the plain one.

  * `MixedAnd`, `MixedOr`, `MixedNot`, `MixedCross`: the operation with
    `compress(b)` and the one with `b` give the same bits below the size;
  * `compressCross_ret`, `normalCross_ret`: the two `cross` look at the value
    bits, and at all bits, of all words;
  * `exact_of_mixedNot`: complementing alone forces that no word of `b` that is
    kept has the run bit;
  * `mixed_of_exact`, `exact_of_mixed`: the operations agree if, and for `set`
    below the size only if, this holds and the bitmaps meet below the size or
    nowhere.
-/
import Ancfl.Ds.Bitmap.Uncompress

namespace Ancfl.Bitmap

open Lib

/-! ## The claims -/

section
variable (a b : Bitmap)

/-- `a &= compress(b)` and `a &= b` are the conjunction of the bits. -/
def MixedAnd : Prop := ∃ c x y, b.compress = .ok c ∧ a.andAssign c = .ok x ∧ a.andAssign b = .ok y ∧
  ∀ i < a.size, x.get i = .ok (a.bit i && b.bit i) ∧ y.get i = .ok (a.bit i && b.bit i)

/-- `a |= compress(b)` and `a |= b` are the disjunction of the bits. -/
def MixedOr : Prop := ∃ c x y, b.compress = .ok c ∧ a.orAssign c = .ok x ∧ a.orAssign b = .ok y ∧
  ∀ i < a.size, x.get i = .ok (a.bit i || b.bit i) ∧ y.get i = .ok (a.bit i || b.bit i)

/-- `compress(b)`, complemented and uncompressed, has the negated bits. -/
def MixedNot : Prop := ∃ c x y, b.compress = .ok c ∧ c.complement = .ok x ∧ x.uncompress = .ok y ∧
  ∀ i < b.size, y.get i = .ok (!b.bit i)

/-- Some bit below the size is set in both. -/
def Meets : Prop := ∃ i < a.size, a.bit i = true ∧ b.bit i = true

/-- `a.cross(compress(b))` and `a.cross(b)` tell whether the bitmaps meet. -/
def MixedCross : Prop := ∃ c r, b.compress = .ok c ∧ a.cross c = .ok r ∧ a.cross b = .ok r ∧
  (r = true ↔ Meets a b)

/-- All mixed operations agree with the plain ones. -/
def MixedAgree : Prop := MixedAnd a b ∧ MixedOr a b ∧ MixedNot b ∧ MixedCross a b

/-- The runs of `b` do not overflow, no word of it that is kept has the run bit, and the bitmaps
    meet below the size or have no bit in common, the bits outside the size included. -/
def MixedExact : Prop := ¬Overflows b ∧
  ((∀ w ∈ b.data, isRun w = false) ∨ ∀ w ∈ b.data, ¬Partial w) ∧
  (Meets a b ∨ ∀ p, a.data.getD p 0 &&& b.data.getD p 0 = 0)

end

/-! ## Conjunction and disjunction -/

/-- The loop over the segments of `b` combines the value bits of all words. -/
theorem Acts.walk_all {g : Word → Word → Word}
    {f : ℕ → Item → List Word → Result (ForInStep (List Word))} (hf : Acts g f) {a b : Bitmap}
    (ha : Plain a) (hb : Plain b) (hs : a.size = b.size) {segs : List Seg}
    (hsegs : Segments b.data segs) (hok : ∀ s ∈ segs, s.Ok) (hover : ¬Overflows b) :
    ∃ d, walk f 0 a.data (segs.flatMap Seg.code) = .ok d ∧ d.length = words a.size ∧
      ∀ j < words a.size, bits (d.getD j 0) = g (bits (a.data.getD j 0)) (bits (b.data.getD j 0)) := by
  have hlen : (segs.flatMap Seg.words).length = words a.size := by
    rw [hsegs.length_eq, hb.length_eq, hs]
  obtain ⟨d, hd, hwalk⟩ := hf.walk_segs (W := segs.flatMap Seg.words) hok hsegs.chain
    (fun _ _ w hw => absurd hw (List.not_mem_nil (a := w) ∘ List.mem_of_mem_head?)) (p := 0) (d := a.data)
    (by rw [ha.length_eq, hlen, Nat.zero_add])
    (by rw [ha.length_eq]; exact (words_bounds a.size_lt).1)
    (by rw [Nat.zero_add, hsegs.length_eq]; exact hsegs.long_bound hover)
    (fun i hi => by rw [Nat.zero_add, List.getD_eq_getElem _ _ hi])
  rw [List.append_nil, walk] at hwalk
  have hdlen : d.length = words a.size := by
    have := congrArg List.length hd
    rwa [List.length_map, length_updateOn, List.length_map, ha.length_eq] at this
  refine ⟨d, hwalk, hdlen, fun j hj => ?_⟩
  have haj : j < a.data.length := by rw [ha.length_eq]; exact hj
  have hget := congrArg (fun l => l.getD j 0) hd
  simp only [getD_map_bits] at hget
  rw [hget, List.getD_eq_getElem?_getD, getElem?_updateOn, List.getElem?_map,
    List.getElem?_eq_getElem haj, hlen]
  simp only [Option.map_some, Option.getD_some]
  rw [if_pos (by omega), hsegs.words_eq, getD_map_bits,
    show a.data.getD j 0 = a.data[j] from List.getD_eq_getElem _ _ haj]

theorem bitAt_eq_bits (d : List Word) (i : ℕ) :
    bitAt d i = (bits (d.getD (i / valueSize) 0)).getLsbD (i % valueSize) := by
  have h14 : i % valueSize < 14 := Nat.mod_lt _ (by decide)
  rw [bitAt, getLsbD_bits, decide_eq_true h14, Bool.true_and]

section
variable {a b : Bitmap} {segs : List Seg}

theorem get_words {size : ℕ} {h : size < 2 ^ 32} {d : List Word} (hd : d.length = words size) {i : ℕ}
    (hi : i < size) : (⟨false, size, h, d⟩ : Bitmap).get i = .ok (bitAt d i) :=
  get_ret (b := ⟨false, size, h, d⟩) (by rw [hd]; exact (words_bounds h).2.2 i hi)

theorem zipWith_bits {op : Word → Word → Word} (ha : Plain a) (hb : Plain b) (hs : a.size = b.size)
    {i : ℕ} (hi : i < a.size) : bitAt (List.zipWith op a.data b.data) i =
      (op (a.data.getD (i / valueSize) 0) (b.data.getD (i / valueSize) 0)).getLsbD (i % valueSize) := by
  have hj := (words_bounds a.size_lt).2.2 i hi
  have haj : i / valueSize < a.data.length := by rw [ha.length_eq]; exact hj
  have hbj : i / valueSize < b.data.length := by rw [hb.length_eq, ← hs]; exact hj
  rw [bitAt, List.getD_eq_getElem _ _ (by rw [List.length_zipWith]; omega), List.getElem_zipWith,
    List.getD_eq_getElem _ _ haj, List.getD_eq_getElem _ _ hbj]

theorem length_zipWith_words {op : Word → Word → Word} (ha : Plain a) (hb : Plain b)
    (hs : a.size = b.size) : (List.zipWith op a.data b.data).length = words a.size := by
  rw [List.length_zipWith, ha.length_eq, hb.length_eq, hs, Nat.min_self]

theorem mixedAnd_of_ok (ha : Plain a) (hb : Plain b) (hs : a.size = b.size) (hsegs : Segments b.data segs)
    (hc : b.compress = .ok ⟨true, b.size, b.size_lt, segs.flatMap Seg.code⟩)
    (hok : ∀ s ∈ segs, s.Ok) (hover : ¬Overflows b) : MixedAnd a b := by
  obtain ⟨d, hwalk, hlen, hbits⟩ := andItem_acts.walk_all ha hb hs hsegs hok hover
  refine ⟨_, ⟨false, a.size, a.size_lt, d⟩, _, hc, ?_, andAssign_ret ha hb hs, fun i hi => ⟨?_, ?_⟩⟩
  · rw [andAssign, if_neg (by simpa using hs), ha.isCompress_eq]
    show ((walk andItem 0 a.data (segs.flatMap Seg.code) >>= _) : Result Bitmap) = _
    rw [hwalk, ← ha.isCompress_eq]
    rfl
  · rw [get_words hlen hi, bitAt_eq_bits, hbits _ ((words_bounds a.size_lt).2.2 i hi), BitVec.getLsbD_and,
      ← bitAt_eq_bits, ← bitAt_eq_bits, bit, bit]
  · rw [get_words (length_zipWith_words ha hb hs) hi, zipWith_bits ha hb hs hi, BitVec.getLsbD_and]
    rfl

theorem mixedOr_of_ok (ha : Plain a) (hb : Plain b) (hs : a.size = b.size) (hsegs : Segments b.data segs)
    (hc : b.compress = .ok ⟨true, b.size, b.size_lt, segs.flatMap Seg.code⟩)
    (hok : ∀ s ∈ segs, s.Ok) (hover : ¬Overflows b) : MixedOr a b := by
  obtain ⟨d, hwalk, hlen, hbits⟩ := orItem_acts.walk_all ha hb hs hsegs hok hover
  refine ⟨_, ⟨false, a.size, a.size_lt, d⟩, _, hc, ?_, orAssign_ret ha hb hs, fun i hi => ⟨?_, ?_⟩⟩
  · rw [orAssign, if_neg (by simpa using hs), ha.isCompress_eq]
    show ((walk orItem 0 a.data (segs.flatMap Seg.code) >>= _) : Result Bitmap) = _
    rw [hwalk, ← ha.isCompress_eq]
    rfl
  · rw [get_words hlen hi, bitAt_eq_bits, hbits _ ((words_bounds a.size_lt).2.2 i hi), BitVec.getLsbD_or,
      ← bitAt_eq_bits, ← bitAt_eq_bits, bit, bit]
  · rw [get_words (length_zipWith_words ha hb hs) hi, zipWith_bits ha hb hs hi, BitVec.getLsbD_or]
    rfl

end

/-! ## Complement -/

/-- What `~` makes of a word of a compressed bitmap. -/
def complWord (cur : Word) : Word :=
  if cur &&& compressMask ≠ 0 then
    if cur &&& valueMask ≠ 0 then cur &&& notValueMask else cur ||| valueMask
  else ~~~cur &&& countMask

/-- The complement of a segment. -/
def Seg.compl : Seg → Seg
  | run v k => run (!v) k
  | lit w => lit (bits (~~~w))

theorem complWord_run {w : Word} (h : isRun w = true) : isRun (complWord w) = true ∧
    runValue (complWord w) = !runValue w ∧ bits (complWord w) = bits w := by
  have hrun : w &&& compressMask ≠ 0 := by simpa [isRun] using h
  rw [isRun_eq] at h
  rw [complWord, if_pos hrun, isRun_eq, runValue_eq, runValue_eq]
  cases hv : w.getLsbD 14 with
  | false =>
    have hval : ¬w &&& valueMask ≠ 0 := by
      rw [show valueMask = pos 14 from rfl, and_pos_ne_zero (by decide), hv]; decide
    rw [if_neg hval]
    refine ⟨by rw [BitVec.getLsbD_or, h]; rfl, by rw [BitVec.getLsbD_or, hv]; rfl, ?_⟩
    rw [bits_or, show bits valueMask = 0#16 from rfl, BitVec.or_zero]
  | true =>
    have hval : w &&& valueMask ≠ 0 := by
      rw [show valueMask = pos 14 from rfl, and_pos_ne_zero (by decide), hv]
    rw [if_pos hval]
    refine ⟨by rw [BitVec.getLsbD_and, h]; rfl, by rw [BitVec.getLsbD_and, hv]; rfl, ?_⟩
    rw [bits_and, show bits notValueMask = fillWord true from rfl]
    refine BitVec.eq_of_getLsbD_eq fun i _ => ?_
    rw [BitVec.getLsbD_and, getLsbD_bits, getLsbD_fillWord]
    cases decide (i < 14) <;> simp

theorem complWord_word {w : Word} (h : isRun w = false) : complWord w = bits (~~~w) := by
  rw [complWord, if_neg (by simpa [isRun] using h)]
  rfl

theorem word_ext {w w' : Word} (hbits : bits w = bits w') (hrun : isRun w = isRun w')
    (hvalue : runValue w = runValue w') : w = w' := by
  refine BitVec.eq_of_getLsbD_eq fun i hi => ?_
  rw [isRun_eq, isRun_eq] at hrun
  rw [runValue_eq, runValue_eq] at hvalue
  rcases Nat.lt_or_ge i 14 with h14 | h14
  · exact getLsbD_of_bits hbits h14
  · obtain rfl | rfl : i = 14 ∨ i = 15 := by omega
    · exact hvalue
    · exact hrun

theorem bits_not_bits (w : Word) : bits (~~~bits w) = bits (~~~w) := by
  refine bits_ext fun i hi => ?_
  rw [BitVec.getLsbD_not, BitVec.getLsbD_not, getLsbD_bits]
  simp [hi]

theorem bits_not_fillWord (v : Bool) : bits (~~~fillWord v) = fillWord (!v) := by
  cases v <;> rfl

theorem complWord_mark (v : Bool) (d : Word) : complWord (mark v (bits d)) = mark (!v) (bits d) := by
  obtain ⟨hrun, hvalue, hbits⟩ := complWord_run (isRun_mark v (bits d))
  refine word_ext ?_ ?_ ?_
  · rw [hbits, bits_mark, bits_mark]
  · rw [hrun, isRun_mark]
  · rw [hvalue, runValue_mark, runValue_mark]

theorem map_complWord_runWords (v : Bool) (n : ℕ) :
    (runWords v n).map complWord = runWords (!v) n := by
  induction n using Nat.strong_induction_on with
  | _ n ih =>
    by_cases hn : n = 0
    · rw [hn, runWords_zero, runWords_zero]; rfl
    · rw [runWords_pos v hn, runWords_pos _ hn, List.map_cons, complWord_mark,
        ih _ (Nat.div_lt_self (Nat.pos_of_ne_zero hn) (by decide))]

theorem Seg.code_compl {s : Seg} (hs : s.Ok) : s.code.map complWord = s.compl.code := by
  cases s with
  | lit w => exact congrArg (· :: []) (complWord_word hs)
  | run v k =>
    show (if 1 < k then _ else _ : List Word).map complWord = (if 1 < k then _ else _)
    split_ifs
    · exact map_complWord_runWords v _
    · rw [List.map_singleton, complWord_word (isRun_fillWord v), bits_not_fillWord]

theorem Seg.words_compl (s : Seg) : s.compl.words = s.words.map fun x => bits (~~~x) := by
  cases s with
  | lit w => simp [compl, words, bits_not_bits]
  | run v k => simp [compl, words, bits_not_fillWord]

theorem Seg.ok_compl {s : Seg} (hs : s.Ok) : s.compl.Ok := by
  cases s with
  | lit w => exact (isRun_eq _).trans (by rw [getLsbD_bits]; rfl)
  | run v k => exact hs

theorem flatMap_code_compl {segs : List Seg} (hok : ∀ s ∈ segs, s.Ok) :
    (segs.flatMap Seg.code).map complWord = (segs.map Seg.compl).flatMap Seg.code := by
  induction segs with
  | nil => rfl
  | cons s segs ih =>
    rw [List.flatMap_cons, List.map_append, Seg.code_compl (hok s (by simp)),
      ih fun t ht => hok t (by simp [ht])]
    rfl

theorem flatMap_words_compl (segs : List Seg) : (segs.map Seg.compl).flatMap Seg.words =
    (segs.flatMap Seg.words).map fun x => bits (~~~x) := by
  induction segs with
  | nil => rfl
  | cons s segs ih =>
    rw [List.map_cons, List.flatMap_cons, Seg.words_compl, ih, List.flatMap_cons, List.map_append]

theorem chain_compl {segs : List Seg} (h : segs.IsChain Seg.Differs) :
    (segs.map Seg.compl).IsChain Seg.Differs := by
  refine List.isChain_map_of_isChain _ (fun s t hd => ?_) h
  cases s <;> cases t <;> simp_all [Seg.Differs, Seg.compl]

section
variable {b : Bitmap} {segs : List Seg}

/-- Complementing is a matter of the loop of `uncompress`. -/
theorem mixedNot_iff (hc : b.compress = .ok ⟨true, b.size, b.size_lt, segs.flatMap Seg.code⟩) :
    MixedNot b ↔ ∃ d, walk uncompressItem 0 (zeros (words b.size))
      ((segs.flatMap Seg.code).map complWord) = .ok d ∧ ∀ i < b.size, bitAt d i = !b.bit i := by
  rw [← uncompress_iff (h := b.size_lt)]
  constructor
  · rintro ⟨c, x, y, hcd, hx, hy, hsame⟩
    obtain rfl := Except.ok.inj (hc.symm.trans hcd)
    obtain rfl := Except.ok.inj (hx.symm.trans rfl)
    exact ⟨y, hy, hsame⟩
  · rintro ⟨y, hy, hsame⟩
    exact ⟨_, _, y, hc, rfl, hy, hsame⟩

theorem bitAt_compl {d : List Word} (hb : Plain b) (hd : d.map bits = (b.data.map bits).map fun x => bits (~~~x))
    {i : ℕ} (hi : i < b.size) : bitAt d i = !b.bit i := by
  have hj : i / valueSize < b.data.length := by
    rw [hb.length_eq]; exact (words_bounds b.size_lt).2.2 i hi
  have h14 : i % valueSize < 14 := Nat.mod_lt _ (by decide)
  have hget := congrArg (fun l => l.getD (i / valueSize) 0) hd
  simp only [getD_map_bits] at hget
  rw [bitAt_eq_bits, hget, bit, bitAt, List.getD_eq_getElem _ _ (by simpa using hj),
    List.getD_eq_getElem _ _ hj, List.getElem_map, List.getElem_map, bits_not_bits, getLsbD_bits,
    BitVec.getLsbD_not]
  simp [h14, mod_valueSize_lt i]

theorem mem_compl_ok (hok : ∀ s ∈ segs, s.Ok) : ∀ s ∈ segs.map Seg.compl, s.Ok := by
  intro s hs
  obtain ⟨t, ht, rfl⟩ := List.mem_map.1 hs
  exact Seg.ok_compl (hok t ht)

theorem length_words_compl (segs : List Seg) :
    ((segs.map Seg.compl).flatMap Seg.words).length = (segs.flatMap Seg.words).length := by
  rw [flatMap_words_compl, List.length_map]

theorem mixedNot_of_ok (hb : Plain b) (hsegs : Segments b.data segs)
    (hc : b.compress = .ok ⟨true, b.size, b.size_lt, segs.flatMap Seg.code⟩)
    (hok : ∀ s ∈ segs, s.Ok) (hover : ¬Overflows b) : MixedNot b := by
  have hlen : ((segs.map Seg.compl).flatMap Seg.words).length = words b.size := by
    rw [length_words_compl, hsegs.length_eq, hb.length_eq]
  obtain ⟨d, hd, hwalk⟩ := unpack_segs (words_bounds b.size_lt).1 [] (mem_compl_ok hok)
    (chain_compl hsegs.chain) (by simp) hlen.le
    (fun s hs hlong => by
      rw [List.getLast?_map, Option.mem_def, Option.map_eq_some_iff] at hs
      obtain ⟨t, ht, rfl⟩ := hs
      rw [length_words_compl, hsegs.length_eq]
      exact hsegs.long_bound hover t ht (by cases t <;> exact hlong))
  rw [List.append_nil, walk] at hwalk
  rw [hlen, Nat.sub_self, flatMap_words_compl, hsegs.words_eq] at hd
  refine (mixedNot_iff hc).2 ⟨d, by rw [flatMap_code_compl hok]; exact hwalk, fun i hi => ?_⟩
  exact bitAt_compl hb (hd.trans (List.append_nil _)) hi

theorem not_overflows_of_mixedNot (hb : Plain b) (hsegs : Segments b.data segs)
    (hc : b.compress = .ok ⟨true, b.size, b.size_lt, segs.flatMap Seg.code⟩)
    (hok : ∀ s ∈ segs, s.Ok) (h : MixedNot b) : ¬Overflows b := by
  rintro ⟨h32, init, v, hend⟩
  obtain ⟨d, hwalk, -⟩ := (mixedNot_iff hc).1 h
  obtain ⟨segs₁, k, rfl, hk⟩ := last_long hsegs.segs_of hsegs.chain (hsegs.words_eq.trans hend)
  have hlen := hsegs.length_eq.trans hb.length_eq
  rw [← length_words_compl, List.map_append, List.map_singleton] at hlen
  have hok' := mem_compl_ok hok
  have hchain := chain_compl hsegs.chain
  rw [List.map_append, List.map_singleton] at hok' hchain
  rw [flatMap_code_compl hok, List.map_append, List.map_singleton] at hwalk
  exact unpack_overflow (words_bounds b.size_lt).1 (hb.length_eq ▸ h32) hk hok' hchain hlen d hwalk

/-! ### A last word that is taken for digits -/

theorem bitAt_map_not {d : List Word} {i : ℕ} (hi : i / valueSize < d.length) :
    bitAt (d.map fun x => ~~~x) i = !bitAt d i := by
  have hmod := mod_valueSize_lt i
  rw [bitAt, bitAt, List.getD_eq_getElem _ _ (by simpa using hi), List.getElem_map,
    List.getD_eq_getElem _ _ hi, BitVec.getLsbD_not, decide_eq_true hmod, Bool.true_and]

theorem partial_not {w : Word} (h : Partial w) : Partial (~~~w) := by
  intro v hv
  have hw := bits_not_bits (~~~w)
  rw [hv, bits_not_fillWord, BitVec.not_not] at hw
  exact h (!v) hw.symm

/-- Complementing keeps runs, and full and empty words. -/
theorem complWord_runs {w : Word} (h : isRun w = true ∨ ∃ v, bits w = fillWord v) :
    isRun (complWord w) = true ∨ ∃ v, bits (complWord w) = fillWord v := by
  cases hrun : isRun w with
  | true => exact .inl (complWord_run hrun).1
  | false =>
    obtain ⟨v, hv⟩ := h.resolve_left (by simp [hrun])
    refine .inr ⟨!v, ?_⟩
    rw [complWord_word hrun, bits_bits, ← bits_not_bits, hv, bits_not_fillWord]

/-- With the run bit in all words, only the last word may be neither full nor empty. -/
theorem partial_last_compl (hb : Plain b) (hsegs : Segments b.data segs)
    (hc : b.compress = .ok ⟨true, b.size, b.size_lt, segs.flatMap Seg.code⟩)
    (hflag : ∀ w ∈ b.data, isRun w = true) (h : MixedNot b) {init t : List Word} {w : Word}
    (hdata : b.data = init ++ w :: t) (hw : Partial w) : t = [] := by
  obtain ⟨d, hwalk, hsame⟩ := (mixedNot_iff hc).1 h
  have hruns : ∀ x ∈ (segs.flatMap Seg.code).map complWord,
      isRun x = true ∨ ∃ v, bits x = fillWord v := by
    intro x hx
    obtain ⟨y, hy, rfl⟩ := List.mem_map.1 hx
    exact complWord_runs (hsegs.code_runs hflag y hy)
  have hsame' : ∀ i < b.size, bitAt d i = bitAt (b.data.map fun x => ~~~x) i := by
    intro i hi
    rw [hsame i hi, bitAt_map_not (by rw [hb.length_eq]; exact (words_bounds b.size_lt).2.2 i hi)]
    rfl
  have hdata' : (b.data.map fun x => ~~~x) = (init.map fun x => ~~~x) ++ ~~~w :: t.map fun x => ~~~x := by
    rw [hdata, List.map_append, List.map_cons]
  have hlast := partial_last b.size_lt (fill_of_runs hruns hwalk) hsame'
    (by rw [List.length_map]; exact hb.length_eq) hdata' (partial_not hw)
  exact List.map_eq_nil_iff.1 hlast

/-- Words that are taken for runs of zeros leave an empty word empty. -/
theorem zero_kept {ws : List Word} (hws : ∀ w ∈ ws, isRun w = true ∧ runValue w = false) {p curPos : ℕ}
    {d d' : List Word} (hd : bits (d.getD p 0) = 0) (h : walk uncompressItem curPos d ws = .ok d') :
    bits (d'.getD p 0) = 0 := by
  refine uncompress_kept (I := fun d => bits (d.getD p 0) = 0) (fun w hw _ d i hd => ?_)
    (fun w hw hnot => ?_) hd h
  · rw [(hws w hw).2, List.getD_eq_getElem?_getD, List.getElem?_set]
    split_ifs
    · rfl
    · rfl
    · rw [← List.getD_eq_getElem?_getD]; exact hd
  · rw [(hws w hw).1] at hnot
    cases hnot

/-- The words of the complement from the last run of ones on are taken for a run of zeros. -/
theorem LastTaken.split_compl {init : List Word} {w : Word} (h : LastTaken b init w)
    (hinit : Segments init segs) : ∃ (segs₁ : List Seg) (rest : List Word), (∀ s ∈ segs₁, s ∈ segs) ∧ segs₁.IsChain Seg.Differs ∧
      (segs₁.flatMap Seg.words).length ≤ init.length ∧
      ((segs ++ [Seg.lit w]).flatMap Seg.code).map complWord =
        (segs₁.flatMap Seg.code).map complWord ++ rest ∧
      (∀ x ∈ rest, isRun x = true ∧ runValue x = false) ∧
      ∀ s ∈ (segs₁.map Seg.compl).getLast?, ∀ x ∈ rest.head?, ¬s.Joins x := by
  obtain ⟨hrun, hvalue, -⟩ := complWord_run h.last_run
  rw [h.last_value] at hvalue
  rcases trailing_cases hinit.segs_of hinit.chain with ⟨segs₁, k, rfl, hk, -⟩ | ⟨-, hjoin⟩
  · obtain ⟨hchain, -, hlast⟩ := List.isChain_append.1 hinit.chain
    have hcode : (Seg.run true k).code.map complWord = runWords false (valueSize * k) := by
      rw [show (Seg.run true k).code = runWords true (valueSize * k) from if_pos hk,
        map_complWord_runWords]
      rfl
    refine ⟨segs₁, runWords false (valueSize * k) ++ [complWord w], fun s hs => by simp [hs], hchain, ?_, ?_,
      fun x hx => ?_, fun s hs x hx => ?_⟩
    · rw [← hinit.length_eq, List.flatMap_append, List.length_append]
      exact Nat.le_add_right _ _
    · rw [List.flatMap_append, List.flatMap_append, List.flatMap_singleton, List.flatMap_singleton,
        List.map_append, List.map_append, hcode, List.append_assoc]
      rfl
    · rcases List.mem_append.1 hx with hx | hx
      · obtain ⟨y, rfl⟩ := mem_runWords hx
        exact ⟨isRun_mark false _, runValue_mark false y⟩
      · rw [List.mem_singleton.1 hx]
        exact ⟨hrun, hvalue⟩
    · rw [List.getLast?_map, Option.mem_def, Option.map_eq_some_iff] at hs
      obtain ⟨t, ht, rfl⟩ := hs
      rw [runWords_pos false (by rw [valueSize]; omega), List.cons_append] at hx
      obtain rfl : mark false _ = x := by simpa using hx
      cases t with
      | lit y => exact id
      | run v k' =>
        rintro ⟨-, hsame⟩
        have hv : v ≠ true := hlast (.run v k') ht (.run true k) (by simp)
        cases v
        · simp [sameRun, runValue_mark] at hsame
        · exact hv rfl
  · refine ⟨segs, [complWord w], fun s hs => hs, hinit.chain, hinit.length_eq.le, ?_, fun x hx => ?_,
      fun s hs x hx => ?_⟩
    · rw [List.flatMap_append, List.map_append]
      rfl
    · rw [List.mem_singleton.1 hx]
      exact ⟨hrun, hvalue⟩
    · rw [List.getLast?_map, Option.mem_def, Option.map_eq_some_iff] at hs
      obtain ⟨t, ht, rfl⟩ := hs
      obtain rfl : complWord w = x := by simpa using hx
      have hnot := hjoin t ht w h.last_value
      cases t with
      | lit y => exact id
      | run v k =>
        rintro ⟨hk, hsame⟩
        refine hnot ⟨hk, ?_⟩
        rw [sameRun, hrun, hvalue] at hsame
        rw [sameRun, h.last_run, h.last_value]
        cases v <;> simp_all

/-- Where the last word is taken for digits, its complement is left empty. -/
theorem LastTaken.compl_empty {init : List Word} {w : Word} (h : LastTaken b init w)
    (hinit : Segments init segs) {d : List Word} (hwalk : walk uncompressItem 0 (zeros (words b.size))
      (((segs ++ [Seg.lit w]).flatMap Seg.code).map complWord) = .ok d) :
    bits (d.getD init.length 0) = 0 := by
  obtain ⟨segs₁, rest, hsub, hchain, hlen, hcode, hrest, hjoin⟩ := h.split_compl hinit
  have hp := h.start_lt
  have hok : ∀ s ∈ segs₁, s.Ok := fun s hs =>
    hinit.ok (by rw [valueSize] at hp; omega) (fun x hx hpart => absurd hpart (h.init_full x hx)) s
      (hsub s hs)
  obtain ⟨d₁, hd₁, hwalk₁⟩ := unpack_segs (words_bounds b.size_lt).1 rest (mem_compl_ok hok)
    (chain_compl hchain) hjoin (by rw [length_words_compl, h.length_eq]; omega)
    (fun _ _ _ => lt_of_le_of_lt (Nat.mul_le_mul_left _ (by rw [length_words_compl]; exact hlen)) hp)
  rw [hcode, flatMap_code_compl hok, hwalk₁] at hwalk
  refine zero_kept hrest ?_ hwalk
  rw [← getD_map_bits, hd₁, List.getD_append_right _ _ _ _ (by rw [length_words_compl]; exact hlen)]
  simp [zeros]

/-- Then the last word is full below the size. -/
theorem LastTaken.not_mixedNot {init : List Word} {w : Word} (h : LastTaken b init w)
    (htidy : Tidy true b) : ¬MixedNot b := by
  intro hnot
  obtain ⟨segs, hsegs, hc⟩ := compress_ret h.plain
  obtain ⟨segs₀, rfl, hinit⟩ := h.segments hsegs
  obtain ⟨d, hwalk, hsame⟩ := (mixedNot_iff hc).1 hnot
  have hempty := h.compl_empty hinit hwalk
  have hp : init.length < b.data.length := by
    rw [h.plain.length_eq, h.length_eq]; exact Nat.lt_succ_self _
  have hw : b.data[init.length] = w := by simp [h.data_eq]
  refine h.last_partial true ?_
  rw [← bits_fillWord]
  refine bits_ext fun i hi => ?_
  rw [getLsbD_fillWord, decide_eq_true hi, Bool.true_and]
  rcases Nat.lt_or_ge (valueSize * init.length + i) b.size with hlt | hge
  · have hbit := hsame _ hlt
    rw [bitAt_mul_add d hi, bit, bitAt_mul_add _ hi, List.getD_eq_getElem _ _ hp, hw] at hbit
    have hzero := getLsbD_of_bits (hempty.trans (show (0 : Word) = bits 0 from rfl)) hi
    rw [hzero] at hbit
    simpa using hbit
  · rw [← hw]
    exact htidy _ hp i (by omega) (.inr hge)

/-- **Complementing is exact only if** no run overflows and no word that is kept has the run bit. -/
theorem exact_of_mixedNot (hb : Plain b) {f : Bool} (htidy : Tidy f b) (h : MixedNot b) :
    ¬Overflows b ∧ ((∀ w ∈ b.data, isRun w = false) ∨ ∀ w ∈ b.data, ¬Partial w) := by
  obtain ⟨segs, hsegs, hc⟩ := compress_ret hb
  have hlen : b.data.length ≤ 2 ^ 32 := hb.length_le
  have hflag := htidy.flagged
  have hrun : ∀ w ∈ b.data, isRun w = f := fun w hw => by rw [isRun_eq]; exact (hflag w hw).2
  have hclean : (∀ w ∈ b.data, isRun w = false) ∨ ∀ w ∈ b.data, ¬Partial w := by
    cases f with
    | false => exact .inl hrun
    | true =>
      refine .inr ?_
      by_contra hpart
      rcases b.data.eq_nil_or_concat with hnil | ⟨init, w, hdata⟩
      · rw [hnil] at hpart
        exact hpart fun x hx => absurd hx List.not_mem_nil
      · rw [List.concat_eq_append] at hdata
        have hinit : ∀ x ∈ init, ¬Partial x := by
          intro x hx hp
          obtain ⟨l, r, rfl⟩ := List.append_of_mem hx
          have := partial_last_compl hb hsegs hc hrun h (t := r ++ [w])
            (by rw [hdata, List.append_assoc]; rfl) hp
          simp at this
        exact (lastTaken_of_init hb hflag hdata hinit hpart).not_mixedNot htidy h
  refine ⟨not_overflows_of_mixedNot hb hsegs hc (hsegs.ok hlen fun w hw hp => ?_) h, hclean⟩
  rcases hclean with hnot | hnot
  · exact hnot w hw
  · exact absurd hp (hnot w hw)

end

/-! ## Crossing -/

/-- The words `p` to `n` of the two have a value bit in common. -/
def MeetsBits (a W : List Word) (p n : ℕ) : Prop :=
  ∃ j, p ≤ j ∧ j < n ∧ bits (a.getD j 0) &&& W.getD j 0 ≠ 0

theorem MeetsBits.append {a W : List Word} {p q n : ℕ} (hpq : p ≤ q) (hqn : q ≤ n) :
    MeetsBits a W p n ↔ MeetsBits a W p q ∨ MeetsBits a W q n := by
  constructor
  · rintro ⟨j, hpj, hjn, hj⟩
    rcases Nat.lt_or_ge j q with hjq | hjq
    · exact .inl ⟨j, hpj, hjq, hj⟩
    · exact .inr ⟨j, hjq, hjn, hj⟩
  · rintro (⟨j, hpj, hjq, hj⟩ | ⟨j, hqj, hjn, hj⟩)
    · exact ⟨j, hpj, by omega, hj⟩
    · exact ⟨j, by omega, hjn, hj⟩

theorem anyWord_ret {data : List Word} {is : List ℕ} (h : ∀ i ∈ is, i < data.length) :
    ∃ r, anyWord data true is = .ok r ∧ (r = true ↔ ∃ i ∈ is, bits (data.getD i 0) ≠ 0) := by
  induction is with
  | nil => exact ⟨false, rfl, by simp⟩
  | cons i is ih =>
    obtain ⟨r, hr, hiff⟩ := ih fun j hj => h j (by simp [hj])
    rw [anyWord, load_getD (h i (by simp))]
    show ∃ r, (if bits (data.getD i 0) ≠ 0 then .ok true else anyWord data true is) = .ok r ∧ _
    by_cases hi : bits (data.getD i 0) ≠ 0
    · exact ⟨true, if_pos hi, iff_of_true rfl ⟨i, by simp, hi⟩⟩
    · refine ⟨r, (if_neg hi).trans hr, hiff.trans ?_⟩
      simp only [List.mem_cons, exists_eq_or_imp]
      exact (or_iff_right hi).symm

theorem getRange_ret {data : List Word} {p k : ℕ} (hk : 1 < k) (hd : p + k ≤ data.length)
    (h32 : valueSize * (p + k) < 2 ^ 32) : ∃ r, getRange data (valueSize * p) (valueSize * k) true = .ok r ∧
      (r = true ↔ ∃ j, p ≤ j ∧ j < p + k ∧ bits (data.getD j 0) ≠ 0) := by
  have hspan : span (valueSize * p) (valueSize * k) = .ok (List.range' p (p + k - p)) := by
    rw [span]
    simp only [← Nat.mul_add, Nat.mod_eq_of_lt h32, Nat.mul_mod_right, and_self, if_true,
      mul_div_valueSize]
  obtain ⟨r, hr, hiff⟩ := anyWord_ret fun i (hi : i ∈ List.range' p (p + k - p)) =>
    show i < data.length by rw [mem_range_div] at hi; omega
  refine ⟨r, ?_, hiff.trans ?_⟩
  · rw [getRange, if_neg (by rw [valueSize]; omega), hspan]
    exact hr
  · simp only [mem_range_div, and_assoc]

theorem and_bits (w w' : Word) : w &&& bits w' = bits w &&& bits w' := by
  refine BitVec.eq_of_getLsbD_eq fun i _ => ?_
  rw [BitVec.getLsbD_and, BitVec.getLsbD_and, getLsbD_bits, getLsbD_bits]
  cases decide (i < 14) <;> simp

/-- One segment of the loop of `compressCross`. -/
theorem crossItem_ret {data W : List Word} {s : Seg} (hok : s.Ok) {p : ℕ}
    (hd : p + s.words.length ≤ data.length) (h32 : s.Long → valueSize * (p + s.words.length) < 2 ^ 32)
    (hW : ∀ i (hi : i < s.words.length), W.getD (p + i) 0 = s.words[i]) (x : Bool) :
    ∃ r : Bool, crossItem data (valueSize * p) s.item x = .ok (if r then .done true else .yield false) ∧
      (r = true ↔ MeetsBits data W p (p + s.words.length)) := by
  have hone {w : Word} (hs : s.item = .word (bits w)) (hw : s.words = [bits w]) : ∃ r : Bool,
      crossItem data (valueSize * p) s.item x = .ok (if r then .done true else .yield false) ∧
        (r = true ↔ MeetsBits data W p (p + s.words.length)) := by
    have hlen : s.words.length = 1 := by rw [hw]; rfl
    have h0 := hW 0 (by omega)
    simp only [hw, List.getElem_cons_zero, Nat.add_zero] at h0
    refine ⟨decide (bits (data.getD p 0) &&& bits w ≠ 0), ?_, ?_⟩
    · rw [hs, crossItem, mul_div_valueSize, load_getD (by omega)]
      show Except.ok (if data.getD p 0 &&& bits w ≠ 0 then _ else _) = _
      rw [and_bits]
      simp
    · rw [decide_eq_true_iff, hlen]
      constructor
      · intro hne
        exact ⟨p, le_rfl, by omega, h0 ▸ hne⟩
      · rintro ⟨j, hpj, hjp, hj⟩
        obtain rfl : j = p := by omega
        rwa [h0] at hj
  cases s with
  | lit w => exact hone rfl rfl
  | run v k =>
    have hlen : (Seg.run v k).words.length = k := List.length_replicate
    by_cases hk : 1 < k
    · rw [hlen] at hd h32 ⊢
      have hitem : (Seg.run v k).item = .run v (valueSize * k) := by
        refine (if_pos hk).trans ?_
        rw [Nat.mod_eq_of_lt]
        exact lt_of_le_of_lt (Nat.mul_le_mul_left _ (Nat.le_add_left k p)) (h32 hk)
      have hfill {j : ℕ} (hpj : p ≤ j) (hjp : j < p + k) : W.getD j 0 = fillWord v := by
        have := hW (j - p) (by rw [hlen]; omega)
        rw [Nat.add_sub_cancel' hpj] at this
        exact this.trans (List.getElem_replicate _)
      rw [hitem]
      cases v with
      | false =>
        refine ⟨false, rfl, iff_of_false (by decide) ?_⟩
        rintro ⟨j, hpj, hjp, hj⟩
        rw [hfill hpj hjp] at hj
        exact hj BitVec.and_zero
      | true =>
        obtain ⟨r, hr, hiff⟩ := getRange_ret hk hd (h32 hk)
        refine ⟨r, ?_, hiff.trans ?_⟩
        · show ((getRange data (valueSize * p) (valueSize * k) true >>= _) : Result _) = _
          rw [hr]; rfl
        · refine exists_congr fun j => and_congr_right fun hpj => and_congr_right fun hjp => ?_
          rw [hfill hpj hjp, show fillWord true = countMask from rfl]
          show _ ↔ bits (bits (data.getD j 0)) ≠ 0
          rw [bits_bits]
    · obtain rfl : k = 1 := by have := hok.1; omega
      exact hone (w := fillWord v) (by rw [bits_fillWord]; rfl) (by rw [bits_fillWord]; rfl)

/-- **The loop of `compressCross` looks at the value bits of all words.** -/
theorem walk_cross {data W : List Word} {segs : List Seg} (hok : ∀ s ∈ segs, s.Ok)
    (hchain : segs.IsChain Seg.Differs) {p : ℕ} (hd : p + (segs.flatMap Seg.words).length ≤ data.length)
    (hlen : valueSize * (data.length - 1) < 2 ^ 32)
    (h32 : ∀ s ∈ segs.getLast?, s.Long → valueSize * (p + (segs.flatMap Seg.words).length) < 2 ^ 32)
    (hW : ∀ i (hi : i < (segs.flatMap Seg.words).length),
      W.getD (p + i) 0 = (segs.flatMap Seg.words)[i]) :
    ∃ r, walk (crossItem data) (valueSize * p % 2 ^ 32) false (segs.flatMap Seg.code) = .ok r ∧
      (r = true ↔ MeetsBits data W p (p + (segs.flatMap Seg.words).length)) := by
  induction segs generalizing p with
  | nil =>
    refine ⟨false, by rw [List.flatMap_nil, walk], iff_of_false (by decide) ?_⟩
    rintro ⟨j, hpj, hjp, -⟩
    exact absurd (hpj.trans_lt hjp) (lt_irrefl p)
  | cons s segs ih =>
    have hs := hok s (by simp)
    have hpos := Seg.words_pos hs
    simp only [List.flatMap_cons, List.length_append] at hd h32 hW ⊢
    have hbound {q : ℕ} (hq : q ≤ data.length - 1) : valueSize * q < 2 ^ 32 :=
      lt_of_le_of_lt (Nat.mul_le_mul_left _ hq) hlen
    obtain ⟨r, hstep, hr⟩ := crossItem_ret (W := W) hs
      (show p + s.words.length ≤ data.length by omega)
      (fun hlong => by
        cases segs with
        | nil => exact h32 s (by simp) hlong
        | cons t segs =>
          have := Seg.words_pos (hok t (by simp))
          simp only [List.flatMap_cons, List.length_append] at hd
          exact hbound (by omega))
      (fun i hi => by rw [hW i (by omega), List.getElem_append_left hi]) false
    obtain ⟨r', hwalk, hr'⟩ := ih (fun t ht => hok t (by simp [ht])) hchain.tail
      (p := p + s.words.length) (by omega)
      (fun t ht hlong => by
        rw [Nat.add_assoc]; exact h32 t (by rw [List.getLast?_cons, ht]; rfl) hlong)
      (fun i hi => by
        rw [Nat.add_assoc, hW (s.words.length + i) (by omega),
          List.getElem_append_right (Nat.le_add_right _ _)]
        simp only [Nat.add_sub_cancel_left])
    have hnot : ∀ w ∈ (segs.flatMap Seg.code).head?, ¬s.Joins w := by
      cases segs with
      | nil => simp
      | cons t segs => exact not_joins (List.isChain_cons_cons.1 hchain).1 (hok t (by simp)) _
    rw [walk_seg _ _ _ hs hnot, Nat.mod_eq_of_lt (hbound (q := p) (by omega)), hstep,
      MeetsBits.append (Nat.le_add_right p s.words.length) (by omega), ← hr]
    cases r with
    | true => exact ⟨true, rfl, by simp⟩
    | false =>
      refine ⟨r', ?_, by rw [hr', ← Nat.add_assoc]; simp⟩
      rw [Nat.mul_add] at hwalk
      exact hwalk

theorem anyMeet_ret {f : ℕ → Result Bool} {P : ℕ → Prop} {l : List ℕ}
    (h : ∀ i ∈ l, ∃ r, f i = .ok r ∧ (r = true ↔ P i)) :
    ∃ r, anyMeet f l = .ok r ∧ (r = true ↔ ∃ i ∈ l, P i) := by
  induction l with
  | nil => exact ⟨false, rfl, by simp⟩
  | cons i l ih =>
    obtain ⟨r, hr, hiff⟩ := ih fun j hj => h j (by simp [hj])
    obtain ⟨q, hq, hP⟩ := h i (by simp)
    rw [anyMeet, hq]
    cases q with
    | true => exact ⟨true, rfl, iff_of_true rfl ⟨i, by simp, hP.1 rfl⟩⟩
    | false =>
      refine ⟨r, hr, hiff.trans ?_⟩
      simp only [List.mem_cons, exists_eq_or_imp]
      exact (or_iff_right fun hi => Bool.false_ne_true (hP.2 hi)).symm

/-- Some bit of the word `j` is set in both. -/
def Common (a b : List Word) (j : ℕ) : Prop := a.getD j 0 &&& b.getD j 0 ≠ 0#16

theorem common_block (a b : List Word) (i : ℕ) : (∃ j, j / u64DivBase = i ∧ Common a b j) ↔
    ¬(a.getD (u64DivBase * i) 0 &&& b.getD (u64DivBase * i) 0 = 0#16 ∧
      a.getD (u64DivBase * i + 1) 0 &&& b.getD (u64DivBase * i + 1) 0 = 0#16 ∧
      a.getD (u64DivBase * i + 2) 0 &&& b.getD (u64DivBase * i + 2) 0 = 0#16 ∧
      a.getD (u64DivBase * i + 3) 0 &&& b.getD (u64DivBase * i + 3) 0 = 0#16) := by
  constructor
  · rintro ⟨j, rfl, hj⟩ ⟨h0, h1, h2, h3⟩
    have hcases : j = u64DivBase * (j / u64DivBase) ∨ j = u64DivBase * (j / u64DivBase) + 1 ∨
        j = u64DivBase * (j / u64DivBase) + 2 ∨ j = u64DivBase * (j / u64DivBase) + 3 := by
      rw [u64DivBase]; omega
    rcases hcases with h | h | h | h <;> rw [h] at hj
    · exact hj h0
    · exact hj h1
    · exact hj h2
    · exact hj h3
  · intro hnot
    by_contra hnone
    refine hnot ⟨?_, ?_, ?_, ?_⟩ <;>
      exact by_contra fun hne => hnone ⟨_, by rw [u64DivBase]; omega, hne⟩

/-- One block of the first loop of `normalCross`. -/
theorem meet_block {a b : List Word} {i : ℕ} (hia : u64DivBase * i + 3 < a.length)
    (hib : u64DivBase * i + 3 < b.length) : ∃ r, (do
      let x ← load64 a i
      if x ≠ 0 then return x &&& (← load64 b i) ≠ 0 else return false : Result Bool) = .ok r ∧
      (r = true ↔ ∃ j, j / u64DivBase = i ∧ Common a b j) := by
  rw [load64_ret hia, load64_ret hib, common_block]
  have hand := bitwise_and (a.getD (u64DivBase * i) 0) (a.getD (u64DivBase * i + 1) 0)
    (a.getD (u64DivBase * i + 2) 0) (a.getD (u64DivBase * i + 3) 0)
    (b.getD (u64DivBase * i) 0) (b.getD (u64DivBase * i + 1) 0)
    (b.getD (u64DivBase * i + 2) 0) (b.getD (u64DivBase * i + 3) 0)
  by_cases hx : block (a.getD (u64DivBase * i) 0) (a.getD (u64DivBase * i + 1) 0)
    (a.getD (u64DivBase * i + 2) 0) (a.getD (u64DivBase * i + 3) 0) ≠ 0
  · refine ⟨_, if_pos hx, ?_⟩
    rw [← block_eq_zero, ← hand]
    exact decide_eq_true_iff
  · refine ⟨false, if_neg hx, iff_of_false (by decide) (not_not.2 ?_)⟩
    obtain ⟨h0, h1, h2, h3⟩ := block_eq_zero.1 (not_not.1 hx)
    rw [h0, h1, h2, h3]
    exact ⟨BitVec.zero_and, BitVec.zero_and, BitVec.zero_and, BitVec.zero_and⟩

/-- **`normalCross` looks at all bits of all words**, those outside the size included. -/
theorem normalCross_ret {a b : Bitmap} (ha : Plain a) (hb : Plain b) (hs : a.size = b.size) :
    ∃ r, normalCross a b = .ok r ∧ (r = true ↔ ∃ j < words a.size, Common a.data b.data j) := by
  have hle := maxSize_le a.size
  have hal := ha.length_eq
  have hbl := hb.length_eq
  rw [← hs] at hbl
  obtain ⟨r₁, h₁, hr₁⟩ := anyMeet_ret fun i (hi : i ∈ List.range (maxSize a.size)) => by
    rw [List.mem_range] at hi
    exact meet_block (a := a.data) (b := b.data) (i := i) (by rw [u64DivBase] at *; omega)
      (by rw [u64DivBase] at *; omega)
  obtain ⟨r₂, h₂, hr₂⟩ := anyMeet_ret (f := fun i => do return (← load a.data i) &&& (← load b.data i) ≠ 0)
    (P := Common a.data b.data) fun i (hi : i ∈ restWords a.size a.data.length) => by
      rw [restWords, List.mem_range'_1] at hi
      rw [load_getD (by omega), load_getD (by omega)]
      exact ⟨_, rfl, decide_eq_true_iff⟩
  have hall : (∃ j < words a.size, Common a.data b.data j) ↔ r₁ = true ∨ r₂ = true := by
    rw [hr₁, hr₂]
    constructor
    · rintro ⟨j, hj, hne⟩
      by_cases hlow : j / u64DivBase < maxSize a.size
      · exact .inl ⟨_, List.mem_range.2 hlow, j, rfl, hne⟩
      · refine .inr ⟨j, ?_, hne⟩
        rw [restWords, List.mem_range'_1]
        rw [u64DivBase] at *; omega
    · rintro (⟨i, hi, j, rfl, hne⟩ | ⟨j, hj, hne⟩)
      · rw [List.mem_range] at hi
        exact ⟨j, by rw [u64DivBase] at *; omega, hne⟩
      · rw [restWords, List.mem_range'_1] at hj
        exact ⟨j, by omega, hne⟩
  rw [hall, normalCross, h₁]
  cases r₁ with
  | true => exact ⟨true, rfl, by simp⟩
  | false => exact ⟨r₂, h₂, by simp⟩

section
variable {a b : Bitmap} {segs : List Seg}

/-- **`compressCross` looks at the value bits of all words.** -/
theorem compressCross_ret (ha : Plain a) (hb : Plain b) (hs : a.size = b.size)
    (hsegs : Segments b.data segs) (hok : ∀ s ∈ segs, s.Ok) (hover : ¬Overflows b) :
    ∃ r, compressCross a ⟨true, b.size, b.size_lt, segs.flatMap Seg.code⟩ = .ok r ∧
      (r = true ↔ MeetsBits a.data (b.data.map bits) 0 (words a.size)) := by
  have hlen : (segs.flatMap Seg.words).length = words a.size := by
    rw [hsegs.length_eq, hb.length_eq, hs]
  obtain ⟨r, hr, hiff⟩ := walk_cross (W := b.data.map bits) hok hsegs.chain
    (show 0 + (segs.flatMap Seg.words).length ≤ a.data.length by rw [ha.length_eq, hlen, Nat.zero_add])
    (by rw [ha.length_eq]; exact (words_bounds a.size_lt).1)
    (by rw [Nat.zero_add, hsegs.length_eq]; exact hsegs.long_bound hover)
    (fun i hi => by rw [Nat.zero_add, ← hsegs.words_eq, List.getD_eq_getElem _ _ hi])
  rw [Nat.zero_add, hlen] at hiff
  exact ⟨r, hr, hiff⟩

theorem meetsBits_of_meets (h : Meets a b) :
    MeetsBits a.data (b.data.map bits) 0 (words a.size) := by
  obtain ⟨i, hi, hai, hbi⟩ := h
  refine ⟨i / valueSize, Nat.zero_le _, (words_bounds a.size_lt).2.2 i hi, fun h0 => ?_⟩
  have := congrArg (BitVec.getLsbD · (i % valueSize)) h0
  rw [bit, bitAt_eq_bits] at hai hbi
  simp only [getD_map_bits, BitVec.getLsbD_and, hai, hbi] at this
  simp at this

theorem common_of_meetsBits {n : ℕ} (h : MeetsBits a.data (b.data.map bits) 0 n) :
    ∃ j < n, Common a.data b.data j := by
  obtain ⟨j, -, hj, hne⟩ := h
  refine ⟨j, hj, fun h0 => hne ?_⟩
  rw [getD_map_bits, ← bits_and, h0]
  rfl

/-- With the segments found again, `cross` agrees iff the bitmaps meet below the size or nowhere. -/
theorem mixedCross_iff (ha : Plain a) (hb : Plain b) (hs : a.size = b.size) (hsegs : Segments b.data segs)
    (hc : b.compress = .ok ⟨true, b.size, b.size_lt, segs.flatMap Seg.code⟩)
    (hok : ∀ s ∈ segs, s.Ok) (hover : ¬Overflows b) :
    MixedCross a b ↔ Meets a b ∨ ∀ p, a.data.getD p 0 &&& b.data.getD p 0 = 0 := by
  obtain ⟨r₁, h₁, hr₁⟩ := compressCross_ret ha hb hs hsegs hok hover
  obtain ⟨r₂, h₂, hr₂⟩ := normalCross_ret ha hb hs
  have hcross₁ : a.cross ⟨true, b.size, b.size_lt, segs.flatMap Seg.code⟩ = .ok r₁ := by
    rw [cross, ha.isCompress_eq]; exact h₁
  have hcross₂ : a.cross b = .ok r₂ := by
    rw [cross, ha.isCompress_eq, hb.isCompress_eq]; exact h₂
  constructor
  · rintro ⟨c, r, -, -, hr, hmeets⟩
    obtain rfl := Except.ok.inj (hcross₂.symm.trans hr)
    cases hr₂' : r₂ with
    | true => exact .inl (hmeets.1 hr₂')
    | false =>
      refine .inr fun p => by_contra fun hne => ?_
      have hp : p < words a.size := by
        by_contra hp
        rw [List.getD_eq_default _ _ (by rw [ha.length_eq]; omega)] at hne
        exact hne BitVec.zero_and
      rw [hr₂.2 ⟨p, hp, hne⟩] at hr₂'
      cases hr₂'
  · rintro (hmeets | hnone)
    · have hbits := meetsBits_of_meets hmeets
      obtain rfl := hr₁.2 hbits
      obtain rfl := hr₂.2 (common_of_meetsBits hbits)
      exact ⟨_, true, hc, hcross₁, hcross₂, iff_of_true rfl hmeets⟩
    · have hcommon : ¬∃ j < words a.size, Common a.data b.data j := fun ⟨j, _, hne⟩ => hne (hnone j)
      have hbits := fun h => hcommon (common_of_meetsBits h)
      obtain rfl : r₁ = false := Bool.eq_false_iff.2 fun h => hbits (hr₁.1 h)
      obtain rfl : r₂ = false := Bool.eq_false_iff.2 fun h => hcommon (hr₂.1 h)
      exact ⟨_, false, hc, hcross₁, hcross₂,
        iff_of_false (by decide) fun h => hbits (meetsBits_of_meets h)⟩

end

/-! ## All operations -/

theorem mixed_of_exact {a b : Bitmap} (ha : Plain a) (hb : Built b) (hs : a.size = b.size)
    (h : MixedExact a b) : MixedAgree a b := by
  obtain ⟨hover, hclean, hmeet⟩ := h
  obtain ⟨segs, hsegs, hc⟩ := compress_ret hb.plain
  have hok := hsegs.ok hb.plain.length_le fun w hw hp => by
    rcases hclean with hnot | hnot
    · exact hnot w hw
    · exact absurd hp (hnot w hw)
  exact ⟨mixedAnd_of_ok ha hb.plain hs hsegs hc hok hover,
    mixedOr_of_ok ha hb.plain hs hsegs hc hok hover, mixedNot_of_ok hb.plain hsegs hc hok hover,
    (mixedCross_iff ha hb.plain hs hsegs hc hok hover).2 hmeet⟩

theorem exact_of_mixed {a b : Bitmap} (ha : Plain a) (hb : BuiltInside b) (hs : a.size = b.size)
    (h : MixedAgree a b) : MixedExact a b := by
  obtain ⟨-, -, hnot, hcross⟩ := h
  obtain ⟨f, htidy⟩ := hb.tidy
  obtain ⟨segs, hsegs, hc⟩ := compress_ret hb.plain
  obtain ⟨hover, hclean⟩ := exact_of_mixedNot hb.plain htidy hnot
  have hok := hsegs.ok hb.plain.length_le fun w hw hp => by
    rcases hclean with hnot | hnot
    · exact hnot w hw
    · exact absurd hp (hnot w hw)
  exact ⟨hover, hclean, (mixedCross_iff ha hb.plain hs hsegs hc hok hover).1 hcross⟩

/-- **The mixed operations agree with the plain ones if the operands are exact**, and for `set`
    below the size only if they are. -/
theorem mixed_agree_iff_exact {a b : Bitmap} (ha : Built a) (hb : Built b) (hs : a.size = b.size) :
    (MixedExact a b → MixedAgree a b) ∧ (BuiltInside b → (MixedAgree a b ↔ MixedExact a b)) :=
  ⟨mixed_of_exact ha.plain hb hs, fun hin =>
    ⟨exact_of_mixed ha.plain hin hs, mixed_of_exact ha.plain hb hs⟩⟩

/-- Two bitmaps of 20 bits that meet at the bit 3. -/
theorem mixed_agree_set : MixedAgree ⟨false, 20, by decide, [0x0008#16, 0x0000#16]⟩
    ⟨false, 20, by decide, [0x0018#16, 0x0000#16]⟩ := by
  have hset₁ : (new 20 (by decide) 0x00#8).set 3 true =
      .ok ⟨false, 20, by decide, [0x0008#16, 0x0000#16]⟩ := rfl
  have hset₂ : (⟨false, 20, by decide, [0x0008#16, 0x0000#16]⟩ : Bitmap).set 4 true =
      .ok ⟨false, 20, by decide, [0x0018#16, 0x0000#16]⟩ := rfl
  have ha : Built ⟨false, 20, by decide, [0x0008#16, 0x0000#16]⟩ :=
    .set (.new 20 (by decide) (.inl rfl)) trivial hset₁
  refine (mixed_agree_iff_exact ha (.set ha trivial hset₂) rfl).1 (And.intro ?_ (And.intro ?_ ?_))
  · exact fun h => Nat.not_le.2 (show 28 < 2 ^ 32 by decide) h.1
  · refine Or.inl fun w hw => ?_
    simp only [List.mem_cons, List.not_mem_nil, or_false] at hw
    rcases hw with rfl | rfl <;> rfl
  · exact Or.inl ⟨3, show 3 < 20 by decide, rfl, rfl⟩

/-- A bitmap filled with ones from which the bit 0 is removed is not complemented. -/
theorem not_mixed_agree : ∃ b, (new 14 (by decide) 0xFF#8).set 0 false = .ok b ∧ ¬MixedAgree b b := by
  refine ⟨⟨false, 14, by decide, [0xFFFE#16]⟩, rfl, ?_⟩
  rintro ⟨-, -, ⟨c, x, y, hc, hx, hy, -⟩, -⟩
  obtain rfl : (⟨true, 14, by decide, [0xFFFE#16]⟩ : Bitmap) = c := Except.ok.inj hc
  obtain rfl : (⟨true, 14, by decide, [0xBFFE#16]⟩ : Bitmap) = x := Except.ok.inj hx
  obtain ⟨data, hwalk, -⟩ := bind_ok hy
  rw [walk_run _ _ _ _ rfl] at hwalk
  cases hwalk

end Ancfl.Bitmap
