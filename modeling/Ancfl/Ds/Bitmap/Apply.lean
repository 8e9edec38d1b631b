/-
  Operations with a compressed operand, word by word.

  * `setRange_ret`, `setRange_ok`: when filling a range of words succeeds, and
    with what result;
  * `Acts g f`: at every item, `f` combines the value bits of the words of a
    plain bitmap with those of the item by `g`;
  * `Acts.walk_segs`: then the loop over a list of segments combines the value
    bits of all words.
-/
import Ancfl.Ds.Bitmap.Runs

namespace Ancfl.Bitmap

open Lib

/-! ## Ranges of words -/

theorem foldlM_store_ok {w : Word} {is : List ℕ} {data data' : List Word}
    (h : is.foldlM (fun data i => store data i w) data = .ok data') : ∀ i ∈ is, i < data.length := by
  induction is generalizing data with
  | nil => simp
  | cons i is ih =>
    rw [List.foldlM_cons] at h
    obtain ⟨d, hd, h⟩ := bind_ok h
    by_cases hi : i < data.length
    · rw [store_ret hi] at hd
      obtain rfl := Except.ok.inj hd
      intro j hj
      rcases List.mem_cons.1 hj with rfl | hj
      · exact hi
      · simpa using ih h j hj
    · rw [store, if_neg hi] at hd
      cases hd

theorem foldlM_store_ret {w : Word} {is : List ℕ} (his : is.Pairwise (· < ·)) {data : List Word}
    (h : ∀ i ∈ is, i < data.length) : is.foldlM (fun data i => store data i w) data =
      .ok (updateOn (fun j => j ∈ is) (fun _ _ => w) data) := by
  have hloop := foldlM_updateOn (m := Result) (n := data.length) (f := fun _ _ => w)
    (P := fun i j => j = i) (g := fun data i => store data i w) is
    (his.imp fun hlt j hj hj' => by omega)
    (fun i hi a ha => store_word (by rw [ha]; exact h i hi) rfl) data rfl
  rw [hloop]
  exact congrArg Except.ok (updateOn_congr (fun j _ => by simp) fun _ _ _ _ => rfl)

theorem mem_range_div {j a b : ℕ} : j ∈ List.range' a (b - a) ↔ a ≤ j ∧ j < b := by
  rw [List.mem_range'_1]; omega

/-- Filling the words from `p` on, up to the word at the end of the range. -/
theorem setRange_ret {data : List Word} {p size stop : ℕ} (v : Bool) (hsize : size ≠ 0)
    (hstop : (valueSize * p + size) % 2 ^ 32 = valueSize * stop) (h : stop ≤ p ∨ stop ≤ data.length) :
    setRange data (valueSize * p) size v =
      .ok (updateOn (fun j => p ≤ j ∧ j < stop) (fun _ _ => fillWord v) data) := by
  have hdiv (q : ℕ) : valueSize * q / valueSize = q := Nat.mul_div_cancel_left q (by decide)
  have hspan : span (valueSize * p) size = .ok (List.range' p (stop - p)) := by
    rw [span]
    simp only [hstop, Nat.mul_mod_right, and_self, if_true, hdiv]
  rw [setRange, if_neg hsize, hspan]
  show List.foldlM _ _ _ = _
  rw [foldlM_store_ret (List.pairwise_lt_range' ..) fun i hi => ?_]
  · exact congrArg Except.ok (updateOn_congr (fun j _ => mem_range_div) fun _ _ _ _ => rfl)
  · rw [mem_range_div] at hi; omega

/-- Filling succeeds only if the range ends at a word, and inside the array. -/
theorem setRange_ok {data data' : List Word} {p size : ℕ} {v : Bool} (hsize : size ≠ 0)
    (h : setRange data (valueSize * p) size v = .ok data') :
    ∃ stop, (valueSize * p + size) % 2 ^ 32 = valueSize * stop ∧ (stop ≤ p ∨ stop ≤ data.length) ∧
      data' = updateOn (fun j => p ≤ j ∧ j < stop) (fun _ _ => fillWord v) data := by
  have hmod : (valueSize * p + size) % 2 ^ 32 % valueSize = 0 := by
    by_contra hmod
    rw [setRange, if_neg hsize, span] at h
    simp only [hmod, and_false, if_false] at h
    cases h
  obtain ⟨stop, hstop⟩ := Nat.dvd_of_mod_eq_zero hmod
  have hin : stop ≤ p ∨ stop ≤ data.length := by
    have hdiv (q : ℕ) : valueSize * q / valueSize = q := Nat.mul_div_cancel_left q (by decide)
    rw [setRange, if_neg hsize, span] at h
    simp only [hstop, Nat.mul_mod_right, and_self, if_true, hdiv] at h
    by_contra hout
    have := foldlM_store_ok h (stop - 1) (mem_range_div.2 (by omega))
    omega
  refine ⟨stop, hstop, hin, ?_⟩
  rw [setRange_ret v hsize hstop hin] at h
  exact (Except.ok.inj h).symm

/-! ## Combining value bits -/

theorem map_bits_updateOn {P : ℕ → Prop} [DecidablePred P] {f g : ℕ → Word → Word} {d : List Word}
    (h : ∀ j x, bits (f j x) = g j (bits x)) :
    (updateOn P f d).map bits = updateOn P g (d.map bits) := by
  refine List.ext_getElem? fun j => ?_
  rw [List.getElem?_map, getElem?_updateOn, getElem?_updateOn, List.getElem?_map]
  cases d[j]? with
  | none => rfl
  | some x => by_cases hP : P j <;> simp [hP, h]

/-- At every item, `f` combines the value bits by `g`. -/
structure Acts (g : Word → Word → Word) (f : ℕ → Item → List Word → Result (ForInStep (List Word))) :
    Prop where
  run : ∀ {p k : ℕ} (v : Bool) {d : List Word}, 1 < k → p + k ≤ d.length →
    valueSize * (p + k) < 2 ^ 32 → ∃ d', f (valueSize * p) (.run v (valueSize * k)) d = .ok (.yield d') ∧
      d'.map bits = updateOn (fun j => p ≤ j ∧ j < p + k) (fun _ x => g x (fillWord v)) (d.map bits)
  word : ∀ {p : ℕ} (w : Word) {d : List Word}, p < d.length →
    ∃ d', f (valueSize * p) (.word (bits w)) d = .ok (.yield d') ∧
      d'.map bits = updateOn (· = p) (fun _ x => g x (bits w)) (d.map bits)

theorem fill_run {p k : ℕ} (v : Bool) {d : List Word} (hk : 1 < k) (hd : p + k ≤ d.length)
    (h32 : valueSize * (p + k) < 2 ^ 32) : setRange d (valueSize * p) (valueSize * k) v =
      .ok (updateOn (fun j => p ≤ j ∧ j < p + k) (fun _ _ => fillWord v) d) := by
  refine setRange_ret v (by rw [valueSize]; omega) ?_ (.inr hd)
  rw [← Nat.mul_add, Nat.mod_eq_of_lt h32]

theorem mul_div_valueSize (p : ℕ) : valueSize * p / valueSize = p :=
  Nat.mul_div_cancel_left p (by decide)

theorem uncompressItem_acts : Acts (fun _ y => y) uncompressItem where
  run v d hk hd h32 := by
    refine ⟨_, by rw [uncompressItem, fill_run v hk hd h32]; rfl, map_bits_updateOn fun j x => ?_⟩
    exact bits_fillWord v
  word {p} w d hp := by
    refine ⟨_, by rw [uncompressItem, mul_div_valueSize, store_word (f := fun _ _ => bits w) hp rfl]; rfl, ?_⟩
    exact map_bits_updateOn fun j x => bits_bits w

theorem andItem_acts : Acts (fun x y => x &&& y) andItem where
  run v d hk hd h32 := by
    cases v with
    | false =>
      refine ⟨_, by rw [andItem, fill_run false hk hd h32]; rfl, map_bits_updateOn fun j x => ?_⟩
      rw [bits_fillWord]; exact BitVec.and_zero.symm
    | true =>
      refine ⟨d, rfl, (updateOn_id fun j x hx => ?_).symm⟩
      rw [List.getElem?_map] at hx
      obtain ⟨y, -, rfl⟩ := Option.map_eq_some_iff.1 hx
      exact bits_bits y
  word {p} w d hp := by
    refine ⟨_, by
      rw [andItem, mul_div_valueSize, load_ret hp]
      show (store d p _ >>= _) = _
      rw [store_word (f := fun _ x => x &&& bits w) hp rfl]; rfl, ?_⟩
    exact map_bits_updateOn fun j x => by rw [bits_and, bits_bits]

theorem orItem_acts : Acts (fun x y => x ||| y) orItem where
  run v d hk hd h32 := by
    cases v with
    | true =>
      refine ⟨_, by rw [orItem, fill_run true hk hd h32]; rfl, map_bits_updateOn fun j x => ?_⟩
      rw [bits_fillWord, bits]
      refine BitVec.eq_of_getLsbD_eq fun i hi => ?_
      rw [BitVec.getLsbD_or, getLsbD_and_countMask, getLsbD_fillWord]
      cases decide (i < 14) <;> simp
    | false =>
      refine ⟨d, rfl, (updateOn_id fun j x _ => BitVec.or_zero).symm⟩
  word {p} w d hp := by
    refine ⟨_, by
      rw [orItem, mul_div_valueSize, load_ret hp]
      show (store d p _ >>= _) = _
      rw [store_word (f := fun _ x => x ||| bits w) hp rfl]; rfl, ?_⟩
    exact map_bits_updateOn fun j x => by rw [bits_or, bits_bits]

/-! ## All segments -/

/-- A run written with a length. -/
def Seg.Long : Seg → Prop
  | run _ k => 1 < k
  | lit _ => False

theorem Seg.words_pos : ∀ {s : Seg}, s.Ok → 0 < s.words.length
  | run _ _, h => by rw [words, List.length_replicate]; exact h.1
  | lit _, _ => Nat.zero_lt_one

/-- The first word of a segment is not taken for a digit of the one before. -/
theorem not_joins {s t : Seg} (hd : s.Differs t) (ht : t.Ok) (rest : List Word) :
    ∀ w ∈ (t.code ++ rest).head?, ¬s.Joins w := by
  intro w hw hj
  cases s with
  | lit _ => exact hj
  | run v k =>
    obtain ⟨-, hsame⟩ := hj
    have hrun : isRun w = true ∧ v = runValue w := by simpa [sameRun] using hsame
    cases t with
    | lit w' =>
      obtain rfl : w' = w := by simpa [Seg.code] using hw
      exact Bool.false_ne_true (ht.symm.trans hrun.1)
    | run v' k' =>
      by_cases hk : 1 < k'
      · rw [show (Seg.run v' k').code = runWords v' (valueSize * k') from if_pos hk,
          runWords_pos v' (by rw [valueSize]; omega)] at hw
        obtain rfl : mark v' _ = w := by simpa using hw
        rw [runValue_mark] at hrun
        exact hd hrun.2
      · rw [show (Seg.run v' k').code = [fillWord v'] from if_neg hk] at hw
        obtain rfl : fillWord v' = w := by simpa using hw
        rw [isRun_fillWord] at hrun
        exact Bool.false_ne_true hrun.1

section
variable {g : Word → Word → Word} {f : ℕ → Item → List Word → Result (ForInStep (List Word))}

/-- One segment is combined with the words it stands for. -/
theorem Acts.seg (hf : Acts g f) {s : Seg} (hok : s.Ok) {p : ℕ} {d W : List Word}
    (hd : p + s.words.length ≤ d.length) (h32 : s.Long → valueSize * (p + s.words.length) < 2 ^ 32)
    (hW : ∀ i (hi : i < s.words.length), W.getD (p + i) 0 = s.words[i]) :
    ∃ d', f (valueSize * p) s.item d = .ok (.yield d') ∧ d'.map bits =
      updateOn (fun j => p ≤ j ∧ j < p + s.words.length) (fun j x => g x (W.getD j 0)) (d.map bits) := by
  have hone {w : Word} (hs : s.item = .word (bits w)) (hw : s.words = [bits w]) :
      ∃ d', f (valueSize * p) s.item d = .ok (.yield d') ∧ d'.map bits = updateOn
        (fun j => p ≤ j ∧ j < p + s.words.length) (fun j x => g x (W.getD j 0)) (d.map bits) := by
    have hlen : s.words.length = 1 := by rw [hw]; rfl
    obtain ⟨d', hd', hbits⟩ := hf.word (p := p) w (d := d) (by omega)
    refine ⟨d', by rw [hs]; exact hd', hbits.trans (updateOn_congr (fun j _ => by omega) ?_)⟩
    intro j _ x hj
    have h0 := hW 0 (by omega)
    simp only [hw, List.getElem_cons_zero, Nat.add_zero] at h0
    rw [show j = p from hj, h0]
  cases s with
  | lit w => exact hone rfl rfl
  | run v k =>
    have hlen : (Seg.run v k).words.length = k := List.length_replicate
    by_cases hk : 1 < k
    · rw [hlen] at hd h32
      have hitem : (Seg.run v k).item = .run v (valueSize * k) := by
        refine (if_pos hk).trans ?_
        rw [Nat.mod_eq_of_lt]
        exact lt_of_le_of_lt (Nat.mul_le_mul_left _ (Nat.le_add_left k p)) (h32 hk)
      obtain ⟨d', hd', hbits⟩ := hf.run v hk hd (h32 hk)
      refine ⟨d', by rw [hitem]; exact hd', hbits.trans ?_⟩
      refine updateOn_congr (fun j _ => by rw [hlen]) fun j _ x hj => ?_
      have hj' := hW (j - p) (by rw [hlen]; omega)
      rw [Nat.add_sub_cancel' hj.1] at hj'
      rw [hj']
      exact congrArg (g x) (List.getElem_replicate _).symm
    · obtain rfl : k = 1 := by have := hok.1; omega
      exact hone (w := fillWord v) (by rw [bits_fillWord]; rfl) (by rw [bits_fillWord]; rfl)

/-- **The loop combines the words of all segments** from the word `p` on, and goes on with the
    rest. -/
theorem Acts.walk_segs (hf : Acts g f) {W rest : List Word} {segs : List Seg}
    (hok : ∀ s ∈ segs, s.Ok) (hchain : segs.IsChain Seg.Differs)
    (hrest : ∀ s ∈ segs.getLast?, ∀ w ∈ rest.head?, ¬s.Joins w) {p : ℕ} {d : List Word}
    (hd : p + (segs.flatMap Seg.words).length ≤ d.length) (hlen : valueSize * (d.length - 1) < 2 ^ 32)
    (h32 : ∀ s ∈ segs.getLast?, s.Long → valueSize * (p + (segs.flatMap Seg.words).length) < 2 ^ 32)
    (hW : ∀ i (hi : i < (segs.flatMap Seg.words).length),
      W.getD (p + i) 0 = (segs.flatMap Seg.words)[i]) :
    ∃ d', d'.map bits = updateOn (fun j => p ≤ j ∧ j < p + (segs.flatMap Seg.words).length)
        (fun j x => g x (W.getD j 0)) (d.map bits) ∧
      walk f (valueSize * p % 2 ^ 32) d (segs.flatMap Seg.code ++ rest) =
        walk f (valueSize * (p + (segs.flatMap Seg.words).length) % 2 ^ 32) d' rest := by
  induction segs generalizing p d with
  | nil =>
    refine ⟨d, (updateOn_false fun j _ hj => ?_).symm, rfl⟩
    simp only [List.flatMap_nil, List.length_nil] at hj
    omega
  | cons s segs ih =>
    have hs := hok s (by simp)
    have hpos := Seg.words_pos hs
    simp only [List.flatMap_cons, List.length_append] at hd h32 hW ⊢
    have hbound {q : ℕ} (hq : q ≤ d.length - 1) : valueSize * q < 2 ^ 32 :=
      lt_of_le_of_lt (Nat.mul_le_mul_left _ hq) hlen
    obtain ⟨d₁, hstep, hd₁⟩ := hf.seg hs (p := p) (d := d) (W := W) (by omega)
      (fun hlong => by
        cases segs with
        | nil => exact h32 s (by simp) hlong
        | cons t segs =>
          have := Seg.words_pos (hok t (by simp))
          simp only [List.flatMap_cons, List.length_append] at hd
          exact hbound (by omega))
      (fun i hi => by rw [hW i (by omega), List.getElem_append_left hi])
    have hlen₁ : d₁.length = d.length := by simpa using congrArg List.length hd₁
    obtain ⟨d', hd', hwalk⟩ := ih (fun t ht => hok t (by simp [ht])) hchain.tail
      (fun t ht => hrest t (by rw [List.getLast?_cons, ht]; rfl)) (p := p + s.words.length) (d := d₁)
      (by omega) (by rw [hlen₁]; exact hlen)
      (fun t ht hlong => by
        rw [Nat.add_assoc]; exact h32 t (by rw [List.getLast?_cons, ht]; rfl) hlong)
      (fun i hi => by
        rw [Nat.add_assoc, hW (s.words.length + i) (by omega),
          List.getElem_append_right (Nat.le_add_right _ _)]
        simp only [Nat.add_sub_cancel_left])
    refine ⟨d', ?_, ?_⟩
    · rw [hd', hd₁, updateOn_updateOn fun j hj hj' => by omega]
      exact updateOn_congr (fun j _ => by omega) fun _ _ _ _ => rfl
    · have hnot : ∀ w ∈ (segs.flatMap Seg.code ++ rest).head?, ¬s.Joins w := by
        cases segs with
        | nil => exact hrest s (by simp)
        | cons t segs =>
          rw [List.flatMap_cons, List.append_assoc]
          exact not_joins (List.isChain_cons_cons.1 hchain).1 (hok t (by simp)) _
      rw [List.append_assoc, walk_seg f _ _ hs hnot, Nat.mod_eq_of_lt (hbound (q := p) (by omega)), hstep,
        ← Nat.add_assoc, ← hwalk, Nat.mul_add]
      rfl

end

end Ancfl.Bitmap
