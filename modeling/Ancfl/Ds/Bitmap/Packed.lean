/-
  `any` and `getCount` on compressed bitmaps, and on all that can be made.

  * `Seg.coded v`: what a segment becomes in the compressed bitmap, complemented
    if `v` is `false`; `Seg.Shows`, `Seg.miscount`: what the two make of it;
  * `Encodes v b segs c r`: `c` is the bitmap `b` compressed, or that
    complemented, and stands for the bits `r`;
  * `measures_iff`: when the two measure the bits below the size.
-/
import Ancfl.Ds.Bitmap.Measure
import Mathlib.Data.Nat.Digits.Defs

namespace Ancfl.Bitmap

open Lib

/-! ## Words -/

/-- The low byte of a word has neither of the two bits above the value bits. -/
theorem shown_iff (w : Word) : shown w = true ↔ w.toNat % 2 ^ 8 ≠ 0 := by
  have hlow : (w.setWidth 8).setWidth 16 &&& compressMask = (0 : Word) := by
    have := mt (and_pos_ne_zero (i := 15) (by decide) ((w.setWidth 8).setWidth 16)).1 (by simp)
    exact not_not.1 this
  have hnat : ((w.setWidth 8).setWidth 16 : Word).toNat = w.toNat % 2 ^ 8 := by
    rw [BitVec.toNat_setWidth, BitVec.toNat_setWidth]
    omega
  have hshown : shown w = decide ((w.setWidth 8).setWidth 16 ≠ (0 : Word)) := if_neg (not_not.2 hlow)
  rw [hshown, decide_eq_true_iff, ← hnat]
  exact not_congr BitVec.toNat_inj.symm

theorem any_packed {c : Bitmap} (hc : c.isCompress = true) : any c = .ok (c.data.any shown) := by
  rw [any]
  split_ifs with h0
  · rw [List.eq_nil_of_length_eq_zero h0]
    rfl
  · rfl

theorem weight_eq (w : Word) :
    weight w = if isRun w then if runValue w then (bits w).toNat else 0 else countBits w := by
  rw [weight, isRun, runValue]
  simp only [decide_eq_true_eq]
  rfl

theorem foldl_weight (l : List Word) (n : ℕ) (hn : n < 2 ^ 32) :
    l.foldl (fun count w => (count + weight w) % 2 ^ 32) n = (n + (l.map weight).sum) % 2 ^ 32 := by
  induction l generalizing n with
  | nil => exact (Nat.mod_eq_of_lt hn).symm
  | cons w l ih =>
    rw [List.foldl_cons, ih _ (Nat.mod_lt _ (by decide)), Nat.mod_add_mod, List.map_cons, List.sum_cons,
      Nat.add_assoc]

theorem getCount_packed {c : Bitmap} (hc : c.isCompress = true) :
    getCount c = .ok ((c.data.map weight).sum % 2 ^ 32) := by
  rw [← Nat.zero_add (c.data.map weight).sum, ← foldl_weight _ _ (by decide), getCount, if_pos hc]
  rfl

theorem toNat_mod_low (w : Word) : w.toNat % 2 ^ 8 = (bits w).toNat % 2 ^ 8 := by
  rw [toNat_bits]
  omega

theorem toNat_low_not (w : Word) : (bits (~~~w)).toNat % 2 ^ 8 ≠ 0 ↔ w.toNat % 2 ^ 8 ≠ 255 := by
  rw [toNat_bits, BitVec.toNat_not]
  have := w.isLt
  omega

/-- The words of a run hold the digits of its length. -/
theorem map_runWords (v : Bool) (n : ℕ) :
    (runWords v n).map (fun w => (bits w).toNat) = Nat.digits (2 ^ 14) n := by
  induction n using Nat.strong_induction_on with
  | _ n ih =>
    by_cases hn : n = 0
    · rw [hn, runWords_zero, Nat.digits_zero]
      rfl
    · rw [runWords_pos v hn, List.map_cons, ih _ (Nat.div_lt_self (Nat.pos_of_ne_zero hn) (by decide)),
        Nat.digits_def' (by decide) (Nat.pos_of_ne_zero hn), bits_mark, toNat_bits, BitVec.toNat_ofNat]
      congr 1
      omega

theorem runWords_shows (v : Bool) (n : ℕ) :
    (runWords v n).any shown = true ↔ ∃ d ∈ Nat.digits (2 ^ 14) n, d % 2 ^ 8 ≠ 0 := by
  rw [← map_runWords v n, List.any_eq_true]
  constructor
  · rintro ⟨w, hw, h⟩
    exact ⟨_, List.mem_map_of_mem hw, by rwa [← toNat_mod_low, ← shown_iff]⟩
  · rintro ⟨d, hd, h⟩
    obtain ⟨w, hw, rfl⟩ := List.mem_map.1 hd
    exact ⟨w, hw, by rwa [shown_iff, toNat_mod_low]⟩

theorem runWords_weight (v : Bool) (n : ℕ) :
    ((runWords v n).map weight).sum = if v then (Nat.digits (2 ^ 14) n).sum else 0 := by
  have hword : ∀ w ∈ runWords v n, weight w = if v then (bits w).toNat else 0 := by
    intro w hw
    obtain ⟨d, rfl⟩ := mem_runWords hw
    rw [weight_eq, isRun_mark, runValue_mark, if_pos rfl]
  rw [List.map_congr_left hword, ← map_runWords v n]
  cases v
  · simp
  · rfl

/-- How many value bits of a word are `v`. -/
def countOf (v : Bool) (w : Word) : ℕ := (List.range 14).countP fun i => w.getLsbD i == v

theorem countOf_bits (v : Bool) (w : Word) : countOf v (bits w) = countOf v w :=
  List.countP_congr fun i hi => by rw [getLsbD_bits, decide_eq_true (List.mem_range.1 hi), Bool.true_and]

theorem countOf_fillWord (v v' : Bool) : countOf v (fillWord v') = if v' = v then valueSize else 0 := by
  cases v <;> cases v' <;> rfl

theorem countBits_of_value {w : Word} (h : w.getLsbD 14 = false ∧ w.getLsbD 15 = false) :
    countBits w = countOf true w := by
  rw [countBits_flagged h, countBits_bits, countOf]
  simp

theorem countBits_not (w : Word) : countBits (bits (~~~w)) = countOf false w := by
  rw [countBits_bits]
  refine List.countP_congr fun i hi => ?_
  have hlt := List.mem_range.1 hi
  rw [BitVec.getLsbD_not, decide_eq_true (by omega), Bool.true_and]
  simp

/-- The value bits `v` of the words, the bits behind the size included. -/
theorem countP_words (v : Bool) (d : List Word) :
    ((List.range (valueSize * d.length)).countP fun i => bitAt d i == v) = (d.map (countOf v)).sum := by
  induction d with
  | nil => rfl
  | cons w d ih =>
    rw [List.length_cons, Nat.mul_succ, Nat.add_comm, countP_range_add, List.map_cons, List.sum_cons, ← ih]
    refine congrArg₂ (· + ·) (List.countP_congr fun i hi => ?_) (List.countP_congr fun i _ => ?_)
    · have h := bitAt_mul_add (w :: d) (j := 0) (List.mem_range.1 hi)
      rw [Nat.mul_zero, Nat.zero_add] at h
      rw [h]
      rfl
    · rw [bitAt, bitAt, Nat.add_div_left _ (by decide), Nat.add_mod_left]
      rfl

/-! ## Segments -/

/-- What a segment becomes in the compressed bitmap, complemented if `v` is `false`. -/
def Seg.coded (v : Bool) (s : Seg) : List Word := if v then s.code else s.code.map complWord

/-- `any` finds a value `v` in the segment: a digit of its length, or the word that was kept, has
    a nonzero low byte. -/
def Seg.Shows (v : Bool) : Seg → Prop
  | run v' k => if 1 < k then ∃ d ∈ Nat.digits (2 ^ 14) (valueSize * k), d % 2 ^ 8 ≠ 0 else v' = v
  | lit w => if isRun w ∨ v = true then w.toNat % 2 ^ 8 ≠ 0 else w.toNat % 2 ^ 8 ≠ 255

instance (v : Bool) : ∀ s : Seg, Decidable (s.Shows v)
  | .run v' k => inferInstanceAs (Decidable
      (if 1 < k then ∃ d ∈ Nat.digits (2 ^ 14) (valueSize * k), d % 2 ^ 8 ≠ 0 else v' = v))
  | .lit w => inferInstanceAs (Decidable
      (if isRun w ∨ v = true then w.toNat % 2 ^ 8 ≠ 0 else w.toNat % 2 ^ 8 ≠ 255))

/-- What `getCount` adds for the segment beyond its value bits `v`: the digits of a length instead
    of the length, and the value of a word that was kept with the run bit instead of its bits. -/
def Seg.miscount (v : Bool) : Seg → ℤ
  | run v' k =>
    if v' = v ∧ 1 < k then ((Nat.digits (2 ^ 14) (valueSize * k)).sum : ℤ) - (valueSize * k : ℕ) else 0
  | lit w => if isRun w then (if v then ((bits w).toNat : ℤ) else 0) - (countOf v w : ℤ) else 0

section
variable {ws : List Word} {f : Bool} {s : Seg} (v : Bool)

theorem coded_run (v' : Bool) {k : ℕ} (hk : 1 < k) :
    (Seg.run v' k).coded v = runWords (v' == v) (valueSize * k) := by
  have hcode : (Seg.run v' k).code = runWords v' (valueSize * k) := if_pos hk
  rw [Seg.coded, hcode, map_complWord_runWords]
  cases v <;> cases v' <;> rfl

theorem coded_word (v' : Bool) : (Seg.run v' 1).coded v = [fillWord (v' == v)] := by
  cases v <;> cases v' <;> rfl

theorem coded_lit (w : Word) : (Seg.lit w).coded v = [if v then w else complWord w] := by
  cases v <;> rfl

theorem shows_iff (hs : s.Of ws) : (s.coded v).any shown = true ↔ s.Shows v := by
  cases s with
  | run v' k =>
    by_cases hk : 1 < k
    · rw [coded_run v v' hk, runWords_shows, Seg.Shows, if_pos hk]
    · obtain rfl : k = 1 := by have : 0 < k := hs; omega
      rw [coded_word, Seg.Shows, if_neg hk]
      cases v <;> cases v' <;> decide
  | lit w =>
    rw [coded_lit, List.any_cons, List.any_nil, Bool.or_false, shown_iff, Seg.Shows]
    cases v with
    | true => rw [if_pos rfl, if_pos (.inr rfl)]
    | false =>
      rw [if_neg Bool.false_ne_true]
      by_cases hrun : isRun w = true
      · rw [if_pos (.inl hrun), toNat_mod_low, (complWord_run hrun).2.2, ← toNat_mod_low]
      · rw [if_neg (by simp [hrun]), complWord_word (by simpa using hrun), toNat_low_not]

theorem weight_coded (hs : s.Of ws) (hf : Flagged f ws) : (((s.coded v).map weight).sum : ℤ) =
    ((s.words.map (countOf v)).sum : ℕ) + s.miscount v := by
  cases s with
  | run v' k =>
    have hwords : ((Seg.run v' k).words.map (countOf v)).sum = if v' = v then valueSize * k else 0 := by
      rw [Seg.words, List.map_replicate, List.sum_replicate_nat, countOf_fillWord]
      split_ifs
      · exact Nat.mul_comm _ _
      · exact Nat.mul_zero _
    rw [hwords, Seg.miscount]
    by_cases hk : 1 < k
    · rw [coded_run v v' hk, runWords_weight]
      by_cases hv : v' = v
      · rw [if_pos (by simp [hv]), if_pos hv, if_pos ⟨hv, hk⟩]
        omega
      · rw [if_neg (by simp [hv]), if_neg hv, if_neg fun h => hv h.1]
        rfl
    · obtain rfl : k = 1 := by have : 0 < k := hs; omega
      have hnone : ¬(v' = v ∧ 1 < 1) := fun h => hk h.2
      rw [coded_word, if_neg hnone, Int.add_zero]
      cases v <;> cases v' <;> decide
  | lit w =>
    have hflag := hf w hs.1
    have hrun : isRun w = f := by rw [isRun_eq, hflag.2]
    have hvalue : runValue w = f := by rw [runValue_eq, hflag.1]
    rw [coded_lit, Seg.words, Seg.miscount, hrun]
    simp only [List.map_cons, List.map_nil, List.sum_cons, List.sum_nil, Nat.add_zero, countOf_bits]
    rw [weight_eq]
    cases f with
    | true =>
      cases v with
      | true =>
        simp only [if_true, hrun, hvalue]
        omega
      | false =>
        obtain ⟨hrun', hvalue', _⟩ := complWord_run hrun
        simp only [if_true, Bool.false_eq_true, if_false, hrun', hvalue', hvalue]
        simp
    | false =>
      cases v with
      | true =>
        simp only [if_true, hrun, Bool.false_eq_true, if_false, countBits_of_value hflag]
        simp
      | false =>
        have hcompl := complWord_word hrun
        have hrun' : isRun (bits (~~~w)) = false := by rw [isRun_eq, getLsbD_bits]; rfl
        simp only [Bool.false_eq_true, if_false, hcompl, hrun', countBits_not]
        simp

theorem weight_segs {segs : List Seg} (hof : ∀ s ∈ segs, s.Of ws) (hf : Flagged f ws) :
    (((segs.flatMap (Seg.coded v)).map weight).sum : ℤ) =
      (((segs.flatMap Seg.words).map (countOf v)).sum : ℕ) + (segs.map (Seg.miscount v)).sum := by
  induction segs with
  | nil => rfl
  | cons s segs ih =>
    have hs := weight_coded v (hof s (by simp)) hf
    have hsegs := ih fun t ht => hof t (by simp [ht])
    simp only [List.flatMap_cons, List.map_append, List.sum_append, List.map_cons, List.sum_cons]
    rw [Nat.cast_add, Nat.cast_add]
    omega

end

/-! ## The bitmaps that can be made -/

/-- The bitmaps made from the plain ones by compressing and complementing, with the bits they
    stand for. -/
inductive Reached : Bitmap → (ℕ → Bool) → Prop where
  | built {b : Bitmap} {r : ℕ → Bool} : Built b → (∀ i < b.size, b.get i = .ok (r i)) → Reached b r
  | compress {c c' : Bitmap} {r : ℕ → Bool} : Reached c r → c.compress = .ok c' → Reached c' r
  | complement {c c' : Bitmap} {r : ℕ → Bool} : Reached c r → c.complement = .ok c' →
      Reached c' fun i => !r i

/-- `c` is the bitmap `b` compressed, for `v` false complemented, and stands for the bits `r`. -/
structure Encodes (v : Bool) (b : Bitmap) (segs : List Seg) (c : Bitmap) (r : ℕ → Bool) : Prop where
  built : Built b
  segments : Segments b.data segs
  eq : c = ⟨true, b.size, b.size_lt, segs.flatMap (Seg.coded v)⟩
  bits_eq : ∀ i < b.size, r i = (b.bit i == v)

/-- The words show a set bit exactly if there is one, and what is miscounted adds up to nothing. -/
structure PackedExact (v : Bool) (b : Bitmap) (segs : List Seg) : Prop where
  shows_iff : (∃ s ∈ segs, s.Shows v) ↔ ∃ i < b.size, b.bit i = v
  sum_dvd : (2 ^ 32 : ℤ) ∣ padding v b + (segs.map (Seg.miscount v)).sum

section
variable {v : Bool} {b c : Bitmap} {segs : List Seg} {r : ℕ → Bool}

theorem complWord_complWord {w : Word} (h : isRun w = false → runValue w = false) :
    complWord (complWord w) = w := by
  cases hrun : isRun w with
  | true =>
    obtain ⟨hrun₁, hvalue₁, hbits₁⟩ := complWord_run hrun
    obtain ⟨hrun₂, hvalue₂, hbits₂⟩ := complWord_run hrun₁
    exact word_ext (hbits₂.trans hbits₁) (hrun₂.trans hrun.symm) (by rw [hvalue₂, hvalue₁, Bool.not_not])
  | false =>
    have hrun' : isRun (bits (~~~w)) = false := by rw [isRun_eq, getLsbD_bits]; rfl
    rw [complWord_word hrun, complWord_word hrun', bits_not_bits, BitVec.not_not]
    refine word_ext (bits_bits w) ?_ ?_
    · rw [hrun, isRun_eq, getLsbD_bits]
      rfl
    · rw [h hrun, runValue_eq, getLsbD_bits]
      rfl

/-- Complementing twice changes nothing. -/
theorem coded_not {ws : List Word} {f : Bool} {s : Seg} (hs : s.Of ws) (hf : Flagged f ws) :
    (s.coded v).map complWord = s.coded (!v) := by
  cases v with
  | true => rfl
  | false =>
    show (s.code.map complWord).map complWord = s.code
    rw [List.map_map]
    refine (List.map_congr_left fun w hw => complWord_complWord fun hrun => ?_).trans (List.map_id _)
    cases s with
    | run v' k =>
      have hcode : w ∈ if 1 < k then runWords v' (valueSize * k) else [fillWord v'] := hw
      split_ifs at hcode
      · obtain ⟨d, rfl⟩ := mem_runWords hcode
        rw [isRun_mark] at hrun
        cases hrun
      · rw [List.mem_singleton.1 hcode]
        cases v' <;> rfl
    | lit w' =>
      obtain rfl : w = w' := List.mem_singleton.1 hw
      have hflag := hf w hs.1
      rw [isRun_eq, hflag.2] at hrun
      rw [runValue_eq, hflag.1, hrun]

theorem Encodes.complement (h : Encodes v b segs c r) :
    c.complement = .ok ⟨true, b.size, b.size_lt, segs.flatMap (Seg.coded !v)⟩ := by
  obtain ⟨f, hf⟩ := h.built.flagged
  have hmap : (segs.flatMap (Seg.coded v)).map complWord = segs.flatMap (Seg.coded !v) := by
    rw [List.map_flatMap]
    exact List.flatMap_congr fun s hs => coded_not (h.segments.segs_of s hs) hf
  rw [h.eq, ← hmap]
  rfl

theorem Encodes.any_eq (h : Encodes v b segs c r) : any c = .ok (decide (∃ s ∈ segs, s.Shows v)) := by
  have hc : c.isCompress = true := by rw [h.eq]
  rw [any_packed hc, h.eq]
  refine congrArg Except.ok (Bool.eq_iff_iff.2 ?_)
  rw [List.any_flatMap, List.any_eq_true, decide_eq_true_iff]
  exact exists_congr fun s => and_congr_right fun hs => shows_iff v (h.segments.segs_of s hs)

/-- The bits a compressed bitmap stands for are the value bits of its segments, but for those
    behind the size. -/
theorem Encodes.countP_eq (h : Encodes v b segs c r) :
    ((segs.flatMap Seg.words).map (countOf v)).sum = (List.range b.size).countP r + padding v b := by
  obtain ⟨m, hm⟩ := Nat.exists_eq_add_of_le (size_le h.built.plain).1
  have hbits : (List.range b.size).countP r = (List.range b.size).countP fun i => b.bit i == v :=
    List.countP_congr fun i hi => by rw [h.bits_eq i (List.mem_range.1 hi)]
  have hcount : countOf v ∘ bits = countOf v := funext (countOf_bits v)
  rw [h.segments.words_eq, List.map_map, hcount, ← countP_words, hm, countP_range_add, hbits, padding, hm,
    Nat.add_sub_cancel_left]
  rfl

theorem Encodes.getCount_eq (h : Encodes v b segs c r) :
    getCount c = .ok ((List.range c.size).countP r) ↔
      (2 ^ 32 : ℤ) ∣ padding v b + (segs.map (Seg.miscount v)).sum := by
  have hc : c.isCompress = true := by rw [h.eq]
  obtain ⟨f, hf⟩ := h.built.flagged
  have hweight := weight_segs v h.segments.segs_of hf
  have hcount := h.countP_eq
  have hle : (List.range b.size).countP r ≤ b.size :=
    List.countP_le_length.trans (List.length_range (n := b.size)).le
  have hsize := b.size_lt
  rw [getCount_packed hc, Except.ok.injEq, h.eq]
  dsimp only
  rw [hcount, Nat.cast_add] at hweight
  omega

/-- **A compressed bitmap is measured right** exactly if `PackedExact`. -/
theorem Encodes.measures (h : Encodes v b segs c r) : Measures c r ↔ PackedExact v b segs := by
  have hsize : c.size = b.size := by rw [h.eq]
  have hbits : (∃ i < c.size, r i = true) ↔ ∃ i < b.size, b.bit i = v := by
    rw [hsize]
    exact exists_congr fun i => and_congr_right fun hi => by rw [h.bits_eq i hi, beq_iff_eq]
  have hany : any c = .ok (decide (∃ i < c.size, r i = true)) ↔
      ((∃ s ∈ segs, s.Shows v) ↔ ∃ i < b.size, b.bit i = v) := by
    rw [h.any_eq, Except.ok.injEq, decide_eq_decide, hbits]
  exact ⟨fun hm => ⟨hany.1 hm.any_eq, h.getCount_eq.1 hm.count_eq⟩,
    fun he => ⟨hany.2 he.shows_iff, h.getCount_eq.2 he.sum_dvd⟩⟩

/-- **A plain bitmap is measured right** exactly if `AnyExact` and `CountExact`. -/
theorem measures_plain_iff (hb : Built b) (hr : ∀ i < b.size, b.get i = .ok (r i)) :
    Measures b r ↔ AnyExact b ∧ CountExact b := by
  obtain ⟨f, hf⟩ := hb.flagged
  have hbits : ∀ i < b.size, r i = b.bit i := fun i hi =>
    Except.ok.inj ((hr i hi).symm.trans (hb.plain.get_ret hi))
  have hany : (∃ i < b.size, r i = true) ↔ ∃ i < b.size, b.bit i = true :=
    exists_congr fun i => and_congr_right fun hi => by rw [hbits i hi]
  have hcount : (List.range b.size).countP r = (List.range b.size).countP b.bit :=
    List.countP_congr fun i hi => by rw [hbits i (List.mem_range.1 hi)]
  rw [← any_plain_iff hb.plain hf, ← getCount_plain_iff hb.plain hf, ← hcount]
  simp only [← hany]
  exact ⟨fun h => ⟨h.any_eq, h.count_eq⟩, fun h => ⟨h.1, h.2⟩⟩

end

/-- A bitmap that can be made is a plain one, or one compressed. -/
theorem Reached.cases {c : Bitmap} {r : ℕ → Bool} (h : Reached c r) :
    (Built c ∧ ∀ i < c.size, c.get i = .ok (r i)) ∨ ∃ v b segs, Encodes v b segs c r := by
  induction h with
  | built hb hr => exact .inl ⟨hb, hr⟩
  | @compress d d' r h hc ih =>
    rcases ih with ⟨hb, hr⟩ | ⟨v, b, segs, henc⟩
    · obtain ⟨segs, hsegs, hret⟩ := compress_ret hb.plain
      rw [hret] at hc
      refine .inr ⟨true, _, segs, hb, hsegs, (Except.ok.inj hc).symm, fun i hi => ?_⟩
      rw [beq_true]
      exact Except.ok.inj ((hr i hi).symm.trans (hb.plain.get_ret hi))
    · have hsame : d.compress = .ok d := by
        rw [henc.eq]
        rfl
      rw [hsame] at hc
      exact .inr ⟨v, b, segs, Except.ok.inj hc ▸ henc⟩
  | @complement d d' r h hc ih =>
    rcases ih with ⟨hb, hr⟩ | ⟨v, b, segs, henc⟩
    · have hret := complement_ret hb.plain
      have hb' : Built d' := .complement hb hc
      rw [hret] at hc
      obtain rfl := Except.ok.inj hc
      refine .inl ⟨hb', fun i hi => ?_⟩
      have hword : i / valueSize < d.data.length := by
        rw [hb.plain.length_eq]
        exact (words_bounds d.size_lt).2.2 i hi
      have hbit : r i = d.bit i := Except.ok.inj ((hr i hi).symm.trans (hb.plain.get_ret hi))
      rw [hb'.plain.get_ret hi]
      show Except.ok _ = Except.ok !r i
      rw [hbit]
      exact congrArg Except.ok (bitAt_map_not hword)
    · rw [henc.complement] at hc
      refine .inr ⟨!v, b, segs, henc.built, henc.segments, (Except.ok.inj hc).symm, fun i hi => ?_⟩
      rw [henc.bits_eq i hi]
      cases b.bit i <;> cases v <;> rfl

end Ancfl.Bitmap
