/-
  Compressed bitmaps as lists of segments.

  * `Seg` is a run of `k` equal words or a word kept as it is, `Seg.code` what
    `compress` writes for it, `Seg.words` the value bits it stands for;
  * `compress_ret`: `compress` writes the segments of the bitmap, runs of the
    same value never next to each other;
  * `gather_runWords`, `walk_seg`: the loop over a compressed bitmap finds the
    segments again, unless a word that was kept has the run bit.
-/
import Ancfl.Ds.Bitmap.Plain
import Ancfl.Lib.Call
import Mathlib.Data.List.Chain

namespace Ancfl.Bitmap

open Lib

/-! ## Value bits -/

/-- The value bits of a word. -/
def bits (w : Word) : Word := w &&& countMask

/-- A word some of whose value bits are set and some are not. -/
def Partial (w : Word) : Prop := ∀ v, bits w ≠ fillWord v

instance (w : Word) : Decidable (Partial w) := inferInstanceAs (Decidable (∀ _, _))

theorem getLsbD_bits (w : Word) (i : ℕ) : (bits w).getLsbD i = (decide (i < 14) && w.getLsbD i) :=
  getLsbD_and_countMask w i

theorem bits_ext {w w' : Word} (h : ∀ i < 14, w.getLsbD i = w'.getLsbD i) : bits w = bits w' := by
  refine BitVec.eq_of_getLsbD_eq fun i _ => ?_
  rw [getLsbD_bits, getLsbD_bits]
  by_cases hi : i < 14
  · rw [h i hi]
  · simp [hi]

theorem getLsbD_of_bits {w w' : Word} (h : bits w = bits w') {i : ℕ} (hi : i < 14) :
    w.getLsbD i = w'.getLsbD i := by
  have := congrArg (BitVec.getLsbD · i) h
  simpa [getLsbD_bits, hi] using this

@[simp]
theorem bits_bits (w : Word) : bits (bits w) = bits w :=
  bits_ext fun i hi => by rw [getLsbD_bits]; simp [hi]

theorem bits_and (w w' : Word) : bits (w &&& w') = bits w &&& bits w' := by
  refine BitVec.eq_of_getLsbD_eq fun i _ => ?_
  simp only [getLsbD_bits, BitVec.getLsbD_and]
  cases decide (i < 14) <;> simp

theorem bits_or (w w' : Word) : bits (w ||| w') = bits w ||| bits w' := by
  refine BitVec.eq_of_getLsbD_eq fun i _ => ?_
  simp only [getLsbD_bits, BitVec.getLsbD_or]
  cases decide (i < 14) <;> simp

theorem getLsbD_fillWord (v : Bool) (i : ℕ) : (fillWord v).getLsbD i = (decide (i < 14) && v) := by
  cases v with
  | false => simp [fillWord]
  | true =>
    have h := getLsbD_bits (BitVec.allOnes 16) i
    rw [bits, BitVec.allOnes_and] at h
    rw [fillWord, if_pos rfl, h, BitVec.getLsbD_allOnes]
    by_cases hi : i < 14
    · simp [hi]; omega
    · simp [hi]

@[simp]
theorem bits_fillWord (v : Bool) : bits (fillWord v) = fillWord v := by cases v <;> rfl

theorem fillWord_inj {v v' : Bool} : fillWord v = fillWord v' ↔ v = v' := by
  cases v <;> cases v' <;> decide

theorem toNat_bits (w : Word) : (bits w).toNat = w.toNat % 2 ^ 14 := by
  rw [bits, BitVec.toNat_and, show countMask.toNat = 2 ^ 14 - 1 by rfl, Nat.and_two_pow_sub_one_eq_mod]

/-- A word is full, empty, or neither. -/
theorem full_or_partial (w : Word) : (∃ v, bits w = fillWord v) ∨ Partial w := by
  by_cases h : ∃ v, bits w = fillWord v
  · exact .inl h
  · exact .inr fun v hv => h ⟨v, hv⟩

theorem isRun_eq (w : Word) : isRun w = w.getLsbD 15 := by
  rw [isRun, show compressMask = pos 15 by rfl]
  exact Bool.eq_iff_iff.2 (decide_eq_true_iff.trans (and_pos_ne_zero (by decide) w))

theorem runValue_eq (w : Word) : runValue w = w.getLsbD 14 := by
  rw [runValue, show valueMask = pos 14 by rfl]
  exact Bool.eq_iff_iff.2 (decide_eq_true_iff.trans (and_pos_ne_zero (by decide) w))

@[simp]
theorem isRun_fillWord (v : Bool) : isRun (fillWord v) = false := by cases v <;> rfl

theorem countBits_bits (w : Word) : countBits (bits w) = (List.range 14).countP fun i => w.getLsbD i := by
  rw [countBits, show List.range 16 = List.range 14 ++ [14, 15] by rfl, List.countP_append]
  have hhigh : [14, 15].countP (fun i => (bits w).getLsbD i) = 0 := by
    simp [getLsbD_bits]
  rw [hhigh, Nat.add_zero]
  refine List.countP_congr fun i hi => ?_
  rw [List.mem_range] at hi
  simp [getLsbD_bits, hi]

theorem countBits_eq_zero (w : Word) : countBits (bits w) = 0 ↔ bits w = fillWord false := by
  rw [countBits_bits, List.countP_eq_zero]
  constructor
  · intro h
    rw [← bits_fillWord]
    refine bits_ext fun i hi => ?_
    rw [getLsbD_fillWord, Bool.and_false]
    simpa using h i (List.mem_range.2 hi)
  · intro h i hi
    rw [← bits_fillWord] at h
    rw [getLsbD_of_bits h (List.mem_range.1 hi), getLsbD_fillWord]
    simp

theorem countBits_eq_valueSize (w : Word) :
    countBits (bits w) = valueSize ↔ bits w = fillWord true := by
  rw [countBits_bits, show valueSize = (List.range 14).length by rfl, List.countP_eq_length]
  constructor
  · intro h
    rw [← bits_fillWord]
    refine bits_ext fun i hi => ?_
    rw [getLsbD_fillWord, h i (List.mem_range.2 hi)]
    simp [hi]
  · intro h i hi
    have hi' := List.mem_range.1 hi
    rw [← bits_fillWord] at h
    rw [getLsbD_of_bits h hi', getLsbD_fillWord]
    simp [hi']

/-! ## The words of a run -/

/-- A digit of a run length, marked with the value of the run. -/
def mark (v : Bool) (d : Word) : Word :=
  if v then compressMask ||| valueMask ||| d else compressMask ||| d

theorem isRun_mark (v : Bool) (d : Word) : isRun (mark v d) = true := by
  rw [isRun_eq, mark]; cases v <;> simp [compressMask, valueMask]

theorem runValue_mark (v : Bool) (d : Word) : runValue (mark v (bits d)) = v := by
  have hd : (bits d).getLsbD 14 = false := by rw [getLsbD_bits]; simp
  rw [runValue_eq, mark]
  cases v with
  | false => rw [if_neg (by simp), BitVec.getLsbD_or, hd]; rfl
  | true => rw [if_pos rfl, BitVec.getLsbD_or, hd]; rfl

theorem bits_mark (v : Bool) (d : Word) : bits (mark v (bits d)) = bits d := by
  have hmask : bits compressMask = 0#16 ∧ bits valueMask = 0#16 := ⟨rfl, rfl⟩
  cases v
  · show bits (compressMask ||| bits d) = _
    rw [bits_or, hmask.1, bits_bits, BitVec.zero_or]
  · show bits (compressMask ||| valueMask ||| bits d) = _
    rw [bits_or, bits_or, hmask.1, hmask.2, bits_bits, BitVec.zero_or, BitVec.zero_or]

theorem sameRun_mark (v : Bool) (d : Word) : sameRun v (mark v (bits d)) = true := by
  rw [sameRun, isRun_mark, runValue_mark]; simp

theorem runWords_zero (v : Bool) : runWords v 0 = [] := by rw [runWords]; simp

theorem runWords_pos (v : Bool) {n : ℕ} (hn : n ≠ 0) :
    runWords v n = mark v (bits (BitVec.ofNat 16 n)) :: runWords v (n / 2 ^ 14) := by
  rw [runWords, dif_neg hn, Nat.shiftRight_eq_div_pow]
  rfl

theorem mem_runWords {v : Bool} {n : ℕ} {w : Word} (h : w ∈ runWords v n) : ∃ d, w = mark v (bits d) := by
  induction n using Nat.strong_induction_on with
  | _ n ih =>
    by_cases hn : n = 0
    · rw [hn, runWords_zero] at h; simp at h
    · rw [runWords_pos v hn] at h
      rcases List.mem_cons.1 h with rfl | h
      · exact ⟨_, rfl⟩
      · exact ih _ (Nat.div_lt_self (Nat.pos_of_ne_zero hn) (by decide)) h

theorem length_runWords_le (v : Bool) (n : ℕ) : (runWords v n).length ≤ n := by
  induction n using Nat.strong_induction_on with
  | _ n ih =>
    by_cases hn : n = 0
    · rw [hn, runWords_zero]; simp
    · have hlt : n / 2 ^ 14 < n := Nat.div_lt_self (Nat.pos_of_ne_zero hn) (by decide)
      have := ih _ hlt
      rw [runWords_pos v hn, List.length_cons]
      omega

/-- A digit above the count gathered so far is added to it. -/
theorem digit_or {k count d : ℕ} (hk : 14 * k < 32) (hcount : count < 2 ^ (14 * k)) :
    (d <<< (14 * k)) % 2 ^ 32 ||| count = (count + d * 2 ^ (14 * k)) % 2 ^ 32 := by
  obtain ⟨r, hr⟩ : ∃ r, 32 = 14 * k + r := ⟨32 - 14 * k, by omega⟩
  have hpos : 0 < 2 ^ (14 * k) := Nat.two_pow_pos _
  rw [Nat.shiftLeft_eq, hr, Nat.pow_add, Nat.mul_comm d, Nat.mul_mod_mul_left,
    ← Nat.two_pow_add_eq_or_of_lt hcount, Nat.mod_mul, Nat.add_mul_mod_self_left,
    Nat.add_mul_div_left _ _ hpos, Nat.mod_eq_of_lt hcount, Nat.div_eq_of_lt hcount, Nat.zero_add,
    Nat.add_comm]

/-- **Gathering the digits of a number gives the number**, truncated to 32 bits, and goes on
    with the words after them. -/
theorem gather_runWords (v : Bool) (rest : List Word) (m : ℕ) : ∀ {k count : ℕ},
    count < 2 ^ (14 * k) → count < 2 ^ 32 → m * 2 ^ (14 * k) < 2 ^ 42 →
      gather k count (runWords v m ++ rest) =
        gather (k + (runWords v m).length) ((count + m * 2 ^ (14 * k)) % 2 ^ 32) rest := by
  induction m using Nat.strong_induction_on with
  | _ m ih =>
    intro k count hcount hlt hm
    by_cases h0 : m = 0
    · subst h0
      rw [runWords_zero, List.nil_append, Nat.zero_mul, Nat.add_zero, Nat.mod_eq_of_lt hlt]
      rfl
    · have hk : 14 * k < 42 := by
        refine (Nat.pow_lt_pow_iff_right (show 1 < 2 by decide)).1 (lt_of_le_of_lt ?_ hm)
        exact Nat.le_mul_of_pos_left _ (Nat.pos_of_ne_zero h0)
      have hpow : 2 ^ (14 * (k + 1)) = 2 ^ 14 * 2 ^ (14 * k) := by
        rw [← Nat.pow_add]; congr 1; omega
      have hd : (bits (mark v (bits (BitVec.ofNat 16 m)))).toNat = m % 2 ^ 14 := by
        rw [bits_mark, toNat_bits, BitVec.toNat_ofNat]; omega
      have hsum : m % 2 ^ 14 * 2 ^ (14 * k) + m / 2 ^ 14 * 2 ^ (14 * (k + 1)) = m * 2 ^ (14 * k) := by
        rw [hpow, ← Nat.mul_assoc, ← Nat.add_mul, Nat.add_comm, Nat.div_add_mod']
      have hnext : count + m % 2 ^ 14 * 2 ^ (14 * k) < 2 ^ (14 * (k + 1)) := by
        have : (m % 2 ^ 14 + 1) * 2 ^ (14 * k) ≤ 2 ^ 14 * 2 ^ (14 * k) :=
          Nat.mul_le_mul_right _ (Nat.mod_lt _ (by decide))
        rw [Nat.add_mul, Nat.one_mul] at this
        rw [hpow]
        omega
      rw [runWords_pos v h0, List.cons_append, gather, if_neg (by rw [valueSize]; omega)]
      show gather (k + 1)
        (((bits (mark v (bits (BitVec.ofNat 16 m)))).toNat <<< (14 * k)) % 2 ^ 32 ||| count) _ = _
      rw [hd, digit_or (by omega) hcount,
        ih (m / 2 ^ 14) (Nat.div_lt_self (Nat.pos_of_ne_zero h0) (by decide))
          (lt_of_le_of_lt (Nat.mod_le _ _) hnext) (Nat.mod_lt _ (by decide)) (by omega),
        Nat.mod_add_mod, Nat.add_assoc count, hsum, List.length_cons, Nat.add_assoc k, Nat.add_comm 1]

/-! ## Segments -/

/-- A run of `k` full or empty words, or a word kept as it is. -/
inductive Seg where
  | run (v : Bool) (k : ℕ)
  | lit (w : Word)

/-- What `compress` writes for a segment. -/
def Seg.code : Seg → List Word
  | run v k => if 1 < k then runWords v (valueSize * k) else [fillWord v]
  | lit w => [w]

/-- The value bits a segment stands for. -/
def Seg.words : Seg → List Word
  | run v k => List.replicate k (fillWord v)
  | lit w => [bits w]

/-- The item the loop over a compressed bitmap finds. -/
def Seg.item : Seg → Item
  | run v k => if 1 < k then .run v (valueSize * k % 2 ^ 32) else .word (fillWord v)
  | lit w => .word (bits w)

/-- Runs next to each other have different values. -/
def Seg.Differs : Seg → Seg → Prop
  | run v _, run v' _ => v ≠ v'
  | _, _ => True

/-- A segment of the words `ws`. -/
def Seg.Of (ws : List Word) : Seg → Prop
  | run _ k => 0 < k
  | lit w => w ∈ ws ∧ Partial w

theorem Seg.Of.mono {ws ws' : List Word} (h : ws ⊆ ws') : ∀ {s : Seg}, s.Of ws → s.Of ws'
  | run _ _, hs => hs
  | lit _, hs => ⟨h hs.1, hs.2⟩

theorem Seg.length_code_le {ws : List Word} : ∀ {s : Seg}, s.Of ws → s.code.length ≤ s.words.length
  | run v k, hs => by
    show (if 1 < k then _ else _ : List Word).length ≤ (List.replicate k (fillWord v)).length
    split_ifs with hk
    · rw [runWords_pos v (by rw [valueSize]; omega), List.length_cons, List.length_replicate]
      have := length_runWords_le v (valueSize * k / 2 ^ 14)
      rw [valueSize] at *
      omega
    · rw [List.length_replicate]; exact hs
  | lit w, _ => le_rfl

/-- The run `compress` has not written out. -/
def pending (v : Bool) (n : ℕ) : List Seg := if n = 0 then [] else [.run v n]

/-- The loop of `compress` has written the segments `segs` of the words `ws`, and the last `n`
    words are the pending run. -/
structure Packs (ws : List Word) (st : Pack) (segs : List Seg) (n : ℕ) : Prop where
  count_eq : st.count = valueSize * n
  out_eq : st.out = segs.flatMap Seg.code
  words_eq : (segs ++ pending st.value n).flatMap Seg.words = ws.map bits
  chain : segs.IsChain Seg.Differs
  last : ∀ s ∈ segs.getLast?, ∀ v k, n = 0 ∨ v = st.value → s.Differs (.run v k)
  segs_of : ∀ s ∈ segs, s.Of ws

section
variable {ws : List Word} {st : Pack} {segs : List Seg} {n : ℕ}

theorem mem_pending {v : Bool} {s : Seg} : s ∈ pending v n ↔ s = .run v n ∧ n ≠ 0 := by
  unfold pending; split_ifs with h <;> simp [h]

theorem Packs.emit_eq (h : Packs ws st segs n) :
    st.emit = (segs ++ pending st.value n).flatMap Seg.code := by
  have hdiv : st.count / valueSize = n := by
    rw [h.count_eq, Nat.mul_div_cancel_left _ (by decide)]
  rw [Pack.emit, hdiv, h.count_eq, h.out_eq, List.flatMap_append, pending]
  by_cases h0 : n = 0
  · simp [h0, valueSize]
  · rw [if_neg h0, List.flatMap_singleton, Seg.code]
    split_ifs with h1 h2
    · rfl
    · rfl
    · rw [valueSize] at h2; omega

theorem Packs.chain_append (h : Packs ws st segs n) : (segs ++ pending st.value n).IsChain Seg.Differs := by
  refine List.isChain_append.2 ⟨h.chain, ?_, fun s hs t ht => ?_⟩
  · unfold pending; split_ifs <;> simp
  · obtain ⟨rfl, -⟩ := mem_pending.1 (List.mem_of_mem_head? ht)
    exact h.last s hs _ _ (.inr rfl)

theorem Packs.of_append (h : Packs ws st segs n) : ∀ s ∈ segs ++ pending st.value n, s.Of ws := by
  intro s hs
  rcases List.mem_append.1 hs with hs | hs
  · exact h.segs_of s hs
  · obtain ⟨rfl, h0⟩ := mem_pending.1 hs
    exact Nat.pos_of_ne_zero h0

theorem Packs.last_append (h : Packs ws st segs n) {v : Bool} (hv : v ≠ st.value) :
    ∀ s ∈ (segs ++ pending st.value n).getLast?, ∀ k, s.Differs (.run v k) := by
  intro s hs k
  by_cases h0 : n = 0
  · rw [pending, if_pos h0, List.append_nil] at hs
    exact h.last s hs v k (.inl h0)
  · rw [pending, if_neg h0, List.getLast?_append] at hs
    simp only [List.getLast?_singleton, Option.some_or, Option.mem_def, Option.some.injEq] at hs
    subst hs
    exact hv.symm

/-- The loop sees whether a word is full, empty, or neither. -/
theorem step_fill {w : Word} {v : Bool} (hw : bits w = fillWord v) (hc : valueSize ∣ st.count) :
    st.step w = .ok (if st.value = v then { st with count := st.count + valueSize }
      else ⟨v, valueSize, st.emit⟩) := by
  have hzero : countBits (w &&& countMask) = 0 ↔ v = false :=
    (countBits_eq_zero w).trans (by rw [hw, fillWord_inj])
  have hfull : countBits (w &&& countMask) = valueSize ↔ v = true :=
    (countBits_eq_valueSize w).trans (by rw [hw, fillWord_inj])
  have hmod : ¬(st.count / valueSize > 1 ∧ st.count % valueSize ≠ 0) :=
    fun h => h.2 (Nat.mod_eq_zero_of_dvd hc)
  rw [Pack.step]
  simp only [hzero, hfull, if_neg hmod]
  cases v <;> cases hv : st.value <;> simp

theorem step_partial {w : Word} (hw : Partial w) (hc : valueSize ∣ st.count) :
    st.step w = .ok ⟨st.value, 0, st.emit ++ [w]⟩ := by
  have hzero : ¬countBits (w &&& countMask) = 0 := fun h => hw _ ((countBits_eq_zero w).1 h)
  have hfull : ¬countBits (w &&& countMask) = valueSize :=
    fun h => hw _ ((countBits_eq_valueSize w).1 h)
  have hmod : ¬(st.count / valueSize > 1 ∧ st.count % valueSize ≠ 0) :=
    fun h => h.2 (Nat.mod_eq_zero_of_dvd hc)
  rw [Pack.step]
  simp only [hzero, hfull, if_neg hmod]
  simp

/-- **One step of the loop.** -/
theorem Packs.step (h : Packs ws st segs n) (w : Word) :
    ∃ st' segs' n', st.step w = .ok st' ∧ Packs (ws ++ [w]) st' segs' n' := by
  have hdvd : valueSize ∣ st.count := ⟨n, h.count_eq⟩
  have hsub : ws ⊆ ws ++ [w] := List.subset_append_left _ _
  rcases full_or_partial w with ⟨v, hw⟩ | hw
  · rw [step_fill hw hdvd]
    by_cases hv : st.value = v
    · refine ⟨_, segs, n + 1, rfl, ?_⟩
      rw [if_pos hv]
      refine ⟨?_, h.out_eq, ?_, h.chain, fun s hs v' k hv' => ?_, fun s hs => (h.segs_of s hs).mono hsub⟩
      · show st.count + valueSize = _
        rw [h.count_eq, Nat.mul_add, Nat.mul_one]
      · have hwords := h.words_eq
        rw [List.map_append, ← hwords, List.flatMap_append, List.flatMap_append, List.append_assoc]
        congr 1
        simp only [pending, if_neg (Nat.succ_ne_zero n), hv, List.flatMap_singleton, Seg.words,
          List.map_cons, List.map_nil, hw]
        rw [List.replicate_succ']
        by_cases h0 : n = 0
        · simp [h0]
        · simp [h0, Seg.words]
      · exact h.last s hs v' k (hv'.imp_left fun h0 => absurd h0 (Nat.succ_ne_zero n))
    · refine ⟨_, segs ++ pending st.value n, 1, rfl, ?_⟩
      rw [if_neg hv]
      refine ⟨(Nat.mul_one _).symm, h.emit_eq, ?_, h.chain_append, fun s hs v' k hv' => ?_,
        fun s hs => (h.of_append s hs).mono hsub⟩
      · rw [List.map_append, ← h.words_eq, List.flatMap_append]
        simp [pending, Seg.words, hw]
      · obtain rfl : v' = v := hv'.resolve_left Nat.one_ne_zero
        exact h.last_append (Ne.symm hv) s hs k
  · refine ⟨_, segs ++ pending st.value n ++ [.lit w], 0, step_partial hw hdvd, ?_⟩
    refine ⟨rfl, ?_, ?_, ?_, fun s hs v' k _ => ?_, fun s hs => ?_⟩
    · rw [List.flatMap_append, ← h.emit_eq]; rfl
    · rw [List.map_append, ← h.words_eq, List.flatMap_append, List.flatMap_append]
      simp [pending, Seg.words]
    · refine List.isChain_append.2 ⟨h.chain_append, by simp, fun s _ t ht => ?_⟩
      simp only [List.head?_cons, Option.mem_def, Option.some.injEq] at ht
      subst ht
      cases s <;> trivial
    · simp only [List.getLast?_append, List.getLast?_singleton, Option.some_or, Option.mem_def,
        Option.some.injEq] at hs
      subst hs; trivial
    · rcases List.mem_append.1 hs with hs | hs
      · exact (h.of_append s hs).mono hsub
      · obtain rfl := List.mem_singleton.1 hs
        exact ⟨by simp, hw⟩

theorem Packs.foldlM (h : Packs ws st segs n) (ws' : List Word) :
    ∃ st' segs' n', ws'.foldlM Pack.step st = .ok st' ∧ Packs (ws ++ ws') st' segs' n' := by
  induction ws' generalizing ws st segs n with
  | nil => exact ⟨st, segs, n, rfl, by rw [List.append_nil]; exact h⟩
  | cons w ws' ih =>
    obtain ⟨st₁, segs₁, n₁, h₁, hp⟩ := h.step w
    obtain ⟨st₂, segs₂, n₂, h₂, hp⟩ := ih hp
    refine ⟨st₂, segs₂, n₂, ?_, by rw [List.append_cons]; exact hp⟩
    rw [List.foldlM_cons, h₁]
    exact h₂

end

/-- The segments of a list of words. -/
structure Segments (ws : List Word) (segs : List Seg) : Prop where
  words_eq : segs.flatMap Seg.words = ws.map bits
  chain : segs.IsChain Seg.Differs
  segs_of : ∀ s ∈ segs, s.Of ws

theorem length_flatMap_code_le {ws : List Word} {segs : List Seg} (h : ∀ s ∈ segs, s.Of ws) :
    (segs.flatMap Seg.code).length ≤ (segs.flatMap Seg.words).length := by
  induction segs with
  | nil => exact le_rfl
  | cons s segs ih =>
    rw [List.flatMap_cons, List.flatMap_cons, List.length_append, List.length_append]
    exact Nat.add_le_add (Seg.length_code_le (h s (by simp))) (ih fun t ht => h t (by simp [ht]))

/-- **`compress` writes the segments of the words.** -/
theorem compress_ret {b : Bitmap} (hb : Plain b) : ∃ segs, Segments b.data segs ∧
    b.compress = .ok ⟨true, b.size, b.size_lt, segs.flatMap Seg.code⟩ := by
  have hinit : Packs [] ⟨false, 0, []⟩ [] 0 :=
    ⟨rfl, rfl, rfl, List.isChain_nil, by simp, by simp⟩
  obtain ⟨st, segs, n, hfold, hp⟩ := hinit.foldlM b.data
  rw [List.nil_append] at hp
  refine ⟨segs ++ pending st.value n, ⟨hp.words_eq, hp.chain_append, hp.of_append⟩, ?_⟩
  have hlen := length_flatMap_code_le hp.of_append
  rw [hp.words_eq, List.length_map, ← hp.emit_eq] at hlen
  rw [compress, if_neg (by simp [hb.isCompress_eq])]
  show (b.data.foldlM Pack.step ⟨false, 0, []⟩ >>= _) = _
  rw [hfold, ← hp.emit_eq]
  show (if _ then _ else _ : Result Bitmap) = _
  rw [if_neg (by omega)]
  rfl

/-! ## Finding the segments again -/

/-- The word `w` after the segment is taken for one of its digits. -/
def Seg.Joins : Seg → Word → Prop
  | run v k, w => 1 < k ∧ sameRun v w
  | lit _, _ => False

/-- The segment is not empty, not too long for three digits, and not a word with the run bit. -/
def Seg.Ok : Seg → Prop
  | run _ k => 0 < k ∧ valueSize * k < 2 ^ 42
  | lit w => isRun w = false

section
variable {σ : Type} (f : ℕ → Item → σ → Result (ForInStep σ)) (curPos : ℕ) (s : σ)

theorem walk_run {cur : Word} (rest : List Word) (h : isRun cur = true) :
    walk f curPos s (cur :: rest) = (do
      let count ← gather 1 (bits cur).toNat (rest.takeWhile (sameRun (runValue cur)))
      match ← f curPos (.run (runValue cur) count) s with
      | .done s => return s
      | .yield s =>
        walk f ((curPos + count) % 2 ^ 32) s (rest.dropWhile (sameRun (runValue cur)))) := by
  rw [walk, if_pos h]; rfl

theorem walk_word {cur : Word} (rest : List Word) (h : isRun cur = false) :
    walk f curPos s (cur :: rest) = (do
      match ← f curPos (.word (bits cur)) s with
      | .done s => return s
      | .yield s => walk f ((curPos + valueSize) % 2 ^ 32) s rest) := by
  rw [walk, if_neg (by simp [h])]; rfl

/-- The digits of a run are gathered together with the words after it that look like digits. -/
theorem walk_runWords (v : Bool) {n : ℕ} (hn : 0 < n) (hn42 : n < 2 ^ 42) (rest : List Word) :
    walk f curPos s (runWords v n ++ rest) = (do
      let count ← gather (runWords v n).length (n % 2 ^ 32) (rest.takeWhile (sameRun v))
      match ← f curPos (.run v count) s with
      | .done s => return s
      | .yield s => walk f ((curPos + count) % 2 ^ 32) s (rest.dropWhile (sameRun v))) := by
  have hsame : ∀ w ∈ runWords v (n / 2 ^ 14), sameRun v w = true := by
    intro w hw
    obtain ⟨d, rfl⟩ := mem_runWords hw
    exact sameRun_mark v d
  have hcount : (bits (mark v (bits (BitVec.ofNat 16 n)))).toNat = n % 2 ^ 14 := by
    rw [bits_mark, toNat_bits, BitVec.toNat_ofNat]; omega
  have hsum : n % 2 ^ 14 + n / 2 ^ 14 * 2 ^ (14 * 1) = n := by
    rw [Nat.mul_one, Nat.add_comm, Nat.div_add_mod']
  rw [runWords_pos v hn.ne', List.cons_append, walk_run f curPos s _ (isRun_mark v _), runValue_mark,
    List.takeWhile_append_of_pos hsame, List.dropWhile_append_of_pos hsame, hcount,
    gather_runWords v _ _ (Nat.mod_lt _ (by decide)) (by omega) (by omega), hsum, List.length_cons,
    Nat.add_comm 1]

/-- **The loop finds a segment**, if the word after it is not taken for a digit of it. -/
theorem walk_seg {seg : Seg} {rest : List Word} (hok : seg.Ok)
    (hrest : ∀ w ∈ rest.head?, ¬seg.Joins w) :
    walk f curPos s (seg.code ++ rest) = (do
      match ← f curPos seg.item s with
      | .done s => return s
      | .yield s => walk f ((curPos + valueSize * seg.words.length) % 2 ^ 32) s rest) := by
  cases seg with
  | lit w => exact walk_word f curPos s rest hok
  | run v k =>
    have hlen : (Seg.run v k).words.length = k := List.length_replicate
    rw [hlen]
    by_cases hk : 1 < k
    · have hcode : (Seg.run v k).code = runWords v (valueSize * k) := if_pos hk
      have hitem : (Seg.run v k).item = .run v (valueSize * k % 2 ^ 32) := if_pos hk
      have hnone : ∀ w ∈ rest.head?, sameRun v w = false := by
        intro w hw
        have := hrest w hw
        simpa [Seg.Joins, hk] using this
      have htake : rest.takeWhile (sameRun v) = [] ∧ rest.dropWhile (sameRun v) = rest := by
        cases rest with
        | nil => exact ⟨rfl, rfl⟩
        | cons w ws =>
          have := hnone w (by simp)
          simp [this]
      rw [hcode, hitem, walk_runWords f curPos s v (Nat.mul_pos (by decide) hok.1) hok.2, htake.1,
        htake.2]
      show ((f curPos _ s >>= _) : Result σ) = _
      simp only [Nat.add_mod_mod]
    · obtain rfl : k = 1 := by have := hok.1; omega
      have hcode : (Seg.run v 1).code = [fillWord v] := rfl
      have hitem : (Seg.run v 1).item = .word (bits (fillWord v)) := by rw [bits_fillWord]; rfl
      rw [hcode, hitem]
      exact walk_word f curPos s rest (isRun_fillWord v)

end

/-- **What every step of the loop keeps, the loop keeps**, if no step ends it. -/
theorem walk_invariant {σ : Type} {f : ℕ → Item → σ → Result (ForInStep σ)} {I : σ → Prop}
    (hdone : ∀ p item s s', f p item s ≠ .ok (.done s'))
    (ws : List Word) (hrun : ∀ w ∈ ws, isRun w = true → ∀ p n s s', I s →
      f p (.run (runValue w) n) s = .ok (.yield s') → I s')
    (hword : ∀ w ∈ ws, isRun w = false → ∀ p s s', I s → f p (.word (bits w)) s = .ok (.yield s') →
      I s') {curPos : ℕ} {s s' : σ} (hs : I s) (h : walk f curPos s ws = .ok s') : I s' := by
  obtain ⟨n, hn⟩ : ∃ n, ws.length ≤ n := ⟨_, le_rfl⟩
  induction n generalizing ws curPos s with
  | zero =>
    rw [List.length_eq_zero_iff.1 (Nat.le_zero.1 hn), walk] at h
    exact Except.ok.inj h ▸ hs
  | succ n ih =>
    cases ws with
    | nil => rw [walk] at h; exact Except.ok.inj h ▸ hs
    | cons cur rest =>
      rw [List.length_cons, Nat.add_le_add_iff_right] at hn
      cases hcur : isRun cur with
      | true =>
        rw [walk_run f curPos s rest hcur] at h
        obtain ⟨count, -, h⟩ := bind_ok h
        obtain ⟨r, hr, h⟩ := bind_ok h
        cases r with
        | done s₁ => exact absurd hr (hdone _ _ _ _)
        | yield s₁ =>
          have hsub := List.dropWhile_suffix (l := rest) (sameRun (runValue cur))
          exact ih _ (fun w hw => hrun w (List.mem_cons_of_mem _ (hsub.subset hw)))
            (fun w hw => hword w (List.mem_cons_of_mem _ (hsub.subset hw)))
            (hrun cur (by simp) hcur _ _ _ _ hs hr) h (hsub.length_le.trans hn)
      | false =>
        rw [walk_word f curPos s rest hcur] at h
        obtain ⟨r, hr, h⟩ := bind_ok h
        cases r with
        | done s₁ => exact absurd hr (hdone _ _ _ _)
        | yield s₁ =>
          exact ih _ (fun w hw => hrun w (List.mem_cons_of_mem _ hw))
            (fun w hw => hword w (List.mem_cons_of_mem _ hw))
            (hword cur (by simp) hcur _ _ _ hs hr) h hn

end Ancfl.Bitmap
