/-
  When does a bitmap survive `compress` and `uncompress`?

  * `Packable`: the runs do not overflow 32 bits and no word that is kept has
    the run bit, or it does no harm by luck;
  * `unpacked_of_ok`: without such words the value bits are restored;
  * `fill_of_flagged`: with the run bit set in all words, `uncompress` makes
    full and empty words only;
  * `unpacked_iff`: the bits below the size are restored iff the bitmap is
    `Packable`.
-/
import Ancfl.Ds.Bitmap.Apply

namespace Ancfl.Bitmap

open Lib

/-- The bits below the size are the same after `compress` and `uncompress`. -/
def Survives (b : Bitmap) : Prop :=
  ∃ c d, b.compress = .ok c ∧ c.uncompress = .ok d ∧ ∀ i < b.size, d.get i = b.get i

/-- A run at the end reaches the bit `2 ^ 32`. -/
def Overflows (b : Bitmap) : Prop :=
  2 ^ 32 ≤ valueSize * b.data.length ∧
    ∃ init v, b.data.map bits = init ++ [fillWord v, fillWord v]

/-- The number of full words at the end. -/
def trailing (ws : List Word) : ℕ := (ws.reverse.takeWhile (· = fillWord true)).length

/-- Only the last word is neither full nor empty; it is taken for digits of a run, and the run
    that results leaves it empty, as are its bits below the size. -/
def Lucky (b : Bitmap) : Prop :=
  ∃ init w, b.data = init ++ [w] ∧ (∀ x ∈ init, ¬Partial x) ∧
    (∀ i < b.size, valueSize * init.length ≤ i → b.bit i = false) ∧
    ((trailing (init.map bits) < 2 ∧ 2 ^ 32 ≤ valueSize * init.length + (bits w).toNat ∧
        (bits w).toNat % 14 = 4) ∨
      (2 ^ 14 ≤ valueSize * trailing (init.map bits) ∧
        valueSize * trailing (init.map bits) < 2 ^ 28 ∧ (bits w).toNat % 16 = 0))

/-- The bitmap survives `compress` and `uncompress`. -/
def Packable (b : Bitmap) : Prop :=
  ¬Overflows b ∧
    ((∀ w ∈ b.data, isRun w = false) ∨ (∀ w ∈ b.data, ¬Partial w) ∨ Lucky b)

/-! ## Words and bits -/

theorem getD_map_bits (d : List Word) (j : ℕ) : (d.map bits).getD j 0 = bits (d.getD j 0) := by
  have h := List.getD_map (l := d) (d := (0 : Word)) (n := j) bits
  rw [← h]; rfl

theorem bitAt_map_bits (d : List Word) (i : ℕ) : bitAt (d.map bits) i = bitAt d i := by
  have h14 : i % valueSize < 14 := Nat.mod_lt _ (by decide)
  rw [bitAt, getD_map_bits, getLsbD_bits, decide_eq_true h14, Bool.true_and, bitAt]

/-- Words whose bits below the size agree have the same value bits, but for the last. -/
theorem bits_eq_of_agree {size : ℕ} {d d' : List Word} (h : ∀ i < size, bitAt d i = bitAt d' i)
    {j : ℕ} (hj : valueSize * (j + 1) ≤ size) : bits (d.getD j 0) = bits (d'.getD j 0) := by
  refine bits_ext fun i hi => ?_
  rw [← bitAt_mul_add d hi, ← bitAt_mul_add d' hi]
  refine h _ (lt_of_lt_of_le ?_ hj)
  rw [Nat.mul_add]
  exact Nat.add_lt_add_left hi _

/-! ## What the loop of `uncompress` keeps -/

theorem store_ok {data d : List Word} {i : ℕ} {w : Word} (h : store data i w = .ok d) :
    d = data.set i w := by
  by_cases hi : i < data.length
  · rw [store_ret hi] at h
    exact (Except.ok.inj h).symm
  · rw [store, if_neg hi] at h
    cases h

theorem foldlM_store_kept {I : List Word → Prop} {w : Word} (hI : ∀ d i, I d → I (d.set i w))
    {is : List ℕ} {data data' : List Word}
    (h : is.foldlM (fun data i => store data i w) data = .ok data') (hd : I data) : I data' := by
  induction is generalizing data with
  | nil => exact Except.ok.inj h ▸ hd
  | cons i is ih =>
    rw [List.foldlM_cons] at h
    obtain ⟨d, hstore, h⟩ := bind_ok h
    exact ih h (store_ok hstore ▸ hI data i hd)

theorem setRange_kept {I : List Word → Prop} {v : Bool} (hI : ∀ d i, I d → I (d.set i (fillWord v)))
    {start size : ℕ} {data data' : List Word} (h : setRange data start size v = .ok data')
    (hd : I data) : I data' := by
  rw [setRange] at h
  split_ifs at h
  · exact Except.ok.inj h ▸ hd
  · obtain ⟨is, -, h⟩ := bind_ok h
    exact foldlM_store_kept hI h hd

/-- What storing the full or empty words of the runs and the other words keeps, `uncompress`
    keeps. -/
theorem uncompress_kept {I : List Word → Prop} {ws : List Word}
    (hfill : ∀ w ∈ ws, isRun w = true → ∀ d i, I d → I (d.set i (fillWord (runValue w))))
    (hword : ∀ w ∈ ws, isRun w = false → ∀ d i, I d → I (d.set i (bits w)))
    {curPos : ℕ} {d d' : List Word} (hd : I d) (h : walk uncompressItem curPos d ws = .ok d') :
    I d' := by
  refine walk_invariant (fun p item s s' hdone => ?_) ws (fun w hw hrun p n s s' hs hstep => ?_)
    (fun w hw hnot p s s' hs hstep => ?_) hd h
  · cases item with
    | run v n => obtain ⟨x, -, hx⟩ := bind_ok hdone; cases hx
    | word w => obtain ⟨x, -, hx⟩ := bind_ok hdone; cases hx
  · obtain ⟨x, hx, hret⟩ := bind_ok hstep
    obtain rfl := ForInStep.yield.inj (Except.ok.inj hret)
    exact setRange_kept (hfill w hw hrun) hx hs
  · obtain ⟨x, hx, hret⟩ := bind_ok hstep
    obtain rfl := ForInStep.yield.inj (Except.ok.inj hret)
    exact store_ok hx ▸ hword w hw hnot s _ hs

/-- The array `uncompress` starts with. -/
def zeros (n : ℕ) : List Word := List.replicate n 0

/-- The bits of an uncompressed bitmap are those of the words the loop makes. -/
theorem uncompress_iff {size : ℕ} {h : size < 2 ^ 32} {ws : List Word} {r : ℕ → Bool} :
    (∃ y, (⟨true, size, h, ws⟩ : Bitmap).uncompress = .ok y ∧ ∀ i < size, y.get i = .ok (r i)) ↔
      ∃ d, walk uncompressItem 0 (zeros (words size)) ws = .ok d ∧ ∀ i < size, bitAt d i = r i := by
  have hget {d : List Word} (hd : walk uncompressItem 0 (zeros (words size)) ws = .ok d) {i : ℕ}
      (hi : i < size) : (⟨false, size, h, d⟩ : Bitmap).get i = .ok (bitAt d i) := by
    have hlen : d.length = words size :=
      uncompress_kept (I := fun d => d.length = words size) (fun w _ _ d i hd => by simpa using hd)
        (fun w _ _ d i hd => by simpa using hd) List.length_replicate hd
    exact get_ret (b := ⟨false, size, h, d⟩) (by rw [hlen]; exact (words_bounds h).2.2 i hi)
  constructor
  · rintro ⟨y, hy, hsame⟩
    obtain ⟨d, hwalk, hret⟩ := bind_ok hy
    obtain rfl := Except.ok.inj hret
    exact ⟨d, hwalk, fun i hi => Except.ok.inj ((hget hwalk hi).symm.trans (hsame i hi))⟩
  · rintro ⟨d, hwalk, hsame⟩
    refine ⟨⟨false, size, h, d⟩, ?_, fun i hi => by rw [hget hwalk hi, hsame i hi]⟩
    show ((walk uncompressItem 0 (zeros (words size)) ws >>= _) : Result Bitmap) = _
    rw [hwalk]
    rfl

/-- Surviving is a matter of the loop of `uncompress`. -/
theorem survives_iff {b : Bitmap} (hb : Plain b) {segs : List Seg}
    (hc : b.compress = .ok ⟨true, b.size, b.size_lt, segs.flatMap Seg.code⟩) :
    Survives b ↔ ∃ d, walk uncompressItem 0 (zeros (words b.size)) (segs.flatMap Seg.code) = .ok d ∧
      ∀ i < b.size, bitAt d i = b.bit i := by
  rw [← uncompress_iff (h := b.size_lt)]
  constructor
  · rintro ⟨c, y, hcd, hy, hsame⟩
    obtain rfl := Except.ok.inj (hc.symm.trans hcd)
    exact ⟨y, hy, fun i hi => (hsame i hi).trans (hb.get_ret hi)⟩
  · rintro ⟨y, hy, hsame⟩
    exact ⟨_, y, hc, hy, fun i hi => (hsame i hi).trans (hb.get_ret hi).symm⟩

/-! ## The segments of a list of words -/

section
variable {ws : List Word} {segs : List Seg}

theorem length_words_le {s : Seg} (hs : s ∈ segs) : s.words.length ≤ (segs.flatMap Seg.words).length := by
  obtain ⟨l, r, rfl⟩ := List.append_of_mem hs
  simp only [List.flatMap_append, List.flatMap_cons, List.length_append]
  omega

/-- Segments are found again if no word that is kept has the run bit. -/
theorem Segments.ok (h : Segments ws segs) (hlen : ws.length ≤ 2 ^ 32)
    (hlit : ∀ w ∈ ws, Partial w → isRun w = false) : ∀ s ∈ segs, s.Ok := by
  intro s hs
  have hle := length_words_le hs
  rw [h.words_eq, List.length_map] at hle
  have hof := h.segs_of s hs
  cases s with
  | lit w => exact hlit w hof.1 hof.2
  | run v k =>
    rw [Seg.words, List.length_replicate] at hle
    refine ⟨hof, ?_⟩
    rw [valueSize]; omega

/-- The segments of words that end in a full or empty one end in a run. -/
theorem last_fill (hof : ∀ s ∈ segs, s.Of ws) {init : List Word} {v : Bool}
    (h : segs.flatMap Seg.words = init ++ [fillWord v]) :
    ∃ segs₁ k, segs = segs₁ ++ [.run v (k + 1)] ∧
      init = segs₁.flatMap Seg.words ++ List.replicate k (fillWord v) := by
  rcases segs.eq_nil_or_concat with rfl | ⟨segs₁, s, rfl⟩
  · simp at h
  · rw [List.concat_eq_append] at *
    rw [List.flatMap_append, List.flatMap_singleton] at h
    have hs := hof s (by simp)
    cases s with
    | lit w =>
      have := (List.append_inj' h rfl).2
      exact absurd (List.singleton_inj.1 this) (hs.2 v)
    | run v' k =>
      obtain ⟨k, rfl⟩ := Nat.exists_eq_succ_of_ne_zero (Nat.pos_iff_ne_zero.1 hs)
      rw [Seg.words, List.replicate_succ', ← List.append_assoc] at h
      obtain ⟨hinit, hlast⟩ := List.append_inj' h rfl
      obtain rfl := fillWord_inj.1 (List.singleton_inj.1 hlast)
      exact ⟨segs₁, k, rfl, hinit.symm⟩

/-- Runs of the same value are not next to each other, so that a run is as long as it can be. -/
theorem not_last_fill {v : Bool} {k : ℕ} {segs₁ : List Seg} (hof : ∀ s ∈ segs₁, s.Of ws)
    (hchain : (segs₁ ++ [Seg.run v k]).IsChain Seg.Differs) {init : List Word} :
    segs₁.flatMap Seg.words ≠ init ++ [fillWord v] := by
  intro h
  obtain ⟨segs₂, k', rfl, -⟩ := last_fill hof h
  exact (List.isChain_append.1 hchain).2.2 (.run v (k' + 1)) (by simp) (.run v k) (by simp) rfl

/-- The segments of words that end in two full or two empty ones end in a long run. -/
theorem last_long (hof : ∀ s ∈ segs, s.Of ws) (hchain : segs.IsChain Seg.Differs) {init : List Word}
    {v : Bool} (h : segs.flatMap Seg.words = init ++ [fillWord v, fillWord v]) :
    ∃ segs₁ k, segs = segs₁ ++ [.run v k] ∧ 1 < k := by
  rw [List.append_cons] at h
  obtain ⟨segs₁, k, rfl, hinit⟩ := last_fill hof h
  refine ⟨segs₁, k + 1, rfl, ?_⟩
  cases k with
  | zero =>
    rw [List.replicate_zero, List.append_nil] at hinit
    exact absurd hinit.symm (not_last_fill (fun s hs => hof s (by simp [hs])) hchain)
  | succ k => omega

theorem long_last {s : Seg} (hs : s ∈ segs.getLast?) (hlong : s.Long) :
    ∃ init v, segs.flatMap Seg.words = init ++ [fillWord v, fillWord v] := by
  obtain ⟨segs₁, rfl⟩ : ∃ segs₁, segs = segs₁ ++ [s] := by
    rcases segs.eq_nil_or_concat with rfl | ⟨segs₁, t, rfl⟩
    · simp at hs
    · rw [List.concat_eq_append] at *
      simp only [List.getLast?_append, List.getLast?_singleton, Option.some_or, Option.mem_def,
        Option.some.injEq] at hs
      exact ⟨segs₁, by rw [hs]⟩
  cases s with
  | lit _ => exact hlong.elim
  | run v k =>
    obtain ⟨k, rfl⟩ := Nat.exists_eq_add_of_lt hlong
    refine ⟨segs₁.flatMap Seg.words ++ List.replicate k (fillWord v), v, ?_⟩
    rw [List.flatMap_append, List.flatMap_singleton, Seg.words, List.append_assoc, Nat.add_comm 1 k,
      List.replicate_succ', List.replicate_succ', List.append_assoc]
    rfl

theorem Segments.length_eq (h : Segments ws segs) : (segs.flatMap Seg.words).length = ws.length := by
  rw [h.words_eq, List.length_map]

/-- Without overflow, a long run at the end ends below `2 ^ 32`. -/
theorem Segments.long_bound {b : Bitmap} (h : Segments b.data segs) (hover : ¬Overflows b) :
    ∀ s ∈ segs.getLast?, s.Long → valueSize * b.data.length < 2 ^ 32 := by
  intro s hs hlong
  obtain ⟨init, v, hend⟩ := long_last hs hlong
  by_contra h32
  exact hover ⟨Nat.le_of_not_lt h32, init, v, h.words_eq ▸ hend⟩

/-! ### Full words at the end -/

theorem trailing_concat (xs : List Word) (x : Word) :
    trailing (xs ++ [x]) = if x = fillWord true then trailing xs + 1 else 0 := by
  rw [trailing, List.reverse_append, List.reverse_singleton, List.singleton_append,
    List.takeWhile_cons]
  split_ifs with h1 h2 h2 <;> simp_all [trailing]

theorem trailing_replicate (xs : List Word) (k : ℕ) :
    trailing (xs ++ List.replicate k (fillWord true)) = trailing xs + k := by
  induction k with
  | zero => simp
  | succ k ih =>
    rw [List.replicate_succ', ← List.append_assoc, trailing_concat, if_pos rfl, ih, Nat.add_assoc]

theorem trailing_run {k : ℕ} {segs₁ : List Seg} (hof : ∀ s ∈ segs₁, s.Of ws)
    (hchain : (segs₁ ++ [Seg.run true k]).IsChain Seg.Differs) :
    trailing ((segs₁ ++ [Seg.run true k]).flatMap Seg.words) = k := by
  rw [List.flatMap_append, List.flatMap_singleton, Seg.words, trailing_replicate]
  have hzero : trailing (segs₁.flatMap Seg.words) = 0 := by
    rcases (segs₁.flatMap Seg.words).eq_nil_or_concat with h | ⟨init, x, h⟩
    · rw [h]; rfl
    · rw [List.concat_eq_append] at h
      rw [h, trailing_concat, if_neg]
      rintro rfl
      exact not_last_fill hof hchain h
  rw [hzero, Nat.zero_add]

/-- Either a long run of full words ends the segments, or nothing a word with both marks would
    be taken for a digit of. -/
theorem trailing_cases (hof : ∀ s ∈ segs, s.Of ws) (hchain : segs.IsChain Seg.Differs) :
    (∃ segs₁ k, segs = segs₁ ++ [.run true k] ∧ 1 < k ∧ trailing (segs.flatMap Seg.words) = k) ∨
      (trailing (segs.flatMap Seg.words) < 2 ∧
        ∀ s ∈ segs.getLast?, ∀ w, runValue w = true → ¬s.Joins w) := by
  rcases segs.eq_nil_or_concat with rfl | ⟨segs₁, s, rfl⟩
  · exact .inr ⟨by decide, by simp⟩
  · rw [List.concat_eq_append] at *
    have hs := hof s (by simp)
    have hlast (t : Seg) : t ∈ (segs₁ ++ [s]).getLast? ↔ s = t := by simp
    simp only [hlast, forall_eq']
    cases s with
    | lit w =>
      refine .inr ⟨?_, fun w _ hj => hj⟩
      rw [List.flatMap_append, List.flatMap_singleton, Seg.words, trailing_concat,
        if_neg (hs.2 true)]
      decide
    | run v k =>
      cases v with
      | false =>
        refine .inr ⟨?_, fun w hw hj => ?_⟩
        · obtain ⟨k, rfl⟩ := Nat.exists_eq_succ_of_ne_zero (Nat.pos_iff_ne_zero.1 hs)
          rw [List.flatMap_append, List.flatMap_singleton, Seg.words, List.replicate_succ',
            ← List.append_assoc, trailing_concat, if_neg (by decide)]
          decide
        · have := hj.2
          simp [sameRun, hw] at this
      | true =>
        have htrail := trailing_run (fun s hs => hof s (by simp [hs])) hchain
        by_cases hk : 1 < k
        · exact .inl ⟨segs₁, k, rfl, hk, htrail⟩
        · exact .inr ⟨by rw [htrail]; omega, fun w _ hj => hk hj.1⟩

end

/-! ## Unpacking -/

theorem updateOn_zeros {W : List Word} {n : ℕ} (h : W.length ≤ n) :
    updateOn (fun j => 0 ≤ j ∧ j < W.length) (fun j _ => W.getD j 0) ((zeros n).map bits) =
      W ++ zeros (n - W.length) := by
  refine List.ext_getElem? fun j => ?_
  rw [getElem?_updateOn, List.getElem?_map]
  rcases Nat.lt_or_ge j W.length with hj | hj
  · rw [List.getElem?_append_left hj, List.getElem?_eq_getElem hj, zeros,
      List.getElem?_replicate_of_lt (by omega)]
    simp [hj]
  · rw [List.getElem?_append_right hj, zeros, zeros, List.getElem?_replicate, List.getElem?_replicate]
    by_cases hjn : j < n
    · rw [if_pos hjn, if_pos (by omega)]
      simp [bits, Nat.not_lt.2 hj]
    · rw [if_neg hjn, if_neg (by omega)]
      rfl

/-- **The loop of `uncompress` restores the words of the segments** and goes on with the rest. -/
theorem unpack_segs {n : ℕ} (hn : valueSize * (n - 1) < 2 ^ 32) {segs : List Seg} (rest : List Word)
    (hok : ∀ s ∈ segs, s.Ok) (hchain : segs.IsChain Seg.Differs)
    (hrest : ∀ s ∈ segs.getLast?, ∀ w ∈ rest.head?, ¬s.Joins w)
    (hlen : (segs.flatMap Seg.words).length ≤ n)
    (h32 : ∀ s ∈ segs.getLast?, s.Long → valueSize * (segs.flatMap Seg.words).length < 2 ^ 32) :
    ∃ d, d.map bits = segs.flatMap Seg.words ++ zeros (n - (segs.flatMap Seg.words).length) ∧
      walk uncompressItem 0 (zeros n) (segs.flatMap Seg.code ++ rest) =
        walk uncompressItem (valueSize * (segs.flatMap Seg.words).length % 2 ^ 32) d rest := by
  have hzeros : (zeros n).length = n := List.length_replicate
  obtain ⟨d, hd, hwalk⟩ := uncompressItem_acts.walk_segs (W := segs.flatMap Seg.words) hok hchain hrest
    (p := 0) (d := zeros n) (by rw [hzeros, Nat.zero_add]; exact hlen) (by rw [hzeros]; exact hn)
    (by rw [Nat.zero_add]; exact h32)
    (fun i hi => by rw [Nat.zero_add, List.getD_eq_getElem _ _ hi])
  rw [Nat.zero_add] at hd hwalk
  exact ⟨d, hd.trans (updateOn_zeros hlen), hwalk⟩

section
variable {b : Bitmap} {segs : List Seg}

/-- Without words that are kept with the run bit, and without overflow, the bits survive. -/
theorem survives_of_ok (hb : Plain b) (hsegs : Segments b.data segs)
    (hc : b.compress = .ok ⟨true, b.size, b.size_lt, segs.flatMap Seg.code⟩)
    (hok : ∀ s ∈ segs, s.Ok) (hover : ¬Overflows b) : Survives b := by
  have hlen : (segs.flatMap Seg.words).length = words b.size := hsegs.length_eq.trans hb.length_eq
  obtain ⟨d, hd, hwalk⟩ := unpack_segs (words_bounds b.size_lt).1 [] hok hsegs.chain
    (by simp) hlen.le (by rw [hsegs.length_eq]; exact hsegs.long_bound hover)
  rw [List.append_nil, walk] at hwalk
  refine (survives_iff hb hc).2 ⟨d, hwalk, fun i _ => ?_⟩
  rw [hlen, Nat.sub_self, hsegs.words_eq] at hd
  have hd' : d.map bits = b.data.map bits := hd.trans (List.append_nil _)
  rw [bit, ← bitAt_map_bits, hd', bitAt_map_bits]

theorem overflow_bounds {n q k : ℕ} (hn : valueSize * (n - 1) < 2 ^ 32) (h32 : 2 ^ 32 ≤ valueSize * n)
    (hq : q + k = n) (hk : 1 < k) : valueSize * q < 2 ^ 32 ∧ valueSize * k % 2 ^ 32 ≠ 0 ∧
      (valueSize * q + valueSize * k % 2 ^ 32) % 2 ^ 32 = 10 := by
  simp only [valueSize] at *
  obtain rfl : n = 306783379 := by omega
  have hq32 : 14 * q < 2 ^ 32 := by omega
  rcases Nat.eq_zero_or_pos q with rfl | hpos
  · obtain rfl : k = 306783379 := by omega
    decide
  · rw [Nat.mod_eq_of_lt (show 14 * k < 2 ^ 32 by omega), ← Nat.mul_add, hq]
    exact ⟨hq32, by omega, rfl⟩

/-- A run that reaches the bit `2 ^ 32` fails an assertion. -/
theorem unpack_overflow {n k : ℕ} {v : Bool} (hn : valueSize * (n - 1) < 2 ^ 32)
    (h32 : 2 ^ 32 ≤ valueSize * n) (hk : 1 < k) (hok : ∀ s ∈ segs ++ [Seg.run v k], s.Ok)
    (hchain : (segs ++ [Seg.run v k]).IsChain Seg.Differs)
    (hlen : ((segs ++ [Seg.run v k]).flatMap Seg.words).length = n) (d : List Word) :
    walk uncompressItem 0 (zeros n) ((segs ++ [Seg.run v k]).flatMap Seg.code) ≠ .ok d := by
  intro hwalk
  obtain ⟨hchain, -, hlast⟩ := List.isChain_append.1 hchain
  rw [List.flatMap_append, List.flatMap_singleton, List.length_append, Seg.words,
    List.length_replicate] at hlen
  obtain ⟨hq, hcount, hstop⟩ := overflow_bounds hn h32 hlen hk
  have hrun := hok (.run v k) (by simp)
  obtain ⟨d₁, -, hwalk₁⟩ := unpack_segs hn _
    (fun s hs => hok s (by simp [hs])) hchain
    (fun s hs w hw => not_joins (hlast s hs _ (by simp)) hrun [] w hw) (by omega) (fun s _ _ => hq)
  rw [List.flatMap_append, List.flatMap_singleton, ← List.append_nil (Seg.run v k).code, hwalk₁,
    walk_seg _ _ _ hrun (by simp), Nat.mod_eq_of_lt hq] at hwalk
  obtain ⟨r, hstep, -⟩ := bind_ok hwalk
  rw [show (Seg.run v k).item = .run v (valueSize * k % 2 ^ 32) from if_pos hk] at hstep
  obtain ⟨d₂, hset, -⟩ := bind_ok hstep
  obtain ⟨stop, h, -, -⟩ := setRange_ok hcount hset
  rw [hstop, valueSize] at h
  omega

theorem not_survives_of_overflows (hb : Plain b) (hsegs : Segments b.data segs)
    (hc : b.compress = .ok ⟨true, b.size, b.size_lt, segs.flatMap Seg.code⟩)
    (hok : ∀ s ∈ segs, s.Ok) (hover : Overflows b) : ¬Survives b := by
  rintro hsurv
  obtain ⟨d, hwalk, -⟩ := (survives_iff hb hc).1 hsurv
  obtain ⟨h32, init, v, hend⟩ := hover
  have hlen : (segs.flatMap Seg.words).length = words b.size := hsegs.length_eq.trans hb.length_eq
  obtain ⟨segs₁, k, rfl, hk⟩ := last_long hsegs.segs_of hsegs.chain (hsegs.words_eq.trans hend)
  exact unpack_overflow (words_bounds b.size_lt).1 (hb.length_eq ▸ h32) hk hok hsegs.chain hlen d hwalk

/-- From runs and from full or empty words, only full and empty words are made. -/
theorem fill_of_runs {ws : List Word} (hws : ∀ w ∈ ws, isRun w = true ∨ ∃ v, bits w = fillWord v)
    {n : ℕ} {d : List Word} (hwalk : walk uncompressItem 0 (zeros n) ws = .ok d) :
    ∀ x ∈ d, ∃ v, x = fillWord v := by
  have hset {d : List Word} {i : ℕ} {x : Word} (hx : ∃ v, x = fillWord v)
      (hd : ∀ x ∈ d, ∃ v, x = fillWord v) : ∀ y ∈ d.set i x, ∃ v, y = fillWord v := by
    intro y hy
    rcases List.mem_or_eq_of_mem_set hy with hy | rfl
    · exact hd y hy
    · exact hx
  refine uncompress_kept (I := fun d => ∀ x ∈ d, ∃ v, x = fillWord v)
    (fun w _ _ d i hd => hset ⟨_, rfl⟩ hd) (fun w hw hnot d i hd => hset ?_ hd) ?_ hwalk
  · rcases hws w hw with hrun | hfill
    · rw [hnot] at hrun
      cases hrun
    · exact hfill
  · intro x hx
    exact ⟨false, List.eq_of_mem_replicate hx⟩

/-- With the run bit in all words, `compress` writes runs and full or empty words. -/
theorem Segments.code_runs {ws : List Word} (hsegs : Segments ws segs)
    (hflag : ∀ w ∈ ws, isRun w = true) :
    ∀ w ∈ segs.flatMap Seg.code, isRun w = true ∨ ∃ v, bits w = fillWord v := by
  intro w hw
  obtain ⟨s, hs, hws⟩ := List.mem_flatMap.1 hw
  have hof := hsegs.segs_of s hs
  cases s with
  | lit w' =>
    obtain rfl := List.mem_singleton.1 hws
    exact .inl (hflag _ hof.1)
  | run v k =>
    by_cases hk : 1 < k
    · rw [show (Seg.run v k).code = runWords v (valueSize * k) from if_pos hk] at hws
      obtain ⟨x, rfl⟩ := mem_runWords hws
      exact .inl (isRun_mark v _)
    · rw [show (Seg.run v k).code = [fillWord v] from if_neg hk] at hws
      obtain rfl := List.mem_singleton.1 hws
      exact .inr ⟨v, bits_fillWord v⟩

/-- Full and empty words agree with a word that is neither only if it is the last. -/
theorem partial_last {size : ℕ} (h32 : size < 2 ^ 32) {d d' : List Word}
    (hfill : ∀ x ∈ d, ∃ v, x = fillWord v) (hsame : ∀ i < size, bitAt d i = bitAt d' i)
    (hlen : d'.length = words size) {init t : List Word} {w : Word} (hd' : d' = init ++ w :: t)
    (hw : Partial w) : t = [] := by
  by_contra ht
  have htpos := List.length_pos_iff.2 ht
  rw [hd', List.length_append, List.length_cons] at hlen
  have hbits := bits_eq_of_agree hsame (j := init.length)
    ((words_bounds h32).2.1 (init.length + 1) (by omega)).le
  have hget : d'.getD init.length 0 = w := by
    rw [hd', List.getD_append_right _ _ _ _ le_rfl, Nat.sub_self]; rfl
  rw [hget] at hbits
  by_cases hin : init.length < d.length
  · rw [List.getD_eq_getElem _ _ hin] at hbits
    obtain ⟨v, hv⟩ := hfill _ (List.getElem_mem hin)
    rw [hv, bits_fillWord] at hbits
    exact hw v hbits.symm
  · rw [List.getD_eq_default _ _ (by omega)] at hbits
    exact hw false hbits.symm

end

/-! ## A last word that is taken for digits -/

/-! ### Where a range ends -/

theorem mod_cases {x m : ℕ} (h : x < 2 * m) : x < m ∧ x % m = x ∨ m ≤ x ∧ x % m = x - m := by
  rcases Nat.lt_or_ge x m with hx | hx
  · exact .inl ⟨hx, Nat.mod_eq_of_lt hx⟩
  · exact .inr ⟨hx, by rw [Nat.mod_eq_sub_mod hx, Nat.mod_eq_of_lt (by omega)]⟩

theorem short_stop {p c stop : ℕ} (hp : 14 * p < 2 ^ 32) (h0 : 0 < c) (hc : c < 2 ^ 14)
    (h : (14 * p + c) % 2 ^ 32 = 14 * stop) (hstop : stop ≤ p ∨ stop ≤ p + 1) :
    c = 14 ∧ stop = p + 1 ∨ 2 ^ 32 ≤ 14 * p + c ∧ c % 14 = 4 ∧ stop ≤ p := by
  rcases mod_cases (x := 14 * p + c) (m := 2 ^ 32) (by omega) with ⟨_, hm⟩ | ⟨hx, hm⟩
  · rw [hm] at h; omega
  · rw [hm] at h
    exact .inr ⟨hx, by omega, by omega⟩

theorem short_start {p c : ℕ} (hp : 14 * p < 2 ^ 32) (hc : c < 2 ^ 14) (hge : 2 ^ 32 ≤ 14 * p + c)
    (h4 : c % 14 = 4) : ∃ stop, (14 * p + c) % 2 ^ 32 = 14 * stop ∧ stop ≤ p := by
  rcases mod_cases (x := 14 * p + c) (m := 2 ^ 32) (by omega) with ⟨hlt, _⟩ | ⟨_, hm⟩
  · omega
  · refine ⟨p + c / 14 - 306783378, ?_, ?_⟩
    · rw [hm]; omega
    · omega

/-- A range that is longer than its run and ends inside the array has wrapped around. -/
theorem wrap_stop {q k t stop : ℕ} (hp : 14 * (q + k) < 2 ^ 32) (ht : t < 2 ^ 32) (h0 : 14 < t)
    (h : (14 * q + (14 * k + t)) % 2 ^ 32 = 14 * stop)
    (hstop : stop ≤ q ∨ stop ≤ q + k + 1) : stop < q + k := by
  rcases mod_cases (x := 14 * q + (14 * k + t)) (m := 2 ^ 32) (by omega) with ⟨_, hm⟩ | ⟨_, hm⟩
  · rw [hm] at h; omega
  · rw [hm] at h; omega

/-- Of a third digit, four bits are left. -/
theorem third_digit {n c : ℕ} (hn : n < 2 ^ 28) :
    (n + c * 2 ^ 28) % 2 ^ 32 = n + c % 16 * 2 ^ 28 := by
  have hsplit : n + c * 2 ^ 28 = (n + c % 16 * 2 ^ 28) + 2 ^ 32 * (c / 16) := by omega
  rw [hsplit, Nat.add_mul_mod_self_left, Nat.mod_eq_of_lt (by omega)]

theorem length_runWords (v : Bool) {n : ℕ} (hn : 0 < n) : (runWords v n).length =
    (if n < 2 ^ 14 then 1 else if n < 2 ^ 28 then 2 else (runWords v (n / 2 ^ 28)).length + 2) := by
  rw [runWords_pos v hn.ne', List.length_cons]
  split_ifs with h14 h28
  · rw [Nat.div_eq_of_lt h14, runWords_zero]; rfl
  · rw [runWords_pos v (by omega), List.length_cons, Nat.div_div_eq_div_mul,
      Nat.div_eq_of_lt (by omega), runWords_zero]
    rfl
  · rw [runWords_pos v (by omega), List.length_cons, Nat.div_div_eq_div_mul, ← Nat.pow_add]

/-! ### The loop at the last word -/

section
variable {w : Word} (hrun : isRun w = true) (hvalue : runValue w = true)
include hrun hvalue

theorem walk_last (curPos : ℕ) (d : List Word) :
    walk uncompressItem curPos d [w] = setRange d curPos (bits w).toNat true := by
  rw [walk_run _ _ _ _ hrun, hvalue]
  show ((uncompressItem curPos (.run true (bits w).toNat) d >>= _) : Result (List Word)) = _
  rw [uncompressItem]
  cases setRange d curPos (bits w).toNat true with
  | error e => rfl
  | ok d' => show walk _ _ _ [] = _; rw [walk]

/-- The last word is one more digit of the run before it. -/
theorem walk_run_last {n : ℕ} (h0 : 0 < n) (hn : n < 2 ^ 32) (hlen : n < 2 ^ (14 * (runWords true n).length))
    (curPos : ℕ) (d : List Word) : walk uncompressItem curPos d (runWords true n ++ [w]) =
      if 32 ≤ 14 * (runWords true n).length then .error .undefined
      else setRange d curPos ((n + (bits w).toNat * 2 ^ (14 * (runWords true n).length)) % 2 ^ 32) true := by
  have hsame : sameRun true w = true := by simp [sameRun, hrun, hvalue]
  rw [walk_runWords _ _ _ true h0 (by omega), Nat.mod_eq_of_lt hn, List.takeWhile_cons_of_pos hsame,
    List.dropWhile_cons_of_pos hsame, gather, valueSize]
  split_ifs with h32
  · rfl
  · show ((gather _ (((bits w).toNat <<< _) % 2 ^ 32 ||| n) [] >>= _) : Result (List Word)) = _
    rw [digit_or (by omega) hlen, gather]
    show ((uncompressItem curPos (.run true _) d >>= _) : Result (List Word)) = _
    rw [uncompressItem]
    cases setRange d curPos _ true with
    | error e => rfl
    | ok d' => show walk _ _ _ [] = _; rw [walk]

end

/-! ### Which bits are left -/

theorem bitAt_append_left {xs : List Word} (ys : List Word) {i : ℕ} (h : i / valueSize < xs.length) :
    bitAt (xs ++ ys) i = bitAt xs i := by
  rw [bitAt, List.getD_append _ _ _ _ h, bitAt]

theorem bitAt_append_zeros {xs : List Word} (m : ℕ) {i : ℕ} (h : valueSize * xs.length ≤ i) :
    bitAt (xs ++ zeros m) i = false := by
  have hle : xs.length ≤ i / valueSize := by
    rw [Nat.le_div_iff_mul_le (by decide), Nat.mul_comm]; exact h
  have hzero : (zeros m).getD (i / valueSize - xs.length) 0 = 0 := by simp [zeros]
  rw [bitAt, List.getD_append_right _ _ _ _ hle, hzero]
  simp

section
variable {b : Bitmap} {init : List Word} {w : Word} {segs : List Seg}

/-- A bitmap whose last word is neither full nor empty, as no other is, and has the run bits. -/
structure LastTaken (b : Bitmap) (init : List Word) (w : Word) : Prop where
  plain : Plain b
  data_eq : b.data = init ++ [w]
  init_full : ∀ x ∈ init, ¬Partial x
  last_partial : Partial w
  last_run : isRun w = true
  last_value : runValue w = true

theorem LastTaken.length_eq (h : LastTaken b init w) : words b.size = init.length + 1 := by
  rw [← h.plain.length_eq, h.data_eq, List.length_append]; rfl

theorem LastTaken.digit_bounds (h : LastTaken b init w) : 0 < (bits w).toNat ∧ (bits w).toNat < 2 ^ 14 := by
  refine ⟨Nat.pos_of_ne_zero fun h0 => h.last_partial false ?_, ?_⟩
  · exact BitVec.eq_of_toNat_eq h0
  · rw [toNat_bits]; exact Nat.mod_lt _ (by decide)

theorem LastTaken.start_lt (h : LastTaken b init w) : valueSize * init.length < 2 ^ 32 := by
  have := (words_bounds b.size_lt).1
  rwa [h.length_eq, Nat.add_sub_cancel] at this

/-- The last word is a segment of its own. -/
theorem LastTaken.segments (h : LastTaken b init w) (hsegs : Segments b.data segs) :
    ∃ segs₀, segs = segs₀ ++ [.lit w] ∧ Segments init segs₀ := by
  have hwords := hsegs.words_eq
  rw [h.data_eq, List.map_append] at hwords
  have honly {x : Word} (hx : Seg.Of b.data (.lit x)) : x = w := by
    have hmem := hx.1
    rw [h.data_eq, List.mem_append, List.mem_singleton] at hmem
    exact hmem.resolve_left fun hin => h.init_full x hin hx.2
  rcases segs.eq_nil_or_concat with rfl | ⟨segs₀, s, rfl⟩
  · simp at hwords
  · rw [List.concat_eq_append] at *
    rw [List.flatMap_append, List.flatMap_singleton] at hwords
    have hlast := hsegs.segs_of s (by simp)
    cases s with
    | run v k =>
      obtain ⟨k, rfl⟩ := Nat.exists_eq_succ_of_ne_zero (Nat.pos_iff_ne_zero.1 hlast)
      rw [Seg.words, List.replicate_succ', ← List.append_assoc] at hwords
      have := (List.append_inj' hwords rfl).2
      exact absurd (List.singleton_inj.1 this).symm (h.last_partial v)
    | lit x =>
      obtain rfl := honly hlast
      have hinit := (List.append_inj' hwords rfl).1
      refine ⟨segs₀, rfl, hinit, (List.isChain_append.1 hsegs.chain).1, fun s hs => ?_⟩
      have hof := hsegs.segs_of s (by simp [hs])
      cases s with
      | run v k => exact hof
      | lit y =>
        obtain rfl := honly hof
        have hmem : bits y ∈ init.map bits := by
          rw [← hinit]
          exact List.mem_flatMap.2 ⟨.lit y, hs, List.mem_singleton_self _⟩
        obtain ⟨z, hz, hzy⟩ := List.mem_map.1 hmem
        exact absurd (fun v hv => h.last_partial v (hzy ▸ hv)) (h.init_full z hz)

/-- With the last word left empty, the bits agree if the bits of that word below the size are
    clear. -/
theorem LastTaken.agree_iff (h : LastTaken b init w) {d : List Word}
    (hd : d.map bits = init.map bits ++ zeros 1) : (∀ i < b.size, bitAt d i = b.bit i) ↔
      ∀ i < b.size, valueSize * init.length ≤ i → b.bit i = false := by
  have hlow {i : ℕ} (hi : i < valueSize * init.length) : bitAt d i = b.bit i := by
    have hdiv : i / valueSize < init.length := by
      rw [Nat.div_lt_iff_lt_mul (by decide), Nat.mul_comm]; exact hi
    rw [← bitAt_map_bits, hd, bitAt_append_left _ (by simpa using hdiv), bitAt_map_bits, bit, h.data_eq,
      bitAt_append_left _ hdiv]
  have hhigh {i : ℕ} (hi : valueSize * init.length ≤ i) : bitAt d i = false := by
    rw [← bitAt_map_bits, hd, bitAt_append_zeros 1 (by simpa using hi)]
  constructor
  · intro hsame i hi hle
    rw [← hsame i hi, hhigh hle]
  · intro hclear i hi
    rcases Nat.lt_or_ge i (valueSize * init.length) with hlt | hle
    · exact hlow hlt
    · rw [hhigh hle, hclear i hi hle]

/-- **No long run of full words before the last word.** -/
theorem LastTaken.survives_short (h : LastTaken b init w) (hsegs : Segments init segs)
    (hc : b.compress = .ok ⟨true, b.size, b.size_lt, (segs ++ [Seg.lit w]).flatMap Seg.code⟩)
    (hjoin : ∀ s ∈ segs.getLast?, ¬s.Joins w) : Survives b ↔
      2 ^ 32 ≤ valueSize * init.length + (bits w).toNat ∧ (bits w).toNat % 14 = 4 ∧
        ∀ i < b.size, valueSize * init.length ≤ i → b.bit i = false := by
  have hlen : (segs.flatMap Seg.words).length = init.length := hsegs.length_eq
  have hp := h.start_lt
  obtain ⟨h0, hc14⟩ := h.digit_bounds
  obtain ⟨d, hd, hwalk⟩ := unpack_segs (n := init.length + 1)
    (by rw [Nat.add_sub_cancel]; exact hp) [w]
    (hsegs.ok (by rw [valueSize] at hp; omega) fun x hx hpart => absurd hpart (h.init_full x hx))
    hsegs.chain (fun s hs x hx => by
      obtain rfl : w = x := by simpa using hx
      exact hjoin s hs) (by omega) (fun _ _ _ => by rw [hlen]; exact hp)
  rw [hlen, hsegs.words_eq, Nat.add_sub_cancel_left] at hd
  rw [hlen, Nat.mod_eq_of_lt hp, walk_last h.last_run h.last_value] at hwalk
  rw [survives_iff h.plain hc, h.length_eq, List.flatMap_append,
    show [Seg.lit w].flatMap Seg.code = [w] from rfl, hwalk]
  have hdlen : d.length = init.length + 1 := by simpa [zeros] using congrArg List.length hd
  constructor
  · rintro ⟨d', hset, hsame⟩
    obtain ⟨stop, hstop, hin, rfl⟩ := setRange_ok h0.ne' hset
    rcases short_stop hp h0 hc14 hstop (hdlen ▸ hin) with ⟨h14, rfl⟩ | ⟨hge, h4, hle⟩
    · -- the last word is filled, but its first bit is clear
      have hbit := hsame (valueSize * init.length) ((words_bounds b.size_lt).2.1 _ (by rw [h.length_eq]; omega))
      have hlast : b.data.getD init.length 0 = w := by
        rw [h.data_eq, List.getD_append_right _ _ _ _ le_rfl, Nat.sub_self]; rfl
      rw [← Nat.add_zero (valueSize * init.length), bit, bitAt_mul_add _ (by decide),
        bitAt_mul_add _ (by decide), hlast] at hbit
      have hclear : w.getLsbD 0 = false := by
        have := BitVec.testBit_toNat (bits w) (i := 0)
        rw [h14, getLsbD_bits] at this
        simpa using this.symm
      rw [hclear, List.getD_eq_getElem?_getD, getElem?_updateOn,
        List.getElem?_eq_getElem (by omega)] at hbit
      simp only [Option.map_some, le_refl, Nat.lt_succ_self, and_self, if_true, Option.getD_some] at hbit
      exact absurd hbit (by decide)
    · rw [updateOn_false fun j _ hj => absurd (hj.1.trans_lt hj.2) (Nat.not_lt.2 hle)] at hsame
      exact ⟨hge, h4, (h.agree_iff hd).1 hsame⟩
  · rintro ⟨hge, h4, hclear⟩
    obtain ⟨stop, hstop, hle⟩ := short_start hp hc14 hge h4
    refine ⟨d, ?_, (h.agree_iff hd).2 hclear⟩
    rw [setRange_ret true h0.ne' hstop (.inl hle), updateOn_false fun j _ hj =>
      absurd (hj.1.trans_lt hj.2) (Nat.not_lt.2 hle)]

/-- A fill that ends before the last word leaves a full word empty. -/
theorem LastTaken.not_agree (h : LastTaken b init w) {W d : List Word} {k stop : ℕ} (hk : 0 < k)
    (hinit : init.map bits = W ++ List.replicate k (fillWord true))
    (hd : d.map bits = W ++ zeros (k + 1)) (hstop : stop < init.length) :
    ¬∀ i < b.size, bitAt (updateOn (fun j => W.length ≤ j ∧ j < stop) (fun _ _ => fillWord true) d) i =
      b.bit i := by
  intro hsame
  obtain ⟨p, hp⟩ : ∃ p, init.length = p + 1 := ⟨init.length - 1, by omega⟩
  have hWk : W.length + k = p + 1 := by
    have := congrArg List.length hinit
    rw [List.length_map, List.length_append, List.length_replicate] at this
    omega
  have hbits := bits_eq_of_agree hsame (j := p) (by
    rw [← hp]
    exact ((words_bounds b.size_lt).2.1 _ (by rw [h.length_eq]; omega)).le)
  have hfull : bits (b.data.getD p 0) = fillWord true := by
    rw [h.data_eq, List.getD_append _ _ _ _ (by omega), ← getD_map_bits, hinit,
      List.getD_append_right _ _ _ _ (by omega), List.getD_replicate _ (by omega)]
  have hempty : bits (d.getD p 0) = 0 := by
    rw [← getD_map_bits, hd, List.getD_append_right _ _ _ _ (by omega), zeros,
      List.getD_replicate _ (by omega)]
  have hsame' : (updateOn (fun j => W.length ≤ j ∧ j < stop) (fun _ _ => fillWord true) d).getD p 0 =
      d.getD p 0 := by
    rw [List.getD_eq_getElem?_getD, getElem?_updateOn, List.getD_eq_getElem?_getD]
    simp only [show ¬(W.length ≤ p ∧ p < stop) by omega, if_false, Option.map_id']
  rw [hsame', hempty, hfull] at hbits
  exact absurd hbits (by decide)

theorem updateOn_fill (W : List Word) (k : ℕ) (x : Word) :
    updateOn (fun j => W.length ≤ j ∧ j < W.length + k) (fun _ _ => x) (W ++ zeros (k + 1)) =
      W ++ List.replicate k x ++ zeros 1 := by
  refine List.ext_getElem? fun j => ?_
  rw [getElem?_updateOn, List.append_assoc]
  rcases Nat.lt_or_ge j W.length with hj | hj
  · rw [List.getElem?_append_left hj, List.getElem?_append_left hj]
    simp [Nat.not_le.2 hj]
  · rw [List.getElem?_append_right hj, List.getElem?_append_right hj, zeros, zeros]
    rcases Nat.lt_or_ge j (W.length + k) with hjk | hjk
    · rw [List.getElem?_append_left (by rw [List.length_replicate]; omega),
        List.getElem?_replicate_of_lt (by omega), List.getElem?_replicate_of_lt (by omega)]
      simp [hj, hjk]
    · rw [List.getElem?_append_right (by rw [List.length_replicate]; omega), List.length_replicate,
        List.getElem?_replicate, List.getElem?_replicate]
      by_cases hlast : j = W.length + k
      · rw [if_pos (by omega), if_pos (by omega)]
        simp [hlast]
      · rw [if_neg (by omega), if_neg (by omega)]
        rfl

/-- **A long run of full words before the last word.** -/
theorem LastTaken.survives_long (h : LastTaken b init w) {k : ℕ} (hk : 1 < k)
    (hsegs : Segments init (segs ++ [Seg.run true k])) (hc : b.compress =
      .ok ⟨true, b.size, b.size_lt, (segs ++ [Seg.run true k] ++ [Seg.lit w]).flatMap Seg.code⟩) :
    Survives b ↔ 2 ^ 14 ≤ valueSize * k ∧ valueSize * k < 2 ^ 28 ∧ (bits w).toNat % 16 = 0 ∧
      ∀ i < b.size, valueSize * init.length ≤ i → b.bit i = false := by
  have hwords := hsegs.words_eq
  rw [List.flatMap_append, List.flatMap_singleton, Seg.words] at hwords
  set W := segs.flatMap Seg.words with hW
  have hlen : W.length + k = init.length := by
    have := congrArg List.length hwords
    rwa [List.length_append, List.length_replicate, List.length_map] at this
  have hp := h.start_lt
  obtain ⟨h0, hc14⟩ := h.digit_bounds
  obtain ⟨hchain, -, hlast⟩ := List.isChain_append.1 hsegs.chain
  have hok := hsegs.ok (by rw [valueSize] at hp; omega) fun x hx hpart => absurd hpart (h.init_full x hx)
  have hq : valueSize * W.length < 2 ^ 32 :=
    lt_of_le_of_lt (Nat.mul_le_mul_left _ (by omega)) hp
  have hcode : (Seg.run true k).code = runWords true (valueSize * k) := if_pos hk
  obtain ⟨d, hd, hwalk⟩ := unpack_segs (n := init.length + 1)
    (by rw [Nat.add_sub_cancel]; exact hp) ((Seg.run true k).code ++ [w]) (fun s hs => hok s (by simp [hs])) hchain
    (fun s hs x hx => not_joins (hlast s hs _ (by simp)) (hok (.run true k) (by simp)) [w] x hx)
    (by rw [← hW]; omega) (fun _ _ _ => hq)
  rw [← hW, show init.length + 1 - W.length = k + 1 by omega] at hd
  have hdlen : d.length = init.length + 1 := by
    have := congrArg List.length hd
    rw [List.length_map, List.length_append, zeros, List.length_replicate] at this
    omega
  have hk0 : 0 < valueSize * k := Nat.mul_pos (by decide) (by omega)
  have hk32 : valueSize * k < 2 ^ 32 := lt_of_le_of_lt (Nat.mul_le_mul_left _ (by omega)) hp
  rw [survives_iff h.plain hc, h.length_eq, List.flatMap_append, List.flatMap_append,
    show [Seg.lit w].flatMap Seg.code = [w] from rfl, List.flatMap_singleton, List.append_assoc, hwalk,
    ← hW, Nat.mod_eq_of_lt hq, hcode]
  have hfail {t : ℕ} (ht : 14 < t) (ht32 : valueSize * k + t < 2 ^ 32) : ¬∃ d',
      setRange d (valueSize * W.length) (valueSize * k + t) true = .ok d' ∧
        ∀ i < b.size, bitAt d' i = b.bit i := by
    rintro ⟨d', hset, hsame⟩
    obtain ⟨stop, hstop, hin, rfl⟩ := setRange_ok (by omega) hset
    refine h.not_agree (by omega) hwords.symm hd ?_ hsame
    rw [← hlen] at hp hdlen ⊢
    exact wrap_stop hp (by omega) ht hstop (hdlen ▸ hin)
  have hpow {m D : ℕ} (hm : m < 2 ^ D) (hD : D ≤ 14 * (runWords true (valueSize * k)).length) :
      m < 2 ^ (14 * (runWords true (valueSize * k)).length) :=
    hm.trans_le (Nat.pow_le_pow_right (by decide) hD)
  have hdigits := length_runWords true hk0
  rcases Nat.lt_or_ge (valueSize * k) (2 ^ 14) with h14 | h14
  · -- one digit
    rw [if_pos h14] at hdigits
    rw [walk_run_last h.last_run h.last_value hk0 hk32 (hpow h14 (by omega)), hdigits, if_neg (by decide),
      Nat.mod_eq_of_lt (by omega)]
    exact iff_of_false (hfail (by omega) (by omega)) fun hr => absurd hr.1 (Nat.not_le.2 h14)
  · rw [if_neg (Nat.not_lt.2 h14)] at hdigits
    rcases Nat.lt_or_ge (valueSize * k) (2 ^ 28) with h28 | h28
    · -- two digits
      rw [if_pos h28] at hdigits
      rw [walk_run_last h.last_run h.last_value hk0 hk32 (hpow h28 (by omega)), hdigits,
        if_neg (by decide), third_digit h28]
      rcases Nat.eq_zero_or_pos ((bits w).toNat % 16) with hr | hr
      · have hset : setRange d (valueSize * W.length) (valueSize * k) true =
            .ok (updateOn (fun j => W.length ≤ j ∧ j < init.length) (fun _ _ => fillWord true) d) :=
          setRange_ret true hk0.ne' (by rw [← Nat.mul_add, hlen, Nat.mod_eq_of_lt hp])
            (.inr (by omega))
        have hbits : (updateOn (fun j => W.length ≤ j ∧ j < init.length) (fun _ _ => fillWord true)
            d).map bits = init.map bits ++ zeros 1 := by
          rw [map_bits_updateOn (g := fun _ _ => fillWord true) fun _ _ => bits_fillWord true, hd, ← hwords,
            ← hlen, updateOn_fill]
        rw [hr, Nat.zero_mul, Nat.add_zero, hset]
        constructor
        · rintro ⟨d', hd', hsame⟩
          obtain rfl := Except.ok.inj hd'
          exact ⟨h14, h28, rfl, (h.agree_iff hbits).1 hsame⟩
        · rintro ⟨-, -, -, hclear⟩
          exact ⟨_, rfl, (h.agree_iff hbits).2 hclear⟩
      · have hlow : 2 ^ 28 ≤ (bits w).toNat % 16 * 2 ^ 28 := Nat.le_mul_of_pos_left _ hr
        have hhigh : (bits w).toNat % 16 * 2 ^ 28 ≤ 15 * 2 ^ 28 :=
          Nat.mul_le_mul_right _ (Nat.le_of_lt_succ (Nat.mod_lt _ (by decide)))
        refine iff_of_false (hfail (lt_of_lt_of_le (by decide) hlow) ?_) fun hall => ?_
        · exact lt_of_lt_of_le (Nat.add_lt_add_of_lt_of_le h28 hhigh) (by decide)
        · exact hr.ne' hall.2.2.1
    · -- three digits or more
      rw [if_neg (Nat.not_lt.2 h28)] at hdigits
      have hthree : 3 ≤ (runWords true (valueSize * k)).length := by
        rw [hdigits, length_runWords true (Nat.div_pos h28 (by decide))]
        split_ifs <;> omega
      rw [walk_run_last h.last_run h.last_value hk0 hk32 (hpow (D := 42) (hk32.trans (by decide)) (by omega)),
        if_pos (by omega)]
      exact iff_of_false (by rintro ⟨d', herr, -⟩; cases herr) fun hall => absurd hall.2.1 (Nat.not_lt.2 h28)

theorem LastTaken.lucky_iff (h : LastTaken b init w) : Lucky b ↔
    (∀ i < b.size, valueSize * init.length ≤ i → b.bit i = false) ∧
    ((trailing (init.map bits) < 2 ∧ 2 ^ 32 ≤ valueSize * init.length + (bits w).toNat ∧
        (bits w).toNat % 14 = 4) ∨
      (2 ^ 14 ≤ valueSize * trailing (init.map bits) ∧
        valueSize * trailing (init.map bits) < 2 ^ 28 ∧ (bits w).toNat % 16 = 0)) := by
  constructor
  · rintro ⟨init', w', hdata, -, hclear, hcases⟩
    obtain ⟨rfl, hw⟩ := List.append_inj' (hdata.symm.trans h.data_eq) rfl
    obtain rfl := List.singleton_inj.1 hw
    exact ⟨hclear, hcases⟩
  · rintro ⟨hclear, hcases⟩
    exact ⟨init, w, h.data_eq, h.init_full, hclear, hcases⟩

/-- With a last word that is taken for digits, surviving is luck. -/
theorem LastTaken.survives_iff_lucky (h : LastTaken b init w) : Survives b ↔ Lucky b := by
  obtain ⟨segs, hsegs, hc⟩ := compress_ret h.plain
  obtain ⟨segs₀, rfl, hinit⟩ := h.segments hsegs
  rw [h.lucky_iff, ← hinit.words_eq]
  rcases trailing_cases hinit.segs_of hinit.chain with ⟨segs₁, k, rfl, hk, htrail⟩ | ⟨hshort, hjoin⟩
  · rw [h.survives_long hk hinit hc, htrail]
    constructor
    · rintro ⟨h14, h28, h16, hclear⟩
      exact ⟨hclear, .inr ⟨h14, h28, h16⟩⟩
    · rintro ⟨hclear, ⟨hlt, -⟩ | ⟨h14, h28, h16⟩⟩
      · exact absurd hk (by omega)
      · exact ⟨h14, h28, h16, hclear⟩
  · rw [h.survives_short hinit hc fun s hs => hjoin s hs w h.last_value]
    constructor
    · rintro ⟨hge, h4, hclear⟩
      exact ⟨hclear, .inl ⟨hshort, hge, h4⟩⟩
    · rintro ⟨hclear, ⟨-, hge, h4⟩ | ⟨h14, -⟩⟩
      · exact ⟨hge, h4, hclear⟩
      · rw [valueSize] at h14; omega

end

/-! ## The condition -/

/-- A word that is neither full nor empty ends a bitmap that has no other. -/
theorem lastTaken_of_init {b : Bitmap} (hb : Plain b) (hflag : Flagged true b.data) {init : List Word}
    {w : Word} (hdata : b.data = init ++ [w]) (hinit : ∀ x ∈ init, ¬Partial x)
    (hpart : ¬∀ x ∈ b.data, ¬Partial x) : LastTaken b init w := by
  have hw : w ∈ b.data := by rw [hdata]; simp
  refine ⟨hb, hdata, hinit, ?_, ?_, ?_⟩
  · by_contra hnot
    refine hpart fun x hx => ?_
    rw [hdata] at hx
    rcases List.mem_append.1 hx with hx | hx
    · exact hinit x hx
    · rwa [List.mem_singleton.1 hx]
  · rw [isRun_eq]; exact (hflag w hw).2
  · rw [runValue_eq]; exact (hflag w hw).1

theorem LastTaken.not_overflows {b : Bitmap} {init : List Word} {w : Word} (h : LastTaken b init w) :
    ¬Overflows b := by
  rintro ⟨-, init', v, hend⟩
  rw [h.data_eq, List.map_append, List.append_cons] at hend
  have := (List.append_inj' hend rfl).2
  exact h.last_partial v (List.singleton_inj.1 this)

/-- **The bits below the size survive `compress` and `uncompress` iff** the bitmap is packable. -/
theorem survives_iff_packable {b : Bitmap} (hb : Built b) : Survives b ↔ Packable b := by
  obtain ⟨f, hflag⟩ := hb.flagged
  obtain ⟨segs, hsegs, hc⟩ := compress_ret hb.plain
  have hlen : b.data.length ≤ 2 ^ 32 := hb.plain.length_le
  have hclean (hlit : ∀ w ∈ b.data, Partial w → isRun w = false) : Survives b ↔ ¬Overflows b :=
    ⟨fun hsurv hover => not_survives_of_overflows hb.plain hsegs hc (hsegs.ok hlen hlit) hover hsurv,
      survives_of_ok hb.plain hsegs hc (hsegs.ok hlen hlit)⟩
  cases f with
  | false =>
    have hnot : ∀ w ∈ b.data, isRun w = false := fun w hw => by rw [isRun_eq]; exact (hflag w hw).2
    rw [hclean fun w hw _ => hnot w hw]
    exact ⟨fun hover => ⟨hover, .inl hnot⟩, fun h => h.1⟩
  | true =>
    have hrun : ∀ w ∈ b.data, isRun w = true := fun w hw => by rw [isRun_eq]; exact (hflag w hw).2
    by_cases hpart : ∀ w ∈ b.data, ¬Partial w
    · rw [hclean fun w hw hp => absurd hp (hpart w hw)]
      exact ⟨fun hover => ⟨hover, .inr (.inl hpart)⟩, fun h => h.1⟩
    · rcases b.data.eq_nil_or_concat with hnil | ⟨init, w, hdata⟩
      · rw [hnil] at hpart
        exact absurd (fun x hx => absurd hx List.not_mem_nil) hpart
      · rw [List.concat_eq_append] at hdata
        constructor
        · intro hsurv
          have hinit : ∀ x ∈ init, ¬Partial x := by
            intro x hx hp
            obtain ⟨d, hwalk, hsame⟩ := (survives_iff hb.plain hc).1 hsurv
            obtain ⟨l, r, rfl⟩ := List.append_of_mem hx
            have := partial_last b.size_lt (fill_of_runs (hsegs.code_runs hrun) hwalk) hsame
              hb.plain.length_eq (t := r ++ [w]) (by rw [hdata, List.append_assoc]; rfl) hp
            simp at this
          have hlast := lastTaken_of_init hb.plain hflag hdata hinit hpart
          exact ⟨hlast.not_overflows, .inr (.inr (hlast.survives_iff_lucky.1 hsurv))⟩
        · rintro ⟨-, hnot | hnot | hlucky⟩
          · have hw : w ∈ b.data := by rw [hdata]; simp
            exact absurd (hnot w hw) (by rw [hrun w hw]; decide)
          · exact absurd hnot hpart
          · obtain ⟨init', w', hdata', hinit, -⟩ := id hlucky
            exact (lastTaken_of_init hb.plain hflag hdata' hinit hpart).survives_iff_lucky.2 hlucky

/-- A bitmap of 20 bits with the bit 3 set survives. -/
theorem survives_set : Survives ⟨false, 20, by decide, [0x0008#16, 0x0000#16]⟩ := by
  have hset : (new 20 (by decide) 0x00#8).set 3 true =
      .ok ⟨false, 20, by decide, [0x0008#16, 0x0000#16]⟩ := rfl
  have hbuilt : Built ⟨false, 20, by decide, [0x0008#16, 0x0000#16]⟩ :=
    .set (.new 20 (by decide) (.inl rfl)) trivial hset
  refine (survives_iff_packable hbuilt).2 (And.intro ?_ (Or.inl ?_))
  · exact fun h => Nat.not_le.2 (show 28 < 2 ^ 32 by decide) h.1
  · intro w hw
    simp only [List.mem_cons, List.not_mem_nil, or_false] at hw
    rcases hw with rfl | rfl <;> rfl

/-- A bitmap filled with ones from which the bit 0 is removed does not survive. -/
theorem not_survives : ¬∀ b : Bitmap, Built b → Survives b := by
  intro hall
  have hset : (new 14 (by decide) 0xFF#8).set 0 false = .ok ⟨false, 14, by decide, [0xFFFE#16]⟩ := rfl
  obtain ⟨c, d, hc, hd, -⟩ := hall _ (.set (.new 14 (by decide) (.inr rfl)) trivial hset)
  obtain rfl : (⟨true, 14, by decide, [0xFFFE#16]⟩ : Bitmap) = c := Except.ok.inj hc
  obtain ⟨data, hwalk, -⟩ := bind_ok hd
  rw [walk_last rfl rfl] at hwalk
  cases hwalk

end Ancfl.Bitmap
