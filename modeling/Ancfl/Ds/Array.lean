/-
  `Array`: a sorted array.

  * `existsLoop`, `existsCmpLoop`: the loops of the two overloads of `exists`,
    for a number of turns; that of `exists(v, cmp)` never moves its upper bound;
  * `find_operator`, `find_comparator`: when a search of a sorted array ends, and
    with what;
  * `sorted_iff`: which sequences of calls go through.
-/
import Ancfl.Lib.Run
import Ancfl.Lib.WeakOrder
import Mathlib.Tactic.Linarith

namespace Ancfl.Ds.Array

open Lib

variable {T : Type} (lt : T → T → Prop) [DecidableRel lt]

/-! ## The array -/

/-- The order is that of `operator<`, or it is an argument. -/
inductive Overload where
  | operator | comparator
deriving DecidableEq

/-- The loop of `exists(v)`: what it returns, if it does within so many turns. -/
def existsLoop (m_data : List T) (v : T) : ℕ → ℤ → ℤ → Option ℤ
  | 0, _, _ => none
  | turns + 1, begin_, end_ =>
    if begin_ ≤ end_ then
      let m := (begin_ + end_).tdiv 2
      match m_data[m.toNat]? with
      -- a read beyond the array
      | none => none
      | some x =>
        if lt v x then existsLoop m_data v turns begin_ (m - 1)
        else if lt x v then existsLoop m_data v turns (m + 1) end_
        else some m
    else some (-begin_ - 1)

/-- The loop of `exists(v, cmp)`: where `v` is less, `end == m - 1` compares. -/
def existsCmpLoop (m_data : List T) (v : T) : ℕ → ℤ → ℤ → Option ℤ
  | 0, _, _ => none
  | turns + 1, begin_, end_ =>
    if begin_ ≤ end_ then
      let m := (begin_ + end_).tdiv 2
      match m_data[m.toNat]? with
      | none => none
      | some x =>
        if lt v x then existsCmpLoop m_data v turns begin_ end_
        else if lt x v then existsCmpLoop m_data v turns (m + 1) end_
        else some m
    else some (-begin_ - 1)

/-- `exists`; the size is an `int64_t` there. -/
def find (k : Overload) (m_data : List T) (v : T) (turns : ℕ) : Option ℤ :=
  match k with
  | .operator => existsLoop lt m_data v turns 0 (m_data.length - 1)
  | .comparator => existsCmpLoop lt m_data v turns 0 (m_data.length - 1)

/-- `insert(idx, v)` for a negative result of `exists`. -/
def insertAt (idx : ℤ) (v : T) (m_data : List T) : List T :=
  let idx := -idx - 1
  m_data.take idx.toNat ++ v :: m_data.drop idx.toNat

/-- `insert(v)` and `insert(v, cmp)`, if `exists` returns within so many turns. -/
def insert (k : Overload) (m_data : List T) (v : T) (turns : ℕ) : Option (Bool × List T) :=
  (find lt k m_data v turns).map fun idx =>
    if 0 ≤ idx then (false, m_data.set idx.toNat v) else (true, insertAt idx v m_data)

def erase (m_data : List T) (idx : ℕ) : List T := m_data.eraseIdx idx

inductive Op (T : Type) where
  | exists_ (v : T)
  | insert (v : T)
  | erase (idx : ℕ)

/-- A call that returns. -/
def Step (k : Overload) (l : List T) : Op T → List T → Prop
  | .exists_ v, l' => l' = l ∧ ∃ turns idx, find lt k l v turns = some idx
  | .insert v, l' => ∃ turns added, insert lt k l v turns = some (added, l')
  | .erase idx, l' => idx < l.length ∧ l' = erase l idx

/-! ## Searching -/

section
variable {lt} {l : List T} {v : T} {p : ℕ}

/-- What `exists` is to return for a value whose place is `p`. -/
def Answer (lt : T → T → Prop) (l : List T) (v : T) (p : ℕ) (idx : ℤ) : Prop :=
  (∃ x, l[p]? = some x ∧ Tied lt x v ∧ idx = p) ∨ (∀ x, l[p]? = some x → lt v x) ∧ idx = -(p + 1)

/-- The middle of a range that is not empty. -/
theorem middle {b e : ℕ} (h : b < e) : ((b : ℤ) + (e - 1)).tdiv 2 = ((b + (e - 1 - b) / 2 : ℕ) : ℤ) := by
  rw [Int.tdiv_eq_ediv_of_nonneg (by omega)]
  omega

variable [IsStrictWeakOrder T lt]

/-- The bounds of `exists(v)` close in on the place, which is between them as long as its element is
    tied with `v`. -/
theorem existsLoop_answer (hp : Place lt l v p) {turns b e : ℕ} (hb : b ≤ p) (he : p ≤ e)
    (hin : ∀ x, l[p]? = some x → Tied lt x v → p < e) (hlen : e ≤ l.length)
    (hturns : e - b < turns) :
    ∃ idx, existsLoop lt l v turns b ((e : ℤ) - 1) = some idx ∧ Answer lt l v p idx := by
  induction turns generalizing b e with
  | zero => exact absurd hturns (Nat.not_lt_zero _)
  | succ turns ih =>
    rw [existsLoop]
    by_cases hbe : b < e
    · rw [if_pos (by omega : (b : ℤ) ≤ e - 1)]
      dsimp only
      rw [middle hbe]
      generalize hm : b + (e - 1 - b) / 2 = m
      have hmlt : m < l.length := by omega
      have hget : l[m]? = some l[m] := List.getElem?_eq_getElem hmlt
      simp only [Int.toNat_natCast, hget]
      split_ifs with hv hx
      · have hpm : p ≤ m := hp.le_of_lt hget hv
        refine ih hb hpm (fun x hx htied => ?_) (by omega) (by omega)
        rcases Nat.eq_or_lt_of_le hpm with rfl | hlt
        · rw [hget] at hx
          cases hx
          exact absurd hv htied.2
        · exact hlt
      · have hmp : m < p := hp.lt_of_lt hget hx
        exact ih (b := m + 1) hmp he hin hlen (by omega)
      · obtain rfl : m = p := hp.eq_of_tied hget ⟨hx, hv⟩
        exact ⟨_, rfl, .inl ⟨_, hget, ⟨hx, hv⟩, rfl⟩⟩
    · obtain rfl : p = e := by omega
      obtain rfl : b = p := by omega
      rw [if_neg (by omega)]
      refine ⟨_, rfl, .inr ⟨fun x hx => ?_, by omega⟩⟩
      by_contra hnot
      exact absurd (hin x hx ⟨hp.here x hx, hnot⟩) (Nat.lt_irrefl _)

omit [IsStrictWeakOrder T lt] in
theorem existsLoop_unique {turns turns' : ℕ} {b e idx idx' : ℤ} (h : existsLoop lt l v turns b e = some idx)
    (h' : existsLoop lt l v turns' b e = some idx') : idx = idx' := by
  induction turns generalizing turns' b e with
  | zero => cases h
  | succ turns ih =>
    cases turns' with
    | zero => cases h'
    | succ turns' =>
      rw [existsLoop] at h h'
      split_ifs at h h' with hbe
      · dsimp only at h h'
        cases hget : l[((b + e).tdiv 2).toNat]? with
        | none => simp [hget] at h
        | some x =>
          simp only [hget] at h h'
          split_ifs at h h'
          · exact ih h h'
          · exact ih h h'
          · exact Option.some.inj (h.symm.trans h')
      · exact Option.some.inj (h.symm.trans h')

/-- Whatever `exists(v, cmp)` returns is right. -/
theorem existsCmpLoop_answer (hp : Place lt l v p) {turns b : ℕ} {idx : ℤ} (hb : b ≤ p)
    (h : existsCmpLoop lt l v turns b ((l.length : ℤ) - 1) = some idx) : Answer lt l v p idx := by
  induction turns generalizing b with
  | zero => cases h
  | succ turns ih =>
    rw [existsCmpLoop] at h
    have hle := hp.le
    by_cases hbn : b < l.length
    · rw [if_pos (by omega : (b : ℤ) ≤ l.length - 1)] at h
      dsimp only at h
      rw [middle hbn] at h
      generalize hm : b + (l.length - 1 - b) / 2 = m at h
      have hget : l[m]? = some l[m] := List.getElem?_eq_getElem (by omega)
      simp only [Int.toNat_natCast, hget] at h
      split_ifs at h with hv hx
      · exact ih hb h
      · exact ih (b := m + 1) (hp.lt_of_lt hget hx) h
      · cases h
        obtain rfl : m = p := hp.eq_of_tied hget ⟨hx, hv⟩
        exact .inl ⟨_, hget, ⟨hx, hv⟩, rfl⟩
    · obtain rfl : b = p := by omega
      rw [if_neg (by omega)] at h
      cases h
      refine .inr ⟨fun x hx => ?_, by omega⟩
      rw [List.getElem?_eq_none (by omega)] at hx
      cases hx

omit [IsStrictWeakOrder T lt] in
/-- Where `v` is less than the element in the middle, the bounds of `exists(v, cmp)` stay. -/
theorem existsCmpLoop_stuck {b m : ℕ} (hbn : b < l.length) (hm : b + (l.length - 1 - b) / 2 = m)
    {x : T} (hget : l[m]? = some x) (hv : lt v x) (turns : ℕ) :
    existsCmpLoop lt l v turns b ((l.length : ℤ) - 1) = none := by
  induction turns with
  | zero => rfl
  | succ turns ih =>
    rw [existsCmpLoop, if_pos (by omega : (b : ℤ) ≤ l.length - 1)]
    dsimp only
    rw [middle hbn, hm]
    simp only [Int.toNat_natCast, hget, if_pos hv]
    exact ih

/-- Of `n` elements those with `d` elements behind are in the middle, when the lower bound alone
    moves. -/
def Rightward (n d : ℕ) : Prop := ∃ k, 2 ^ k ≤ n ∧ d = n / 2 ^ (k + 1)

theorem rightward_iff {n d : ℕ} (hn : 0 < n) : Rightward n d ↔ d = n / 2 ∨ Rightward (n / 2) d := by
  constructor
  · rintro ⟨k, hk, rfl⟩
    cases k with
    | zero => exact .inl rfl
    | succ k =>
      refine .inr ⟨k, (Nat.le_div_iff_mul_le Nat.two_pos).2 (by rwa [← Nat.pow_succ]), ?_⟩
      rw [Nat.div_div_eq_div_mul, ← Nat.pow_succ']
  · rintro (rfl | ⟨k, hk, rfl⟩)
    · exact ⟨0, hn, rfl⟩
    · refine ⟨k + 1, ?_, ?_⟩
      · rw [Nat.pow_succ]
        exact (Nat.le_div_iff_mul_le Nat.two_pos).1 hk
      · rw [Nat.div_div_eq_div_mul, ← Nat.pow_succ']

theorem Rightward.behind_lt {n d : ℕ} (h : Rightward n d) : d < n := by
  obtain ⟨k, hk, rfl⟩ := h
  exact Nat.div_lt_self (Nat.lt_of_lt_of_le (Nat.two_pow_pos k) hk) (Nat.one_lt_two_pow (Nat.succ_ne_zero k))

/-- **`exists(v, cmp)` returns** iff its bound never has to move down. -/
theorem existsCmpLoop_iff (hp : Place lt l v p) {b : ℕ} (hb : b ≤ p) :
    (∃ turns idx, existsCmpLoop lt l v turns b ((l.length : ℤ) - 1) = some idx) ↔
      p = l.length ∨ (∃ x, l[p]? = some x ∧ Tied lt x v) ∧
        Rightward (l.length - b) (l.length - 1 - p) := by
  have hle := hp.le
  induction hn : l.length - b using Nat.strong_induction_on generalizing b with
  | _ n ih =>
    subst hn
    by_cases hbn : b < l.length
    · obtain ⟨m, hm⟩ : ∃ m, b + (l.length - 1 - b) / 2 = m := ⟨_, rfl⟩
      have hget : l[m]? = some l[m] := List.getElem?_eq_getElem (by omega)
      have hturn (turns : ℕ) : existsCmpLoop lt l v (turns + 1) b ((l.length : ℤ) - 1) =
          if lt v l[m] then existsCmpLoop lt l v turns b ((l.length : ℤ) - 1)
          else if lt l[m] v then existsCmpLoop lt l v turns (m + 1 : ℕ) ((l.length : ℤ) - 1)
          else some m := by
        rw [existsCmpLoop, if_pos (by omega : (b : ℤ) ≤ l.length - 1)]
        dsimp only
        rw [middle hbn, hm]
        simp only [Int.toNat_natCast, hget]
        rfl
      rw [rightward_iff (by omega)]
      by_cases hv : lt v l[m]
      · -- the loop goes on for ever
        have hpm : p ≤ m := hp.le_of_lt hget hv
        have hstuck := existsCmpLoop_stuck hbn hm hget hv
        refine iff_of_false ?_ ?_
        · rintro ⟨turns, idx, h⟩
          rw [hstuck] at h
          cases h
        · rintro (h | ⟨⟨x, hx, htied⟩, h | h⟩)
          · omega
          · obtain rfl : p = m := by omega
            rw [hget] at hx
            cases hx
            exact htied.2 hv
          · have hlow := h.behind_lt
            omega
      · by_cases hx : lt l[m] v
        · have hmp : m < p := hp.lt_of_lt hget hx
          have hrest : l.length - (m + 1) = (l.length - b) / 2 := by omega
          have hne : ¬l.length - 1 - p = (l.length - b) / 2 ∨ p = l.length := by omega
          have ih' := ih (l.length - (m + 1)) (by omega) (b := m + 1) hmp rfl
          rw [hrest] at ih'
          constructor
          · rintro ⟨turns, idx, h⟩
            cases turns with
            | zero => cases h
            | succ turns =>
              rw [hturn, if_neg hv, if_pos hx] at h
              exact (ih'.1 ⟨turns, idx, h⟩).imp_right fun h => ⟨h.1, .inr h.2⟩
          · intro h
            have h' : p = l.length ∨ (∃ x, l[p]? = some x ∧ Tied lt x v) ∧
                Rightward ((l.length - b) / 2) (l.length - 1 - p) := by
              rcases h with h | ⟨hex, h | h⟩
              · exact .inl h
              · exact .inl (hne.resolve_left (not_not_intro h))
              · exact .inr ⟨hex, h⟩
            obtain ⟨turns, idx, h⟩ := ih'.2 h'
            refine ⟨turns + 1, idx, ?_⟩
            rw [hturn, if_neg hv, if_pos hx, h]
        · obtain rfl : m = p := hp.eq_of_tied hget ⟨hx, hv⟩
          refine iff_of_true ⟨1, m, ?_⟩ (.inr ⟨⟨_, hget, hx, hv⟩, .inl (by omega)⟩)
          rw [hturn, if_neg hv, if_neg hx]
    · refine iff_of_true ⟨1, -b - 1, ?_⟩ (.inl (by omega))
      rw [existsCmpLoop, if_neg (by omega)]

end

/-! ## Calls -/

section
variable {lt} {k : Overload} {l l' : List T} {v : T} {p : ℕ}

/-- What `insert` is to do with a value whose place is `p`. -/
def Inserted (lt : T → T → Prop) (l : List T) (v : T) (p : ℕ) (added : Bool) (l' : List T) : Prop :=
  (∃ x, l[p]? = some x ∧ Tied lt x v) ∧ added = false ∧ l' = l.set p v ∨
    (∀ x, l[p]? = some x → lt v x) ∧ added = true ∧ l' = l.take p ++ v :: l.drop p

/-- A call that returns what it is to return, and leaves a sorted array. -/
def RightStep (lt : T → T → Prop) [DecidableRel lt] (k : Overload) (l : List T) (op : Op T) (l' : List T) :
    Prop :=
  Step lt k l op l' ∧ l'.Pairwise lt ∧
    match op with
    | .exists_ v => ∃ p, Place lt l v p ∧ ∃ turns idx, find lt k l v turns = some idx ∧ Answer lt l v p idx
    | .insert v => ∃ p, Place lt l v p ∧
        ∃ turns added, insert lt k l v turns = some (added, l') ∧ Inserted lt l v p added l'
    | .erase idx => l' = l.eraseIdx idx

/-- `v` comes after all elements, or is tied with one that is in the middle when the lower bound alone
    moves. -/
def Reached (lt : T → T → Prop) (l : List T) (v : T) : Prop :=
  (∀ x ∈ l, lt x v) ∨ ∃ i x, l[i]? = some x ∧ Tied lt x v ∧ Rightward l.length (l.length - 1 - i)

/-- The condition of a call. -/
def Meets (lt : T → T → Prop) (k : Overload) (l : List T) : Op T → Prop
  | .exists_ v | .insert v => k = .comparator → Reached lt l v
  | .erase idx => idx < l.length

omit [DecidableRel lt] in
theorem reached_iff (hp : Place lt l v p) :
    Reached lt l v ↔ p = l.length ∨ (∃ x, l[p]? = some x ∧ Tied lt x v) ∧
      Rightward l.length (l.length - 1 - p) := by
  constructor
  · rintro (h | ⟨i, x, hi, htied, h⟩)
    · by_contra hne
      have hlt : p < l.length := by have := hp.le; omega
      exact hp.here _ (List.getElem?_eq_getElem hlt) (h _ (List.getElem_mem hlt))
    · obtain rfl := hp.eq_of_tied hi htied
      exact .inr ⟨⟨x, hi, htied⟩, h⟩
  · rintro (rfl | ⟨⟨x, hx, htied⟩, h⟩)
    · refine .inl fun x hx => ?_
      obtain ⟨i, hi⟩ := List.mem_iff_getElem?.1 hx
      exact hp.before i x hi (List.getElem?_eq_some_iff.1 hi).1
    · exact .inr ⟨p, x, hx, htied, h⟩

variable [IsStrictWeakOrder T lt]

theorem find_operator (hp : Place lt l v p) :
    ∃ turns idx, find lt .operator l v turns = some idx ∧ Answer lt l v p idx := by
  obtain ⟨idx, h, ha⟩ := existsLoop_answer hp (Nat.zero_le p) hp.le
    (fun x hx _ => (List.getElem?_eq_some_iff.1 hx).1) le_rfl (Nat.lt_succ_self _)
  rw [Nat.cast_zero] at h
  exact ⟨l.length - 0 + 1, idx, h, ha⟩

/-- **`exists` returns** for all values, respectively for those of the condition. -/
theorem find_iff (hp : Place lt l v p) :
    (∃ turns idx, find lt k l v turns = some idx) ↔ (k = .comparator → Reached lt l v) := by
  cases k with
  | operator =>
    refine iff_of_true ?_ nofun
    obtain ⟨turns, idx, h, -⟩ := find_operator hp
    exact ⟨turns, idx, h⟩
  | comparator =>
    rw [reached_iff hp]
    have h := existsCmpLoop_iff hp (Nat.zero_le p)
    exact ⟨fun hfind _ => h.1 hfind, fun hr => h.2 (hr rfl)⟩

/-- **Whatever `exists` returns is right.** -/
theorem find_answer (hp : Place lt l v p) {turns : ℕ} {idx : ℤ} (h : find lt k l v turns = some idx) :
    Answer lt l v p idx := by
  cases k with
  | operator =>
    obtain ⟨turns', idx', h', ha⟩ := find_operator hp
    obtain rfl := existsLoop_unique h h'
    exact ha
  | comparator => exact existsCmpLoop_answer hp (Nat.zero_le p) h

/-- **Whatever `insert` does is right.** -/
theorem insert_inserted (hp : Place lt l v p) {turns : ℕ} {added : Bool}
    (h : insert lt k l v turns = some (added, l')) : Inserted lt l v p added l' := by
  obtain ⟨idx, hidx, h⟩ := Option.map_eq_some_iff.1 h
  rcases find_answer hp hidx with ⟨x, hx, htied, rfl⟩ | ⟨hlt, rfl⟩
  · rw [if_pos (Int.natCast_nonneg p)] at h
    cases h
    exact .inl ⟨⟨x, hx, htied⟩, rfl, rfl⟩
  · rw [if_neg (by omega), insertAt] at h
    cases h
    refine .inr ⟨hlt, rfl, ?_⟩
    have hidx : -(-((p : ℤ) + 1)) - 1 = p := by omega
    rw [hidx, Int.toNat_natCast]

omit [DecidableRel lt] in
theorem Inserted.pairwise {added : Bool} (hp : Place lt l v p) (hl : l.Pairwise lt)
    (h : Inserted lt l v p added l') : l'.Pairwise lt := by
  rcases h with ⟨⟨x, hx, htied⟩, -, rfl⟩ | ⟨hlt, -, rfl⟩
  · refine pairwise_set hl fun y hy => ?_
    rw [hx] at hy
    cases hy
    exact htied
  · exact hp.insert hl hlt

/-- **A call on a sorted array** is right if it returns. -/
theorem Step.right {op : Op T} (hl : l.Pairwise lt) (h : Step lt k l op l') : RightStep lt k l op l' := by
  cases op with
  | exists_ v =>
    obtain ⟨p, hp⟩ := exists_place hl v
    obtain ⟨rfl, turns, idx, hidx⟩ := h
    exact ⟨⟨rfl, turns, idx, hidx⟩, hl, p, hp, turns, idx, hidx, find_answer hp hidx⟩
  | insert v =>
    obtain ⟨p, hp⟩ := exists_place hl v
    obtain ⟨turns, added, hins⟩ := h
    have hright := insert_inserted hp hins
    exact ⟨⟨turns, added, hins⟩, hright.pairwise hp hl, p, hp, turns, added, hins, hright⟩
  | erase idx =>
    obtain ⟨hidx, rfl⟩ := h
    exact ⟨⟨hidx, rfl⟩, hl.sublist (List.eraseIdx_sublist _ _), rfl⟩

theorem step_iff {op : Op T} (hl : l.Pairwise lt) : (∃ l', Step lt k l op l') ↔ Meets lt k l op := by
  cases op with
  | exists_ v =>
    obtain ⟨p, hp⟩ := exists_place hl v
    refine Iff.trans ?_ (find_iff (k := k) hp)
    exact ⟨fun ⟨_, _, h⟩ => h, fun h => ⟨l, rfl, h⟩⟩
  | insert v =>
    obtain ⟨p, hp⟩ := exists_place hl v
    refine Iff.trans ?_ (find_iff (k := k) hp)
    constructor
    · rintro ⟨l', turns, added, h⟩
      obtain ⟨idx, hidx, -⟩ := Option.map_eq_some_iff.1 h
      exact ⟨turns, idx, hidx⟩
    · rintro ⟨turns, idx, hidx⟩
      exact ⟨_, turns, _, by rw [insert, hidx]; rfl⟩
  | erase idx => exact ⟨fun ⟨_, h, _⟩ => h, fun h => ⟨_, h, rfl⟩⟩

omit [DecidableRel lt] [IsStrictWeakOrder T lt] in
theorem Inserted.unique {p' : ℕ} {added added' : Bool} {l'' : List T} (hp : Place lt l v p)
    (hp' : Place lt l v p') (h : Inserted lt l v p added l') (h' : Inserted lt l v p' added' l'') :
    l'' = l' := by
  obtain rfl := hp.unique hp'
  rcases h with ⟨⟨x, hx, htied⟩, -, rfl⟩ | ⟨hlt, -, rfl⟩ <;>
    rcases h' with ⟨⟨y, hy, htied'⟩, -, rfl⟩ | ⟨hlt', -, rfl⟩
  · rfl
  · exact absurd (hlt' x hx) htied.2
  · exact absurd (hlt y hy) htied'.2
  · rfl

omit [IsStrictWeakOrder T lt] in
theorem RightStep.unique {op : Op T} {l'' : List T} (h : RightStep lt k l op l') (h' : RightStep lt k l op l'') :
    l'' = l' := by
  cases op with
  | exists_ v => exact h'.1.1.trans h.1.1.symm
  | insert v =>
    obtain ⟨-, -, p, hp, -, added, -, hins⟩ := h
    obtain ⟨-, -, p', hp', -, added', -, hins'⟩ := h'
    exact hins.unique hp hp' hins'
  | erase idx => exact h'.2.2.trans h.2.2.symm

/-- **Sorted arrays stay sorted**: some calls all return, with what they are to return and a sorted
    array each, iff each of them meets the condition. -/
theorem sorted_iff (k : Overload) (ops : List (Op T)) :
    (∃ l, Run (RightStep lt k) [] ops l) ↔
      ∀ ops₁ op ops₂ l, ops = ops₁ ++ op :: ops₂ → Run (Step lt k) [] ops₁ l → Meets lt k l op := by
  have hright {l l' : List T} {ops : List (Op T)} (hl : l.Pairwise lt) (h : Run (Step lt k) l ops l') :
      Run (RightStep lt k) l ops l' := by
    induction h with
    | nil l => exact .nil l
    | cons hstep hrun ih => exact .cons (hstep.right hl) (ih (hstep.right hl).2.1)
  refine (Run.exists_iff (I := fun l => l.Pairwise lt) (C := Meets lt k) ?_ ?_ ?_ .nil).trans ?_
  · exact fun l op l' l'' _ h h' => h.unique h'
  · exact fun l op l' _ h => h.2.1
  · intro l op hl
    rw [← step_iff hl]
    exact ⟨fun ⟨l', h⟩ => ⟨l', h.1⟩, fun ⟨l', h⟩ => ⟨l', h.right hl⟩⟩
  · constructor
    · exact fun h ops₁ op ops₂ l he hrun => h ops₁ op ops₂ l he (hright .nil hrun)
    · exact fun h ops₁ op ops₂ l he hrun => h ops₁ op ops₂ l he (hrun.mono fun _ _ _ hstep => hstep.1)

theorem sorted_iff_operator :
    ∃ l, Run (RightStep (T := ℕ) (· < ·) .operator) [] [.insert 2, .insert 1, .exists_ 2] l :=
  (sorted_iff .operator _).2 fun ops₁ op ops₂ l he _ => by
    have hop : op ∈ [Op.insert 2, .insert 1, .exists_ 2] := by rw [he]; simp
    simp only [List.mem_cons, List.not_mem_nil, or_false] at hop
    rcases hop with rfl | rfl | rfl
    · exact nofun
    · exact nofun
    · exact nofun

/-- A second value that is less than the first one. -/
theorem not_sorted_comparator :
    ¬∃ l, Run (RightStep (T := ℕ) (· < ·) .comparator) [] [.insert 1, .insert 0] l := by
  rintro ⟨l, h⟩
  obtain ⟨l₁, h₁, h⟩ := Run.cons_iff.1 h
  obtain ⟨l₂, h₂, -⟩ := Run.cons_iff.1 h
  obtain ⟨-, -, p, hp, -, added, -, hins⟩ := h₁
  obtain rfl : p = 0 := Nat.le_zero.1 hp.le
  rcases hins with ⟨⟨x, hx, -⟩, -⟩ | ⟨-, -, rfl⟩
  · cases hx
  · rcases (step_iff (List.pairwise_singleton _ _)).1 ⟨l₂, h₂.1⟩ rfl with hall | ⟨i, x, hi, htied, -⟩
    · exact absurd (hall 1 (List.mem_singleton_self 1)) (by decide)
    · obtain rfl : x = 1 := List.mem_singleton.1 (List.mem_of_getElem? hi)
      exact absurd Nat.zero_lt_one htied.2

end

end Ancfl.Ds.Array
