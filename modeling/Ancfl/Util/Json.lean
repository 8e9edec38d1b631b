/-
  `JsonUtil::NeedEscape` and `JsonUtil::Escape` (json_util.cc).

  * `Escape_eq`: where a character has to be escaped, the text begins with as
    many NULs as it is long, since `resize` comes before the `append`s;
  * `read_quoted`: behind them the text is right;
  * `escapesRight_iff`: the text is right iff nothing has to be escaped.
-/
import Ancfl.Lib.JsonString
import Mathlib.Data.List.Flatten

namespace Ancfl.Util.JsonUtil

open Lib Lib.Json

def NeedEscape : List UInt8 → Bool
  | [] => false
  | c :: v =>
    match c with
    | 12 | 9 | 13 | 10 | 8 | 34 | 92 => true
    | _ => NeedEscape v

/-- What a character adds to `size`. -/
def escapedSize : UInt8 → ℕ
  | 12 | 9 | 13 | 10 | 8 | 34 | 92 => 2
  | _ => 1

/-- What is appended to `rt` for a character. -/
def quoted : UInt8 → List UInt8
  | 12 => [92, 102]
  | 9 => [92, 116]
  | 13 => [92, 114]
  | 10 => [92, 110]
  | 8 => [92, 98]
  | 34 => [92, 34]
  | 92 => [92, 92]
  | c => [c]

def Escape (v : List UInt8) : List UInt8 :=
  let size := v.foldl (fun size c => size + escapedSize c) 0
  if size = v.length then v
  else
    -- `rt.resize(size)`
    let rt := List.replicate size 0
    v.foldl (fun rt c => rt ++ quoted c) rt

/-! ## The three switches -/

/-- The characters that have a short escape of their own. -/
def Special (c : UInt8) : Prop := c ∈ [12, 9, 13, 10, 8, 34, 92]

instance (c : UInt8) : Decidable (Special c) := inferInstanceAs (Decidable (c ∈ _))

/-- No control character but the five that have an escape. -/
def Writable (c : UInt8) : Prop := 32 ≤ c ∨ Special c

section
variable {c : UInt8} {v : List UInt8}

theorem special_cases (h : Special c) :
    c = 12 ∨ c = 9 ∨ c = 13 ∨ c = 10 ∨ c = 8 ∨ c = 34 ∨ c = 92 := by
  simpa [Special] using h

theorem needEscape_cons : NeedEscape (c :: v) = (decide (Special c) || NeedEscape v) := by
  by_cases h : Special c
  · rw [decide_eq_true h, Bool.true_or]
    rcases special_cases h with rfl | rfl | rfl | rfl | rfl | rfl | rfl
    all_goals rfl
  · rw [decide_eq_false h, Bool.false_or, NeedEscape]
    all_goals exact fun hc => h (by simp [Special, hc])

theorem needEscape_iff : NeedEscape v ↔ ∃ c ∈ v, Special c := by
  induction v with
  | nil => simp [NeedEscape]
  | cons c v ih => simp [needEscape_cons, ih]

theorem escapedSize_eq : escapedSize c = if Special c then 2 else 1 := by
  unfold escapedSize
  split <;> simp_all [Special]

theorem quoted_of_special (h : Special c) : ∃ d, quoted c = [92, d] ∧ unescape d = some c := by
  rcases special_cases h with rfl | rfl | rfl | rfl | rfl | rfl | rfl
  all_goals exact ⟨_, rfl, rfl⟩

theorem quoted_of_not (h : ¬Special c) : quoted c = [c] := by
  unfold quoted
  split <;> simp_all [Special]

theorem length_quoted : (quoted c).length = escapedSize c := by
  rw [escapedSize_eq]
  split_ifs with h
  · obtain ⟨d, hd, -⟩ := quoted_of_special h
    rw [hd]
    rfl
  · rw [quoted_of_not h]
    rfl

/-! ## The text -/

theorem size_eq : ∀ (n : ℕ), v.foldl (fun size c => size + escapedSize c) n =
    n + v.length + v.countP (fun c => decide (Special c)) := by
  induction v with
  | nil => simp
  | cons c v ih =>
    intro n
    rw [List.foldl_cons, ih, List.length_cons, List.countP_cons, escapedSize_eq]
    by_cases h : Special c <;> simp [h] <;> omega

theorem countP_pos : 0 < v.countP (fun c => decide (Special c)) ↔ NeedEscape v := by
  rw [List.countP_pos_iff, needEscape_iff]
  simp

theorem Escape_of_not (h : NeedEscape v = false) : Escape v = v := by
  have hzero : v.countP (fun c => decide (Special c)) = 0 := by
    by_contra hne
    rw [countP_pos.1 (Nat.pos_of_ne_zero hne)] at h
    cases h
  rw [Escape]
  dsimp only
  rw [if_pos (by rw [size_eq, hzero]; omega)]

/-- **The text begins with NULs**, as many as it was meant to have characters. -/
theorem Escape_eq (h : NeedEscape v) : Escape v =
    List.replicate (v.length + v.countP (fun c => decide (Special c))) 0 ++ v.flatMap quoted := by
  have hpos := countP_pos.2 h
  rw [Escape]
  dsimp only
  rw [if_neg (by rw [size_eq]; omega), List.foldl_append_eq_append, size_eq, Nat.zero_add,
    List.flatMap_def]

theorem length_flatMap_quoted : (v.flatMap quoted).length =
    v.length + v.countP (fun c => decide (Special c)) := by
  induction v with
  | nil => rfl
  | cons c v ih =>
    rw [List.flatMap_cons, List.length_append, ih, length_quoted, escapedSize_eq, List.length_cons,
      List.countP_cons]
    by_cases h : Special c <;> simp [h] <;> omega

/-- **The characters behind the NULs are read back.** -/
theorem read_quoted (hv : ∀ c ∈ v, Writable c) : readString (34 :: (v.flatMap quoted ++ [34])) = some v := by
  rw [readString]
  induction v with
  | nil => exact readChars_quote
  | cons c v ih =>
    have hrest := ih fun c hc => hv c (List.mem_cons_of_mem _ hc)
    rw [List.flatMap_cons, List.append_assoc]
    by_cases h : Special c
    · obtain ⟨d, hd, hc⟩ := quoted_of_special h
      rw [hd]
      show readChars (92 :: d :: (v.flatMap quoted ++ [34])) = _
      rw [readChars_escape hc, hrest]
      rfl
    · have hle : 32 ≤ c := (hv c (by simp)).resolve_right h
      have hquote : c ≠ 34 := fun hc => h (by simp [Special, hc])
      have hback : c ≠ 92 := fun hc => h (by simp [Special, hc])
      rw [quoted_of_not h]
      show readChars (c :: (v.flatMap quoted ++ [34])) = _
      rw [readChars_plain hle hquote hback, hrest]
      rfl

theorem flatMap_quoted_of_not (h : NeedEscape v = false) : v.flatMap quoted = v := by
  have hnot : ∀ c ∈ v, quoted c = [c] := fun c hc => quoted_of_not fun hspecial => by
    rw [needEscape_iff.2 ⟨c, hc, hspecial⟩] at h
    cases h
  rw [List.flatMap_congr hnot]
  exact List.flatMap_singleton' v

end

/-- `Escape` is exact: the literal is read back, one character is added for each that is escaped, and
    the text is left as it is if none is. -/
structure EscapesRight (s : List UInt8) : Prop where
  read : readString (34 :: (Escape s ++ [34])) = some s
  length : (Escape s).length = s.length + s.countP fun c => decide (Special c)
  same : Escape s = s ↔ NeedEscape s = false

/-- **`Escape` is exact** where it has nothing to escape. -/
theorem escapesRight_iff {s : List UInt8} (hs : ∀ c ∈ s, Writable c) :
    EscapesRight s ↔ NeedEscape s = false := by
  constructor
  · intro h
    by_contra hneed
    have hlength := h.length
    rw [Bool.not_eq_false] at hneed
    have hpos := countP_pos.2 hneed
    rw [Escape_eq hneed, List.length_append, List.length_replicate, length_flatMap_quoted] at hlength
    omega
  · intro h
    have hescape := Escape_of_not h
    refine ⟨?_, ?_, iff_of_true hescape h⟩
    · have hread := read_quoted hs
      rw [flatMap_quoted_of_not h] at hread
      rw [hescape]
      exact hread
    · have hlength := @length_flatMap_quoted s
      rw [flatMap_quoted_of_not h] at hlength
      rw [hescape]
      exact hlength

theorem escapesRight_abc : EscapesRight [97, 98, 99] :=
  (escapesRight_iff (by simp [Writable, Special])).2 rfl

/-- **The text of one quote has four characters**, the first two of which are NULs. -/
theorem not_escapesRight : ¬∀ s : List UInt8, (∀ c ∈ s, Writable c) → EscapesRight s := by
  intro h
  have hs : ∀ c ∈ [(34 : UInt8)], Writable c := by simp [Writable, Special]
  cases (escapesRight_iff hs).1 (h [34] hs)

end Ancfl.Util.JsonUtil
