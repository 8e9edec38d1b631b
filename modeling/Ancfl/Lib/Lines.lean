/-
  Texts of lines that end with CRLF, and the mail text of SMTP: a line with a
  single dot ends it, and the receiver drops the first dot of every other line.

  * `lines` takes a text apart, `joined` puts lines together; `lines_append`
    is what a CRLF between two texts does;
  * `endsOnly_iff`: CRLF . CRLF is nowhere but at the end of a text iff none of
    its lines is a dot;
  * `lines_received_iff`: some lines are received as they are iff none of them begins
    with a dot.
-/
import Mathlib.Data.List.Basic
import Mathlib.Data.List.TakeWhile
import Mathlib.Tactic.Common

namespace Lib

def CRLF : List UInt8 := [13, 10]

/-- The lines of a text, the last of which is what is behind the last CRLF. -/
def lines : List UInt8 → List (List UInt8)
  | [] => [[]]
  | 13 :: 10 :: s => [] :: lines s
  | c :: s => (lines s).modifyHead (c :: ·)

/-- The text of some lines. -/
def joined (ls : List (List UInt8)) : List UInt8 := ls.flatMap (· ++ CRLF)

@[simp] theorem joined_nil : joined [] = [] := rfl

@[simp] theorem joined_cons (l : List UInt8) (ls : List (List UInt8)) :
    joined (l :: ls) = l ++ CRLF ++ joined ls := rfl

@[simp] theorem joined_append (ls ls' : List (List UInt8)) :
    joined (ls ++ ls') = joined ls ++ joined ls' := List.flatMap_append

theorem lines_cons {c : UInt8} {s : List UInt8} (h : c ≠ 13 ∨ s.head? ≠ some 10) :
    lines (c :: s) = (lines s).modifyHead (c :: ·) := by
  rw [lines]
  rintro s' rfl rfl
  simp at h

theorem lines_ne_nil (s : List UInt8) : lines s ≠ [] := by
  induction s using lines.induct with
  | case1 => exact List.cons_ne_nil _ _
  | case2 s ih => exact List.cons_ne_nil _ _
  | case3 c s hc ih =>
    rw [lines]
    · simpa using ih
    · exact hc

/-- **A CRLF ends a line**, whatever is before and behind it. -/
theorem lines_append (s t : List UInt8) : lines (s ++ CRLF ++ t) = lines s ++ lines t := by
  induction s using lines.induct with
  | case1 => rfl
  | case2 s ih =>
    show [] :: lines (s ++ CRLF ++ t) = _
    rw [ih]
    rfl
  | case3 c s hc ih =>
    have hhead : c ≠ 13 ∨ s.head? ≠ some 10 := by
      by_contra h
      rw [not_or, not_not, not_not] at h
      obtain ⟨s', rfl⟩ := List.head?_eq_some_iff.1 h.2
      exact hc s' h.1 rfl
    have hhead' : c ≠ 13 ∨ (s ++ CRLF ++ t).head? ≠ some 10 := by
      cases s with
      | nil => exact .inr (by simp [CRLF])
      | cons d s => simpa using hhead
    show lines (c :: (s ++ CRLF ++ t)) = _
    rw [lines_cons hhead', lines_cons hhead, ih]
    cases h : lines s with
    | nil => exact absurd h (lines_ne_nil s)
    | cons l ls => rfl

theorem lines_concat (s : List UInt8) : lines (s ++ CRLF) = lines s ++ [[]] := by
  have hlines := lines_append s []
  rwa [List.append_nil] at hlines

theorem lines_crlf (s : List UInt8) : lines (CRLF ++ s) = [] :: lines s := lines_append [] s

/-- A text without CR goes into the line behind it. -/
theorem lines_append_of_not_mem {s : List UInt8} (h : 13 ∉ s) (t : List UInt8) :
    lines (s ++ t) = (lines t).modifyHead (s ++ ·) := by
  induction s with
  | nil =>
    show lines t = _
    cases lines t <;> rfl
  | cons c s ih =>
    rw [List.cons_append, lines_cons (.inl fun hc => h (by simp [hc])),
      ih fun hmem => h (by simp [hmem])]
    cases lines t <;> rfl

/-- A text without CR is one line. -/
theorem lines_of_not_mem {s : List UInt8} (h : 13 ∉ s) : lines s = [s] := by
  have hlines := lines_append_of_not_mem h []
  rw [List.append_nil] at hlines
  simpa [lines] using hlines

theorem joined_lines (s : List UInt8) : joined (lines s) = s ++ CRLF := by
  induction s using lines.induct with
  | case1 => rfl
  | case2 s ih => rw [lines, joined_cons, ih]; rfl
  | case3 c s hc ih =>
    rw [lines]
    cases h : lines s with
    | nil => exact absurd h (lines_ne_nil s)
    | cons l ls =>
      rw [h] at ih
      simpa using ih
    · exact hc

/-- The first line begins as the text does. -/
theorem lines_head {s l : List UInt8} {ls : List (List UInt8)} (h : lines s = l :: ls) :
    l = [] ∨ l.head? = s.head? := by
  induction s using lines.induct with
  | case1 =>
    cases h
    exact .inl rfl
  | case2 s =>
    cases h
    exact .inl rfl
  | case3 c s hc =>
    rw [lines] at h
    · cases hs : lines s with
      | nil => exact absurd hs (lines_ne_nil s)
      | cons l' ls' =>
        rw [hs] at h
        cases h
        exact .inr rfl
    · exact hc

/-- A line has no CRLF in it. -/
theorem lines_line {s l : List UInt8} (h : l ∈ lines s) : lines l = [l] := by
  induction s using lines.induct generalizing l with
  | case1 =>
    rw [List.mem_singleton.1 h]
    rfl
  | case2 s ih =>
    rcases List.mem_cons.1 h with rfl | h
    · rfl
    · exact ih h
  | case3 c s hc ih =>
    have hlines : lines (c :: s) = (lines s).modifyHead (c :: ·) := by
      rw [lines]
      exact hc
    rw [hlines] at h
    cases hs : lines s with
    | nil => exact absurd hs (lines_ne_nil s)
    | cons l' ls =>
      rw [hs] at h ih
      rcases List.mem_cons.1 h with rfl | h
      · rw [lines_cons, ih List.mem_cons_self]
        · rfl
        · by_contra hne
          rw [not_or, not_not, not_not] at hne
          obtain ⟨rfl, hhead⟩ := hne
          rcases lines_head hs with rfl | heq
          · cases hhead
          · rw [heq] at hhead
            obtain ⟨s', rfl⟩ := List.head?_eq_some_iff.1 hhead
            exact hc s' rfl rfl
      · exact ih (List.mem_cons_of_mem _ h)

/-- Lines are what a text is taken apart into. -/
theorem lines_joined {ls : List (List UInt8)} (h : ∀ l ∈ ls, lines l = [l]) (s : List UInt8) :
    lines (joined ls ++ s) = ls ++ lines s := by
  induction ls with
  | nil => rfl
  | cons l ls ih =>
    rw [joined_cons, List.append_assoc, lines_append, h l List.mem_cons_self,
      ih fun l hl => h l (List.mem_cons_of_mem _ hl)]
    rfl

/-! ## Mail texts -/

/-- `.` -/
def dot : List UInt8 := [46]

/-- CRLF . CRLF -/
def endOfMail : List UInt8 := CRLF ++ dot ++ CRLF

/-- What the receiver takes a line for. -/
def unstuff : List UInt8 → List UInt8
  | 46 :: l => l
  | l => l

/-- The text that the receiver gets, from the lines before the one that ends it. -/
def received (text : List UInt8) : List UInt8 :=
  joined (((lines text).takeWhile (· ≠ dot)).map unstuff)

/-- CRLF . CRLF is nowhere but at the end. -/
def EndsOnly (text : List UInt8) : Prop :=
  endOfMail <:+ text ∧ ∀ pre post, text = pre ++ endOfMail ++ post → post = []

/-- Whether a line begins with a dot. -/
def Dotted (l : List UInt8) : Prop := l.head? = some 46

instance (l : List UInt8) : Decidable (Dotted l) := inferInstanceAs (Decidable (_ = _))

theorem lines_endOfMail (pre post : List UInt8) :
    lines (pre ++ endOfMail ++ post) = lines pre ++ dot :: lines post := by
  have h : pre ++ endOfMail ++ post = pre ++ CRLF ++ (dot ++ CRLF ++ post) := by
    simp [endOfMail]
  rw [h, lines_append, lines_append]
  rfl

theorem eq_joined {text : List UInt8} {ls : List (List UInt8)} (h : lines text = ls ++ [[]]) :
    text = joined ls := by
  have heq := joined_lines text
  rw [h, joined_append] at heq
  exact (List.append_cancel_right heq).symm

theorem eq_nil_of_lines {text : List UInt8} (h : lines text = [[]]) : text = [] :=
  eq_joined (show lines text = [] ++ [[]] from h)

theorem joined_dot (l : List UInt8) (ls ls' : List (List UInt8)) :
    joined (ls ++ l :: dot :: ls') = joined ls ++ l ++ endOfMail ++ joined ls' := by
  simp [endOfMail]

/-- **A mail text ends where it is to end** iff no line before is a dot. -/
theorem endsOnly_iff {text : List UInt8} {l : List UInt8} {ls : List (List UInt8)}
    (hlines : lines text = l :: ls ++ [dot, []]) (hfirst : l ≠ dot) :
    EndsOnly text ↔ dot ∉ ls := by
  have htext : text = joined (l :: ls ++ [dot]) := eq_joined (by rw [hlines]; simp)
  constructor
  · rintro ⟨-, hends⟩ hmem
    obtain ⟨ls₁, ls₂, rfl⟩ := List.append_of_mem hmem
    obtain ⟨ls', l', hls⟩ : ∃ ls' l', l :: ls₁ = ls' ++ [l'] :=
      ⟨_, _, (List.dropLast_concat_getLast (List.cons_ne_nil l ls₁)).symm⟩
    have hsplit : text = joined ls' ++ l' ++ endOfMail ++ joined (ls₂ ++ [dot]) := by
      rw [← joined_dot, htext]
      have : l :: (ls₁ ++ dot :: ls₂) ++ [dot] = (l :: ls₁) ++ dot :: (ls₂ ++ [dot]) := by simp
      rw [this, hls]
      simp
    have hnil := hends _ _ hsplit
    simp [dot] at hnil
  · intro hdot
    have hdot' : dot ∉ l :: ls := fun hmem => (List.mem_cons.1 hmem).elim (fun h => hfirst h.symm) hdot
    constructor
    · obtain ⟨ls', l', hls⟩ : ∃ ls' l', l :: ls = ls' ++ [l'] :=
        ⟨_, _, (List.dropLast_concat_getLast (List.cons_ne_nil l ls)).symm⟩
      refine ⟨joined ls' ++ l', ?_⟩
      rw [htext, hls, List.append_assoc ls', List.singleton_append, joined_dot, joined_nil,
        List.append_nil]
    · intro pre post heq
      rw [heq, lines_endOfMail] at hlines
      rcases List.append_eq_append_iff.1 hlines with ⟨u, hu, hrest⟩ | ⟨u, hu, hrest⟩
      · cases u with
        | nil =>
          rw [List.nil_append, List.cons_eq_cons] at hrest
          exact eq_nil_of_lines hrest.2
        | cons d u =>
          obtain ⟨rfl, -⟩ := List.cons_eq_cons.1 hrest
          exact absurd (hu ▸ by simp) hdot'
      · cases u with
        | nil =>
          rw [List.nil_append, List.cons_eq_cons] at hrest
          exact eq_nil_of_lines hrest.2.symm
        | cons d u =>
          cases u with
          | nil => simp [dot] at hrest
          | cons d' u => simp at hrest

theorem unstuff_of_not_dotted {l : List UInt8} (h : ¬Dotted l) : unstuff l = l := by
  unfold unstuff
  split
  · exact absurd rfl h
  · rfl

theorem unstuff_eq_iff {l : List UInt8} : unstuff l = l ↔ ¬Dotted l := by
  refine ⟨fun h hdot => ?_, unstuff_of_not_dotted⟩
  obtain ⟨l', rfl⟩ := List.head?_eq_some_iff.1 hdot
  exact List.cons_ne_self 46 l' h.symm

/-- What is left of a line is a line. -/
theorem lines_unstuff {l : List UInt8} (h : lines l = [l]) : lines (unstuff l) = [unstuff l] := by
  unfold unstuff
  split
  · next l =>
    rw [lines_cons (.inl (by decide))] at h
    cases hs : lines l with
    | nil => exact absurd hs (lines_ne_nil l)
    | cons l' ls =>
      rw [hs] at h
      simpa using h
  · exact h

theorem received_eq {text : List UInt8} {ls : List (List UInt8)}
    (hlines : lines text = ls ++ [dot, []]) (hdot : dot ∉ ls) :
    received text = joined (ls.map unstuff) := by
  rw [received, hlines, List.takeWhile_append_of_pos]
  · simp
  · intro l hl
    exact decide_eq_true fun heq => hdot (heq ▸ hl)

/-- **Lines are received as they are** iff none of them begins with a dot. -/
theorem lines_received_iff {text : List UInt8} {ls₁ ls₂ ls₃ : List (List UInt8)}
    (hlines : lines text = ls₁ ++ ls₂ ++ ls₃ ++ [dot, []]) (hdot : dot ∉ ls₁ ++ ls₂ ++ ls₃)
    (hls₁ : ∀ l ∈ ls₁, ¬Dotted l) (hls₂ : ∀ l ∈ ls₂, lines l = [l]) :
    (∃ rest, received text = joined ls₁ ++ joined ls₂ ++ rest) ↔ ∀ l ∈ ls₂, ¬Dotted l := by
  have hmap {ls : List (List UInt8)} (h : ∀ l ∈ ls, ¬Dotted l) : ls.map unstuff = ls := by
    refine (List.map_congr_left fun l hl => ?_).trans (List.map_id ls)
    exact unstuff_of_not_dotted (h l hl)
  rw [received_eq hlines hdot, List.map_append, List.map_append, hmap hls₁, joined_append,
    joined_append]
  constructor
  · rintro ⟨rest, heq⟩ l hl
    rw [List.append_assoc, List.append_assoc, List.append_cancel_left_eq] at heq
    have heq' := congrArg lines heq
    rw [lines_joined hls₂, lines_joined] at heq'
    · have hlen : (ls₂.map unstuff).length = ls₂.length := List.length_map _
      have hsame := List.append_inj_left heq' hlen
      exact unstuff_eq_iff.1 (List.map_inj_left.1 (hsame.trans (List.map_id ls₂).symm) l hl)
    · intro l' hl'
      obtain ⟨l, hl, rfl⟩ := List.mem_map.1 hl'
      exact lines_unstuff (hls₂ l hl)
  · intro h
    exact ⟨joined (ls₃.map unstuff), by rw [hmap h]⟩

end Lib
