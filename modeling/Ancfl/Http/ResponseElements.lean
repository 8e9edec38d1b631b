/-
  The elements of a response head and of a size line.

  * `strtol_digits`: the number before a byte that is no digit, whatever comes
    after this byte;
  * `Sound`: what the transitions of the table have in common (`next_sound`);
    the digits of a number follow each other in one state;
  * `marking`: the positions that the actions remember, and the first of those
    that they use.
-/
import Ancfl.Http.HttpClientTable
import Ancfl.Http.Message
import Mathlib.Data.List.GetD

namespace Ancfl.Http

open Lib

/-! ## Numbers -/

/-- A digit in base `n`. -/
def isDigit (n : ℕ) (c : UInt8) : Bool := (digitVal n c).isSome

/-- The bytes after a number. -/
def endsNumber (c : UInt8) : Bool := c == 10 || c == 13 || c == 32 || c == 59

theorem isDigit_of_endsNumber {n : ℕ} (hn : n = 10 ∨ n = 16) {c : UInt8} (hc : endsNumber c) :
    digitVal n c = none := by
  simp only [endsNumber, Bool.or_eq_true, beq_iff_eq] at hc
  obtain ((rfl | rfl) | rfl) | rfl := hc
  all_goals rcases hn with rfl | rfl <;> decide

theorem isDigit_of_range {n : ℕ} (hn : n = 10 ∨ n = 16) {c : UInt8}
    (h : 48 ≤ c.toNat ∧ c.toNat ≤ 57 ∨
      n = 16 ∧ (65 ≤ c.toNat ∧ c.toNat ≤ 70 ∨ 97 ≤ c.toNat ∧ c.toNat ≤ 102)) : isDigit n c := by
  have hbytes : ∀ k : Fin 256, (48 ≤ k.1 ∧ k.1 ≤ 57 → isDigit 10 (UInt8.ofNat k)) ∧
      (48 ≤ k.1 ∧ k.1 ≤ 57 ∨ 65 ≤ k.1 ∧ k.1 ≤ 70 ∨ 97 ≤ k.1 ∧ k.1 ≤ 102 →
        isDigit 16 (UInt8.ofNat k)) := by
    decide +kernel
  have hc := hbytes ⟨c.toNat, c.toNat_lt⟩
  rw [UInt8.ofNat_toNat] at hc
  rcases hn with rfl | rfl
  · exact hc.1 (h.resolve_right fun h => absurd h.1 (by decide))
  · exact hc.2 (h.imp_right And.right)

/-- Digits are neither white space nor a sign nor an `x`. -/
theorem digit_ne {n : ℕ} {c : UInt8} (h : isDigit n c) :
    isspace c = false ∧ c ≠ 43 ∧ c ≠ 45 ∧ tolower c ≠ 120 := by
  have hrange : 48 ≤ c ∧ c ≤ 57 ∨ 65 ≤ c ∧ c ≤ 70 ∨ 97 ≤ c ∧ c ≤ 102 := by
    by_contra hnone
    simp only [not_or] at hnone
    simp only [isDigit, digitVal, if_neg hnone.1, if_neg hnone.2.1, if_neg hnone.2.2, lt_irrefl] at h
    cases h
  have hbytes : ∀ k : Fin 256, (48 ≤ UInt8.ofNat k ∧ UInt8.ofNat k ≤ 57 ∨
      65 ≤ UInt8.ofNat k ∧ UInt8.ofNat k ≤ 70 ∨ 97 ≤ UInt8.ofNat k ∧ UInt8.ofNat k ≤ 102) →
      isspace (UInt8.ofNat k) = false ∧ UInt8.ofNat k ≠ 43 ∧ UInt8.ofNat k ≠ 45 ∧
        tolower (UInt8.ofNat k) ≠ 120 := by
    decide +kernel
  have hc := hbytes ⟨c.toNat, c.toNat_lt⟩
  rw [UInt8.ofNat_toNat] at hc
  exact hc hrange

theorem digits_append {n : ℕ} {c : UInt8} (hc : digitVal n c = none) (t : List UInt8) :
    ∀ {u : List UInt8} (v : ℕ), (∀ d ∈ u, isDigit n d) → digits n (u ++ c :: t) v = digits n u v
  | [], v, _ => by
    rw [List.nil_append]
    simp only [digits, hc]
  | d :: u, v, h => by
    obtain ⟨x, hx⟩ := Option.isSome_iff_exists.1 (h d (by simp))
    rw [List.cons_append, digits, digits, hx]
    exact digits_append hc t _ fun d' hd' => h d' (List.mem_cons_of_mem _ hd')

/-- `strtol` takes the digits and no more. -/
theorem strtol_digits {n : ℕ} (hn : n = 10 ∨ n = 16) {u : List UInt8} (hu : u ≠ [])
    (hdigits : ∀ d ∈ u, isDigit n d) {c : UInt8} (hc : endsNumber c) (t : List UInt8) :
    strtol n (u ++ c :: t) = min (digits n u 0 : ℤ) (2 ^ 63 - 1) := by
  obtain ⟨d, u, rfl⟩ := List.exists_cons_of_ne_nil hu
  obtain ⟨hspace, hplus, hminus, -⟩ := digit_ne (hdigits d (by simp))
  have hval : unsignedVal n (d :: u ++ c :: t) = digits n (d :: u) 0 := by
    rw [← digits_append (isDigit_of_endsNumber hn hc) t 0 hdigits]
    unfold unsignedVal
    split
    · rename_i x y s heq
      rw [heq, if_neg]
      rintro ⟨-, hx, -⟩
      rcases u with _ | ⟨d', u⟩
      · simp only [List.cons_append, List.nil_append, List.cons.injEq] at heq
        rw [← heq.2.1] at hx
        simp only [endsNumber, Bool.or_eq_true, beq_iff_eq] at hc
        obtain ((rfl | rfl) | rfl) | rfl := hc <;> exact absurd hx (by decide)
      · simp only [List.cons_append, List.cons.injEq] at heq
        exact (digit_ne (hdigits d' (by simp))).2.2.2 (heq.2.1 ▸ hx)
    · rfl
  unfold strtol
  rw [List.cons_append, List.dropWhile_cons_of_neg (by simp [hspace]), ← List.cons_append]
  split
  · rename_i heq
    exact absurd (List.cons.inj heq).1 hplus
  · rename_i heq
    exact absurd (List.cons.inj heq).1 hminus
  · rw [hval]

namespace HttpclientParser

/-! ## The transitions -/

/-- The states in which the digits of a number are read, with the base. -/
def numberState : ℕ → Option ℕ
  | 2 => some 16
  | 17 | 115 | 117 | 119 => some 10
  | _ => none

/-- The base of the number that an action reads. -/
def Action.base : Action → Option ℕ
  | .chunk_size => some 16
  | .status_code | .write_content_len => some 10
  | _ => none

/-- The action sets the mark. -/
def Action.marks (a : Action) : Bool := a == .mark || a == .start_value

theorem base_of_numberState {cs n : ℕ} (h : numberState cs = some n) : n = 10 ∨ n = 16 := by
  unfold numberState at h
  split at h <;> cases h <;> decide

/-- What the transitions for the bytes from `lo` to `hi` have in common. -/
structure Sound (cs lo hi : ℕ) (acts : List Action) (target : ℕ) : Prop where
  source_ne : cs ≠ error
  final : first_final ≤ target ↔ .done ∈ acts
  number : ∀ a ∈ acts, a.base ≠ none → a.base = numberState cs ∧ (∀ a' ∈ acts, a'.marks = false) ∧
    lo = hi ∧ lo ∈ [10, 13, 32, 59]
  to_number : numberState target ≠ none →
    (48 ≤ lo ∧ hi ≤ 57 ∨ numberState target = some 16 ∧ (65 ≤ lo ∧ hi ≤ 70 ∨ 97 ≤ lo ∧ hi ≤ 102)) ∧
      (acts ∈ [[.mark], [.start_value], [.start_value, .start_field]] ∨
        numberState cs = numberState target ∧ acts = [])

instance (cs lo hi : ℕ) (acts : List Action) (target : ℕ) : Decidable (Sound cs lo hi acts target) :=
  decidable_of_iff (cs ≠ error ∧ (first_final ≤ target ↔ .done ∈ acts) ∧
    (∀ a ∈ acts, a.base ≠ none → a.base = numberState cs ∧ (∀ a' ∈ acts, a'.marks = false) ∧
      lo = hi ∧ lo ∈ [10, 13, 32, 59]) ∧
    (numberState target ≠ none →
      (48 ≤ lo ∧ hi ≤ 57 ∨
        numberState target = some 16 ∧ (65 ≤ lo ∧ hi ≤ 70 ∨ 97 ≤ lo ∧ hi ≤ 102)) ∧
        (acts ∈ [[.mark], [.start_value], [.start_value, .start_field]] ∨
          numberState cs = numberState target ∧ acts = [])))
    ⟨fun ⟨h1, h2, h3, h4⟩ => ⟨h1, h2, h3, h4⟩, fun ⟨h1, h2, h3, h4⟩ => ⟨h1, h2, h3, h4⟩⟩

theorem rows_sound : ∀ x ∈ rows.zipIdx, ∀ e ∈ x.1, Sound x.2 e.lo e.hi e.acts e.target := by
  decide +kernel

section
variable {cs target : ℕ} {c : UInt8} {acts : List Action}

theorem next_sound (h : machine.next cs c = some (acts, target)) :
    ∃ lo hi, lo ≤ c.toNat ∧ c.toNat ≤ hi ∧ Sound cs lo hi acts target := by
  obtain ⟨e, hfind, he⟩ := Option.map_eq_some_iff.1 h
  cases he
  have hmem := List.mem_of_find?_eq_some hfind
  have hbytes := List.find?_some hfind
  rw [Bool.and_eq_true, decide_eq_true_eq, decide_eq_true_eq] at hbytes
  have hcs : cs < rows.length := by
    by_contra hge
    rw [List.getD_eq_default _ _ (by omega)] at hmem
    cases hmem
  rw [List.getD_eq_getElem _ _ hcs] at hmem
  refine ⟨e.lo, e.hi, hbytes.1, hbytes.2, rows_sound (rows[cs], cs) ?_ e hmem⟩
  exact List.mem_zipIdx_iff_getElem?.2 (List.getElem?_eq_getElem hcs)

theorem lt_first_final (h : machine.next cs c = some (acts, target))
    (hstop : acts.any machine.stops = false) : target < first_final := by
  obtain ⟨lo, hi, -, -, hsound⟩ := next_sound h
  by_contra hge
  have hdone := hsound.final.1 (Nat.le_of_not_lt hge)
  rw [List.any_eq_false] at hstop
  exact hstop _ hdone rfl

/-- A scan that ends does not start in the state after an error. -/
theorem cs_of_stops {ε σ : Type} {act : Action → ℕ → σ → Except ε σ} {cs' p' : ℕ} {s s' : σ}
    {w : List UInt8} {p : ℕ} (h : machine.scan act w p cs s = .ok (.stops cs' p' s')) :
    cs ≠ error := by
  rcases w with _ | ⟨c, w⟩
  · cases h
  rw [Scanner.scan] at h
  rcases hn : machine.next cs c with _ | ⟨acts, target⟩
  · rw [hn] at h; cases h
  obtain ⟨lo, hi, -, -, hsound⟩ := next_sound hn
  exact hsound.source_ne

end

/-! ## The marks -/

/-- The positions at which the marks were set last. -/
structure Marks where
  mark : ℕ := 0
  field_start : ℕ := 0
  /-- where `field_len` was set -/
  field_end : ℕ := 0

/-- What an action at position `p` sets. -/
def Marks.track (a : Action) (p : ℕ) (γ : Marks) : Marks :=
  match a with
  | .mark | .start_value => { γ with mark := p }
  | .start_field => { γ with field_start := p }
  | .write_field => { γ with field_end := p }
  | _ => γ

/-- The first position of the bytes that an action uses. -/
def Marks.uses (a : Action) (γ : Marks) : Option ℕ :=
  match a with
  | .http_version | .status_code | .reason_phrase | .chunk_size | .write_content_len => some γ.mark
  | .write_field => some γ.field_start
  | .write_value => some (min γ.field_start (min γ.field_end γ.mark))
  | _ => none

def marking : Scanner.Marking Action Marks := ⟨Marks.track, Marks.uses⟩

end HttpclientParser
end Ancfl.Http
