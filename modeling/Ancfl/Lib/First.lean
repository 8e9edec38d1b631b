/-
  Loops over a list that stop at the first element they look for.

  * `onFirst p f l` changes the first element that satisfies `p` by `f`, which
    also gives a result; `none` if there is no such element;
  * `onFirst_cases`: what such a loop finds and leaves;
  * `map_onFirst`, `forall_onFirst`: what it keeps;
  * `onFirst_find`: the place of the element that `find?` gives;
    `find?_onFirst`, `find?_onFirst_of_not`: what is found afterwards;
  * `find?_key_eq_some_iff`: what is found by a key that no two elements share.
-/
import Mathlib.Data.List.Basic
import Mathlib.Data.List.Nodup
import Mathlib.Tactic.Common

namespace Lib

variable {α β : Type} {p : α → Bool} {f : α → β × α} {l : List α}

def onFirst (p : α → Bool) (f : α → β × α) : List α → Option (β × List α)
  | [] => none
  | x :: l =>
    if p x then some ((f x).1, (f x).2 :: l) else (onFirst p f l).map fun (b, l) => (b, x :: l)

theorem onFirst_of_not (h : ∀ x ∈ l, p x = false) : onFirst p f l = none := by
  induction l with
  | nil => rfl
  | cons x l ih =>
    have hx := h x List.mem_cons_self
    simp [onFirst, hx, ih fun y hy => h y (List.mem_cons_of_mem x hy)]

theorem onFirst_append {a b : List α} {x : α} (ha : ∀ y ∈ a, p y = false) (hx : p x = true) :
    onFirst p f (a ++ x :: b) = some ((f x).1, a ++ (f x).2 :: b) := by
  induction a with
  | nil => simp [onFirst, hx]
  | cons y a ih =>
    have hy := ha y List.mem_cons_self
    simp [onFirst, hy, ih fun z hz => ha z (List.mem_cons_of_mem y hz)]

/-- There is no element that satisfies `p`, or a first one. -/
theorem first_cases (p : α → Bool) (l : List α) :
    (∀ x ∈ l, p x = false) ∨
      ∃ a x b, l = a ++ x :: b ∧ (∀ y ∈ a, p y = false) ∧ p x = true := by
  induction l with
  | nil => exact .inl nofun
  | cons x l ih =>
    by_cases hx : p x = true
    · exact .inr ⟨[], x, l, rfl, nofun, hx⟩
    · have hx : p x = false := by simpa using hx
      rcases ih with h | ⟨a, y, b, rfl, ha, hy⟩
      · exact .inl fun y hy => (List.mem_cons.1 hy).elim (fun he => he ▸ hx) (h y)
      · refine .inr ⟨x :: a, y, b, rfl, fun z hz => ?_, hy⟩
        rcases List.mem_cons.1 hz with rfl | hz
        · exact hx
        · exact ha z hz

theorem onFirst_cases (p : α → Bool) (f : α → β × α) (l : List α) :
    (onFirst p f l = none ∧ ∀ x ∈ l, p x = false) ∨
      ∃ a x b, l = a ++ x :: b ∧ (∀ y ∈ a, p y = false) ∧ p x = true ∧
        onFirst p f l = some ((f x).1, a ++ (f x).2 :: b) := by
  rcases first_cases p l with h | ⟨a, x, b, rfl, ha, hx⟩
  · exact .inl ⟨onFirst_of_not h, h⟩
  · exact .inr ⟨a, x, b, rfl, ha, hx, onFirst_append ha hx⟩

/-- A loop keeps what the change of an element keeps. -/
theorem map_onFirst {γ : Type} {g : α → γ} (hg : ∀ x, p x = true → g (f x).2 = g x) {r : β × List α}
    (h : onFirst p f l = some r) : r.2.map g = l.map g := by
  rcases onFirst_cases p f l with ⟨hnone, -⟩ | ⟨a, x, b, rfl, -, hx, hsome⟩
  · rw [hnone] at h
    cases h
  · rw [hsome] at h
    cases h
    simp [hg x hx]

theorem forall_onFirst {P : α → Prop} (hP : ∀ x, P x → P (f x).2) (hl : ∀ x ∈ l, P x)
    {r : β × List α} (h : onFirst p f l = some r) : ∀ x ∈ r.2, P x := by
  rcases onFirst_cases p f l with ⟨hnone, -⟩ | ⟨a, x, b, rfl, -, -, hsome⟩
  · rw [hnone] at h
    cases h
  · rw [hsome] at h
    cases h
    intro y hy
    rcases List.mem_append.1 hy with hy | hy
    · exact hl y (List.mem_append_left _ hy)
    · rcases List.mem_cons.1 hy with rfl | hy
      · exact hP x (hl x (by simp))
      · exact hl y (by simp [hy])

theorem onFirst_find (p : α → Bool) (f : α → β × α) (l : List α) :
    (l.find? p = none ∧ onFirst p f l = none) ∨
      ∃ n x, l[n]? = some x ∧ p x = true ∧ l.find? p = some x ∧
        onFirst p f l = some ((f x).1, l.set n (f x).2) := by
  rcases onFirst_cases p f l with ⟨hnone, hl⟩ | ⟨a, x, b, rfl, ha, hx, hsome⟩
  · refine .inl ⟨List.find?_eq_none.2 fun x hx => ?_, hnone⟩
    rw [hl x hx]
    exact Bool.false_ne_true
  · refine .inr ⟨a.length, x, by simp, hx, ?_, by simpa using hsome⟩
    rw [List.find?_append, List.find?_eq_none.2 fun y hy => by simp [ha y hy], List.find?_cons_of_pos hx]
    rfl

/-- The element that was changed is found again. -/
theorem find?_onFirst (hp : ∀ x, p x = true → p (f x).2 = true) {r : β × List α} (h : onFirst p f l = some r) :
    ∃ x, l.find? p = some x ∧ r.2.find? p = some (f x).2 := by
  rcases onFirst_cases p f l with ⟨hnone, -⟩ | ⟨a, x, b, rfl, ha, hx, hsome⟩
  · rw [hnone] at h
    cases h
  · rw [hsome] at h
    cases h
    have hfirst : a.find? p = none := List.find?_eq_none.2 fun y hy => by simp [ha y hy]
    exact ⟨x, by simp [List.find?_append, hfirst, hx], by simp [List.find?_append, hfirst, hp x hx]⟩

/-- What is looked for is not what was changed. -/
theorem find?_onFirst_of_not {q : α → Bool} (hq : ∀ x, p x = true → q x = false ∧ q (f x).2 = false)
    {r : β × List α} (h : onFirst p f l = some r) : r.2.find? q = l.find? q := by
  rcases onFirst_cases p f l with ⟨hnone, -⟩ | ⟨a, x, b, rfl, -, hx, hsome⟩
  · rw [hnone] at h
    cases h
  · rw [hsome] at h
    cases h
    simp [List.find?_append, hq x hx]

/-- An element is found by its key, if no other one has the key. -/
theorem find?_key_eq_some_iff {κ : Type} [DecidableEq κ] {key : α → κ} (hl : (l.map key).Nodup) {k : κ}
    {x : α} : (l.find? fun y => key y = k) = some x ↔ x ∈ l ∧ key x = k := by
  constructor
  · intro h
    exact ⟨List.mem_of_find?_eq_some h, of_decide_eq_true (List.find?_some h :)⟩
  · rintro ⟨hx, rfl⟩
    cases hfind : l.find? fun y => key y = key x with
    | none => exact absurd (decide_eq_true rfl) (List.find?_eq_none.1 hfind x hx)
    | some y =>
      have hy : key y = key x := of_decide_eq_true (List.find?_some hfind :)
      rw [List.inj_on_of_nodup_map hl (List.mem_of_find?_eq_some hfind) hx hy]

end Lib
