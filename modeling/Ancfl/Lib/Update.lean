/-
  Loops that update the elements of an array at some indices.

  * `updateOn P f a` applies `f` to the elements of `a` at the indices in `P`;
  * `foldlM_updateOn`: a loop whose step `i` updates the indices in `P i`, no
    index twice, updates the indices in some `P i`;
  * `foldlM_update_iff`: a loop whose steps update a function at different keys,
    as far as they do not fail.
-/
import Mathlib.Data.List.Nodup
import Mathlib.Data.List.Pairwise
import Mathlib.Logic.Function.Basic
import Mathlib.Tactic.Common

namespace Lib

variable {α β : Type}

/-- Apply `f` to the elements at the indices in `P`. -/
def updateOn (P : ℕ → Prop) [DecidablePred P] (f : ℕ → α → α) (a : List α) : List α :=
  a.mapIdx fun j x => if P j then f j x else x

section
variable {P Q : ℕ → Prop} [DecidablePred P] [DecidablePred Q] {f : ℕ → α → α} {a : List α}

@[simp]
theorem length_updateOn : (updateOn P f a).length = a.length := by simp [updateOn]

theorem getElem?_updateOn (j : ℕ) :
    (updateOn P f a)[j]? = a[j]?.map fun x => if P j then f j x else x := by simp [updateOn]

theorem updateOn_congr {g : ℕ → α → α} (hPQ : ∀ j < a.length, (P j ↔ Q j))
    (hfg : ∀ j < a.length, ∀ x, P j → f j x = g j x) : updateOn P f a = updateOn Q g a := by
  refine List.ext_getElem? fun j => ?_
  rw [getElem?_updateOn, getElem?_updateOn]
  by_cases hj : j < a.length
  · refine Option.map_congr fun x _ => ?_
    by_cases hP : P j
    · rw [if_pos hP, if_pos ((hPQ j hj).1 hP), hfg j hj x hP]
    · rw [if_neg hP, if_neg fun hQ => hP ((hPQ j hj).2 hQ)]
  · rw [List.getElem?_eq_none (by omega)]; rfl

theorem updateOn_false (hP : ∀ j < a.length, ¬P j) : updateOn P f a = a := by
  refine List.ext_getElem? fun j => ?_
  rw [getElem?_updateOn]
  by_cases hj : j < a.length
  · simp [hP j hj]
  · rw [List.getElem?_eq_none (by omega)]; rfl

theorem updateOn_id (h : ∀ j x, a[j]? = some x → f j x = x) : updateOn P f a = a := by
  refine List.ext_getElem? fun j => ?_
  rw [getElem?_updateOn]
  cases hx : a[j]? with
  | none => rfl
  | some x => by_cases hP : P j <;> simp [hP, h j x hx]

theorem updateOn_updateOn (hPQ : ∀ j, P j → ¬Q j) :
    updateOn Q f (updateOn P f a) = updateOn (fun j => P j ∨ Q j) f a := by
  refine List.ext_getElem? fun j => ?_
  simp only [getElem?_updateOn, Option.map_map]
  refine Option.map_congr fun x _ => ?_
  by_cases hP : P j
  · simp [hP, hPQ j hP]
  · simp [hP]

theorem set_eq_updateOn (i : ℕ) (x : α) (hx : ∀ y, a[i]? = some y → x = f i y) :
    a.set i x = updateOn (· = i) f a := by
  refine List.ext_getElem? fun j => ?_
  rw [getElem?_updateOn, List.getElem?_set]
  by_cases hij : i = j
  · subst hij
    rw [if_pos rfl]
    by_cases hi : i < a.length
    · rw [if_pos hi, List.getElem?_eq_getElem hi, hx _ (List.getElem?_eq_getElem hi)]; simp
    · rw [if_neg hi, List.getElem?_eq_none (by omega)]; rfl
  · rw [if_neg hij]
    cases a[j]? <;> simp [Ne.symm hij]

end

/-- **A loop that updates no index twice.** -/
theorem foldlM_updateOn {m : Type → Type} [Monad m] [LawfulMonad m] {f : ℕ → α → α}
    {P : β → ℕ → Prop} [∀ i, DecidablePred (P i)] {g : List α → β → m (List α)} {n : ℕ}
    (is : List β) (hdisj : is.Pairwise fun i i' => ∀ j, P i j → ¬P i' j)
    (hstep : ∀ i ∈ is, ∀ a : List α, a.length = n → g a i = pure (updateOn (P i) f a))
    (a : List α) (ha : a.length = n) :
    is.foldlM g a = pure (updateOn (fun j => ∃ i ∈ is, P i j) f a) := by
  induction is generalizing a with
  | nil => rw [List.foldlM_nil, updateOn_false fun j _ => by simp]
  | cons i is ih =>
    obtain ⟨hi, his⟩ := List.pairwise_cons.1 hdisj
    rw [List.foldlM_cons, hstep i (by simp) a ha, pure_bind,
      ih his (fun i' hi' => hstep i' (by simp [hi'])) _ (by simpa using ha)]
    rw [updateOn_updateOn fun j hj ⟨i', hi', hj'⟩ => hi i' hi' j hj hj']
    exact congrArg pure (updateOn_congr (fun j _ => by simp) fun _ _ _ _ => rfl)

/-! ## Updates at keys -/

section
variable {κ : Type} [DecidableEq κ] {key : α → κ} {f : α → β → Option β} {l : List α} {m m' : κ → β}

/-- Each step sees the first value at its key, and its result stays. -/
theorem foldlM_update_iff (hnodup : (l.map key).Nodup) :
    l.foldlM (fun m a => (f a (m (key a))).map (Function.update m (key a))) m = some m' ↔
      (∀ a ∈ l, f a (m (key a)) = some (m' (key a))) ∧ ∀ k, k ∉ l.map key → m' k = m k := by
  induction l generalizing m with
  | nil =>
    rw [List.foldlM_nil]
    constructor
    · intro h
      obtain rfl := Option.some.inj h
      exact ⟨fun a ha => absurd ha List.not_mem_nil, fun _ _ => rfl⟩
    · intro h
      exact congrArg some (funext fun k => (h.2 k List.not_mem_nil).symm)
  | cons a l ih =>
    rw [List.map_cons, List.nodup_cons] at hnodup
    have hne : ∀ c ∈ l, key c ≠ key a := fun c hc he => hnodup.1 (he ▸ List.mem_map_of_mem hc)
    have hfirst (b : β) : ∀ c ∈ l, Function.update m (key a) b (key c) = m (key c) := fun c hc =>
      Function.update_of_ne (hne c hc) b m
    rw [List.foldlM_cons]
    constructor
    · intro h
      obtain ⟨m₁, hm₁, hrest⟩ := Option.bind_eq_some_iff.1 h
      obtain ⟨b, hb, rfl⟩ := Option.map_eq_some_iff.1 hm₁
      obtain ⟨hl, hout⟩ := (ih hnodup.2).1 hrest
      have hkey : m' (key a) = b := by rw [hout _ hnodup.1, Function.update_self]
      refine ⟨fun c hc => ?_, fun k hk => ?_⟩
      · rcases List.mem_cons.1 hc with rfl | hc
        · rw [hkey, hb]
        · rw [← hfirst b c hc, hl c hc]
      · rw [List.map_cons, List.mem_cons, not_or] at hk
        rw [hout k hk.2, Function.update_of_ne hk.1]
    · intro ⟨hall, hout⟩
      refine Option.bind_eq_some_iff.2 ⟨Function.update m (key a) (m' (key a)), ?_, (ih hnodup.2).2 ⟨?_, ?_⟩⟩
      · rw [hall a List.mem_cons_self]
        rfl
      · intro c hc
        rw [hfirst _ c hc, hall c (List.mem_cons_of_mem _ hc)]
      · intro k hk
        by_cases he : k = key a
        · rw [he, Function.update_self]
        · rw [Function.update_of_ne he, hout k (by rw [List.map_cons, List.mem_cons, not_or]; exact ⟨he, hk⟩)]

/-- The loop does not fail where no step does. -/
theorem exists_foldlM_update (hnodup : (l.map key).Nodup) (h : ∀ a ∈ l, ∃ b, f a (m (key a)) = some b) :
    ∃ m', l.foldlM (fun m a => (f a (m (key a))).map (Function.update m (key a))) m = some m' := by
  induction l generalizing m with
  | nil => exact ⟨m, rfl⟩
  | cons a l ih =>
    rw [List.map_cons, List.nodup_cons] at hnodup
    obtain ⟨b, hb⟩ := h a List.mem_cons_self
    obtain ⟨m', hm'⟩ := ih (m := Function.update m (key a) b) hnodup.2 fun c hc => by
      have hne : key c ≠ key a := fun he => hnodup.1 (he ▸ List.mem_map_of_mem hc)
      rw [Function.update_of_ne hne]
      exact h c (List.mem_cons_of_mem _ hc)
    exact ⟨m', by rw [List.foldlM_cons, hb]; exact hm'⟩

end

end Lib
