/-
  Families of systems, side by side.

  * `Family step proj`: a label is a step of each system for which `proj` has a
    label, and leaves the others alone;
  * `Family.update`, `Family.stay`: labels that concern one of them, and none;
  * `run_family_iff`: a run of the family is a run of each system, with its own
    labels.
-/
import Ancfl.Lib.Run
import Mathlib.Logic.Function.Basic

namespace Lib

variable {ι σ ℓ κ : Type} {step : σ → κ → σ → Prop} {proj : ℓ → ι → Option κ} {s t : ι → σ}

def Family (step : σ → κ → σ → Prop) (proj : ℓ → ι → Option κ) (s : ι → σ) (l : ℓ) (t : ι → σ) : Prop :=
  ∀ i, match proj l i with
    | some k => step (s i) k (t i)
    | none => t i = s i

/-- A step of one system. -/
theorem Family.update [DecidableEq ι] {i : ι} {l : ℓ} {k : κ} {x : σ}
    (hproj : ∀ j, proj l j = if i = j then some k else none) (h : step (s i) k x) :
    Family step proj s l (Function.update s i x) := by
  intro j
  rw [hproj]
  by_cases hj : i = j
  · subst hj
    simpa using h
  · rw [if_neg hj]
    exact Function.update_of_ne (Ne.symm hj) _ _

/-- A step of one system that leaves it as it is. -/
theorem Family.update_self [DecidableEq ι] {i : ι} {l : ℓ} {k : κ}
    (hproj : ∀ j, proj l j = if i = j then some k else none) (h : step (s i) k (s i)) : Family step proj s l s := by
  have hupdate := Family.update hproj h
  rwa [Function.update_eq_self] at hupdate

/-- A label that concerns none of them. -/
theorem Family.stay {l : ℓ} (hproj : ∀ j, proj l j = none) : Family step proj s l s := by
  intro j
  rw [hproj]

/-- One label, for one system. -/
theorem run_proj_iff {i : ι} {l : ℓ} {x y : σ} :
    Run step x ([l].filterMap fun l => proj l i) y ↔
      match proj l i with
      | some k => step x k y
      | none => y = x := by
  cases h : proj l i with
  | none => simp [h, Run.nil_iff, eq_comm]
  | some k => simp [h, Run.cons_iff, Run.nil_iff]

/-- **A run of a family** is a family of runs. -/
theorem run_family_iff {ls : List ℓ} :
    Run (Family step proj) s ls t ↔ ∀ i, Run step (s i) (ls.filterMap fun l => proj l i) (t i) := by
  induction ls generalizing s with
  | nil => simp [Run.nil_iff, funext_iff]
  | cons l ls ih =>
    have hsplit (i : ι) : (l :: ls).filterMap (fun l => proj l i) =
        [l].filterMap (fun l => proj l i) ++ ls.filterMap fun l => proj l i := by
      rw [← List.filterMap_append, List.singleton_append]
    constructor
    · intro h i
      obtain ⟨u, hstep, hrun⟩ := Run.cons_iff.1 h
      rw [hsplit]
      exact Run.append_iff.2 ⟨u i, run_proj_iff.2 (hstep i), ih.1 hrun i⟩
    · intro h
      have hmiddle (i : ι) : ∃ x, Run step (s i) ([l].filterMap fun l => proj l i) x ∧
          Run step x (ls.filterMap fun l => proj l i) (t i) :=
        Run.append_iff.1 (hsplit i ▸ h i)
      choose u hu hrest using hmiddle
      exact .cons (fun i => run_proj_iff.1 (hu i)) (ih.2 hrest)

end Lib
