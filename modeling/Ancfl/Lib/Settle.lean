/-
  Systems that come to rest.

  * `Quiet step s`: no step is possible in `s`;
  * `Settles step s Q`: whichever steps are taken from `s`, they come to an end
    after a bounded number of them, and where no more is possible `Q` holds;
  * `settles_of_measure`: by an invariant, and a measure that each step
    decreases.
-/
import Ancfl.Lib.Run
import Mathlib.Order.Basic

namespace Lib

variable {σ ℓ : Type} {step : σ → ℓ → σ → Prop} {s t : σ} {ls : List ℓ}

def Quiet (step : σ → ℓ → σ → Prop) (s : σ) : Prop := ∀ l t, ¬step s l t

structure Settles (step : σ → ℓ → σ → Prop) (s : σ) (Q : σ → Prop) : Prop where
  bounded : ∃ n, ∀ ls t, Run step s ls t → ls.length ≤ n
  quiet : ∀ ls t, Run step s ls t → Quiet step t → Q t

/-- A run has no more steps than the measure of its first state. -/
theorem Run.length_add_le {I : σ → Prop} {μ : σ → ℕ}
    (h : ∀ s l t, I s → step s l t → I t ∧ μ t < μ s) (hs : I s) (hr : Run step s ls t) :
    ls.length + μ t ≤ μ s := by
  induction hr with
  | nil => simp
  | @cons s t u l ls h1 _ ih =>
    obtain ⟨ht, hlt⟩ := h s l t hs h1
    have hrest := ih ht
    rw [List.length_cons]
    omega

theorem settles_of_measure {I Q : σ → Prop} (μ : σ → ℕ)
    (h : ∀ s l t, I s → step s l t → I t ∧ μ t < μ s) (hq : ∀ t, I t → Quiet step t → Q t) (hs : I s) :
    Settles step s Q where
  bounded := ⟨μ s, fun _ _ hr => Nat.le_trans (Nat.le_add_right _ _) (hr.length_add_le h hs)⟩
  quiet _ _ hr := hq _ (hr.invariant (fun s l t hI hstep => (h s l t hI hstep).1) hs)

end Lib
