/-
  Loops that call back and are left early.

  * in `OptionT m`, `failure` leaves the loop; `ask cb a` calls `cb a` and leaves
    the loop when told to stop, `visit cb l` asks for each element of `l`;
  * `foldlM_visit`, `foldlM_reverse_visit`: if the steps of a loop with a
    position visit the lists `L i` and move the position on, the loop visits
    their concatenation.
-/
import Mathlib.Data.List.Range
import Mathlib.Tactic.Common

namespace Lib

variable {m : Type → Type} [Monad m] {α τ : Type}

/-- Call back, and leave the loop if told to stop. -/
def ask (cb : α → m Bool) (a : α) : OptionT m Unit := do
  if ← OptionT.lift (cb a) then pure () else failure

/-- Call back on each element, until told to stop. -/
def visit (cb : α → m Bool) (l : List α) : OptionT m Unit := l.forM (ask cb)

variable {g : α → m Bool}

@[simp]
theorem visit_nil : visit g [] = pure () := rfl

@[simp]
theorem visit_cons (a : α) (l : List α) : visit g (a :: l) = ask g a >>= fun _ => visit g l := rfl

variable [LawfulMonad m]

theorem visit_append (l l' : List α) : visit g (l ++ l') = visit g l >>= fun _ => visit g l' :=
  List.forM_append

/-- **A loop whose steps visit lists visits all of them**; before step `i` the position is `P i`. -/
theorem foldlM_visit {f : τ → ℕ → OptionT m τ} {P : ℕ → τ} {L : ℕ → List α} {a k : ℕ}
    (hstep : ∀ i, a ≤ i → i < a + k → f (P i) i = visit g (L i) >>= fun _ => pure (P (i + 1))) :
    (List.range' a k).foldlM f (P a) =
      visit g ((List.range' a k).flatMap L) >>= fun _ => pure (P (a + k)) := by
  induction k with
  | zero => simp
  | succ k ih =>
    have ih := ih fun i hi hik => hstep i hi (by omega)
    have hlast := hstep (a + k) (by omega) (by omega)
    rw [List.range'_concat, List.foldlM_append, ih, List.flatMap_append, visit_append]
    simp [hlast, Nat.add_assoc]

/-- After the last step the position may be any. -/
theorem foldlM_visit_last {f : τ → ℕ → OptionT m τ} {P : ℕ → τ} {L : ℕ → List α} {a k : ℕ}
    (hstep : ∀ i, a ≤ i → i < a + k → ∃ p, f (P i) i = visit g (L i) >>= (fun _ => pure p) ∧
      (i + 1 < a + k → p = P (i + 1))) : ∃ p, (List.range' a k).foldlM f (P a) =
        visit g ((List.range' a k).flatMap L) >>= fun _ => pure p := by
  cases k with
  | zero => exact ⟨P a, by simp⟩
  | succ k =>
    have hfirst := foldlM_visit (a := a) (k := k) (f := f) (P := P) (L := L) fun i hi hik => by
      obtain ⟨p, hp, hP⟩ := hstep i hi (by omega)
      rw [hp, hP (by omega)]
    obtain ⟨p, hp, -⟩ := hstep (a + k) (by omega) (by omega)
    refine ⟨p, ?_⟩
    rw [List.range'_concat, List.foldlM_append, hfirst, List.flatMap_append, visit_append]
    simp [hp]

/-- The same for a loop that counts down. -/
theorem foldlM_reverse_visit {f : τ → ℕ → OptionT m τ} {P : ℕ → τ} {L : ℕ → List α} {a k : ℕ}
    (hstep : ∀ i, a ≤ i → i < a + k → f (P (i + 1)) i = visit g (L i) >>= fun _ => pure (P i)) :
    (List.range' a k).reverse.foldlM f (P (a + k)) =
      visit g ((List.range' a k).reverse.flatMap L) >>= fun _ => pure (P a) := by
  induction k with
  | zero => simp
  | succ k ih =>
    have ih := ih fun i hi hik => hstep i hi (by omega)
    have hlast := hstep (a + k) (by omega) (by omega)
    rw [List.range'_concat, List.reverse_append, List.foldlM_append, List.flatMap_append, visit_append]
    simp only [Nat.one_mul, List.reverse_singleton, List.foldlM_cons, List.foldlM_nil, bind_pure,
      List.flatMap_singleton, bind_assoc]
    rw [← ih, ← Nat.add_assoc, hlast]
    simp

end Lib
