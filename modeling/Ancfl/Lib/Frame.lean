/-
  What calls leave as it was.

  * `Call.Keeps f x`: where `x` returns, `f` of the state is what it was before;
  * `Keeps.pure`, `Keeps.bind`, `Keeps.ite` and the like: of a sequence, by its
    parts.
-/
import Ancfl.Lib.Call

namespace Lib.Call

variable {ε σ α β γ : Type} {f : σ → γ}

def Keeps (f : σ → γ) (x : Call ε σ α) : Prop := ∀ s a s', x s = .ret a s' → f s' = f s

protected theorem Keeps.pure (a : α) : Keeps f (pure a : Call ε σ α) := by
  intro s b s' h
  rw [pure_apply] at h
  cases h
  rfl

theorem Keeps.bind {x : Call ε σ α} {g : α → Call ε σ β} (hx : Keeps f x) (hg : ∀ a, Keeps f (g a)) :
    Keeps f (x >>= g) := by
  intro s b s' h
  obtain ⟨a, t, ht, hs'⟩ := bind_eq_ret.1 h
  exact (hg a t b s' hs').trans (hx s a t ht)

theorem Keeps.undefined : Keeps f (Call.undefined : Call ε σ α) := nofun

theorem Keeps.gets (g : σ → α) : Keeps f (Call.gets g : Call ε σ α) := by
  intro s a s' h
  rw [gets_apply] at h
  cases h
  rfl

theorem Keeps.modify {g : σ → σ} (hg : ∀ s, f (g s) = f s) : Keeps f (Call.modify g : Call ε σ Unit) := by
  intro s a s' h
  rw [modify_apply] at h
  cases h
  exact hg s

theorem Keeps.ite {c : Prop} [Decidable c] {x y : Call ε σ α} (hx : Keeps f x) (hy : Keeps f y) :
    Keeps f (if c then x else y) := by
  split_ifs
  · exact hx
  · exact hy

end Lib.Call
