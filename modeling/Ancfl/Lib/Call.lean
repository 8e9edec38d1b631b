/-
  Calls on a mutable object: a call on a state returns a value, throws an
  exception, or has no defined behaviour (a null dereference, an access
  outside a block, a failed assertion).

  * `Out` is the outcome of a call; an exception keeps the state the object
    had when it was thrown;
  * `Call` is the monad of such calls: an exception or undefined behaviour
    ends the sequence; `bind_ret` and `bind_eq_ret` take a sequence apart;
  * `on` runs a call on another object, `catchAll` ends an exception.
-/
import Mathlib.Tactic.Common

namespace Lib

/-- The outcome of a call on a state of type `σ`. -/
inductive Out (ε σ α : Type) where
  /-- the call returns -/
  | ret (a : α) (s : σ)
  /-- the call throws; `s` is the state it leaves -/
  | throw (e : ε) (s : σ)
  /-- the behaviour is not defined -/
  | undef
deriving DecidableEq

/-- A call on a state of type `σ`. -/
def Call (ε σ α : Type) := σ → Out ε σ α

variable {ε σ α β : Type}

namespace Call

/-- Return a value without touching the state. -/
protected def pure (a : α) : Call ε σ α := fun s => .ret a s

/-- One call after another. -/
protected def bind (x : Call ε σ α) (f : α → Call ε σ β) : Call ε σ β := fun s =>
  match x s with
  | .ret a s' => f a s'
  | .throw e s' => .throw e s'
  | .undef => .undef

instance : Monad (Call ε σ) where
  pure := Call.pure
  bind := Call.bind

instance : LawfulMonad (Call ε σ) := by
  refine LawfulMonad.mk' (Call ε σ) (fun x => ?_) (fun _ _ => rfl) (fun x f g => ?_)
  · funext s; show Call.bind x _ s = _; unfold Call.bind; cases x s <;> rfl
  · funext s; show Call.bind (Call.bind x f) g s = Call.bind x _ s
    unfold Call.bind; cases x s <;> rfl

/-- The call that changes the state by `f`. -/
def modify (f : σ → σ) : Call ε σ Unit := fun s => .ret () (f s)

/-- The call that reads `f` off the state. -/
def gets (f : σ → α) : Call ε σ α := fun s => .ret (f s) s

/-- A call on another object, which is returned as the call leaves it. -/
def on {τ : Type} (t : τ) (x : Call ε τ α) : Call ε σ (α × τ) := fun s =>
  match x t with
  | .undef => .undef
  | .throw e _ => .throw e s
  | .ret a t' => .ret (a, t') s

/-- `try { x } catch (...) { a }`. -/
def catchAll (x : Call ε σ α) (a : α) : Call ε σ α := fun s =>
  match x s with
  | .throw _ s' => .ret a s'
  | out => out

/-- The call that has no defined behaviour. -/
def undefined : Call ε σ α := fun _ => .undef

@[simp]
theorem pure_apply (a : α) (s : σ) : (pure a : Call ε σ α) s = .ret a s := rfl

@[simp]
theorem modify_apply (f : σ → σ) (s : σ) : (modify f : Call ε σ Unit) s = .ret () (f s) := rfl

@[simp]
theorem gets_apply (f : σ → α) (s : σ) : (gets f : Call ε σ α) s = .ret (f s) s := rfl

theorem bind_ret {x : Call ε σ α} {f : α → Call ε σ β} {s s' : σ} {a : α} (h : x s = .ret a s') :
    (x >>= f) s = f a s' := by
  show Call.bind x f s = _; simp [Call.bind, h]

/-- The same of a first call that is chosen by a condition. -/
theorem ite_bind_ret {c : Prop} [Decidable c] {x y : Call ε σ α} {f : α → Call ε σ β} {s s' : σ} {a : α}
    (h : (if c then x else y) s = .ret a s') : (if c then x >>= f else y >>= f) s = f a s' := by
  split_ifs at h ⊢ with hc <;> exact bind_ret h

theorem bind_throw {x : Call ε σ α} {f : α → Call ε σ β} {s s' : σ} {e : ε} (h : x s = .throw e s') :
    (x >>= f) s = .throw e s' := by
  show Call.bind x f s = _; simp [Call.bind, h]

theorem bind_undef {x : Call ε σ α} {f : α → Call ε σ β} {s : σ} (h : x s = .undef) :
    (x >>= f) s = .undef := by
  show Call.bind x f s = _; simp [Call.bind, h]

theorem on_ret {τ : Type} {t t' : τ} {x : Call ε τ α} {a : α} (h : x t = .ret a t') (s : σ) :
    on t x s = .ret (a, t') s := by
  rw [on, h]

theorem on_eq_ret {τ : Type} {t : τ} {x : Call ε τ α} {p : α × τ} {s s' : σ}
    (h : (on t x : Call ε σ (α × τ)) s = .ret p s') : s' = s := by
  unfold on at h
  split at h
  · cases h
  · cases h
  · cases h
    rfl

theorem catchAll_ret {x : Call ε σ α} {a b : α} {s s' : σ} (h : x s = .ret a s') :
    catchAll x b s = .ret a s' := by
  rw [catchAll, h]

theorem catchAll_undef {x : Call ε σ α} {b : α} {s : σ} (h : x s = .undef) :
    catchAll x b s = .undef := by
  rw [catchAll, h]

/-- A call that returns is made of calls that return. -/
theorem bind_eq_ret {x : Call ε σ α} {f : α → Call ε σ β} {s s' : σ} {b : β} :
    (x >>= f) s = .ret b s' ↔ ∃ a t, x s = .ret a t ∧ f a t = .ret b s' := by
  show Call.bind x f s = _ ↔ _
  unfold Call.bind
  cases h : x s <;> simp

@[simp]
theorem map_apply (g : α → β) (x : Call ε σ α) (s : σ) :
    (g <$> x) s = match x s with
      | .ret a s' => .ret (g a) s'
      | .throw e s' => .throw e s'
      | .undef => .undef := by
  rw [map_eq_pure_bind]; show Call.bind x _ s = _; unfold Call.bind; cases x s <;> rfl

end Call

/-- The same of a sequence that returns a value or an error. -/
theorem bind_ok {x : Except ε α} {g : α → Except ε β} {b : β} (h : (x >>= g) = .ok b) :
    ∃ a, x = .ok a ∧ g a = .ok b := by
  cases x with
  | error e => cases h
  | ok a => exact ⟨a, rfl, h⟩

end Lib
