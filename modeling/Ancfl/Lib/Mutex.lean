/-
  Calls on an object with one mutex, which sections of them lock.

  * a `Locked` call finds the mutex free or held by the same caller, and a
    section that locks it again while it is held is a deadlock; with a
    `reentrant` mutex it is not;
  * `Deadlocks x l s`: the call ends so; the lemmas below follow the call step
    by step.
-/
import Ancfl.Lib.Call

namespace Lib

/-- How a call finds the mutex. -/
inductive Lock
  | free
  | held
  /-- taken as often as the caller likes -/
  | reentrant
deriving DecidableEq

/-- A second lock of a mutex that the caller holds. -/
inductive Deadlock
  | deadlock
deriving DecidableEq

/-- A call on an object of the type `σ` with a mutex. -/
abbrev Locked (σ α : Type) := Lock → Call Deadlock σ α

variable {σ α β : Type}

namespace Locked

instance : Monad (Locked σ) where
  pure a := fun _ => pure a
  bind x f := fun l => x l >>= fun a => f a l

/-- What is done without a lock of its own. -/
def perform (f : σ → α × σ) : Locked σ α := fun _ s => .ret (f s).1 (f s).2

/-- The same where the behaviour is not defined in every state. -/
def performWhere (f : σ → Option (α × σ)) : Locked σ α := fun _ s =>
  match f s with
  | none => .undef
  | some (a, s) => .ret a s

/-- `lock_guard lock(mutex); x` -/
def lockGuard (x : Locked σ α) : Locked σ α
  | .free => x .held
  | .held => fun s => .throw .deadlock s
  | .reentrant => x .reentrant

def Deadlocks (x : Locked σ α) (l : Lock) (s : σ) : Prop := ∃ s', x l s = .throw .deadlock s'

variable {l : Lock} {s s' : σ} {a : α}

@[simp] theorem perform_apply (f : σ → α × σ) : perform f l s = .ret (f s).1 (f s).2 := rfl

@[simp] theorem lockGuard_free (x : Locked σ α) : lockGuard x .free s = x .held s := rfl

/-- A section of its own, where the caller does not hold the mutex. -/
theorem lockGuard_perform {f : σ → α × σ} (hlock : l ≠ .held) :
    lockGuard (perform f) l s = .ret (f s).1 (f s).2 := by
  cases l
  case held => exact absurd rfl hlock
  all_goals rfl

theorem lockGuard_performWhere {f : σ → Option (α × σ)} (hlock : l ≠ .held) (h : f s = some (a, s')) :
    lockGuard (performWhere f) l s = .ret a s' := by
  have hf : performWhere f .reentrant s = .ret a s' := by
    rw [performWhere, h]
  cases l
  case held => exact absurd rfl hlock
  all_goals exact hf

theorem bind_apply {x : Locked σ α} {f : α → Locked σ β} (h : x l s = .ret a s') :
    (x >>= f) l s = f a l s' :=
  Call.bind_ret h

theorem bind_of_deadlock {x : Locked σ α} {f : α → Locked σ β} (h : x.Deadlocks l s) :
    (x >>= f).Deadlocks l s := by
  obtain ⟨t, ht⟩ := h
  exact ⟨t, Call.bind_throw ht⟩

@[simp] theorem not_deadlocks_pure (a : α) : ¬(pure a : Locked σ α).Deadlocks l s := by
  rintro ⟨_, h⟩
  cases h

@[simp] theorem not_deadlocks_perform (f : σ → α × σ) : ¬(perform f).Deadlocks l s := by
  rintro ⟨_, h⟩
  cases h

@[simp] theorem deadlocks_guard_free (x : Locked σ α) :
    (lockGuard x).Deadlocks .free s ↔ x.Deadlocks .held s := Iff.rfl

/-- A section that calls nothing that locks. -/
theorem not_deadlocks_guard (f : σ → α × σ) : ¬(lockGuard (perform f)).Deadlocks .free s := by
  simp

/-- **The second lock of a call**. -/
@[simp] theorem deadlocks_guard_held (x : Locked σ α) : (lockGuard x).Deadlocks .held s := ⟨s, rfl⟩

theorem deadlocks_bind {x : Locked σ α} {f : α → Locked σ β} (h : x l s = .ret a s') :
    (x >>= f).Deadlocks l s ↔ (f a).Deadlocks l s' := by
  rw [Deadlocks, bind_apply h, Deadlocks]

@[simp] theorem deadlocks_perform_bind (g : σ → α × σ) (f : α → Locked σ β) :
    (perform g >>= f).Deadlocks l s ↔ (f (g s).1).Deadlocks l (g s).2 := deadlocks_bind rfl

@[simp] theorem deadlocks_map (f : α → β) (x : Locked σ α) :
    (x >>= fun a => pure (f a)).Deadlocks l s ↔ x.Deadlocks l s := by
  refine ⟨?_, bind_of_deadlock⟩
  rintro ⟨t, ht⟩
  cases hx : x l s with
  | ret a s' =>
    rw [bind_apply hx] at ht
    cases ht
  | throw e s' => exact ⟨s', by cases e; exact hx⟩
  | undef =>
    have hundef : (x >>= fun a => pure (f a)) l s = .undef := Call.bind_undef hx
    rw [hundef] at ht
    cases ht

end Locked

end Lib
