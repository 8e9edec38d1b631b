/-
  `FiberSemaphore`.

  * `wait` takes a permit, or queues the fiber, and `tryWait` takes one or
    gives up; `notify` schedules the first fiber of the queue, or leaves a
    permit. Each is one section under `m_mutex`;
  * `Waits`: the fibers in the queue are those that are blocked, and as long as
    there are any there is no permit.
-/
import Mathlib.Data.List.Nodup
import Mathlib.Tactic.Common

namespace Ancfl

/-- Fibers are named by numbers. -/
structure FiberSemaphore where
  m_concurrency : ℕ
  m_waiters : List ℕ

namespace FiberSemaphore

/-- Whether the fiber goes on at once; else it yields. -/
def wait (sem : FiberSemaphore) (fiber : ℕ) : FiberSemaphore × Bool :=
  if 0 < sem.m_concurrency then ({ sem with m_concurrency := sem.m_concurrency - 1 }, true)
  else ({ sem with m_waiters := sem.m_waiters ++ [fiber] }, false)

/-- Whether it has taken a permit. -/
def tryWait (sem : FiberSemaphore) : FiberSemaphore × Bool :=
  if 0 < sem.m_concurrency then ({ sem with m_concurrency := sem.m_concurrency - 1 }, true)
  else (sem, false)

/-- The fiber that is scheduled, if there is one. -/
def notify (sem : FiberSemaphore) : FiberSemaphore × Option ℕ :=
  match sem.m_waiters with
  | next :: rest => ({ sem with m_waiters := rest }, some next)
  | [] => ({ sem with m_concurrency := sem.m_concurrency + 1 }, none)

theorem notify_eq_head? (sem : FiberSemaphore) : sem.notify.2 = sem.m_waiters.head? := by
  unfold notify
  cases sem.m_waiters <;> rfl

/-- The waiters are the fibers that are blocked. -/
structure Waits (sem : FiberSemaphore) (blocked : ℕ → Prop) : Prop where
  nodup : sem.m_waiters.Nodup
  zero : sem.m_waiters ≠ [] → sem.m_concurrency = 0
  mem : ∀ f, f ∈ sem.m_waiters ↔ blocked f

variable {sem : FiberSemaphore} {blocked blocked' : ℕ → Prop} {f : ℕ}

theorem Waits.eq_zero (h : sem.Waits blocked) (hf : blocked f) : sem.m_concurrency = 0 :=
  h.zero (List.ne_nil_of_mem ((h.mem f).2 hf))

theorem Waits.congr (h : sem.Waits blocked) (hb : ∀ f, blocked' f ↔ blocked f) :
    sem.Waits blocked' :=
  ⟨h.nodup, h.zero, fun f => (h.mem f).trans (hb f).symm⟩

theorem Waits.wait (h : sem.Waits blocked) (hf : ¬blocked f) :
    ((sem.wait f).2 = true ∧ (sem.wait f).1.m_concurrency + 1 = sem.m_concurrency ∧
      (sem.wait f).1.Waits blocked) ∨
    ((sem.wait f).2 = false ∧ sem.m_concurrency = 0 ∧ (sem.wait f).1.m_concurrency = 0 ∧
      (sem.wait f).1.Waits fun g => blocked g ∨ g = f) := by
  unfold FiberSemaphore.wait
  split_ifs with hpos
  · refine .inl ⟨rfl, Nat.sub_add_cancel hpos, h.nodup, fun hne => ?_, h.mem⟩
    exact absurd (h.zero hne) (Nat.ne_of_gt hpos)
  · have hzero : sem.m_concurrency = 0 := Nat.eq_zero_of_not_pos hpos
    refine .inr ⟨rfl, hzero, hzero, ?_, fun _ => hzero, fun g => ?_⟩
    · rw [List.nodup_append_comm]
      exact List.nodup_cons.2 ⟨fun hmem => hf ((h.mem f).1 hmem), h.nodup⟩
    · rw [List.mem_append, List.mem_singleton, h.mem]

theorem Waits.notify (h : sem.Waits blocked) :
    (sem.notify.2 = none ∧ sem.notify.1.m_concurrency = sem.m_concurrency + 1 ∧
      sem.notify.1.Waits blocked) ∨
    ∃ f, sem.notify.2 = some f ∧ blocked f ∧ sem.notify.1.m_concurrency = sem.m_concurrency ∧
      sem.notify.1.Waits fun g => blocked g ∧ g ≠ f := by
  obtain ⟨m_concurrency, m_waiters⟩ := sem
  cases m_waiters with
  | nil => exact .inl ⟨rfl, rfl, h.nodup, fun hne => absurd rfl hne, h.mem⟩
  | cons f rest =>
    have hnodup := List.nodup_cons.1 h.nodup
    refine .inr ⟨f, rfl, (h.mem f).1 List.mem_cons_self, rfl, hnodup.2, fun _ => ?_, fun g => ?_⟩
    · exact h.zero (List.cons_ne_nil f rest)
    · rw [← h.mem g, List.mem_cons]
      constructor
      · exact fun hg => ⟨.inr hg, fun heq => hnodup.1 (heq ▸ hg)⟩
      · exact fun hg => hg.1.resolve_left hg.2

end FiberSemaphore

end Ancfl
