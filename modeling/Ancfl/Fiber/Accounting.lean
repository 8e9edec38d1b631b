/-
  The queue and the counter of a scheduler.

  * `Accounts`: every task is taken at most once and by a thread it is for, and
    `m_activeThreadCount` is the number of loops between taking a task and the
    decrement for it;
  * `accounts_of_run`: all runs;
  * `stopping_iff`: what is unfinished when `stopping()` returns true is a fiber
    that yielded with `READY` and was not put back yet.
-/
import Ancfl.Fiber.Scheduler
import Mathlib.Algebra.BigOperators.Group.Finset.Piecewise
import Mathlib.Data.Fintype.Basic

namespace Ancfl.Scheduler

open Lib

variable {T F C : Type} [DecidableEq T] [DecidableEq F] [Fintype T] {tid : T → ℤ}

/-- The run loops between taking a task and the decrement for it. -/
def activeLoops (s : Sys T F C) : Finset T := Finset.univ.filter fun t => (s.pc t).isActive

/-- The accounts of the scheduler. -/
structure Accounts (tid : T → ℤ) (s : Sys T F C) : Prop where
  /-- Every task so far is in the queue or was taken, once. -/
  tickets : (s.fibers.map Task.ticket ++ s.taken.map fun p => p.2.ticket).Perm (List.range s.tickets)
  /-- The queued tasks are not null. -/
  task : ∀ ft ∈ s.fibers, ft.fiber ≠ none ∨ ft.cb ≠ none
  thread : ∀ p ∈ s.taken, p.2.thread = -1 ∨ p.2.thread = tid p.1
  active : s.active = (activeLoops s).card

/-- A loop has a fiber that yielded with `READY`, has decremented the counter, and has not put it
    back. -/
def PendingReady (s : Sys T F C) : Prop :=
  ∃ t f own, (s.pc t = .settle f own ∧ s.state f = .ready) ∨ s.pc t = .requeue f own

/-- A task is queued, or taken and unfinished. -/
def Unfinished (s : Sys T F C) : Prop :=
  s.fibers ≠ [] ∨ (∃ t, (s.pc t).isActive = true) ∨ PendingReady s

section
variable {s s' : Sys T F C} {l : Label T F C}

omit [Fintype T] [DecidableEq T] [DecidableEq F] in
/-- Scheduling adds tasks with new tickets. -/
theorem schedule_tickets (s : Sys T F C) (tasks : List (Option F × Option C × ℤ)) :
    ∃ new, (schedule s tasks).fibers = s.fibers ++ new ∧
      new.map Task.ticket = List.range' s.tickets new.length ∧
      (schedule s tasks).tickets = s.tickets + new.length ∧
      ∀ ft ∈ new, ft.fiber ≠ none ∨ ft.cb ≠ none := by
  induction tasks generalizing s with
  | nil => exact ⟨[], (List.append_nil _).symm, rfl, rfl, fun ft hft => (nomatch hft)⟩
  | cons task tasks ih =>
    obtain ⟨fiber, cb, thread⟩ := task
    obtain ⟨new, hfibers, htickets, hcount, htask⟩ := ih (scheduleNoLock s fiber cb thread)
    have heq : schedule s ((fiber, cb, thread) :: tasks) =
        schedule (scheduleNoLock s fiber cb thread) tasks := rfl
    rw [heq, hfibers, hcount]
    by_cases hnull : (fiber.isSome || cb.isSome) = true
    · rw [scheduleNoLock, if_pos hnull] at htickets ⊢
      refine ⟨⟨s.tickets, fiber, cb, thread⟩ :: new, by simp, ?_, ?_, fun ft hft => ?_⟩
      · rw [List.map_cons, htickets, List.length_cons, List.range'_succ]
      · rw [List.length_cons]
        exact (Nat.add_right_comm _ _ _).trans (Nat.add_assoc _ _ _)
      · rcases List.mem_cons.1 hft with rfl | hft
        · rw [Bool.or_eq_true, Option.isSome_iff_ne_none, Option.isSome_iff_ne_none] at hnull
          exact hnull
        · exact htask ft hft
    · rw [scheduleNoLock, if_neg hnull] at htickets ⊢
      exact ⟨new, rfl, htickets, rfl, htask⟩

omit [DecidableEq F] in
/-- One loop goes on. -/
theorem card_update (pc : T → Pc F C) (t : T) (p : Pc F C) :
    (Finset.univ.filter fun u => (Function.update pc t p u).isActive).card + (pc t).isActive.toNat =
      (Finset.univ.filter fun u => (pc u).isActive).card + p.isActive.toNat := by
  have hsplit (g : T → Pc F C) : (Finset.univ.filter fun u => (g u).isActive).card =
      (g t).isActive.toNat + ∑ u ∈ Finset.univ.erase t, (g u).isActive.toNat := by
    rw [Finset.card_filter, ← Finset.add_sum_erase _ _ (Finset.mem_univ t)]
    simp only [Bool.toNat, Bool.cond_eq_ite]
  have hrest : ∑ u ∈ Finset.univ.erase t, (Function.update pc t p u).isActive.toNat =
      ∑ u ∈ Finset.univ.erase t, (pc u).isActive.toNat :=
    Finset.sum_congr rfl fun u hu => by rw [Function.update_of_ne (Finset.ne_of_mem_erase hu)]
  rw [hsplit, hsplit pc, hrest, Function.update_self]
  omega

theorem next_accounts (h : Accounts tid s) (hstep : step tid s l s') : Accounts tid s' := by
  rcases next_moves hstep with ⟨hpc, hactive, htaken, tasks, hfibers, hcount⟩ | ⟨t, p, hmoves, -⟩
  · obtain ⟨new, hfibers', htickets, hcount', htask⟩ := schedule_tickets s tasks
    rw [hfibers'] at hfibers
    rw [hcount'] at hcount
    refine ⟨?_, ?_, ?_, ?_⟩
    · have hperm : (s.fibers.map Task.ticket ++ new.map Task.ticket ++ s.taken.map fun p => p.2.ticket).Perm
          ((s.fibers.map Task.ticket ++ s.taken.map fun p => p.2.ticket) ++ new.map Task.ticket) := by
        rw [List.append_assoc, List.append_assoc]
        exact List.perm_append_comm.append_left _
      rw [hfibers, htaken, hcount, List.map_append, List.range_eq_range', ← List.range'_append_1]
      refine hperm.trans ?_
      rw [htickets, Nat.zero_add, ← List.range_eq_range']
      exact h.tickets.append_right _
    · intro ft hft
      rw [hfibers] at hft
      rcases List.mem_append.1 hft with hft | hft
      · exact h.task ft hft
      · exact htask ft hft
    · rw [htaken]
      exact h.thread
    · rw [hactive, h.active, activeLoops, activeLoops, hpc]
  · have hcard := card_update s.pc t p
    have hact : s'.active = (activeLoops s').card := by
      have hmove := hmoves.active
      rw [h.active] at hmove
      rw [activeLoops, hmoves.pc_eq]
      rw [activeLoops] at hmove
      omega
    cases hmoves.queue with
    | same hfibers htickets htaken =>
      refine ⟨?_, ?_, ?_, hact⟩
      · rw [hfibers, htickets, htaken]
        exact h.tickets
      · rw [hfibers]
        exact h.task
      · rw [htaken]
        exact h.thread
    | take ft others hscan hfibers htickets htaken =>
      obtain ⟨hperm, hthread⟩ := scan_some hscan
      refine ⟨?_, fun it hit => ?_, fun q hq => ?_, hact⟩
      · rw [hfibers, htickets, htaken, List.map_append, List.map_singleton, ← List.append_assoc]
        refine List.Perm.trans ?_ h.tickets
        refine (List.perm_append_singleton _ _).trans ?_
        exact ((hperm.map Task.ticket).append_right _).symm
      · rw [hfibers] at hit
        exact h.task it (hperm.mem_iff.2 (List.mem_cons_of_mem ft hit))
      · rw [htaken] at hq
        rcases List.mem_append.1 hq with hq | hq
        · exact h.thread q hq
        · rw [List.mem_singleton.1 hq]
          exact hthread
    | push fiber cb thread htask hfibers htickets htaken =>
      refine ⟨?_, fun it hit => ?_, ?_, hact⟩
      · have hperm : (s.fibers.map Task.ticket ++ [s.tickets] ++ s.taken.map fun p => p.2.ticket).Perm
            ((s.fibers.map Task.ticket ++ s.taken.map fun p => p.2.ticket) ++ [s.tickets]) := by
          rw [List.append_assoc, List.append_assoc]
          exact List.perm_append_comm.append_left _
        rw [hfibers, htickets, htaken, List.map_append, List.map_singleton, List.range_succ]
        exact hperm.trans (h.tickets.append_right _)
      · rw [hfibers] at hit
        rcases List.mem_append.1 hit with hit | hit
        · exact h.task it hit
        · rw [List.mem_singleton.1 hit]
          exact htask
      · rw [htaken]
        exact h.thread

/-- **The accounts are right**, in all runs. -/
theorem accounts_of_run {ls : List (Label T F C)} (hrun : Run (step tid) (init T F C) ls s) :
    Accounts tid s := by
  refine hrun.invariant (P := Accounts tid) (fun _ _ _ h hs => next_accounts h hs) ?_
  refine ⟨List.Perm.refl _, fun ft hft => (nomatch hft), fun p hp => (nomatch hp), ?_⟩
  simp [init, activeLoops, Pc.isActive]

omit [DecidableEq T] [DecidableEq F] in
/-- `stopping()` returns true only when no task is queued or in the hands of a loop before the
    decrement. -/
theorem stopping_idle (h : Accounts tid s) (hs : isStopping s = true) :
    s.fibers = [] ∧ ∀ t, (s.pc t).isActive = false := by
  rw [isStopping, Bool.and_eq_true, Bool.and_eq_true, List.isEmpty_iff, beq_iff_eq, h.active] at hs
  refine ⟨hs.1.2, fun t => ?_⟩
  have hempty := Finset.card_eq_zero.1 (Nat.cast_eq_zero.1 hs.2)
  have ht := Finset.filter_eq_empty_iff.1 hempty (Finset.mem_univ t)
  exact Bool.eq_false_of_not_eq_true ht

/-- **The accounts are right in all runs**, and when `stopping()` returns true, what is unfinished is
    a fiber that yielded with `READY` and was not put back. -/
theorem accounts_and_stopping {ls : List (Label T F C)} (hrun : Run (step tid) (init T F C) ls s) :
    Accounts tid s ∧ (isStopping s = true → (¬Unfinished s ↔ ¬PendingReady s)) := by
  have h := accounts_of_run hrun
  refine ⟨h, fun hs => not_congr ⟨?_, fun hpending => .inr (.inr hpending)⟩⟩
  obtain ⟨hempty, hidle⟩ := stopping_idle h hs
  rintro (hfibers | ⟨t, ht⟩ | hpending)
  · exact absurd hempty hfibers
  · rw [hidle t] at ht
    cases ht
  · exact hpending

end

/-- A fiber runs. -/
theorem accounts_runs : ∃ s : Sys Bool ℕ Unit, s.active = 1 ∧ Accounts tid2 s ∧
    (isStopping s = true → (¬Unfinished s ↔ ¬PendingReady s)) := by
  obtain ⟨s, hs, hactive⟩ : ∃ s, runs.foldlM (next tid2) (init Bool ℕ Unit) = some s ∧ s.active = 1 :=
    ⟨_, rfl, rfl⟩
  exact ⟨s, hactive, accounts_and_stopping (Run.of_foldlM hs)⟩

/-- It yields with `READY`, the scheduler is told to stop, and the loop has done the decrement. -/
def yieldsReady : List (Label Bool ℕ Unit) :=
  [.yield true .ready, .setAutoStop, .setStopping, .step true none, .step true none, .step true none]

/-- **`stopping()` returns true before a fiber with `READY` is put back.** -/
theorem not_finished : ¬∀ (ls : List (Label Bool ℕ Unit)) s,
    Run (step tid2) (init Bool ℕ Unit) ls s → isStopping s = true → ¬Unfinished s := by
  intro h
  obtain ⟨s, hs, hstopping, hpc, hready⟩ : ∃ s,
      (Label.start :: (runs ++ yieldsReady)).foldlM (next tid2) (init Bool ℕ Unit) = some s ∧
        isStopping s = true ∧ s.pc true = .settle 0 false ∧ s.state 0 = .ready :=
    ⟨_, rfl, rfl, rfl, rfl⟩
  exact h _ s (Run.of_foldlM hs) hstopping (.inr (.inr ⟨true, 0, false, .inl ⟨hpc, hready⟩⟩))

end Ancfl.Scheduler
