/-
  One waiter and any threads that use its timers.

  * `Sys`: the manager, what the waiter does, which threads owe the call of
    `onTimerInsertedAtFront` after their locked section;
  * `next`: a locked section, a notification or a step of the waiter; the clock's
    readings are arbitrary;
  * `WakeInv`, `next_inv`: kept by all steps but a `refresh` to before the deadline;
  * `noLostWakeup_of_timely`: whole runs.
-/
import Ancfl.Lib.Run
import Ancfl.Timer.Manager
import Mathlib.Algebra.Order.Monoid.Unbundled.WithTop

namespace Ancfl.Wakeup

open Lib TimerManager

/-! ## The system -/

/-- What the waiter does: before `getNextTimer`; waiting until a deadline; before the check of
    `listExpiredCb` whether the set is empty; before its second locked section. -/
inductive Waiter
  | ready
  | waiting (deadline : WithTop ℕ)
  | woken
  | listing
deriving DecidableEq

/-- `delivered`: a notification since the last `getNextTimer`. -/
structure Sys (T C : Type) where
  manager : TimerManager C
  waiter : Waiter
  delivered : Bool
  owed : T → Bool

inductive Label (T C : Type)
  | addTimer (t : T) (ms : ℕ) (cb : Option C) (recurring : Bool) (addr now : ℕ)
  | cancel (t : T) (i : ℕ)
  | refresh (t : T) (i now : ℕ)
  | reset (t : T) (i ms : ℕ) (fromNow : Bool) (now : ℕ)
  | notify (t : T)
  | getNextTimer (now : ℕ)
  | wake
  | checkEmpty
  | listExpiredCb (now addr : ℕ)

variable {T C : Type} [DecidableEq T]

def init (T C : Type) (now : ℕ) : Sys T C := ⟨TimerManager.new C now, .ready, false, fun _ => false⟩

/-- What the waiter does after `getNextTimer`: 0 is no time to wait, `~0ull` is for ever. -/
def afterNext (m : TimerManager C) (now : ℕ) : Waiter :=
  match (getNextTimer m now).1 with
  | none => .waiting ⊤
  | some 0 => .woken
  | some (wait + 1) => .waiting ((now + (wait + 1) : ℕ) : WithTop ℕ)

/-- A step. The check before the lock of `reset` reads a period that may have changed since, so that
    its locked section can run with any arguments. -/
def next (s : Sys T C) : Label T C → Option (Sys T C)
  | .addTimer t ms cb recurring addr now =>
    if s.owed t = false ∧ ∀ j ∈ s.manager.timers, (s.manager.heap j).addr ≠ addr then
      let (front, m) := addTimer s.manager ms cb recurring addr now
      some { s with manager := m, owed := Function.update s.owed t front }
    else none
  | .cancel t i =>
    if s.owed t = false then do
      let (_, m) ← cancel s.manager i
      some { s with manager := m }
    else none
  | .refresh t i now =>
    if s.owed t = false then some { s with manager := (refresh s.manager i now).2 } else none
  | .reset t i ms fromNow now =>
    if s.owed t = false then
      let (_, front, m) := resetLocked s.manager i ms fromNow now
      some { s with manager := m, owed := Function.update s.owed t front }
    else none
  | .notify t =>
    if s.owed t then some { s with delivered := true, owed := Function.update s.owed t false } else none
  | .getNextTimer now =>
    if s.waiter = .ready then
      some { s with
        manager := (getNextTimer s.manager now).2
        waiter := afterNext s.manager now
        delivered := false }
    else none
  | .wake =>
    match s.waiter with
    | .waiting _ => some { s with waiter := .woken }
    | _ => none
  | .checkEmpty =>
    if s.waiter = .woken then
      some { s with waiter := if s.manager.timers = [] then .ready else .listing }
    else none
  | .listExpiredCb now addr =>
    if s.waiter = .listing then
      some { s with manager := (listLocked s.manager now addr).2.2, waiter := .ready }
    else none

def step (s : Sys T C) (l : Label T C) (s' : Sys T C) : Prop := next s l = some s'

/-- If the waiter waits for a deadline later than the earliest timer, it was notified or will be. -/
def NoLostWakeup (s : Sys T C) : Prop :=
  ∀ d i, s.waiter = .waiting d → i ∈ s.manager.timers → ((s.manager.heap i).next : WithTop ℕ) < d →
    s.delivered = true ∨ ∃ t, s.owed t = true

/-- A `refresh` does not put its timer before the deadline of a waiter who is not notified. -/
def Timely (s : Sys T C) : Label T C → Prop
  | .refresh _ i now => (s.manager.heap i).cb ≠ none → ∀ d, s.waiter = .waiting d →
    s.delivered = false → (∀ t, s.owed t = false) →
      d ≤ ((now + (s.manager.heap i).ms) % 2 ^ 64 : ℕ)
  | _ => True

/-! ## The invariant -/

structure WakeInv (s : Sys T C) : Prop where
  inv : Inv s.manager
  tickled : s.manager.tickled = true → s.delivered = true ∨ ∃ t, s.owed t = true
  early : ∀ d, s.waiter = .waiting d → s.delivered = false → (∀ t, s.owed t = false) →
    ∀ i ∈ s.manager.timers, d ≤ (s.manager.heap i).next

section
variable {s s' : Sys T C} {l : Label T C}

omit [DecidableEq T] in
theorem noLostWakeup_of_inv (h : WakeInv s) : NoLostWakeup s := by
  intro d i hd hi hlt
  by_contra hnot
  rw [not_or, Bool.not_eq_true, not_exists] at hnot
  exact (h.early d hd hnot.1 (fun t => Bool.eq_false_of_not_eq_true (hnot.2 t)) i hi).not_gt hlt

/-- An insertion that owes no notification was suppressed, or is behind another timer. -/
theorem inv_insert (h : WakeInv s) {t : T} {front : Bool} {heap : ℕ → Timer C} {count : ℕ}
    {l' : List ℕ} {k : ℕ} (howed : s.owed t = false) (hord : Ordered heap count [] l')
    (hmem : ∀ j ∈ l', j ≠ k → j ∈ s.manager.timers) (heq : ∀ j ∈ s.manager.timers, j ≠ k →
      heap j = s.manager.heap j)
    (hfront : front = false → s.manager.tickled = true ∨
      ∃ j ∈ s.manager.timers, j ≠ k ∧ (heap j).next ≤ (heap k).next) :
    WakeInv { s with
      manager := ⟨heap, count, l', s.manager.tickled || front, s.manager.previouseTime⟩
      owed := Function.update s.owed t front } := by
  have howed' (b : Bool) : (∃ u, s.owed u = true) → ∃ u, Function.update s.owed t b u = true := by
    rintro ⟨u, hu⟩
    have hut : u ≠ t := by
      rintro rfl
      rw [howed] at hu
      cases hu
    exact ⟨u, by rwa [Function.update_of_ne hut]⟩
  refine ⟨hord, fun htickled => ?_, fun d hd hdel hnone i hi => ?_⟩
  · rcases Bool.or_eq_true _ _ ▸ htickled with htickled | rfl
    · exact (h.tickled htickled).imp_right (howed' front)
    · exact .inr ⟨t, Function.update_self t true s.owed⟩
  · dsimp only at hd hdel hnone hi ⊢
    have hno : ∀ u, s.owed u = false := by
      intro u
      by_contra hu
      obtain ⟨v, hv⟩ := howed' front ⟨u, Bool.eq_true_of_not_eq_false hu⟩
      rw [hnone v] at hv
      cases hv
    have hf : front = false := by
      have ht := hnone t
      rwa [Function.update_self] at ht
    have hold := h.early d hd hdel hno
    have hle : ∀ j ∈ s.manager.timers, j ≠ k → d ≤ ((heap j).next : ℕ) := by
      intro j hj hjk
      rw [heq j hj hjk]
      exact hold j hj
    by_cases hik : i = k
    · rcases hfront hf with htickled | ⟨j, hj, hjk, hjle⟩
      · rcases h.tickled htickled with hd' | ⟨u, hu⟩
        · rw [hdel] at hd'
          cases hd'
        · rw [hno u] at hu
          cases hu
      · rw [hik]
        exact (hle j hj hjk).trans (WithTop.coe_le_coe.2 hjle)
    · exact hle i (hmem i hi hik) hik

omit [DecidableEq T] in
/-- A section that notifies nobody. -/
theorem inv_frame (h : WakeInv s) {m : TimerManager C} (hord : Inv m)
    (htickled : m.tickled = s.manager.tickled)
    (hearly : ∀ d, s.waiter = .waiting d → s.delivered = false → (∀ t, s.owed t = false) →
      ∀ i ∈ m.timers, d ≤ (m.heap i).next) : WakeInv { s with manager := m } :=
  ⟨hord, fun ht => h.tickled (htickled ▸ ht), hearly⟩

omit [DecidableEq T] in
/-- The waiter does not wait. -/
theorem inv_waiter (h : WakeInv s) {m : TimerManager C} (hord : Inv m)
    (htickled : m.tickled = s.manager.tickled) {w : Waiter} (hw : ∀ d, w ≠ .waiting d) :
    WakeInv { s with manager := m, waiter := w } :=
  ⟨hord, fun ht => h.tickled (htickled ▸ ht), fun d hd => absurd hd (hw d)⟩

/-- **`getNextTimer`** gives the time of the first timer. -/
theorem afterNext_early {m : TimerManager C} (h : Inv m) {now : ℕ} {d : WithTop ℕ}
    (hd : afterNext m now = .waiting d) : ∀ i ∈ m.timers, d ≤ (m.heap i).next := by
  intro i hi
  rw [afterNext, getNextTimer] at hd
  cases hm : m.timers with
  | nil => rw [hm] at hi; cases hi
  | cons front rest =>
    have hsorted := h.sorted
    rw [hm] at hi hsorted
    have hle : (m.heap front).next ≤ (m.heap i).next := next_le (a := []) hsorted hi
    simp only [hm] at hd
    split_ifs at hd with hnow
    split at hd
    · rename_i hnone
      cases hnone
    · cases hd
    · rename_i wait hwait
      obtain rfl := Waiter.waiting.inj hd
      have heq : now + (wait + 1) = (m.heap front).next := by
        have hwait := Option.some.inj hwait
        omega
      rw [heq]
      exact WithTop.coe_le_coe.2 hle

/-- **One step.** -/
theorem next_inv (h : WakeInv s) (hl : Timely s l) (hstep : step s l s') : WakeInv s' := by
  have hstep : next s l = some s' := hstep
  cases l with
  | addTimer t ms cb recurring addr now =>
    rw [next] at hstep
    split_ifs at hstep with hok
    obtain ⟨heap, front, l', hheap, hadd, hord, hl', hfront⟩ := addTimer_ret h.inv hok.2
    rw [hadd] at hstep
    obtain rfl := Option.some.inj hstep
    have hself : heap s.manager.count = ⟨addr, recurring, ms, (now + ms) % 2 ^ 64, cb⟩ := by
      rw [hheap, Function.update_self]
    refine inv_insert h hok.1 hord (k := s.manager.count)
      (fun j hj hjk => ((hl' j).1 hj).resolve_left hjk) (fun j hj hjk => ?_) fun hf => ?_
    · rw [hheap, Function.update_of_ne hjk]
    · refine (hfront hf).imp_right fun ⟨j, hj, hle⟩ => ⟨j, hj, (h.inv.lt_count j hj).ne, ?_⟩
      rw [hself]
      exact hle
  | cancel t i =>
    rw [next] at hstep
    split_ifs at hstep
    rcases cancel_ret h.inv i with ⟨-, hcancel⟩ | ⟨-, heap, l', hheap, hcancel, hord, hl'⟩
    · rw [hcancel] at hstep
      obtain rfl := Option.some.inj hstep
      exact h
    · rw [hcancel] at hstep
      obtain rfl := Option.some.inj hstep
      refine inv_frame h hord rfl fun d hd hdel hno j hj => ?_
      obtain ⟨hji, hj⟩ := (hl' j).1 hj
      show d ≤ (heap j).next
      rw [hheap, Function.update_of_ne hji]
      exact h.early d hd hdel hno j hj
  | refresh t i now =>
    rw [next] at hstep
    split_ifs at hstep
    rcases refresh_ret h.inv i now with ⟨-, hrefresh⟩ | ⟨hcb, heap, l', hheap, hrefresh, hord, hl'⟩
    · rw [hrefresh] at hstep
      obtain rfl := Option.some.inj hstep
      exact h
    · rw [hrefresh] at hstep
      obtain rfl := Option.some.inj hstep
      refine inv_frame h hord rfl fun d hd hdel hno j hj => ?_
      show d ≤ (heap j).next
      by_cases hji : j = i
      · rw [hheap, hji, Function.update_self]
        exact hl hcb d hd hdel hno
      · rw [hheap, Function.update_of_ne hji]
        exact h.early d hd hdel hno j ((hl' j).1 hj)
  | reset t i ms fromNow now =>
    rw [next] at hstep
    split_ifs at hstep with hok
    rcases resetLocked_ret h.inv i ms fromNow now with
      ⟨-, hreset⟩ | ⟨-, nxt, heap, front, l', hheap, hreset, hord, hl', hfront⟩
    · rw [hreset] at hstep
      obtain rfl := Option.some.inj hstep
      have hsame : Function.update s.owed t false = s.owed := by
        rw [← hok, Function.update_eq_self]
      rw [hsame]
      exact h
    · rw [hreset] at hstep
      obtain rfl := Option.some.inj hstep
      refine inv_insert h hok hord (k := i) (fun j hj _ => (hl' j).1 hj) (fun j hj hjk => ?_) fun hf => ?_
      · rw [hheap, Function.update_of_ne hjk]
      · refine (hfront hf).imp_right fun ⟨j, hj, hji, hle⟩ => ⟨j, hj, hji, ?_⟩
        rw [hheap, Function.update_of_ne hji, Function.update_self]
        exact hle
  | notify t =>
    rw [next] at hstep
    split_ifs at hstep
    obtain rfl := Option.some.inj hstep
    exact ⟨h.inv, fun _ => .inl rfl, fun d _ hdel => by cases hdel⟩
  | getNextTimer now =>
    rw [next] at hstep
    split_ifs at hstep
    obtain rfl := Option.some.inj hstep
    obtain ⟨hsorted, htimers, hheap, htickled⟩ := getNextTimer_ret h.inv now
    refine ⟨hsorted, fun ht => absurd (htickled.symm.trans ht) Bool.false_ne_true, fun d hd _ _ => ?_⟩
    dsimp only at hd ⊢
    rw [htimers, hheap]
    exact afterNext_early h.inv hd
  | wake =>
    rw [next] at hstep
    split at hstep
    · obtain rfl := Option.some.inj hstep
      exact inv_waiter h h.inv rfl fun d hd => (nomatch hd)
    · cases hstep
  | checkEmpty =>
    rw [next] at hstep
    split_ifs at hstep
    all_goals
      obtain rfl := Option.some.inj hstep
      exact inv_waiter h h.inv rfl fun d hd => (nomatch hd)
  | listExpiredCb now addr =>
    rw [next] at hstep
    split_ifs at hstep
    obtain ⟨a, b, heap, l', prev, -, hlist, hord, -⟩ := listLocked_ret h.inv now addr
    rw [hlist] at hstep
    obtain rfl := Option.some.inj hstep
    exact inv_waiter (m := ⟨heap, _, l', _, prev⟩) h hord rfl fun d hd => (nomatch hd)

/-- **No lost wake-up**, in runs whose refreshes are timely. -/
theorem noLostWakeup_of_timely {now : ℕ} {ls : List (Label T C)}
    (hrun : Run (fun s l s' => Timely s l ∧ step s l s') (init T C now) ls s) : NoLostWakeup s := by
  have hinit : WakeInv (init T C now) :=
    ⟨inv_new C now, fun ht => (nomatch ht), fun d hd => (nomatch hd)⟩
  exact noLostWakeup_of_inv (hrun.invariant (P := WakeInv) (fun _ _ _ h hs => next_inv h hs.1 hs.2) hinit)

end

/-- A timer is added at the time 900 for the time 1000, the waiter waits for it, and it is refreshed
    when the clock reads `now`. -/
def refreshing (now : ℕ) : List (Label Bool ℕ) :=
  [.addTimer true 100 (some 0) false 0 900, .notify true, .getNextTimer 900, .refresh false 0 now]

def added : TimerManager ℕ := (addTimer (TimerManager.new ℕ 900) 100 (some 0) false 0 900).2

def refreshed (now : ℕ) : Sys Bool ℕ :=
  ⟨(refresh (getNextTimer added 900).2 0 now).2, .waiting ((1000 : ℕ) : WithTop ℕ), false,
    Function.update (Function.update (fun _ => false) true true) true false⟩

/-- The clock goes on. -/
theorem noLostWakeup_refreshed : NoLostWakeup (refreshed 950) := by
  have hrun : Run (fun s l s' => Timely s l ∧ step s l s') (init Bool ℕ 900) (refreshing 950)
      (refreshed 950) := by
    refine .cons ⟨trivial, rfl⟩ (.cons ⟨trivial, rfl⟩ (.cons ⟨trivial, rfl⟩ (.cons ⟨?_, rfl⟩ (.nil _))))
    rintro - d hd - -
    cases hd
    decide
  exact noLostWakeup_of_timely hrun

/-- **The clock goes back.** -/
theorem not_noLostWakeup : ¬∀ (ls : List (Label Bool ℕ)) s,
    Run step (init Bool ℕ 900) ls s → NoLostWakeup s := by
  intro h
  have hrun : Run step (init Bool ℕ 900) (refreshing 500) (refreshed 500) :=
    .cons rfl (.cons rfl (.cons rfl (.cons rfl (.nil _))))
  rcases h _ _ hrun _ 0 rfl (by decide) (by decide) with hdel | ⟨t, ht⟩
  · cases hdel
  · cases t <;> cases ht

end Ancfl.Wakeup
