/-
  `do_io`: one hooked call of a fiber, with its timers and its event.

  * `Pc` is where the fiber is; the callbacks of the timers that expired run
    beside it, in three steps: they test the mark, set it, and cancel the event;
  * `next`: a step of the fiber, of the timers, of a callback, or of a thread
    that triggers the event, after `epoll_wait` or in a cancel of its own;
  * `not_stuck_of_inTime`: a call whose timer has fired is not left suspended
    with its event, in a run in which the fiber registers no event after that,
    and epoll lets a callback take the event out.
-/
import Ancfl.Lib.Run
import Mathlib.Data.Int.Notation

namespace Ancfl.DoIo

open Lib

/-! ## The call -/

def EINTR : ℕ := 4

def EBADF : ℕ := 9

def EAGAIN : ℕ := 11

def ETIMEDOUT : ℕ := 110

/-- What `do_io` reads of the context of the descriptor. -/
structure FdCtx where
  isClose : Bool
  isSocket : Bool
  getUserNonblock : Bool
  getTimeout : BitVec 64

inductive Pc
  | enter
  /-- at the call of `fun` that is returned as it is -/
  | direct
  /-- at the call of `fun` under `retry` -/
  | retry
  /-- at `addConditionTimer` -/
  | addConditionTimer
  | addEvent
  /-- at `timer->cancel()` after `addEvent` has failed -/
  | addFailed (errno : ℕ)
  | YieldToHold
  | suspended
  /-- at `timer->cancel()` after the fiber was resumed -/
  | resumed
  /-- at the test of `tinfo->cancelled` -/
  | check
  | returned (n : ℤ) (errno : ℕ)
deriving DecidableEq

/-- `armed`: the timer is in `m_timers`; `expired`: callbacks that were taken out of it and have not
    begun; `testing` and `marked`: those that have tested the mark, and have set it; `fired`: one of
    them has finished; `registered`: the event is the fiber's; `wakeups`: the fiber is queued. -/
structure Sys where
  pc : Pc
  timeout : BitVec 64
  cancelled : Bool
  armed : Bool
  expired : ℕ
  testing : ℕ
  marked : ℕ
  fired : Bool
  registered : Bool
  wakeups : ℕ
deriving DecidableEq

def init : Sys := ⟨.enter, 0, false, false, 0, 0, 0, false, false, 0⟩

inductive Label
  | enter (t_hook_enable : Bool) (ctx : Option FdCtx)
  /-- `fun` returns -/
  | io (n : ℤ) (errno : ℕ)
  | addConditionTimer
  /-- `addEvent` returns 0, or `epoll_ctl` has failed -/
  | addEvent (ok : Bool) (errno : ℕ)
  | yield
  | resume
  /-- `timer->cancel()` -/
  | cancel
  | check
  /-- `listExpiredCb` takes the timer out -/
  | expire
  /-- a callback locks its pointers and tests the mark -/
  | test
  | mark
  /-- a callback is in `cancelEvent`; `ok` if `epoll_ctl` succeeds there -/
  | cancelEvent (ok : Bool)
  /-- another thread triggers the event -/
  | trigger

def enter (t_hook_enable : Bool) (ctx : Option FdCtx) (s : Sys) : Sys :=
  if !t_hook_enable then { s with pc := .direct }
  else
    match ctx with
    | none => { s with pc := .direct }
    | some ctx =>
      if ctx.isClose then { s with pc := .returned (-1) EBADF }
      else if !ctx.isSocket || ctx.getUserNonblock then { s with pc := .direct }
      else { s with pc := .retry, timeout := ctx.getTimeout }

/-- `triggerEvent` -/
def triggerEvent (s : Sys) : Sys := { s with registered := false, wakeups := s.wakeups + 1 }

/-- The pointers to `tinfo` can be locked: the call or another callback has it. -/
def Sys.alive (s : Sys) : Bool :=
  match s.pc with
  | .returned _ _ => s.testing + s.marked ≠ 0
  | _ => true

def next (s : Sys) : Label → Option Sys
  | .enter t_hook_enable ctx => if s.pc = .enter then some (enter t_hook_enable ctx s) else none
  | .io n errno =>
    match s.pc with
    | .direct => some { s with pc := .returned n errno }
    | .retry =>
      if n = -1 ∧ errno = EINTR then some s
      else if n = -1 ∧ errno = EAGAIN then some { s with pc := .addConditionTimer }
      else some { s with pc := .returned n errno }
    | _ => none
  | .addConditionTimer =>
    if s.pc = .addConditionTimer then
      some { s with pc := .addEvent, armed := s.timeout ≠ BitVec.allOnes 64 }
    else none
  | .addEvent ok errno =>
    -- the event is not the fiber's yet, or `addEvent` ends the program
    if s.pc = .addEvent ∧ s.registered = false then
      if ok then some { s with pc := .YieldToHold, registered := true }
      else some { s with pc := .addFailed errno }
    else none
  | .yield => if s.pc = .YieldToHold then some { s with pc := .suspended } else none
  | .resume =>
    if s.pc = .suspended ∧ 0 < s.wakeups then
      some { s with pc := .resumed, wakeups := s.wakeups - 1 }
    else none
  | .cancel =>
    match s.pc with
    | .addFailed errno => some { s with pc := .returned (-1) errno, armed := false }
    | .resumed => some { s with pc := .check, armed := false }
    | _ => none
  | .check =>
    if s.pc = .check then
      some { s with pc := if s.cancelled then .returned (-1) ETIMEDOUT else .retry }
    else none
  | .expire =>
    if s.armed then some { s with armed := false, expired := s.expired + 1 } else none
  | .test =>
    if 0 < s.expired then
      some { s with
        expired := s.expired - 1
        testing := if s.alive && !s.cancelled then s.testing + 1 else s.testing }
    else none
  | .mark =>
    if 0 < s.testing then
      some { s with testing := s.testing - 1, marked := s.marked + 1, cancelled := true }
    else none
  | .cancelEvent ok =>
    if 0 < s.marked then
      let s := { s with marked := s.marked - 1, fired := true }
      some (if s.registered && ok then triggerEvent s else s)
    else none
  | .trigger => if s.registered then some (triggerEvent s) else none

def step (s : Sys) (l : Label) (s' : Sys) : Prop := next s l = some s'

/-! ## What is to hold, and when -/

/-- The timer has fired, and nothing is to bring the fiber back but its event. -/
def Stuck (s : Sys) : Prop :=
  s.fired = true ∧ s.pc = .suspended ∧ s.registered = true ∧ s.wakeups = 0

instance (s : Sys) : Decidable (Stuck s) := inferInstanceAs (Decidable (_ ∧ _))

/-- The fiber registers its event before the timer has fired, and `epoll_ctl` lets a callback take it
    out. -/
def InTime (s : Sys) : Label → Prop
  | .addEvent ok _ => ok = true → s.fired = false
  | .cancelEvent ok => s.registered = true → ok = true
  | _ => True

/-! ## Runs -/

/-- A timer that has fired leaves no event; a fiber that waits has its event or is queued; and only a
    mark makes a timer fire. -/
structure Inv (s : Sys) : Prop where
  fired : s.fired = true → s.registered = false
  waits : s.pc = .YieldToHold ∨ s.pc = .suspended → s.registered = true ∨ 0 < s.wakeups
  marked : s.fired = true ∨ 0 < s.marked → s.cancelled = true

theorem init_inv : Inv init := ⟨(fun h => nomatch h), by simp [init], by simp [init]⟩

variable {s s' : Sys}

/-- A step of the fiber that leaves its event, its wake-ups and the callbacks. -/
theorem Inv.move (h : Inv s) {pc : Pc} {timeout : BitVec 64} {armed : Bool}
    (hpc : pc = .YieldToHold ∨ pc = .suspended → s.pc = .YieldToHold ∨ s.pc = .suspended) :
    Inv { s with pc := pc, timeout := timeout, armed := armed } :=
  ⟨h.fired, fun hs => h.waits (hpc hs), h.marked⟩

/-- The event is taken out, and the fiber is queued. -/
theorem Inv.triggerEvent {s : Sys} (hmarked : s.fired = true ∨ 0 < s.marked → s.cancelled = true) :
    Inv (triggerEvent s) :=
  ⟨fun _ => rfl, fun _ => .inr (Nat.succ_pos _), hmarked⟩

theorem enter_inv (h : Inv s) (t_hook_enable : Bool) (ctx : Option FdCtx) :
    Inv (enter t_hook_enable ctx s) := by
  unfold enter
  split_ifs
  · exact h.move (by simp)
  · cases ctx with
    | none => exact h.move (by simp)
    | some ctx =>
      dsimp only
      split_ifs
      · exact h.move (by simp)
      · exact h.move (by simp)
      · exact h.move (by simp)

theorem io_inv (h : Inv s) {n : ℤ} {errno : ℕ} (hs : step s (.io n errno) s') : Inv s' := by
  rw [step, next] at hs
  split at hs
  · cases hs
    exact h.move (by simp)
  · split_ifs at hs
    · cases hs
      exact h
    · cases hs
      exact h.move (by simp)
    · cases hs
      exact h.move (by simp)
  · cases hs

/-- The step that matters: the event is registered only while no timer has fired. -/
theorem addEvent_inv (h : Inv s) {ok : Bool} {errno : ℕ} (hok : ok = true → s.fired = false)
    (hs : step s (.addEvent ok errno) s') : Inv s' := by
  rw [step, next, Option.ite_none_right_eq_some] at hs
  obtain ⟨-, hs⟩ := hs
  cases ok with
  | true =>
    cases hs
    refine ⟨fun hfired => ?_, fun _ => .inl rfl, h.marked⟩
    cases (hok rfl).symm.trans hfired
  | false =>
    cases hs
    exact h.move (by simp)

theorem cancel_inv (h : Inv s) (hs : step s .cancel s') : Inv s' := by
  rw [step, next] at hs
  split at hs
  · cases hs
    exact h.move (by simp)
  · cases hs
    exact h.move (by simp)
  · cases hs

theorem mark_inv (h : Inv s) (hs : step s .mark s') : Inv s' := by
  rw [step, next, Option.ite_none_right_eq_some] at hs
  obtain ⟨-, hs⟩ := hs
  cases hs
  exact ⟨h.fired, h.waits, fun _ => rfl⟩

/-- A callback that finishes has taken the event out, if it was there. -/
theorem cancelEvent_inv (h : Inv s) {ok : Bool} (hok : s.registered = true → ok = true)
    (hs : step s (.cancelEvent ok) s') : Inv s' := by
  rw [step, next, Option.ite_none_right_eq_some] at hs
  obtain ⟨hmarked, hs⟩ := hs
  have hcancelled := h.marked (.inr hmarked)
  dsimp only at hs
  cases hregistered : s.registered with
  | true =>
    rw [hok hregistered, hregistered] at hs
    cases hs
    exact .triggerEvent fun _ => hcancelled
  | false =>
    rw [if_neg (by simp [hregistered])] at hs
    cases hs
    exact ⟨fun _ => hregistered, h.waits, fun _ => hcancelled⟩

theorem step_inv {l : Label} (h : Inv s) (hok : InTime s l) (hs : step s l s') : Inv s' := by
  cases l with
  | io n errno => exact io_inv h hs
  | addEvent ok errno => exact addEvent_inv h hok hs
  | cancel => exact cancel_inv h hs
  | mark => exact mark_inv h hs
  | cancelEvent ok => exact cancelEvent_inv h hok hs
  | enter t_hook_enable ctx =>
    obtain ⟨-, hs⟩ := Option.ite_none_right_eq_some.1 hs
    cases hs
    exact enter_inv h t_hook_enable ctx
  | addConditionTimer =>
    obtain ⟨-, hs⟩ := Option.ite_none_right_eq_some.1 hs
    cases hs
    exact h.move (by simp)
  | yield =>
    obtain ⟨hpc, hs⟩ := Option.ite_none_right_eq_some.1 hs
    cases hs
    exact h.move fun _ => .inl hpc
  | resume =>
    obtain ⟨-, hs⟩ := Option.ite_none_right_eq_some.1 hs
    cases hs
    exact ⟨h.fired, by simp, h.marked⟩
  | check =>
    obtain ⟨-, hs⟩ := Option.ite_none_right_eq_some.1 hs
    cases hs
    exact h.move (by split_ifs <;> simp)
  | expire =>
    obtain ⟨-, hs⟩ := Option.ite_none_right_eq_some.1 hs
    cases hs
    exact ⟨h.fired, h.waits, h.marked⟩
  | test =>
    obtain ⟨-, hs⟩ := Option.ite_none_right_eq_some.1 hs
    cases hs
    exact ⟨h.fired, h.waits, h.marked⟩
  | trigger =>
    obtain ⟨-, hs⟩ := Option.ite_none_right_eq_some.1 hs
    cases hs
    exact .triggerEvent h.marked

theorem run_inv {ls : List Label} (hrun : Run (fun s l s' => InTime s l ∧ step s l s') init ls s) :
    Inv s :=
  hrun.invariant (P := Inv) (fun _ _ _ h hs => step_inv h hs.1 hs.2) init_inv

/-- **A call that has timed out comes back** in a run in which the fiber registers its event in
    time. -/
theorem not_stuck_of_inTime {ls : List Label}
    (hrun : Run (fun s l s' => InTime s l ∧ step s l s') init ls s) : ¬Stuck s := by
  rintro ⟨hfired, -, hregistered, -⟩
  cases ((run_inv hrun).fired hfired).symm.trans hregistered

/-- A socket with a timeout. -/
def socket : FdCtx := ⟨false, true, false, 1000⟩

/-- The timer of a call fires while its fiber waits, and the call returns. -/
theorem not_stuck_returned : ∃ s : Sys, Run step init
    [.enter true (some socket), .io (-1) EAGAIN, .addConditionTimer, .addEvent true 0, .yield,
      .expire, .test, .mark, .cancelEvent true, .resume, .cancel, .check] s ∧
    s.pc = .returned (-1) ETIMEDOUT ∧ ¬Stuck s := by
  obtain ⟨s, hrun, hpc⟩ : ∃ s : Sys, Run (fun s l s' => InTime s l ∧ step s l s') init
      [.enter true (some socket), .io (-1) EAGAIN, .addConditionTimer, .addEvent true 0, .yield,
        .expire, .test, .mark, .cancelEvent true, .resume, .cancel, .check] s ∧
      s.pc = .returned (-1) ETIMEDOUT := by
    refine ⟨_, .cons ⟨trivial, rfl⟩ (.cons ⟨trivial, rfl⟩ (.cons ⟨trivial, rfl⟩
      (.cons ⟨fun _ => rfl, rfl⟩ (.cons ⟨trivial, rfl⟩ (.cons ⟨trivial, rfl⟩ (.cons ⟨trivial, rfl⟩
      (.cons ⟨trivial, rfl⟩ (.cons ⟨fun _ => rfl, rfl⟩ (.cons ⟨trivial, rfl⟩ (.cons ⟨trivial, rfl⟩
      (.cons ⟨trivial, rfl⟩ (.nil _)))))))))))), rfl⟩
  exact ⟨s, hrun.mono fun _ _ _ h => h.2, hpc, not_stuck_of_inTime hrun⟩

/-- The timer fires before the event is registered. -/
theorem not_comes_back : ¬∀ (ls : List Label) (s : Sys), Run step init ls s → ¬Stuck s := by
  intro h
  have hstuck := h [.enter true (some socket), .io (-1) EAGAIN, .addConditionTimer, .expire, .test,
    .mark, .cancelEvent true, .addEvent true 0, .yield]
    ⟨.suspended, 1000, true, false, 0, 0, 0, true, true, 0⟩ (.of_foldlM (by decide))
  exact hstuck (by decide)

end Ancfl.DoIo
