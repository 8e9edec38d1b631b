/-
  The timeout `IOManager::idle` gives to `epoll_wait`.

  * `Turn`: what a turn of the loop of `idle` finds, in `stopping()` and in the
    call of `getNextTimer` after it;
  * `Turn.timeout`: the timeout of each `epoll_wait` of the turn; `next_timeout`
    stays 0 where `stopping()` is false (`timeout_busy`);
  * `waitsRight_iff`: when it is the time to the next timer, 3000 ms at most.
-/
import Ancfl.Lib.Int32
import Ancfl.Timer.Manager

namespace Ancfl.Idle

open Lib TimerManager

variable {C : Type}

/-! ## The loop -/

/-- `~0ull` -/
def noTimer : ℕ := 2 ^ 64 - 1

/-- `getNextTimer()`, a `uint64_t`. -/
def ticks (m : TimerManager C) (now : ℕ) : ℕ := (m.getNextTimer now).1.getD noTimer

/-- What `stopping` looks at beside the timers; `fibers` is the length of `m_fibers`. -/
structure Load where
  pendingEventCount : ℕ
  autoStop : Bool
  stopping : Bool
  fibers : ℕ
  activeThreadCount : ℕ

/-- `Scheduler::stopping()` -/
def Load.schedulerStopping (load : Load) : Bool :=
  load.autoStop && load.stopping && load.fibers == 0 && load.activeThreadCount == 0

/-- `stopping(timeout)`: the result and `timeout`. -/
def stoppingTimeout (m : TimerManager C) (load : Load) (now : ℕ) : Bool × ℕ :=
  let timeout := ticks m now
  (timeout == noTimer && load.pendingEventCount == 0 && load.schedulerStopping, timeout)

/-- `stopping()` -/
def stopping (m : TimerManager C) (load : Load) (now : ℕ) : Bool := (stoppingTimeout m load now).1

/-- What a turn finds: the timers and the clock in `stopping()`, and in the call of `getNextTimer`
    after it, before which other threads may have changed the timers. -/
structure Turn (C : Type) where
  manager : TimerManager C
  load : Load
  now : ℕ
  later : TimerManager C
  laterNow : ℕ

/-- `next_timeout` before the inner loop, `none` for the exit. -/
def Turn.nextTimeout (t : Turn C) : Option ℕ :=
  if stopping t.manager t.load t.now then
    let next_timeout := ticks t.later t.laterNow
    if next_timeout = noTimer then none else some next_timeout
  else some 0

def MAX_TIMEOUT : ℕ := 3000

/-- A turn of the inner loop up to `epoll_wait`. -/
def clamp (next_timeout : ℕ) : ℕ :=
  if next_timeout ≠ noTimer then
    if MAX_TIMEOUT < toInt32 next_timeout then MAX_TIMEOUT else next_timeout
  else MAX_TIMEOUT

/-- The timeout of the `epoll_wait` after `k` ones that a signal interrupted. -/
def Turn.timeout (t : Turn C) (k : ℕ) : Option ℤ :=
  t.nextTimeout.map fun next_timeout => toInt32 (clamp^[k + 1] next_timeout)

/-! ## What it should be -/

/-- The timeout is `min(3000, getNextTimer())`: 0 only if a timer is due, not negative, and not later
    than any timer. -/
structure WaitsRight (m : TimerManager C) (now : ℕ) (timeout : ℤ) : Prop where
  timeout_eq : timeout = (min MAX_TIMEOUT (ticks m now) : ℕ)
  due : timeout = 0 → ∃ i ∈ m.timers, (m.heap i).next ≤ now
  nonneg : 0 ≤ timeout
  early : ∀ i ∈ m.timers, timeout ≤ ((m.heap i).next - now : ℕ)

/-- The timers and the clock that the last `getNextTimer` of the turn finds. -/
def Turn.last (t : Turn C) : TimerManager C × ℕ :=
  if stopping t.manager t.load t.now then (t.later, t.laterNow) else (t.manager, t.now)

/-- Every timeout of the turn is right. -/
def Turn.Right (t : Turn C) : Prop :=
  ∀ k timeout, t.timeout k = some timeout → WaitsRight t.last.1 t.last.2 timeout

/-- A timer is due; or `stopping()` is true, and what `getNextTimer` gives after it survives the cast to
    `int`, or is 3000 at least after it. -/
def Turn.Lucky (t : Turn C) : Prop :=
  if stopping t.manager t.load t.now then
    ticks t.later t.laterNow ≤ MAX_TIMEOUT ∨ MAX_TIMEOUT ≤ toInt32 (ticks t.later t.laterNow)
  else ∃ i ∈ t.manager.timers, (t.manager.heap i).next ≤ t.now

/-! ## Timers -/

section
variable {m : TimerManager C} {now : ℕ}

theorem ticks_le (h : Inv m) : ∀ i ∈ m.timers, ticks m now ≤ (m.heap i).next - now := by
  intro i hi
  have hsorted := h.sorted
  rw [ticks, getNextTimer]
  cases hm : m.timers with
  | nil => rw [hm] at hi; cases hi
  | cons front rest =>
    rw [hm] at hi hsorted
    have hle : (m.heap front).next ≤ (m.heap i).next := next_le (a := []) hsorted hi
    simp only [Option.getD_some]
    split_ifs
    · exact Nat.zero_le _
    · omega

theorem ticks_eq_zero_iff (h : Inv m) : ticks m now = 0 ↔ ∃ i ∈ m.timers, (m.heap i).next ≤ now := by
  constructor
  · intro hzero
    rw [ticks, getNextTimer] at hzero
    cases hm : m.timers with
    | nil =>
      rw [hm] at hzero
      exact absurd (show noTimer = 0 from hzero) (by decide)
    | cons front rest =>
      rw [hm] at hzero
      simp only [Option.getD_some] at hzero
      refine ⟨front, List.mem_cons_self, ?_⟩
      split_ifs at hzero with hnow
      · exact hnow
      · omega
  · rintro ⟨i, hi, hnow⟩
    have hle : ticks m now ≤ (m.heap i).next - now := ticks_le h i hi
    omega

theorem waitsRight_min (h : Inv m) : WaitsRight m now (min MAX_TIMEOUT (ticks m now) : ℕ) where
  timeout_eq := rfl
  due hzero := (ticks_eq_zero_iff h).1 (by rw [MAX_TIMEOUT] at hzero; omega)
  nonneg := by omega
  early i hi := by
    have hle : ticks m now ≤ (m.heap i).next - now := ticks_le h i hi
    omega

theorem waitsRight_iff_eq (h : Inv m) {timeout : ℤ} :
    WaitsRight m now timeout ↔ timeout = (min MAX_TIMEOUT (ticks m now) : ℕ) :=
  ⟨WaitsRight.timeout_eq, fun he => he ▸ waitsRight_min h⟩

end

/-! ## The cast -/

theorem toInt32_max : toInt32 MAX_TIMEOUT = 3000 := toInt32_natCast (by decide)

theorem clamp_clamp (v : ℕ) : clamp (clamp v) = clamp v := by
  have hmax : clamp MAX_TIMEOUT = MAX_TIMEOUT := by
    rw [clamp, if_pos (by decide), if_neg]
    rw [toInt32_max]
    decide
  by_cases hv : v ≠ noTimer
  · by_cases hgt : (MAX_TIMEOUT : ℤ) < toInt32 v
    · rw [show clamp v = MAX_TIMEOUT by rw [clamp, if_pos hv, if_pos hgt], hmax]
    · have hsame : clamp v = v := by rw [clamp, if_pos hv, if_neg hgt]
      rw [hsame, hsame]
  · rw [show clamp v = MAX_TIMEOUT by rw [clamp, if_neg hv], hmax]

theorem iterate_clamp (v k : ℕ) : clamp^[k + 1] v = clamp v := by
  rw [Function.iterate_succ_apply]
  exact Function.iterate_fixed (clamp_clamp v) k

theorem clamp_eq_min_iff {v : ℕ} (hv : v ≠ noTimer) : toInt32 (clamp v) = (min MAX_TIMEOUT v : ℕ) ↔
    v ≤ MAX_TIMEOUT ∨ (MAX_TIMEOUT : ℤ) ≤ toInt32 v := by
  rw [clamp, if_pos hv]
  by_cases hgt : (MAX_TIMEOUT : ℤ) < toInt32 v
  · rw [if_pos hgt, toInt32_max]
    refine iff_of_true ?_ (.inr hgt.le)
    have hle : MAX_TIMEOUT ≤ v := by
      by_contra hlt
      rw [not_le, MAX_TIMEOUT] at hlt
      rw [toInt32_natCast (by omega), MAX_TIMEOUT] at hgt
      omega
    rw [MAX_TIMEOUT] at *
    omega
  · rw [if_neg hgt]
    by_cases hle : v ≤ MAX_TIMEOUT
    · have hcast : toInt32 v = v := toInt32_natCast (by rw [MAX_TIMEOUT] at hle; omega)
      rw [hcast]
      exact iff_of_true (by omega) (.inl hle)
    · rw [or_iff_right hle]
      rw [MAX_TIMEOUT] at *
      omega

/-! ## Turns -/

variable {t : Turn C}

/-- **Where `stopping()` is false the loop does not wait.** -/
theorem timeout_busy (h : stopping t.manager t.load t.now = false) (k : ℕ) : t.timeout k = some 0 := by
  rw [Turn.timeout, Turn.nextTimeout, if_neg (by simp [h]), Option.map_some, iterate_clamp]
  rfl

/-- **The timeouts of a turn that does not exit are right** exactly if a timer is due, or another thread
    has added a timer since `stopping()` was true, and the cast to `int` does no harm. -/
theorem waitsRight_iff (hinv : Inv t.manager) (hlater : Inv t.later) (hstays : t.nextTimeout ≠ none) :
    t.Right ↔ t.Lucky := by
  rw [Turn.Right, Turn.Lucky, Turn.last]
  by_cases hstop : stopping t.manager t.load t.now = true
  · have hne : ticks t.later t.laterNow ≠ noTimer := fun hnone => by
      rw [Turn.nextTimeout, if_pos hstop] at hstays
      exact hstays (if_pos hnone)
    have htimeout (k : ℕ) : t.timeout k = some (toInt32 (clamp (ticks t.later t.laterNow))) := by
      rw [Turn.timeout, Turn.nextTimeout, if_pos hstop]
      simp only [if_neg hne, Option.map_some, iterate_clamp]
    simp only [if_pos hstop, htimeout, Option.some.injEq, waitsRight_iff_eq hlater]
    rw [← clamp_eq_min_iff hne]
    exact ⟨fun h => h 0 _ rfl, fun h _ _ he => he ▸ h⟩
  · have htimeout := timeout_busy (t := t) (by simpa using hstop)
    simp only [if_neg hstop, htimeout, Option.some.injEq, waitsRight_iff_eq hinv]
    rw [← ticks_eq_zero_iff hinv, MAX_TIMEOUT]
    constructor
    · intro h
      have hmin := h 0 _ rfl
      omega
    · rintro hzero - _ rfl
      rw [hzero]
      rfl

/-- A timer of 10 ms was added at 0. -/
def added : TimerManager ℕ := (addTimer (TimerManager.new ℕ 0) 10 (some 7) false 0 0).2

/-- There are tasks. -/
def busy : Load := ⟨0, false, false, 3, 1⟩

/-- The timer is due. -/
theorem waitsRight_added : Turn.Right ⟨added, busy, 10, added, 10⟩ := by
  have hinv : Inv added := by
    obtain ⟨heap, front, l', -, hret, hord, -⟩ :=
      @addTimer_ret _ _ (inv_new ℕ 0) 10 (some 7) false 0 0 fun _ hj => (nomatch hj)
    rw [added, hret]
    exact hord
  exact (waitsRight_iff hinv hinv (by decide)).2 ⟨0, by decide, by decide⟩

/-- **There is no timer, and the loop does not wait.** -/
theorem not_waitsRight : ¬∀ (C : Type) (t : Turn C), Inv t.manager → Inv t.later →
    t.nextTimeout ≠ none → t.Right := by
  intro h
  have hright := h ℕ ⟨TimerManager.new ℕ 0, busy, 0, TimerManager.new ℕ 0, 0⟩ (inv_new ℕ 0) (inv_new ℕ 0)
    (by decide)
  exact absurd (hright 0 0 (timeout_busy rfl 0)).timeout_eq (by decide)

end Ancfl.Idle
