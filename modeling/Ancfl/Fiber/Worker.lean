/-
  `WorkerGroup`.

  * `Counted`: a `FiberSemaphore` with what it has granted and been notified of;
    `granted_of_run` is what holds of them whoever uses the semaphore;
  * `Group`: a `WorkerGroup` with its calls and the fibers of `doWork`, each of
    which is a task. Each operation of the semaphore and each access to
    `m_finish` is one step;
  * `Inv`: the permits, with the slots that tasks have, are `m_batchSize`;
    `Calm`: no callback has thrown, and at most one `waitAll` takes slots;
  * `slots_of_run`: as long as no callback throws, and no `waitAll` tests
    `m_finish` before another one sets it, every slot is given back and every
    `waitAll` can complete.
-/
import Ancfl.Fiber.Semaphore
import Ancfl.Lib.Pool
import Ancfl.Lib.Run

namespace Ancfl.Worker

open Lib

/-! ## The semaphore -/

/-- `granted` are the waits that have got a permit, from the counter or from a `notify`. -/
structure Counted where
  sem : FiberSemaphore
  granted : ℕ
  notifies : ℕ

/-- An operation of a semaphore, and who calls it. -/
inductive Op
  | wait (fiber : ℕ)
  | tryWait (fiber : ℕ)
  | notify (fiber : ℕ)

namespace Counted

def next (s : Counted) : Op → Counted
  | .wait fiber => { s with
      sem := (s.sem.wait fiber).1, granted := s.granted + (s.sem.wait fiber).2.toNat }
  | .tryWait _ => { s with sem := s.sem.tryWait.1, granted := s.granted + s.sem.tryWait.2.toNat }
  | .notify _ => { s with
      sem := s.sem.notify.1
      granted := s.granted + s.sem.notify.2.toList.length
      notifies := s.notifies + 1 }

/-- A fiber that is in the queue makes no call. -/
def step (s : Counted) (op : Op) (s' : Counted) : Prop :=
  (match op with
    | .wait fiber | .tryWait fiber | .notify fiber => fiber ∉ s.sem.m_waiters) ∧ s' = s.next op

/-- There are waiters only where there is no permit, and every permit is accounted for. -/
structure Balanced (initial : ℕ) (s : Counted) : Prop where
  zero : s.sem.m_waiters ≠ [] → s.sem.m_concurrency = 0
  count : s.granted + s.sem.m_concurrency = initial + s.notifies

variable {initial : ℕ} {s s' : Counted}

theorem Balanced.next (h : Balanced initial s) (op : Op) : Balanced initial (s.next op) := by
  obtain ⟨⟨m_concurrency, m_waiters⟩, granted, notifies⟩ := s
  obtain ⟨hzero, hcount⟩ := h
  dsimp only at hzero hcount
  cases op with
  | wait fiber =>
    by_cases hpos : 0 < m_concurrency
    · simp only [Counted.next, FiberSemaphore.wait, if_pos hpos, Bool.toNat_true]
      refine ⟨fun hne => absurd (hzero hne) hpos.ne', ?_⟩
      dsimp only
      omega
    · simp only [Counted.next, FiberSemaphore.wait, if_neg hpos, Bool.toNat_false]
      exact ⟨fun _ => Nat.eq_zero_of_not_pos hpos, hcount⟩
  | tryWait =>
    by_cases hpos : 0 < m_concurrency
    · simp only [Counted.next, FiberSemaphore.tryWait, if_pos hpos, Bool.toNat_true]
      refine ⟨fun hne => absurd (hzero hne) hpos.ne', ?_⟩
      dsimp only
      omega
    · simp only [Counted.next, FiberSemaphore.tryWait, if_neg hpos, Bool.toNat_false]
      exact ⟨hzero, hcount⟩
  | notify =>
    cases m_waiters with
    | nil =>
      refine ⟨fun hne => absurd rfl hne, ?_⟩
      simp only [Counted.next, FiberSemaphore.notify, Option.toList_none, List.length_nil]
      omega
    | cons fiber rest =>
      have hempty : m_concurrency = 0 := hzero (List.cons_ne_nil fiber rest)
      refine ⟨fun _ => hempty, ?_⟩
      simp only [Counted.next, FiberSemaphore.notify, Option.toList_some, List.length_singleton]
      omega

theorem granted_of_run {ops : List Op} (hrun : Run step ⟨⟨initial, []⟩, 0, 0⟩ ops s) :
    Balanced initial s := by
  refine hrun.invariant (fun s op s' h hstep => ?_) ⟨fun hne => absurd rfl hne, Nat.add_comm _ _⟩
  obtain ⟨-, rfl⟩ := hstep
  exact h.next op

end Counted

/-! ## The group -/

/-- Where a call of `schedule` or `waitAll`, or a `doWork`, is. -/
inductive Task
  /-- `schedule` at `m_sem.wait()` -/
  | schedule
  | scheduleWaiting
  /-- at `m_scheduler->schedule(..)` -/
  | submit
  /-- `doWork` at `cb()` -/
  | callback
  /-- at `m_sem.notify()` -/
  | notify
  /-- `doWork` after its `cb()` has thrown -/
  | thrown
  /-- `waitAll` at its test of `m_finish` -/
  | waitAll
  | setFinish
  /-- at its loop, with as many slots -/
  | wait (slots : ℕ)
  | waitWaiting (slots : ℕ)
  /-- past its loop -/
  | waited (slots : ℕ)
  | done
deriving DecidableEq

structure Group where
  m_batchSize : ℕ
  m_finish : Bool
  m_sem : FiberSemaphore
  tasks : List Task

inductive Label
  | schedule
  | waitAll
  /-- the next step of the `n`-th task; whether its callback throws -/
  | run (n : ℕ) (throws : Bool)

/-- Where a `wait` returns to. -/
def Task.woken : Task → Task
  | scheduleWaiting => submit
  | waitWaiting slots => wait (slots + 1)
  | t => t

def wake (tasks : List Task) : Option ℕ → List Task
  | none => tasks
  | some f => tasks.modify f Task.woken

namespace Group

def create (batch_size : ℕ) : Group where
  m_batchSize := batch_size
  m_finish := false
  m_sem := ⟨batch_size, []⟩
  tasks := []

def goto (s : Group) (n : ℕ) (t : Task) : Group := { s with tasks := s.tasks.set n t }

/-- `m_sem.wait()` of a task that waits at `t`. -/
def wait (s : Group) (n : ℕ) (t : Task) : Group :=
  { s.goto n (if (s.m_sem.wait n).2 then t.woken else t) with m_sem := (s.m_sem.wait n).1 }

/-- `m_sem.notify()` -/
def notify (s : Group) : Group :=
  { s with m_sem := s.m_sem.notify.1, tasks := wake s.tasks s.m_sem.notify.2 }

/-- The next step of a task. -/
def runTask (s : Group) (n : ℕ) (throws : Bool) : Task → Option Group
  | .schedule => some (s.wait n .scheduleWaiting)
  | .submit => some { s with tasks := s.tasks.set n .done ++ [.callback] }
  | .callback => some (s.goto n (if throws then .thrown else .notify))
  | .notify => some (s.goto n .done).notify
  | .waitAll => some (s.goto n (if s.m_finish then .done else .setFinish))
  | .setFinish => some { s.goto n (.wait 0) with m_finish := true }
  | .wait slots =>
    some (if slots < s.m_batchSize then s.wait n (.waitWaiting slots) else s.goto n (.waited slots))
  | .scheduleWaiting | .waitWaiting _ | .thrown | .waited _ | .done => none

def next (s : Group) : Label → Option Group
  | .schedule => some { s with tasks := s.tasks ++ [.schedule] }
  | .waitAll => some { s with tasks := s.tasks ++ [.waitAll] }
  | .run n throws => s.tasks[n]?.bind (s.runTask n throws)

def step (s : Group) (l : Label) (s' : Group) : Prop := s.next l = some s'

/-! ## What is to hold -/

/-- A callback returns, and a `waitAll` does not test `m_finish` where another one has and is to set
    it. -/
def Steady (s : Group) (l : Label) : Prop :=
  ∀ n throws, l = .run n throws →
    (s.tasks[n]? = some .callback → throws = false) ∧
    (s.tasks[n]? = some .waitAll → .setFinish ∉ s.tasks)

end Group

/-- The slots that are still to be given back, or that `waitAll` has. -/
def Task.slots : Task → ℕ
  | submit | callback | notify => 1
  | wait slots | waitWaiting slots | waited slots => slots
  | schedule | scheduleWaiting | thrown | waitAll | setFinish | done => 0

/-- In a `waitAll` that has not returned. -/
def Task.inWaitAll : Task → Bool
  | waitAll | setFinish | wait _ | waitWaiting _ => true
  | _ => false

namespace Group

/-- Every slot is free or somebody has it. -/
def SlotsBack (s : Group) : Prop := s.m_sem.m_concurrency + tally Task.slots s.tasks = s.m_batchSize

/-- When nobody calls `schedule` any more and the callbacks return, every `waitAll` can return. -/
def Completes (s : Group) : Prop :=
  ∃ ls s', Run (fun s l s' => (∃ n, l = .run n false) ∧ step s l s') s ls s' ∧
    ∀ t ∈ s'.tasks, t.inWaitAll = false

/-- What a group promises. -/
structure Keeps (s : Group) : Prop where
  unfinished : s.tasks.count .callback ≤ s.m_batchSize
  slotsBack : s.SlotsBack
  completes : s.Completes

end Group

/-! ## Slots -/

/-- A thrown callback keeps its slot. -/
def Task.hold : Task → ℕ
  | thrown => 1
  | t => t.slots

/-- Past its test of `m_finish`. -/
def Task.leads : Task → ℕ
  | setFinish | wait _ | waitWaiting _ | waited _ => 1
  | _ => 0

/-- In `m_waiters`. -/
def Task.waiting : Task → Bool
  | scheduleWaiting | waitWaiting _ => true
  | _ => false

theorem Task.woken_of_waiting {t : Task} (h : t.waiting) :
    t.woken.hold = t.hold + 1 ∧ t.woken.leads = t.leads ∧ t.woken.waiting = false ∧
      t.woken ≠ .thrown ∧ t ≠ .setFinish := by
  cases t <;> first | exact ⟨rfl, rfl, rfl, nofun, nofun⟩ | cases h

/-- The permits, with the slots that tasks have, are `m_batchSize`. -/
structure Inv (s : Group) : Prop where
  permits : s.m_sem.m_concurrency + tally Task.hold s.tasks = s.m_batchSize
  waits : s.m_sem.Waits (IsAt s.tasks Task.waiting)

theorem create_inv (batch_size : ℕ) : Inv (Group.create batch_size) where
  permits := rfl
  waits := ⟨List.nodup_nil, fun h => absurd rfl h, fun n => by simp [Group.create]⟩

section
variable {s s' : Group} {n : ℕ} {t t' : Task} {throws : Bool}

/-- A task goes on that neither waits nor notifies. -/
theorem Inv.goto (hinv : Inv s) (hn : s.tasks[n]? = some t) (hhold : t'.hold = t.hold)
    (hwaiting : t'.waiting = t.waiting) : Inv (s.goto n t') where
  permits := by
    have hset := tally_set Task.hold hn t'
    have hpermits := hinv.permits
    simp only [Group.goto]
    omega
  waits := hinv.waits.congr fun _ => isAt_set_of_eq hn hwaiting

theorem Inv.append (hinv : Inv s) (ht : t.hold = 0) (hwaiting : t.waiting = false) :
    Inv { s with tasks := s.tasks ++ [t] } where
  permits := by
    have hpermits := hinv.permits
    simp only [tally_append, tally_cons, tally_nil, ht]
    exact hpermits
  waits := hinv.waits.congr fun _ => isAt_append fun u hu => by rw [List.mem_singleton.1 hu, hwaiting]

theorem Inv.wait (hinv : Inv s) (hn : s.tasks[n]? = some t) (hrun : t.waiting = false)
    (hwaiting : t'.waiting) (hhold : t'.hold = t.hold) : Inv (s.wait n t') := by
  have hpermits := hinv.permits
  obtain ⟨hwoken, -, hruns, -, -⟩ := Task.woken_of_waiting hwaiting
  have hfree : ¬IsAt s.tasks Task.waiting n := by simp [isAt_iff hn, hrun]
  unfold Group.wait
  rcases hinv.waits.wait hfree with ⟨hgo, hcount, hwaits⟩ | ⟨hwait, hzero, hzero', hwaits⟩
  · have hset := tally_set Task.hold hn t'.woken
    refine ⟨?_, hwaits.congr fun m => ?_⟩
    · simp only [Group.goto, if_pos hgo]
      omega
    · simp only [Group.goto, if_pos hgo]
      exact isAt_set_of_eq hn (hruns.trans hrun.symm)
  · have hset := tally_set Task.hold hn t'
    refine ⟨?_, hwaits.congr fun m => ?_⟩
    · simp only [Group.goto, hwait, Bool.false_eq_true, if_false]
      omega
    · simp only [Group.goto, hwait, Bool.false_eq_true, if_false, isAt_set hn]
      split_ifs with hm
      · exact iff_of_true hwaiting (.inr hm)
      · exact (or_iff_left hm).symm

/-- A slot is given back that the task had. -/
theorem Inv.notify (hinv : Inv s) (hn : s.tasks[n]? = some .notify) :
    Inv (s.goto n .done).notify := by
  have hpermits := hinv.permits
  have hset := tally_set Task.hold hn .done
  have hwaits : s.m_sem.Waits (IsAt (s.tasks.set n .done) Task.waiting) :=
    hinv.waits.congr fun _ => isAt_set_of_eq hn rfl
  simp only [Task.hold, Task.slots] at hset
  unfold Group.notify
  rcases hwaits.notify with ⟨hnone, hcount, hwaits⟩ | ⟨f, hsome, ⟨u, hf, hu⟩, hcount, hwaits⟩
  · refine ⟨?_, ?_⟩
    · simp only [Group.goto, hnone, wake]
      omega
    · simpa only [Group.goto, hnone, wake] using hwaits
  · obtain ⟨hwoken, -, hruns, -, -⟩ := Task.woken_of_waiting hu
    have hset' := tally_set Task.hold hf u.woken
    refine ⟨?_, hwaits.congr fun m => ?_⟩
    · simp only [Group.goto, hsome, wake, modify_eq_set hf]
      omega
    · simp only [Group.goto, hsome, wake, modify_eq_set hf, isAt_set hf, hruns]
      split_ifs with hm
      · exact iff_of_false id fun h => h.2 hm
      · exact (and_iff_left hm).symm

theorem runTask_inv (hinv : Inv s) (hn : s.tasks[n]? = some t)
    (h : s.runTask n throws t = some s') : Inv s' := by
  cases t
  case schedule =>
    cases h
    exact hinv.wait hn rfl rfl rfl
  case submit =>
    cases h
    have hdone := tally_set Task.hold hn .done
    refine ⟨?_, hinv.waits.congr fun m => ?_⟩
    · have hpermits := hinv.permits
      simp only [Task.hold, Task.slots, tally_append, tally_cons, tally_nil] at hdone ⊢
      omega
    · rw [isAt_append fun u hu => by rw [List.mem_singleton.1 hu]; rfl]
      exact isAt_set_of_eq hn rfl
  case callback =>
    cases h
    cases throws
    · exact hinv.goto hn rfl rfl
    · exact hinv.goto hn rfl rfl
  case notify =>
    cases h
    exact hinv.notify hn
  case waitAll =>
    cases h
    split_ifs <;> exact hinv.goto hn rfl rfl
  case setFinish =>
    cases h
    obtain ⟨hpermits, hwaits⟩ := hinv.goto hn (show (Task.wait 0).hold = _ from rfl) rfl
    exact ⟨hpermits, hwaits⟩
  case wait slots =>
    cases h
    split_ifs
    · exact hinv.wait hn rfl rfl rfl
    · exact hinv.goto hn rfl rfl
  all_goals cases h

theorem step_inv {l : Label} (hinv : Inv s) (h : s.step l s') : Inv s' := by
  cases l with
  | schedule =>
    cases h
    exact hinv.append rfl rfl
  | waitAll =>
    cases h
    exact hinv.append rfl rfl
  | run n throws =>
    obtain ⟨t, hn, h⟩ := Option.bind_eq_some_iff.1 h
    exact runTask_inv hinv hn h

theorem Inv.unfinished (hinv : Inv s) : s.tasks.count .callback ≤ s.m_batchSize := by
  have hle : s.tasks.count .callback ≤ tally Task.hold s.tasks := count_le_tally le_rfl
  have hpermits := hinv.permits
  omega

theorem tally_hold (tasks : List Task) :
    tally Task.hold tasks = tally Task.slots tasks + tasks.count .thrown := by
  induction tasks with
  | nil => rfl
  | cons u tasks ih =>
    have hu : u.hold = u.slots + if u == .thrown then 1 else 0 := by cases u <;> rfl
    rw [tally_cons, tally_cons, List.count_cons, ih, hu]
    omega

/-- A slot is lost where a callback throws, and nowhere else. -/
theorem Inv.slotsBack_iff (hinv : Inv s) : s.SlotsBack ↔ .thrown ∉ s.tasks := by
  have hpermits := hinv.permits
  rw [tally_hold] at hpermits
  rw [Group.SlotsBack, ← List.count_eq_zero]
  omega

end

/-! ## Calm groups -/

/-- No callback has thrown, and one `waitAll` at most takes slots. -/
structure Calm (batch_size : ℕ) (finish : Bool) (tasks : List Task) : Prop where
  thrown : .thrown ∉ tasks
  one : tally Task.leads tasks ≤ 1
  first : finish = false → ∀ t ∈ tasks, t.leads = 0 ∨ t = .setFinish
  below : ∀ slots, .waitWaiting slots ∈ tasks → slots < batch_size

section
variable {batch_size n m : ℕ} {finish finish' throws : Bool} {tasks : List Task} {t t' : Task}
  {s s' : Group}

theorem Calm.set (h : Calm batch_size finish tasks) (hn : tasks[n]? = some t)
    (hthrown : t' ≠ .thrown) (hleads : t'.leads ≤ t.leads)
    (hfinish : finish' = true ∨ (finish' = finish ∧ t ≠ .setFinish))
    (hbelow : ∀ slots, t' = .waitWaiting slots → slots < batch_size) :
    Calm batch_size finish' (tasks.set n t') where
  thrown hmem := (List.mem_or_eq_of_mem_set hmem).elim h.thrown hthrown.symm
  one := by
    have hset := tally_set Task.leads hn t'
    have hone := h.one
    omega
  first hfalse u hu := by
    rcases hfinish with rfl | ⟨rfl, hne⟩
    · cases hfalse
    · rcases List.mem_or_eq_of_mem_set hu with hu | rfl
      · exact h.first hfalse u hu
      · left
        have hzero := (h.first hfalse t (List.mem_of_getElem? hn)).resolve_right hne
        omega
  below slots hmem := (List.mem_or_eq_of_mem_set hmem).elim (h.below slots) fun heq =>
    hbelow slots heq.symm

theorem Calm.append (h : Calm batch_size finish tasks) (hthrown : t ≠ .thrown)
    (hleads : t.leads = 0) : Calm batch_size finish (tasks ++ [t]) where
  thrown hmem := (List.mem_append.1 hmem).elim h.thrown fun hu => hthrown (List.mem_singleton.1 hu).symm
  one := by
    rw [tally_append, tally_cons, tally_nil, hleads]
    exact h.one
  first hfalse u hu := (List.mem_append.1 hu).elim (h.first hfalse u) fun hu =>
    .inl (List.mem_singleton.1 hu ▸ hleads)
  below slots hmem := (List.mem_append.1 hmem).elim (h.below slots) fun hu => by
    rw [← List.mem_singleton.1 hu] at hleads
    cases hleads

/-- The first `waitAll` is to take the slots. -/
theorem Calm.enter (h : Calm batch_size false tasks) (hn : tasks[n]? = some .waitAll)
    (hfree : .setFinish ∉ tasks) : Calm batch_size false (tasks.set n .setFinish) where
  thrown hmem := (List.mem_or_eq_of_mem_set hmem).elim h.thrown nofun
  one := by
    have hzero : tally Task.leads tasks = 0 := tally_eq_zero.2 fun u hu =>
      (h.first rfl u hu).resolve_right fun heq => hfree (heq ▸ hu)
    have hset := tally_set Task.leads hn .setFinish
    simp only [Task.leads] at hset
    omega
  first _ u hu := (List.mem_or_eq_of_mem_set hu).imp (fun hu =>
    (h.first rfl u hu).resolve_right fun heq => hfree (heq ▸ hu)) id
  below slots hmem := (List.mem_or_eq_of_mem_set hmem).elim (h.below slots) nofun

/-- A task goes on to its `wait`. -/
theorem Calm.wait (h : Calm s.m_batchSize s.m_finish s.tasks) (hn : s.tasks[n]? = some t)
    (hwaiting : t'.waiting) (hleads : t'.leads = t.leads) (hne : t ≠ .setFinish)
    (hbelow : ∀ slots, t' = .waitWaiting slots → slots < s.m_batchSize) :
    Calm s.m_batchSize s.m_finish (s.wait n t').tasks := by
  obtain ⟨-, hwoken, hruns, hthrown, -⟩ := Task.woken_of_waiting hwaiting
  unfold Group.wait Group.goto
  dsimp only
  split_ifs
  · refine h.set hn hthrown (hwoken.trans hleads).le (.inr ⟨rfl, hne⟩) fun slots heq => ?_
    rw [heq] at hruns
    cases hruns
  · refine h.set hn ?_ hleads.le (.inr ⟨rfl, hne⟩) hbelow
    rintro rfl
    cases hwaiting

/-- A waiting task goes on. -/
theorem Calm.wake (h : Calm batch_size finish tasks) {next : Option ℕ}
    (hnext : ∀ f, next = some f → IsAt tasks Task.waiting f) :
    Calm batch_size finish (wake tasks next) := by
  cases next with
  | none => exact h
  | some f =>
    obtain ⟨u, hf, hu⟩ := hnext f rfl
    obtain ⟨-, hwoken, hruns, hthrown, hne⟩ := Task.woken_of_waiting hu
    rw [Worker.wake, modify_eq_set hf]
    refine h.set hf hthrown hwoken.le (.inr ⟨rfl, hne⟩) fun slots heq => ?_
    rw [heq] at hruns
    cases hruns

/-- Who is notified is waiting. -/
theorem Inv.waiting_of_notify (hinv : Inv s) (hn : s.tasks[n]? = some .notify) {f : ℕ}
    (hf : s.m_sem.notify.2 = some f) : IsAt (s.tasks.set n .done) Task.waiting f := by
  have hsame : Task.waiting .done = Task.waiting .notify := rfl
  rcases hinv.waits.notify with ⟨hnone, -, -⟩ | ⟨g, hsome, hg, -, -⟩
  · rw [hnone] at hf
    cases hf
  · rw [hsome] at hf
    cases hf
    exact (isAt_set_of_eq hn hsame).2 hg

theorem runTask_calm (hinv : Inv s) (h : Calm s.m_batchSize s.m_finish s.tasks)
    (hn : s.tasks[n]? = some t) (hsteady : s.Steady (.run n throws))
    (hstep : s.runTask n throws t = some s') : Calm s'.m_batchSize s'.m_finish s'.tasks := by
  obtain ⟨hreturns, hfree⟩ := hsteady n throws rfl
  have hdone {t : Task} (hn : s.tasks[n]? = some t) (hleads : Task.done.leads ≤ t.leads)
      (hne : t ≠ .setFinish) : Calm s.m_batchSize s.m_finish (s.tasks.set n .done) :=
    h.set hn nofun hleads (.inr ⟨rfl, hne⟩) nofun
  cases t
  case schedule =>
    cases hstep
    exact h.wait hn rfl rfl nofun nofun
  case submit =>
    cases hstep
    exact (hdone hn le_rfl nofun).append nofun rfl
  case callback =>
    cases hreturns hn
    cases hstep
    exact h.set hn nofun le_rfl (.inr ⟨rfl, nofun⟩) nofun
  case notify =>
    cases hstep
    exact (hdone hn le_rfl nofun).wake fun f hf => hinv.waiting_of_notify hn hf
  case waitAll =>
    cases hstep
    unfold Group.goto
    dsimp only
    cases hfinish : s.m_finish with
    | true =>
      rw [hfinish] at h
      exact h.set hn nofun le_rfl (.inl rfl) nofun
    | false =>
      rw [hfinish] at h
      exact h.enter hn (hfree hn)
  case setFinish =>
    cases hstep
    exact h.set hn nofun le_rfl (.inl rfl) nofun
  case wait slots =>
    cases hstep
    split_ifs with hlt
    · refine h.wait hn rfl rfl nofun fun slots' heq => ?_
      cases heq
      exact hlt
    · exact h.set hn nofun le_rfl (.inr ⟨rfl, nofun⟩) nofun
  all_goals cases hstep

theorem step_calm {l : Label} (hinv : Inv s) (h : Calm s.m_batchSize s.m_finish s.tasks)
    (hsteady : s.Steady l) (hstep : s.step l s') : Calm s'.m_batchSize s'.m_finish s'.tasks := by
  cases l with
  | schedule =>
    cases hstep
    exact h.append nofun rfl
  | waitAll =>
    cases hstep
    exact h.append nofun rfl
  | run n throws =>
    obtain ⟨t, hn, hstep⟩ := Option.bind_eq_some_iff.1 hstep
    exact runTask_calm hinv h hn hsteady hstep

/-! ## The end of a `waitAll` -/

/-- A bound of the steps that a task can still make, a new one among them. -/
def Task.rest (batch_size : ℕ) : Task → ℕ
  | schedule => 5
  | scheduleWaiting => 4
  | submit => 3
  | callback => 2
  | notify => 1
  | waitAll => 2 * batch_size + 4
  | setFinish => 2 * batch_size + 3
  | wait slots => 2 * (batch_size - slots) + 2
  | waitWaiting slots => 2 * (batch_size - slots) + 1
  | thrown | waited _ | done => 0

def Group.rest (s : Group) : ℕ := tally (Task.rest s.m_batchSize) s.tasks

theorem rest_goto (hn : s.tasks[n]? = some t) (hlt : t'.rest s.m_batchSize < t.rest s.m_batchSize) :
    (s.goto n t').rest < s.rest := by
  have hset := tally_set (Task.rest s.m_batchSize) hn t'
  simp only [Group.rest, Group.goto]
  omega

theorem rest_wait (hn : s.tasks[n]? = some t) (hlt : t'.rest s.m_batchSize < t.rest s.m_batchSize)
    (hwoken : t'.woken.rest s.m_batchSize < t.rest s.m_batchSize) : (s.wait n t').rest < s.rest := by
  unfold Group.wait
  split_ifs
  · exact rest_goto hn hwoken
  · exact rest_goto hn hlt

theorem rest_woken (h : t.waiting) (hbelow : ∀ slots, t = .waitWaiting slots → slots < batch_size) :
    t.woken.rest batch_size < t.rest batch_size := by
  cases t
  case scheduleWaiting => exact Nat.lt_succ_self 3
  case waitWaiting slots =>
    have hlt := hbelow slots rfl
    simp only [Task.woken, Task.rest]
    omega
  all_goals cases h

theorem rest_notify (hinv : Inv s) (h : Calm s.m_batchSize s.m_finish s.tasks)
    (hn : s.tasks[n]? = some .notify) : (s.goto n .done).notify.rest < s.rest := by
  have hdone : (s.goto n .done).rest < s.rest := rest_goto hn Nat.zero_lt_one
  unfold Group.notify
  cases hnext : (s.goto n .done).m_sem.notify.2 with
  | none => exact hdone
  | some f =>
    obtain ⟨u, hf, hu⟩ := hinv.waiting_of_notify hn hnext
    have hmem : u ∈ s.tasks := by
      rcases List.mem_or_eq_of_mem_set (List.mem_of_getElem? hf) with hmem | rfl
      · exact hmem
      · cases hu
    have hlt := rest_woken hu fun slots heq => h.below slots (heq ▸ hmem)
    refine lt_trans ?_ hdone
    simp only [Group.rest, wake, Group.goto] at hf ⊢
    rw [modify_eq_set hf]
    have hset := tally_set (Task.rest s.m_batchSize) hf u.woken
    omega

/-- Every task can make a step that has not come to its end and does not wait. -/
theorem runTask_rest (hinv : Inv s) (h : Calm s.m_batchSize s.m_finish s.tasks)
    (hn : s.tasks[n]? = some t) (hpos : 0 < t.rest s.m_batchSize) (hruns : t.waiting = false) :
    ∃ s', s.runTask n false t = some s' ∧ s'.rest < s.rest := by
  cases t
  case schedule =>
    exact ⟨_, rfl, rest_wait hn (Nat.lt_succ_self 4) (Nat.lt_of_sub_eq_succ rfl)⟩
  case submit =>
    refine ⟨_, rfl, ?_⟩
    have hset := tally_set (Task.rest s.m_batchSize) hn .done
    simp only [Group.rest, tally_append, tally_cons, tally_nil, Task.rest] at hset ⊢
    omega
  case callback => exact ⟨_, rfl, rest_goto hn (Nat.lt_succ_self 1)⟩
  case notify => exact ⟨_, rfl, rest_notify hinv h hn⟩
  case waitAll =>
    refine ⟨_, rfl, rest_goto hn ?_⟩
    split_ifs
    · exact hpos
    · exact Nat.lt_succ_self _
  case setFinish => exact ⟨_, rfl, rest_goto hn (Nat.lt_succ_self _)⟩
  case wait slots =>
    refine ⟨_, rfl, ?_⟩
    split_ifs with hlt
    · refine rest_wait hn (Nat.lt_succ_self _) ?_
      simp only [Task.woken, Task.rest]
      omega
    · exact rest_goto hn hpos
  case scheduleWaiting => cases hruns
  case waitWaiting => cases hruns
  all_goals exact absurd hpos (Nat.lt_irrefl 0)

/-- Where every task waits or has come to its end no `waitAll` waits. -/
theorem Calm.waited (hinv : Inv s) (h : Calm s.m_batchSize s.m_finish s.tasks)
    (hstuck : ∀ t ∈ s.tasks, t.waiting ∨ t.rest s.m_batchSize = 0) (ht : t ∈ s.tasks) :
    t.inWaitAll = false := by
  by_contra hin
  obtain ⟨slots, rfl⟩ : ∃ slots, t = .waitWaiting slots := by
    have hcase := hstuck t ht
    cases t <;> simp_all [Task.inWaitAll, Task.waiting, Task.rest]
  obtain ⟨n, hn⟩ := List.mem_iff_getElem?.1 ht
  have hzero : s.m_sem.m_concurrency = 0 := hinv.waits.eq_zero ⟨_, hn, rfl⟩
  have hothers : ∀ u ∈ s.tasks.eraseIdx n, u.hold = 0 := by
    intro u hu
    have hmem : u ∈ s.tasks := (mem_iff_of_getElem? hn).2 (.inr hu)
    have hone := h.one
    rw [← tally_eraseIdx _ hn] at hone
    have hleads : u.leads = 0 := by
      have hle : u.leads ≤ tally Task.leads (s.tasks.eraseIdx n) := le_tally hu
      simp only [Task.leads] at hone hle ⊢
      omega
    have hcase := hstuck u hmem
    cases u
    case thrown => exact absurd hmem h.thrown
    all_goals simp_all [Task.hold, Task.slots, Task.waiting, Task.rest, Task.leads]
  have hpermits := hinv.permits
  rw [hzero, ← tally_eraseIdx _ hn, tally_eq_zero.2 hothers] at hpermits
  have hlt := h.below slots ht
  simp only [Task.hold, Task.slots] at hpermits
  omega

/-- As long as a `waitAll` has not returned some task can go on; whoever is to set `m_finish` goes
    first. -/
theorem Calm.progress (hinv : Inv s) (h : Calm s.m_batchSize s.m_finish s.tasks)
    (hin : ¬∀ t ∈ s.tasks, t.inWaitAll = false) : ∃ l s', ((∃ n, l = .run n false) ∧ s.step l s') ∧
      (Inv s' ∧ Calm s'.m_batchSize s'.m_finish s'.tasks) ∧ s'.rest < s.rest := by
  obtain ⟨n, t, hn, hpos, hruns, hfree⟩ : ∃ (n : ℕ) (t : Task), s.tasks[n]? = some t ∧ 0 < t.rest s.m_batchSize ∧
      t.waiting = false ∧ (t = .waitAll → .setFinish ∉ s.tasks) := by
    by_cases hset : .setFinish ∈ s.tasks
    · obtain ⟨n, hn⟩ := List.mem_iff_getElem?.1 hset
      exact ⟨n, _, hn, Nat.succ_pos _, rfl, nofun⟩
    · by_contra hstuck
      refine hin fun t ht => h.waited hinv (fun u hu => ?_) ht
      by_contra hu'
      rw [not_or, Bool.not_eq_true] at hu'
      obtain ⟨n, hn⟩ := List.mem_iff_getElem?.1 hu
      exact hstuck ⟨n, u, hn, Nat.pos_of_ne_zero hu'.2, hu'.1, fun _ => hset⟩
  obtain ⟨s', hs', hlt⟩ := runTask_rest hinv h hn hpos hruns
  have hstep : s.step (.run n false) s' := by
    rw [Group.step, Group.next, hn]
    exact hs'
  refine ⟨.run n false, s', ⟨⟨n, rfl⟩, hstep⟩, ⟨step_inv hinv hstep, ?_⟩, hlt⟩
  refine step_calm hinv h (fun m throws heq => ?_) hstep
  cases heq
  exact ⟨fun _ => rfl, fun hm => hfree (Option.some.inj (hn.symm.trans hm))⟩

theorem completes_of_calm (hinv : Inv s) (h : Calm s.m_batchSize s.m_finish s.tasks) :
    s.Completes := by
  obtain ⟨ls, s', hrun, -, hend⟩ := Run.exists_of_measure Group.rest
    (fun _ (h : Inv _ ∧ Calm _ _ _) hin => h.2.progress h.1 hin) ⟨hinv, h⟩
  exact ⟨ls, s', hrun, hend⟩

theorem create_calm (batch_size : ℕ) :
    Calm batch_size false (Group.create batch_size).tasks :=
  ⟨nofun, Nat.zero_le 1, nofun, nofun⟩

/-- **Permits are neither made nor lost**, whoever uses the semaphore. A group has `m_batchSize`
    callbacks at most that have not ended, and a slot is lost exactly where a callback throws. As
    long as none throws, and no `waitAll` tests `m_finish` before another one sets it, every slot is
    given back and every `waitAll` can complete. -/
theorem slots_of_run (initial batch_size : ℕ) :
    (∀ (ops : List Op) (s : Counted),
      Run Counted.step ⟨⟨initial, []⟩, 0, 0⟩ ops s → s.Balanced initial) ∧
    (∀ (ls : List Label) (s : Group), Run Group.step (Group.create batch_size) ls s →
      s.tasks.count .callback ≤ s.m_batchSize ∧ (s.SlotsBack ↔ .thrown ∉ s.tasks)) ∧
    ∀ (ls : List Label) (s : Group),
      Run (fun s l s' => s.Steady l ∧ Group.step s l s') (Group.create batch_size) ls s →
        s.Keeps := by
  refine ⟨fun ops s hrun => Counted.granted_of_run hrun, fun ls s hrun => ?_, fun ls s hrun => ?_⟩
  · have hinv : Inv s :=
      hrun.invariant (P := Inv) (fun _ _ _ hinv h => step_inv hinv h) (create_inv batch_size)
    exact ⟨hinv.unfinished, hinv.slotsBack_iff⟩
  · obtain ⟨hinv, h⟩ := hrun.invariant
      (P := fun s => Inv s ∧ Calm s.m_batchSize s.m_finish s.tasks)
      (fun _ _ _ h hstep => ⟨step_inv h.1 hstep.2, step_calm h.1 h.2 hstep.1 hstep.2⟩)
      ⟨create_inv batch_size, create_calm batch_size⟩
    exact ⟨hinv.unfinished, hinv.slotsBack_iff.2 h.thrown, completes_of_calm hinv h⟩

/-- `waitAll` waits for a callback that has not ended. -/
def waiting : Group := ⟨1, true, ⟨0, [2]⟩, [.done, .callback, .waitWaiting 0]⟩

theorem slots_waiting : Run (fun s l s' => s.Steady l ∧ Group.step s l s') (Group.create 1)
    [.schedule, .run 0 false, .run 0 false, .waitAll, .run 2 false, .run 2 false, .run 2 false]
    waiting ∧ waiting.Keeps := by
  have hcall {s : Group} {l : Label} (h : ∀ n throws, l ≠ .run n throws) : s.Steady l :=
    fun n throws heq => absurd heq (h n throws)
  have hstep {s : Group} {n : ℕ} (h : s.tasks[n]? = some .waitAll → .setFinish ∉ s.tasks) :
      s.Steady (.run n false) := by
    rintro m throws heq
    cases heq
    exact ⟨fun _ => rfl, h⟩
  have hrun : Run (fun s l s' => s.Steady l ∧ Group.step s l s') (Group.create 1)
      [.schedule, .run 0 false, .run 0 false, .waitAll, .run 2 false, .run 2 false, .run 2 false]
      waiting :=
    .cons ⟨hcall nofun, rfl⟩ <| .cons ⟨hstep nofun, rfl⟩ <| .cons ⟨hstep nofun, rfl⟩ <|
      .cons ⟨hcall nofun, rfl⟩ <| .cons ⟨hstep fun _ => by decide, rfl⟩ <|
      .cons ⟨hstep nofun, rfl⟩ <| .cons ⟨hstep nofun, rfl⟩ <| .nil _
  exact ⟨hrun, (slots_of_run 0 1).2.2 _ _ hrun⟩

/-- The callback throws, and `waitAll` waits for its slot. -/
def stuck : Group := ⟨1, true, ⟨0, [2]⟩, [.done, .thrown, .waitWaiting 0]⟩

theorem slot_lost : Run Group.step (Group.create 1) [.schedule, .run 0 false, .run 0 false,
    .run 1 true, .waitAll, .run 2 false, .run 2 false, .run 2 false] stuck ∧
    ¬stuck.SlotsBack ∧ ¬stuck.Completes ∧ ¬stuck.Keeps := by
  have hcompletes : ¬stuck.Completes := by
    rintro ⟨ls, s', hrun, hend⟩
    cases hrun with
    | nil => exact Bool.noConfusion (hend (.waitWaiting 0) (by simp [stuck]))
    | cons hstep _ =>
      obtain ⟨⟨n, rfl⟩, hstep⟩ := hstep
      match n, hstep with
      | 0, hstep => cases hstep
      | 1, hstep => cases hstep
      | 2, hstep => cases hstep
      | n + 3, hstep => cases hstep
  refine ⟨.of_foldlM rfl, ?_, hcompletes, fun h => hcompletes h.completes⟩
  simp [Group.SlotsBack, stuck, Task.slots]

end

end Ancfl.Worker
