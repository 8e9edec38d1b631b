/-
  The tasks of the roles as events.

  * `Event`: a task of a role is accepted, counted, completed, submitted or
    abandoned; `Life` says what this does to the tasks of the role and which
    rewards are given. A task is completed when all its conditions are met;
  * `Ledger`: what the roles have and were given, and `Ledger.Step`;
  * `Calls.events`: a call of one of the six operations is a run of events.
    `AddTaskProgress` looks for completed tasks between two counts, so that it
    is one of many.
-/
import Ancfl.Game.Task
import Ancfl.Lib.Run

namespace Ancfl.Game.Task

open Lib

inductive Kind
  | accepted | counted | completed | submitted | abandoned
deriving DecidableEq

structure Event where
  role_id : BitVec 64
  task_config_id : ℤ
  kind : Kind
deriving DecidableEq

def TaskCondition.Met (condition : TaskCondition) : Prop :=
  condition.target_count ≤ condition.current_count

/-- What becomes of the tasks of a role, and the rewards that it is given. -/
inductive Life (c : ℤ) : Kind → List TaskInfo → List TaskInfo → List TaskInfo → Prop
  | accepted {l : List TaskInfo} {task : TaskInfo} (hnew : ∀ old ∈ l, old.task_config_id ≠ c)
      (hc : task.task_config_id = c) (hstatus : task.status = .ACCEPTED) :
      Life c .accepted l (l ++ [task]) []
  | counted {a b : List TaskInfo} {task : TaskInfo} (conditions : List TaskCondition)
      (hc : task.task_config_id = c) :
      Life c .counted (a ++ task :: b) (a ++ { task with conditions := conditions } :: b) []
  | completed {a b : List TaskInfo} {task : TaskInfo} (now : ℤ) (hc : task.task_config_id = c)
      (hstatus : task.status = .ACCEPTED) (hmet : ∀ condition ∈ task.conditions, condition.Met) :
      Life c .completed (a ++ task :: b)
        (a ++ { task with status := .COMPLETED, complete_time := now, progress := 100 } :: b) []
  | submitted {a b : List TaskInfo} {task : TaskInfo} (now : ℤ) (hc : task.task_config_id = c)
      (hstatus : task.status = .COMPLETED) :
      Life c .submitted (a ++ task :: b)
        (a ++ { task with status := .SUBMITTED, submit_time := now } :: b) [task]
  | abandoned {a b : List TaskInfo} {task : TaskInfo} (hc : task.task_config_id = c)
      (hstatus : task.status = .ACCEPTED ∨ task.status = .COMPLETED) :
      Life c .abandoned (a ++ task :: b) (a ++ b) []

/-- The tasks of the roles, and the rewards they were given. -/
structure Ledger where
  tasks : BitVec 64 → List TaskInfo
  rewarded : List (BitVec 64 × TaskInfo)

/-- An event is about one role. -/
structure Ledger.Step (a : Ledger) (e : Event) (b : Ledger) : Prop where
  others : ∀ role_id, role_id ≠ e.role_id → b.tasks role_id = a.tasks role_id
  life : ∃ given, Life e.task_config_id e.kind (a.tasks e.role_id) (b.tasks e.role_id) given ∧
    b.rewarded = a.rewarded ++ given.map fun task => (e.role_id, task)

def TaskModule.ledger (s : TaskModule) : Ledger := ⟨s.task_cache_.rows, s.rewarded⟩

/-! ## The loops over the tasks of a role -/

/-- The tasks of a role after events that give no reward. -/
def Leads (l : List TaskInfo) (es : List (ℤ × Kind)) (l' : List TaskInfo) : Prop :=
  Run (fun l e l' => Life e.1 e.2 l l' []) l es l'

theorem leads_single {l l' : List TaskInfo} {c : ℤ} {kind : Kind} (h : Life c kind l l' []) :
    Leads l [(c, kind)] l' := .cons h (.nil _)

theorem leads_append {l l' l'' : List TaskInfo} {es es' : List (ℤ × Kind)} (h : Leads l es l')
    (h' : Leads l' es' l'') : Leads l (es ++ es') l'' := Run.append_iff.2 ⟨l', h, h'⟩

/-- What is kept by each turn of a loop. -/
theorem leads_foldl {α β : Type} (tasks : β → List TaskInfo) {f : β → α → β}
    (h : ∀ acc x, ∃ es, Leads (tasks acc) es (tasks (f acc x))) (xs : List α) (acc : β) :
    ∃ es, Leads (tasks acc) es (tasks (xs.foldl f acc)) := by
  induction xs generalizing acc with
  | nil => exact ⟨[], .nil _⟩
  | cons x xs ih =>
    obtain ⟨es, hes⟩ := h acc x
    obtain ⟨es', hes'⟩ := ih (f acc x)
    exact ⟨es ++ es', leads_append hes hes'⟩

section
variable {l : List TaskInfo} {now task_config_id : ℤ}

theorem checkTasks_leads (l : List TaskInfo) (now task_config_id : ℤ) :
    ∃ es, Leads l es (TaskModule.checkTasks now task_config_id l).2 := by
  unfold TaskModule.checkTasks
  rcases onFirst_cases (TaskModule.isDone task_config_id) (fun task => ((), { task with
    status := .COMPLETED, complete_time := now, progress := 100 })) l with
    ⟨hnone, -⟩ | ⟨a, task, b, rfl, -, hdone, hsome⟩
  · rw [hnone]
    exact ⟨[], .nil _⟩
  · rw [hsome]
    simp only [TaskModule.isDone, decide_eq_true_eq, List.all_eq_true, not_lt] at hdone
    exact ⟨_, leads_single (.completed now hdone.1 hdone.2.1 hdone.2.2)⟩

theorem set_leads {i : ℕ} {task : TaskInfo} (h : l[i]? = some task) (conditions : List TaskCondition) :
    Leads l [(task.task_config_id, .counted)] (l.set i { task with conditions := conditions }) := by
  obtain ⟨hi, rfl⟩ := List.getElem?_eq_some_iff.1 h
  have hcounted : Life l[i].task_config_id .counted (l.take i ++ l[i] :: l.drop (i + 1))
      (l.take i ++ { l[i] with conditions := conditions } :: l.drop (i + 1)) [] := .counted conditions rfl
  rw [List.getElem_cons_drop, List.take_append_drop] at hcounted
  rw [List.set_eq_take_append_cons_drop, if_pos hi]
  exact leads_single hcounted

theorem addTurn_leads {condition_type target_id count : ℤ} (i j : ℕ) :
    ∃ es, Leads l es (TaskModule.addTurn now condition_type target_id count i j l).2 := by
  unfold TaskModule.addTurn
  cases htask : l[i]? with
  | none => exact ⟨[], .nil _⟩
  | some task =>
    dsimp only
    cases hcondition : task.conditions[j]? with
    | none => exact ⟨[], .nil _⟩
    | some condition =>
      dsimp only
      split_ifs
      · obtain ⟨es, hes⟩ := checkTasks_leads (l.set i { task with
          conditions := task.conditions.set j (TaskModule.addCount count condition) }) now task.task_config_id
        exact ⟨_, leads_append (set_leads htask _) hes⟩
      · exact ⟨[], .nil _⟩

theorem addLoop_leads (l : List TaskInfo) (now condition_type target_id count : ℤ) :
    ∃ es, Leads l es (TaskModule.addLoop now condition_type target_id count l).2 := by
  refine leads_foldl Prod.snd (fun acc i => ?_) _ (false, l)
  dsimp only
  cases acc.2[i]? with
  | none => exact ⟨[], .nil _⟩
  | some task =>
    dsimp only
    split_ifs
    · refine leads_foldl Prod.snd (fun acc j => ?_) _ acc
      exact addTurn_leads i j
    · exact ⟨[], .nil _⟩

end

/-! ## The operations -/

/-- Where the tasks of one role change. -/
theorem Ledger.run_of_leads {a b : Ledger} {role_id : BitVec 64} {es : List (ℤ × Kind)}
    (h : Leads (a.tasks role_id) es (b.tasks role_id))
    (hothers : ∀ other, other ≠ role_id → b.tasks other = a.tasks other)
    (hrewarded : b.rewarded = a.rewarded) :
    Run Ledger.Step a (es.map fun e => ⟨role_id, e.1, e.2⟩) b := by
  generalize hl : a.tasks role_id = l at h
  generalize hl' : b.tasks role_id = l' at h
  induction h generalizing a with
  | nil l =>
    have heq : a = b := by
      obtain ⟨tasks, rewarded⟩ := a
      obtain ⟨tasks', rewarded'⟩ := b
      refine congrArg₂ Ledger.mk (funext fun other => ?_) hrewarded.symm
      by_cases hne : other = role_id
      · exact hne ▸ hl.trans hl'.symm
      · exact (hothers other hne).symm
    exact heq ▸ .nil a
  | @cons l m _ e es h1 _ ih =>
    let c : Ledger := ⟨Function.update a.tasks role_id m, a.rewarded⟩
    have hc : c.tasks role_id = m := Function.update_self ..
    have hstep : a.Step ⟨role_id, e.1, e.2⟩ c := by
      refine ⟨fun other hne => Function.update_of_ne hne _ _, [], ?_, (List.append_nil _).symm⟩
      show Life e.1 e.2 (a.tasks role_id) (c.tasks role_id) []
      rw [hl, hc]
      exact h1
    refine .cons hstep (ih (fun other hne => ?_) hrewarded hc hl')
    rw [hothers other hne]
    exact (Function.update_of_ne hne _ _).symm

namespace TaskModule

variable {s : TaskModule} {role_id : BitVec 64} {l : List TaskInfo}

theorem rows_setTasks (role_id other : BitVec 64) (l : List TaskInfo) (s : TaskModule) :
    (s.setTasks role_id l).ledger.tasks other = if other = role_id then l else s.ledger.tasks other :=
  Dict.rows_insert

/-- The tasks of one role are set. -/
theorem setTasks_run {l₀ : List TaskInfo} {es : List (ℤ × Kind)} {next_id : BitVec 64}
    (hl : s.task_cache_.rows role_id = l₀) (h : Leads l₀ es l) :
    Run Ledger.Step s.ledger (es.map fun e => ⟨role_id, e.1, e.2⟩)
      (TaskModule.ledger { s.setTasks role_id l with next_id := next_id }) := by
  refine Ledger.run_of_leads ?_ (fun other hne => ?_) rfl
  · show Leads _ es ((s.setTasks role_id l).ledger.tasks role_id)
    rw [rows_setTasks, if_pos rfl]
    show Leads (s.task_cache_.rows role_id) es l
    rw [hl]
    exact h
  · exact (rows_setTasks role_id other l s).trans (if_neg hne)

variable {now task_config_id : ℤ}

theorem accept_run : ∃ es, Run Ledger.Step s.ledger es (s.accept now role_id task_config_id).2.ledger := by
  unfold accept
  by_cases hany : ((s.task_cache_.lookup role_id).getD []).any
      fun task => task.task_config_id = task_config_id
  · rw [if_pos hany]
    exact ⟨_, setTasks_run rfl (.nil _)⟩
  · rw [if_neg hany]
    have hnew : ∀ old ∈ s.task_cache_.rows role_id, old.task_config_id ≠ task_config_id :=
      fun old hold hc => hany (List.any_eq_true.2 ⟨old, hold, by simpa using hc⟩)
    refine ⟨_, setTasks_run rfl (leads_single (.accepted hnew ?_ ?_))⟩
    · rfl
    · rfl

theorem checkComplete_run :
    ∃ es, Run Ledger.Step s.ledger es (s.checkComplete now role_id task_config_id).2.ledger := by
  unfold checkComplete
  cases hl : s.task_cache_.lookup role_id with
  | none => exact ⟨[], .nil _⟩
  | some l =>
    obtain ⟨es, hes⟩ := checkTasks_leads l now task_config_id
    exact ⟨_, setTasks_run (Dict.rows_of_lookup hl) hes⟩

theorem updateProgress_run {condition_index progress : ℤ} : ∃ es, Run Ledger.Step s.ledger es
    (s.updateProgress now role_id task_config_id condition_index progress).2.ledger := by
  unfold updateProgress
  cases hl : s.task_cache_.lookup role_id with
  | none => exact ⟨[], .nil _⟩
  | some l =>
    dsimp only
    rcases onFirst_cases (hasCondition task_config_id condition_index) (fun task => ((), { task with
      conditions := task.conditions.modify condition_index.toNat fun condition =>
        { condition with current_count := progress } })) l with
      ⟨hnone, -⟩ | ⟨a, task, b, rfl, -, -, hsome⟩
    · rw [hnone]
      exact ⟨[], .nil _⟩
    · rw [hsome]
      obtain ⟨es, hes⟩ := checkTasks_leads (a ++ { task with
        conditions := task.conditions.modify condition_index.toNat fun condition =>
          { condition with current_count := progress } } :: b) now task_config_id
      exact ⟨_, setTasks_run (Dict.rows_of_lookup hl) (leads_append (leads_single (.counted _ rfl)) hes)⟩

theorem addProgress_run {condition_type : TaskConditionType} {target_id count : ℤ} :
    ∃ es, Run Ledger.Step s.ledger es
      (s.addProgress now role_id condition_type target_id count).2.ledger := by
  unfold addProgress
  cases hl : s.task_cache_.lookup role_id with
  | none => exact ⟨[], .nil _⟩
  | some l =>
    obtain ⟨es, hes⟩ := addLoop_leads l now condition_type.toInt target_id count
    exact ⟨_, setTasks_run (Dict.rows_of_lookup hl) hes⟩

theorem abandon_run : ∃ es, Run Ledger.Step s.ledger es (s.abandon role_id task_config_id).2.ledger := by
  unfold abandon
  cases hl : s.task_cache_.lookup role_id with
  | none => exact ⟨[], .nil _⟩
  | some l =>
    dsimp only
    rcases first_cases (isOpen task_config_id) l with hnone | ⟨a, task, b, rfl, ha, htask⟩
    · rw [if_neg (by simpa using hnone)]
      exact ⟨[], .nil _⟩
    · have herase : (a ++ task :: b).eraseP (isOpen task_config_id) = a ++ b := by
        rw [List.eraseP_append_right _ fun y hy => by simp [ha y hy], List.eraseP_cons_of_pos htask]
      rw [if_pos (by simp [htask]), herase]
      simp only [isOpen, decide_eq_true_eq] at htask
      exact ⟨_, setTasks_run (Dict.rows_of_lookup hl) (leads_single (.abandoned htask.1 htask.2))⟩

/-- The reward is given for the task that is submitted. -/
theorem submit_run : ∃ es, Run Ledger.Step s.ledger es (s.submit now role_id task_config_id).2.ledger := by
  unfold submit
  cases hl : s.task_cache_.lookup role_id with
  | none => exact ⟨[], .nil _⟩
  | some l =>
    dsimp only
    rcases onFirst_cases (isCompleted task_config_id) (fun task => (task, { task with
      status := .SUBMITTED, submit_time := now })) l with
      ⟨hnone, -⟩ | ⟨a, task, b, rfl, -, htask, hsome⟩
    · rw [hnone]
      exact ⟨[], .nil _⟩
    · rw [hsome]
      simp only [isCompleted, decide_eq_true_eq] at htask
      refine ⟨[⟨role_id, task_config_id, .submitted⟩], .cons ⟨fun other hne => ?_, [task], ?_, rfl⟩ (.nil _)⟩
      · exact (rows_setTasks role_id other _ s).trans (if_neg hne)
      · have hbefore : s.ledger.tasks role_id = a ++ task :: b := Dict.rows_of_lookup hl
        have hafter := rows_setTasks role_id role_id
          (a ++ { task with status := .SUBMITTED, submit_time := now } :: b) (giveRewards role_id task s).2
        show Life task_config_id .submitted (s.ledger.tasks role_id)
          ((setTasks role_id _ (giveRewards role_id task s).2).ledger.tasks role_id) [task]
        rw [hbefore, hafter, if_pos rfl]
        exact .submitted now htask.1 htask.2

/-- The test of the pre-task. -/
def mayAccept (role_id : BitVec 64) (task_config_id : ℤ) (s : TaskModule) : Bool :=
  if 0 < (s.taskConfig task_config_id).pre_task_id then
    s.completed role_id (s.taskConfig task_config_id).pre_task_id
  else true

theorem canAccept_apply {lock : Lock} (hlock : lock ≠ .held) (config : TaskConfig) :
    canAccept role_id config lock s =
      .ret (if 0 < config.pre_task_id then s.completed role_id config.pre_task_id else true) s := by
  have hask : CheckPreTask role_id config.pre_task_id lock s =
      .ret (s.completed role_id config.pre_task_id) s := Locked.lockGuard_perform hlock
  unfold canAccept
  split_ifs with hpre
  · rw [Locked.bind_apply hask]
    cases s.completed role_id config.pre_task_id <;> rfl
  · rfl

theorem canAcceptTask_apply {lock : Lock} (hlock : lock ≠ .held) :
    CanAcceptTask role_id task_config_id lock s = .ret (s.mayAccept role_id task_config_id) s := by
  have hconfig : GetTaskConfig task_config_id lock s = .ret (s.taskConfig task_config_id) s :=
    Locked.lockGuard_perform hlock
  rw [CanAcceptTask, Locked.bind_apply hconfig, canAccept_apply hlock]
  rfl

theorem canAcceptTaskInternal_apply : CanAcceptTaskInternal role_id task_config_id .reentrant s =
    .ret (s.mayAccept role_id task_config_id) s := by
  have hlock : Lock.reentrant ≠ .held := by decide
  exact canAccept_apply hlock (s.taskConfig task_config_id)

theorem acceptTask_apply : AcceptTask now role_id task_config_id .reentrant s =
    if s.mayAccept role_id task_config_id = true then
      .ret (s.accept now role_id task_config_id).1 (s.accept now role_id task_config_id).2
    else .ret false s := by
  show (CanAcceptTaskInternal role_id task_config_id >>= _ : Locked TaskModule Bool) .reentrant s = _
  rw [Locked.bind_apply canAcceptTaskInternal_apply]
  split_ifs <;> rfl

theorem acceptTask_run {b : Bool} {t : TaskModule}
    (h : AcceptTask now role_id task_config_id .reentrant s = .ret b t) :
    ∃ es, Run Ledger.Step s.ledger es t.ledger := by
  rw [acceptTask_apply] at h
  split_ifs at h
  · cases h
    exact accept_run
  · cases h
    exact ⟨[], .nil _⟩

theorem init_ledger : (s.init role_id).2.ledger = s.ledger := by
  unfold init
  cases hl : s.task_cache_.lookup role_id with
  | some l => rfl
  | none =>
    refine congrArg₂ Ledger.mk (funext fun other => ?_) rfl
    refine (rows_setTasks role_id other [] s).trans ?_
    split_ifs with h
    · show [] = s.task_cache_.rows other
      rw [h, Dict.rows, hl]
      rfl
    · rfl

theorem acceptDaily_ledger : (s.acceptDaily role_id task_config_id).2.ledger = s.ledger := by
  unfold acceptDaily
  split
  · rfl
  · split <;> rfl

theorem track_ledger : (s.track role_id task_config_id).2.ledger = s.ledger := by
  unfold track
  split <;> rfl

theorem acceptDailyTask_run {b : Bool} {t : TaskModule}
    (h : AcceptDailyTask now role_id task_config_id .reentrant s = .ret b t) :
    ∃ es, Run Ledger.Step s.ledger es t.ledger := by
  have hledger : (s.acceptDaily role_id task_config_id).2.ledger = s.ledger := acceptDaily_ledger
  obtain ⟨c, u, hu, hrest⟩ := Call.bind_eq_ret.1 h
  cases hu
  cases hc : (s.acceptDaily role_id task_config_id).1 with
  | false =>
    rw [hc] at hrest
    cases hrest
    exact hledger ▸ ⟨[], .nil _⟩
  | true =>
    rw [hc] at hrest
    dsimp only at hrest
    rw [if_pos rfl] at hrest
    obtain ⟨d, v, hv, hret⟩ := Call.bind_eq_ret.1 hrest
    cases hret
    rw [← hledger]
    exact acceptTask_run hv

end TaskModule

/-- The operations but for `GiveTaskRewards`, which gives whatever it is called with. -/
def Op.IsTask : Op → Prop
  | GiveTaskRewards _ _ => False
  | _ => True

/-- A call at a time, where an inner lock is no deadlock. -/
def Calls (s : TaskModule) (call : ℤ × Op) (t : TaskModule) : Prop :=
  call.2.IsTask ∧ call.2.call call.1 .reentrant s = .ret () t

/-- **The calls are events**. -/
theorem Calls.events {s t : TaskModule} {call : ℤ × Op} (h : Calls s call t) :
    ∃ es, Run Ledger.Step s.ledger es t.ledger := by
  obtain ⟨now, op⟩ := call
  obtain ⟨hop, hcall⟩ := h
  have hnone : ∃ es, Run Ledger.Step s.ledger es s.ledger := ⟨[], .nil _⟩
  cases op
  case GiveTaskRewards => exact absurd hop id
  case AcceptTask role_id task_config_id =>
    obtain ⟨b, u, hu, hret⟩ := Call.bind_eq_ret.1 hcall
    cases hret
    exact TaskModule.acceptTask_run hu
  case CanAcceptTask role_id task_config_id =>
    obtain ⟨b, u, hu, hret⟩ := Call.bind_eq_ret.1 hcall
    cases hret
    have hlock : Lock.reentrant ≠ .held := by decide
    rw [TaskModule.canAcceptTask_apply hlock] at hu
    cases hu
    exact hnone
  case AcceptDailyTask role_id task_config_id =>
    obtain ⟨b, u, hu, hret⟩ := Call.bind_eq_ret.1 hcall
    cases hret
    exact TaskModule.acceptDailyTask_run hu
  case TrackTask role_id task_config_id =>
    cases hcall
    rw [TaskModule.track_ledger]
    exact hnone
  case CheckTaskComplete => cases hcall; exact TaskModule.checkComplete_run
  case SubmitTask => cases hcall; exact TaskModule.submit_run
  case AbandonTask => cases hcall; exact TaskModule.abandon_run
  case UpdateTaskProgress => cases hcall; exact TaskModule.updateProgress_run
  case AddTaskProgress => cases hcall; exact TaskModule.addProgress_run
  case OnKillMonster => cases hcall; exact TaskModule.addProgress_run
  case OnCollectItem => cases hcall; exact TaskModule.addProgress_run
  case OnReachLevel => cases hcall; exact TaskModule.addProgress_run
  case OnCompleteInstance => cases hcall; exact TaskModule.addProgress_run
  case OnEquipItem => cases hcall; exact TaskModule.addProgress_run
  case OnSkillUpgrade => cases hcall; exact TaskModule.addProgress_run
  case InitTasks => cases hcall; exact TaskModule.init_ledger ▸ hnone
  case LoadTaskData =>
    cases hcall
    exact TaskModule.init_ledger ▸ hnone
  all_goals
    cases hcall
    exact hnone

end Ancfl.Game.Task
