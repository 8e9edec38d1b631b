/-
  Chains of tasks over whole runs.

  * `TaskModule.Unrefused`: no task is refused to a role that has finished its
    pre-task;
  * the test of the pre-task wants it completed, and a submitted one is not:
    `unrefused_iff_none`;
  * `unrefused_iff`: every state of a run is `Unrefused` if and only if no call
    submits a task that another one waits for.
-/
import Ancfl.Game.Task.Rewards

namespace Ancfl.Game.Task

open Lib

namespace TaskModule

variable {s t : TaskModule} {now : ℤ} {role_id : BitVec 64} {c : ℤ}

/-- A role has completed a task and not abandoned it. -/
def Finished (s : TaskModule) (role_id : BitVec 64) (c : ℤ) : Prop :=
  ∃ task ∈ s.task_cache_.rows role_id, task.task_config_id = c ∧
    (task.status = .COMPLETED ∨ task.status = .SUBMITTED)

/-- A task waits for `c`. -/
def Awaited (s : TaskModule) (c : ℤ) : Prop :=
  0 < c ∧ ∃ task_config_id, (s.taskConfig task_config_id).pre_task_id = c

/-- `CanAcceptTask` and `AcceptTask` let the role pass whose pre-task is finished. -/
def Unrefused (s : TaskModule) : Prop :=
  ∀ role_id task_config_id, 0 < (s.taskConfig task_config_id).pre_task_id →
    s.Finished role_id (s.taskConfig task_config_id).pre_task_id →
    CanAcceptTask role_id task_config_id .free s = .ret true s ∧
    ∀ now, AcceptTask now role_id task_config_id .reentrant s =
      .ret (s.accept now role_id task_config_id).1 (s.accept now role_id task_config_id).2

/-- No role has a task twice. -/
def Once (s : TaskModule) : Prop := ∀ role_id, ((s.ledger.tasks role_id).map (·.task_config_id)).Nodup

theorem mayAccept_iff {task_config_id : ℤ} (hpre : 0 < (s.taskConfig task_config_id).pre_task_id) :
    s.mayAccept role_id task_config_id = true ↔ ∃ task ∈ s.task_cache_.rows role_id,
      task.task_config_id = (s.taskConfig task_config_id).pre_task_id ∧ task.status = .COMPLETED := by
  rw [mayAccept, if_pos hpre]
  show (s.task_cache_.rows role_id).any _ = true ↔ _
  simp [isCompleted]

/-- A task that is submitted does not pass for completed. -/
theorem unrefused_iff_none (honce : s.Once) : s.Unrefused ↔ ∀ c, s.Awaited c → ∀ role_id,
    ∀ task ∈ s.task_cache_.rows role_id, task.task_config_id = c → task.status ≠ .SUBMITTED := by
  have hfree : Lock.free ≠ .held := by decide
  constructor
  · rintro h c ⟨hc, task_config_id, rfl⟩ role_id task htask hid hsubmitted
    have hfree := (h role_id task_config_id hc ⟨task, htask, hid, .inr hsubmitted⟩).1
    rw [canAcceptTask_apply (by decide)] at hfree
    obtain ⟨other, hother, hid', hstatus⟩ := (mayAccept_iff hc).1 (by simpa using hfree)
    rw [List.inj_on_of_nodup_map (honce role_id) hother htask (hid'.trans hid.symm), hsubmitted] at hstatus
    cases hstatus
  · rintro h role_id task_config_id hc ⟨task, htask, hid, hstatus⟩
    have hnot := h _ ⟨hc, task_config_id, rfl⟩ role_id task htask hid
    have hmay := (mayAccept_iff hc).2 ⟨task, htask, hid, hstatus.resolve_right hnot⟩
    refine ⟨?_, fun now => ?_⟩
    · rw [canAcceptTask_apply hfree, hmay]
    · rw [acceptTask_apply, if_pos hmay]

end TaskModule

/-! ## What a call leaves -/

/-- A call at a time, where an inner lock is no deadlock. -/
def Does (s : TaskModule) (call : ℤ × Op) (t : TaskModule) : Prop :=
  call.2.call call.1 .reentrant s = .ret () t

/-- A call submits no task that another one waits for. -/
def SubmitsNone (s : TaskModule) (call : ℤ × Op) : Prop :=
  ∀ role_id c, call.2 = .SubmitTask role_id c → s.completed role_id c = true → ¬s.Awaited c

/-- The submitted tasks grow no faster than the rewards. -/
theorem Ledger.run_submitted {a b : Ledger} {es : List Event} (h : Run Ledger.Step a es b)
    (role_id : BitVec 64) (c : ℤ) :
    (b.tasks role_id).countP (TaskInfo.isSubmitted c) + a.rewarded.length ≤
      (a.tasks role_id).countP (TaskInfo.isSubmitted c) + b.rewarded.length := by
  induction h with
  | nil => exact le_rfl
  | @cons a b _ e _ h1 _ ih =>
    obtain ⟨hothers, given, hlife, hrewarded⟩ := h1
    have hlen : b.rewarded.length = a.rewarded.length + given.length := by simp [hrewarded]
    have hcount : (b.tasks role_id).countP (TaskInfo.isSubmitted c) ≤
        (a.tasks role_id).countP (TaskInfo.isSubmitted c) + given.length := by
      by_cases hrole : role_id = e.role_id
      · rw [hrole, hlife.countP_submitted]
        exact Nat.add_le_add_left List.countP_le_length _
      · rw [hothers role_id hrole]
        exact Nat.le_add_right _ _
    omega

namespace TaskModule

variable {s t : TaskModule} {now : ℤ} {role_id : BitVec 64} {c : ℤ}

/-- What a call does that submits nothing: nobody has a task twice or one more that is submitted. -/
structure Keeps (s t : TaskModule) : Prop where
  configs : t.task_configs_ = s.task_configs_
  once : s.Once → t.Once
  submitted : ∀ role_id c, (t.ledger.tasks role_id).countP (TaskInfo.isSubmitted c) ≤
    (s.ledger.tasks role_id).countP (TaskInfo.isSubmitted c)

theorem Keeps.refl (s : TaskModule) : Keeps s s := ⟨rfl, id, fun _ _ => le_rfl⟩

theorem keeps_of_run (h : ∃ es, Run Ledger.Step s.ledger es t.ledger)
    (hconfigs : t.task_configs_ = s.task_configs_) (hrewarded : t.rewarded = s.rewarded) : Keeps s t := by
  obtain ⟨es, hes⟩ := h
  refine ⟨hconfigs, fun honce => ?_, fun role_id c => ?_⟩
  · exact hes.invariant
      (P := fun a : Ledger => ∀ role_id, ((a.tasks role_id).map TaskInfo.task_config_id).Nodup)
      (fun _ _ _ ha h => h.nodup ha) honce
  · have hrun := Ledger.run_submitted hes role_id c
    have hlen : t.ledger.rewarded.length = s.ledger.rewarded.length := congrArg List.length hrewarded
    omega

theorem keeps_accept : Keeps s (s.accept now role_id c).2 := by
  refine keeps_of_run accept_run ?_ ?_ <;> unfold accept <;> dsimp only <;> split_ifs <;> rfl

theorem keeps_acceptTask {b : Bool} (h : AcceptTask now role_id c .reentrant s = .ret b t) : Keeps s t := by
  rw [acceptTask_apply] at h
  split_ifs at h
  · cases h
    exact keeps_accept
  · cases h
    exact .refl s

theorem keeps_checkComplete : Keeps s (s.checkComplete now role_id c).2 := by
  refine keeps_of_run checkComplete_run ?_ ?_ <;> unfold checkComplete <;> split <;> rfl

theorem keeps_updateProgress {condition_index progress : ℤ} :
    Keeps s (s.updateProgress now role_id c condition_index progress).2 := by
  refine keeps_of_run updateProgress_run ?_ ?_ <;> unfold updateProgress <;> split <;> try rfl
  all_goals split <;> rfl

theorem keeps_addProgress {condition_type : TaskConditionType} {target_id count : ℤ} :
    Keeps s (s.addProgress now role_id condition_type target_id count).2 := by
  refine keeps_of_run addProgress_run ?_ ?_ <;> unfold addProgress <;> split <;> rfl

theorem keeps_abandon : Keeps s (s.abandon role_id c).2 := by
  refine keeps_of_run abandon_run ?_ ?_ <;> unfold abandon <;> split <;> try rfl
  all_goals split_ifs <;> rfl

/-- Where the tasks stay as they are. -/
theorem keeps_of_ledger (hledger : t.ledger.tasks = s.ledger.tasks)
    (hconfigs : t.task_configs_ = s.task_configs_) : Keeps s t := by
  refine ⟨hconfigs, fun honce => ?_, fun role_id c => ?_⟩
  · unfold Once
    rw [hledger]
    exact honce
  · rw [hledger]

theorem keeps_init : Keeps s (s.init role_id).2 := by
  refine keeps_of_ledger (congrArg Ledger.tasks init_ledger) ?_
  unfold init
  split <;> rfl

theorem keeps_acceptDaily : Keeps s (s.acceptDaily role_id c).2 := by
  refine keeps_of_ledger (congrArg Ledger.tasks acceptDaily_ledger) ?_
  unfold acceptDaily
  split
  · rfl
  · split <;> rfl

theorem keeps_track : Keeps s (s.track role_id c).2 := by
  refine keeps_of_ledger (congrArg Ledger.tasks track_ledger) ?_
  unfold track
  split <;> rfl

theorem Keeps.trans {u : TaskModule} (h : Keeps s t) (h' : Keeps t u) : Keeps s u :=
  ⟨h'.configs.trans h.configs, fun honce => h'.once (h.once honce),
    fun role_id c => (h'.submitted role_id c).trans (h.submitted role_id c)⟩

theorem keeps_acceptDailyTask {b : Bool} (h : AcceptDailyTask now role_id c .reentrant s = .ret b t) :
    Keeps s t := by
  obtain ⟨d, u, hu, hrest⟩ := Call.bind_eq_ret.1 h
  cases hu
  cases hd : (s.acceptDaily role_id c).1 with
  | false =>
    rw [hd] at hrest
    cases hrest
    exact keeps_acceptDaily
  | true =>
    rw [hd] at hrest
    dsimp only at hrest
    rw [if_pos rfl] at hrest
    obtain ⟨e, v, hv, hret⟩ := Call.bind_eq_ret.1 hrest
    cases hret
    exact keeps_acceptDaily.trans (keeps_acceptTask hv)

end TaskModule

theorem Does.keeps {s t : TaskModule} {call : ℤ × Op} (h : Does s call t)
    (hsubmit : ∀ role_id c, call.2 ≠ .SubmitTask role_id c) : TaskModule.Keeps s t := by
  obtain ⟨now, op⟩ := call
  cases op
  case SubmitTask role_id c => exact absurd rfl (hsubmit role_id c)
  case AcceptTask role_id c =>
    obtain ⟨b, u, hu, hret⟩ := Call.bind_eq_ret.1 h
    cases hret
    exact TaskModule.keeps_acceptTask hu
  case CanAcceptTask role_id c =>
    obtain ⟨b, u, hu, hret⟩ := Call.bind_eq_ret.1 h
    cases hret
    have hlock : Lock.reentrant ≠ .held := by decide
    rw [TaskModule.canAcceptTask_apply hlock] at hu
    cases hu
    exact .refl s
  case AcceptDailyTask role_id c =>
    obtain ⟨b, u, hu, hret⟩ := Call.bind_eq_ret.1 h
    cases hret
    exact TaskModule.keeps_acceptDailyTask hu
  case TrackTask => cases h; exact TaskModule.keeps_track
  case CheckTaskComplete => cases h; exact TaskModule.keeps_checkComplete
  case AbandonTask => cases h; exact TaskModule.keeps_abandon
  case UpdateTaskProgress => cases h; exact TaskModule.keeps_updateProgress
  case AddTaskProgress => cases h; exact TaskModule.keeps_addProgress
  case OnKillMonster => cases h; exact TaskModule.keeps_addProgress
  case OnCollectItem => cases h; exact TaskModule.keeps_addProgress
  case OnReachLevel => cases h; exact TaskModule.keeps_addProgress
  case OnCompleteInstance => cases h; exact TaskModule.keeps_addProgress
  case OnEquipItem => cases h; exact TaskModule.keeps_addProgress
  case OnSkillUpgrade => cases h; exact TaskModule.keeps_addProgress
  case InitTasks => cases h; exact TaskModule.keeps_init
  case LoadTaskData =>
    cases h
    exact TaskModule.keeps_init.trans (TaskModule.keeps_of_ledger rfl rfl)
  all_goals
    cases h
    exact TaskModule.keeps_of_ledger rfl rfl

namespace TaskModule

variable {s t : TaskModule} {now : ℤ} {role_id : BitVec 64} {c : ℤ}

theorem submit_cases (now : ℤ) (role_id : BitVec 64) (c : ℤ) (s : TaskModule) :
    ((s.submit now role_id c).2 = s ∧ s.completed role_id c = false) ∨
    ∃ task ∈ (s.submit now role_id c).2.task_cache_.rows role_id,
      task.task_config_id = c ∧ task.status = .SUBMITTED ∧ s.completed role_id c = true := by
  have hcompleted : s.completed role_id c = (s.task_cache_.rows role_id).any (isCompleted c) := rfl
  rw [hcompleted]
  unfold submit
  cases hl : s.task_cache_.lookup role_id with
  | none =>
    have hrows : s.task_cache_.rows role_id = [] := by rw [Dict.rows, hl]; rfl
    exact .inl ⟨rfl, by rw [hrows]; rfl⟩
  | some l =>
    rw [Dict.rows_of_lookup hl]
    dsimp only
    rcases onFirst_cases (isCompleted c) (fun task => (task, { task with
      status := .SUBMITTED, submit_time := now })) l with
      ⟨hnone, hall⟩ | ⟨a, task, b, rfl, -, htask, hsome⟩
    · rw [hnone]
      exact .inl ⟨rfl, List.any_eq_false.2 fun x hx => by simp [hall x hx]⟩
    · rw [hsome]
      have hrows := rows_setTasks role_id role_id
        (a ++ { task with status := .SUBMITTED, submit_time := now } :: b) (giveRewards role_id task s).2
      rw [if_pos rfl] at hrows
      simp only [isCompleted, decide_eq_true_eq] at htask
      refine .inr ⟨{ task with status := .SUBMITTED, submit_time := now }, ?_, htask.1, rfl, ?_⟩
      · show _ ∈ (setTasks role_id _ (giveRewards role_id task s).2).ledger.tasks role_id
        rw [hrows]
        simp
      · simp [isCompleted, htask]

theorem submit_configs : (s.submit now role_id c).2.task_configs_ = s.task_configs_ := by
  unfold submit
  split
  · rfl
  · split <;> rfl

/-- A submit leaves the other tasks as they are. -/
theorem submit_only {other : BitVec 64} {task : TaskInfo}
    (h : task ∈ (s.submit now role_id c).2.task_cache_.rows other)
    (hne : ¬(other = role_id ∧ task.task_config_id = c)) : task ∈ s.task_cache_.rows other := by
  unfold submit at h
  cases hl : s.task_cache_.lookup role_id with
  | none =>
    rw [hl] at h
    exact h
  | some l =>
    rw [hl] at h
    dsimp only at h
    rcases onFirst_cases (isCompleted c) (fun task => (task, { task with
      status := .SUBMITTED, submit_time := now })) l with
      ⟨hnone, -⟩ | ⟨a, done, b, rfl, -, hdone, hsome⟩
    · rw [hnone] at h
      exact h
    · rw [hsome] at h
      have hrows := rows_setTasks role_id other
        (a ++ { done with status := .SUBMITTED, submit_time := now } :: b) (giveRewards role_id done s).2
      have hmem : task ∈ (setTasks role_id _ (giveRewards role_id done s).2).ledger.tasks other := h
      rw [hrows] at hmem
      split_ifs at hmem with hother
      · rw [hother, Dict.rows_of_lookup hl]
        simp only [isCompleted, decide_eq_true_eq] at hdone
        rcases List.mem_append.1 hmem with hmem | hmem
        · simp [hmem]
        · rcases List.mem_cons.1 hmem with rfl | hmem
          · exact absurd ⟨hother, hdone.1⟩ hne
          · simp [hmem]
      · exact hmem

theorem awaited_congr (h : t.task_configs_ = s.task_configs_) : t.Awaited c ↔ s.Awaited c := by
  unfold Awaited taskConfig
  rw [h]

/-- No submitted task, as a number. -/
theorem countP_submitted_eq_zero : (s.ledger.tasks role_id).countP (TaskInfo.isSubmitted c) = 0 ↔
    ∀ task ∈ s.task_cache_.rows role_id, task.task_config_id = c → task.status ≠ .SUBMITTED := by
  rw [List.countP_eq_zero]
  simp only [TaskInfo.isSubmitted, decide_eq_true_eq, not_and]
  rfl

end TaskModule

/-! ## Runs -/

section
variable {s t : TaskModule} {call : ℤ × Op}

theorem Does.submit {now : ℤ} {role_id : BitVec 64} {c : ℤ}
    (h : Does s (now, .SubmitTask role_id c) t) : t = (s.submit now role_id c).2 := by
  cases h
  rfl

theorem Does.once (hs : s.Once) (h : Does s call t) : t.Once := by
  obtain ⟨now, op⟩ := call
  by_cases hsubmit : ∃ role_id c, op = .SubmitTask role_id c
  · obtain ⟨role_id, c, rfl⟩ := hsubmit
    obtain ⟨es, hes⟩ : ∃ es, Run Ledger.Step s.ledger es (s.submit now role_id c).2.ledger :=
      TaskModule.submit_run
    rw [h.submit]
    exact hes.invariant
      (P := fun a : Ledger => ∀ role_id, ((a.tasks role_id).map TaskInfo.task_config_id).Nodup)
      (fun _ _ _ ha h => h.nodup ha) hs
  · exact (h.keeps fun role_id c he => hsubmit ⟨role_id, c, he⟩).once hs

/-- **One call**. -/
theorem Does.unrefused (honce : s.Once) (hs : s.Unrefused) (h : Does s call t) :
    t.Unrefused ↔ SubmitsNone s call := by
  rw [TaskModule.unrefused_iff_none (h.once honce)]
  rw [TaskModule.unrefused_iff_none honce] at hs
  obtain ⟨now, op⟩ := call
  by_cases hsubmit : ∃ role_id c, op = .SubmitTask role_id c
  · obtain ⟨role_id, c, rfl⟩ := hsubmit
    rw [h.submit]
    constructor
    · rintro ht _ _ ⟨⟩ hcompleted hawaited
      rcases TaskModule.submit_cases now role_id c s with ⟨-, hnot⟩ | ⟨task, htask, hid, hsubmitted, -⟩
      · rw [hcompleted] at hnot
        cases hnot
      · exact ht c ((TaskModule.awaited_congr TaskModule.submit_configs).2 hawaited) role_id task htask hid
          hsubmitted
    · intro hnone c' hawaited other task htask hid
      rw [TaskModule.awaited_congr TaskModule.submit_configs] at hawaited
      rcases TaskModule.submit_cases now role_id c s with ⟨hsame, -⟩ | ⟨-, -, -, -, hcompleted⟩
      · rw [hsame] at htask
        exact hs c' hawaited other task htask hid
      · refine hs c' hawaited other task (TaskModule.submit_only htask ?_) hid
        rintro ⟨-, hc⟩
        exact hnone role_id c rfl hcompleted (hc ▸ hid ▸ hawaited)
  · have hkeeps := h.keeps fun role_id c he => hsubmit ⟨role_id, c, he⟩
    refine iff_of_true (fun c hawaited role_id => ?_) fun role_id c he => absurd ⟨role_id, c, he⟩ hsubmit
    rw [TaskModule.awaited_congr hkeeps.configs] at hawaited
    have hzero := TaskModule.countP_submitted_eq_zero.2 (hs c hawaited role_id)
    have hle := hkeeps.submitted role_id c
    exact TaskModule.countP_submitted_eq_zero.1 (by omega)

end

/-- **A chain of tasks goes on as long as no pre-task is submitted**: every state on the way lets
    the roles pass that have finished a pre-task, if and only if no call submits a task that another
    one waits for. -/
theorem unrefused_iff {s₀ s : TaskModule} {calls : List (ℤ × Op)} (h₀ : s₀.task_cache_ = ∅)
    (hrun : Run Does s₀ calls s) :
    (∀ calls₁ calls₂ t, calls = calls₁ ++ calls₂ → Run Does s₀ calls₁ t → t.Unrefused) ↔
      Run (fun s call t => Does s call t ∧ SubmitsNone s call) s₀ calls s := by
  have hrows : ∀ role_id, s₀.task_cache_.rows role_id = [] := fun role_id => by rw [h₀]; rfl
  have honce : s₀.Once := fun role_id => by
    show ((s₀.task_cache_.rows role_id).map _).Nodup
    rw [hrows]
    exact List.nodup_nil
  have hunrefused : s₀.Unrefused := by
    rintro role_id task_config_id - ⟨task, htask, -⟩
    rw [hrows] at htask
    cases htask
  refine Run.forall_reached_iff (I := TaskModule.Once) (P := TaskModule.Unrefused) (C := SubmitsNone)
    ?_ (fun _ _ _ hs h => h.once hs) (fun _ _ _ honce hs h => h.unrefused honce hs) honce hunrefused hrun
  intro s call t t' ht ht'
  unfold Does at ht ht'
  rw [ht] at ht'
  cases ht'
  rfl

/-- Task 2 waits for task 1, which is finished but not submitted. -/
theorem unrefused_chain : ∃ s, Run Does noTasks [(0, .AcceptTask 5 1), (1, .OnKillMonster 5 100)] s ∧
    s.Unrefused ∧ s.Finished 5 1 := by
  have hrun : Run Does noTasks [(0, .AcceptTask 5 1), (1, .OnKillMonster 5 100)] _ :=
    .cons rfl (.cons rfl (.nil _))
  refine ⟨_, hrun, (unrefused_iff rfl hrun).2 ?_ _ [] _ (List.append_nil _).symm hrun, ?_⟩
  · exact .cons ⟨rfl, fun _ _ h => nomatch h⟩ (.cons ⟨rfl, fun _ _ h => nomatch h⟩ (.nil _))
  · exact ⟨_, List.mem_cons_self, rfl, .inl rfl⟩

/-- Once task 1 is submitted, task 2 is refused. -/
theorem not_unrefused : ¬∀ s₀ s calls, s₀.task_cache_ = ∅ → Run Does s₀ calls s → s.Unrefused := by
  intro h
  have hrun : Run Does noTasks [(0, .AcceptTask 5 1), (1, .OnKillMonster 5 100), (2, .SubmitTask 5 1)] _ :=
    .cons rfl (.cons rfl (.cons rfl (.nil _)))
  have hpre := (h noTasks _ _ rfl hrun 5 2 (by decide) ⟨_, List.mem_cons_self, rfl, .inr rfl⟩).1
  cases hpre

end Ancfl.Game.Task
