/-
  `TaskModule`.

  * `TaskModule`: the tasks of the roles and the configured ones; what is done
    under `cache_mutex_` is a function on it;
  * `Op`: the public operations; `AcceptTask` asks `IsTaskCompleted` for a task
    with a pre-task, which locks `cache_mutex_` again, and `AcceptDailyTask`
    calls `AcceptTask`;
  * `deadlocks_iff`: `AcceptTask` deadlocks for a task with a pre-task,
    `AcceptDailyTask` for a daily task that is not accepted, the other
    operations never do.
-/
import Ancfl.Lib.Dict
import Ancfl.Lib.First
import Ancfl.Lib.Int32
import Ancfl.Lib.Mutex
import Mathlib.Algebra.Order.Ring.Int

namespace Ancfl.Game.Task

open Lib

inductive TaskStatus
  | NOT_ACCEPTED | ACCEPTED | COMPLETED | SUBMITTED
deriving DecidableEq

inductive TaskType
  | MAIN | SUB | DAILY | WEEKLY | ACHIEVEMENT
deriving DecidableEq

inductive TaskConditionType
  | KILL_MONSTER | COLLECT_ITEM | TALK_TO_NPC | REACH_LEVEL | REACH_POSITION | COMPLETE_INSTANCE
  | EQUIP_ITEM | SKILL_LEVEL | KILL_PLAYER
deriving DecidableEq

/-- `static_cast<int32_t>` -/
def TaskConditionType.toInt : TaskConditionType → ℤ
  | KILL_MONSTER => 1
  | COLLECT_ITEM => 2
  | TALK_TO_NPC => 3
  | REACH_LEVEL => 4
  | REACH_POSITION => 5
  | COMPLETE_INSTANCE => 6
  | EQUIP_ITEM => 7
  | SKILL_LEVEL => 8
  | KILL_PLAYER => 9

structure TaskCondition where
  condition_type : ℤ
  target_id : ℤ
  target_count : ℤ
  current_count : ℤ
deriving DecidableEq

structure TaskReward where
  reward_type : ℤ
  reward_id : ℤ
  reward_count : ℤ
deriving DecidableEq

structure TaskInfo where
  task_id : BitVec 64
  task_config_id : ℤ
  type : TaskType
  status : TaskStatus
  conditions : List TaskCondition
  rewards : List TaskReward
  accept_time : ℤ
  complete_time : ℤ
  submit_time : ℤ
  progress : ℤ
deriving DecidableEq

structure TaskConfig where
  task_config_id : ℤ
  task_name : String
  type : TaskType
  level_requirement : ℤ
  pre_task_id : ℤ
  conditions : List TaskCondition
  rewards : List TaskReward
  description : String
deriving DecidableEq

structure DailyTaskInfo where
  task_config_id : ℤ
  status : TaskStatus
  progress : ℤ
  refresh_time : ℤ
deriving DecidableEq

/-- `next_id` is the counter in `GenerateTaskId`.  Not in the source is `rewarded`: the calls of
    `GiveTaskRewards`. -/
structure TaskModule where
  task_cache_ : Dict (BitVec 64) (List TaskInfo)
  daily_task_cache_ : Dict (BitVec 64) (List DailyTaskInfo)
  task_configs_ : Dict ℤ TaskConfig
  tracked_tasks_ : Dict (BitVec 64) ℤ
  next_id : BitVec 64
  rewarded : List (BitVec 64 × TaskInfo)

namespace TaskModule

/-! ## Without a lock of their own -/

def setTasks (role_id : BitVec 64) (tasks : List TaskInfo) (s : TaskModule) : TaskModule :=
  { s with task_cache_ := s.task_cache_.insert role_id tasks }

def init (role_id : BitVec 64) (s : TaskModule) : Bool × TaskModule :=
  match s.task_cache_.lookup role_id with
  | some _ => (true, s)
  | none => (true, { s.setTasks role_id [] with
      daily_task_cache_ := s.daily_task_cache_.insert role_id [] })

def taskInfo (role_id : BitVec 64) (task_config_id : ℤ) (s : TaskModule) : Option TaskInfo :=
  (s.task_cache_.lookup role_id).bind fun l => l.find? fun task => task.task_config_id = task_config_id

/-- `GetTaskConfigInternal`, which finds a configuration for every task. -/
def taskConfig (task_config_id : ℤ) (s : TaskModule) : TaskConfig :=
  match s.task_configs_.lookup task_config_id with
  | some config => config
  | none => {
      task_config_id, task_name := "Task_" ++ toString task_config_id, type := .MAIN,
      level_requirement := 1, pre_task_id := 0,
      conditions := [⟨TaskConditionType.KILL_MONSTER.toInt, 100, 1, 0⟩], rewards := [⟨1, 0, 100⟩],
      description := "Task description" }

def CheckLevelRequirement (_role_id : BitVec 64) (_level : ℤ) : Bool := true

/-- `AcceptTask` past its check. -/
def accept (now : ℤ) (role_id : BitVec 64) (task_config_id : ℤ) (s : TaskModule) : Bool × TaskModule :=
  let l := (s.task_cache_.lookup role_id).getD []
  if l.any fun task => task.task_config_id = task_config_id then (false, s.setTasks role_id l)
  else
    let config := s.taskConfig task_config_id
    let task : TaskInfo := {
      task_id := s.next_id, task_config_id, type := config.type, status := .ACCEPTED,
      conditions := config.conditions, rewards := config.rewards, accept_time := now,
      complete_time := 0, submit_time := 0, progress := 0 }
    (true, { s.setTasks role_id (l ++ [task]) with next_id := s.next_id + 1 })

/-- Whether an accepted task has met all its conditions. -/
def isDone (task_config_id : ℤ) (task : TaskInfo) : Bool :=
  task.task_config_id = task_config_id ∧ task.status = .ACCEPTED ∧
    task.conditions.all fun condition => ¬condition.current_count < condition.target_count

/-- `CheckTaskCompleteInternal` on the tasks of a role. -/
def checkTasks (now task_config_id : ℤ) (tasks : List TaskInfo) : Bool × List TaskInfo :=
  match onFirst (isDone task_config_id) (fun task => ((), { task with
      status := .COMPLETED, complete_time := now, progress := 100 })) tasks with
  | none => (false, tasks)
  | some ((), tasks) => (true, tasks)

def checkComplete (now : ℤ) (role_id : BitVec 64) (task_config_id : ℤ) (s : TaskModule) :
    Bool × TaskModule :=
  match s.task_cache_.lookup role_id with
  | none => (false, s)
  | some l => ((checkTasks now task_config_id l).1, s.setTasks role_id (checkTasks now task_config_id l).2)

/-- Whether a task is completed and not submitted. -/
def isCompleted (task_config_id : ℤ) (task : TaskInfo) : Bool :=
  task.task_config_id = task_config_id ∧ task.status = .COMPLETED

def completed (role_id : BitVec 64) (task_config_id : ℤ) (s : TaskModule) : Bool :=
  ((s.task_cache_.lookup role_id).getD []).any (isCompleted task_config_id)

/-- `GiveTaskRewards`, which never fails. -/
def giveRewards (role_id : BitVec 64) (task : TaskInfo) (s : TaskModule) : Bool × TaskModule :=
  (true, { s with rewarded := s.rewarded ++ [(role_id, task)] })

def submit (now : ℤ) (role_id : BitVec 64) (task_config_id : ℤ) (s : TaskModule) :
    Bool × TaskModule :=
  match s.task_cache_.lookup role_id with
  | none => (false, s)
  | some l =>
    match onFirst (isCompleted task_config_id) (fun task => (task, { task with
        status := .SUBMITTED, submit_time := now })) l with
    | none => (false, s)
    | some (task, l) => (true, (giveRewards role_id task s).2.setTasks role_id l)

def isOpen (task_config_id : ℤ) (task : TaskInfo) : Bool :=
  task.task_config_id = task_config_id ∧ (task.status = .ACCEPTED ∨ task.status = .COMPLETED)

def abandon (role_id : BitVec 64) (task_config_id : ℤ) (s : TaskModule) : Bool × TaskModule :=
  match s.task_cache_.lookup role_id with
  | none => (false, s)
  | some l =>
    if l.any (isOpen task_config_id) then (true, s.setTasks role_id (l.eraseP (isOpen task_config_id)))
    else (false, s)

/-- Whether an accepted task has a condition with the index. -/
def hasCondition (task_config_id condition_index : ℤ) (task : TaskInfo) : Bool :=
  task.task_config_id = task_config_id ∧ task.status = .ACCEPTED ∧
    0 ≤ condition_index ∧ condition_index < task.conditions.length

def updateProgress (now : ℤ) (role_id : BitVec 64) (task_config_id condition_index progress : ℤ)
    (s : TaskModule) : Bool × TaskModule :=
  match s.task_cache_.lookup role_id with
  | none => (false, s)
  | some l =>
    match onFirst (hasCondition task_config_id condition_index) (fun task => ((), { task with
        conditions := task.conditions.modify condition_index.toNat fun condition =>
          { condition with current_count := progress } })) l with
    | none => (false, s)
    | some ((), l) => (true, s.setTasks role_id (checkTasks now task_config_id l).2)

/-- The progress of a condition, which does not go beyond its target. -/
def addCount (count : ℤ) (condition : TaskCondition) : TaskCondition :=
  let current_count := toInt32 (condition.current_count + count)
  { condition with current_count := min current_count condition.target_count }

/-- The turn of the inner loop of `AddTaskProgress` for the `j`-th condition of the `i`-th task;
    whether a task was completed. -/
def addTurn (now condition_type target_id count : ℤ) (i j : ℕ) (tasks : List TaskInfo) :
    Bool × List TaskInfo :=
  match tasks[i]? with
  | none => (false, tasks)
  | some task =>
    match task.conditions[j]? with
    | none => (false, tasks)
    | some condition =>
      if condition.condition_type = condition_type ∧ condition.target_id = target_id then
        checkTasks now task.task_config_id (tasks.set i { task with
          conditions := task.conditions.set j (addCount count condition) })
      else (false, tasks)

/-- The loops of `AddTaskProgress`. -/
def addLoop (now condition_type target_id count : ℤ) (tasks : List TaskInfo) : Bool × List TaskInfo :=
  (List.range tasks.length).foldl (fun acc i =>
    match acc.2[i]? with
    | none => acc
    | some task =>
      if task.status = .ACCEPTED then
        (List.range task.conditions.length).foldl (fun acc j =>
          let turn := addTurn now condition_type target_id count i j acc.2
          (acc.1 || turn.1, turn.2)) acc
      else acc) (false, tasks)

def addProgress (now : ℤ) (role_id : BitVec 64) (condition_type : TaskConditionType)
    (target_id count : ℤ) (s : TaskModule) : Bool × TaskModule :=
  match s.task_cache_.lookup role_id with
  | none => (false, s)
  | some l =>
    let loop := addLoop now condition_type.toInt target_id count l
    (loop.1, s.setTasks role_id loop.2)

def refreshDaily (now : ℤ) (role_id : BitVec 64) (s : TaskModule) : Bool × TaskModule :=
  let tasks := (List.range 5).map fun i : ℕ => (⟨1001 + i, .NOT_ACCEPTED, 0, now + 86400⟩ : DailyTaskInfo)
  (true, { s with daily_task_cache_ := s.daily_task_cache_.insert role_id tasks })

/-- Whether a daily task is still to be accepted. -/
def isFresh (task_config_id : ℤ) (task : DailyTaskInfo) : Bool :=
  task.task_config_id = task_config_id ∧ task.status = .NOT_ACCEPTED

/-- `AcceptDailyTask` before it calls `AcceptTask`. -/
def acceptDaily (role_id : BitVec 64) (task_config_id : ℤ) (s : TaskModule) : Bool × TaskModule :=
  match s.daily_task_cache_.lookup role_id with
  | none => (false, s)
  | some l =>
    match onFirst (isFresh task_config_id) (fun task => ((), { task with status := .ACCEPTED })) l with
    | none => (false, s)
    | some ((), l) => (true, { s with daily_task_cache_ := s.daily_task_cache_.insert role_id l })

def track (role_id : BitVec 64) (task_config_id : ℤ) (s : TaskModule) : Bool × TaskModule :=
  match s.taskInfo role_id task_config_id with
  | none => (false, s)
  | some _ => (true, { s with tracked_tasks_ := s.tracked_tasks_.insert role_id task_config_id })

/-! ## The operations -/

def InitTasks (role_id : BitVec 64) : Locked TaskModule Bool := .lockGuard (.perform (init role_id))

def GetTasks (role_id : BitVec 64) : Locked TaskModule (Option (List TaskInfo)) :=
  .lockGuard (.perform fun s => (s.task_cache_.lookup role_id, s))

def GetTaskInfo (role_id : BitVec 64) (task_config_id : ℤ) : Locked TaskModule (Option TaskInfo) :=
  .lockGuard (.perform fun s => (s.taskInfo role_id task_config_id, s))

def GetTaskConfig (task_config_id : ℤ) : Locked TaskModule TaskConfig :=
  .lockGuard (.perform fun s => (s.taskConfig task_config_id, s))

def IsTaskCompleted (role_id : BitVec 64) (task_config_id : ℤ) : Locked TaskModule Bool :=
  .lockGuard (.perform fun s => (s.completed role_id task_config_id, s))

def CheckPreTask (role_id : BitVec 64) (pre_task_id : ℤ) : Locked TaskModule Bool :=
  IsTaskCompleted role_id pre_task_id

/-- What `CanAcceptTask` and `CanAcceptTaskInternal` do with a configuration. -/
def canAccept (role_id : BitVec 64) (config : TaskConfig) : Locked TaskModule Bool := do
  if 0 < config.pre_task_id then do
    if ← CheckPreTask role_id config.pre_task_id then
      return CheckLevelRequirement role_id config.level_requirement
    else return false
  else return CheckLevelRequirement role_id config.level_requirement

def CanAcceptTask (role_id : BitVec 64) (task_config_id : ℤ) : Locked TaskModule Bool := do
  canAccept role_id (← GetTaskConfig task_config_id)

def CanAcceptTaskInternal (role_id : BitVec 64) (task_config_id : ℤ) : Locked TaskModule Bool := do
  canAccept role_id (← Locked.perform fun s : TaskModule => (s.taskConfig task_config_id, s))

def AcceptTask (now : ℤ) (role_id : BitVec 64) (task_config_id : ℤ) : Locked TaskModule Bool :=
  .lockGuard do
    if ← CanAcceptTaskInternal role_id task_config_id then .perform (accept now role_id task_config_id)
    else return false

def CheckTaskComplete (now : ℤ) (role_id : BitVec 64) (task_config_id : ℤ) : Locked TaskModule Bool :=
  .lockGuard (.perform (checkComplete now role_id task_config_id))

def SubmitTask (now : ℤ) (role_id : BitVec 64) (task_config_id : ℤ) : Locked TaskModule Bool :=
  .lockGuard (.perform (submit now role_id task_config_id))

def GiveTaskRewards (role_id : BitVec 64) (task : TaskInfo) : Locked TaskModule Bool :=
  .perform (giveRewards role_id task)

def AbandonTask (role_id : BitVec 64) (task_config_id : ℤ) : Locked TaskModule Bool :=
  .lockGuard (.perform (abandon role_id task_config_id))

def UpdateTaskProgress (now : ℤ) (role_id : BitVec 64) (task_config_id condition_index progress : ℤ) :
    Locked TaskModule Bool :=
  .lockGuard (.perform (updateProgress now role_id task_config_id condition_index progress))

def AddTaskProgress (now : ℤ) (role_id : BitVec 64) (condition_type : TaskConditionType)
    (target_id count : ℤ) : Locked TaskModule Bool :=
  .lockGuard (.perform (addProgress now role_id condition_type target_id count))

def RefreshDailyTasks (now : ℤ) (role_id : BitVec 64) : Locked TaskModule Bool :=
  .lockGuard (.perform (refreshDaily now role_id))

def GetDailyTasks (role_id : BitVec 64) : Locked TaskModule (Option (List DailyTaskInfo)) :=
  .lockGuard (.perform fun s => (s.daily_task_cache_.lookup role_id, s))

def AcceptDailyTask (now : ℤ) (role_id : BitVec 64) (task_config_id : ℤ) : Locked TaskModule Bool :=
  .lockGuard do
    if ← .perform (acceptDaily role_id task_config_id) then do
      let _ ← AcceptTask now role_id task_config_id
      return true
    else return false

def TrackTask (role_id : BitVec 64) (task_config_id : ℤ) : Locked TaskModule Bool :=
  .lockGuard (.perform (track role_id task_config_id))

def GetTrackedTask (role_id : BitVec 64) : Locked TaskModule (Option ℤ) :=
  .lockGuard (.perform fun s => (s.tracked_tasks_.lookup role_id, s))

def OnKillMonster (now : ℤ) (role_id : BitVec 64) (monster_id : ℤ) : Locked TaskModule Unit := do
  let _ ← AddTaskProgress now role_id .KILL_MONSTER monster_id 1

def OnCollectItem (now : ℤ) (role_id : BitVec 64) (item_id count : ℤ) : Locked TaskModule Unit := do
  let _ ← AddTaskProgress now role_id .COLLECT_ITEM item_id count

def OnReachLevel (now : ℤ) (role_id : BitVec 64) (level : ℤ) : Locked TaskModule Unit := do
  let _ ← AddTaskProgress now role_id .REACH_LEVEL level 1

def OnCompleteInstance (now : ℤ) (role_id : BitVec 64) (instance_id : ℤ) : Locked TaskModule Unit := do
  let _ ← AddTaskProgress now role_id .COMPLETE_INSTANCE instance_id 1

def OnEquipItem (now : ℤ) (role_id : BitVec 64) (item_id : ℤ) : Locked TaskModule Unit := do
  let _ ← AddTaskProgress now role_id .EQUIP_ITEM item_id 1

def OnSkillUpgrade (now : ℤ) (role_id : BitVec 64) (skill_id level : ℤ) : Locked TaskModule Unit := do
  let _ ← AddTaskProgress now role_id .SKILL_LEVEL skill_id level

def LoadTaskData (now : ℤ) (role_id : BitVec 64) : Locked TaskModule Bool := do
  let _ ← InitTasks role_id
  let _ ← RefreshDailyTasks now role_id
  return true

def SaveTaskData (role_id : BitVec 64) : Locked TaskModule Bool :=
  .lockGuard (.perform fun s => ((s.task_cache_.lookup role_id).isSome, s))

end TaskModule

/-- The public operations. -/
inductive Op
  | InitTasks (role_id : BitVec 64)
  | GetTasks (role_id : BitVec 64)
  | GetTaskInfo (role_id : BitVec 64) (task_config_id : ℤ)
  | AcceptTask (role_id : BitVec 64) (task_config_id : ℤ)
  | CanAcceptTask (role_id : BitVec 64) (task_config_id : ℤ)
  | CheckTaskComplete (role_id : BitVec 64) (task_config_id : ℤ)
  | IsTaskCompleted (role_id : BitVec 64) (task_config_id : ℤ)
  | SubmitTask (role_id : BitVec 64) (task_config_id : ℤ)
  | GiveTaskRewards (role_id : BitVec 64) (task : TaskInfo)
  | AbandonTask (role_id : BitVec 64) (task_config_id : ℤ)
  | UpdateTaskProgress (role_id : BitVec 64) (task_config_id condition_index progress : ℤ)
  | AddTaskProgress (role_id : BitVec 64) (condition_type : TaskConditionType) (target_id count : ℤ)
  | RefreshDailyTasks (role_id : BitVec 64)
  | GetDailyTasks (role_id : BitVec 64)
  | AcceptDailyTask (role_id : BitVec 64) (task_config_id : ℤ)
  | TrackTask (role_id : BitVec 64) (task_config_id : ℤ)
  | GetTrackedTask (role_id : BitVec 64)
  | OnKillMonster (role_id : BitVec 64) (monster_id : ℤ)
  | OnCollectItem (role_id : BitVec 64) (item_id count : ℤ)
  | OnReachLevel (role_id : BitVec 64) (level : ℤ)
  | OnCompleteInstance (role_id : BitVec 64) (instance_id : ℤ)
  | OnEquipItem (role_id : BitVec 64) (item_id : ℤ)
  | OnSkillUpgrade (role_id : BitVec 64) (skill_id level : ℤ)
  | LoadTaskData (role_id : BitVec 64)
  | SaveTaskData (role_id : BitVec 64)

/-- A call of an operation at the time `now`; what it returns is left out. -/
def Op.call (now : ℤ) : Op → Locked TaskModule Unit
  | InitTasks role_id => do let _ ← TaskModule.InitTasks role_id
  | GetTasks role_id => do let _ ← TaskModule.GetTasks role_id
  | GetTaskInfo role_id task_config_id => do let _ ← TaskModule.GetTaskInfo role_id task_config_id
  | AcceptTask role_id task_config_id => do let _ ← TaskModule.AcceptTask now role_id task_config_id
  | CanAcceptTask role_id task_config_id => do
    let _ ← TaskModule.CanAcceptTask role_id task_config_id
  | CheckTaskComplete role_id task_config_id => do
    let _ ← TaskModule.CheckTaskComplete now role_id task_config_id
  | IsTaskCompleted role_id task_config_id => do
    let _ ← TaskModule.IsTaskCompleted role_id task_config_id
  | SubmitTask role_id task_config_id => do let _ ← TaskModule.SubmitTask now role_id task_config_id
  | GiveTaskRewards role_id task => do let _ ← TaskModule.GiveTaskRewards role_id task
  | AbandonTask role_id task_config_id => do let _ ← TaskModule.AbandonTask role_id task_config_id
  | UpdateTaskProgress role_id task_config_id condition_index progress => do
    let _ ← TaskModule.UpdateTaskProgress now role_id task_config_id condition_index progress
  | AddTaskProgress role_id condition_type target_id count => do
    let _ ← TaskModule.AddTaskProgress now role_id condition_type target_id count
  | RefreshDailyTasks role_id => do let _ ← TaskModule.RefreshDailyTasks now role_id
  | GetDailyTasks role_id => do let _ ← TaskModule.GetDailyTasks role_id
  | AcceptDailyTask role_id task_config_id => do
    let _ ← TaskModule.AcceptDailyTask now role_id task_config_id
  | TrackTask role_id task_config_id => do let _ ← TaskModule.TrackTask role_id task_config_id
  | GetTrackedTask role_id => do let _ ← TaskModule.GetTrackedTask role_id
  | OnKillMonster role_id monster_id => do let _ ← TaskModule.OnKillMonster now role_id monster_id
  | OnCollectItem role_id item_id count => do
    let _ ← TaskModule.OnCollectItem now role_id item_id count
  | OnReachLevel role_id level => do let _ ← TaskModule.OnReachLevel now role_id level
  | OnCompleteInstance role_id instance_id => do
    let _ ← TaskModule.OnCompleteInstance now role_id instance_id
  | OnEquipItem role_id item_id => do let _ ← TaskModule.OnEquipItem now role_id item_id
  | OnSkillUpgrade role_id skill_id level => do
    let _ ← TaskModule.OnSkillUpgrade now role_id skill_id level
  | LoadTaskData role_id => do let _ ← TaskModule.LoadTaskData now role_id
  | SaveTaskData role_id => do let _ ← TaskModule.SaveTaskData role_id

/-- Where an operation locks twice. -/
def Op.LocksTwice (s : TaskModule) : Op → Prop
  | AcceptTask _ task_config_id => 0 < (s.taskConfig task_config_id).pre_task_id
  | AcceptDailyTask role_id task_config_id =>
    ∃ task ∈ (s.daily_task_cache_.lookup role_id).getD [], TaskModule.isFresh task_config_id task
  | _ => False

section
variable {role_id : BitVec 64} {task_config_id : ℤ} {s : TaskModule}

/-- The question for the pre-task finds the mutex held. -/
theorem deadlocks_acceptTask (now : ℤ) :
    (TaskModule.AcceptTask now role_id task_config_id).Deadlocks .free s ↔
      0 < (s.taskConfig task_config_id).pre_task_id := by
  have hconfig : TaskModule.CanAcceptTaskInternal role_id task_config_id .held s =
      TaskModule.canAccept role_id (s.taskConfig task_config_id) .held s := rfl
  rw [TaskModule.AcceptTask, Locked.deadlocks_guard_free]
  constructor
  · intro h
    by_contra hpre
    have hret : TaskModule.CanAcceptTaskInternal role_id task_config_id .held s = .ret true s := by
      rw [hconfig, TaskModule.canAccept, if_neg hpre]
      rfl
    rw [Locked.deadlocks_bind hret, if_pos rfl] at h
    exact Locked.not_deadlocks_perform _ h
  · intro hpre
    refine Locked.bind_of_deadlock ?_
    rw [Locked.Deadlocks, hconfig, TaskModule.canAccept, if_pos hpre]
    exact Locked.bind_of_deadlock (Locked.deadlocks_guard_held _)

/-- The same question to the free mutex is answered. -/
theorem not_deadlocks_canAcceptTask :
    ¬(TaskModule.CanAcceptTask role_id task_config_id).Deadlocks .free s := by
  have hconfig : TaskModule.CanAcceptTask role_id task_config_id .free s =
      TaskModule.canAccept role_id (s.taskConfig task_config_id) .free s := rfl
  rw [Locked.Deadlocks, hconfig, TaskModule.canAccept]
  split_ifs with hpre
  · have hask : TaskModule.CheckPreTask role_id (s.taskConfig task_config_id).pre_task_id .free s =
        .ret (s.completed role_id (s.taskConfig task_config_id).pre_task_id) s := rfl
    rw [Locked.bind_apply hask]
    split_ifs
    · exact Locked.not_deadlocks_pure _
    · exact Locked.not_deadlocks_pure _
  · exact Locked.not_deadlocks_pure _

theorem acceptDaily_fst : (TaskModule.acceptDaily role_id task_config_id s).1 = true ↔
    ∃ task ∈ (s.daily_task_cache_.lookup role_id).getD [], TaskModule.isFresh task_config_id task := by
  unfold TaskModule.acceptDaily
  cases hl : s.daily_task_cache_.lookup role_id with
  | none => simp
  | some l =>
    dsimp only
    rcases onFirst_cases (TaskModule.isFresh task_config_id)
        (fun task => ((), { task with status := .ACCEPTED })) l with
      ⟨hnone, hall⟩ | ⟨a, task, b, rfl, -, htask, hsome⟩
    · rw [hnone]
      simpa using hall
    · rw [hsome]
      exact iff_of_true rfl ⟨task, by simp, htask⟩

theorem deadlocks_iff (now : ℤ) (op : Op) (s : TaskModule) :
    (op.call now).Deadlocks .free s ↔ op.LocksTwice s := by
  cases op
  case AcceptTask role_id task_config_id =>
    rw [Op.call, Locked.deadlocks_map]
    exact deadlocks_acceptTask now
  case AcceptDailyTask role_id task_config_id =>
    rw [Op.call, Locked.deadlocks_map, TaskModule.AcceptDailyTask, Locked.deadlocks_guard_free,
      Locked.deadlocks_perform_bind, Op.LocksTwice, ← acceptDaily_fst]
    cases (TaskModule.acceptDaily role_id task_config_id s).1 with
    | false => simp
    | true =>
      refine iff_of_true ?_ rfl
      exact Locked.bind_of_deadlock (Locked.deadlocks_guard_held _)
  case CanAcceptTask role_id task_config_id =>
    refine iff_of_false ?_ id
    rw [Op.call, Locked.deadlocks_map]
    exact not_deadlocks_canAcceptTask
  case LoadTaskData role_id =>
    have hinit : TaskModule.InitTasks role_id .free s = .ret (s.init role_id).1 (s.init role_id).2 := rfl
    refine iff_of_false ?_ id
    rw [Op.call, Locked.deadlocks_map, TaskModule.LoadTaskData, Locked.deadlocks_bind hinit,
      Locked.deadlocks_map]
    exact Locked.not_deadlocks_guard _
  case GiveTaskRewards role_id task =>
    refine iff_of_false ?_ id
    rw [Op.call, Locked.deadlocks_map]
    exact Locked.not_deadlocks_perform _
  case OnKillMonster | OnCollectItem | OnReachLevel | OnCompleteInstance | OnEquipItem |
      OnSkillUpgrade =>
    refine iff_of_false ?_ id
    rw [Op.call, Locked.deadlocks_map]
    refine mt (Locked.deadlocks_map _ _).1 ?_
    exact Locked.not_deadlocks_guard _
  all_goals
    refine iff_of_false ?_ id
    rw [Op.call, Locked.deadlocks_map]
    exact Locked.not_deadlocks_guard _

end

end Ancfl.Game.Task
