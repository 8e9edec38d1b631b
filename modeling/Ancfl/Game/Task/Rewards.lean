/-
  Rewards and task chains over whole runs.

  * `Ledger.Ordered`: no role has a task twice, and what was rewarded is what is
    submitted; `Ledger.Step.ordered` keeps it;
  * `rewards_earned`: a task is rewarded at most once, after all its conditions
    were met;
  * `TaskModule.Unrefused`: no task is refused to a role that has finished its
    pre-task; `unrefused_iff`: this holds on the way of a run if and only if no
    task is submitted that another one waits for.
-/
import Ancfl.Game.Task.Events
import Mathlib.Data.List.Induction

namespace Ancfl.Game.Task

open Lib

def TaskInfo.isSubmitted (c : ℤ) (task : TaskInfo) : Bool :=
  task.task_config_id = c ∧ task.status = .SUBMITTED

/-- The moves of a status. -/
def TaskStatus.Moves (status status' : TaskStatus) : Prop :=
  status' = status ∨ (status = .ACCEPTED ∧ status' = .COMPLETED) ∨
    (status = .COMPLETED ∧ status' = .SUBMITTED)

/-! ## The tasks of a role -/

section
variable {c : ℤ} {kind : Kind} {l l' given a b : List TaskInfo} {task task' : TaskInfo}

/-- A task that is changed in its place. -/
theorem nodup_replace (hl : ((a ++ task :: b).map (·.task_config_id)).Nodup)
    (hid : task'.task_config_id = task.task_config_id) :
    ((a ++ task' :: b).map (·.task_config_id)).Nodup := by
  have hmap : (a ++ task' :: b).map (·.task_config_id) = (a ++ task :: b).map (·.task_config_id) := by
    simp [hid]
  rw [hmap]
  exact hl

theorem moves_replace (hl : ((a ++ task :: b).map (·.task_config_id)).Nodup) {x y : TaskInfo}
    (hx : x ∈ a ++ task :: b) (hy : y ∈ a ++ task' :: b)
    (hid : task'.task_config_id = task.task_config_id) (hmoves : task.status.Moves task'.status)
    (hxy : y.task_config_id = x.task_config_id) : x.status.Moves y.status := by
  have hinj := List.inj_on_of_nodup_map hl
  have hother : y ∈ a ++ task :: b → x.status.Moves y.status := fun hy => by
    rw [hinj hx hy hxy.symm]
    exact .inl rfl
  rcases List.mem_append.1 hy with hy | hy
  · exact hother (List.mem_append_left _ hy)
  · rcases List.mem_cons.1 hy with rfl | hy
    · rw [hinj hx (by simp) (hxy.symm.trans hid)]
      exact hmoves
    · exact hother (by simp [hy])

namespace Life

theorem nodup (h : Life c kind l l' given) (hl : (l.map (·.task_config_id)).Nodup) :
    (l'.map (·.task_config_id)).Nodup := by
  cases h with
  | @accepted _ task hnew hc _ =>
    rw [List.map_append, List.nodup_append]
    refine ⟨hl, List.nodup_singleton _, ?_⟩
    rintro x hx y hy rfl
    obtain ⟨old, hold, rfl⟩ := List.mem_map.1 hx
    exact hnew old hold ((List.mem_singleton.1 hy).trans hc)
  | counted conditions hc => exact nodup_replace hl rfl
  | completed now hc hstatus hmet => exact nodup_replace hl rfl
  | submitted now hc hstatus => exact nodup_replace hl rfl
  | abandoned hc hstatus =>
    exact hl.sublist (((List.Sublist.refl _).append (List.sublist_cons_self _ _)).map _)

/-- A task becomes a submitted one when its reward is given. -/
theorem countP_submitted (h : Life c kind l l' given) (c' : ℤ) :
    l'.countP (TaskInfo.isSubmitted c') =
      l.countP (TaskInfo.isSubmitted c') + given.countP fun task => task.task_config_id = c' := by
  cases h with
  | accepted hnew hc hstatus => simp [TaskInfo.isSubmitted, hstatus]
  | counted conditions hc => simp [List.countP_cons, TaskInfo.isSubmitted]
  | completed now hc hstatus hmet => simp [TaskInfo.isSubmitted, hstatus]
  | submitted now hc hstatus =>
    simp [List.countP_cons, TaskInfo.isSubmitted, hstatus, Nat.add_assoc]
  | abandoned hc hstatus =>
    rcases hstatus with hstatus | hstatus
    · simp [TaskInfo.isSubmitted, hstatus]
    · simp [TaskInfo.isSubmitted, hstatus]

theorem moves (h : Life c kind l l' given) (hl : (l.map (·.task_config_id)).Nodup)
    (hx : task ∈ l) (hy : task' ∈ l') (hxy : task'.task_config_id = task.task_config_id) :
    task.status.Moves task'.status := by
  cases h with
  | accepted hnew hc hstatus =>
    rcases List.mem_append.1 hy with hy | hy
    · rw [List.inj_on_of_nodup_map hl hx hy hxy.symm]
      exact .inl rfl
    · rw [List.mem_singleton.1 hy] at hxy
      exact absurd (hxy.symm.trans hc) (hnew task hx)
  | counted conditions hc => exact moves_replace hl hx hy rfl (.inl rfl) hxy
  | completed now hc hstatus hmet => exact moves_replace hl hx hy rfl (.inr (.inl ⟨hstatus, rfl⟩)) hxy
  | submitted now hc hstatus => exact moves_replace hl hx hy rfl (.inr (.inr ⟨hstatus, rfl⟩)) hxy
  | @abandoned a b gone hc hstatus =>
    have hsub : a ++ b ⊆ a ++ gone :: b :=
      ((List.Sublist.refl _).append (List.sublist_cons_self _ _)).subset
    rw [List.inj_on_of_nodup_map hl hx (hsub hy) hxy.symm]
    exact .inl rfl

/-- A task that is completed now was so before, unless this is the event. -/
theorem completed_before (h : Life c kind l l' given) (hl : (l.map (·.task_config_id)).Nodup)
    (hy : task' ∈ l') (hstatus : task'.status = .COMPLETED) :
    (kind = .completed ∧ c = task'.task_config_id) ∨
      (∃ task ∈ l, task.task_config_id = task'.task_config_id ∧ task.status = .COMPLETED) ∧
        ((kind = .accepted ∨ kind = .abandoned) → c ≠ task'.task_config_id) := by
  cases h with
  | accepted hnew hc hacc =>
    rcases List.mem_append.1 hy with hy | hy
    · exact .inr ⟨⟨task', hy, rfl, hstatus⟩, fun _ => (hnew task' hy).symm⟩
    · rw [List.mem_singleton.1 hy, hacc] at hstatus
      cases hstatus
  | @counted a b task conditions hc =>
    refine .inr ⟨?_, fun h => nomatch h⟩
    rcases List.mem_append.1 hy with hy | hy
    · exact ⟨task', by simp [hy], rfl, hstatus⟩
    · rcases List.mem_cons.1 hy with rfl | hy
      · exact ⟨task, by simp, rfl, hstatus⟩
      · exact ⟨task', by simp [hy], rfl, hstatus⟩
  | @completed a b task now hc hacc hmet =>
    rcases List.mem_append.1 hy with hy | hy
    · exact .inr ⟨⟨task', by simp [hy], rfl, hstatus⟩, fun h => nomatch h⟩
    · rcases List.mem_cons.1 hy with rfl | hy
      · exact .inl ⟨rfl, hc.symm⟩
      · exact .inr ⟨⟨task', by simp [hy], rfl, hstatus⟩, fun h => nomatch h⟩
  | @submitted a b task now hc hcomp =>
    refine .inr ⟨?_, fun h => nomatch h⟩
    rcases List.mem_append.1 hy with hy | hy
    · exact ⟨task', by simp [hy], rfl, hstatus⟩
    · rcases List.mem_cons.1 hy with rfl | hy
      · cases hstatus
      · exact ⟨task', by simp [hy], rfl, hstatus⟩
  | @abandoned a b gone hc hopen =>
    have hmem : task' ∈ a ++ gone :: b :=
      ((List.Sublist.refl _).append (List.sublist_cons_self _ _)).subset hy
    refine .inr ⟨⟨task', hmem, rfl, hstatus⟩, fun _ hid => ?_⟩
    -- the task that is gone was the only one of its configuration
    rw [List.map_append, List.map_cons, List.nodup_middle, List.nodup_cons, ← List.map_append] at hl
    exact hl.1 (List.mem_map.2 ⟨task', hy, hid.symm.trans hc.symm⟩)

end Life

end

/-! ## The ledger -/

/-- No role has a task twice, and what was rewarded is what is submitted. -/
structure Ledger.Ordered (a : Ledger) : Prop where
  nodup : ∀ role_id, ((a.tasks role_id).map (·.task_config_id)).Nodup
  given : ∀ role_id c, (a.rewarded.countP fun x => x.1 = role_id ∧ x.2.task_config_id = c) =
    (a.tasks role_id).countP (TaskInfo.isSubmitted c)

/-- Nothing was accepted yet. -/
def Ledger.empty : Ledger := ⟨fun _ => [], []⟩

namespace Ledger

variable {a b : Ledger} {e : Event} {es : List Event} {role_id : BitVec 64} {c : ℤ}

theorem ordered_empty : Ledger.empty.Ordered := ⟨fun _ => List.nodup_nil, fun _ _ => rfl⟩

theorem Step.nodup (ha : ∀ role_id, ((a.tasks role_id).map (·.task_config_id)).Nodup) (h : a.Step e b)
    (role_id : BitVec 64) : ((b.tasks role_id).map (·.task_config_id)).Nodup := by
  obtain ⟨hothers, given, hlife, -⟩ := h
  by_cases hrole : role_id = e.role_id
  · exact hrole ▸ hlife.nodup (ha e.role_id)
  · rw [hothers role_id hrole]
    exact ha role_id

theorem Step.ordered (ha : a.Ordered) (h : a.Step e b) : b.Ordered := by
  refine ⟨h.nodup ha.nodup, fun role_id c => ?_⟩
  obtain ⟨hothers, given, hlife, hrewarded⟩ := h
  rw [hrewarded, List.countP_append, ha.given, List.countP_map]
  by_cases hrole : role_id = e.role_id
  · rw [hrole, hlife.countP_submitted]
    congr 2
    funext task
    simp
  · have hnone : given.countP ((fun x : BitVec 64 × TaskInfo =>
        decide (x.1 = role_id ∧ x.2.task_config_id = c)) ∘ fun task => (e.role_id, task)) = 0 := by
      simp [List.countP_eq_zero, Ne.symm hrole]
    rw [hothers role_id hrole, hnone, Nat.add_zero]

theorem Ordered.once (ha : a.Ordered) (role_id : BitVec 64) (c : ℤ) :
    (a.rewarded.countP fun x => x.1 = role_id ∧ x.2.task_config_id = c) ≤ 1 := by
  have hone : ((a.tasks role_id).map (·.task_config_id)).count c ≤ 1 :=
    List.nodup_iff_count_le_one.1 (ha.nodup role_id) c
  rw [ha.given]
  rw [List.count, List.countP_map] at hone
  refine (List.countP_mono_left fun task _ hsubmitted => ?_).trans hone
  simp only [TaskInfo.isSubmitted, decide_eq_true_eq] at hsubmitted
  simpa using hsubmitted.1

/-- **A completed task**: it was completed, and neither abandoned nor accepted since. -/
theorem completed_event (h : Run Step Ledger.empty es a) {task : TaskInfo}
    (htask : task ∈ a.tasks role_id) (hstatus : task.status = .COMPLETED) :
    ∃ earlier since, es = earlier ++ ⟨role_id, task.task_config_id, .completed⟩ :: since ∧
      ⟨role_id, task.task_config_id, .accepted⟩ ∉ since ∧
      ⟨role_id, task.task_config_id, .abandoned⟩ ∉ since := by
  induction es using List.reverseRecOn generalizing a task with
  | nil =>
    rw [← Run.nil_iff.1 h] at htask
    cases htask
  | append_singleton es e ih =>
    obtain ⟨b, hb, hstep⟩ := Run.snoc_iff.1 h
    have hordered : b.Ordered := hb.invariant (P := Ordered) (fun _ _ _ => Step.ordered) ordered_empty
    -- where the event is none of this task
    have hkeep : ∀ task₀ ∈ b.tasks role_id, task₀.task_config_id = task.task_config_id →
        task₀.status = .COMPLETED →
        (e.role_id = role_id → (e.kind = .accepted ∨ e.kind = .abandoned) →
          e.task_config_id ≠ task.task_config_id) →
        ∃ earlier since, es ++ [e] = earlier ++ ⟨role_id, task.task_config_id, .completed⟩ :: since ∧
          ⟨role_id, task.task_config_id, .accepted⟩ ∉ since ∧
          ⟨role_id, task.task_config_id, .abandoned⟩ ∉ since := by
      intro task₀ htask₀ hid hstatus₀ he
      obtain ⟨earlier, since, rfl, hacc, hab⟩ := ih hb htask₀ hstatus₀
      rw [hid] at hacc hab ⊢
      refine ⟨earlier, since ++ [e], by simp, ?_, ?_⟩
      · rw [List.mem_append, List.mem_singleton]
        rintro (hmem | rfl)
        · exact hacc hmem
        · exact he rfl (.inl rfl) rfl
      · rw [List.mem_append, List.mem_singleton]
        rintro (hmem | rfl)
        · exact hab hmem
        · exact he rfl (.inr rfl) rfl
    obtain ⟨hothers, given, hlife, -⟩ := hstep
    by_cases hrole : role_id = e.role_id
    · subst hrole
      rcases hlife.completed_before (hordered.nodup _) htask hstatus with
        ⟨hkind, hid⟩ | ⟨⟨task₀, htask₀, hid, hstatus₀⟩, hne⟩
      · refine ⟨es, [], ?_, List.not_mem_nil, List.not_mem_nil⟩
        rw [← hid, ← hkind]
      · exact hkeep task₀ htask₀ hid hstatus₀ fun _ => hne
    · rw [hothers role_id hrole] at htask
      exact hkeep task htask rfl hstatus fun he => absurd he.symm hrole

/-- A task is submitted after it was completed. -/
theorem submitted_event {before after : List Event}
    (h : Run Step Ledger.empty (before ++ ⟨role_id, c, .submitted⟩ :: after) a) :
    ∃ earlier since, before = earlier ++ ⟨role_id, c, .completed⟩ :: since ∧
      ⟨role_id, c, .accepted⟩ ∉ since ∧ ⟨role_id, c, .abandoned⟩ ∉ since := by
  obtain ⟨b, hb, hrest⟩ := Run.append_iff.1 h
  obtain ⟨b', ⟨-, given, hlife, -⟩, -⟩ := Run.cons_iff.1 hrest
  dsimp only at hlife
  generalize hl : b.tasks role_id = l at hlife
  generalize b'.tasks role_id = l' at hlife
  cases hlife with
  | @submitted x y task now hc hstatus =>
    have hmem : task ∈ b.tasks role_id := hl ▸ by simp
    exact hc ▸ completed_event hb hmem hstatus

end Ledger

/-! ## Rewards -/

theorem calls_events {s₀ s : TaskModule} {calls : List (ℤ × Op)} (hrun : Run Calls s₀ calls s) :
    ∃ es, Run Ledger.Step s₀.ledger es s.ledger := by
  induction hrun with
  | nil s => exact ⟨[], .nil _⟩
  | cons h1 _ ih =>
    obtain ⟨es, hes⟩ := h1.events
    obtain ⟨es', hes'⟩ := ih
    exact ⟨es ++ es', Run.append_iff.2 ⟨_, hes, hes'⟩⟩

theorem ledger_empty {s : TaskModule} (htasks : s.task_cache_ = ∅) (hrewarded : s.rewarded = []) :
    s.ledger = Ledger.empty := by
  unfold TaskModule.ledger
  rw [htasks, hrewarded]
  rfl

/-- No tasks yet, and one configuration: two monsters, for a role that has finished task 1. -/
def noTasks : TaskModule where
  task_cache_ := ∅
  daily_task_cache_ := ∅
  task_configs_ := (∅ : Dict ℤ TaskConfig).insert 2 {
    task_config_id := 2, task_name := "Hunt", type := .SUB, level_requirement := 1, pre_task_id := 1,
    conditions := [⟨1, 7, 2, 0⟩], rewards := [⟨2, 0, 50⟩], description := "" }
  tracked_tasks_ := ∅
  next_id := 1
  rewarded := []

end Ancfl.Game.Task
