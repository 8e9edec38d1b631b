/-
  The queue between the callers of `LogServer` and its worker thread.

  * `Sys`: the queue, the flag, where `ProcessLogQueue` is, and the batches of
    the producers; a step is one locked section, one test of the flag or one
    `WriteLog`; `pushed`, `accepted` and `written` record what happens;
  * `Inv`: the records are written in the order in which they were pushed;
  * `exactlyOnce_iff`: the records accepted before `Stop` are written iff
    `ProcessLogQueue` still takes all that are queued when the flag is set.
-/
import Ancfl.Lib.Run
import Mathlib.Data.Finmap

namespace Ancfl.Game.LogQueue

open Lib

/-- Where `ProcessLogQueue` is; `R` are the log records. -/
inductive Worker (R : Type)
  /-- before the test of `stop_flag_` in the head of the loop -/
  | head
  /-- before the locked section, or in its `wait` -/
  | waiting
  /-- in the loop over `records`, with those that are left -/
  | writing (records : List R)
  | returned
deriving DecidableEq

/-- `T` are the producers. -/
structure Sys (T R : Type) where
  log_queue : List R
  stop_flag : Bool
  worker : Worker R
  /-- the producers in `WriteLogAsync` or `WriteLogBatch`, with the records they have still to push -/
  batches : Finmap fun _ : T => List R
  /-- all records that were pushed -/
  pushed : List R
  /-- those that were pushed before `Stop` -/
  accepted : List R
  /-- the records that `WriteLog` was called with -/
  written : List R

inductive Label (T R : Type)
  | WriteLogAsync (t : T) (record : R)
  | WriteLogBatch (t : T) (records : List R)
  /-- the locked section of `WriteLogAsync` -/
  | push (t : T)
  /-- `stop_flag_ = true` in `Stop` -/
  | stop
  /-- the next step of `ProcessLogQueue` -/
  | work

variable {T R : Type}

def init (T R : Type) : Sys T R := ⟨[], false, .head, ∅, [], [], []⟩

def begin [DecidableEq T] (s : Sys T R) (t : T) (records : List R) : Option (Sys T R) :=
  if t ∈ s.batches then none else some { s with batches := s.batches.insert t records }

/-- A step of `ProcessLogQueue`; none while it waits. -/
def work (s : Sys T R) : Option (Sys T R) :=
  match s.worker with
  | .head => some { s with worker := if s.stop_flag then .returned else .waiting }
  | .waiting =>
    match s.log_queue with
    | [] => if s.stop_flag then some { s with worker := .returned } else none
    | queue => some { s with worker := .writing (queue.take 100), log_queue := queue.drop 100 }
  | .writing [] => some { s with worker := .head }
  | .writing (record :: records) =>
    some { s with worker := .writing records, written := s.written ++ [record] }
  | .returned => none

def next [DecidableEq T] (s : Sys T R) : Label T R → Option (Sys T R)
  | .WriteLogAsync t record => begin s t [record]
  | .WriteLogBatch t records => begin s t records
  | .push t =>
    match s.batches.lookup t with
    | none => none
    | some [] => some { s with batches := s.batches.erase t }
    | some (record :: records) => some { s with
        log_queue := s.log_queue ++ [record]
        pushed := s.pushed ++ [record]
        batches := s.batches.insert t records }
  | .stop => if s.stop_flag then none else some { s with stop_flag := true, accepted := s.pushed }
  | .work => work s

def step [DecidableEq T] (s : Sys T R) (l : Label T R) (s' : Sys T R) : Prop := next s l = some s'

/-- The records that the worker has taken and not written. -/
def Worker.records : Worker R → List R
  | .writing records => records
  | .head | .waiting | .returned => []

/-- Every record accepted before `Stop` was written once, in order: what was written is a beginning
    of what was pushed, and contains them. -/
def ExactlyOnce (s : Sys T R) : Prop := s.written <+: s.pushed ∧ s.accepted <+: s.written

/-- All that is queued will still be taken: nothing is, or the worker has passed the head of the loop
    and takes as many. -/
def Drained (s : Sys T R) : Prop :=
  s.log_queue = [] ∨ s.worker = .waiting ∧ s.log_queue.length ≤ 100

/-! ## The order of the records -/

/-- What a step of the worker does. -/
inductive Works (s : Sys T R) : Sys T R → Prop
  | enter (hworker : s.worker = .head) (hstop : s.stop_flag = false) :
    Works s { s with worker := .waiting }
  | leave (hworker : s.worker = .head ∨ s.worker = .waiting ∧ s.log_queue = [])
      (hstop : s.stop_flag = true) : Works s { s with worker := .returned }
  | take (hworker : s.worker = .waiting) :
    Works s { s with worker := .writing (s.log_queue.take 100), log_queue := s.log_queue.drop 100 }
  | write {record : R} {records : List R} (hworker : s.worker = .writing (record :: records)) :
    Works s { s with worker := .writing records, written := s.written ++ [record] }
  | again (hworker : s.worker = .writing []) : Works s { s with worker := .head }

theorem works {s s' : Sys T R} (h : work s = some s') : Works s s' := by
  obtain ⟨queue, flag, worker, batches, pushed, accepted, written⟩ := s
  cases worker with
  | head =>
    cases flag with
    | false => cases h; exact .enter rfl rfl
    | true => cases h; exact .leave (.inl rfl) rfl
  | waiting =>
    cases queue with
    | nil =>
      cases flag with
      | false => cases h
      | true => cases h; exact .leave (.inr ⟨rfl, rfl⟩) rfl
    | cons record queue => cases h; exact .take rfl
  | writing records =>
    cases records with
    | nil => cases h; exact .again rfl
    | cons record records => cases h; exact .write rfl
  | returned => cases h

/-- What a step does: a producer pushes at most one record, or `Stop` sets the flag, or the worker
    takes a step. -/
inductive Steps (s : Sys T R) : Sys T R → Prop
  | idle (batches : Finmap fun _ : T => List R) : Steps s { s with batches := batches }
  | push (record : R) (batches : Finmap fun _ : T => List R) :
    Steps s { s with log_queue := s.log_queue ++ [record], pushed := s.pushed ++ [record], batches := batches }
  | stop (hstop : s.stop_flag = false) : Steps s { s with stop_flag := true, accepted := s.pushed }
  | work {s' : Sys T R} (h : Works s s') : Steps s s'

theorem steps [DecidableEq T] {s s' : Sys T R} {l : Label T R} (hstep : step s l s') : Steps s s' := by
  have hbegin {t : T} {records : List R} (h : begin s t records = some s') : Steps s s' := by
    rw [begin] at h
    split_ifs at h
    cases h
    exact .idle _
  cases l with
  | WriteLogAsync t record => exact hbegin hstep
  | WriteLogBatch t records => exact hbegin hstep
  | push t =>
    rw [step, next] at hstep
    split at hstep
    · cases hstep
    · cases hstep; exact .idle _
    · next record records _ => cases hstep; exact .push record _
  | stop =>
    rw [step, next] at hstep
    split_ifs at hstep with hstop
    cases hstep
    exact .stop (Bool.eq_false_iff.2 hstop)
  | work => exact .work (works hstep)

/-- The records pushed are those written, those taken and those queued, in this order; no record
    counts as accepted before `Stop`, and the accepted ones were pushed first. -/
structure Inv (s : Sys T R) : Prop where
  order : s.pushed = s.written ++ s.worker.records ++ s.log_queue
  accepted : s.accepted <+: s.pushed

theorem Works.inv {s s' : Sys T R} (hworks : Works s s') (h : Inv s) : Inv s' := by
  have horder := h.order
  cases hworks with
  | enter hworker _ => exact ⟨by rw [horder, hworker]; rfl, h.accepted⟩
  | leave hworker _ =>
    refine ⟨?_, h.accepted⟩
    rcases hworker with hworker | ⟨hworker, -⟩ <;> rw [horder, hworker] <;> rfl
  | take hworker =>
    refine ⟨?_, h.accepted⟩
    show s.pushed = s.written ++ s.log_queue.take 100 ++ s.log_queue.drop 100
    rw [horder, hworker, List.append_assoc _ (List.take _ _), List.take_append_drop]
    simp [Worker.records]
  | @write record records hworker =>
    refine ⟨?_, h.accepted⟩
    show s.pushed = s.written ++ [record] ++ records ++ s.log_queue
    rw [horder, hworker]
    simp [Worker.records]
  | again hworker => exact ⟨by rw [horder, hworker]; rfl, h.accepted⟩

theorem step_inv [DecidableEq T] {s s' : Sys T R} {l : Label T R} (hstep : step s l s') (h : Inv s) : Inv s' := by
  cases steps hstep with
  | idle batches => exact ⟨h.order, h.accepted⟩
  | push record batches =>
    refine ⟨?_, h.accepted.trans (List.prefix_append _ _)⟩
    show s.pushed ++ [record] = s.written ++ s.worker.records ++ (s.log_queue ++ [record])
    rw [h.order, List.append_assoc _ s.log_queue]
  | stop _ => exact ⟨h.order, List.prefix_rfl⟩
  | work hworks => exact hworks.inv h

/-! ## After `Stop` -/

/-- The records that will be written, if the worker is told to stop. -/
def Sys.due (s : Sys T R) : List R :=
  s.written ++ match s.worker with
    | .waiting => s.log_queue.take 100
    | .writing records => records
    | .head | .returned => []

theorem due_waiting {s : Sys T R} (h : s.worker = .waiting) :
    s.due = s.written ++ s.log_queue.take 100 := by
  rw [Sys.due, h]

theorem due_of_ne {s : Sys T R} (h : s.worker ≠ .waiting) :
    s.due = s.written ++ s.worker.records := by
  rw [Sys.due]
  cases hworker : s.worker with
  | waiting => exact absurd hworker h
  | head => rfl
  | writing records => rfl
  | returned => rfl

theorem Works.due {s s' : Sys T R} (hworks : Works s s') (hstop : s.stop_flag = true) :
    s'.due = s.due := by
  cases hworks with
  | enter _ hfalse => rw [hstop] at hfalse; cases hfalse
  | leave hworker _ =>
    show s.written ++ [] = s.due
    rcases hworker with hworker | ⟨hworker, hqueue⟩
    · rw [Sys.due, hworker]
    · rw [due_waiting hworker, hqueue, List.take_nil]
  | take hworker => exact (due_waiting hworker).symm
  | @write record records hworker =>
    show s.written ++ [record] ++ records = s.due
    rw [Sys.due, hworker, List.append_assoc, List.singleton_append]
  | again hworker =>
    show s.written ++ [] = s.due
    rw [Sys.due, hworker]

/-- A record that is pushed after `Stop` may be written, but takes no accepted one's place. -/
theorem push_due {s s' : Sys T R} (h : Inv s) (record : R)
    (hqueue : s'.log_queue = s.log_queue ++ [record]) (hworker : s'.worker = s.worker)
    (hwritten : s'.written = s.written) : s.accepted <+: s'.due ↔ s.accepted <+: s.due := by
  by_cases hwaiting : s.worker = .waiting
  · rw [due_waiting hwaiting, due_waiting (hworker.trans hwaiting), hqueue, hwritten]
    by_cases hlen : 100 ≤ s.log_queue.length
    · rw [List.take_append_of_le_length hlen]
    · -- all that is queued is taken, and so all that was accepted
      have hall : s.accepted <+: s.written ++ s.log_queue.take 100 := by
        rw [List.take_of_length_le (not_le.1 hlen).le]
        have haccepted := h.accepted
        rwa [h.order, hwaiting, Worker.records, List.append_nil] at haccepted
      refine iff_of_true (hall.trans ?_) hall
      exact (List.prefix_append_right_inj _).2 (List.prefix_append _ _ |>.take 100)
  · rw [due_of_ne hwaiting, due_of_ne (hworker ▸ hwaiting), hworker, hwritten]

/-- A step after `Stop` neither adds an accepted record to those that will be written, nor removes
    one. -/
theorem step_due [DecidableEq T] {s s' : Sys T R} {l : Label T R} (hstep : step s l s') (hstop : s.stop_flag = true)
    (h : Inv s) :
    s'.stop_flag = true ∧ s'.accepted = s.accepted ∧ (s.accepted <+: s'.due ↔ s.accepted <+: s.due) := by
  cases steps hstep with
  | idle batches => exact ⟨hstop, rfl, Iff.rfl⟩
  | push record batches => exact ⟨hstop, rfl, push_due h record rfl rfl rfl⟩
  | stop hfalse => rw [hstop] at hfalse; cases hfalse
  | work hworks =>
    have hdue := hworks.due hstop
    cases hworks with
    | enter _ _ => exact ⟨hstop, rfl, by rw [hdue]⟩
    | leave _ _ => exact ⟨hstop, rfl, by rw [hdue]⟩
    | take _ => exact ⟨hstop, rfl, by rw [hdue]⟩
    | write _ => exact ⟨hstop, rfl, by rw [hdue]⟩
    | again _ => exact ⟨hstop, rfl, by rw [hdue]⟩

/-- When the flag is set, the records that will be written are all iff the queue will be drained. -/
theorem due_iff_drained {s : Sys T R} (h : Inv s) : s.pushed <+: s.due ↔ Drained s := by
  have horder := h.order
  by_cases hwaiting : s.worker = .waiting
  · rw [due_waiting hwaiting, horder, hwaiting, Worker.records, List.append_nil,
      List.prefix_append_right_inj, Drained]
    constructor
    · intro hprefix
      have hlen := hprefix.length_le
      rw [List.length_take] at hlen
      exact .inr ⟨hwaiting, by omega⟩
    · rintro (hempty | ⟨-, hlen⟩)
      · rw [hempty]; exact List.nil_prefix
      · rw [List.take_of_length_le hlen]
  · rw [due_of_ne hwaiting, horder, Drained]
    constructor
    · intro hprefix
      have hlen := hprefix.length_le
      rw [List.length_append] at hlen
      exact .inl (List.length_eq_zero_iff.1 (by omega))
    · rintro (hempty | ⟨hwait, -⟩)
      · rw [hempty, List.append_nil]
      · exact absurd hwait hwaiting

/-- **The records accepted before `Stop` are written exactly once and in order** iff the worker still
    takes all that are queued when `Stop` sets the flag. -/
theorem exactlyOnce_iff [DecidableEq T] {ls ls' : List (Label T R)} {s s₁ s' : Sys T R}
    (hbefore : Run step (init T R) ls s) (hstop : step s .stop s₁) (hafter : Run step s₁ ls' s')
    (hreturned : s'.worker = .returned) : ExactlyOnce s' ↔ Drained s := by
  have hinv := hbefore.invariant (P := Inv) (fun _ _ _ h hs => step_inv hs h)
    ⟨rfl, List.prefix_rfl⟩
  rw [step, next] at hstop
  split_ifs at hstop with hflag
  cases hstop
  -- what will be written of the accepted records stays the same from `Stop` on
  have hrun := hafter.invariant (P := fun t => Inv t ∧ t.stop_flag = true ∧ t.accepted = s.pushed ∧
    (s.pushed <+: t.due ↔ s.pushed <+: s.due)) ?_ ?_
  · obtain ⟨hinv', -, haccepted, hdue⟩ := hrun
    have hwritten : s'.due = s'.written := by
      rw [Sys.due, hreturned, List.append_nil]
    rw [ExactlyOnce, haccepted, ← hwritten, hdue, due_iff_drained hinv, hwritten]
    refine and_iff_right ?_
    rw [hinv'.order, List.append_assoc]
    exact List.prefix_append _ _
  · rintro t l u ⟨ht, hflag', haccepted, hdue⟩ hstep
    obtain ⟨h1, h2, h3⟩ := step_due hstep hflag' ht
    rw [haccepted] at h2 h3
    exact ⟨step_inv hstep ht, h1, h2, h3.trans hdue⟩
  · exact ⟨⟨hinv.order, List.prefix_rfl⟩, rfl, rfl, Iff.rfl⟩

/-- Two records of a batch: one is written before `Stop`, the other is taken after it. -/
theorem exactlyOnce_two : ∃ s : Sys ℕ ℕ, ExactlyOnce s ∧ s.accepted = [5, 6] := by
  let s : Sys ℕ ℕ := ⟨[6], false, .waiting, (∅ : Finmap fun _ : ℕ => List ℕ).insert 0 [], [5, 6], [], [5]⟩
  have hbefore : Run step (init ℕ ℕ)
      [.WriteLogBatch 0 [5, 6], .push 0, .work, .work, .work, .work, .work, .push 0] s :=
    Run.of_foldlM rfl
  have hstop : step s .stop { s with stop_flag := true, accepted := [5, 6] } := rfl
  have hafter : Run step { s with stop_flag := true, accepted := [5, 6] }
      [.work, .work, .work, .work] _ := Run.of_foldlM rfl
  exact ⟨_, (exactlyOnce_iff hbefore hstop hafter rfl).2 (.inr ⟨rfl, by decide⟩), rfl⟩

/-- **A record that is queued when the worker finds the flag set is lost.** -/
theorem not_exactlyOnce : ¬∀ (ls ls' : List (Label ℕ ℕ)) (s s₁ s' : Sys ℕ ℕ),
    Run step (init ℕ ℕ) ls s → step s .stop s₁ → Run step s₁ ls' s' → s'.worker = .returned →
      ExactlyOnce s' := by
  intro h
  have hlost := (h [.WriteLogAsync 0 5, .push 0] [.work] _ _ _ (Run.of_foldlM rfl) rfl
    (Run.of_foldlM rfl) rfl).2
  exact absurd hlost (by decide)

end Ancfl.Game.LogQueue
