/-
  Requests of a `RockStream`: the contexts of `AsyncSocketStream`, and what
  responses, timeouts and closes do with them.

  * `Sys`: the contexts, `m_ctxs`, the timers and the fibers of the requests,
    and the activities of other threads (`Task`): a `doRecv` that has found a
    context, an `onTimeOut`, an `innerClose`, each up to the end of its `doRsp`;
  * `next`: each locked section, each access to a field of a context (with the
    test before it) and each compare-and-swap is one step;
  * `Inv.tokens`: the scheduler of a request is in its context, in the hand of
    the one activity that has swapped it out, or was used;
  * `resumed_of_run`: a request is scheduled at most once, and when no step is
    pending it has been, or has its timer or its entry.
-/
import Ancfl.Lib.Pool
import Ancfl.Lib.Run
import Mathlib.Data.List.AList
import Mathlib.Logic.Function.Basic
import Mathlib.Tactic.Common

namespace Ancfl.Requests

open Lib

/-! ## Contexts -/

def TIMEOUT : BitVec 32 := -1

def IO_ERROR : BitVec 32 := -2

def NOT_CONNECT : BitVec 32 := -3

/-- `P` are the bodies. -/
structure RockResponse (P : Type) where
  m_sn : BitVec 32
  m_result : BitVec 32
  m_body : P

/-- A `RockCtx`, but for its number and its request; `S` are the schedulers, `fiber` and `timer` say
    that the pointers are set. -/
structure Ctx (S P : Type) where
  result : BitVec 32 := 0
  timed : Bool := false
  scheduler : Option S := none
  fiber : Bool := false
  timer : Bool := false
  response : Option (RockResponse P) := none

/-- Where the fiber of a request is in `request`. -/
inductive Pc (P : Type)
  | start
  /-- it has returned `NOT_CONNECT` -/
  | refused
  | addCtx
  | addTimer
  /-- at the assignment to `ctx->timer` -/
  | setTimer
  | enqueue
  | YieldToHold
  | suspended
  /-- at the read of `ctx->result` -/
  | readResult
  /-- at the read of `ctx->response` -/
  | readResponse (result : BitVec 32)
  | returned (result : BitVec 32) (response : Option (RockResponse P))

/-- The timer of a request: in the `TimerManager`, taken out of it to be called, called or cancelled. -/
inductive Timer
  | none
  | armed
  | due
  | ended
deriving DecidableEq

inductive By
  | doRecv
  | onTimeOut
  | innerClose
deriving DecidableEq

/-- Where an activity is. -/
inductive At (S P : Type)
  /-- `ctx->result = rsp->getResult()` -/
  | setResult (rsp : RockResponse P)
  /-- `ctx->response = rsp` -/
  | setResponse (rsp : RockResponse P)
  /-- `ctx->timed = true` -/
  | setTimed
  /-- `i.second->result = IO_ERROR` -/
  | setError
  /-- `doRsp`: `scd = scheduler` -/
  | load
  | compareAndSwap (scd : Option S)
  /-- `if (timer) timer->cancel()` -/
  | cancel (scd : S)
  /-- `if (timed) result = TIMEOUT` -/
  | test (scd : S)
  | schedule (scd : S)

/-- `R` are the requests; `rest` are the contexts that an `innerClose` has still before it. -/
structure Task (R S P : Type) where
  of : By
  ctx : R
  pc : At S P
  rest : List R := []

/-- `scheduled` counts how often the fiber of a request was scheduled. -/
structure Sys (R S P : Type) where
  m_ctxs : AList fun _ : BitVec 32 => R
  ctx : R → Ctx S P
  timers : R → Timer
  pc : R → Pc P
  tasks : List (Task R S P)
  scheduled : R → ℕ

inductive Label (R S P : Type)
  /-- `request`, in a fiber of the scheduler -/
  | request (r : R) (isConnected : Bool) (scheduler : S)
  /-- the next step of the fiber of a request -/
  | fiber (r : R)
  /-- a response is received -/
  | doRecv (rsp : RockResponse P)
  /-- `listExpiredCb` takes the timer -/
  | expire (r : R)
  | onTimeOut (r : R)
  /-- `ctxs` are what it swaps out, in the order of its loop -/
  | innerClose (ctxs : List R)
  /-- the next step of the `n`-th activity -/
  | run (n : ℕ)

variable {R S P : Type} [DecidableEq R]

def init (R S P : Type) : Sys R S P where
  m_ctxs := ∅
  ctx _ := {}
  timers _ := .none
  pc _ := .start
  tasks := []
  scheduled _ := 0

namespace Sys

def setCtx (s : Sys R S P) (r : R) (ctx : Ctx S P) : Sys R S P :=
  { s with ctx := Function.update s.ctx r ctx }

def goto (s : Sys R S P) (r : R) (pc : Pc P) : Sys R S P :=
  { s with pc := Function.update s.pc r pc }

end Sys

section
variable (sn : R → BitVec 32)

/-- `m_ctxs.insert`, which keeps an entry that is there. -/
def insert (m_ctxs : AList fun _ : BitVec 32 => R) (r : R) : AList fun _ : BitVec 32 => R :=
  if sn r ∈ m_ctxs then m_ctxs else m_ctxs.insert (sn r) r

/-- The next step of the fiber of a request. -/
def fiberStep (s : Sys R S P) (r : R) : Option (Sys R S P) :=
  match s.pc r with
  | .addCtx => some { s.goto r .addTimer with m_ctxs := insert sn s.m_ctxs r }
  | .addTimer => some { s.goto r .setTimer with timers := Function.update s.timers r .armed }
  | .setTimer => some ((s.setCtx r { s.ctx r with timer := true }).goto r .enqueue)
  | .enqueue => some (s.goto r .YieldToHold)
  | .YieldToHold => some (s.goto r .suspended)
  | .suspended => if 0 < s.scheduled r then some (s.goto r .readResult) else none
  | .readResult => some (s.goto r (.readResponse (s.ctx r).result))
  | .readResponse result => some (s.goto r (.returned result (s.ctx r).response))
  | _ => none

/-- An `innerClose` at the next of its contexts. -/
def Task.close : List R → List (Task R S P)
  | [] => []
  | r :: rest => [{ of := .innerClose, ctx := r, pc := .setError, rest := rest }]

variable [DecidableEq S]

/-- One step of an activity, and what is left of it. -/
def runTask (s : Sys R S P) (k : Task R S P) : Sys R S P × List (Task R S P) :=
  let ctx := s.ctx k.ctx
  match k.pc with
  | .setResult rsp =>
    (s.setCtx k.ctx { ctx with result := rsp.m_result }, [{ k with pc := .setResponse rsp }])
  | .setResponse rsp =>
    (s.setCtx k.ctx { ctx with response := some rsp }, [{ k with pc := .load }])
  | .setTimed => (s.setCtx k.ctx { ctx with timed := true }, [{ k with pc := .load }])
  | .setError => (s.setCtx k.ctx { ctx with result := IO_ERROR }, [{ k with pc := .load }])
  | .load => (s, [{ k with pc := .compareAndSwap ctx.scheduler }])
  | .compareAndSwap scd =>
    if ctx.scheduler ≠ scd then (s, Task.close k.rest)
    else
      let s := s.setCtx k.ctx { ctx with scheduler := none }
      match scd with
      | none => (s, Task.close k.rest)
      | some scd => if ctx.fiber then (s, [{ k with pc := .cancel scd }]) else (s, Task.close k.rest)
  | .cancel scd =>
    let s' := if ctx.timer then
        { s.setCtx k.ctx { ctx with timer := false } with
          timers := Function.update s.timers k.ctx
            (if s.timers k.ctx = .armed then .ended else s.timers k.ctx) }
      else s
    (s', [{ k with pc := .test scd }])
  | .test scd =>
    (if ctx.timed then s.setCtx k.ctx { ctx with result := TIMEOUT } else s,
      [{ k with pc := .schedule scd }])
  | .schedule _ =>
    ({ s.setCtx k.ctx { ctx with fiber := false } with
        scheduled := Function.update s.scheduled k.ctx (s.scheduled k.ctx + 1) }, Task.close k.rest)

def next (s : Sys R S P) : Label R S P → Option (Sys R S P)
  | .request r isConnected scheduler =>
    match s.pc r with
    | .start =>
      if isConnected then
        some ((s.setCtx r { scheduler := some scheduler, fiber := true }).goto r .addCtx)
      else some (s.goto r .refused)
    | _ => none
  | .fiber r => fiberStep sn s r
  | .doRecv rsp =>
    -- `getAndDelCtx`
    match s.m_ctxs.lookup rsp.m_sn with
    | none => some s
    | some r => some { s with
        m_ctxs := s.m_ctxs.erase rsp.m_sn
        tasks := s.tasks ++ [{ of := .doRecv, ctx := r, pc := .setResult rsp }] }
  | .expire r =>
    if s.timers r = .armed then some { s with timers := Function.update s.timers r .due } else none
  | .onTimeOut r =>
    if s.timers r = .due then
      some { s with
        timers := Function.update s.timers r .ended
        m_ctxs := s.m_ctxs.erase (sn r)
        tasks := s.tasks ++ [{ of := .onTimeOut, ctx := r, pc := .setTimed }] }
    else none
  | .innerClose ctxs =>
    if ctxs.Perm (s.m_ctxs.entries.map Sigma.snd) then some { s with
        m_ctxs := ∅
        tasks := s.tasks ++ Task.close ctxs }
    else none
  | .run n => s.tasks[n]?.map fun k =>
      let (s', ks) := runTask s k
      { s' with tasks := s.tasks.eraseIdx n ++ ks }

def step (s : Sys R S P) (l : Label R S P) (s' : Sys R S P) : Prop := next sn s l = some s'

end

/-! ## What is to hold -/

/-- The context of the request was added. -/
def Pc.Added : Pc P → Prop
  | .start | .refused | .addCtx => False
  | _ => True

/-- No step is pending: the fibers wait, or have not begun or have returned. -/
structure Quiet (s : Sys R S P) : Prop where
  tasks : s.tasks = []
  timers : ∀ r, s.timers r ≠ .due
  fibers : ∀ r, (s.pc r).Added → s.pc r = .suspended ∨ ∃ result response,
    s.pc r = .returned result response

/-- A request is scheduled at most once; with no step pending it has been, or can still be. -/
def Once (sn : R → BitVec 32) (s : Sys R S P) : Prop :=
  (∀ r, s.scheduled r ≤ 1) ∧
  (Quiet s → ∀ r, (s.pc r).Added →
    s.scheduled r = 1 ∨ s.timers r = .armed ∨ s.m_ctxs.lookup (sn r) = some r)

/-! ## Steps of the activities -/

/-- Past a swap of the scheduler that was not null. -/
def At.won : At S P → Bool
  | .cancel _ | .test _ | .schedule _ => true
  | _ => false

/-- One if the activity has swapped the scheduler of the request. -/
def Task.wins (r : R) (k : Task R S P) : ℕ := if k.ctx = r ∧ k.pc.won then 1 else 0

omit [DecidableEq R] in
theorem mem_close {rs : List R} {k : Task R S P} (h : k ∈ Task.close rs) :
    k.of = .innerClose ∧ k.pc = .setError ∧ k.ctx :: k.rest = rs := by
  cases rs with
  | nil => cases h
  | cons r rest =>
    rw [List.mem_singleton.1 h]
    exact ⟨rfl, rfl, rfl⟩

@[simp] theorem tally_wins_close (r : R) (rs : List R) :
    tally (Task.wins r) (Task.close rs : List (Task R S P)) = 0 :=
  tally_eq_zero.2 fun k hk => if_neg fun h => by
    rw [(mem_close hk).2.1] at h
    cases h.2

section
variable [DecidableEq S] {s : Sys R S P} {k k' : Task R S P} {r : R}

@[simp] theorem runTask_m_ctxs (s : Sys R S P) (k : Task R S P) :
    (runTask s k).1.m_ctxs = s.m_ctxs := by
  unfold runTask
  cases k.pc <;> simp only [] <;> (repeat' split) <;> rfl

@[simp] theorem runTask_pc (s : Sys R S P) (k : Task R S P) : (runTask s k).1.pc = s.pc := by
  unfold runTask
  cases k.pc <;> simp only [] <;> (repeat' split) <;> rfl

/-- What is left is at the same context, or an `innerClose` at the next one. -/
theorem runTask_snd (s : Sys R S P) (k : Task R S P) :
    (runTask s k).2 = Task.close k.rest ∨ ∃ pc, (runTask s k).2 = [{ k with pc := pc }] := by
  unfold runTask
  cases k.pc
  case compareAndSwap scd =>
    simp only []
    split
    · exact .inl rfl
    · cases scd with
      | none => exact .inl rfl
      | some scd =>
        simp only []
        split
        · exact .inr ⟨_, rfl⟩
        · exact .inl rfl
  case schedule => exact .inl rfl
  all_goals exact .inr ⟨_, rfl⟩

theorem mem_runTask (h : k' ∈ (runTask s k).2) :
    (k'.of = k.of ∧ k'.ctx = k.ctx ∧ k'.rest = k.rest) ∨ k' ∈ Task.close k.rest := by
  rcases runTask_snd s k with hk | ⟨pc, hk⟩ <;> rw [hk] at h
  · exact .inr h
  · exact .inl (List.mem_singleton.1 h ▸ ⟨rfl, rfl, rfl⟩)

/-- The other contexts are as they were. -/
theorem runTask_of_ne (h : r ≠ k.ctx) :
    (runTask s k).1.ctx r = s.ctx r ∧ (runTask s k).1.scheduled r = s.scheduled r ∧
      (runTask s k).1.timers r = s.timers r := by
  unfold runTask
  cases k.pc <;> simp only [] <;> (repeat' split) <;> simp [Sys.setCtx, h]

/-- Each scheduler that is taken goes to the activity that swaps it, and each of these schedules its
    fiber. -/
theorem runTask_tokens (hfiber : (s.ctx r).scheduler.isSome → (s.ctx r).fiber) :
    ((runTask s k).1.ctx r).scheduler.isSome.toNat + tally (Task.wins r) (runTask s k).2 +
      (runTask s k).1.scheduled r =
    (s.ctx r).scheduler.isSome.toNat + k.wins r + s.scheduled r := by
  by_cases hr : r = k.ctx
  · subst hr
    unfold runTask
    cases hk : k.pc <;> simp only [Task.wins, hk, At.won]
    case compareAndSwap scd =>
      by_cases hscd : (s.ctx k.ctx).scheduler = scd
      · cases scd with
        | none => simp [hscd, Sys.setCtx]
        | some scd =>
          have hf := hfiber (by rw [hscd]; rfl)
          simp [hscd, hf, Sys.setCtx, Task.wins, At.won]
      · simp [hscd]
    case cancel => split <;> simp [Sys.setCtx, Task.wins, At.won]
    case test => split <;> simp [Sys.setCtx, Task.wins, At.won]
    case schedule =>
      simp [Sys.setCtx]
      omega
    all_goals simp [Sys.setCtx, Task.wins, At.won]
  · obtain ⟨hctx, hsched, -⟩ := runTask_of_ne (s := s) hr
    have hzero : tally (Task.wins r) (runTask s k).2 = 0 := by
      refine tally_eq_zero.2 fun k' hk' => if_neg fun h => ?_
      rcases mem_runTask hk' with ⟨-, hk, -⟩ | hk
      · exact hr (h.1 ▸ hk)
      · rw [(mem_close hk).2.1] at h
        cases h.2
    rw [hctx, hsched, hzero, Task.wins, if_neg fun h => hr h.1.symm]

theorem runTask_scheduler (s : Sys R S P) (k : Task R S P) (r : R) :
    ((runTask s k).1.ctx r).scheduler = none ∨
      ((runTask s k).1.ctx r).scheduler = (s.ctx r).scheduler := by
  by_cases hr : r = k.ctx
  · subst hr
    unfold runTask
    cases k.pc <;> simp only [] <;> (repeat' split) <;> simp [Sys.setCtx]
  · exact .inr (by rw [(runTask_of_ne hr).1])

theorem runTask_fiber (h : (runTask s k).1.scheduled r = 0) :
    ((runTask s k).1.ctx r).fiber = (s.ctx r).fiber ∧ s.scheduled r = 0 := by
  by_cases hr : r = k.ctx
  · subst hr
    revert h
    unfold runTask
    cases k.pc <;> simp only [] <;> (repeat' split) <;> simp [Sys.setCtx]
  · obtain ⟨hctx, hsched, -⟩ := runTask_of_ne (s := s) hr
    exact ⟨by rw [hctx], hsched ▸ h⟩

/-- A timer is cancelled by an activity that has swapped the scheduler. -/
theorem runTask_timers (s : Sys R S P) (k : Task R S P) (r : R) :
    (runTask s k).1.timers r = s.timers r ∨
      (k.wins r = 1 ∧ s.timers r = .armed ∧ (runTask s k).1.timers r = .ended) := by
  by_cases hr : r = k.ctx
  · subst hr
    unfold runTask Task.wins
    cases k.pc <;> simp only [At.won] <;> (repeat' split) <;> simp_all [Sys.setCtx]
  · exact .inl (runTask_of_ne hr).2.2

/-- The scheduler that an activity compares with is the one it has read. -/
theorem runTask_compareAndSwap {scd : Option S} (h : k' ∈ (runTask s k).2)
    (hk' : k'.pc = .compareAndSwap scd) : ((runTask s k).1.ctx k'.ctx).scheduler = scd := by
  have hclose : k' ∉ Task.close k.rest := fun hk => by
    rw [(mem_close hk).2.1] at hk'
    cases hk'
  cases hpc : k.pc
  case load =>
    simp only [runTask, hpc] at h ⊢
    rw [List.mem_singleton.1 h] at hk' ⊢
    cases hk'
    rfl
  case compareAndSwap =>
    simp only [runTask, hpc] at h
    revert h
    (repeat' split) <;> intro h
    all_goals first
      | exact absurd h hclose
      | (rw [List.mem_singleton.1 h] at hk'; cases hk')
  case schedule =>
    simp only [runTask, hpc] at h
    exact absurd h hclose
  all_goals
    simp only [runTask, hpc] at h
    rw [List.mem_singleton.1 h] at hk'
    cases hk'

/-- An activity that does not find its scheduler leaves none. -/
theorem runTask_waits (hk : k.pc.won = false)
    (hswap : ∀ scd, k.pc = .compareAndSwap scd →
      (s.ctx k.ctx).scheduler = none ∨ (s.ctx k.ctx).scheduler = scd)
    (h : ((runTask s k).1.ctx k.ctx).scheduler ≠ none) :
    ∃ k' ∈ (runTask s k).2, k'.of = k.of ∧ k'.ctx = k.ctx ∧ k'.pc.won = false := by
  revert h
  unfold runTask
  cases hpc : k.pc <;> simp only [] <;> (repeat' split) <;> simp_all [Sys.setCtx, At.won]

end

/-! ## Runs -/

/-- The context of the request was made. -/
def Pc.made : Pc P → Bool
  | .start | .refused => false
  | _ => true

/-- In the `TimerManager`, or about to be called. -/
def Timer.live : Timer → Bool
  | .armed | .due => true
  | _ => false

/-- Something is still to swap the scheduler of the request. -/
def Sys.Waits (s : Sys R S P) (r : R) : Prop :=
  s.pc r = .addTimer ∨ (s.timers r).live ∨ ∃ k ∈ s.tasks, k.ctx = r ∧ k.pc.won = false

/-- The scheduler of a request is in its context, in the hand of one activity, or has been used. -/
structure Inv (s : Sys R S P) : Prop where
  tokens : ∀ r, (s.ctx r).scheduler.isSome.toNat + tally (Task.wins r) s.tasks + s.scheduled r =
    (s.pc r).made.toNat
  entries : ∀ e ∈ s.m_ctxs.entries, (s.pc e.2).Added
  tasks : ∀ k ∈ s.tasks, ∀ r ∈ k.ctx :: k.rest, (s.pc r).Added
  timers : ∀ r, s.timers r ≠ .none → (s.pc r).Added
  swaps : ∀ k ∈ s.tasks, ∀ scd, k.pc = .compareAndSwap scd →
    (s.ctx k.ctx).scheduler = none ∨ (s.ctx k.ctx).scheduler = scd
  fiber : ∀ r, (s.pc r).made → s.scheduled r = 0 → (s.ctx r).fiber
  waits : ∀ r, (s.pc r).Added → (s.ctx r).scheduler ≠ none → s.Waits r

theorem init_inv (R S P : Type) [DecidableEq R] : Inv (init R S P) where
  tokens _ := rfl
  entries _ he := nomatch he
  tasks _ hk := nomatch hk
  timers _ h := absurd rfl h
  swaps _ hk := nomatch hk
  fiber _ h := nomatch h
  waits _ h := h.elim

section
variable {s s' : Sys R S P} {r : R} {sn : R → BitVec 32}

theorem Pc.Added.made {pc : Pc P} (h : pc.Added) : pc.made := by
  cases pc <;> first | rfl | exact h.elim

/-- The scheduler is there only as long as the fiber was not scheduled. -/
theorem Inv.scheduled_eq_zero (hinv : Inv s) (h : (s.ctx r).scheduler.isSome) :
    s.scheduled r = 0 ∧ (s.pc r).made := by
  have ht := hinv.tokens r
  rw [h] at ht
  cases hm : (s.pc r).made <;> rw [hm] at ht <;> simp at ht
  exact ⟨by omega, rfl⟩

/-- Nothing has won a context that has its scheduler. -/
theorem Inv.wins_eq_zero (hinv : Inv s) (h : (s.ctx r).scheduler ≠ none) :
    ∀ k ∈ s.tasks, k.wins r = 0 := by
  have ht := hinv.tokens r
  have hle := (s.pc r).made.toNat_le
  rw [Option.isSome_iff_ne_none.2 h, Bool.toNat_true] at ht
  exact tally_eq_zero.1 (by omega)

/-- New activities, of contexts that were added. -/
theorem Inv.spawn (hinv : Inv s) {m_ctxs : AList fun _ : BitVec 32 => R} {timers : R → Timer}
    {ks : List (Task R S P)} (hsub : ∀ e ∈ m_ctxs.entries, e ∈ s.m_ctxs.entries)
    (hadded : ∀ k ∈ ks, ∀ r ∈ k.ctx :: k.rest, (s.pc r).Added)
    (hfresh : ∀ k ∈ ks, k.pc.won = false ∧ ∀ scd, k.pc ≠ .compareAndSwap scd)
    (htimers : ∀ r, timers r = s.timers r ∨
      (s.timers r ≠ .none ∧ ((timers r).live ∨ ∃ k ∈ ks, k.ctx = r))) :
    Inv { s with m_ctxs := m_ctxs, timers := timers, tasks := s.tasks ++ ks } where
  tokens r := by
    have hzero : tally (Task.wins r) ks = 0 :=
      tally_eq_zero.2 fun k hk => if_neg fun h => by
        rw [(hfresh k hk).1] at h
        cases h.2
    simp only [tally_append, hzero, Nat.add_zero]
    exact hinv.tokens r
  entries e he := hinv.entries e (hsub e he)
  tasks k hk := (List.mem_append.1 hk).elim (hinv.tasks k) (hadded k)
  timers r hr := by
    rcases htimers r with h | h
    · exact hinv.timers r fun hnone => hr (h.trans hnone)
    · exact hinv.timers r h.1
  swaps k hk scd hscd := (List.mem_append.1 hk).elim (fun hk => hinv.swaps k hk scd hscd)
    fun hk => absurd hscd ((hfresh k hk).2 scd)
  fiber := hinv.fiber
  waits r hr hne := by
    rcases hinv.waits r hr hne with h | h | ⟨k, hk, hwait⟩
    · exact .inl h
    · rcases htimers r with htimer | ⟨-, hlive | ⟨k, hk, hctx⟩⟩
      · exact .inr (.inl ((congrArg Timer.live htimer).trans h))
      · exact .inr (.inl hlive)
      · exact .inr (.inr ⟨k, List.mem_append_right _ hk, hctx, (hfresh k hk).1⟩)
    · exact .inr (.inr ⟨k, List.mem_append_left _ hk, hwait⟩)

/-- The fiber of a request goes on to `pc`. -/
theorem Inv.goto (hinv : Inv s) (hr : (s.pc r).made) (pc : Pc P) (hpc : pc.Added)
    {m_ctxs : AList fun _ : BitVec 32 => R} {ctx : R → Ctx S P} {timers : R → Timer}
    (hentries : ∀ e ∈ m_ctxs.entries, e ∈ s.m_ctxs.entries ∨ e.2 = r)
    (hctx : ∀ r, (ctx r).scheduler = (s.ctx r).scheduler ∧ (ctx r).fiber = (s.ctx r).fiber)
    (htimers : ∀ r', r' = r ∨ timers r' = s.timers r')
    (hwaits : (s.ctx r).scheduler ≠ none → pc = .addTimer ∨ (timers r).live ∨
      ∃ k ∈ s.tasks, k.ctx = r ∧ k.pc.won = false) :
    Inv { s with m_ctxs := m_ctxs, ctx := ctx, timers := timers, pc := Function.update s.pc r pc } := by
  have hmade (r' : R) : (Function.update s.pc r pc r').made = (s.pc r').made := by
    by_cases h : r' = r
    · rw [h, Function.update_self, hpc.made, hr]
    · rw [Function.update_of_ne h]
  have hadded (r' : R) (h : r' = r ∨ (s.pc r').Added) : (Function.update s.pc r pc r').Added := by
    by_cases hr' : r' = r
    · rwa [hr', Function.update_self]
    · rw [Function.update_of_ne hr']
      exact h.resolve_left hr'
  constructor
  · intro r'
    simp only [hmade, hctx]
    exact hinv.tokens r'
  · intro e he
    exact hadded e.2 ((hentries e he).symm.imp_right (hinv.entries e))
  · exact fun k hk r' hr' => hadded r' (.inr (hinv.tasks k hk r' hr'))
  · intro r' hr'
    exact hadded r' ((htimers r').imp_right fun h => hinv.timers r' fun hnone => hr' (h.trans hnone))
  · intro k hk scd hscd
    simp only [hctx]
    exact hinv.swaps k hk scd hscd
  · intro r' hr' hsched
    simp only [hmade] at hr'
    simp only [hctx]
    exact hinv.fiber r' hr' hsched
  · intro r' hr' hne
    simp only [hctx] at hne
    by_cases h : r' = r
    · subst h
      simpa only [Sys.Waits, Function.update_self] using hwaits hne
    · simp only [Function.update_of_ne h] at hr'
      simpa only [Sys.Waits, Function.update_of_ne h, (htimers r').resolve_left h] using
        hinv.waits r' hr' hne

omit [DecidableEq R] in
theorem mem_insert {m_ctxs : AList fun _ : BitVec 32 => R} {e : Σ _ : BitVec 32, R}
    (he : e ∈ (insert sn m_ctxs r).entries) : e = ⟨sn r, r⟩ ∨ e ∈ m_ctxs.entries := by
  unfold insert at he
  split at he
  · exact .inr he
  · rw [AList.entries_insert_of_notMem ‹_›] at he
    exact List.mem_cons.1 he

theorem fiberStep_inv (hinv : Inv s) (h : fiberStep sn s r = some s') : Inv s' := by
  have hold (hadded : (s.pc r).Added) (hpc : s.pc r ≠ .addTimer)
      (hne : (s.ctx r).scheduler ≠ none) :
      (s.timers r).live ∨ ∃ k ∈ s.tasks, k.ctx = r ∧ k.pc.won = false :=
    (hinv.waits r hadded hne).resolve_left hpc
  have hgo {pc : Pc P} (hadded : (s.pc r).Added) (hpc : s.pc r ≠ .addTimer) (hpc' : pc.Added) :
      Inv (s.goto r pc) :=
    hinv.goto hadded.made pc hpc' (fun _ he => .inl he) (fun _ => ⟨rfl, rfl⟩) (fun _ => .inr rfl)
      fun hne => .inr (hold hadded hpc hne)
  unfold fiberStep at h
  cases hpc : s.pc r <;> simp only [hpc] at h hgo hold
  case addCtx =>
    cases h
    refine hinv.goto (by rw [hpc]; rfl) .addTimer trivial (fun e he => ?_) (fun _ => ⟨rfl, rfl⟩)
      (fun _ => .inr rfl) fun _ => .inl rfl
    exact (mem_insert he).symm.imp_right fun h => by rw [h]
  case addTimer =>
    cases h
    refine hinv.goto (by rw [hpc]; rfl) .setTimer trivial (fun _ he => .inl he) (fun _ => ⟨rfl, rfl⟩)
      (fun r' => ?_) fun _ => .inr (.inl ?_)
    · by_cases h : r' = r
      · exact .inl h
      · exact .inr (Function.update_of_ne h _ _)
    · rw [Function.update_self]
      rfl
  case setTimer =>
    cases h
    refine hinv.goto (by rw [hpc]; rfl) .enqueue trivial (fun _ he => .inl he) (fun r' => ?_)
      (fun _ => .inr rfl) fun hne => .inr (hold trivial nofun hne)
    dsimp only [Sys.setCtx]
    by_cases h : r' = r
    · rw [h, Function.update_self]
      exact ⟨rfl, rfl⟩
    · rw [Function.update_of_ne h]
      exact ⟨rfl, rfl⟩
  case suspended =>
    split at h
    · cases h
      exact hgo trivial nofun trivial
    · cases h
  case start => cases h
  case refused => cases h
  case returned => cases h
  all_goals
    cases h
    exact hgo trivial nofun trivial

omit [DecidableEq R] in
theorem mem_erase {m_ctxs : AList fun _ : BitVec 32 => R} {a : BitVec 32}
    {e : Σ _ : BitVec 32, R} (h : e ∈ (m_ctxs.erase a).entries) : e ∈ m_ctxs.entries :=
  (List.kerase_sublist _ _).subset h

/-- A request begins: it was not added, and it is not yet. -/
theorem added_update {pc : Pc P} (h : ¬pc.Added) (r' : R) :
    (Function.update s.pc r pc r').Added ↔ (s.pc r').Added ∧ r' ≠ r := by
  by_cases hr : r' = r
  · rw [hr, Function.update_self]
    exact ⟨fun hadded => absurd hadded h, fun hadded => absurd rfl hadded.2⟩
  · rw [Function.update_of_ne hr, and_iff_left hr]

theorem refused_inv (hinv : Inv s) (hpc : s.pc r = .start) : Inv (s.goto r .refused) := by
  have hmade (r' : R) : ((s.goto r .refused).pc r').made = (s.pc r').made := by
    dsimp only [Sys.goto]
    by_cases h : r' = r
    · rw [h, Function.update_self, hpc]
      rfl
    · rw [Function.update_of_ne h]
  have hadded (r' : R) (h : (s.pc r').Added) : ((s.goto r .refused).pc r').Added :=
    (added_update id r').2 ⟨h, fun hr => by rw [hr, hpc] at h; exact h⟩
  constructor
  · exact fun r' => (hmade r').symm ▸ hinv.tokens r'
  · exact fun e he => hadded e.2 (hinv.entries e he)
  · exact fun k hk r' hr' => hadded r' (hinv.tasks k hk r' hr')
  · exact fun r' hr' => hadded r' (hinv.timers r' hr')
  · exact hinv.swaps
  · exact fun r' hr' => hinv.fiber r' ((hmade r').symm.trans hr')
  · intro r' hr' hne
    obtain ⟨hr', h⟩ := (added_update id r').1 hr'
    simpa only [Sys.Waits, Sys.goto, Function.update_of_ne h] using hinv.waits r' hr' hne

/-- A new context, which no activity has. -/
theorem request_inv (hinv : Inv s) (hpc : s.pc r = .start) (scheduler : S) :
    Inv ((s.setCtx r { scheduler := some scheduler, fiber := true }).goto r .addCtx) := by
  have hne (r' : R) (h : (s.pc r').Added) : r' ≠ r := fun hr => by
    rw [hr, hpc] at h
    exact h
  have hadded (r' : R) (h : (s.pc r').Added) : (Function.update s.pc r .addCtx r').Added :=
    (added_update id r').2 ⟨h, hne r' h⟩
  constructor
  · intro r'
    have h := hinv.tokens r'
    dsimp only [Sys.goto, Sys.setCtx]
    by_cases hr : r' = r
    · rw [hr, hpc] at h
      rw [hr, Function.update_self, Function.update_self]
      simp only [Pc.made, Option.isSome_some, Bool.toNat_true, Bool.toNat_false] at h ⊢
      omega
    · rwa [Function.update_of_ne hr, Function.update_of_ne hr]
  · exact fun e he => hadded e.2 (hinv.entries e he)
  · exact fun k hk r' hr' => hadded r' (hinv.tasks k hk r' hr')
  · exact fun r' hr' => hadded r' (hinv.timers r' hr')
  · intro k hk scd hscd
    have hk' := hne k.ctx (hinv.tasks k hk k.ctx List.mem_cons_self)
    simpa only [Sys.goto, Sys.setCtx, Function.update_of_ne hk'] using hinv.swaps k hk scd hscd
  · intro r' hr' hsched
    dsimp only [Sys.goto, Sys.setCtx] at hr' hsched ⊢
    by_cases hr : r' = r
    · rw [hr, Function.update_self]
    · rw [Function.update_of_ne hr] at hr' ⊢
      exact hinv.fiber r' hr' hsched
  · intro r' hr' hnone
    obtain ⟨hr', hr⟩ := (added_update id r').1 hr'
    dsimp only [Sys.goto, Sys.setCtx] at hnone
    rw [Function.update_of_ne hr] at hnone
    simpa only [Sys.Waits, Sys.goto, Sys.setCtx, Function.update_of_ne hr] using
      hinv.waits r' hr' hnone

theorem once_of_inv (hinv : Inv s) : Once sn s := by
  constructor
  · intro r
    have h := hinv.tokens r
    have hle := (s.pc r).made.toNat_le
    omega
  · intro hquiet r hadded
    have h := hinv.tokens r
    rw [hquiet.tasks, hadded.made] at h
    by_cases hs : (s.ctx r).scheduler = none
    · refine .inl ?_
      rw [hs] at h
      simpa using h
    · rcases hinv.waits r hadded hs with hpc | hlive | ⟨k, hk, -⟩
      · rcases hquiet.fibers r hadded with h | ⟨result, response, h⟩ <;> cases hpc.symm.trans h
      · refine .inr (.inl ?_)
        cases ht : s.timers r with
        | armed => rfl
        | due => exact absurd ht (hquiet.timers r)
        | none => rw [ht] at hlive; cases hlive
        | ended => rw [ht] at hlive; cases hlive
      · rw [hquiet.tasks] at hk
        cases hk

variable [DecidableEq S]

/-- What is still to swap the scheduler does so, or leaves none. -/
theorem Inv.waits_run (hinv : Inv s) {n : ℕ} {k : Task R S P} (hk : s.tasks[n]? = some k)
    (hr : (s.pc r).Added) (hne : ((runTask s k).1.ctx r).scheduler ≠ none) :
    s.pc r = .addTimer ∨ ((runTask s k).1.timers r).live ∨
      ∃ k' ∈ s.tasks.eraseIdx n ++ (runTask s k).2, k'.ctx = r ∧ k'.pc.won = false := by
  have hold : (s.ctx r).scheduler ≠ none :=
    (runTask_scheduler s k r).elim (fun h => absurd h hne) fun h => h ▸ hne
  rcases hinv.waits r hr hold with h | h | ⟨k', hk', hctx, hwon⟩
  · exact .inl h
  · rcases runTask_timers s k r with htimer | ⟨hwin, -⟩
    · exact .inr (.inl (by rwa [htimer]))
    · have hzero := hinv.wins_eq_zero hold k (List.mem_of_getElem? hk)
      omega
  · rcases (mem_iff_of_getElem? hk).1 hk' with rfl | hmem
    · subst hctx
      obtain ⟨k₁, hk₁, -, h⟩ := runTask_waits hwon (hinv.swaps _ hk') hne
      exact .inr (.inr ⟨k₁, List.mem_append_right _ hk₁, h⟩)
    · exact .inr (.inr ⟨k', List.mem_append_left _ hmem, hctx, hwon⟩)

/-- **The steps of the activities.** -/
theorem run_inv (hinv : Inv s) {n : ℕ} {k : Task R S P} (hk : s.tasks[n]? = some k) :
    Inv { (runTask s k).1 with tasks := s.tasks.eraseIdx n ++ (runTask s k).2 } := by
  have hmem (k' : Task R S P) : k' ∈ s.tasks ↔ k' = k ∨ k' ∈ s.tasks.eraseIdx n :=
    mem_iff_of_getElem? hk
  have hfiber (r : R) (h : (s.ctx r).scheduler.isSome) : (s.ctx r).fiber :=
    have h := hinv.scheduled_eq_zero h
    hinv.fiber r h.2 h.1
  constructor
  · intro r
    have h := hinv.tokens r
    rw [← tally_eraseIdx (Task.wins r) hk] at h
    have hrun := runTask_tokens (k := k) (hfiber r)
    simp only [tally_append, runTask_pc]
    omega
  · simpa using hinv.entries
  · intro k' hk' r hr
    rw [runTask_pc]
    rcases List.mem_append.1 hk' with hk' | hk'
    · exact hinv.tasks k' ((hmem k').2 (.inr hk')) r hr
    · refine hinv.tasks k ((hmem k).2 (.inl rfl)) r ?_
      rcases mem_runTask hk' with ⟨-, hctx, hrest⟩ | hk'
      · rwa [hctx, hrest] at hr
      · rw [(mem_close hk').2.2] at hr
        exact List.mem_cons_of_mem _ hr
  · intro r hr
    rw [runTask_pc]
    refine hinv.timers r ?_
    rcases runTask_timers s k r with h | ⟨-, h, -⟩
    · exact h ▸ hr
    · rw [h]
      nofun
  · intro k' hk' scd hscd
    rcases List.mem_append.1 hk' with hk' | hk'
    · rcases runTask_scheduler s k k'.ctx with h | h
      · exact .inl h
      · rw [h]
        exact hinv.swaps k' ((hmem k').2 (.inr hk')) scd hscd
    · exact .inr (runTask_compareAndSwap hk' hscd)
  · intro r hr hsched
    rw [runTask_pc] at hr
    obtain ⟨hf, hsched⟩ := runTask_fiber hsched
    exact hf ▸ hinv.fiber r hr hsched
  · intro r hr hne
    rw [runTask_pc] at hr
    rw [Sys.Waits, runTask_pc]
    exact hinv.waits_run hk hr hne

theorem step_inv {l : Label R S P} (hinv : Inv s) (h : step sn s l s') : Inv s' := by
  cases l with
  | request r isConnected scheduler =>
    simp only [step, next] at h
    split at h
    · rename_i hpc
      cases isConnected <;> cases h
      · exact refused_inv hinv hpc
      · exact request_inv hinv hpc scheduler
    · cases h
  | fiber r => exact fiberStep_inv hinv h
  | doRecv rsp =>
    cases hr : s.m_ctxs.lookup rsp.m_sn with
    | none =>
      simp only [step, next, hr] at h
      cases h
      exact hinv
    | some r =>
      simp only [step, next, hr] at h
      cases h
      refine hinv.spawn (fun e he => mem_erase he) (fun k hk r' hr' => ?_) (fun k hk => ?_)
        fun _ => .inl rfl
      · rw [List.mem_singleton.1 hk] at hr'
        rw [List.mem_singleton.1 hr']
        exact hinv.entries _ (AList.mem_lookup_iff.1 hr)
      · rw [List.mem_singleton.1 hk]
        exact ⟨rfl, nofun⟩
  | expire r =>
    simp only [step, next] at h
    split at h
    · rename_i harmed
      cases h
      have hs : Inv { s with
          timers := Function.update s.timers r .due
          tasks := s.tasks ++ [] } := by
        refine hinv.spawn (fun _ he => he) nofun nofun fun r' => ?_
        by_cases h : r' = r
        · rw [h, harmed, Function.update_self]
          exact .inr ⟨nofun, .inl rfl⟩
        · exact .inl (Function.update_of_ne h _ _)
      rwa [List.append_nil] at hs
    · cases h
  | onTimeOut r =>
    simp only [step, next] at h
    split at h
    · rename_i hdue
      cases h
      refine hinv.spawn (fun e he => mem_erase he) (fun k hk r' hr' => ?_) (fun k hk => ?_)
        fun r' => ?_
      · rw [List.mem_singleton.1 hk] at hr'
        rw [List.mem_singleton.1 hr']
        exact hinv.timers r (by rw [hdue]; nofun)
      · rw [List.mem_singleton.1 hk]
        exact ⟨rfl, nofun⟩
      · by_cases h : r' = r
        · rw [h, hdue]
          exact .inr ⟨nofun, .inr ⟨_, List.mem_singleton_self _, rfl⟩⟩
        · exact .inl (Function.update_of_ne h _ _)
    · cases h
  | innerClose ctxs =>
    simp only [step, next] at h
    split at h
    · rename_i hperm
      cases h
      refine hinv.spawn nofun (fun k hk r hr => ?_) (fun k hk => ?_) fun _ => .inl rfl
      · rw [(mem_close hk).2.2] at hr
        obtain ⟨e, he, rfl⟩ := List.mem_map.1 (hperm.subset hr)
        exact hinv.entries e he
      · rw [(mem_close hk).2.1]
        exact ⟨rfl, nofun⟩
    · cases h
  | run n =>
    obtain ⟨k, hk, rfl⟩ := Option.map_eq_some_iff.1 h
    exact run_inv hinv hk

/-- **Each request is answered once**: in every run a request is scheduled at most once, and in a
    state with no step pending it has been, or still has its timer or its entry. -/
theorem resumed_of_run {ls : List (Label R S P)} (hrun : Run (step sn) (init R S P) ls s) : Once sn s :=
  once_of_inv (hrun.invariant (P := Inv) (fun _ _ _ hinv h => step_inv hinv h) (init_inv R S P))

/-- The response comes before the timer is set, and the timer expires before the response is
    through. -/
theorem once_raced : ∃ s, Run (step fun r : ℕ => BitVec.ofNat 32 r) (init ℕ ℕ ℕ)
    [.request 3 true 0, .fiber 3, .doRecv ⟨3, 0, 9⟩, .run 0, .fiber 3, .expire 3, .onTimeOut 3,
      .fiber 3, .run 0, .run 0, .run 1, .run 1, .run 1, .run 0, .run 0, .run 0, .fiber 3, .run 0,
      .fiber 3] s ∧ Once (fun r => BitVec.ofNat 32 r) s := by
  obtain ⟨s, hrun⟩ : ∃ s, Run (step fun r : ℕ => BitVec.ofNat 32 r) (init ℕ ℕ ℕ)
      [.request 3 true 0, .fiber 3, .doRecv ⟨3, 0, 9⟩, .run 0, .fiber 3, .expire 3, .onTimeOut 3,
        .fiber 3, .run 0, .run 0, .run 1, .run 1, .run 1, .run 0, .run 0, .run 0, .fiber 3, .run 0,
        .fiber 3] s := by
    refine ⟨_, .cons rfl <| .cons rfl <| .cons rfl <| .cons rfl <| .cons rfl <| .cons rfl <|
      .cons rfl <| .cons rfl <| .cons rfl <| .cons rfl <| .cons rfl <| .cons rfl <| .cons rfl <|
      .cons rfl <| .cons rfl <| .cons rfl <| .cons rfl <| .cons rfl <| .cons rfl <| .nil _⟩
  exact ⟨s, hrun, resumed_of_run hrun⟩

end

end Ancfl.Requests
