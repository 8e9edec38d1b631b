/-
  Fibers and the run loops of a scheduler.

  * `Task`, `Sys`: `m_fibers`, the counter, the states of the fibers, and where
    each run loop stands;
  * `schedule`, `scan`, `stopping`: the sections under the lock;
  * `next`: one state write, locked section, update of the counter or switch of
    contexts; reads of a state are steps of their own;
  * `Moves`, `loop_moves`: what a step of a run loop does.
-/
import Ancfl.Lib.Run
import Mathlib.Logic.Function.Basic
import Mathlib.Algebra.Order.Ring.Int
import Mathlib.Tactic.Common

namespace Ancfl.Scheduler

/-- `Fiber::State` -/
inductive State
  | init | hold | exec | term | ready | except
deriving DecidableEq

/-- `FiberAndThread`; `ticket` numbers the tasks in the order in which they are queued. -/
structure Task (F C : Type) where
  ticket : ℕ
  fiber : Option F
  cb : Option C
  thread : ℤ
deriving DecidableEq

/-- Where a run loop stands. `own` tells a fiber that is `cb_fiber` from one that was queued. -/
inductive Pc (F C : Type)
  | top
  | check (ft : Task F C)
  | startCb (ft : Task F C)
  | drop
  | swapIn (f : F) (own : Bool)
  | enter (f : F) (own : Bool)
  | switchIn (f : F) (own : Bool)
  | running (f : F) (own : Bool)
  | yielding (f : F) (own : Bool) (state : State)
  | leaving (f : F) (own : Bool)
  | returned (f : F) (own : Bool)
  | settle (f : F) (own : Bool)
  | requeue (f : F) (own : Bool)
  | writeHold (f : F) (own : Bool)
  | resetNull (f : F)
  | noTask
  | idle
  | finished

/-- The system of the run loops `T`, with fibers `F` and callbacks `C`. `taken` is the history of
    the tasks that were taken out of the queue. -/
structure Sys (T F C : Type) where
  fibers : List (Task F C)
  tickets : ℕ
  active : ℤ
  autoStop : Bool
  stopping : Bool
  state : F → State
  created : F → Bool
  pc : T → Pc F C
  cbFiber : T → Option F
  idleTerm : T → Bool
  taken : List (T × Task F C)

variable {T F C : Type}

def init (T F C : Type) : Sys T F C :=
  ⟨[], 0, 0, false, true, fun _ => .init, fun _ => false, fun _ => .top, fun _ => none, fun _ => false, []⟩

/-! ## The sections under the lock -/

/-- `scheduleNoLock` -/
def scheduleNoLock (s : Sys T F C) (fiber : Option F) (cb : Option C) (thread : ℤ) : Sys T F C :=
  if fiber.isSome || cb.isSome then
    { s with fibers := s.fibers ++ [⟨s.tickets, fiber, cb, thread⟩], tickets := s.tickets + 1 }
  else s

/-- `schedule(begin, end)`; a single task is a list of one. -/
def schedule (s : Sys T F C) (tasks : List (Option F × Option C × ℤ)) : Sys T F C :=
  tasks.foldl (fun s (fiber, cb, thread) => scheduleNoLock s fiber cb thread) s

/-- The task that the loop over `m_fibers` takes on the thread `me`, and the others. -/
def scan (state : F → State) (me : ℤ) : List (Task F C) → Option (Task F C × List (Task F C))
  | [] => none
  | it :: rest =>
    if (it.thread ≠ -1 ∧ it.thread ≠ me) ∨ it.fiber.any fun f => state f = .exec then
      (scan state me rest).map fun (ft, others) => (ft, it :: others)
    else some (it, rest)

/-- `stopping()` -/
def isStopping (s : Sys T F C) : Bool :=
  s.autoStop && s.stopping && s.fibers.isEmpty && s.active == 0

/-! ## Steps -/

/-- What happens in a step. `schedule` and `create` are of any thread; `yield` and `finish` are what
    the fiber does that runs in `t`; `step` is the next step of the loop `t`, with the new fiber that
    it needs, if any. -/
inductive Label (T F C : Type)
  | schedule (tasks : List (Option F × Option C × ℤ))
  | create (f : F)
  | start
  | setAutoStop
  | setStopping
  | yield (t : T) (state : State)
  | finish (t : T) (state : State)
  | step (t : T) (new : Option F)

variable [DecidableEq T] [DecidableEq F]

/-- `m_state = state` of a fiber, and the loop `t` goes on. -/
def write (s : Sys T F C) (t : T) (f : F) (state : State) (p : Pc F C) : Sys T F C :=
  { s with state := Function.update s.state f state, pc := Function.update s.pc t p }

def goto (s : Sys T F C) (t : T) (p : Pc F C) : Sys T F C := { s with pc := Function.update s.pc t p }

/-- `cb_fiber.reset()`, for a fiber that is `cb_fiber`. -/
def forget (s : Sys T F C) (t : T) (own : Bool) : Sys T F C :=
  if own then { s with cbFiber := Function.update s.cbFiber t none } else s

def State.isDead (state : State) : Bool := state = .term || state = .except

/-- The next step of the loop `t`, whose thread has the id `me`. A failed assertion ends the
    program. -/
def loop (me : ℤ) (s : Sys T F C) (t : T) (new : Option F) : Option (Sys T F C) :=
  match s.pc t with
  | .top =>
    match scan s.state me s.fibers with
    | none => some (goto s t .noTask)
    | some (ft, others) =>
      some (goto { s with fibers := others, active := s.active + 1, taken := s.taken ++ [(t, ft)] } t
        (.check ft))
  | .check ft =>
    match ft.fiber with
    | some f =>
      if (s.state f).isDead then some (goto s t (if ft.cb.isSome then .startCb ft else .drop))
      else some (goto s t (.swapIn f false))
    | none => some (goto s t (if ft.cb.isSome then .startCb ft else .drop))
  | .startCb _ =>
    match s.cbFiber t with
    | some f =>
      if (s.state f).isDead ∨ s.state f = .init then some (write s t f .init (.swapIn f true)) else none
    | none =>
      match new with
      | some f =>
        if s.created f then none
        else some (write { s with
          created := Function.update s.created f true
          cbFiber := Function.update s.cbFiber t (some f) } t f .init (.swapIn f true))
      | none => none
  | .drop => some (goto { s with active := s.active - 1 } t .top)
  | .swapIn f own => if s.state f = .exec then none else some (goto s t (.enter f own))
  | .enter f own => some (write s t f .exec (.switchIn f own))
  | .switchIn f own => some (goto s t (.running f own))
  | .running _ _ => none
  | .yielding f own state => some (write s t f state (.leaving f own))
  | .leaving f own => some (goto s t (.returned f own))
  | .returned f own => some (goto { s with active := s.active - 1 } t (.settle f own))
  | .settle f own =>
    if s.state f = .ready then some (goto s t (.requeue f own))
    else if (s.state f).isDead then some (goto s t (if own then .resetNull f else .top))
    else some (goto s t (.writeHold f own))
  | .requeue f own => some (forget (goto (schedule s [(some f, none, -1)]) t .top) t own)
  | .writeHold f own => some (forget (write s t f .hold .top) t own)
  | .resetNull f =>
    if (s.state f).isDead ∨ s.state f = .init then some (write s t f .init .top) else none
  | .noTask => some (goto s t (if s.idleTerm t then .finished else .idle))
  | .idle =>
    if isStopping s then some (goto { s with idleTerm := Function.update s.idleTerm t true } t .top)
    else some (goto s t .top)
  | .finished => none

/-- `tid` are the ids of the threads. A yield is with `HOLD` or `READY`, and a fiber ends with `TERM`
    or `EXCEPT`. -/
def next (tid : T → ℤ) (s : Sys T F C) : Label T F C → Option (Sys T F C)
  | .schedule tasks =>
    if tasks.all fun (fiber, _, _) => fiber.all s.created then some (schedule s tasks) else none
  | .create f =>
    if s.created f then none
    else some { s with
      created := Function.update s.created f true
      state := Function.update s.state f .init }
  | .start => if s.stopping then some { s with stopping := false } else none
  | .setAutoStop => some { s with autoStop := true }
  | .setStopping => some { s with stopping := true }
  | .yield t state =>
    match s.pc t with
    | .running f own =>
      if s.state f = .exec ∧ (state = .hold ∨ state = .ready) then
        some (goto s t (.yielding f own state))
      else none
    | _ => none
  | .finish t state =>
    match s.pc t with
    | .running f own => if state.isDead then some (write s t f state (.leaving f own)) else none
    | _ => none
  | .step t new => loop (tid t) s t new

def step (tid : T → ℤ) (s : Sys T F C) (l : Label T F C) (s' : Sys T F C) : Prop := next tid s l = some s'

/-! ## What a step of a run loop does -/

/-- The fiber that a loop has taken, or started as its `cb_fiber`, and whose context is not saved. -/
def Pc.held : Pc F C → Option F
  | .check ft => ft.fiber
  | .swapIn f _ | .enter f _ | .switchIn f _ | .running f _ | .yielding f _ _ | .leaving f _ => some f
  | _ => none

/-- The fiber a loop goes on with. -/
def Pc.fiber : Pc F C → Option F
  | .returned f _ | .settle f _ | .requeue f _ | .writeHold f _ | .resetNull f => some f
  | p => p.held

/-- Whether a loop is between taking a task and the decrement for it. -/
def Pc.isActive : Pc F C → Bool
  | .check _ | .startCb _ | .drop | .swapIn _ _ | .enter _ _ | .switchIn _ _ | .running _ _
  | .yielding _ _ _ | .leaving _ _ | .returned _ _ => true
  | _ => false

/-- The queue, its tickets and the history. -/
inductive QueueMoves (me : ℤ) (s : Sys T F C) (t : T) (s' : Sys T F C) : Prop
  | same (fibers : s'.fibers = s.fibers) (tickets : s'.tickets = s.tickets) (taken : s'.taken = s.taken)
  | take (ft : Task F C) (others : List (Task F C)) (found : scan s.state me s.fibers = some (ft, others))
    (fibers : s'.fibers = others) (tickets : s'.tickets = s.tickets)
    (taken : s'.taken = s.taken ++ [(t, ft)])
  | push (fiber : Option F) (cb : Option C) (thread : ℤ) (task : fiber ≠ none ∨ cb ≠ none)
    (fibers : s'.fibers = s.fibers ++ [⟨s.tickets, fiber, cb, thread⟩])
    (tickets : s'.tickets = s.tickets + 1) (taken : s'.taken = s.taken)

/-- A loop gets a fiber out of the queue or as its `cb_fiber`. -/
inductive Acquires (me : ℤ) (s : Sys T F C) (t : T) (f : F) : Prop
  | take (ft : Task F C) (others : List (Task F C)) (top : s.pc t = .top)
    (found : scan s.state me s.fibers = some (ft, others)) (fiber : ft.fiber = some f)
  | reuse (ft : Task F C) (start : s.pc t = .startCb ft) (cb : s.cbFiber t = some f)
  | new (ft : Task F C) (start : s.pc t = .startCb ft) (fresh : s.created f = false)

/-- One step of the loop `t`, which stands at `p` afterwards. -/
structure Moves (me : ℤ) (s : Sys T F C) (t : T) (s' : Sys T F C) (p : Pc F C) : Prop where
  pc_eq : s'.pc = Function.update s.pc t p
  held : ∀ f, p.held = some f → (s.pc t).held = some f ∨ Acquires me s t f
  active : s'.active + (s.pc t).isActive.toNat = s.active + p.isActive.toNat
  queue : QueueMoves me s t s'
  flags : s'.autoStop = s.autoStop ∧ s'.stopping = s.stopping

section
variable {me : ℤ} {s s' : Sys T F C} {t : T} {new : Option F}

omit [DecidableEq F] in
/-- A step that leaves the queue alone. -/
theorem moves_same {p : Pc F C} (hpc : s'.pc = Function.update s.pc t p)
    (hheld : ∀ f, p.held = some f → (s.pc t).held = some f ∨ Acquires me s t f)
    (hactive : s'.active + (s.pc t).isActive.toNat = s.active + p.isActive.toNat)
    (hqueue : s'.fibers = s.fibers ∧ s'.tickets = s.tickets ∧ s'.taken = s.taken)
    (hflags : s'.autoStop = s.autoStop ∧ s'.stopping = s.stopping) : ∃ p, Moves me s t s' p :=
  ⟨p, hpc, hheld, hactive, .same hqueue.1 hqueue.2.1 hqueue.2.2, hflags⟩

/-- **One step of a run loop.** -/
theorem loop_moves (h : loop me s t new = some s') : ∃ p, Moves me s t s' p := by
  have hsame : s.fibers = s.fibers ∧ s.tickets = s.tickets ∧ s.taken = s.taken := ⟨rfl, rfl, rfl⟩
  cases hp : s.pc t with
  | top =>
    simp only [loop, hp] at h
    split at h
    · obtain rfl := Option.some.inj h
      exact moves_same rfl (fun f hf => (nomatch hf)) (by simp [goto, hp, Pc.isActive]) hsame ⟨rfl, rfl⟩
    · rename_i ft others hscan
      obtain rfl := Option.some.inj h
      exact ⟨_, rfl, fun f hf => .inr (.take ft others hp hscan hf), by simp [goto, hp, Pc.isActive],
        .take ft others hscan rfl rfl rfl, rfl, rfl⟩
  | check ft =>
    simp only [loop, hp] at h
    split at h
    · rename_i f hf
      split_ifs at h <;> obtain rfl := Option.some.inj h
      · exact moves_same rfl (fun f hf => (nomatch hf)) (by simp [goto, hp, Pc.isActive]) hsame ⟨rfl, rfl⟩
      · exact moves_same rfl (fun f hf => (nomatch hf)) (by simp [goto, hp, Pc.isActive]) hsame ⟨rfl, rfl⟩
      · refine moves_same rfl (fun g hg => .inl ?_) (by simp [goto, hp, Pc.isActive]) hsame ⟨rfl, rfl⟩
        rw [hp]
        exact hf.trans hg
    · split_ifs at h <;> obtain rfl := Option.some.inj h <;>
      exact moves_same rfl (fun f hf => (nomatch hf)) (by simp [goto, hp, Pc.isActive]) hsame ⟨rfl, rfl⟩
  | startCb ft =>
    simp only [loop, hp] at h
    split at h
    · rename_i f hf
      split_ifs at h
      obtain rfl := Option.some.inj h
      refine moves_same rfl (fun g hg => .inr (.reuse ft hp ?_)) (by simp [write, hp, Pc.isActive]) hsame
        ⟨rfl, rfl⟩
      exact hf.trans hg
    · split at h
      · rename_i f
        split_ifs at h with hcreated
        obtain rfl := Option.some.inj h
        refine moves_same rfl (fun g hg => .inr (.new ft hp ?_)) (by simp [write, hp, Pc.isActive]) hsame
          ⟨rfl, rfl⟩
        rw [← Option.some.inj hg]
        exact Bool.eq_false_of_not_eq_true hcreated
      · cases h
  | drop =>
    simp only [loop, hp] at h
    obtain rfl := Option.some.inj h
    exact moves_same rfl (fun f hf => (nomatch hf)) (by simp [goto, hp, Pc.isActive]) hsame ⟨rfl, rfl⟩
  | swapIn f own =>
    simp only [loop, hp] at h
    split_ifs at h
    obtain rfl := Option.some.inj h
    exact moves_same rfl (fun g hg => .inl (hp ▸ hg)) (by simp [goto, hp, Pc.isActive]) hsame ⟨rfl, rfl⟩
  | enter f own =>
    simp only [loop, hp] at h
    obtain rfl := Option.some.inj h
    exact moves_same rfl (fun g hg => .inl (hp ▸ hg)) (by simp [write, hp, Pc.isActive]) hsame ⟨rfl, rfl⟩
  | switchIn f own =>
    simp only [loop, hp] at h
    obtain rfl := Option.some.inj h
    exact moves_same rfl (fun g hg => .inl (hp ▸ hg)) (by simp [goto, hp, Pc.isActive]) hsame ⟨rfl, rfl⟩
  | running f own => simp only [loop, hp] at h; cases h
  | yielding f own state =>
    simp only [loop, hp] at h
    obtain rfl := Option.some.inj h
    exact moves_same rfl (fun g hg => .inl (hp ▸ hg)) (by simp [write, hp, Pc.isActive]) hsame ⟨rfl, rfl⟩
  | leaving f own =>
    simp only [loop, hp] at h
    obtain rfl := Option.some.inj h
    exact moves_same rfl (fun f hf => (nomatch hf)) (by simp [goto, hp, Pc.isActive]) hsame ⟨rfl, rfl⟩
  | returned f own =>
    simp only [loop, hp] at h
    obtain rfl := Option.some.inj h
    exact moves_same rfl (fun f hf => (nomatch hf)) (by simp [goto, hp, Pc.isActive]) hsame ⟨rfl, rfl⟩
  | settle f own =>
    simp only [loop, hp] at h
    split_ifs at h <;> obtain rfl := Option.some.inj h <;>
    exact moves_same rfl (fun f hf => (nomatch hf)) (by simp [goto, hp, Pc.isActive]) hsame ⟨rfl, rfl⟩
  | requeue f own =>
    simp only [loop, hp] at h
    obtain rfl := Option.some.inj h
    refine ⟨.top, ?_, fun f hf => (nomatch hf), ?_,
      .push (some f) none (-1) (.inl (Option.some_ne_none f)) ?_ ?_ ?_, ?_⟩ <;>
    · rw [forget]
      split_ifs <;> simp [goto, schedule, scheduleNoLock, hp, Pc.isActive]
  | writeHold f own =>
    simp only [loop, hp] at h
    obtain rfl := Option.some.inj h
    refine ⟨.top, ?_, fun f hf => (nomatch hf), ?_, .same ?_ ?_ ?_, ?_⟩ <;>
    · rw [forget]
      split_ifs <;> simp [write, hp, Pc.isActive]
  | resetNull f =>
    simp only [loop, hp] at h
    split_ifs at h
    obtain rfl := Option.some.inj h
    exact moves_same rfl (fun f hf => (nomatch hf)) (by simp [write, hp, Pc.isActive]) hsame ⟨rfl, rfl⟩
  | noTask =>
    simp only [loop, hp] at h
    split_ifs at h <;> obtain rfl := Option.some.inj h <;>
    exact moves_same rfl (fun f hf => (nomatch hf)) (by simp [goto, hp, Pc.isActive]) hsame ⟨rfl, rfl⟩
  | idle =>
    simp only [loop, hp] at h
    split_ifs at h <;> obtain rfl := Option.some.inj h <;>
    exact moves_same rfl (fun f hf => (nomatch hf)) (by simp [goto, hp, Pc.isActive]) hsame ⟨rfl, rfl⟩
  | finished => simp only [loop, hp] at h; cases h

end

/-! ## Fibers are created before they are used -/

/-- Everything that is used was created. -/
structure Live (s : Sys T F C) : Prop where
  fibers : ∀ ft ∈ s.fibers, ∀ f, ft.fiber = some f → s.created f = true
  pc : ∀ t f, (s.pc t).fiber = some f → s.created f = true
  cbFiber : ∀ t f, s.cbFiber t = some f → s.created f = true

section
variable {me : ℤ} {s s' : Sys T F C} {t : T} {new : Option F} {p : Pc F C}

omit [DecidableEq T] [DecidableEq F] in
/-- The task that is taken was queued; it is for this thread, and the others stay. -/
theorem scan_some {state : F → State} {q : List (Task F C)} {ft : Task F C} {others : List (Task F C)}
    (h : scan state me q = some (ft, others)) :
    q.Perm (ft :: others) ∧ (ft.thread = -1 ∨ ft.thread = me) := by
  induction q generalizing others with
  | nil => cases h
  | cons it rest ih =>
    rw [scan] at h
    split_ifs at h with hskip
    · obtain ⟨⟨ft', others'⟩, hrest, heq⟩ := Option.map_eq_some_iff.1 h
      obtain ⟨rfl, rfl⟩ := Prod.mk.inj heq
      obtain ⟨hperm, hthread⟩ := ih hrest
      exact ⟨(hperm.cons it).trans (List.Perm.swap ft' it others'), hthread⟩
    · obtain ⟨rfl, rfl⟩ := Prod.mk.inj (Option.some.inj h)
      refine ⟨List.Perm.refl _, ?_⟩
      by_contra hne
      rw [not_or] at hne
      exact hskip (.inl hne)

omit [DecidableEq F] in
theorem Live.move (h : Live s) (hcreated : ∀ f, s.created f = true → s'.created f = true)
    (hfibers : ∀ ft ∈ s'.fibers, ∀ f, ft.fiber = some f → s'.created f = true)
    (hcb : ∀ u f, s'.cbFiber u = some f → s.cbFiber u = some f ∨ s'.created f = true)
    (hpc : s'.pc = Function.update s.pc t p) (hp : ∀ f, p.fiber = some f → s'.created f = true) :
    Live s' := by
  refine ⟨hfibers, fun u f hf => ?_, fun u f hf => ?_⟩
  · rw [hpc] at hf
    by_cases hu : u = t
    · rw [hu, Function.update_self] at hf
      exact hp f hf
    · rw [Function.update_of_ne hu] at hf
      exact hcreated f (h.pc u f hf)
  · rcases hcb u f hf with hf | hf
    · exact hcreated f (h.cbFiber u f hf)
    · exact hf

omit [DecidableEq F] in
/-- A loop that goes on with its fiber. -/
theorem Live.go (h : Live s) (hfields : s'.created = s.created ∧ s'.fibers = s.fibers)
    (hcb : ∀ u f, s'.cbFiber u = some f → s.cbFiber u = some f) (hpc : s'.pc = Function.update s.pc t p)
    (hp : ∀ f, p.fiber = some f → (s.pc t).fiber = some f) : Live s' := by
  refine h.move (fun f hf => ?_) (fun ft hft f hf => ?_) (fun u f hf => .inl (hcb u f hf)) hpc
    fun f hf => ?_
  · rw [hfields.1]; exact hf
  · rw [hfields.2] at hft
    rw [hfields.1]
    exact h.fibers ft hft f hf
  · rw [hfields.1]
    exact h.pc t f (hp f hf)

omit [DecidableEq F] in
theorem forget_cbFiber {own : Bool} {u : T} {f : F} (h : (forget s t own).cbFiber u = some f) :
    s.cbFiber u = some f := by
  rw [forget] at h
  split_ifs at h
  · dsimp only at h
    by_cases hu : u = t
    · rw [hu, Function.update_self] at h
      cases h
    · rwa [Function.update_of_ne hu] at h
  · exact h

theorem loop_live (hl : Live s) (h : loop me s t new = some s') : Live s' := by
  cases hp : s.pc t with
  | top =>
    simp only [loop, hp] at h
    split at h
    · obtain rfl := Option.some.inj h
      exact hl.go ⟨rfl, rfl⟩ (fun u f hf => hf) rfl fun f hf => (nomatch hf)
    · rename_i ft others hscan
      obtain rfl := Option.some.inj h
      obtain ⟨hperm, -⟩ := scan_some hscan
      refine hl.move (fun f hf => hf) (fun it hit f hf => ?_) (fun u f hf => .inl hf) rfl fun f hf => ?_
      · exact hl.fibers it (hperm.mem_iff.2 (List.mem_cons_of_mem ft hit)) f hf
      · exact hl.fibers ft (hperm.mem_iff.2 List.mem_cons_self) f hf
  | check ft =>
    simp only [loop, hp] at h
    split at h
    · rename_i f hf
      split_ifs at h <;> obtain rfl := Option.some.inj h
      · exact hl.go ⟨rfl, rfl⟩ (fun u f hf => hf) rfl fun f hf => (nomatch hf)
      · exact hl.go ⟨rfl, rfl⟩ (fun u f hf => hf) rfl fun f hf => (nomatch hf)
      · refine hl.go ⟨rfl, rfl⟩ (fun u f hf => hf) rfl fun g hg => ?_
        rw [hp]
        exact hf.trans hg
    · split_ifs at h <;> obtain rfl := Option.some.inj h <;>
      exact hl.go ⟨rfl, rfl⟩ (fun u f hf => hf) rfl fun f hf => (nomatch hf)
  | startCb ft =>
    simp only [loop, hp] at h
    split at h
    · rename_i f hf
      split_ifs at h
      obtain rfl := Option.some.inj h
      exact hl.move (fun f hf => hf) hl.fibers (fun u f hf => .inl hf) rfl fun g hg =>
        hl.cbFiber t g (hf.trans hg)
    · split at h
      · rename_i f
        split_ifs at h
        obtain rfl := Option.some.inj h
        have hcreated (g : F) (hg : s.created g = true) : Function.update s.created f true g = true := by
          by_cases hgf : g = f
          · rw [hgf, Function.update_self]
          · rwa [Function.update_of_ne hgf]
        have hnew (g : F) (hg : some f = some g) : Function.update s.created f true g = true := by
          rw [← Option.some.inj hg, Function.update_self]
        refine hl.move hcreated (fun ft hft g hg => hcreated g (hl.fibers ft hft g hg)) (fun u g hg => ?_)
          rfl hnew
        have hg : Function.update s.cbFiber t (some f) u = some g := hg
        by_cases hu : u = t
        · rw [hu, Function.update_self] at hg
          exact .inr (hnew g hg)
        · rw [Function.update_of_ne hu] at hg
          exact .inl hg
      · cases h
  | drop | swapIn f own | enter f own | switchIn f own | yielding f own state | leaving f own
  | returned f own | settle f own | resetNull f | noTask | idle =>
    simp only [loop, hp] at h
    try split_ifs at h
    all_goals
      obtain rfl := Option.some.inj h
      first
        | exact hl.go ⟨rfl, rfl⟩ (fun u f hf => hf) rfl fun g hg => hp ▸ hg
        | exact hl.go ⟨rfl, rfl⟩ (fun u f hf => hf) rfl fun g hg => (nomatch hg)
  | running f own => simp only [loop, hp] at h; cases h
  | requeue f own =>
    simp only [loop, hp] at h
    obtain rfl := Option.some.inj h
    have hf : s.created f = true := hl.pc t f (by rw [hp]; rfl)
    have hcreated : (forget (goto (schedule s [(some f, none, -1)]) t .top) t own).created = s.created := by
      rw [forget]
      split_ifs <;> simp [goto, schedule, scheduleNoLock]
    refine hl.move (t := t) (p := .top) (fun g hg => ?_) (fun ft hft g hg => ?_)
      (fun u g hg => .inl ?_) ?_ fun g hg => (nomatch hg)
    · rw [hcreated]; exact hg
    · have hfibers : (forget (goto (schedule s [(some f, none, -1)]) t .top) t own).fibers =
          s.fibers ++ [⟨s.tickets, some f, none, -1⟩] := by
        rw [forget]
        split_ifs <;> simp [goto, schedule, scheduleNoLock]
      rw [hfibers] at hft
      rw [hcreated]
      rcases List.mem_append.1 hft with hft | hft
      · exact hl.fibers ft hft g hg
      · rw [List.mem_singleton.1 hft] at hg
        exact Option.some.inj hg ▸ hf
    · have hg := forget_cbFiber hg
      simpa [goto, schedule, scheduleNoLock] using hg
    · rw [forget]
      split_ifs <;> simp [goto, schedule, scheduleNoLock]
  | writeHold f own =>
    simp only [loop, hp] at h
    obtain rfl := Option.some.inj h
    refine hl.go ?_ (fun u g hg => (forget_cbFiber hg : (write s t f .hold .top).cbFiber u = some g))
      (t := t) (p := .top) ?_ fun g hg => (nomatch hg) <;>
    · rw [forget]
      split_ifs <;> simp [write]
  | finished => simp only [loop, hp] at h; cases h

variable {tid : T → ℤ} {l : Label T F C}

omit [DecidableEq T] [DecidableEq F] in
theorem schedule_live (hl : Live s) {tasks : List (Option F × Option C × ℤ)}
    (hok : tasks.all fun (fiber, _, _) => fiber.all s.created) : Live (schedule s tasks) := by
  induction tasks generalizing s with
  | nil => exact hl
  | cons task tasks ih =>
    obtain ⟨fiber, cb, thread⟩ := task
    rw [List.all_cons, Bool.and_eq_true] at hok
    rw [schedule, List.foldl_cons]
    refine ih (s := scheduleNoLock s fiber cb thread) ?_ ?_
    · rw [scheduleNoLock]
      split_ifs
      · refine ⟨fun ft hft f hf => ?_, hl.pc, hl.cbFiber⟩
        rcases List.mem_append.1 hft with hft | hft
        · exact hl.fibers ft hft f hf
        · rw [List.mem_singleton.1 hft] at hf
          have hall := hok.1
          rw [show fiber = some f from hf] at hall
          exact hall
      · exact hl
    · rw [scheduleNoLock]
      split_ifs
      · exact hok.2
      · exact hok.2

omit [DecidableEq T] [DecidableEq F] in
/-- What scheduling one task does not change. -/
theorem schedule_frame {α : Type} (s : Sys T F C) (tasks : List (Option F × Option C × ℤ))
    (g : Sys T F C → α) (hg : ∀ s fiber cb thread, g (scheduleNoLock s fiber cb thread) = g s) :
    g (schedule s tasks) = g s := by
  induction tasks generalizing s with
  | nil => rfl
  | cons task tasks ih => exact (ih _).trans (hg s _ _ _)

/-- **One step.** -/
theorem next_live (hl : Live s) (h : step tid s l s') : Live s' := by
  have h : next tid s l = some s' := h
  cases l with
  | schedule tasks =>
    rw [next] at h
    split_ifs at h with hok
    obtain rfl := Option.some.inj h
    exact schedule_live hl hok
  | create f =>
    rw [next] at h
    split_ifs at h
    obtain rfl := Option.some.inj h
    have hcreated (g : F) (hg : s.created g = true) : Function.update s.created f true g = true := by
      by_cases hgf : g = f
      · rw [hgf, Function.update_self]
      · rwa [Function.update_of_ne hgf]
    exact ⟨fun ft hft g hg => hcreated g (hl.fibers ft hft g hg), fun t g hg => hcreated g (hl.pc t g hg),
      fun t g hg => hcreated g (hl.cbFiber t g hg)⟩
  | start =>
    rw [next] at h
    split_ifs at h
    obtain rfl := Option.some.inj h
    exact ⟨hl.fibers, hl.pc, hl.cbFiber⟩
  | setAutoStop =>
    obtain rfl := Option.some.inj h
    exact ⟨hl.fibers, hl.pc, hl.cbFiber⟩
  | setStopping =>
    obtain rfl := Option.some.inj h
    exact ⟨hl.fibers, hl.pc, hl.cbFiber⟩
  | yield t state =>
    rw [next] at h
    split at h
    · rename_i f own hp
      split_ifs at h
      obtain rfl := Option.some.inj h
      exact hl.go ⟨rfl, rfl⟩ (fun u f hf => hf) rfl fun g hg => hp ▸ hg
    · cases h
  | finish t state =>
    rw [next] at h
    split at h
    · rename_i f own hp
      split_ifs at h
      obtain rfl := Option.some.inj h
      exact hl.go ⟨rfl, rfl⟩ (fun u f hf => hf) rfl fun g hg => hp ▸ hg
    · cases h
  | step t new => exact loop_live hl h

/-- A step of a loop, of the fiber that runs in it, or of nobody. -/
theorem next_moves (h : step tid s l s') :
    (s'.pc = s.pc ∧ s'.active = s.active ∧ s'.taken = s.taken ∧
        ∃ tasks, s'.fibers = (schedule s tasks).fibers ∧ s'.tickets = (schedule s tasks).tickets) ∨
      ∃ t p, Moves (tid t) s t s' p ∧
        ((∃ new, l = .step t new) ∨ ∀ f, p.held = some f → (s.pc t).held = some f) := by
  have h : next tid s l = some s' := h
  cases l with
  | schedule tasks =>
    rw [next] at h
    split_ifs at h
    obtain rfl := Option.some.inj h
    refine .inl ⟨?_, ?_, ?_, tasks, rfl, rfl⟩ <;>
    exact schedule_frame s tasks _ fun s fiber cb thread => by rw [scheduleNoLock]; split_ifs <;> rfl
  | create f =>
    rw [next] at h
    split_ifs at h
    obtain rfl := Option.some.inj h
    exact .inl ⟨rfl, rfl, rfl, [], rfl, rfl⟩
  | start =>
    rw [next] at h
    split_ifs at h
    obtain rfl := Option.some.inj h
    exact .inl ⟨rfl, rfl, rfl, [], rfl, rfl⟩
  | setAutoStop =>
    obtain rfl := Option.some.inj h
    exact .inl ⟨rfl, rfl, rfl, [], rfl, rfl⟩
  | setStopping =>
    obtain rfl := Option.some.inj h
    exact .inl ⟨rfl, rfl, rfl, [], rfl, rfl⟩
  | yield t state =>
    rw [next] at h
    split at h
    · rename_i f own hp
      split_ifs at h
      obtain rfl := Option.some.inj h
      refine .inr ⟨t, .yielding f own state, ⟨rfl, fun g hg => .inl (hp ▸ hg),
        by simp [goto, hp, Pc.isActive], .same rfl rfl rfl, rfl, rfl⟩, .inr fun g hg => ?_⟩
      rw [hp]
      exact hg
    · cases h
  | finish t state =>
    rw [next] at h
    split at h
    · rename_i f own hp
      split_ifs at h
      obtain rfl := Option.some.inj h
      refine .inr ⟨t, .leaving f own, ⟨rfl, fun g hg => .inl (hp ▸ hg),
        by simp [write, hp, Pc.isActive], .same rfl rfl rfl, rfl, rfl⟩, .inr fun g hg => ?_⟩
      rw [hp]
      exact hg
    · cases h
  | step t new =>
    obtain ⟨p, hp⟩ := loop_moves h
    exact .inr ⟨t, p, hp, .inl ⟨new, rfl⟩⟩

end

/-- The ids of two threads. -/
def tid2 (t : Bool) : ℤ := if t then 1 else 2

/-- A fiber runs on the first thread. -/
def runs : List (Label Bool ℕ Unit) :=
  [.create 0, .schedule [(some 0, none, -1)], .step true none, .step true none, .step true none,
    .step true none, .step true none]

end Ancfl.Scheduler
