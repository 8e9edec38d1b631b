/-
  `IOManager`: the contexts of the file descriptors, and the events registered
  with epoll.

  * `FdContext`, `Sys`: the contexts that were allocated, the table of pointers
    to them, what epoll has for each descriptor, and where each thread stands;
  * `addEvent`, `delEvent`, `cancelEvent`, `cancelAll` and `dispatch` are the
    sections under the mutex of a context, `contextResize` the one under the
    write lock of the table;
  * `next`: a step is one such section, the check of the table under the read
    lock, or a return of `epoll_wait`; `Moves`, `step_moves`: what a step does.
-/
import Ancfl.Lib.Call
import Ancfl.Lib.Int32
import Ancfl.Lib.Run
import Mathlib.Data.List.Basic
import Mathlib.Logic.Function.Basic
import Mathlib.Tactic.Common

namespace Ancfl.IOManager

open Lib

/-! ## Contexts -/

inductive Event
  | READ
  | WRITE
deriving DecidableEq

/-- `S` are the schedulers, `F` the fibers, `C` the callbacks. -/
structure EventContext (S F C : Type) where
  scheduler : Option S := none
  fiber : Option F := none
  cb : Option C := none

/-- `context` are `read` and `write`, as `getContext` returns them; `events` the bits that are set. -/
structure FdContext (S F C : Type) where
  fd : ℕ
  context : Event → EventContext S F C := fun _ => {}
  events : Event → Bool := fun _ => false

/-- What ends the program. -/
inductive Fault
  /-- `triggerEvent` asserts that the bit is set -/
  | triggerEvent
  /-- `addEvent` asserts that it is not set -/
  | addEvent
  /-- `addEvent` asserts that the context is empty -/
  | context
  /-- `cancelAll` asserts that no bit is left -/
  | cancelAll
  /-- a null scheduler is dereferenced -/
  | null
  /-- the table has no such entry -/
  | index
deriving DecidableEq

/-- A call that a thread has made, with what it needs in the section of the context. -/
inductive Op (C : Type)
  | addEvent (event : Event) (cb : Option C)
  | delEvent (event : Event)
  | cancelEvent (event : Event)
  | cancelAll

/-- What `epoll_wait` returns for a descriptor: the address of its context, `EPOLLIN` and `EPOLLOUT`,
    and whether there is `EPOLLERR` or `EPOLLHUP`. -/
structure Report where
  ptr : ℕ
  events : Event → Bool
  error : Bool

/-- Where a thread stands. -/
inductive Pc (C : Type)
  | idle
  /-- `addEvent` found the table too short -/
  | resize (fd : ℕ) (event : Event) (cb : Option C)
  /-- a call that has found its context -/
  | locked (fd ptr : ℕ) (op : Op C)
  /-- `idle` in its loop over the events -/
  | dispatch (events : List Report)

/-- The system of the threads `T`.  A context is never freed; its address is its place. -/
structure Sys (T S F C : Type) where
  contexts : List (FdContext S F C)
  fdContexts : List ℕ
  pendingEventCount : ℤ
  /-- the address and the events that epoll has for a descriptor -/
  registered : ℕ → Option (ℕ × (Event → Bool))
  /-- what was handed to the schedulers -/
  scheduled : List (S × (F ⊕ C))
  pc : T → Pc C
  failed : Option Fault

variable {T S F C : Type}

/-! ## The sections -/

/-- `contextResize(size)` -/
def contextResize (s : Sys T S F C) (size : ℕ) : Sys T S F C :=
  let kept := s.fdContexts.take size
  let missing := size - kept.length
  { s with
    contexts := s.contexts ++ (List.range missing).map fun i => { fd := kept.length + i }
    fdContexts := kept ++ (List.range missing).map fun i => s.contexts.length + i }

def init (T S F C : Type) : Sys T S F C :=
  contextResize ⟨[], [], 0, fun _ => none, [], fun _ => .idle, none⟩ 32

/-- The bits of `events` that are set, with one of them changed. -/
def setBit (events : Event → Bool) (event : Event) (b : Bool) : Event → Bool :=
  Function.update events event b

def hasBits (events : Event → Bool) : Bool := events .READ || events .WRITE

/-- `epoll_ctl`: `EPOLL_CTL_DEL` if there are no events, otherwise `ADD` or `MOD`. -/
def epollCtl (s : Sys T S F C) (fd ptr : ℕ) (events : Event → Bool) : Sys T S F C :=
  { s with
    registered := Function.update s.registered fd (if hasBits events then some (ptr, events) else none) }

/-- The context at an address is written. -/
def put (s : Sys T S F C) (ptr : ℕ) (ctx : FdContext S F C) : Sys T S F C :=
  { s with contexts := s.contexts.set ptr ctx }

/-- `FdContext::triggerEvent`; the scheduler swaps the callback or the fiber out. -/
def triggerEvent (s : Sys T S F C) (ptr : ℕ) (event : Event) : Except Fault (Sys T S F C) :=
  match s.contexts[ptr]? with
  | none => .error .index
  | some ctx =>
    if ctx.events event = false then .error .triggerEvent
    else
      let c := ctx.context event
      match c.scheduler with
      | none => .error .null
      | some scheduler =>
        let (rest, task) : EventContext S F C × Option (F ⊕ C) :=
          match c.cb with
          | some cb => ({ c with cb := none }, some (.inr cb))
          | none => ({ c with fiber := none }, c.fiber.map .inl)
        .ok { put s ptr { ctx with
            events := setBit ctx.events event false
            context := Function.update ctx.context event { rest with scheduler := none } } with
          scheduled := s.scheduled ++ task.toList.map fun x => (scheduler, x) }

/-- `fd_ctx->triggerEvent(event); --m_pendingEventCount` -/
def fire (s : Sys T S F C) (ptr : ℕ) (event : Event) : Except Fault (Sys T S F C) := do
  let s ← triggerEvent s ptr event
  return { s with pendingEventCount := s.pendingEventCount - 1 }

/-- `if (events & event)`, then as before. -/
def fireIf (s : Sys T S F C) (ptr : ℕ) (event : Event) (events : Event → Bool) :
    Except Fault (Sys T S F C) :=
  if events event then fire s ptr event else .ok s

/-- The section of a call; `ok` is whether `epoll_ctl` returns 0, `scheduler` and `fiber` what
    `GetThis()` returns. -/
def inLock (s : Sys T S F C) (fd ptr : ℕ) (ctx : FdContext S F C) (ok : Bool) (scheduler : Option S)
    (fiber : F) : Op C → Except Fault (Sys T S F C)
  | .addEvent event cb =>
    if ctx.events event then .error .addEvent
    else if !ok then .ok s
    else
      let s := epollCtl s fd ptr (setBit ctx.events event true)
      let c := ctx.context event
      if c.scheduler.isSome || c.fiber.isSome || c.cb.isSome then .error .context
      else
        .ok { put s ptr { ctx with
            events := setBit ctx.events event true
            context := Function.update ctx.context event
              ⟨scheduler, if cb.isSome then none else some fiber, cb⟩ } with
          pendingEventCount := s.pendingEventCount + 1 }
  | .delEvent event =>
    if ctx.events event = false then .ok s
    else if !ok then .ok s
    else
      let s := epollCtl s fd ptr (setBit ctx.events event false)
      .ok { put s ptr { ctx with
          events := setBit ctx.events event false
          context := Function.update ctx.context event {} } with
        pendingEventCount := s.pendingEventCount - 1 }
  | .cancelEvent event =>
    if ctx.events event = false then .ok s
    else if !ok then .ok s
    else fire (epollCtl s fd ptr (setBit ctx.events event false)) ptr event
  | .cancelAll =>
    if hasBits ctx.events = false then .ok s
    else if !ok then .ok s
    else do
      let s := epollCtl s fd ptr fun _ => false
      let s ← fireIf s ptr .READ ctx.events
      let s ← fireIf s ptr .WRITE ctx.events
      if (s.contexts[ptr]?).any fun ctx => hasBits ctx.events then .error .cancelAll else .ok s

/-- `real_events` -/
def realEvents (ctx : FdContext S F C) (r : Report) (event : Event) : Bool :=
  r.events event || (r.error && ctx.events event)

/-- The section of `idle` for an event. -/
def dispatch (s : Sys T S F C) (r : Report) (ctx : FdContext S F C) (ok : Bool) :
    Except Fault (Sys T S F C) :=
  let real_events := realEvents ctx r
  if hasBits (fun event => ctx.events event && real_events event) = false then .ok s
  else if !ok then .ok s
  else do
    let s := epollCtl s ctx.fd r.ptr fun event => ctx.events event && !real_events event
    let s ← fireIf s r.ptr .READ real_events
    fireIf s r.ptr .WRITE real_events

/-! ## Steps -/

/-- What happens in a step.  `fds` are the descriptors for which `epoll_wait` returns an event. -/
inductive Label (T S F C : Type)
  | call (t : T) (fd : ℕ) (op : Op C)
  | resize (t : T)
  | inLock (t : T) (ok : Bool) (scheduler : Option S) (fiber : F)
  | wait (t : T) (fds : List (ℕ × (Event → Bool) × Bool))
  | dispatch (t : T) (ok : Bool)

variable [DecidableEq T]

def goto (s : Sys T S F C) (t : T) (p : Pc C) : Sys T S F C := { s with pc := Function.update s.pc t p }

/-- The state after a section. -/
def commit (s : Sys T S F C) : Except Fault (Sys T S F C) → Sys T S F C
  | .ok s' => s'
  | .error f => { s with failed := some f }

/-- The context that a call finds under the read lock: `(int)m_fdContexts.size() > fd`. -/
def find (s : Sys T S F C) (fd : ℕ) : Option ℕ :=
  s.fdContexts[fd]?.filter fun _ => fd < toInt32 s.fdContexts.length

/-- What epoll returns for a descriptor: some of the events that are registered. -/
def report (s : Sys T S F C) (fd : ℕ) (events : Event → Bool) (error : Bool) : Option Report :=
  match s.registered fd with
  | none => none
  | some (ptr, registered) =>
    if (events .READ → registered .READ) ∧ (events .WRITE → registered .WRITE) then
      some ⟨ptr, events, error⟩
    else none

/-- A step of a program that has not failed. -/
def proceed (s : Sys T S F C) : Label T S F C → Option (Sys T S F C)
  | .call t fd op =>
    match s.pc t with
    | .idle =>
      match find s fd, op with
      | some ptr, _ => some (goto s t (.locked fd ptr op))
      | none, .addEvent event cb => some (goto s t (.resize fd event cb))
      | none, _ => some s
    | _ => none
  | .resize t =>
    match s.pc t with
    | .resize fd event cb =>
      -- `fd * 1.5`, converted to `size_t`
      let s := contextResize s (fd * 3 / 2)
      match s.fdContexts[fd]? with
      | some ptr => some (goto s t (.locked fd ptr (.addEvent event cb)))
      | none => some { s with failed := some .index }
    | _ => none
  | .inLock t ok scheduler fiber =>
    match s.pc t with
    | .locked fd ptr op => do
      let ctx ← s.contexts[ptr]?
      return goto (commit s (inLock s fd ptr ctx ok scheduler fiber op)) t .idle
    | _ => none
  | .wait t fds =>
    match s.pc t with
    | .idle => do
      let events ← fds.mapM fun (fd, events, error) => report s fd events error
      if events.length ≤ 256 ∧ (fds.map Prod.fst).Nodup then return goto s t (.dispatch events) else none
    | _ => none
  | .dispatch t ok =>
    match s.pc t with
    | .dispatch [] => some (goto s t .idle)
    | .dispatch (r :: rest) => do
      let ctx ← s.contexts[r.ptr]?
      return goto (commit s (dispatch s r ctx ok)) t (.dispatch rest)
    | _ => none

def next (s : Sys T S F C) (l : Label T S F C) : Option (Sys T S F C) :=
  if s.failed.isSome then none else proceed s l

def step (s : Sys T S F C) (l : Label T S F C) (s' : Sys T S F C) : Prop := next s l = some s'

/-- What a step does. -/
inductive Moves (s : Sys T S F C) : Label T S F C → Sys T S F C → Prop
  | found {t : T} {fd ptr : ℕ} {op : Op C} : s.pc t = .idle → find s fd = some ptr →
      Moves s (.call t fd op) (goto s t (.locked fd ptr op))
  | short {t : T} {fd : ℕ} {event : Event} {cb : Option C} : s.pc t = .idle → find s fd = none →
      Moves s (.call t fd (.addEvent event cb)) (goto s t (.resize fd event cb))
  | refused {t : T} {fd : ℕ} {op : Op C} : Moves s (.call t fd op) s
  | resized {t : T} {fd ptr : ℕ} {event : Event} {cb : Option C} : s.pc t = .resize fd event cb →
      (contextResize s (fd * 3 / 2)).fdContexts[fd]? = some ptr →
      Moves s (.resize t) (goto (contextResize s (fd * 3 / 2)) t (.locked fd ptr (.addEvent event cb)))
  | outside {t : T} {fd : ℕ} {event : Event} {cb : Option C} : s.pc t = .resize fd event cb →
      (contextResize s (fd * 3 / 2)).fdContexts[fd]? = none →
      Moves s (.resize t) { contextResize s (fd * 3 / 2) with failed := some .index }
  | inLock {t : T} {fd ptr : ℕ} {op : Op C} {ctx : FdContext S F C} {ok : Bool} {scheduler : Option S}
      {fiber : F} : s.pc t = .locked fd ptr op → s.contexts[ptr]? = some ctx →
      Moves s (.inLock t ok scheduler fiber)
        (goto (commit s (inLock s fd ptr ctx ok scheduler fiber op)) t .idle)
  | wait {t : T} {fds : List (ℕ × (Event → Bool) × Bool)} {events : List Report} : s.pc t = .idle →
      Moves s (.wait t fds) (goto s t (.dispatch events))
  | done {t : T} {ok : Bool} : s.pc t = .dispatch [] → Moves s (.dispatch t ok) (goto s t .idle)
  | dispatch {t : T} {r : Report} {rest : List Report} {ctx : FdContext S F C} {ok : Bool} :
      s.pc t = .dispatch (r :: rest) → s.contexts[r.ptr]? = some ctx →
      Moves s (.dispatch t ok) (goto (commit s (dispatch s r ctx ok)) t (.dispatch rest))

theorem step_moves {s s' : Sys T S F C} {l : Label T S F C} (h : step s l s') :
    s.failed = none ∧ Moves s l s' := by
  rw [step, next] at h
  split_ifs at h with hfailed
  refine ⟨by simpa using hfailed, ?_⟩
  unfold proceed at h
  cases l with
  | call t fd op =>
    cases hpc : s.pc t <;> simp only [hpc, reduceCtorEq] at h
    cases hptr : find s fd with
    | some ptr =>
      simp only [hptr, Option.some.injEq] at h
      exact h ▸ .found hpc hptr
    | none =>
      cases op <;> simp only [hptr, Option.some.injEq] at h
      · exact h ▸ .short hpc hptr
      · exact h ▸ .refused
      · exact h ▸ .refused
      · exact h ▸ .refused
  | resize t =>
    cases hpc : s.pc t <;> simp only [hpc, reduceCtorEq] at h
    rename_i fd event cb
    cases hptr : (contextResize s (fd * 3 / 2)).fdContexts[fd]? with
    | some ptr =>
      simp only [hptr, Option.some.injEq] at h
      exact h ▸ .resized hpc hptr
    | none =>
      simp only [hptr, Option.some.injEq] at h
      exact h ▸ .outside hpc hptr
  | inLock t ok scheduler fiber =>
    cases hpc : s.pc t <;> simp only [hpc, reduceCtorEq] at h
    obtain ⟨ctx, hctx, h⟩ := Option.bind_eq_some_iff.1 h
    cases h
    exact .inLock hpc hctx
  | wait t fds =>
    cases hpc : s.pc t <;> simp only [hpc, reduceCtorEq] at h
    obtain ⟨events, -, h⟩ := Option.bind_eq_some_iff.1 h
    split_ifs at h
    cases h
    exact .wait hpc
  | dispatch t ok =>
    cases hpc : s.pc t <;> simp only [hpc, reduceCtorEq] at h
    rename_i events
    cases events with
    | nil => cases h; exact .done hpc
    | cons r rest =>
      obtain ⟨ctx, hctx, h⟩ := Option.bind_eq_some_iff.1 h
      cases h
      exact .dispatch hpc hctx

end Ancfl.IOManager
