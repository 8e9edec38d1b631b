/-
  Commands of a `FoxRedis`: a fiber waits for the reply that the callbacks of
  the event loop give it.

  * `RedisReplyClone`: the reply that the fiber gets; `clone_eq_iff`;
  * `Sys`: the calls of `cmd`, each with its `FCtx`, which ends when the call
    returns; the `pcmd` that are queued, and the `Ctx` that there are;
  * a step is a callback of the thread, or a step of a fiber; a callback that
    finds an `FCtx` which has ended has no defined behaviour;
  * `Inv`: a call whose fiber was not scheduled is queued, or has one `Ctx` with
    a timer, and no other call has;
  * `returns_of_run`: each fiber is scheduled once, no callback finds an `FCtx`
    that has ended, and all calls return, however the steps come.
-/
import Ancfl.Lib.Pool
import Ancfl.Lib.Settle

namespace Ancfl.FoxRedis

open Lib

/-! ## Replies -/

def REDIS_REPLY_STRING : ℕ := 1
def REDIS_REPLY_ARRAY : ℕ := 2
def REDIS_REPLY_INTEGER : ℕ := 3
def REDIS_REPLY_STATUS : ℕ := 5
def REDIS_REPLY_ERROR : ℕ := 6

/-- `redisReply`, with the elements of an array behind it. -/
inductive Reply
  | mk (type : ℕ) (integer : ℤ) (str : Option (List UInt8)) (element : List Reply)

def IsText (type : ℕ) : Prop :=
  type = REDIS_REPLY_ERROR ∨ type = REDIS_REPLY_STATUS ∨ type = REDIS_REPLY_STRING

instance (type : ℕ) : Decidable (IsText type) := inferInstanceAs (Decidable (_ ∨ _ ∨ _))

mutual
/-- A `calloc` and the fields of the type. -/
def RedisReplyClone : Reply → Reply
  | .mk type integer str element =>
    if type = REDIS_REPLY_INTEGER then .mk type integer none []
    else if type = REDIS_REPLY_ARRAY then .mk type 0 none (cloneElements element)
    else if IsText type then .mk type 0 str []
    else .mk type 0 none []

def cloneElements : List Reply → List Reply
  | [] => []
  | r :: rs => RedisReplyClone r :: cloneElements rs
end

mutual
/-- Only the fields are set that `RedisReplyClone` knows for the type. -/
def Reply.Known : Reply → Prop
  | .mk type integer str element =>
    (type ≠ REDIS_REPLY_INTEGER → integer = 0) ∧ (¬IsText type → str = none) ∧
      (type ≠ REDIS_REPLY_ARRAY → element = []) ∧ KnownElements element

def KnownElements : List Reply → Prop
  | [] => True
  | r :: rs => r.Known ∧ KnownElements rs
end

mutual
/-- **The clone** is the reply if and only if no other field of it is set, to any depth. -/
theorem clone_eq_iff : ∀ r : Reply, RedisReplyClone r = r ↔ r.Known
  | .mk type integer str element => by
    have hrest := cloneElements_eq_iff element
    unfold RedisReplyClone Reply.Known
    by_cases hint : type = REDIS_REPLY_INTEGER
    · subst hint
      have htext : ¬IsText REDIS_REPLY_INTEGER := by decide
      have harray : REDIS_REPLY_INTEGER ≠ REDIS_REPLY_ARRAY := by decide
      rw [if_pos rfl, Reply.mk.injEq]
      constructor
      · rintro ⟨-, -, rfl, rfl⟩
        exact ⟨fun h => absurd rfl h, fun _ => rfl, fun _ => rfl, trivial⟩
      · rintro ⟨-, hstr, helement, -⟩
        exact ⟨rfl, rfl, (hstr htext).symm, (helement harray).symm⟩
    · rw [if_neg hint]
      by_cases harray : type = REDIS_REPLY_ARRAY
      · subst harray
        have htext : ¬IsText REDIS_REPLY_ARRAY := by decide
        rw [if_pos rfl, Reply.mk.injEq, hrest]
        constructor
        · rintro ⟨-, rfl, rfl, helement⟩
          exact ⟨fun _ => rfl, fun _ => rfl, fun h => absurd rfl h, helement⟩
        · rintro ⟨hinteger, hstr, -, helement⟩
          exact ⟨rfl, (hinteger hint).symm, (hstr htext).symm, helement⟩
      · rw [if_neg harray]
        split_ifs with htext
        · rw [Reply.mk.injEq]
          constructor
          · rintro ⟨-, rfl, -, rfl⟩
            exact ⟨fun _ => rfl, fun h => absurd htext h, fun _ => rfl, trivial⟩
          · rintro ⟨hinteger, -, helement, -⟩
            exact ⟨rfl, (hinteger hint).symm, rfl, (helement harray).symm⟩
        · rw [Reply.mk.injEq]
          constructor
          · rintro ⟨-, rfl, rfl, rfl⟩
            exact ⟨fun _ => rfl, fun _ => rfl, fun _ => rfl, trivial⟩
          · rintro ⟨hinteger, hstr, helement, -⟩
            exact ⟨rfl, (hinteger hint).symm, (hstr htext).symm, (helement harray).symm⟩

theorem cloneElements_eq_iff : ∀ rs : List Reply, cloneElements rs = rs ↔ KnownElements rs
  | [] => by simp [cloneElements, KnownElements]
  | r :: rs => by
    rw [cloneElements, KnownElements, List.cons.injEq, clone_eq_iff r, cloneElements_eq_iff rs]
end

/-! ## Calls and contexts -/

/-- Where the caller of `cmd` is. -/
inductive Place
  /-- between the `dispatch` of `pcmd` and `YieldToHold` -/
  | running
  | held
  /-- its `FCtx` has ended -/
  | returned
deriving DecidableEq

/-- A call of `cmd`, with the fields of its `FCtx`; `scheduled` counts the calls of `schedule` for its
    fiber. -/
structure Cmd where
  fiber : Bool
  rpy : Option Reply
  scheduled : ℕ
  place : Place

/-- A `Ctx` of the call `cmd`: `armed` says that its timer will come, and `outstanding` that hiredis has
    its callback. -/
structure Ctx where
  cmd : ℕ
  timeout : Bool
  armed : Bool
  outstanding : Bool

inductive Status
  | UNCONNECTED | CONNECTING | CONNECTED
deriving DecidableEq

structure Sys where
  m_status : Status
  cmds : List Cmd
  /-- the `pcmd` in the queue of the thread -/
  queued : List ℕ
  ctxs : List Ctx
  /-- a callback has found an `FCtx` that has ended -/
  undefined : Bool

/-- What hiredis calls `CmdCb` with. -/
inductive Outcome
  | err
  | null
  | reply (r : Reply)

inductive Label
  /-- `cmd`, up to the `dispatch` -/
  | cmd
  | YieldToHold (i : ℕ)
  /-- the scheduler goes on with the fiber, and `cmd` returns -/
  | resume (i : ℕ)
  /-- `pcmd`; whether `pinit` connects, and whether hiredis takes the command -/
  | pcmd (connects accepted : Bool)
  /-- `EventCb` -/
  | timer (n : ℕ)
  /-- `CmdCb` -/
  | reply (n : ℕ) (outcome : Outcome)
  /-- `ConnectCb` or `DisconnectCb` -/
  | status (m_status : Status)

def init : Sys := ⟨.UNCONNECTED, [], [], [], false⟩

/-- An access to the `FCtx` of the call. -/
def onFCtx (s : Sys) (i : ℕ) (f : Cmd → Cmd) : Sys :=
  match s.cmds[i]? with
  | some c => if c.place = .returned then { s with undefined := true } else { s with cmds := s.cmds.set i (f c) }
  | none => s

/-- `if (fctx->fiber) scheduler->schedule(&fctx->fiber)`, which takes the pointer -/
def schedule (c : Cmd) : Cmd := if c.fiber then { c with fiber := false, scheduled := c.scheduled + 1 } else c

def next (s : Sys) : Label → Option Sys
  | .cmd => some { s with
      cmds := s.cmds ++ [⟨true, none, 0, .running⟩]
      queued := s.queued ++ [s.cmds.length] }
  | .YieldToHold i =>
    match s.cmds[i]? with
    | some c => if c.place = .running then some { s with cmds := s.cmds.set i { c with place := .held } } else none
    | none => none
  | .resume i =>
    match s.cmds[i]? with
    | some c =>
      if c.place = .held ∧ 0 < c.scheduled then
        some { s with cmds := s.cmds.set i { c with place := .returned } }
      else none
    | none => none
  | .pcmd connects accepted =>
    match s.queued with
    | [] => none
    | i :: queued =>
      if s.m_status = .UNCONNECTED then
        some (onFCtx { s with
          queued := queued
          m_status := if connects then .CONNECTING else .UNCONNECTED } i schedule)
      -- `ctx->cmd = fctx->cmd`
      else some (onFCtx { s with queued := queued, ctxs := s.ctxs ++ [⟨i, false, true, accepted⟩] } i id)
  | .timer n =>
    match s.ctxs[n]? with
    | some ctx =>
      if ctx.armed then
        some (onFCtx { s with ctxs := s.ctxs.set n { ctx with timeout := true, armed := false } } ctx.cmd schedule)
      else none
    | none => none
  | .reply n outcome =>
    match s.ctxs[n]? with
    | some ctx =>
      if !ctx.outstanding then none
      -- `delete ctx`, which takes the timer out
      else if ctx.timeout then some { s with ctxs := s.ctxs.eraseIdx n }
      else
        let s := { s with ctxs := s.ctxs.eraseIdx n }
        match outcome with
        | .err | .null => some (onFCtx s ctx.cmd schedule)
        | .reply (.mk type integer str element) =>
          if type = REDIS_REPLY_ERROR then some (onFCtx s ctx.cmd schedule)
          else some (onFCtx s ctx.cmd fun c =>
            if c.fiber then schedule { c with rpy := some (RedisReplyClone (.mk type integer str element)) }
            else c)
    | none => none
  | .status m_status => some { s with m_status := m_status }

def step (s : Sys) (l : Label) (s' : Sys) : Prop := next s l = some s'

/-- The steps of the thread, and of the fibers that are in `cmd`. -/
def Label.Internal : Label → Prop
  | .YieldToHold _ | .resume _ | .pcmd _ _ | .timer _ | .reply _ _ => True
  | .cmd | .status _ => False

/-- A callback lets a fiber go. -/
structure Schedules (f : Cmd → Cmd) : Prop where
  fiber : ∀ c, c.fiber = true → (f c).fiber = false
  scheduled : ∀ c, c.fiber = true → (f c).scheduled = c.scheduled + 1
  place : ∀ c, (f c).place = c.place

theorem schedules_schedule : Schedules schedule where
  fiber c h := by simp [schedule, h]
  scheduled c h := by simp [schedule, h]
  place c := by unfold schedule; split_ifs <;> rfl

theorem schedules_reply (r : Reply) :
    Schedules fun c => if c.fiber then schedule { c with rpy := some r } else c where
  fiber c h := by simp [schedule, h]
  scheduled c h := by simp [schedule, h]
  place c := by
    cases h : c.fiber <;> simp [schedule]

/-- What a step does. -/
inductive Steps (s : Sys) : Label → Sys → Prop
  | cmd : Steps s .cmd { s with
      cmds := s.cmds ++ [⟨true, none, 0, .running⟩]
      queued := s.queued ++ [s.cmds.length] }
  | hold {i : ℕ} {c : Cmd} (hc : s.cmds[i]? = some c) (hplace : c.place = .running) :
    Steps s (.YieldToHold i) { s with cmds := s.cmds.set i { c with place := .held } }
  | resume {i : ℕ} {c : Cmd} (hc : s.cmds[i]? = some c) (hplace : c.place = .held)
      (hscheduled : 0 < c.scheduled) :
    Steps s (.resume i) { s with cmds := s.cmds.set i { c with place := .returned } }
  | refuse {connects accepted : Bool} {i : ℕ} {queued : List ℕ} (m_status : Status)
      (hqueued : s.queued = i :: queued) :
    Steps s (.pcmd connects accepted) (onFCtx { s with queued := queued, m_status := m_status } i schedule)
  | send {connects accepted : Bool} {i : ℕ} {queued : List ℕ} (hqueued : s.queued = i :: queued) :
    Steps s (.pcmd connects accepted)
      (onFCtx { s with queued := queued, ctxs := s.ctxs ++ [⟨i, false, true, accepted⟩] } i id)
  | timer {n : ℕ} {ctx : Ctx} (hctx : s.ctxs[n]? = some ctx) (harmed : ctx.armed = true) :
    Steps s (.timer n)
      (onFCtx { s with ctxs := s.ctxs.set n { ctx with timeout := true, armed := false } } ctx.cmd schedule)
  | late {n : ℕ} {outcome : Outcome} {ctx : Ctx} (hctx : s.ctxs[n]? = some ctx)
      (htimeout : ctx.timeout = true) :
    Steps s (.reply n outcome) { s with ctxs := s.ctxs.eraseIdx n }
  | reply {n : ℕ} {outcome : Outcome} {ctx : Ctx} {f : Cmd → Cmd} (hctx : s.ctxs[n]? = some ctx)
      (htimeout : ctx.timeout = false) (hf : Schedules f) :
    Steps s (.reply n outcome) (onFCtx { s with ctxs := s.ctxs.eraseIdx n } ctx.cmd f)
  | status (m_status : Status) : Steps s (.status m_status) { s with m_status := m_status }

theorem steps {s s' : Sys} {l : Label} (h : step s l s') : Steps s l s' := by
  unfold step next at h
  cases l with
  | cmd => cases h; exact .cmd
  | status m_status => cases h; exact .status m_status
  | YieldToHold i =>
    cases hc : s.cmds[i]? with
    | none => simp [hc] at h
    | some c =>
      simp only [hc] at h
      obtain ⟨hplace, h⟩ := Option.ite_none_right_eq_some.1 h
      cases h
      exact .hold hc hplace
  | resume i =>
    cases hc : s.cmds[i]? with
    | none => simp [hc] at h
    | some c =>
      simp only [hc] at h
      obtain ⟨⟨hplace, hscheduled⟩, h⟩ := Option.ite_none_right_eq_some.1 h
      cases h
      exact .resume hc hplace hscheduled
  | pcmd connects accepted =>
    cases hqueued : s.queued with
    | nil => simp [hqueued] at h
    | cons i queued =>
      simp only [hqueued] at h
      split_ifs at h <;> cases h
      · exact .refuse _ hqueued
      · exact .refuse _ hqueued
      · exact .send hqueued
  | timer n =>
    cases hctx : s.ctxs[n]? with
    | none => simp [hctx] at h
    | some ctx =>
      simp only [hctx] at h
      obtain ⟨harmed, h⟩ := Option.ite_none_right_eq_some.1 h
      cases h
      exact .timer hctx harmed
  | reply n outcome =>
    cases hctx : s.ctxs[n]? with
    | none => simp [hctx] at h
    | some ctx =>
      simp only [hctx] at h
      obtain ⟨-, h⟩ := Option.ite_none_left_eq_some.1 h
      split_ifs at h with htimeout
      · cases h
        exact .late hctx htimeout
      · have htimeout := Bool.eq_false_iff.2 htimeout
        rcases outcome with _ | _ | ⟨type, integer, str, element⟩
        · cases h
          exact .reply hctx htimeout schedules_schedule
        · cases h
          exact .reply hctx htimeout schedules_schedule
        · dsimp only at h
          split_ifs at h <;> cases h
          · exact .reply hctx htimeout schedules_schedule
          · exact .reply hctx htimeout (schedules_reply _)

/-! ## Who will schedule the fiber -/

/-- A context that will schedule the fiber of `i`. -/
def Ctx.waits (i : ℕ) (ctx : Ctx) : ℕ := if ctx.cmd = i ∧ ctx.timeout = false then 1 else 0

/-- What the call `i` waits for. -/
def waiting (s : Sys) (i : ℕ) : ℕ := s.queued.count i + tally (Ctx.waits i) s.ctxs

structure Cmd.Ok (waiting : ℕ) (c : Cmd) : Prop where
  once : waiting + c.scheduled = 1
  fiber : c.fiber = true ↔ c.scheduled = 0
  returned : c.place = .returned → c.scheduled = 1

/-- Every call is waited for, or its fiber was scheduled; no callback has found one that has ended. -/
structure Inv (s : Sys) : Prop where
  defined : s.undefined = false
  cmds : ∀ i c, s.cmds[i]? = some c → Cmd.Ok (waiting s i) c
  /-- nothing is about a call that was not made -/
  fresh : ∀ i, s.cmds[i]? = none → waiting s i = 0
  armed : ∀ ctx ∈ s.ctxs, ctx.armed = !ctx.timeout

theorem inv_init : Inv init :=
  ⟨rfl, fun i c h => by simp [init] at h, fun i _ => rfl, fun ctx h => by simp [init] at h⟩

variable {s s' : Sys} {l : Label}

/-- An access to the `FCtx` of a call that has not returned. -/
theorem onFCtx_eq {i : ℕ} {c : Cmd} (hc : s.cmds[i]? = some c) (hplace : c.place ≠ .returned)
    (f : Cmd → Cmd) : onFCtx s i f = { s with cmds := s.cmds.set i (f c) } := by
  simp [onFCtx, hc, hplace]

/-- A call that something waits for has its fiber still. -/
theorem Inv.exists_cmd (hs : Inv s) {i : ℕ} (hi : 0 < waiting s i) :
    ∃ c, s.cmds[i]? = some c ∧ c.fiber = true ∧ c.scheduled = 0 ∧ c.place ≠ .returned := by
  cases hc : s.cmds[i]? with
  | none =>
    have := hs.fresh i hc
    omega
  | some c =>
    have hok := hs.cmds i c hc
    have hscheduled : c.scheduled = 0 := by
      have := hok.once
      omega
    refine ⟨c, rfl, hok.fiber.2 hscheduled, hscheduled, fun hreturned => ?_⟩
    have := hok.returned hreturned
    omega

/-- A step that leaves the calls, and what each waits for. -/
theorem Inv.frame (hs : Inv s) (hcmds : s'.cmds = s.cmds) (hundefined : s'.undefined = s.undefined)
    (hwaiting : ∀ i, waiting s' i = waiting s i) (harmed : ∀ ctx ∈ s'.ctxs, ctx.armed = !ctx.timeout) :
    Inv s' := by
  refine ⟨hundefined.trans hs.defined, fun i c hc => ?_, fun i hi => ?_, harmed⟩
  · rw [hwaiting]
    exact hs.cmds i c (hcmds ▸ hc)
  · rw [hwaiting]
    exact hs.fresh i (hcmds ▸ hi)

/-- A callback that schedules the fiber of the call that has waited for it. -/
theorem Inv.release {i : ℕ} {f : Cmd → Cmd} (hs : Inv s) (hf : Schedules f) (hcmds : s'.cmds = s.cmds)
    (hundefined : s'.undefined = s.undefined)
    (hwaiting : ∀ j, waiting s' j + (if i = j then 1 else 0) = waiting s j)
    (harmed : ∀ ctx ∈ s'.ctxs, ctx.armed = !ctx.timeout) : Inv (onFCtx s' i f) := by
  have hi : waiting s' i + 1 = waiting s i := by simpa using hwaiting i
  obtain ⟨c, hc, hfiber, hscheduled, hplace⟩ := hs.exists_cmd (by omega : 0 < waiting s i)
  have hok := hs.cmds i c hc
  rw [← hcmds] at hc
  rw [onFCtx_eq hc hplace f]
  refine ⟨hundefined.trans hs.defined, fun j d hd => ?_, fun j hj => ?_, harmed⟩
  · by_cases hij : i = j
    · subst hij
      have hd : f c = d := Option.some.inj ((List.getElem?_set_self (List.getElem?_eq_some_iff.1 hc).1).symm.trans hd)
      subst hd
      have honce := hok.once
      refine ⟨?_, ?_, fun _ => ?_⟩
      · change waiting s' i + _ = 1
        rw [hf.scheduled c hfiber]
        omega
      · simp [hf.fiber c hfiber, hf.scheduled c hfiber]
      · rw [hf.scheduled c hfiber, hscheduled]
    · have hd : s.cmds[j]? = some d := by simpa [List.getElem?_set, hij, hcmds] using hd
      have hj : waiting s' j = waiting s j := by simpa [hij] using hwaiting j
      change Cmd.Ok (waiting s' j) d
      exact hj ▸ hs.cmds j d hd
  · have hj : s.cmds[j]? = none := by simpa [hcmds] using hj
    have := hs.fresh j hj
    have := hwaiting j
    change waiting s' j = 0
    omega

/-- A step of a fiber. -/
theorem Inv.move {i : ℕ} {c : Cmd} {place : Place} (hs : Inv s) (hc : s.cmds[i]? = some c)
    (hplace : place = .returned → 0 < c.scheduled) :
    Inv { s with cmds := s.cmds.set i { c with place := place } } := by
  refine ⟨hs.defined, fun j d hd => ?_, fun j hj => hs.fresh j (by simpa using hj), hs.armed⟩
  have hok := hs.cmds i c hc
  by_cases hij : i = j
  · subst hij
    have hd : { c with place := place } = d :=
      Option.some.inj ((List.getElem?_set_self (List.getElem?_eq_some_iff.1 hc).1).symm.trans hd)
    subst hd
    refine ⟨hok.once, hok.fiber, fun hreturned => ?_⟩
    have hpos := hplace hreturned
    have honce := hok.once
    change c.scheduled = 1
    omega
  · exact hs.cmds j d (by simpa [List.getElem?_set, hij] using hd)

theorem waits_of_timeout {ctx : Ctx} (h : ctx.timeout = true) (i : ℕ) : ctx.waits i = 0 := by
  simp [Ctx.waits, h]

theorem waits_of_not_timeout {ctx : Ctx} (h : ctx.timeout = false) (i : ℕ) :
    ctx.waits i = if ctx.cmd = i then 1 else 0 := by
  simp [Ctx.waits, h]

theorem count_cons_eq (i j : ℕ) (queued : List ℕ) :
    (i :: queued).count j = queued.count j + if i = j then 1 else 0 := by
  simp [List.count_cons]

theorem Inv.step (hs : Inv s) (h : Steps s l s') : Inv s' := by
  cases h with
  | cmd =>
    have hwaiting (i : ℕ) : (s.queued ++ [s.cmds.length]).count i + tally (Ctx.waits i) s.ctxs =
        waiting s i + if s.cmds.length = i then 1 else 0 := by
      rw [List.count_append, count_cons_eq, List.count_nil, waiting]
      omega
    refine ⟨hs.defined, fun i c hc => ?_, fun i hi => ?_, hs.armed⟩
    · rw [waiting, hwaiting]
      by_cases hi : i = s.cmds.length
      · subst hi
        have hc : (⟨true, none, 0, .running⟩ : Cmd) = c := by simpa using hc
        subst hc
        rw [hs.fresh _ (List.getElem?_eq_none (Nat.le_refl _))]
        exact ⟨by simp, by simp, nofun⟩
      · have hlt : i < s.cmds.length := by
          have := (List.getElem?_eq_some_iff.1 hc).1
          rw [List.length_append, List.length_singleton] at this
          omega
        rw [List.getElem?_append_left hlt] at hc
        rw [if_neg (fun he => hi he.symm)]
        exact hs.cmds i c hc
    · have hlen := List.getElem?_eq_none_iff.1 hi
      rw [List.length_append, List.length_singleton] at hlen
      rw [waiting, hwaiting, if_neg (by omega)]
      exact hs.fresh i (List.getElem?_eq_none (by omega))
  | hold hc => exact hs.move hc nofun
  | resume hc hplace hscheduled => exact hs.move hc fun _ => hscheduled
  | @refuse connects accepted i queued m_status hqueued =>
    refine hs.release schedules_schedule rfl rfl (fun j => ?_) hs.armed
    simp only [waiting, hqueued, count_cons_eq]
    omega
  | @send connects accepted i queued hqueued =>
    have hi : 0 < waiting s i := by
      simp [waiting, hqueued]
    obtain ⟨c, hc, -, -, hplace⟩ := hs.exists_cmd hi
    obtain ⟨hlt, rfl⟩ := List.getElem?_eq_some_iff.1 hc
    rw [onFCtx_eq (by exact hc) hplace]
    refine hs.frame (List.set_getElem_self hlt) rfl (fun j => ?_) fun d hd => ?_
    · simp only [waiting, hqueued, count_cons_eq, tally_append, tally_cons, tally_nil, Ctx.waits, and_true]
      omega
    · rcases List.mem_append.1 hd with hd | hd
      · exact hs.armed d hd
      · rw [List.mem_singleton.1 hd]
        rfl
  | @timer n ctx hctx harmed =>
    have htimeout : ctx.timeout = false := by
      simpa [harmed] using hs.armed ctx (List.mem_of_getElem? hctx)
    refine hs.release schedules_schedule rfl rfl (fun j => ?_) fun d hd => ?_
    · have hset := tally_set (Ctx.waits j) hctx { ctx with timeout := true, armed := false }
      have hlate := waits_of_timeout (show { ctx with timeout := true, armed := false }.timeout = true from rfl) j
      rw [hlate, waits_of_not_timeout htimeout] at hset
      simp only [waiting]
      omega
    · rcases List.mem_or_eq_of_mem_set hd with hd | rfl
      · exact hs.armed d hd
      · rfl
  | @late n outcome ctx hctx htimeout =>
    refine hs.frame rfl rfl (fun j => ?_) fun d hd => hs.armed d (List.mem_of_mem_eraseIdx hd)
    have herase := tally_eraseIdx (Ctx.waits j) hctx
    rw [waits_of_timeout htimeout] at herase
    simp only [waiting]
    omega
  | @reply n outcome ctx f hctx htimeout hf =>
    refine hs.release hf rfl rfl (fun j => ?_) fun d hd => hs.armed d (List.mem_of_mem_eraseIdx hd)
    have herase := tally_eraseIdx (Ctx.waits j) hctx
    rw [waits_of_not_timeout htimeout] at herase
    simp only [waiting]
    omega
  | status => exact hs.frame rfl rfl (fun _ => rfl) hs.armed

/-! ## Coming to rest -/

/-- A step of the thread, or of a fiber that is in `cmd`. -/
def internalStep (s : Sys) (l : Label) (s' : Sys) : Prop := l.Internal ∧ step s l s'

def Place.work : Place → ℕ
  | .running => 2
  | .held => 1
  | .returned => 0

def Ctx.work (ctx : Ctx) : ℕ := 1 + if ctx.armed then 1 else 0

/-- A `pcmd` costs a context, its timer and its callback. -/
def remaining (s : Sys) : ℕ :=
  3 * s.queued.length + tally Ctx.work s.ctxs + tally (fun c => c.place.work) s.cmds

theorem remaining_onFCtx {i : ℕ} {f : Cmd → Cmd} (hf : ∀ c, (f c).place = c.place) :
    remaining (onFCtx s i f) = remaining s := by
  unfold onFCtx
  cases hc : s.cmds[i]? with
  | none => rfl
  | some c =>
    dsimp only
    split_ifs
    · rfl
    · have hset := tally_set (fun c : Cmd => c.place.work) hc (f c)
      rw [hf c] at hset
      simp only [remaining]
      omega

theorem length_onFCtx (s : Sys) (i : ℕ) (f : Cmd → Cmd) : (onFCtx s i f).cmds.length = s.cmds.length := by
  unfold onFCtx
  cases s.cmds[i]? with
  | none => rfl
  | some c =>
    dsimp only
    split_ifs <;> simp

theorem remaining_lt (hl : l.Internal) (h : Steps s l s') :
    s'.cmds.length = s.cmds.length ∧ remaining s' < remaining s := by
  cases h with
  | cmd => cases hl
  | status => cases hl
  | @hold i c hc hplace =>
    have hset := tally_set (fun c : Cmd => c.place.work) hc { c with place := .held }
    simp only [hplace, Place.work] at hset
    refine ⟨List.length_set, ?_⟩
    simp only [remaining, Place.work]
    omega
  | @resume i c hc hplace =>
    have hset := tally_set (fun c : Cmd => c.place.work) hc { c with place := .returned }
    simp only [hplace, Place.work] at hset
    refine ⟨List.length_set, ?_⟩
    simp only [remaining, Place.work]
    omega
  | refuse m_status hqueued =>
    refine ⟨length_onFCtx _ _ _, ?_⟩
    rw [remaining_onFCtx schedules_schedule.place]
    simp only [remaining, hqueued, List.length_cons]
    omega
  | send hqueued =>
    refine ⟨length_onFCtx _ _ _, ?_⟩
    rw [remaining_onFCtx (f := id) fun _ => rfl]
    simp only [remaining, hqueued, List.length_cons, tally_append, tally_cons, tally_nil, Ctx.work, if_true]
    omega
  | @timer n ctx hctx harmed =>
    have hset := tally_set Ctx.work hctx { ctx with timeout := true, armed := false }
    refine ⟨length_onFCtx _ _ _, ?_⟩
    rw [remaining_onFCtx schedules_schedule.place]
    simp only [Ctx.work, harmed, if_true, if_false, Bool.false_eq_true] at hset
    simp only [remaining]
    omega
  | late hctx =>
    have herase := tally_eraseIdx Ctx.work hctx
    refine ⟨rfl, ?_⟩
    simp only [Ctx.work] at herase
    simp only [remaining]
    omega
  | reply hctx _ hf =>
    have herase := tally_eraseIdx Ctx.work hctx
    refine ⟨length_onFCtx _ _ _, ?_⟩
    rw [remaining_onFCtx hf.place]
    simp only [Ctx.work] at herase
    simp only [remaining]
    omega

/-- At rest, every call has returned. -/
theorem Inv.returned_of_quiet (hs : Inv s) (hquiet : Quiet internalStep s) :
    ∀ c ∈ s.cmds, c.place = .returned ∧ c.scheduled = 1 := by
  have hstuck {l : Label} (hl : l.Internal) : next s l = none :=
    Option.eq_none_iff_forall_ne_some.2 fun t ht => hquiet l t ⟨hl, ht⟩
  have hqueued : s.queued = [] := by
    cases hqueued : s.queued with
    | nil => rfl
    | cons i queued =>
      have := hstuck (l := .pcmd true true) trivial
      simp only [next, hqueued] at this
      split_ifs at this
  have htimeout : ∀ ctx ∈ s.ctxs, ctx.timeout = true := by
    intro ctx hctx
    obtain ⟨n, hn⟩ := List.mem_iff_getElem?.1 hctx
    have := hstuck (l := .timer n) trivial
    simpa [next, hn, hs.armed ctx hctx] using this
  intro c hc
  obtain ⟨i, hi⟩ := List.mem_iff_getElem?.1 hc
  have hnone : waiting s i = 0 := by
    rw [waiting, hqueued, List.count_nil, Nat.zero_add, tally_eq_zero]
    exact fun ctx hctx => waits_of_timeout (htimeout ctx hctx) i
  have hscheduled : c.scheduled = 1 := by
    have := (hs.cmds i c hi).once
    omega
  refine ⟨?_, hscheduled⟩
  cases hplace : c.place with
  | returned => rfl
  | running =>
    have := hstuck (l := .YieldToHold i) trivial
    simp [next, hi, hplace] at this
  | held =>
    have := hstuck (l := .resume i) trivial
    simp [next, hi, hplace, hscheduled] at this

/-- **Every call returns**, its fiber scheduled once, and no callback finds an `FCtx` that has ended. -/
theorem returns_of_run {ls : List Label} (h : Run step init ls s) :
    s.undefined = false ∧ (∀ c ∈ s.cmds, c.scheduled ≤ 1) ∧
      Settles internalStep s fun t => t.undefined = false ∧ t.cmds.length = s.cmds.length ∧
        ∀ c ∈ t.cmds, c.place = .returned ∧ c.scheduled = 1 := by
  have hs : Inv s := h.invariant (fun _ _ _ ht hstep => ht.step (steps hstep)) inv_init
  refine ⟨hs.defined, fun c hc => ?_, settles_of_measure
    (I := fun t => Inv t ∧ t.cmds.length = s.cmds.length) remaining ?_ ?_ ⟨hs, rfl⟩⟩
  · obtain ⟨i, hi⟩ := List.mem_iff_getElem?.1 hc
    have := (hs.cmds i c hi).once
    omega
  · rintro t l u ⟨ht, hlen⟩ ⟨hl, hstep⟩
    obtain ⟨hlength, hlt⟩ := remaining_lt hl (steps hstep)
    exact ⟨⟨ht.step (steps hstep), hlength.trans hlen⟩, hlt⟩
  · rintro t ⟨ht, hlen⟩ hquiet
    exact ⟨ht.defined, hlen, ht.returned_of_quiet hquiet⟩

/-- The reply comes after the timer. -/
theorem returns_of_run_late : ∃ s, Run step init [.status .CONNECTED, .cmd, .cmd, .YieldToHold 0,
    .pcmd true true, .timer 0, .resume 0, .reply 0 .null] s ∧ s.undefined = false := by
  have hrun : ∃ s, Run step init [.status .CONNECTED, .cmd, .cmd, .YieldToHold 0, .pcmd true true, .timer 0,
      .resume 0, .reply 0 .null] s := ⟨_, Run.of_foldlM rfl⟩
  obtain ⟨s, hrun⟩ := hrun
  exact ⟨s, hrun, (returns_of_run hrun).1⟩

end Ancfl.FoxRedis
