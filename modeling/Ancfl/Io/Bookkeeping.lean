/-
  The event bits, their contexts, and the counter of pending events.

  * `Bookkept`: a bit is set iff its context has a scheduler and a fiber or a
    callback, the counter is the number of bits, and `triggerEvent` did not fail;
  * `fire_ret`, `inLock_ret`, `dispatch_ret`: what a section does to them;
  * `Intact`: of the events that `idle` has for a descriptor all are still
    there, or none;
  * `bookkept_of_intact`: in a run of such steps all this holds;
    `not_bookkept`: an event is removed between `epoll_wait` and its dispatch.
-/
import Ancfl.Io.Manager
import Mathlib.Algebra.BigOperators.Group.List.Basic

namespace Ancfl.IOManager

open Lib

variable {T S F C : Type}

/-! ## The invariant -/

/-- The context of an event that is set, and the empty one otherwise. -/
def Good (ctx : FdContext S F C) (event : Event) : Prop :=
  if ctx.events event then
    (ctx.context event).scheduler.isSome ∧ (ctx.context event).fiber.isSome ≠ (ctx.context event).cb.isSome
  else ctx.context event = {}

/-- The number of bits that are set. -/
def bits (ctx : FdContext S F C) : ℤ :=
  (if ctx.events .READ then 1 else 0) + if ctx.events .WRITE then 1 else 0

structure Booked (s : Sys T S F C) : Prop where
  good : ∀ ctx ∈ s.contexts, ∀ event, Good ctx event
  count : s.pendingEventCount = (s.contexts.map bits).sum

/-- **A bit is set iff its context has a scheduler and exactly one of fiber and callback**, the counter
    is the number of bits that are set, and the assertion of `triggerEvent` has not failed. -/
structure Bookkept (s : Sys T S F C) : Prop where
  context : ∀ ctx ∈ s.contexts, ∀ event, ctx.events event = true ↔
    (ctx.context event).scheduler.isSome ∧ (ctx.context event).fiber.isSome ≠ (ctx.context event).cb.isSome
  count : s.pendingEventCount = (s.contexts.map bits).sum
  asserted : s.failed ≠ some .triggerEvent

section
variable {s s' : Sys T S F C} {ptr : ℕ} {ctx ctx' : FdContext S F C} {event : Event}

theorem Good.iff (h : Good ctx event) : ctx.events event = true ↔
    (ctx.context event).scheduler.isSome ∧
      (ctx.context event).fiber.isSome ≠ (ctx.context event).cb.isSome := by
  unfold Good at h
  split_ifs at h with hbit
  · exact ⟨fun _ => h, fun _ => hbit⟩
  · rw [h]
    simp [hbit]

theorem sum_set {l : List (FdContext S F C)} : ∀ {ptr : ℕ}, l[ptr]? = some ctx →
    ((l.set ptr ctx').map bits).sum = (l.map bits).sum - bits ctx + bits ctx' := by
  induction l with
  | nil => intro ptr h; cases h
  | cons c l ih =>
    intro ptr h
    cases ptr with
    | zero =>
      obtain rfl : c = ctx := Option.some.inj h
      simp only [List.set_cons_zero, List.map_cons, List.sum_cons]
      omega
    | succ ptr =>
      have := @ih ptr h
      simp only [List.set_cons_succ, List.map_cons, List.sum_cons, this]
      omega

/-- A context is written, and the counter is changed with its bits. -/
theorem Booked.put (h : Booked s) (hctx : s.contexts[ptr]? = some ctx) (hgood : ∀ event, Good ctx' event)
    (hcontexts : s'.contexts = s.contexts.set ptr ctx')
    (hcount : s'.pendingEventCount = s.pendingEventCount - bits ctx + bits ctx') : Booked s' where
  good c hc := by
    rw [hcontexts] at hc
    rcases List.mem_or_eq_of_mem_set hc with hc | rfl
    · exact h.good c hc
    · exact hgood
  count := by rw [hcount, hcontexts, sum_set hctx, h.count]

theorem Booked.congr (h : Booked s) (hcontexts : s'.contexts = s.contexts)
    (hcount : s'.pendingEventCount = s.pendingEventCount) : Booked s' :=
  ⟨hcontexts ▸ h.good, by rw [hcount, hcontexts, h.count]⟩

/-- A bit and its context are changed, the others are as before. -/
theorem Good.update (h : ∀ event, Good ctx event) {b : Bool} {c : EventContext S F C}
    (hc : if b then c.scheduler.isSome ∧ c.fiber.isSome ≠ c.cb.isSome else c = {}) (event' : Event) :
    Good { ctx with
      events := setBit ctx.events event b
      context := Function.update ctx.context event c } event' := by
  unfold Good setBit
  by_cases he : event' = event
  · subst he
    simp only [Function.update_self]
    exact hc
  · simp only [Function.update_of_ne he]
    exact h event'

theorem bits_setBit (b : Bool) (context : Event → EventContext S F C) :
    bits { ctx with events := setBit ctx.events event b, context := context } =
      bits ctx - (if ctx.events event then 1 else 0) + if b then 1 else 0 := by
  cases event
  · simp [bits, setBit, Function.update]
    omega
  · simp [bits, setBit, Function.update]

/-- The context without the event. -/
def cleared (ctx : FdContext S F C) (event : Event) : FdContext S F C :=
  { ctx with
    events := setBit ctx.events event false
    context := Function.update ctx.context event {} }

/-- **An event that is set** is handed to its scheduler, and its context is empty then. -/
theorem triggerEvent_ret (hctx : s.contexts[ptr]? = some ctx) (hgood : Good ctx event)
    (hbit : ctx.events event = true) : ∃ scheduled, triggerEvent s ptr event =
      .ok { s with contexts := s.contexts.set ptr (cleared ctx event), scheduled := scheduled } := by
  rw [Good, if_pos hbit] at hgood
  obtain ⟨hscheduler, hone⟩ := hgood
  rw [triggerEvent, hctx]
  rcases hc : ctx.context event with ⟨_ | scheduler, _ | fiber, _ | cb⟩ <;> rw [hc] at hscheduler hone
  · cases hscheduler
  · cases hscheduler
  · cases hscheduler
  · cases hscheduler
  · exact absurd rfl hone
  · simp only [hbit, hc]
    exact ⟨_, rfl⟩
  · simp only [hbit, hc]
    exact ⟨_, rfl⟩
  · exact absurd rfl hone

theorem Good.cleared (h : ∀ event, Good ctx event) (event event' : Event) :
    Good (cleared ctx event) event' :=
  Good.update h (by rw [if_neg Bool.false_ne_true]) event'

theorem fire_ret (h : Booked s) (hctx : s.contexts[ptr]? = some ctx) (hbit : ctx.events event = true) :
    ∃ s', fire s ptr event = .ok s' ∧ Booked s' ∧ s'.failed = s.failed ∧
      s'.contexts[ptr]? = some (cleared ctx event) := by
  have hgood := h.good ctx (List.mem_of_getElem? hctx)
  obtain ⟨scheduled, htrigger⟩ := triggerEvent_ret hctx (hgood event) hbit
  refine ⟨{ s with
    contexts := s.contexts.set ptr (cleared ctx event)
    scheduled := scheduled
    pendingEventCount := s.pendingEventCount - 1 }, by rw [fire, htrigger]; rfl, ?_, rfl, ?_⟩
  · refine h.put hctx (Good.cleared hgood event) rfl ?_
    rw [cleared, bits_setBit, if_pos hbit]
    simp
  · have hlt := (List.getElem?_eq_some_iff.1 hctx).1
    show (s.contexts.set ptr _)[ptr]? = _
    rw [List.getElem?_set_self hlt]

/-- An event is triggered if it is among `events`, and then it is set. -/
theorem fireIf_ret (h : Booked s) (hctx : s.contexts[ptr]? = some ctx) (events : Event → Bool)
    (hreal : events event = true → ctx.events event = true) :
    ∃ s' ctx', fireIf s ptr event events = .ok s' ∧ Booked s' ∧ s'.failed = s.failed ∧
      s'.contexts[ptr]? = some ctx' ∧
      ∀ e, ctx'.events e = (ctx.events e && !(events event && decide (e = event))) := by
  rw [fireIf]
  cases hevents : events event with
  | false => exact ⟨s, ctx, rfl, h, rfl, hctx, fun e => by simp⟩
  | true =>
    obtain ⟨s', hfire, hs', hfailed, hctx'⟩ := fire_ret h hctx (hreal hevents)
    refine ⟨s', _, hfire, hs', hfailed, hctx', fun e => ?_⟩
    by_cases he : e = event
    · simp [cleared, setBit, he]
    · simp [cleared, setBit, he]

/-- Both events, one after the other. -/
theorem fireBoth_ret (h : Booked s) (hctx : s.contexts[ptr]? = some ctx) (events : Event → Bool)
    (hreal : ∀ event, events event = true → ctx.events event = true) :
    ∃ s₁ s' ctx', fireIf s ptr .READ events = .ok s₁ ∧ fireIf s₁ ptr .WRITE events = .ok s' ∧
      Booked s' ∧ s'.failed = s.failed ∧ s'.contexts[ptr]? = some ctx' ∧
      ∀ e, ctx'.events e = (ctx.events e && !events e) := by
  obtain ⟨s₁, ctx₁, hread, hs₁, hfailed₁, hctx₁, hevents₁⟩ := fireIf_ret h hctx events (hreal .READ)
  obtain ⟨s', ctx', hwrite, hs', hfailed', hctx', hevents'⟩ :=
    fireIf_ret hs₁ hctx₁ events (fun hw => by rw [hevents₁, hreal .WRITE hw]; simp)
  refine ⟨s₁, s', ctx', hread, hwrite, hs', hfailed'.trans hfailed₁, hctx', fun e => ?_⟩
  rw [hevents', hevents₁]
  cases e <;> simp

/-- The section of a call; it fails only if the event is added twice. -/
theorem inLock_ret (h : Booked s) (hctx : s.contexts[ptr]? = some ctx) {fd : ℕ} {ok : Bool}
    {scheduler : Option S} {fiber : F} {op : Op C}
    (hscheduler : ∀ event cb, op = .addEvent event cb → scheduler.isSome) :
    (∃ s', inLock s fd ptr ctx ok scheduler fiber op = .ok s' ∧ Booked s' ∧ s'.failed = s.failed) ∨
      inLock s fd ptr ctx ok scheduler fiber op = .error .addEvent := by
  have hgood := h.good ctx (List.mem_of_getElem? hctx)
  have hctl (events : Event → Bool) : Booked (epollCtl s fd ptr events) := h.congr rfl rfl
  cases op with
  | addEvent event cb =>
    rw [inLock]
    by_cases hbit : ctx.events event = true
    · exact .inr (if_pos hbit)
    by_cases hok : (!ok) = true
    · exact .inl ⟨s, by rw [if_neg hbit, if_pos hok], h, rfl⟩
    rw [if_neg hbit, if_neg hok]
    -- the context of an event that is not set is empty
    have hempty := hgood event
    rw [Good, if_neg hbit] at hempty
    simp only [hempty]
    refine .inl ⟨_, rfl, h.put hctx (Good.update hgood ?_) rfl ?_, rfl⟩
    · rw [if_pos rfl]
      refine ⟨hscheduler event cb rfl, ?_⟩
      cases cb <;> simp
    · rw [bits_setBit, if_neg hbit]
      simp [epollCtl]
      omega
  | delEvent event =>
    rw [inLock]
    split_ifs with hbit hok
    · exact .inl ⟨s, rfl, h, rfl⟩
    · exact .inl ⟨s, rfl, h, rfl⟩
    · refine .inl ⟨_, rfl, h.put hctx (Good.cleared hgood event) rfl ?_, rfl⟩
      rw [cleared, bits_setBit, if_pos (by simpa using hbit)]
      simp [epollCtl]
  | cancelEvent event =>
    rw [inLock]
    split_ifs with hbit hok
    · exact .inl ⟨s, rfl, h, rfl⟩
    · exact .inl ⟨s, rfl, h, rfl⟩
    · obtain ⟨s', hfire, hs', hfailed, -⟩ :=
        fire_ret (hctl (setBit ctx.events event false)) hctx (by simpa using hbit)
      exact .inl ⟨s', hfire, hs', hfailed⟩
  | cancelAll =>
    rw [inLock]
    by_cases hbits : hasBits ctx.events = false
    · exact .inl ⟨s, if_pos hbits, h, rfl⟩
    by_cases hok : (!ok) = true
    · exact .inl ⟨s, by rw [if_neg hbits, if_pos hok], h, rfl⟩
    obtain ⟨s₁, s', ctx', hread, hwrite, hs', hfailed, hctx', hevents⟩ :=
      fireBoth_ret (hctl fun _ => false) hctx ctx.events fun _ => id
    have hnone : hasBits ctx'.events = false := by simp [hasBits, hevents]
    refine .inl ⟨s', ?_, hs', hfailed⟩
    rw [if_neg hbits, if_neg hok]
    simp only [hread, hwrite, Bind.bind, Except.bind, hctx', Option.any_some, hnone]
    rfl

/-- The section of `idle` for an event, if all of its events are still set, or none is. -/
theorem dispatch_ret (h : Booked s) {r : Report} {ok : Bool} (hctx : s.contexts[r.ptr]? = some ctx)
    (hintact : ok = true → (∀ event, realEvents ctx r event = true → ctx.events event = true) ∨
      ∀ event, (ctx.events event && realEvents ctx r event) = false) :
    ∃ s', dispatch s r ctx ok = .ok s' ∧ Booked s' ∧ s'.failed = s.failed := by
  have hctl (events : Event → Bool) : Booked (epollCtl s ctx.fd r.ptr events) := h.congr rfl rfl
  rw [dispatch]
  by_cases hnone : hasBits (fun event => ctx.events event && realEvents ctx r event) = false
  · exact ⟨s, if_pos hnone, h, rfl⟩
  by_cases hok : (!ok) = true
  · exact ⟨s, by simp only; rw [if_neg hnone, if_pos hok], h, rfl⟩
  have hreal : ∀ event, realEvents ctx r event = true → ctx.events event = true :=
    (hintact (by simpa using hok)).resolve_right fun hnot => hnone (by simp [hasBits, hnot])
  obtain ⟨s₁, s', ctx', hread, hwrite, hs', hfailed, -⟩ :=
    fireBoth_ret (hctl fun event => ctx.events event && !realEvents ctx r event) hctx
      (realEvents ctx r) hreal
  refine ⟨s', ?_, hs', hfailed⟩
  simp only
  rw [if_neg hnone, if_neg hok]
  simp only [hread, hwrite, Bind.bind, Except.bind]

end

/-! ## Runs -/

/-- An event is added by a thread that has a scheduler; and when `idle` changes the events of a
    descriptor, those that it has for it are all set, or none is. -/
def Intact [DecidableEq T] (s : Sys T S F C) : Label T S F C → Prop
  | .inLock t _ scheduler _ => ∀ fd ptr event cb, s.pc t = .locked fd ptr (.addEvent event cb) →
    scheduler.isSome
  | .dispatch t ok => ok = true → ∀ r rest ctx, s.pc t = .dispatch (r :: rest) →
    s.contexts[r.ptr]? = some ctx →
    (∀ event, realEvents ctx r event = true → ctx.events event = true) ∨
      ∀ event, (ctx.events event && realEvents ctx r event) = false
  | _ => True

section
variable {s s' : Sys T S F C}

theorem Booked.contextResize (h : Booked s) (size : ℕ) : Booked (contextResize s size) where
  good ctx hctx := by
    rcases List.mem_append.1 hctx with hctx | hctx
    · exact h.good ctx hctx
    · obtain ⟨i, -, rfl⟩ := List.mem_map.1 hctx
      exact fun event => by rw [Good, if_neg Bool.false_ne_true]
  count := by
    have hnew : ∀ (n k : ℕ), (((List.range n).map fun i => ({ fd := k + i } : FdContext S F C)).map
        bits).sum = 0 := by
      intro n k
      refine List.sum_eq_zero fun x hx => ?_
      rw [List.map_map, List.mem_map] at hx
      obtain ⟨i, -, rfl⟩ := hx
      rfl
    show s.pendingEventCount = ((s.contexts ++ _).map bits).sum
    rw [List.map_append, List.sum_append, hnew, h.count]
    exact (add_zero _).symm

theorem init_booked : Booked (init T S F C) :=
  Booked.contextResize ⟨by rintro _ ⟨⟩, rfl⟩ 32

/-- What a section leaves, as the other threads see it. -/
theorem Booked.commit (h : Booked s) (hasserted : s.failed ≠ some .triggerEvent) {f : Fault}
    {r : Except Fault (Sys T S F C)} (hf : f ≠ .triggerEvent)
    (hr : (∃ s', r = .ok s' ∧ Booked s' ∧ s'.failed = s.failed) ∨ r = .error f) :
    Booked (commit s r) ∧ (commit s r).failed ≠ some .triggerEvent := by
  rcases hr with ⟨s', rfl, hs', hfailed⟩ | rfl
  · exact ⟨hs', fun hfail => hasserted (hfailed ▸ hfail)⟩
  · exact ⟨h.congr rfl rfl, fun hfail => hf (Option.some.inj hfail)⟩

variable [DecidableEq T]

theorem Booked.goto (h : Booked s ∧ s.failed ≠ some .triggerEvent) (t : T) (p : Pc C) :
    Booked (goto s t p) ∧ (goto s t p).failed ≠ some .triggerEvent :=
  ⟨h.1.congr rfl rfl, h.2⟩

theorem step_booked {l : Label T S F C} (hintact : Intact s l) (hstep : step s l s')
    (h : Booked s ∧ s.failed ≠ some .triggerEvent) : Booked s' ∧ s'.failed ≠ some .triggerEvent := by
  obtain ⟨-, hmoves⟩ := step_moves hstep
  cases hmoves with
  | found | short | wait | done => exact Booked.goto h _ _
  | refused => exact h
  | resized => exact Booked.goto ⟨h.1.contextResize _, h.2⟩ _ _
  | outside => exact ⟨(h.1.contextResize _).congr rfl rfl, by rintro ⟨⟩⟩
  | inLock hpc hctx =>
    refine Booked.goto (h.1.commit h.2 (f := .addEvent) (by rintro ⟨⟩) ?_) _ _
    exact inLock_ret h.1 hctx fun event cb hop => hintact _ _ event cb (hop ▸ hpc)
  | dispatch hpc hctx =>
    refine Booked.goto (h.1.commit h.2 (f := .addEvent) (by rintro ⟨⟩) (.inl ?_)) _ _
    exact dispatch_ret h.1 hctx fun hok => hintact hok _ _ _ hpc hctx

/-- **The bookkeeping of the events**, in runs in which `idle` finds the events of a descriptor as
    they were, or all of them gone. -/
theorem bookkept_of_intact {ls : List (Label T S F C)}
    (h : Run (fun s l s' => Intact s l ∧ step s l s') (init T S F C) ls s) : Bookkept s := by
  have hrun : Booked s ∧ s.failed ≠ some .triggerEvent :=
    h.invariant (P := fun s => Booked s ∧ s.failed ≠ some .triggerEvent)
      (fun _ _ _ hs ⟨hintact, hstep⟩ => step_booked hintact hstep hs) ⟨init_booked, by rintro ⟨⟩⟩
  exact ⟨fun ctx hctx event => (hrun.1.good ctx hctx event).iff, hrun.1.count, hrun.2⟩

/-- A thread waits for a callback, and another one dispatches it. -/
theorem bookkept_read : ∃ s, Run (fun s l s' => Intact s l ∧ step s l s') (init Bool Unit Unit Unit)
    [.call false 3 (.addEvent .READ (some ())), .inLock false true (some ()) (),
      .wait true [(3, fun e => decide (e = .READ), false)], .dispatch true true] s ∧
    Bookkept s := by
  have hrun : ∃ s, Run (fun s l s' => Intact s l ∧ step s l s') (init Bool Unit Unit Unit)
      [.call false 3 (.addEvent .READ (some ())), .inLock false true (some ()) (),
        .wait true [(3, fun e => decide (e = .READ), false)], .dispatch true true] s := by
    refine ⟨_, .cons ⟨trivial, rfl⟩ (.cons ⟨fun _ _ _ _ _ => rfl, rfl⟩ (.cons ⟨trivial, rfl⟩
      (.cons ⟨fun _ r rest ctx hpc hctx => .inl fun event => ?_, rfl⟩ (.nil _))))⟩
    cases hpc
    cases hctx
    cases event <;> simp [realEvents, setBit]
  obtain ⟨s, hrun⟩ := hrun
  exact ⟨s, hrun, bookkept_of_intact hrun⟩

/-- An event that is registered for both is dispatched after one of them has been removed. -/
theorem not_bookkept : ¬∀ s ls, Run step (init Bool Unit Unit Unit) ls s → Bookkept s := by
  intro h
  obtain ⟨s, hrun, hs⟩ : ∃ s, Run step (init Bool Unit Unit Unit)
      [.call false 3 (.addEvent .READ (some ())), .inLock false true (some ()) (),
        .call false 3 (.addEvent .WRITE (some ())), .inLock false true (some ()) (),
        .wait true [(3, fun _ => true, false)],
        .call false 3 (.delEvent .WRITE), .inLock false true (some ()) (),
        .dispatch true true] s ∧ s.failed = some .triggerEvent :=
    ⟨_, Run.of_foldlM rfl, rfl⟩
  exact (h s _ hrun).asserted hs

end

end Ancfl.IOManager
