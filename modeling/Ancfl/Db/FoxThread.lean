/-
  `FoxThread`: a thread with a queue of callbacks, woken through a socket pair.

  * `Sys`: the queue, the bytes in the socket, where the thread is in
    `read_cb`, and the callers of `dispatch` that have not sent their byte yet;
    a step is one locked section, one `send`, one `recv` or one callback;
  * `Wakes`: as long as a callback is queued there is a byte, or a caller that
    will send one, or the thread is about to take the queue;
  * `executes_due`: callbacks are executed once, in the order of the calls, and
    however the steps come none is left over.
-/
import Ancfl.Lib.Settle
import Mathlib.Data.List.Basic
import Mathlib.Data.List.Induction

namespace Ancfl.FoxThread

open Lib

/-- Where the thread is; `C` are the callbacks, and a null callback ends it. -/
inductive Phase (C : Type)
  /-- `m_thread` is null -/
  | unstarted
  /-- in `event_base_loop` -/
  | looping
  /-- in `read_cb`, after the `recv` -/
  | received
  /-- in the loop over `callbacks`, with those that are left -/
  | working (callbacks : List (Option C))
  /-- after `event_base_loopbreak` -/
  | ended
deriving DecidableEq

structure Sys (C : Type) where
  m_callbacks : List (Option C)
  m_start : Bool
  phase : Phase C
  /-- the bytes in the socket pair -/
  bytes : ℕ
  /-- the callers between the section of `dispatch` and its `send` -/
  sending : ℕ
  /-- the callbacks that were executed; an exception of one is caught -/
  executed : List C
deriving DecidableEq

inductive Label (C : Type)
  | start
  /-- the section of `dispatch` or `batchDispatch` -/
  | dispatch (cbs : List (Option C))
  /-- the `send` after it, and whether it succeeds -/
  | send (ok : Bool)
  | stop (ok : Bool)
  /-- `recv` in `read_cb`, which the event loop calls when there are bytes -/
  | recv
  /-- the section of `read_cb` -/
  | swap
  /-- the next callback, or the end of the loop -/
  | work
deriving DecidableEq

variable {C : Type}

def init (C : Type) : Sys C := ⟨[], false, .unstarted, 0, 0, []⟩

/-- One byte; a `send` to a socket that does not block fails while the buffer is full. -/
def sendByte (s : Sys C) : Bool → Option (Sys C)
  | true => some { s with bytes := s.bytes + 1 }
  | false => if s.bytes = 0 then none else some s

/-- `uint8_t cmd[4096]` -/
def cmdSize : ℕ := 4096

def next (s : Sys C) : Label C → Option (Sys C)
  | .start =>
    match s.phase with
    | .unstarted => some { s with phase := .looping, m_start := true }
    -- a thread that is running is a `logic_error`
    | _ => none
  | .dispatch cbs => some { s with m_callbacks := s.m_callbacks ++ cbs, sending := s.sending + 1 }
  | .send ok => if s.sending = 0 then none else sendByte { s with sending := s.sending - 1 } ok
  | .stop ok =>
    match s.phase with
    | .unstarted => some { s with m_callbacks := s.m_callbacks ++ [none] }
    | _ => sendByte { s with m_callbacks := s.m_callbacks ++ [none] } ok
  | .recv =>
    match s.phase with
    | .looping =>
      if s.bytes = 0 then none
      else some { s with phase := .received, bytes := s.bytes - min s.bytes cmdSize }
    | _ => none
  | .swap =>
    match s.phase with
    | .received => some { s with phase := .working s.m_callbacks, m_callbacks := [] }
    | _ => none
  | .work =>
    match s.phase with
    | .working (some cb :: callbacks) =>
      some { s with phase := .working callbacks, executed := s.executed ++ [cb] }
    -- the callbacks behind it are dropped
    | .working (none :: _) => some { s with phase := .ended, m_start := false }
    | .working [] => some { s with phase := .looping }
    | _ => none

def step (s : Sys C) (l : Label C) (s' : Sys C) : Prop := next s l = some s'

/-- The steps of the thread, and of the callers that are in `dispatch`. -/
def Label.Internal : Label C → Prop
  | .send _ | .recv | .swap | .work => True
  | .start | .dispatch _ | .stop _ => False

/-- What a label queues. -/
def Label.pushes : Label C → List (Option C)
  | .dispatch cbs => cbs
  | .stop _ => [none]
  | .start | .send _ | .recv | .swap | .work => []

def pushed (ls : List (Label C)) : List (Option C) := ls.flatMap Label.pushes

/-- The callbacks before the first null one. -/
def untilNull : List (Option C) → List C
  | some cb :: cbs => cb :: untilNull cbs
  | none :: _ | [] => []

/-- The callbacks that were dispatched before the thread was told to stop. -/
def due (ls : List (Label C)) : List C := untilNull (pushed ls)

theorem untilNull_append (done : List C) (cbs : List (Option C)) :
    untilNull (done.map some ++ cbs) = done ++ untilNull cbs := by
  induction done with
  | nil => rfl
  | cons cb done ih => rw [List.map_cons, List.cons_append, untilNull, ih]; rfl

theorem untilNull_of_forall_none {cbs : List (Option C)} (h : ∀ cb, some cb ∉ cbs) : untilNull cbs = [] := by
  cases cbs with
  | nil => rfl
  | cons cb cbs =>
    cases cb with
    | none => rfl
    | some cb => exact absurd List.mem_cons_self (h cb)

/-! ## The steps -/

/-- What a step does. -/
inductive Steps (s : Sys C) : Label C → Sys C → Prop
  | start (hphase : s.phase = .unstarted) : Steps s .start { s with phase := .looping, m_start := true }
  | dispatch (cbs : List (Option C)) :
    Steps s (.dispatch cbs) { s with m_callbacks := s.m_callbacks ++ cbs, sending := s.sending + 1 }
  | sent (hsending : 0 < s.sending) :
    Steps s (.send true) { s with sending := s.sending - 1, bytes := s.bytes + 1 }
  | unsent (hsending : 0 < s.sending) (hbytes : 0 < s.bytes) :
    Steps s (.send false) { s with sending := s.sending - 1 }
  | stop (ok : Bool) (bytes : ℕ) (hbytes : s.bytes ≤ bytes) :
    Steps s (.stop ok) { s with m_callbacks := s.m_callbacks ++ [none], bytes := bytes }
  | recv (hphase : s.phase = .looping) (hbytes : 0 < s.bytes) :
    Steps s .recv { s with phase := .received, bytes := s.bytes - min s.bytes cmdSize }
  | swap (hphase : s.phase = .received) :
    Steps s .swap { s with phase := .working s.m_callbacks, m_callbacks := [] }
  | work {cb : C} {callbacks : List (Option C)} (hphase : s.phase = .working (some cb :: callbacks)) :
    Steps s .work { s with phase := .working callbacks, executed := s.executed ++ [cb] }
  | endLoop {callbacks : List (Option C)} (hphase : s.phase = .working (none :: callbacks)) :
    Steps s .work { s with phase := .ended, m_start := false }
  | endWork (hphase : s.phase = .working []) : Steps s .work { s with phase := .looping }

theorem steps_of_sendByte {s s' : Sys C} {ok : Bool} (h : sendByte s ok = some s') :
    (ok = true ∧ s' = { s with bytes := s.bytes + 1 }) ∨ (ok = false ∧ 0 < s.bytes ∧ s' = s) := by
  cases ok with
  | true => cases h; exact .inl ⟨rfl, rfl⟩
  | false =>
    obtain ⟨hbytes, h⟩ := Option.ite_none_left_eq_some.1 h
    cases h
    exact .inr ⟨rfl, Nat.pos_of_ne_zero hbytes, rfl⟩

theorem steps {s s' : Sys C} {l : Label C} (h : step s l s') : Steps s l s' := by
  unfold step next at h
  cases l with
  | start =>
    cases hphase : s.phase <;> rw [hphase] at h <;> cases h
    exact .start hphase
  | dispatch cbs => cases h; exact .dispatch cbs
  | send ok =>
    obtain ⟨hsending, h⟩ := Option.ite_none_left_eq_some.1 h
    rcases steps_of_sendByte h with ⟨rfl, rfl⟩ | ⟨rfl, hbytes, rfl⟩
    · exact .sent (Nat.pos_of_ne_zero hsending)
    · exact .unsent (Nat.pos_of_ne_zero hsending) hbytes
  | stop ok =>
    have hsend : s' = { s with m_callbacks := s.m_callbacks ++ [none] } ∨
        sendByte { s with m_callbacks := s.m_callbacks ++ [none] } ok = some s' := by
      cases hphase : s.phase <;> simp only [hphase] at h
      case unstarted => exact .inl (Option.some.inj h).symm
      all_goals exact .inr h
    rcases hsend with rfl | h
    · exact .stop ok s.bytes (Nat.le_refl _)
    · rcases steps_of_sendByte h with ⟨rfl, rfl⟩ | ⟨rfl, -, rfl⟩
      · exact .stop true (s.bytes + 1) (Nat.le_succ _)
      · exact .stop false s.bytes (Nat.le_refl _)
  | recv =>
    cases hphase : s.phase <;> rw [hphase] at h
    case looping =>
      obtain ⟨hbytes, h⟩ := Option.ite_none_left_eq_some.1 h
      cases h
      exact .recv hphase (Nat.pos_of_ne_zero hbytes)
    all_goals cases h
  | swap =>
    cases hphase : s.phase <;> rw [hphase] at h <;> cases h
    exact .swap hphase
  | work =>
    cases hphase : s.phase <;> rw [hphase] at h
    case working callbacks =>
      rcases callbacks with _ | ⟨_ | cb, callbacks⟩ <;> cases h
      · exact .endWork hphase
      · exact .endLoop hphase
      · exact .work hphase
    all_goals cases h

/-! ## The queue -/

/-- The callbacks that the thread has taken and not executed. -/
def Phase.taken : Phase C → List (Option C)
  | .working callbacks => callbacks
  | .unstarted | .looping | .received | .ended => []

/-- What was executed, what is taken and what is queued are the callbacks in the order in which they
    were queued; a thread that has ended has come to the first null one. -/
structure Ordered (p : List (Option C)) (s : Sys C) : Prop where
  going : s.phase ≠ .ended → p = s.executed.map some ++ s.phase.taken ++ s.m_callbacks
  ended : s.phase = .ended → ∃ rest, p = s.executed.map some ++ none :: rest
  idle : s.phase = .unstarted → s.executed = []

/-- A callback that is queued will be taken: the thread is about to, or there is a byte for it, or a
    caller that will send one. -/
def Wakes (s : Sys C) : Prop :=
  (∃ cb, some cb ∈ s.m_callbacks) → s.phase = .received ∨ 0 < s.bytes ∨ 0 < s.sending

theorem Ordered.step {p : List (Option C)} {s s' : Sys C} {l : Label C} (h : Ordered p s)
    (hstep : Steps s l s') : Ordered (p ++ l.pushes) s' := by
  obtain ⟨hgoing, hended, hidle⟩ := h
  cases hstep with
  | start hphase =>
    refine ⟨fun _ => ?_, nofun, nofun⟩
    have hp := hgoing (by rw [hphase]; exact nofun)
    simpa [Label.pushes, hphase, Phase.taken] using hp
  | dispatch cbs =>
    refine ⟨fun hne => ?_, fun he => ?_, hidle⟩
    · rw [hgoing hne, Label.pushes, List.append_assoc]
    · obtain ⟨rest, hp⟩ := hended he
      exact ⟨rest ++ cbs, by rw [hp, Label.pushes, List.append_assoc]; rfl⟩
  | sent => exact ⟨by simpa [Label.pushes] using hgoing, by simpa [Label.pushes] using hended, hidle⟩
  | unsent => exact ⟨by simpa [Label.pushes] using hgoing, by simpa [Label.pushes] using hended, hidle⟩
  | stop =>
    refine ⟨fun hne => ?_, fun he => ?_, hidle⟩
    · rw [hgoing hne, Label.pushes, List.append_assoc]
    · obtain ⟨rest, hp⟩ := hended he
      exact ⟨rest ++ [none], by rw [hp, Label.pushes, List.append_assoc]; rfl⟩
  | recv hphase =>
    refine ⟨fun _ => ?_, nofun, nofun⟩
    have hp := hgoing (by rw [hphase]; exact nofun)
    simpa [Label.pushes, hphase, Phase.taken] using hp
  | swap hphase =>
    refine ⟨fun _ => ?_, nofun, nofun⟩
    have hp := hgoing (by rw [hphase]; exact nofun)
    simpa [Label.pushes, hphase, Phase.taken] using hp
  | work hphase =>
    refine ⟨fun _ => ?_, nofun, nofun⟩
    have hp := hgoing (by rw [hphase]; exact nofun)
    simpa [Label.pushes, hphase, Phase.taken] using hp
  | @endLoop callbacks hphase =>
    refine ⟨fun hne => absurd rfl hne, fun _ => ⟨callbacks ++ s.m_callbacks, ?_⟩, nofun⟩
    have hp := hgoing (by rw [hphase]; exact nofun)
    simpa [Label.pushes, hphase, Phase.taken] using hp
  | endWork hphase =>
    refine ⟨fun _ => ?_, nofun, nofun⟩
    have hp := hgoing (by rw [hphase]; exact nofun)
    simpa [Label.pushes, hphase, Phase.taken] using hp

theorem Wakes.step {s s' : Sys C} {l : Label C} (h : Wakes s) (hstep : Steps s l s') : Wakes s' := by
  rintro ⟨cb, hcb⟩
  cases hstep with
  | start hphase =>
    rcases h ⟨cb, hcb⟩ with hreceived | hwake
    · rw [hphase] at hreceived
      cases hreceived
    · exact .inr hwake
  | dispatch cbs => exact .inr (.inr (Nat.succ_pos _))
  | sent => exact .inr (.inl (Nat.succ_pos _))
  | unsent _ hbytes => exact .inr (.inl hbytes)
  | stop ok bytes hbytes =>
    have hcb : some cb ∈ s.m_callbacks := by simpa using hcb
    rcases h ⟨cb, hcb⟩ with hreceived | hpos | hsending
    · exact .inl hreceived
    · exact .inr (.inl (Nat.lt_of_lt_of_le hpos hbytes))
    · exact .inr (.inr hsending)
  | recv => exact .inl rfl
  | swap => cases hcb
  | work hphase =>
    rcases h ⟨cb, hcb⟩ with hreceived | hwake
    · rw [hphase] at hreceived
      cases hreceived
    · exact .inr hwake
  | endLoop hphase =>
    rcases h ⟨cb, hcb⟩ with hreceived | hwake
    · rw [hphase] at hreceived
      cases hreceived
    · exact .inr hwake
  | endWork hphase =>
    rcases h ⟨cb, hcb⟩ with hreceived | hwake
    · rw [hphase] at hreceived
      cases hreceived
    · exact .inr hwake

theorem pushed_snoc (ls : List (Label C)) (l : Label C) : pushed (ls ++ [l]) = pushed ls ++ l.pushes := by
  simp [pushed]

theorem pushes_of_internal {l : Label C} (h : l.Internal) : l.pushes = [] := by
  cases l <;> first | rfl | cases h

/-- In every state that is reached. -/
theorem ordered_of_run {ls : List (Label C)} {s : Sys C} (h : Run step (init C) ls s) :
    Ordered (pushed ls) s ∧ Wakes s := by
  induction ls using List.reverseRecOn generalizing s with
  | nil =>
    cases h
    exact ⟨⟨fun _ => rfl, nofun, fun _ => rfl⟩, fun ⟨_, hcb⟩ => nomatch hcb⟩
  | append_singleton ls l ih =>
    obtain ⟨t, hrun, hstep⟩ := Run.snoc_iff.1 h
    obtain ⟨hordered, hwakes⟩ := ih hrun
    rw [pushed_snoc]
    exact ⟨hordered.step (steps hstep), hwakes.step (steps hstep)⟩

/-! ## Coming to rest -/

/-- A step of the thread, or of a caller that is in `dispatch`. -/
def internalStep (s : Sys C) (l : Label C) (s' : Sys C) : Prop := l.Internal ∧ step s l s'

def Phase.work : Phase C → ℕ
  | .received => 2
  | .working callbacks => callbacks.length + 1
  | .unstarted | .looping | .ended => 0

/-- Each `send` costs a `recv`, a `recv` the section, and each callback a step. -/
def remaining (s : Sys C) : ℕ := 4 * s.sending + 3 * s.bytes + s.m_callbacks.length + s.phase.work

theorem remaining_lt {s s' : Sys C} {l : Label C} (hl : l.Internal) (h : Steps s l s') :
    remaining s' < remaining s := by
  cases h with
  | start => cases hl
  | dispatch => cases hl
  | stop => cases hl
  | sent hsending =>
    simp only [remaining]
    omega
  | unsent hsending =>
    simp only [remaining]
    omega
  | recv hphase hbytes =>
    simp only [remaining, hphase, Phase.work, cmdSize]
    omega
  | swap hphase =>
    simp only [remaining, hphase, Phase.work, List.length_nil]
    omega
  | work hphase =>
    simp only [remaining, hphase, Phase.work, List.length_cons]
    omega
  | endLoop hphase =>
    simp only [remaining, hphase, Phase.work, List.length_cons]
    omega
  | endWork hphase =>
    simp only [remaining, hphase, Phase.work, List.length_nil]
    omega

theorem started_step {s s' : Sys C} {l : Label C} (h : Steps s l s') (hs : s.phase ≠ .unstarted) :
    s'.phase ≠ .unstarted := by
  cases h with
  | dispatch => exact hs
  | sent => exact hs
  | unsent => exact hs
  | stop => exact hs
  | start => exact nofun
  | recv => exact nofun
  | swap => exact nofun
  | work => exact nofun
  | endLoop => exact nofun
  | endWork => exact nofun

/-- A thread that was started is at rest only in the event loop without a byte, or at its end. -/
theorem quiet_iff {s : Sys C} (hs : s.phase ≠ .unstarted) (h : Quiet internalStep s) :
    s.phase = .ended ∨ s.phase = .looping ∧ s.bytes = 0 ∧ s.sending = 0 := by
  have hsending : s.sending = 0 := by
    by_contra hne
    refine h (.send true) { s with sending := s.sending - 1, bytes := s.bytes + 1 } ⟨trivial, ?_⟩
    simp [step, next, sendByte, hne]
  cases hphase : s.phase with
  | unstarted => exact absurd hphase hs
  | ended => exact .inl rfl
  | looping =>
    refine .inr ⟨rfl, ?_, hsending⟩
    by_contra hne
    refine h .recv { s with phase := .received, bytes := s.bytes - min s.bytes cmdSize } ⟨trivial, ?_⟩
    simp [step, next, hphase, hne]
  | received =>
    refine absurd ⟨trivial, ?_⟩ (h .swap { s with phase := .working s.m_callbacks, m_callbacks := [] })
    simp [step, next, hphase]
  | working callbacks =>
    rcases callbacks with _ | ⟨_ | cb, callbacks⟩
    · exact absurd ⟨trivial, by simp [step, next, hphase]⟩ (h .work { s with phase := .looping })
    · exact absurd ⟨trivial, by simp [step, next, hphase]⟩
        (h .work { s with phase := .ended, m_start := false })
    · exact absurd ⟨trivial, by simp [step, next, hphase]⟩
        (h .work { s with phase := .working callbacks, executed := s.executed ++ [cb] })

theorem Ordered.executed_isPrefix {p : List (Option C)} {s : Sys C} (h : Ordered p s) : s.executed <+: untilNull p := by
  by_cases hended : ∃ rest, p = s.executed.map some ++ none :: rest
  · obtain ⟨rest, rfl⟩ := hended
    rw [untilNull_append]
    exact List.prefix_append _ _
  · rw [h.going fun he => hended (h.ended he), List.append_assoc, untilNull_append]
    exact List.prefix_append _ _

/-- **No callback is lost, none is executed twice**: what was executed is a beginning of what is due, and
    once the thread is started its steps come to an end with all of it executed. -/
theorem executes_due {ls : List (Label C)} {s : Sys C} (h : Run step (init C) ls s)
    (hstarted : s.phase ≠ .unstarted) :
    s.executed <+: due ls ∧ Settles internalStep s fun t => t.executed = due ls := by
  obtain ⟨hordered, hwakes⟩ := ordered_of_run h
  refine ⟨hordered.executed_isPrefix, settles_of_measure
    (I := fun t => Ordered (pushed ls) t ∧ Wakes t ∧ t.phase ≠ .unstarted) remaining ?_ ?_
    ⟨hordered, hwakes, hstarted⟩⟩
  · rintro t l u ⟨hordered, hwakes, hstarted⟩ ⟨hl, hstep⟩
    have hnext := hordered.step (steps hstep)
    rw [pushes_of_internal hl, List.append_nil] at hnext
    exact ⟨⟨hnext, hwakes.step (steps hstep), started_step (steps hstep) hstarted⟩,
      remaining_lt hl (steps hstep)⟩
  · rintro t ⟨hordered, hwakes, hstarted⟩ hquiet
    rcases quiet_iff hstarted hquiet with hended | ⟨hphase, hbytes, hsending⟩
    · obtain ⟨rest, hp⟩ := hordered.ended hended
      rw [due, hp, untilNull_append]
      exact (List.append_nil _).symm
    · have hnone : ∀ cb, some cb ∉ t.m_callbacks := by
        intro cb hcb
        rcases hwakes ⟨cb, hcb⟩ with hreceived | hpos | hpos
        · rw [hphase] at hreceived
          cases hreceived
        · omega
        · omega
      have hp := hordered.going (by rw [hphase]; exact nofun)
      rw [hphase, Phase.taken, List.append_nil] at hp
      rw [due, hp, untilNull_append, untilNull_of_forall_none hnone, List.append_nil]

theorem executes_due_two : ∃ s : Sys ℕ,
    Run step (init ℕ) [.dispatch [some 1], .start, .send true, .recv, .dispatch [some 2], .stop true] s ∧
      Settles internalStep s fun t => t.executed = [1, 2] := by
  have hrun : ∃ s : Sys ℕ, Run step (init ℕ)
      [.dispatch [some 1], .start, .send true, .recv, .dispatch [some 2], .stop true] s ∧
        s.phase ≠ .unstarted := ⟨_, Run.of_foldlM rfl, nofun⟩
  obtain ⟨s, hrun, hstarted⟩ := hrun
  exact ⟨s, hrun, (executes_due hrun hstarted).2⟩

end Ancfl.FoxThread
