/-
  Whole runs of a timer manager, with a clock that does not go back.

  * `exec` performs an operation at a reading of the clock, `Event` is an
    operation with the reading and the answer;
  * `Effect`: what an event does to the timers, `step_effect`;
  * `safe_of_callbacks`: runs that add timers with callbacks.
-/
import Ancfl.Lib.Run
import Ancfl.Timer.Manager

namespace Ancfl.TimerManager

open Lib

variable {C : Type}

/-! ## Events -/

inductive Op (C : Type)
  | addTimer (ms : ℕ) (cb : Option C) (recurring : Bool) (addr : ℕ)
  | cancel (i : ℕ)
  | refresh (i : ℕ)
  | reset (i ms : ℕ) (fromNow : Bool)
  | listExpiredCb (addr : ℕ)

inductive Answer (C : Type)
  | timer (i : ℕ)
  | bool (b : Bool)
  | expired (timers : List ℕ) (cbs : List (Option C))

structure Event (C : Type) where
  op : Op C
  now : ℕ
  answer : Answer C

def exec (m : TimerManager C) (now : ℕ) : Op C → Option (Answer C × TimerManager C)
  | .addTimer ms cb recurring addr => some (.timer m.count, (addTimer m ms cb recurring addr now).2)
  | .cancel i => (cancel m i).map fun (b, m) => (.bool b, m)
  | .refresh i =>
    let (b, m) := refresh m i now
    some (.bool b, m)
  | .reset i ms fromNow =>
    let (b, _, m) := reset m i ms fromNow now
    some (.bool b, m)
  | .listExpiredCb addr =>
    let (timers, cbs, m) := listExpiredCb m now addr
    some (.expired timers cbs, m)

/-- A new object has an address that no timer in the set has; the other operations are on existing
    timers. -/
def Valid (m : TimerManager C) : Op C → Prop
  | .addTimer _ _ _ addr => ∀ j ∈ m.timers, (m.heap j).addr ≠ addr
  | .cancel i => i < m.count
  | .refresh i => i < m.count
  | .reset i _ _ => i < m.count
  | .listExpiredCb _ => True

/-- The sum of the start and the period is below `2 ^ 64`. -/
def NoOverflow (m : TimerManager C) (now : ℕ) : Op C → Prop
  | .addTimer ms _ _ _ => now + ms < 2 ^ 64
  | .cancel _ => True
  | .refresh i => now + (m.heap i).ms < 2 ^ 64
  | .reset i ms fromNow => (if fromNow then now else (m.heap i).next - (m.heap i).ms) + ms < 2 ^ 64
  | .listExpiredCb _ => ∀ i ∈ m.timers, (m.heap i).next ≤ now →
    (m.heap i).recurring → now + (m.heap i).ms < 2 ^ 64

/-- A timer that is added has a callback. -/
def HasCallback : Op C → Prop
  | .addTimer _ cb _ _ => cb ≠ none
  | _ => True

/-- The manager and the last reading of the clock. -/
structure State (C : Type) where
  manager : TimerManager C
  clock : ℕ

def step (s : State C) (e : Event C) (s' : State C) : Prop :=
  Valid s.manager e.op ∧ NoOverflow s.manager e.now e.op ∧ s.clock ≤ e.now ∧ s'.clock = e.now ∧
    exec s.manager e.now e.op = some (e.answer, s'.manager)

/-- The timers whose callbacks an event returns. -/
def Event.expired (e : Event C) : List ℕ :=
  match e.answer with
  | .expired timers _ => timers
  | _ => []

/-- The timers of a set with `next <= now`, in order. -/
def due (m : TimerManager C) (now : ℕ) : List ℕ := m.timers.filter fun i => (m.heap i).next ≤ now

/-- The set is in order, and has the timers with callbacks. -/
structure Safe (m : TimerManager C) : Prop where
  sorted : SortedBy (key m.heap) m.timers
  mem_iff : ∀ i, i ∈ m.timers ↔ (m.heap i).cb ≠ none

/-! ## One event -/

/-- `Safe`, and what the operations need. -/
structure Good (s : State C) : Prop where
  inv : Inv s.manager
  cb_of_mem : ∀ i ∈ s.manager.timers, (s.manager.heap i).cb ≠ none
  clock : s.manager.previouseTime ≤ s.clock

/-- What an event does to the timers. -/
structure Effect (m : TimerManager C) (e : Event C) (m' : TimerManager C) : Prop where
  count_le : m.count ≤ m'.count
  recurring : ∀ i < m.count, (m'.heap i).recurring = (m.heap i).recurring
  cb_none : ∀ i < m.count, (m.heap i).cb = none → (m'.heap i).cb = none
  nodup : e.expired.Nodup
  mem : ∀ i ∈ e.expired, i ∈ m.timers
  once : ∀ i ∈ e.expired, (m.heap i).recurring = false → (m'.heap i).cb = none
  cancelled : ∀ i, e.op = .cancel i → (m'.heap i).cb = none

section
variable {m : TimerManager C} {s s' : State C} {e : Event C}

theorem cb_update {i : ℕ} {timer : Timer C} {heap : ℕ → Timer C}
    (hheap : heap = Function.update m.heap i timer) (hcb : timer.cb = (m.heap i).cb) (j : ℕ)
    (hj : (m.heap j).cb ≠ none) : (heap j).cb ≠ none := by
  subst hheap
  by_cases hji : j = i
  · rw [hji, Function.update_self, hcb, ← hji]
    exact hj
  · rwa [Function.update_of_ne hji]

/-- Most operations change one timer, and return no callback. -/
theorem effect_update {i : ℕ} {timer : Timer C} {heap : ℕ → Timer C}
    (hheap : heap = Function.update m.heap i timer)
    (hrec : timer.recurring = (m.heap i).recurring) (hcb : (m.heap i).cb = none → timer.cb = none)
    (hexp : e.expired = []) (hcancel : ∀ j, e.op = .cancel j → j = i ∧ timer.cb = none)
    {l' : List ℕ} {tickled : Bool} {previouseTime : ℕ} :
    Effect m e ⟨heap, m.count, l', tickled, previouseTime⟩ := by
  subst hheap
  refine ⟨le_rfl, fun j _ => ?_, fun j _ hj => ?_, by rw [hexp]; exact .nil, ?_, ?_, fun j hj => ?_⟩
  · by_cases hji : j = i
    · rw [hji, ← hrec]
      exact congrArg Timer.recurring (Function.update_self i timer m.heap)
    · exact congrArg Timer.recurring (Function.update_of_ne hji timer m.heap)
  · by_cases hji : j = i
    · rw [hji] at hj ⊢
      exact (congrArg Timer.cb (Function.update_self i timer m.heap)).trans (hcb hj)
    · exact (congrArg Timer.cb (Function.update_of_ne hji timer m.heap)).trans hj
  · rw [hexp]; exact fun i hi => (nomatch hi)
  · rw [hexp]; exact fun i hi => (nomatch hi)
  · obtain ⟨rfl, htimer⟩ := hcancel j hj
    exact (congrArg Timer.cb (Function.update_self j timer m.heap)).trans htimer

theorem effect_refl (hexp : e.expired = []) (hcancel : ∀ j, e.op = .cancel j → (m.heap j).cb = none) :
    Effect m e m := by
  refine ⟨le_rfl, fun _ _ => rfl, fun _ _ hj => hj, by rw [hexp]; exact .nil, ?_, ?_, hcancel⟩
  · rw [hexp]; exact fun i hi => (nomatch hi)
  · rw [hexp]; exact fun i hi => (nomatch hi)

/-- **One event** keeps the set. -/
theorem step_effect (h : Good s) (hcb : HasCallback e.op) (hstep : step s e s') :
    Good s' ∧ Effect s.manager e s'.manager := by
  obtain ⟨hvalid, -, hclock, hnow, hexec⟩ := hstep
  obtain ⟨op, now, answer⟩ := e
  obtain ⟨m, clock⟩ := s
  obtain ⟨m', clock'⟩ := s'
  obtain ⟨hinv, hmem, hprev⟩ := h
  dsimp only at *
  subst hnow
  have hprev' := hprev.trans hclock
  cases op with
  | addTimer ms cb recurring addr =>
    obtain ⟨heap, front, l', hheap, hadd, hord, hl', -⟩ := addTimer_ret hinv hvalid
    rw [exec, hadd] at hexec
    obtain ⟨rfl, rfl⟩ := Prod.mk.inj (Option.some.inj hexec)
    have heq {j : ℕ} (hj : j < m.count) : heap j = m.heap j := by
      rw [hheap, Function.update_of_ne hj.ne]
    refine ⟨⟨hord, fun j hj => ?_, hprev'⟩, ⟨Nat.le_succ _, fun j hj => ?_, fun j hj => ?_, .nil,
      fun j hj => (nomatch hj), fun j hj => (nomatch hj), fun j hj => (nomatch hj)⟩⟩
    · rcases (hl' j).1 hj with rfl | hj
      · show (heap m.count).cb ≠ none
        rw [hheap, Function.update_self]
        exact hcb
      · show (heap j).cb ≠ none
        rw [heq (hinv.lt_count j hj)]
        exact hmem j hj
    · exact congrArg Timer.recurring (heq hj)
    · exact (congrArg Timer.cb (heq hj)).trans
  | cancel i =>
    rcases cancel_ret hinv i with ⟨hnone, hcancel⟩ | ⟨-, heap, l', hheap, hcancel, hord, hl'⟩
    · rw [exec, hcancel] at hexec
      obtain ⟨rfl, rfl⟩ := Prod.mk.inj (Option.some.inj hexec)
      exact ⟨⟨hinv, hmem, hprev'⟩, effect_refl rfl fun j hj => by cases hj; exact hnone⟩
    · rw [exec, hcancel] at hexec
      obtain ⟨rfl, rfl⟩ := Prod.mk.inj (Option.some.inj hexec)
      refine ⟨⟨hord, fun j hj => ?_, hprev'⟩, effect_update hheap rfl (fun _ => rfl) rfl ?_⟩
      · obtain ⟨hji, hj⟩ := (hl' j).1 hj
        show (heap j).cb ≠ none
        rw [hheap, Function.update_of_ne hji]
        exact hmem j hj
      · rintro j hj
        cases hj
        exact ⟨rfl, rfl⟩
  | refresh i =>
    rcases refresh_ret hinv i clock' with ⟨-, hrefresh⟩ | ⟨-, heap, l', hheap, hrefresh, hord, hl'⟩
    · rw [exec, hrefresh] at hexec
      obtain ⟨rfl, rfl⟩ := Prod.mk.inj (Option.some.inj hexec)
      exact ⟨⟨hinv, hmem, hprev'⟩, effect_refl rfl fun j hj => (nomatch hj)⟩
    · rw [exec, hrefresh] at hexec
      obtain ⟨rfl, rfl⟩ := Prod.mk.inj (Option.some.inj hexec)
      refine ⟨⟨hord, fun j hj => ?_, hprev'⟩, effect_update hheap rfl id rfl ?_⟩
      · exact cb_update hheap rfl j (hmem j ((hl' j).1 hj))
      · exact fun j hj => (nomatch hj)
  | reset i ms fromNow =>
    have hexec' : exec m clock' (.reset i ms fromNow) = some (answer, m') := hexec
    rw [exec, reset] at hexec'
    split_ifs at hexec' with hsame
    · obtain ⟨rfl, rfl⟩ := Prod.mk.inj (Option.some.inj hexec')
      exact ⟨⟨hinv, hmem, hprev'⟩, effect_refl rfl fun j hj => (nomatch hj)⟩
    · rcases resetLocked_ret hinv i ms fromNow clock' with
        ⟨-, hreset⟩ | ⟨-, next, heap, front, l', hheap, hreset, hord, hl', -⟩
      · rw [hreset] at hexec'
        obtain ⟨rfl, rfl⟩ := Prod.mk.inj (Option.some.inj hexec')
        exact ⟨⟨hinv, hmem, hprev'⟩, effect_refl rfl fun j hj => (nomatch hj)⟩
      · rw [hreset] at hexec'
        obtain ⟨rfl, rfl⟩ := Prod.mk.inj (Option.some.inj hexec')
        refine ⟨⟨hord, fun j hj => ?_, hprev'⟩, effect_update hheap rfl id rfl ?_⟩
        · exact cb_update hheap rfl j (hmem j ((hl' j).1 hj))
        · exact fun j hj => (nomatch hj)
  | listExpiredCb addr =>
    obtain ⟨a, b, heap, l', previouseTime, hab, hlist, hord, hother, hexp, hl', hdue⟩ :=
      listLocked_ret hinv clock' addr
    have hexec' : exec m clock' (.listExpiredCb addr) = some (answer, m') := hexec
    rw [exec, listExpiredCb_eq, hlist] at hexec'
    obtain ⟨rfl, rfl⟩ := Prod.mk.inj (Option.some.inj hexec')
    have hnodup := hinv.sorted.nodup
    rw [hab] at hnodup
    refine ⟨⟨hord, fun j hj => ?_, (hdue hprev').1⟩, ⟨le_rfl, fun j _ => ?_, fun j _ hj => ?_, ?_,
      fun j hj => ?_, fun j hj hrec => ?_, fun j hj => (nomatch hj)⟩⟩
    · show (heap j).cb ≠ none
      by_cases hja : j ∈ a
      · have hrec := (hl' j).1 hj
        have hjb : j ∉ b := fun hjb => (List.nodup_append'.1 hnodup).2.2 hja hjb
        rw [hexp j hja, if_pos (hrec.resolve_left hjb).2]
        exact hmem j (by rw [hab]; simp [hja])
      · rw [hother j hja]
        refine hmem j ?_
        rw [hab]
        exact List.mem_append_right a (((hl' j).1 hj).resolve_right fun h => hja h.1)
    · show (heap j).recurring = _
      by_cases hja : j ∈ a
      · rw [hexp j hja]
        split_ifs <;> rfl
      · rw [hother j hja]
    · show (heap j).cb = none
      by_cases hja : j ∈ a
      · rw [hexp j hja]
        split_ifs
        · exact hj
        · rfl
      · rw [hother j hja]
        exact hj
    · exact (List.nodup_append'.1 hnodup).1
    · rw [hab]
      exact List.mem_append_left b hj
    · show (heap j).cb = none
      rw [hexp j hj, hrec]
      rfl

/-- Every operation returns. -/
theorem exec_ret (h : Good s) (op : Op C) (now : ℕ) : ∃ answer m', exec s.manager now op = some (answer, m') := by
  cases op with
  | cancel i =>
    rcases cancel_ret h.inv i with ⟨-, hcancel⟩ | ⟨-, heap, l', -, hcancel, -⟩ <;>
    · rw [exec, hcancel]
      exact ⟨_, _, rfl⟩
  | _ => exact ⟨_, _, rfl⟩

/-- **`listExpiredCb`** returns the callbacks of the timers that are due, and puts the recurring ones
    back. -/
theorem list_due (h : Good s) {now addr : ℕ} (hclock : s.clock ≤ now) {answer : Answer C}
    {m' : TimerManager C} (hover : NoOverflow s.manager now (.listExpiredCb addr))
    (hexec : exec s.manager now (.listExpiredCb addr) = some (answer, m')) :
    answer = .expired (due s.manager now) ((due s.manager now).map fun i => (s.manager.heap i).cb) ∧
      ∀ i ∈ due s.manager now, (s.manager.heap i).recurring →
        i ∈ m'.timers ∧ (m'.heap i).next = now + (m'.heap i).ms := by
  obtain ⟨a, b, heap, l', previouseTime, hab, hlist, hord, hother, hexp, hl', hdue⟩ :=
    listLocked_ret h.inv now addr
  obtain ⟨-, ha, hb⟩ := hdue (h.clock.trans hclock)
  have ha' : due s.manager now = a := by
    rw [due, hab, List.filter_append, List.filter_eq_self.2 fun i hi => decide_eq_true (ha i hi),
      List.filter_eq_nil_iff.2 fun i hi => mt of_decide_eq_true (not_le.2 (hb i hi)), List.append_nil]
  rw [exec, listExpiredCb_eq, hlist] at hexec
  obtain ⟨rfl, rfl⟩ := Prod.mk.inj (Option.some.inj hexec)
  refine ⟨by rw [ha'], fun i hi hrec => ?_⟩
  rw [ha'] at hi
  have him : i ∈ s.manager.timers := by rw [hab]; simp [hi]
  refine ⟨(hl' i).2 (.inr ⟨hi, hrec⟩), ?_⟩
  show (heap i).next = now + (heap i).ms
  rw [hexp i hi, if_pos hrec]
  exact Nat.mod_eq_of_lt (hover i him (ha i hi) hrec)

end

/-! ## Runs -/

section
variable {s s' : State C} {es : List (Event C)}

/-- The steps of runs that add timers with callbacks. -/
def cbStep (s : State C) (e : Event C) (s' : State C) : Prop := HasCallback e.op ∧ step s e s'

theorem good_of_run (h : Good s) (hrun : Run cbStep s es s') : Good s' :=
  hrun.invariant (P := Good) (fun _ _ _ hg hstep => (step_effect hg hstep.1 hstep.2).1) h

theorem recurring_of_run (h : Good s) (hrun : Run cbStep s es s') :
    s.manager.count ≤ s'.manager.count ∧
      ∀ i < s.manager.count, (s'.manager.heap i).recurring = (s.manager.heap i).recurring := by
  induction hrun with
  | nil => exact ⟨le_rfl, fun _ _ => rfl⟩
  | cons hstep _ ih =>
    obtain ⟨hg, heff⟩ := step_effect h hstep.1 hstep.2
    obtain ⟨hcount, hrec⟩ := ih hg
    exact ⟨heff.count_le.trans hcount,
      fun i hi => (hrec i (hi.trans_le heff.count_le)).trans (heff.recurring i hi)⟩

/-- A timer without callback does not expire any more. -/
theorem not_expired_of_run (h : Good s) (hrun : Run cbStep s es s') {i : ℕ} (hi : i < s.manager.count)
    (hcb : (s.manager.heap i).cb = none) : i ∉ es.flatMap Event.expired := by
  induction hrun with
  | nil => exact List.not_mem_nil
  | cons hstep _ ih =>
    obtain ⟨hg, heff⟩ := step_effect h hstep.1 hstep.2
    rw [List.flatMap_cons, List.mem_append, not_or]
    exact ⟨fun hmem => h.cb_of_mem i (heff.mem i hmem) hcb,
      ih hg (hi.trans_le heff.count_le) (heff.cb_none i hi hcb)⟩

/-- A one-shot timer expires once. -/
theorem once_of_run (h : Good s) (hrun : Run cbStep s es s') {i : ℕ}
    (hrec : (s'.manager.heap i).recurring = false) : (es.flatMap Event.expired).count i ≤ 1 := by
  induction hrun with
  | nil => exact Nat.zero_le 1
  | @cons s t u e es hstep hrest ih =>
    obtain ⟨hg, heff⟩ := step_effect h hstep.1 hstep.2
    rw [List.flatMap_cons, List.count_append]
    by_cases hmem : i ∈ e.expired
    · have hi := h.inv.lt_count i (heff.mem i hmem)
      have hi' := hi.trans_le heff.count_le
      have hrec' : (s.manager.heap i).recurring = false := by
        rw [← heff.recurring i hi, ← (recurring_of_run hg hrest).2 i hi', hrec]
      rw [List.count_eq_zero_of_not_mem (not_expired_of_run hg hrest hi' (heff.once i hmem hrec')),
        Nat.add_zero]
      exact List.nodup_iff_count_le_one.1 heff.nodup i
    · rw [List.count_eq_zero_of_not_mem hmem, Nat.zero_add]
      exact ih hg hrec

/-- A timer that was cancelled does not expire any more. -/
theorem cancelled_of_run (h : Good s) {es₁ es₂ : List (Event C)} {e : Event C} {i : ℕ}
    (hrun : Run cbStep s (es₁ ++ e :: es₂) s') (he : e.op = .cancel i) :
    i ∉ es₂.flatMap Event.expired := by
  obtain ⟨t, hrun₁, hrun₂⟩ := Run.append_iff.1 hrun
  obtain ⟨u, hstep, hrun₂⟩ := Run.cons_iff.1 hrun₂
  have ht := good_of_run h hrun₁
  obtain ⟨hu, heff⟩ := step_effect ht hstep.1 hstep.2
  have hi : i < t.manager.count := by
    have hvalid := hstep.2.1
    rw [he] at hvalid
    exact hvalid
  exact not_expired_of_run hu hrun₂ (hi.trans_le heff.count_le) (heff.cancelled i he)

/-- **Runs that add timers with callbacks.** -/
theorem safe_of_callbacks {now : ℕ} (hrun : Run cbStep ⟨new C now, now⟩ es s) :
    Safe s.manager ∧
      (∀ now addr answer m', s.clock ≤ now → NoOverflow s.manager now (.listExpiredCb addr) →
        exec s.manager now (.listExpiredCb addr) = some (answer, m') →
          answer = .expired (due s.manager now)
              ((due s.manager now).map fun i => (s.manager.heap i).cb) ∧
            ∀ i ∈ due s.manager now, (s.manager.heap i).recurring →
              i ∈ m'.timers ∧ (m'.heap i).next = now + (m'.heap i).ms) ∧
      (∀ i, (s.manager.heap i).recurring = false → (es.flatMap Event.expired).count i ≤ 1) ∧
      (∀ es₁ e es₂ i, es = es₁ ++ e :: es₂ → e.op = .cancel i → i ∉ es₂.flatMap Event.expired) ∧
      ∀ op now, ∃ answer m', exec s.manager now op = some (answer, m') := by
  have hnew : Good (⟨new C now, now⟩ : State C) :=
    ⟨inv_new C now, fun i hi => (nomatch hi), le_rfl⟩
  have h := good_of_run hnew hrun
  refine ⟨⟨h.inv.sorted, fun i => ⟨h.cb_of_mem i, h.inv.mem_of_cb i⟩⟩, ?_, fun i => once_of_run hnew hrun,
    ?_, fun op now => exec_ret h op now⟩
  · exact fun now addr answer m' hclock hover hexec => list_due h hclock hover hexec
  · rintro es₁ e es₂ i rfl
    exact cancelled_of_run hnew hrun

end

/-- The manager with one timer, added at 0. -/
def one (cb : Option ℕ) : TimerManager ℕ := (addTimer (new ℕ 0) 10 cb true 0 0).2

theorem step_one (cb : Option ℕ) :
    step ⟨new ℕ 0, 0⟩ ⟨.addTimer 10 cb true 0, 0, .timer 0⟩ ⟨one cb, 0⟩ :=
  ⟨fun _ hj => (nomatch hj), show 0 + 10 < 2 ^ 64 by decide, le_rfl, rfl, rfl⟩

/-- A timer is added. -/
theorem safe_add : Safe (one (some 7)) ∧
    (∀ now addr answer m', 0 ≤ now → NoOverflow (one (some 7)) now (.listExpiredCb addr) →
      exec (one (some 7)) now (.listExpiredCb addr) = some (answer, m') →
        answer = .expired (due (one (some 7)) now)
            ((due (one (some 7)) now).map fun i => ((one (some 7)).heap i).cb) ∧
          ∀ i ∈ due (one (some 7)) now, ((one (some 7)).heap i).recurring →
            i ∈ m'.timers ∧ (m'.heap i).next = now + (m'.heap i).ms) ∧
    (∀ i, ((one (some 7)).heap i).recurring = false →
      ([⟨.addTimer 10 (some 7) true 0, 0, .timer 0⟩].flatMap Event.expired).count i ≤ 1) ∧
    (∀ es₁ e es₂ i, [⟨.addTimer 10 (some 7) true 0, 0, .timer 0⟩] = es₁ ++ e :: es₂ →
      e.op = .cancel i → i ∉ es₂.flatMap Event.expired) ∧
    ∀ op now, ∃ answer m', exec (one (some 7)) now op = some (answer, m') :=
  safe_of_callbacks (s := ⟨one (some 7), 0⟩) (.cons ⟨by simp [HasCallback], step_one (some 7)⟩ (.nil _))

/-- **A timer without callback is in the set.** -/
theorem not_safe : ¬∀ (es : List (Event ℕ)) s, Run step ⟨new ℕ 0, 0⟩ es s → Safe s.manager := by
  intro h
  have hsafe := h _ _ (.cons (step_one none) (.nil _))
  exact (hsafe.mem_iff 0).1 (by decide) rfl

end Ancfl.TimerManager
