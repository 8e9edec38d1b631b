/-
  `ConfigVar`: a value and the listeners of its changes.

  * `setValue` compares and notifies under the read lock, and assigns under the
    write lock, which it takes later; `ConfigVar.next` is a step of calls by
    several threads, a notification of one listener being a step of its own;
  * `Apart`: a call that finds a different value does so while all calls that
    have notified and not assigned yet have the same new value;
  * `delivered_last`: then a listener has got the value that is set when all
    calls have returned.
-/
import Ancfl.Lib.Pool
import Ancfl.Lib.Run
import Mathlib.Data.List.Basic

namespace Ancfl

open Lib

namespace ConfigVar

/-! ## Calls of `setValue` -/

/-- Where a call is: before the comparison, under the read lock with the listeners that are left, or
    after it. -/
inductive Phase
  | comparing
  | notifying (left : List ℕ)
  | assigning
deriving DecidableEq

/-- A call of `setValue(v)`. -/
structure Caller (T : Type) where
  v : T
  phase : Phase
deriving DecidableEq

def Phase.reads : Phase → Bool
  | notifying _ => true
  | _ => false

/-- The variable with the calls under way, and what was delivered: the listener, the old and the new
    value. `m_cbs` are the keys of the listeners. -/
structure World (T : Type) where
  m_val : T
  m_cbs : List ℕ
  callers : List (Caller T)
  delivered : List (ℕ × T × T)
deriving DecidableEq

inductive Label (T : Type)
  | setValue (v : T)
  /-- the `n`-th call goes on -/
  | go (n : ℕ)
  /-- `id` is what `++s_fun_id` gives -/
  | addListener (id : ℕ)
  | delListener (key : ℕ)

variable {T : Type}

/-- No call holds the read lock, so that the write lock can be taken. -/
def World.free (w : World T) : Bool := w.callers.all fun c => !c.phase.reads

section
variable [BEq T]

/-- What the `n`-th call does next. -/
def World.go (w : World T) (n : ℕ) (c : Caller T) : Option (World T) :=
  match c.phase with
  | .comparing =>
    if c.v == w.m_val then some { w with callers := w.callers.eraseIdx n }
    else some { w with callers := w.callers.set n ⟨c.v, .notifying w.m_cbs⟩ }
  | .notifying (i :: left) =>
    some { w with
      callers := w.callers.set n ⟨c.v, .notifying left⟩
      delivered := w.delivered ++ [(i, w.m_val, c.v)] }
  | .notifying [] => some { w with callers := w.callers.set n ⟨c.v, .assigning⟩ }
  | .assigning =>
    if w.free then some { w with m_val := c.v, callers := w.callers.eraseIdx n } else none

def next (w : World T) : Label T → Option (World T)
  | .setValue v => some { w with callers := w.callers ++ [⟨v, .comparing⟩] }
  | .go n => do w.go n (← w.callers[n]?)
  | .addListener id => if w.free then some { w with m_cbs := w.m_cbs ++ [id] } else none
  | .delListener key => if w.free then some { w with m_cbs := w.m_cbs.filter (· ≠ key) } else none

abbrev Step (w : World T) (l : Label T) (w' : World T) : Prop := next w l = some w'

end

/-! ## What a listener has got -/

/-- The new values that were delivered to a listener. -/
def World.got (w : World T) (id : ℕ) : List T :=
  (w.delivered.filter (·.1 = id)).map fun d => d.2.2

/-- The listener was never notified and the value is still the first one, or it has got the value. -/
def World.Told (w : World T) (val : T) (id : ℕ) : Prop :=
  (w.got id = [] ∧ w.m_val = val) ∨ (w.got id).getLast? = some w.m_val

/-- The call has compared and has not assigned yet. -/
def Caller.pending (c : Caller T) : Bool := c.phase ≠ .comparing

/-- A call that finds a different value does so while all that have not assigned yet have its own. -/
def Apart [BEq T] (w : World T) (l : Label T) : Prop :=
  ∀ n c, l = .go n → w.callers[n]? = some c → c.phase = .comparing → (c.v == w.m_val) = false →
    ∀ d ∈ w.callers, d.pending → d.v = c.v

/-! ## The invariant -/

/-- The listener is registered and has got the value of a call that has notified it, and the pending
    calls have the same value. -/
structure Inv (val : T) (id : ℕ) (w : World T) : Prop where
  registered : id ∈ w.m_cbs
  same : ∀ c ∈ w.callers, ∀ d ∈ w.callers, c.pending → d.pending → c.v = d.v
  told : ∀ c ∈ w.callers, (∀ left, c.phase = .notifying left → id ∈ left ∨ (w.got id).getLast? = some c.v) ∧
    (c.phase = .assigning → (w.got id).getLast? = some c.v)
  last : w.Told val id ∨ ∃ c ∈ w.callers, c.pending ∧ (w.got id).getLast? = some c.v

section
variable {val : T} {id n : ℕ} {w w' : World T} {c : Caller T}

theorem got_deliver (w : World T) (i : ℕ) (old v : T) (callers : List (Caller T)) (id : ℕ) :
    World.got { w with callers := callers, delivered := w.delivered ++ [(i, old, v)] } id =
      if i = id then w.got id ++ [v] else w.got id := by
  unfold World.got
  rw [List.filter_append, List.map_append]
  split_ifs with h
  · rw [List.filter_cons_of_pos (by simpa using h)]
    rfl
  · rw [List.filter_cons_of_neg (by simpa using h)]
    exact List.append_nil _

theorem mem_set_cases {l : List (Caller T)} {c' d : Caller T} (h : d ∈ l.set n c') : d ∈ l ∨ d = c' :=
  List.mem_or_eq_of_mem_set h

theorem Caller.pending_iff : c.pending = true ↔ c.phase ≠ .comparing := decide_eq_true_iff

/-- A call that begins, and one that finds the same value, change nothing for the others. -/
theorem Inv.callers_sub (h : Inv val id w) {callers : List (Caller T)}
    (hsub : ∀ c ∈ callers, c ∈ w.callers ∨ c.phase = .comparing)
    (hkeep : ∀ c ∈ w.callers, c.pending → c ∈ callers) : Inv val id { w with callers := callers } where
  registered := h.registered
  same c hc d hd hpc hpd := by
    have hc' := (hsub c hc).resolve_right (Caller.pending_iff.1 hpc)
    have hd' := (hsub d hd).resolve_right (Caller.pending_iff.1 hpd)
    exact h.same c hc' d hd' hpc hpd
  told c hc := by
    rcases hsub c hc with hc | hc
    · exact h.told c hc
    · exact ⟨fun left hl => absurd (hc.symm.trans hl) (by simp),
        fun hl => absurd (hc.symm.trans hl) (by simp)⟩
  last := h.last.imp_right fun ⟨c, hc, hp, hlast⟩ => ⟨c, hkeep c hc hp, hp, hlast⟩

/-- A call goes on from its comparison. -/
theorem Inv.compare (h : Inv val id w) (hc : w.callers[n]? = some c) (hphase : c.phase = .comparing)
    (hapart : ∀ d ∈ w.callers, d.pending → d.v = c.v) :
    Inv val id { w with callers := w.callers.set n ⟨c.v, .notifying w.m_cbs⟩ } := by
  have hv : ∀ d ∈ w.callers.set n ⟨c.v, .notifying w.m_cbs⟩, d.pending → d.v = c.v := by
    intro d hd hp
    rcases mem_set_cases hd with hd | rfl
    · exact hapart d hd hp
    · rfl
  refine ⟨h.registered, fun d hd e he hpd hpe => (hv d hd hpd).trans (hv e he hpe).symm, fun d hd => ?_, ?_⟩
  · rcases mem_set_cases hd with hd | rfl
    · exact h.told d hd
    · exact ⟨fun left hl => .inl (Phase.notifying.inj hl ▸ h.registered), fun hl => nomatch hl⟩
  · refine h.last.imp_right fun ⟨d, hd, hp, hlast⟩ => ⟨d, mem_set_of_ne hc hd ?_, hp, hlast⟩
    rintro rfl
    exact Caller.pending_iff.1 hp hphase

/-- A call notifies a listener. -/
theorem Inv.notify (h : Inv val id w) {i : ℕ} {left : List ℕ} (hc : w.callers[n]? = some c)
    (hphase : c.phase = .notifying (i :: left)) :
    Inv val id { w with
      callers := w.callers.set n ⟨c.v, .notifying left⟩
      delivered := w.delivered ++ [(i, w.m_val, c.v)] } := by
  have hmem := List.mem_of_getElem? hc
  have hpending : c.pending = true := Caller.pending_iff.2 (by rw [hphase]; simp)
  have hv : ∀ d ∈ w.callers.set n ⟨c.v, .notifying left⟩, d.pending → d.v = c.v := by
    intro d hd hp
    rcases mem_set_cases hd with hd | rfl
    · exact h.same d hd c hmem hp hpending
    · rfl
  have hgot := got_deliver w i w.m_val c.v (w.callers.set n ⟨c.v, .notifying left⟩) id
  refine ⟨h.registered, fun d hd e he hpd hpe => (hv d hd hpd).trans (hv e he hpe).symm, ?_, ?_⟩
  · intro d hd
    rw [hgot]
    split_ifs with hi
    · -- the listener has got the value of all that are pending
      rw [List.getLast?_concat]
      have hlast (hp : d.pending = true) : some c.v = some d.v := congrArg some (hv d hd hp).symm
      exact ⟨fun left' hl => .inr (hlast (Caller.pending_iff.2 (by rw [hl]; simp))),
        fun hl => hlast (Caller.pending_iff.2 (by rw [hl]; simp))⟩
    · rcases mem_set_cases hd with hd | rfl
      · exact h.told d hd
      · refine ⟨fun left' hl => ?_, fun hl => nomatch hl⟩
        obtain rfl := Phase.notifying.inj hl
        exact ((h.told c hmem).1 _ hphase).imp_left fun hin => (List.mem_cons.1 hin).resolve_left (Ne.symm hi)
  · rw [World.Told, hgot]
    have hnew : (⟨c.v, .notifying left⟩ : Caller T) ∈ w.callers.set n ⟨c.v, .notifying left⟩ :=
      mem_set_self hc _
    split_ifs with hi
    · exact .inr ⟨_, hnew, rfl, List.getLast?_concat⟩
    · refine h.last.imp_right fun ⟨d, hd, hp, hlast⟩ => ⟨_, hnew, rfl, ?_⟩
      rw [hlast, h.same d hd c hmem hp hpending]

/-- A call gives the read lock back. -/
theorem Inv.unlock (h : Inv val id w) (hc : w.callers[n]? = some c) (hphase : c.phase = .notifying []) :
    Inv val id { w with callers := w.callers.set n ⟨c.v, .assigning⟩ } := by
  have hmem := List.mem_of_getElem? hc
  have hpending : c.pending = true := Caller.pending_iff.2 (by rw [hphase]; simp)
  have hv : ∀ d ∈ w.callers.set n ⟨c.v, .assigning⟩, d.pending → d.v = c.v := by
    intro d hd hp
    rcases mem_set_cases hd with hd | rfl
    · exact h.same d hd c hmem hp hpending
    · rfl
  refine ⟨h.registered, fun d hd e he hpd hpe => (hv d hd hpd).trans (hv e he hpe).symm, fun d hd => ?_, ?_⟩
  · rcases mem_set_cases hd with hd | rfl
    · exact h.told d hd
    · exact ⟨fun left hl => (nomatch hl), fun _ => ((h.told c hmem).1 _ hphase).resolve_left List.not_mem_nil⟩
  · refine h.last.imp_right fun ⟨d, hd, hp, hlast⟩ => ⟨_, mem_set_self hc _, rfl, ?_⟩
    exact hlast.trans (congrArg some (h.same d hd c hmem hp hpending))

/-- A call assigns the value that the listener has got. -/
theorem Inv.assign (h : Inv val id w) (hc : w.callers[n]? = some c) (hphase : c.phase = .assigning) :
    Inv val id { w with m_val := c.v, callers := w.callers.eraseIdx n } := by
  have hsub : ∀ d ∈ w.callers.eraseIdx n, d ∈ w.callers := fun d hd => List.mem_of_mem_eraseIdx hd
  exact ⟨h.registered, fun d hd e he => h.same d (hsub d hd) e (hsub e he), fun d hd => h.told d (hsub d hd),
    .inl (.inr ((h.told c (List.mem_of_getElem? hc)).2 hphase))⟩

/-- Other listeners come and go. -/
theorem Inv.listeners (h : Inv val id w) {m_cbs : List ℕ} (hid : id ∈ m_cbs) :
    Inv val id { w with m_cbs := m_cbs } := ⟨hid, h.same, h.told, h.last⟩

end

section
variable [BEq T] {val : T} {id : ℕ} {w w' : World T} {l : Label T}

theorem inv_step (h : Inv val id w) (hid : l ≠ .delListener id) (hstep : Step w l w') (hapart : Apart w l) :
    Inv val id w' := by
  cases l with
  | setValue v =>
    obtain rfl := Option.some.inj hstep
    refine h.callers_sub (fun c hc => ?_) fun c hc _ => List.mem_append_left _ hc
    rcases List.mem_append.1 hc with hc | hc
    · exact .inl hc
    · rw [List.mem_singleton.1 hc]
      exact .inr rfl
  | go n =>
    obtain ⟨c, hc, hgo⟩ := Option.bind_eq_some_iff.1 hstep
    obtain ⟨v, phase⟩ := c
    cases phase with
    | comparing =>
      have hgo' : (if v == w.m_val then _ else _ : Option (World T)) = some w' := hgo
      split_ifs at hgo' with heq
      · obtain rfl := Option.some.inj hgo'
        refine h.callers_sub (fun d hd => .inl (List.mem_of_mem_eraseIdx hd)) fun d hd hp => ?_
        refine ((mem_iff_of_getElem? hc).1 hd).resolve_left ?_
        rintro rfl
        exact Caller.pending_iff.1 hp rfl
      · obtain rfl := Option.some.inj hgo'
        exact h.compare hc rfl (hapart n _ rfl hc rfl (Bool.not_eq_true _ ▸ heq))
    | notifying left =>
      cases left with
      | nil =>
        obtain rfl := Option.some.inj hgo
        exact h.unlock hc rfl
      | cons i left =>
        obtain rfl := Option.some.inj hgo
        exact h.notify hc rfl
    | assigning =>
      obtain ⟨-, hw'⟩ := Option.ite_none_right_eq_some.1 hgo
      exact Option.some.inj hw' ▸ h.assign hc rfl
  | addListener i =>
    obtain ⟨-, hw'⟩ := Option.ite_none_right_eq_some.1 hstep
    exact Option.some.inj hw' ▸ h.listeners (List.mem_append_left _ h.registered)
  | delListener key =>
    obtain ⟨-, hw'⟩ := Option.ite_none_right_eq_some.1 hstep
    refine Option.some.inj hw' ▸ h.listeners (List.mem_filter.2 ⟨h.registered, ?_⟩)
    exact decide_eq_true fun heq => hid (heq ▸ rfl)

theorem inv_run {ls : List (Label T)} (h : Inv val id w) (hkept : Label.delListener id ∉ ls)
    (hr : Run (fun w l w' => Step w l w' ∧ Apart w l) w ls w') : Inv val id w' := by
  induction hr with
  | nil => exact h
  | cons hstep _ ih =>
    rw [List.mem_cons, not_or] at hkept
    exact ih (inv_step h (Ne.symm hkept.1) hstep.1 hstep.2) hkept.2

/-- One call at a time. -/
theorem apart_of_single {c : Caller T} (h : w.callers = [c]) : Apart w l := by
  intro n d _ hd hphase _ e he hp
  obtain rfl : d = c := List.mem_singleton.1 (h ▸ List.mem_of_getElem? hd)
  obtain rfl : e = d := List.mem_singleton.1 (h ▸ he)
  exact absurd hphase (Caller.pending_iff.1 hp)

/-- **A listener has got the value that is set**, or was never notified, when all calls have returned,
    if calls with different values do not overlap between comparison and assignment. -/
theorem delivered_last {ls : List (Label T)} (hcallers : w.callers = []) (hdelivered : w.delivered = [])
    (hid : id ∈ w.m_cbs) (hkept : Label.delListener id ∉ ls)
    (hr : Run (fun w l w' => Step w l w' ∧ Apart w l) w ls w') (hreturned : w'.callers = []) :
    w'.Told w.m_val id := by
  have hinit : Inv w.m_val id w := by
    refine ⟨hid, fun c hc => ?_, fun c hc => ?_, .inl (.inl ⟨?_, rfl⟩)⟩
    · rw [hcallers] at hc
      exact absurd hc List.not_mem_nil
    · rw [hcallers] at hc
      exact absurd hc List.not_mem_nil
    · rw [World.got, hdelivered]
      rfl
  refine (inv_run hinit hkept hr).last.resolve_right ?_
  rintro ⟨c, hc, -⟩
  rw [hreturned] at hc
  exact absurd hc List.not_mem_nil

end

/-- A value is set, and the listener has got it. -/
theorem delivered_last_five : World.Told ⟨5, [1], [], [(1, 0, 5)]⟩ 0 1 := by
  have hfirst : Apart (⟨0, [1], [], []⟩ : World ℕ) (.setValue 5) := fun _ _ hl => nomatch hl
  have hrun : Run (fun (w : World ℕ) l w' => Step w l w' ∧ Apart w l) ⟨0, [1], [], []⟩
      [.setValue 5, .go 0, .go 0, .go 0, .go 0] ⟨5, [1], [], [(1, 0, 5)]⟩ :=
    .cons ⟨rfl, hfirst⟩ (.cons ⟨rfl, apart_of_single rfl⟩ (.cons ⟨rfl, apart_of_single rfl⟩
      (.cons ⟨rfl, apart_of_single rfl⟩ (.cons ⟨rfl, apart_of_single rfl⟩ (.nil _)))))
  exact delivered_last rfl rfl (by decide) (by simp) hrun rfl

/-- Two calls notify in one order and assign in the other. -/
theorem not_delivered_last : ¬∀ (w w' : World ℕ) (ls : List (Label ℕ)) (id : ℕ), w.callers = [] →
    w.delivered = [] → id ∈ w.m_cbs → Label.delListener id ∉ ls → Run Step w ls w' → w'.callers = [] →
      w'.Told w.m_val id := by
  intro h
  have hrun : Run Step (⟨0, [1], [], []⟩ : World ℕ)
      [.setValue 5, .setValue 6, .go 0, .go 0, .go 0, .go 1, .go 1, .go 1, .go 1, .go 0]
      ⟨5, [1], [], [(1, 0, 5), (1, 0, 6)]⟩ := Run.of_foldlM (by decide)
  exact absurd (h _ _ _ 1 rfl rfl (by decide) (by simp) hrun rfl) (by simp [World.Told, World.got])

end ConfigVar

end Ancfl
