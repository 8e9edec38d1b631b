/-
  `AsyncSocketStream::start`.

  * `Safe`: one `doRead`, one `doWrite` and one `start` between its two waits for
    `m_waitSem` at most. A `doRead` or `doWrite` is over with its notification;
  * `inRead_one`, `inWrite_one`: there is never a second `doRead` or `doWrite`;
  * `half_step`: the `start`s that have one permit and wait for the other, after a
    step;
  * `safe_iff`: the states of a run are safe if and only if no `start` is given its
    first permit while another one waits for its second; `stuck_of_run`: otherwise
    these two wait for ever.
-/
import Ancfl.Stream.Writer

namespace Ancfl.Writer

open Lib

variable {M : Type}

/-! ## What is to hold -/

/-- In `doRead`. -/
def Thread.inRead : Thread M → Bool
  | doRead | doRecv | doReadNotify => true
  | innerClose _ .doRecv | innerClose _ .doRead => true
  | _ => false

/-- In `doWrite`. -/
def Thread.inWrite : Thread M → Bool
  | doWrite | wait | waiting | swap | doSend _ | clear | doWriteNotify => true
  | innerClose _ .doWrite => true
  | _ => false

/-- In `start`, without a permit. -/
def Thread.first : Thread M → Bool
  | waitFiber second | waitingFiber second => !second
  | _ => false

/-- In `start`, with one permit, and waiting for the second. -/
def Thread.half : Thread M → Bool
  | waitFiber second | waitingFiber second => second
  | _ => false

/-- One thread of `p` at most. -/
def One (threads : List (Thread M)) (p : Thread M → Bool) : Prop :=
  ∀ n m, At threads p n → At threads p m → n = m

structure Safe (s : Sys M) : Prop where
  doRead : One s.threads Thread.inRead
  doWrite : One s.threads Thread.inWrite
  start : One s.threads Thread.half

/-- The thread that a step gives a permit of `m_waitSem`. -/
def Sys.takes (s : Sys M) : Label M → Option ℕ
  | .run n _ =>
    match s.threads[n]? with
    | some (.waitFiber _) => if 0 < s.m_waitSem.m_concurrency then some n else none
    | some .doReadNotify | some .doWriteNotify | some (.startNotify _) => s.m_waitSem.m_waiters.head?
    | _ => none
  | _ => none

/-- A `start` is given its first permit only when no `start` waits for its second. -/
def InTurn (s : Sys M) (l : Label M) : Prop :=
  ∀ n, s.takes l = some n → At s.threads Thread.first n → ∀ m, ¬At s.threads Thread.half m

/-! ## Threads and permits -/

section
variable {t : Thread M}

theorem Thread.hold_of_inRead (h : t.inRead) : t.hold = 1 := by
  cases t
  case innerClose _ caller => cases caller <;> first | rfl | cases h
  all_goals first | rfl | cases h

theorem Thread.leads_of_inWrite (h : t.inWrite) : t.leads = 1 := by
  cases t
  case innerClose _ caller => cases caller <;> first | rfl | cases h
  all_goals first | rfl | cases h

theorem Thread.hold_of_half (h : t.half) : t.hold = 1 := by
  cases t
  case waitFiber second | waitingFiber second => exact (congrArg Bool.toNat h : _)
  all_goals cases h

/-- A fiber that is woken in `start` has one permit more. -/
theorem Thread.half_woken (h : t.inWaitSem) : t.woken.half = t.first := by
  obtain ⟨second, rfl⟩ := inWaitSem_iff.1 h
  cases second <;> rfl

theorem Thread.inRead_woken (t : Thread M) : t.woken.inRead = t.inRead := by
  cases t
  case waitingFiber second => cases second <;> rfl
  all_goals rfl

end

section
variable {threads : List (Thread M)} {p : Thread M → Bool} {n m : ℕ} {t : Thread M}

theorem at_modify (f : Thread M → Thread M) :
    At (threads.modify n f) p m ↔ if m = n then At threads (fun t => p (f t)) m else At threads p m := by
  unfold At
  rw [List.getElem?_modify]
  split_ifs with h h' h'
  · cases threads[m]? <;> simp
  · exact absurd h.symm h'
  · exact absurd h'.symm h
  · cases threads[m]? <;> simp

/-- What a wakening does not change. -/
theorem at_wake {f : Option ℕ} (h : ∀ n, f = some n → ∀ t, threads[n]? = some t → p t.woken = p t) :
    At (wake threads f) p m ↔ At threads p m := by
  cases f with
  | none => rfl
  | some n =>
    rw [wake, at_modify]
    split_ifs with hm
    · subst hm
      exact exists_congr fun t => and_congr_right fun ht => by dsimp only; rw [h m rfl t ht]
    · rfl

/-- When two threads have one permit each, the others have none. -/
theorem hold_eq_zero (hn : At threads p n) (hm : At threads p m) (hne : n ≠ m)
    (h : ∀ t : Thread M, p t → t.hold = 1) (hle : tally Thread.hold threads ≤ 2) {k : ℕ}
    (hk : threads[k]? = some t) (hkn : k ≠ n) (hkm : k ≠ m) : t.hold = 0 := by
  obtain ⟨u, hu, hpu⟩ := hn
  obtain ⟨v, hv, hpv⟩ := hm
  have hv' : (threads.set n .done)[m]? = some v := by rw [List.getElem?_set_ne hne, hv]
  have hk' : ((threads.set n .done).set m .done)[k]? = some t := by
    rw [List.getElem?_set_ne hkm.symm, List.getElem?_set_ne hkn.symm, hk]
  have hset := tally_set Thread.hold hu .done
  have hset' := tally_set Thread.hold hv' .done
  have hle' := le_tally (f := Thread.hold) (List.mem_of_getElem? hk')
  have hdone : (Thread.done : Thread M).hold = 0 := rfl
  rw [h u hpu] at hset
  rw [h v hpv] at hset'
  omega

end

/-! ## One `doRead` and one `doWrite` -/

section
variable {s s' : Sys M} {n m : ℕ} {t : Thread M}

theorem at_notify {p : Thread M → Bool} (h : p .swap = p .waiting) (hinv : Inv 2 s) :
    At s.notify.threads p m ↔ At s.threads p m := by
  refine at_wake fun f hf t ht => ?_
  rcases hinv.sem.notify with ⟨hnone, -⟩ | ⟨g, hsome, hg, -⟩
  · cases hnone.symm.trans hf
  · obtain rfl := Option.some.inj (hsome.symm.trans hf)
    rw [Thread.inSem_iff.1 ((at_iff ht).1 hg)]
    exact h

/-- A `doRead` that a step of a thread leaves has been there, or is scheduled. -/
theorem inRead_runThread (hinv : Inv 2 s) (hn : s.threads[n]? = some t) {outcome : Outcome}
    (h : runThread s n outcome t = some s') (hm : At s'.threads Thread.inRead m) :
    At s.threads Thread.inRead m ∨ (t = .startRead ∧ m = s.threads.length) := by
  have hset {threads : List (Thread M)} (hn : threads[n]? = some t) {t' : Thread M}
      (hm : At (threads.set n t') Thread.inRead m) (ht' : t'.inRead → t.inRead) :
      At threads Thread.inRead m := by
    rw [at_set hn] at hm
    split_ifs at hm with heq
    · exact heq ▸ (at_iff hn).2 (ht' hm)
    · exact hm
  have hwake {threads : List (Thread M)} {f : Option ℕ} (hm : At (wake threads f) Thread.inRead m) :
      At threads Thread.inRead m := (at_wake fun _ _ t _ => t.inRead_woken).1 hm
  cases t
  case enqueue =>
    cases h
    exact .inl (hwake (hset (notify_getElem? hinv hn rfl) hm nofun))
  case doRead =>
    cases h
    exact .inl (hset hn hm fun _ => rfl)
  case doRecv => cases outcome <;> cases h <;> exact .inl (hset hn hm fun _ => rfl)
  case doReadNotify | doWriteNotify =>
    cases h
    exact .inl (hset hn (hwake hm) nofun)
  case doWrite =>
    cases h
    split_ifs at hm <;> exact .inl (hset hn hm nofun)
  case wait =>
    cases h
    dsimp only [Sys.goto] at hm
    split_ifs at hm <;> exact .inl (hset hn hm nofun)
  case swap | clear =>
    cases h
    exact .inl (hset hn hm nofun)
  case doSend ctxs =>
    cases ctxs with
    | nil =>
      cases h
      exact .inl (hset hn hm nofun)
    | cons ctx ctxs => cases outcome <;> cases h <;> exact .inl (hset hn hm nofun)
  case innerClose closing caller =>
    cases closing with
    | close =>
      cases h
      exact .inl (hset hn hm fun h => by cases caller <;> first | rfl | cases h)
    | notify =>
      cases h
      exact .inl (hwake (hset (notify_getElem? hinv hn rfl) hm fun h => by
        cases caller <;> first | rfl | cases h))
    | clear =>
      cases h
      refine .inl (hset hn hm fun h => ?_)
      cases caller <;> first | rfl | cases h
  case waitFiber second =>
    cases h
    dsimp only [Sys.goto] at hm
    split_ifs at hm
    · exact .inl (hset hn hm fun h => by rwa [Thread.inRead_woken] at h)
    · exact .inl (hset hn hm nofun)
  case isConnected =>
    cases h
    split_ifs at hm <;> exact .inl (hset hn hm nofun)
  case reconnect | connectCb => cases outcome <;> cases h <;> exact .inl (hset hn hm nofun)
  case startRead =>
    cases h
    rcases isAt_concat hm with hm | rfl
    · exact .inl (hset hn hm nofun)
    · exact .inr ⟨rfl, List.length_set⟩
  case startWrite =>
    cases h
    rw [at_append (by simp [Thread.inRead])] at hm
    exact .inl (hset hn hm nofun)
  case startNotify second =>
    cases h
    refine .inl (hset hn (hwake hm) fun h => ?_)
    cases second <;> cases h
  all_goals cases h

theorem inRead_step {l : Label M} (hinv : Inv 2 s) (h : step s l s')
    (hm : At s'.threads Thread.inRead m) : At s.threads Thread.inRead m ∨
      (∃ n : ℕ, s.threads[n]? = some .startRead) ∧ m = s.threads.length := by
  cases l with
  | enqueue ctx =>
    cases h
    refine .inl ((at_append fun t ht => ?_).1 hm)
    split_ifs at ht
    · rw [List.mem_singleton.1 ht]
      rfl
    · cases ht
  | start =>
    cases h
    refine .inl ((at_append fun t ht => ?_).1 hm)
    rw [List.mem_singleton.1 ht]
    rfl
  | close =>
    cases h
    exact .inl hm
  | run n outcome =>
    obtain ⟨t, hn, h⟩ := Option.bind_eq_some_iff.1 h
    exact (inRead_runThread hinv hn h hm).imp_right fun ⟨ht, hm⟩ => ⟨⟨n, ht ▸ hn⟩, hm⟩

/-- A `start` schedules its `doRead` with both permits, and a `doRead` has one as long as it runs. -/
theorem inRead_one {l : Label M} (hinv : Inv 2 s) (hone : One s.threads Thread.inRead)
    (h : step s l s') : One s'.threads Thread.inRead := by
  have hnone (hstart : ∃ n : ℕ, s.threads[n]? = some .startRead) {m : ℕ} :
      ¬At s.threads Thread.inRead m := by
    rintro ⟨t, ht, hread⟩
    obtain ⟨n, hn⟩ := hstart
    have hle := add_le_tally (f := Thread.hold) hn ht fun hmn => by
      subst hmn
      cases Option.some.inj (hn.symm.trans ht)
      cases hread
    have hpermits := hinv.permits
    rw [Thread.hold_of_inRead hread] at hle
    simp only [Thread.hold] at hle
    omega
  intro n m hn hm
  rcases inRead_step hinv h hn with hn | ⟨hstart, hn⟩ <;>
    rcases inRead_step hinv h hm with hm | ⟨hstart', hm⟩
  · exact hone n m hn hm
  · exact absurd hn (hnone hstart')
  · exact absurd hm (hnone hstart)
  · exact hn.trans hm.symm

theorem inWrite_one (hinv : Inv 2 s) : One s.threads Thread.inWrite := by
  rintro n m ⟨t, ht, hwrite⟩ ⟨u, hu, hwrite'⟩
  by_contra hne
  have hle := add_le_tally (f := Thread.leads) ht hu (Ne.symm hne)
  have hwriter := hinv.writer
  rw [Thread.leads_of_inWrite hwrite, Thread.leads_of_inWrite hwrite'] at hle
  omega

/-! ## Two `start`s -/

/-- The threads that have one permit after a notification of `m_waitSem`. -/
theorem half_notifyWait (hinv : Inv 2 s) (hn : s.threads[n]? = some t) {t' : Thread M}
    (ht : t.half = false ∧ t.inWaitSem = false) (ht' : t'.half = false) :
    At (s.goto n t').notifyWait.threads Thread.half m ↔
      if s.m_waitSem.m_waiters.head? = some m then At s.threads Thread.first m
      else At s.threads Thread.half m := by
  have hset : At (s.threads.set n t') Thread.half m ↔ At s.threads Thread.half m :=
    at_set_of_eq hn (ht'.trans ht.1.symm)
  rw [← hset, ← FiberSemaphore.notify_eq_head?]
  show At (wake (s.threads.set n t') s.m_waitSem.notify.2) Thread.half m ↔ _
  rcases hinv.waitSem.notify with ⟨hnone, -⟩ | ⟨f, hsome, hf, -⟩
  · rw [hnone, if_neg nofun]
    rfl
  · rw [hsome, wake, at_modify]
    by_cases hm : m = f
    · subst hm
      obtain ⟨u, hu, hblocked⟩ := hf
      have hne : n ≠ m := by
        rintro rfl
        cases hn.symm.trans hu
        cases ht.2.symm.trans hblocked
      have hu' : (s.threads.set n t')[m]? = some u := by rw [List.getElem?_set_ne hne, hu]
      rw [if_pos rfl, if_pos rfl, at_iff hu', at_iff hu, Thread.half_woken hblocked]
    · rw [if_neg hm, if_neg fun heq => hm (Option.some.inj heq).symm]

theorem half_runThread (hinv : Inv 2 s) (hn : s.threads[n]? = some t) {outcome : Outcome}
    (h : runThread s n outcome t = some s') : At s'.threads Thread.half m ↔
      if s.takes (.run n outcome) = some m then At s.threads Thread.first m
      else At s.threads Thread.half m := by
  have hset {t' : Thread M} (ht' : t'.half = t.half) :
      At (s.threads.set n t') Thread.half m ↔
        if none = some m then At s.threads Thread.first m else At s.threads Thread.half m := by
    rw [if_neg nofun]
    exact at_set_of_eq hn ht'
  have hnotify {t' : Thread M} (ht : t.inSem = false) (ht' : t'.half = t.half) :
      At (s.notify.goto n t').threads Thread.half m ↔
        if none = some m then At s.threads Thread.first m else At s.threads Thread.half m := by
    rw [if_neg nofun]
    exact (at_set_of_eq (notify_getElem? hinv hn ht) ht').trans (at_notify rfl hinv)
  simp only [Sys.takes, hn]
  cases t
  case enqueue =>
    cases h
    exact hnotify rfl rfl
  case doRead | doWrite | isConnected =>
    cases h
    cases s.connected <;> exact hset rfl
  case doRecv | reconnect | connectCb => cases outcome <;> cases h <;> exact hset rfl
  case doReadNotify | doWriteNotify =>
    cases h
    exact half_notifyWait hinv hn ⟨rfl, rfl⟩ rfl
  case wait =>
    cases h
    cases (s.m_sem.wait n).2 <;> exact hset rfl
  case swap | clear =>
    cases h
    exact hset rfl
  case doSend ctxs =>
    cases ctxs with
    | nil =>
      cases h
      exact hset rfl
    | cons ctx ctxs => cases outcome <;> cases h <;> exact hset rfl
  case innerClose closing caller =>
    cases closing with
    | close =>
      cases h
      exact hset rfl
    | notify =>
      cases h
      exact hnotify rfl rfl
    | clear =>
      cases h
      exact hset (by cases caller <;> rfl)
  case waitFiber second =>
    cases h
    by_cases hpos : 0 < s.m_waitSem.m_concurrency
    · rw [FiberSemaphore.wait, if_pos hpos, if_pos hpos]
      refine (at_set hn _).trans ?_
      by_cases hm : m = n
      · rw [if_pos hm, if_pos (congrArg some hm.symm), hm, at_iff hn]
        cases second <;> exact Iff.rfl
      · rw [if_neg hm, if_neg fun h => hm (Option.some.inj h).symm]
    · rw [FiberSemaphore.wait, if_neg hpos, if_neg hpos]
      exact hset rfl
  case startRead | startWrite =>
    cases h
    refine Iff.trans (at_append fun t ht => ?_) (hset rfl)
    rw [List.mem_singleton.1 ht]
    rfl
  case startNotify second =>
    cases h
    exact half_notifyWait hinv hn ⟨rfl, rfl⟩ (by cases second <;> rfl)
  all_goals cases h

/-- **The threads with one permit.** What a step gives a permit has no longer none, or no longer
    one; the others stay as they are. -/
theorem half_step {l : Label M} (hinv : Inv 2 s) (h : step s l s') : At s'.threads Thread.half m ↔
    if s.takes l = some m then At s.threads Thread.first m else At s.threads Thread.half m := by
  cases l with
  | enqueue ctx =>
    cases h
    refine Iff.trans (at_append fun t ht => ?_) (if_neg (c := none = some m) nofun ▸ Iff.rfl)
    cases hq : s.m_queue.isEmpty
    · rw [hq] at ht
      cases ht
    · rw [hq] at ht
      rw [List.mem_singleton.1 ht]
      rfl
  | start =>
    cases h
    refine Iff.trans (at_append fun t ht => ?_) (if_neg (c := none = some m) nofun ▸ Iff.rfl)
    rw [List.mem_singleton.1 ht]
    rfl
  | close =>
    cases h
    exact if_neg (c := none = some m) nofun ▸ Iff.rfl
  | run n outcome =>
    obtain ⟨t, hn, h⟩ := Option.bind_eq_some_iff.1 h
    exact half_runThread hinv hn h

theorem half_one_iff {l : Label M} (hinv : Inv 2 s) (hone : One s.threads Thread.half)
    (h : step s l s') : One s'.threads Thread.half ↔ InTurn s l := by
  constructor
  · intro hone' n hn hfirst m hm
    have hn' : At s'.threads Thread.half n := by rwa [half_step hinv h, if_pos hn]
    have hne : m ≠ n := by
      rintro rfl
      obtain ⟨t, ht, hhalf⟩ := hm
      have hfirst := (at_iff ht).1 hfirst
      cases t
      case waitFiber second | waitingFiber second =>
        cases second
        · cases hhalf
        · cases hfirst
      all_goals cases hhalf
    refine hne (hone' m n ?_ hn')
    rwa [half_step hinv h, if_neg fun heq => hne (Option.some.inj (heq.symm.trans hn))]
  · intro hturn n m hn hm
    rw [half_step hinv h] at hn hm
    split_ifs at hn hm with htakes htakes' htakes'
    · exact Option.some.inj (htakes.symm.trans htakes')
    · exact absurd hm (hturn n htakes hn m)
    · exact absurd hn (hturn m htakes' hm n)
    · exact hone n m hn hm

/-- Of two threads with one permit each, neither is given another, since no thread has one to give. -/
theorem stuck_step {l : Label M} (hinv : Inv 2 s) (hn : At s.threads Thread.half n)
    (hm : At s.threads Thread.half m) (hne : n ≠ m) (h : step s l s') :
    At s'.threads Thread.half n ∧ At s'.threads Thread.half m := by
  have hpermits := hinv.permits
  have hnone : s.takes l = none := by
    cases l with
    | run k outcome =>
      obtain ⟨t, hk, -⟩ := Option.bind_eq_some_iff.1 h
      have hzero (ht : t.half = false) : t.hold = 0 := by
        refine hold_eq_zero hn hm hne (fun _ => Thread.hold_of_half) (by omega) hk ?_ ?_ <;>
          rintro rfl
        · cases ht.symm.trans ((at_iff hk).1 hn)
        · cases ht.symm.trans ((at_iff hk).1 hm)
      simp only [Sys.takes, hk]
      cases t
      case doReadNotify | doWriteNotify => cases hzero rfl
      case startNotify second => cases second <;> cases hzero rfl
      case waitFiber second =>
        obtain ⟨u, hu, hhalf⟩ := hn
        obtain ⟨v, hv, hhalf'⟩ := hm
        have hle := add_le_tally (f := Thread.hold) hu hv (Ne.symm hne)
        rw [Thread.hold_of_half hhalf, Thread.hold_of_half hhalf'] at hle
        exact if_neg (by omega)
      all_goals rfl
    | _ => rfl
  rw [half_step hinv h, half_step hinv h, hnone, if_neg nofun, if_neg nofun]
  exact ⟨hn, hm⟩

/-- **A `start` that waits for the permit of another one that waits for its own** does so for ever,
    and so does the other. -/
theorem stuck_of_run {ls : List (Label M)} (hinv : Inv 2 s) (hn : At s.threads Thread.half n)
    (hm : At s.threads Thread.half m) (hne : n ≠ m) (hr : Run step s ls s') :
    At s'.threads Thread.half n ∧ At s'.threads Thread.half m := by
  have h := hr.invariant
    (P := fun s => Inv 2 s ∧ At s.threads Thread.half n ∧ At s.threads Thread.half m)
    (fun _ _ _ h hstep => ⟨step_inv h.1 hstep, stuck_step h.1 h.2.1 h.2.2 hne hstep⟩) ⟨hinv, hn, hm⟩
  exact h.2

end

/-! ## Runs -/

theorem init_safe (M : Type) (connected : Bool) : Safe (init M connected) where
  doRead _ _ hn := absurd hn not_isAt_nil
  doWrite _ _ hn := absurd hn not_isAt_nil
  start _ _ hn := absurd hn not_isAt_nil

/-- **The states of a run are safe** if and only if in each step a `start` is given its first permit
    only when no other one waits for its second. -/
theorem safe_iff {connected : Bool} {ls : List (Label M)} {s : Sys M}
    (hr : Run step (init M connected) ls s) :
    (∀ ls₁ ls₂ t, ls = ls₁ ++ ls₂ → Run step (init M connected) ls₁ t → Safe t) ↔
      Run (fun s l t => step s l t ∧ InTurn s l) (init M connected) ls s := by
  refine Run.forall_reached_iff (I := Inv 2) (P := Safe) (C := InTurn)
    (fun s l t t' h h' => Option.some.inj (h'.symm.trans h)) (fun s l t h hstep => step_inv h hstep)
    (fun s l t hinv hsafe hstep => ?_) (init_inv M connected) (init_safe M connected) hr
  rw [← half_one_iff hinv hsafe.start hstep]
  exact ⟨fun h => h.start, fun h =>
    ⟨inRead_one hinv hsafe.doRead hstep, inWrite_one (step_inv hinv hstep), h⟩⟩

/-- A `start` that waits for another one, which has both permits. -/
theorem safe_two : Run step (init ℕ true)
    [.start, .run 0 .success, .run 0 .success, .start, .run 1 .success]
    ⟨true, [], ⟨0, []⟩, ⟨0, [1]⟩, [.isConnected, .waitingFiber false], []⟩ ∧ ∀ ls₁ ls₂ t,
      [.start, .run 0 .success, .run 0 .success, .start, .run 1 .success] = ls₁ ++ ls₂ →
        Run step (init ℕ true) ls₁ t → Safe t := by
  have hnone {threads : List (Thread ℕ)} (h : ∀ t ∈ threads, t.half = false) (m : ℕ) :
      ¬At threads Thread.half m := fun ⟨t, ht, hhalf⟩ =>
    absurd (h t (List.mem_of_getElem? ht)) (by rw [hhalf]; nofun)
  have hrun : Run step (init ℕ true)
      [.start, .run 0 .success, .run 0 .success, .start, .run 1 .success]
      ⟨true, [], ⟨0, []⟩, ⟨0, [1]⟩, [.isConnected, .waitingFiber false], []⟩ := .of_foldlM (by rfl)
  refine ⟨hrun, (safe_iff hrun).2 ?_⟩
  refine .cons ⟨rfl, nofun⟩ <| .cons ⟨rfl, fun _ _ _ => hnone (by decide)⟩ <|
    .cons ⟨rfl, fun n hn hfirst => ?_⟩ <| .cons ⟨rfl, nofun⟩ <| .cons ⟨rfl, nofun⟩ <| .nil _
  cases hn
  cases (at_iff rfl).1 hfirst

/-- Two calls of `start` take a permit each. -/
theorem not_safe_start : ¬∀ (M : Type) (connected : Bool) (ls : List (Label M)) (s : Sys M),
    Run step (init M connected) ls s → Safe s := by
  intro h
  have hrun : Run step (init ℕ true)
      [.start, .start, .run 0 .success, .run 1 .success, .run 0 .success, .run 1 .success]
      ⟨true, [], ⟨0, []⟩, ⟨0, [0, 1]⟩, [.waitingFiber true, .waitingFiber true], []⟩ :=
    Run.of_foldlM (by rfl)
  exact absurd ((h _ _ _ _ hrun).start 0 1 ⟨_, rfl, rfl⟩ ⟨_, rfl, rfl⟩) Nat.zero_ne_one

end Ancfl.Writer
