/-
  What `RockStream::request` returns.

  * `Task.Ok`: what an activity has written to its context, by where it is;
  * `owner`: a context is in `m_ctxs`, or one receiving thread or one
    `innerClose` has it; a timeout needs none of these;
  * `consistent_of_undisturbed`: in a run in which no timeout comes between a
    receiving thread and its context, a response comes with its own result and
    an error without one.
-/
import Ancfl.Stream.Requests

namespace Ancfl.Requests

open Lib

variable {R S P : Type} [DecidableEq R]

/-! ## What is to hold, and when -/

/-- `m_result` and `m_response` of the `RockResult`. -/
def Pc.outcome : Pc P → Option (BitVec 32 × Option (RockResponse P))
  | .refused => some (NOT_CONNECT, none)
  | .returned result response => some (result, response)
  | _ => none

/-- A response to the request with its result, or an error with no response. -/
def Consistent (sn : R → BitVec 32) (s : Sys R S P) : Prop :=
  ∀ r result response, (s.pc r).outcome = some (result, response) →
    (∃ rsp, rsp.m_sn = sn r ∧ result = rsp.m_result ∧ response = some rsp) ∨
    (response = none ∧ (result = TIMEOUT ∨ result = IO_ERROR ∨ result = NOT_CONNECT))

/-- A receiving thread that has swapped the scheduler does not find `timed` set, and an `onTimeOut`
    does not swap that of a context that a receiving thread has. -/
def Undisturbed (s : Sys R S P) : Label R S P → Prop
  | .run n =>
    match s.tasks[n]? with
    | some ⟨.doRecv, r, .test _, _⟩ => (s.ctx r).timed = false
    | some ⟨.onTimeOut, r, .compareAndSwap (some scd), _⟩ =>
      (s.ctx r).scheduler = some scd → ∀ k ∈ s.tasks, k.of = .doRecv → k.ctx ≠ r
    | _ => True
  | _ => True

/-! ## Who has a context -/

/-- One if a receiving thread has the context. -/
def Task.recvs (r : R) (k : Task R S P) : ℕ := if k.of = .doRecv ∧ k.ctx = r then 1 else 0

/-- One if an `innerClose` has it. -/
def Task.closes (r : R) (k : Task R S P) : ℕ :=
  (if k.of = .innerClose ∧ k.ctx = r then 1 else 0) + k.rest.count r

/-- One if it is in `m_ctxs`. -/
def Sys.entry (s : Sys R S P) (r : R) : ℕ := (s.m_ctxs.entries.map Sigma.snd).count r

section
variable {s : Sys R S P} {k k' : Task R S P} {r : R}

@[simp] theorem tally_recvs_close (r : R) (rs : List R) :
    tally (Task.recvs r) (Task.close rs : List (Task R S P)) = 0 :=
  tally_eq_zero.2 fun k hk => if_neg fun h => by
    rw [(mem_close hk).1] at h
    cases h.1

@[simp] theorem tally_closes_close (r : R) (rs : List R) :
    tally (Task.closes r) (Task.close rs : List (Task R S P)) = rs.count r := by
  cases rs with
  | nil => rfl
  | cons r' rest =>
    simp only [Task.close, Task.closes, tally_cons, tally_nil, List.count_cons, true_and, beq_iff_eq]
    omega

theorem tally_recvs_runTask [DecidableEq S] (s : Sys R S P) (k : Task R S P) (r : R) :
    tally (Task.recvs r) (runTask s k).2 ≤ k.recvs r := by
  rcases runTask_snd s k with h | ⟨pc, h⟩ <;> rw [h]
  · simp
  · exact le_rfl

theorem tally_closes_runTask [DecidableEq S] (s : Sys R S P) (k : Task R S P) (r : R) :
    tally (Task.closes r) (runTask s k).2 ≤ k.closes r := by
  rcases runTask_snd s k with h | ⟨pc, h⟩ <;> rw [h]
  · rw [tally_closes_close]
    exact Nat.le_add_left _ _
  · exact le_rfl

theorem recvs_of (h : k.of = .doRecv) : k.recvs k.ctx = 1 := if_pos ⟨h, rfl⟩

theorem recvs_eq_zero : k.recvs r = 0 ↔ (k.of = .doRecv → k.ctx ≠ r) := by
  rw [Task.recvs]
  split_ifs with h <;> simp_all

theorem recvs_of_ne_zero (h : k.recvs r ≠ 0) : k.of = .doRecv ∧ r = k.ctx := by
  by_contra hne
  exact h (recvs_eq_zero.2 fun hof hr => hne ⟨hof, hr.symm⟩)

theorem closes_of (h : k.of = .innerClose) : 1 ≤ k.closes k.ctx := by
  rw [Task.closes, if_pos ⟨h, rfl⟩]
  exact Nat.le_add_right _ _

end

/-! ## What an activity has written -/

def Failed (result : BitVec 32) : Prop := result = TIMEOUT ∨ result = IO_ERROR

/-- The response is there with its result. -/
def Answered (sn : BitVec 32) (result : BitVec 32) (response : Option (RockResponse P)) : Prop :=
  ∃ rsp, rsp.m_sn = sn ∧ result = rsp.m_result ∧ response = some rsp

def Settled (sn : BitVec 32) (result : BitVec 32) (response : Option (RockResponse P)) : Prop :=
  Answered sn result response ∨ (response = none ∧ Failed result)

/-- A `doRecv` in its context, of the request `sn`. -/
def At.Recv (sn : BitVec 32) (ctx : Ctx S P) : At S P → Prop
  | .setResult rsp => rsp.m_sn = sn
  | .setResponse rsp => rsp.m_sn = sn ∧ ctx.result = rsp.m_result
  | .setTimed | .setError => False
  | _ => Answered sn ctx.result ctx.response

/-- An `onTimeOut`. -/
def At.TimeOut (ctx : Ctx S P) : At S P → Prop
  | .setTimed => True
  | .load | .compareAndSwap _ => ctx.timed
  | .cancel _ | .test _ => ctx.timed ∧ ctx.response = none
  | .schedule _ => ctx.timed ∧ ctx.response = none ∧ Failed ctx.result
  | _ => False

/-- An `innerClose`. -/
def At.Close (ctx : Ctx S P) : At S P → Prop
  | .setError => True
  | .setResult _ | .setResponse _ | .setTimed => False
  | _ => Failed ctx.result

def Task.Ok (sn : R → BitVec 32) (ctx : Ctx S P) (k : Task R S P) : Prop :=
  match k.of with
  | .doRecv => k.pc.Recv (sn k.ctx) ctx
  | .onTimeOut => k.pc.TimeOut ctx
  | .innerClose => k.pc.Close ctx

section
variable {sn : BitVec 32} {ctx ctx' : Ctx S P} {pc : At S P}

theorem At.Recv.congr (h : pc.Recv sn ctx) (hresult : ctx'.result = ctx.result)
    (hresponse : ctx'.response = ctx.response) : pc.Recv sn ctx' := by
  cases pc <;> simp_all [At.Recv]

theorem At.TimeOut.mono (h : pc.TimeOut ctx) (htimed : ctx.timed → ctx'.timed)
    (hwon : pc.won → ctx'.response = ctx.response ∧
      (ctx'.result = ctx.result ∨ Failed ctx'.result)) : pc.TimeOut ctx' := by
  cases pc <;> simp_all [At.TimeOut, At.won]
  exact hwon.2.elim (fun h' => h' ▸ h.2.2) id

theorem At.TimeOut.response_eq_none (h : pc.TimeOut ctx) (hwon : pc.won) : ctx.response = none := by
  cases pc <;> simp_all [At.TimeOut, At.won]

theorem At.Close.mono (h : pc.Close ctx)
    (hresult : ctx'.result = ctx.result ∨ Failed ctx'.result) : pc.Close ctx' := by
  have hfailed (h : Failed ctx.result) : Failed ctx'.result := hresult.elim (fun h' => h' ▸ h) id
  cases pc <;> first | exact h | exact hfailed h

theorem Settled.mono {result result' : BitVec 32} {response : Option (RockResponse P)}
    (h : Settled sn result response)
    (hresult : result' = result ∨ (Failed result' ∧ response = none)) :
    Settled sn result' response := by
  rcases hresult with rfl | ⟨hfailed, hnone⟩
  · exact h
  · exact .inr ⟨hnone, hfailed⟩

end

omit [DecidableEq R] in
theorem ok_close {rs : List R} {k : Task R S P} {sn : R → BitVec 32} {ctx : Ctx S P}
    (h : k ∈ Task.close rs) : k.Ok sn ctx := by
  obtain ⟨hof, hpc, -⟩ := mem_close h
  rw [Task.Ok, hof, hpc]
  trivial

omit [DecidableEq R] in
theorem ok_timer {k : Task R S P} {sn : R → BitVec 32} {ctx : Ctx S P} {timer : Bool} :
    k.Ok sn { ctx with timer := timer } ↔ k.Ok sn ctx := by
  unfold Task.Ok
  cases k.of <;> cases k.pc <;> rfl

section
variable [DecidableEq S] {s : Sys R S P} {k k' : Task R S P} {r : R} {sn : R → BitVec 32}

theorem runTask_timed (h : (s.ctx r).timed) : ((runTask s k).1.ctx r).timed := by
  by_cases hr : r = k.ctx
  · subst hr
    unfold runTask
    cases k.pc <;> simp only [] <;> (repeat' split) <;> simp [Sys.setCtx, h]
  · rwa [(runTask_of_ne hr).1]

/-- Only a receiving thread writes the response, and what else is written are errors. -/
theorem Task.Ok.keeps (hok : k.Ok sn (s.ctx k.ctx)) (hr : k.recvs r = 0) :
    ((runTask s k).1.ctx r).response = (s.ctx r).response ∧
    (((runTask s k).1.ctx r).result = (s.ctx r).result ∨
      (Failed ((runTask s k).1.ctx r).result ∧ r = k.ctx ∧
        (k.of = .innerClose ∨ (k.of = .onTimeOut ∧ k.pc.won)))) := by
  by_cases hctx : r = k.ctx
  · subst hctx
    have hof : k.of ≠ .doRecv := fun h => recvs_eq_zero.1 hr h rfl
    unfold runTask
    cases hk : k.of
    case doRecv => exact absurd hk hof
    all_goals
      rw [Task.Ok, hk] at hok
      cases hpc : k.pc <;> rw [hpc] at hok <;> simp only [] <;> (repeat' split) <;>
        simp_all [Sys.setCtx, At.TimeOut, At.Close, At.won, Failed]
  · rw [(runTask_of_ne hctx).1]
    exact ⟨rfl, .inl rfl⟩

/-- The next step of an activity finds what it relies on. -/
theorem Task.Ok.run (hok : k.Ok sn (s.ctx k.ctx))
    (htest : k.of = .doRecv → ∀ scd, k.pc = .test scd → (s.ctx k.ctx).timed = false)
    (hswap : k.of = .onTimeOut → ∀ scd, k.pc = .compareAndSwap (some scd) →
      (s.ctx k.ctx).scheduler = some scd → (s.ctx k.ctx).response = none)
    (hk' : k' ∈ (runTask s k).2) : k'.Ok sn ((runTask s k).1.ctx k'.ctx) := by
  by_cases hclose : k' ∈ Task.close k.rest
  · exact ok_close hclose
  · revert hk'
    obtain ⟨of, r, pc, rest⟩ := k
    unfold runTask
    cases pc with
    | compareAndSwap scd =>
      simp only []
      split
      · exact fun h => absurd h hclose
      · rename_i heq
        cases scd with
        | none => exact fun h => absurd h hclose
        | some scd =>
          simp only []
          split
          · cases of <;>
              simp_all [Task.Ok, At.Recv, At.TimeOut, At.Close, Sys.setCtx, Answered, Failed]
          · exact fun h => absurd h hclose
    | schedule scd => exact fun h => absurd h hclose
    | cancel scd =>
      cases of <;> simp only [] <;> split <;>
        simp_all [Task.Ok, At.Recv, At.TimeOut, At.Close, Sys.setCtx, Answered, Failed]
    | test scd =>
      cases of <;> simp only [] <;> split <;>
        simp_all [Task.Ok, At.Recv, At.TimeOut, At.Close, Sys.setCtx, Answered, Failed]
    | _ =>
      cases of <;>
        simp_all [Task.Ok, At.Recv, At.TimeOut, At.Close, Sys.setCtx, Answered, Failed]

end

/-! ## Runs -/

section
variable {s s' : Sys R S P} {k k' : Task R S P} {r : R}

/-- `result` and `response` at the points of the fiber from which they are there. -/
def Pc.Settled (sn : BitVec 32) (s : Sys R S P) (r : R) : Pc P → Prop
  | .readResult => 0 < s.scheduled r
  | .readResponse result => 0 < s.scheduled r ∧ Requests.Settled sn result (s.ctx r).response
  | .returned result response => Requests.Settled sn result response
  | _ => True

/-- Contexts in runs that are not disturbed. -/
structure Fine (sn : R → BitVec 32) (s : Sys R S P) : Prop where
  inv : Inv s
  keyed : ∀ e ∈ s.m_ctxs.entries, e.1 = sn e.2
  owner : ∀ r, s.entry r + tally (Task.recvs r) s.tasks + tally (Task.closes r) s.tasks ≤ 1
  unanswered : ∀ r, (s.ctx r).response ≠ none →
    (s.pc r).Added ∧ s.entry r = 0 ∧ tally (Task.closes r) s.tasks = 0
  received : ∀ r, (s.ctx r).response ≠ none → (s.ctx r).scheduler ≠ none →
    0 < tally (Task.recvs r) s.tasks
  ok : ∀ k ∈ s.tasks, k.Ok sn (s.ctx k.ctx)
  erased : ∀ k ∈ s.tasks, k.of = .onTimeOut → s.entry k.ctx = 0
  alone : ∀ k ∈ s.tasks, k.of = .onTimeOut → k.pc.won → tally (Task.recvs k.ctx) s.tasks = 0
  scheduled : ∀ r, 0 < s.scheduled r → (s.pc r).Added ∧ s.entry r = 0 ∧
    tally (Task.recvs r) s.tasks = 0 ∧ Settled (sn r) (s.ctx r).result (s.ctx r).response
  fibers : ∀ r, (s.pc r).Settled (sn r) s r

variable {sn : R → BitVec 32}

omit [DecidableEq R] in
theorem Pc.Settled.mono {pc : Pc P} {sn : BitVec 32} (h : pc.Settled sn s r)
    (hs : 0 < s.scheduled r → 0 < s'.scheduled r ∧ (s'.ctx r).response = (s.ctx r).response) :
    pc.Settled sn s' r := by
  cases pc with
  | readResult => exact (hs h).1
  | readResponse result => exact ⟨(hs h.1).1, (hs h.1).2 ▸ h.2⟩
  | _ => exact h

theorem init_fine (sn : R → BitVec 32) : Fine sn (init R S P) where
  inv := init_inv R S P
  keyed _ he := nomatch he
  owner _ := Nat.zero_le _
  unanswered _ h := absurd rfl h
  received _ h := absurd rfl h
  ok _ hk := nomatch hk
  erased _ hk := nomatch hk
  alone _ hk := nomatch hk
  scheduled _ h := absurd h (lt_irrefl 0)
  fibers _ := trivial

/-- An `innerClose` has no response in its context, an `onTimeOut` that has won neither. -/
theorem Fine.response_eq_none (hf : Fine sn s) (hk : k ∈ s.tasks)
    (h : k.of = .innerClose ∨ (k.of = .onTimeOut ∧ k.pc.won)) :
    (s.ctx k.ctx).response = none := by
  rcases h with h | ⟨h, hwon⟩
  · by_contra hne
    have hclose := (le_tally hk).trans_eq (hf.unanswered k.ctx hne).2.2
    exact absurd (closes_of h) (by omega)
  · have hok := hf.ok k hk
    rw [Task.Ok, h] at hok
    exact hok.response_eq_none hwon

/-- New activities, each at a context that it takes out of `m_ctxs` or has no need of. -/
theorem Fine.spawn (hf : Fine sn s) {m_ctxs : AList fun _ : BitVec 32 => R} {timers : R → Timer}
    (ks : List (Task R S P)) (hs' : s' = { s with
      m_ctxs := m_ctxs
      timers := timers
      tasks := s.tasks ++ ks }) (hinv : Inv s')
    (hsub : ∀ e ∈ m_ctxs.entries, e ∈ s.m_ctxs.entries)
    (hcount : ∀ r, s'.entry r + tally (Task.recvs r) ks + tally (Task.closes r) ks ≤ s.entry r)
    (hok : ∀ k ∈ ks, k.Ok sn (s.ctx k.ctx) ∧ k.pc.won = false)
    (herased : ∀ k ∈ ks, k.of = .onTimeOut → s'.entry k.ctx = 0) : Fine sn s' := by
  subst hs'
  constructor
  · exact hinv
  · exact fun e he => hf.keyed e (hsub e he)
  · intro r
    have howner := hf.owner r
    have hc := hcount r
    simp only [tally_append]
    omega
  · intro r hne
    obtain ⟨h1, h2, h3⟩ := hf.unanswered r hne
    have hc := hcount r
    simp only [tally_append]
    exact ⟨h1, by omega, by omega⟩
  · intro r hne hscd
    rw [tally_append]
    exact Nat.add_pos_left (hf.received r hne hscd) _
  · exact fun k hk => (List.mem_append.1 hk).elim (hf.ok k) fun hk => (hok k hk).1
  · intro k hk hof
    rcases List.mem_append.1 hk with hk | hk
    · have hc := hcount k.ctx
      have h := hf.erased k hk hof
      omega
    · exact herased k hk hof
  · intro k hk hof hwon
    rcases List.mem_append.1 hk with hk | hk
    · have hc := hcount k.ctx
      have h := hf.erased k hk hof
      rw [tally_append, hf.alone k hk hof hwon]
      omega
    · rw [(hok k hk).2] at hwon
      cases hwon
  · intro r hpos
    obtain ⟨h1, h2, h3, hsettled⟩ := hf.scheduled r hpos
    have hc := hcount r
    simp only [tally_append]
    exact ⟨h1, by omega, by omega, hsettled⟩
  · exact fun r => (hf.fibers r).mono fun hpos => ⟨hpos, rfl⟩

/-- Nothing has the context of a request that was not added. -/
theorem untouched (hinv : Inv s) (hr : ¬(s.pc r).Added) : s.entry r = 0 ∧
    tally (Task.recvs r) s.tasks = 0 ∧ tally (Task.closes r) s.tasks = 0 ∧
    ∀ k ∈ s.tasks, k.ctx ≠ r := by
  have htasks (k : Task R S P) (hk : k ∈ s.tasks) : r ∉ k.ctx :: k.rest :=
    fun h => hr (hinv.tasks k hk r h)
  have hne (k : Task R S P) (hk : k ∈ s.tasks) : k.ctx ≠ r :=
    fun h => htasks k hk (h ▸ List.mem_cons_self)
  refine ⟨List.count_eq_zero.2 fun h => ?_, tally_eq_zero.2 fun k hk => ?_,
    tally_eq_zero.2 fun k hk => ?_, hne⟩
  · obtain ⟨e, he, rfl⟩ := List.mem_map.1 h
    exact hr (hinv.entries e he)
  · exact recvs_eq_zero.2 fun _ => hne k hk
  · rw [Task.closes, if_neg fun h => hne k hk h.2,
      List.count_eq_zero.2 fun h => htasks k hk (List.mem_cons_of_mem _ h)]

/-- The fiber of a request that was not added goes on; nothing has its context. -/
theorem Fine.begin (hf : Fine sn s) (hr : ¬(s.pc r).Added)
    {m_ctxs : AList fun _ : BitVec 32 => R} (ctx : Ctx S P) (pc : Pc P) (hs' : s' = { s with
      m_ctxs := m_ctxs
      ctx := Function.update s.ctx r ctx
      pc := Function.update s.pc r pc }) (hinv : Inv s')
    (hsub : ∀ e ∈ m_ctxs.entries, e ∈ s.m_ctxs.entries ∨ e = ⟨sn r, r⟩)
    (hcount : ∀ r', s'.entry r' ≤ s.entry r' + if r = r' then 1 else 0)
    (hctx : ctx.response = none) (hpc : pc.Settled (sn r) s' r) : Fine sn s' := by
  obtain ⟨hentry, hrecvs, hcloses, hne⟩ := untouched hf.inv hr
  have hother {r' : R} (h : r' ≠ r) : s'.ctx r' = s.ctx r' ∧ s'.pc r' = s.pc r' ∧
      s'.entry r' ≤ s.entry r' := by
    have hc := hcount r'
    rw [if_neg fun hr => h hr.symm] at hc
    subst hs'
    exact ⟨Function.update_of_ne h _ _, Function.update_of_ne h _ _, hc⟩
  have hself : (s'.ctx r).response = none := by
    rw [hs']
    dsimp only
    rwa [Function.update_self]
  have hsame : s'.tasks = s.tasks ∧ s'.scheduled = s.scheduled := by rw [hs']; exact ⟨rfl, rfl⟩
  constructor
  · exact hinv
  · subst hs'
    intro e he
    rcases hsub e he with h | rfl
    · exact hf.keyed e h
    · rfl
  · intro r'
    have howner := hf.owner r'
    have hc := hcount r'
    rw [hsame.1]
    split_ifs at hc with h
    · subst h
      omega
    · omega
  · intro r' hne'
    have h : r' ≠ r := fun h => hne' (h ▸ hself)
    obtain ⟨h1, h2, h3⟩ := hother h
    rw [h1] at hne'
    obtain ⟨h4, h5, h6⟩ := hf.unanswered r' hne'
    rw [h2, hsame.1]
    exact ⟨h4, by omega, h6⟩
  · intro r' hne' hscd
    have h : r' ≠ r := fun h => hne' (h ▸ hself)
    rw [(hother h).1] at hne' hscd
    rw [hsame.1]
    exact hf.received r' hne' hscd
  · intro k hk
    rw [hsame.1] at hk
    rw [(hother (hne k hk)).1]
    exact hf.ok k hk
  · intro k hk hof
    rw [hsame.1] at hk
    exact Nat.le_zero.1 ((hother (hne k hk)).2.2.trans_eq (hf.erased k hk hof))
  · intro k hk hof hwon
    rw [hsame.1] at hk ⊢
    exact hf.alone k hk hof hwon
  · intro r' hpos
    rw [hsame.2] at hpos
    obtain ⟨h1, h2, h3, hsettled⟩ := hf.scheduled r' hpos
    have hne' : r' ≠ r := fun h => hr (h ▸ h1)
    obtain ⟨h4, h5, h6⟩ := hother hne'
    rw [hsame.1, h4, h5]
    exact ⟨h1, by omega, h3, hsettled⟩
  · intro r'
    by_cases h : r' = r
    · subst h
      rw [hs'] at hpc ⊢
      dsimp only
      rwa [Function.update_self]
    · obtain ⟨h1, h2, -⟩ := hother h
      rw [h2]
      exact (hf.fibers r').mono fun hpos => ⟨hsame.2 ▸ hpos, by rw [h1]⟩

/-- The fiber of a request whose context was added goes on. -/
theorem Fine.goto (hf : Fine sn s) {ctx : R → Ctx S P} {timers : R → Timer} {pc : Pc P}
    (hs' : s' = { s with ctx := ctx, timers := timers, pc := Function.update s.pc r pc })
    (hinv : Inv s') (hctx : ∀ r, ∃ timer, ctx r = { s.ctx r with timer := timer })
    (hadded : pc.Added) (hpc : pc.Settled (sn r) s r) : Fine sn s' := by
  have hadded' (r' : R) (h : (s.pc r').Added) : (Function.update s.pc r pc r').Added := by
    by_cases hr : r' = r
    · rwa [hr, Function.update_self]
    · rwa [Function.update_of_ne hr]
  have hsame (r : R) : (ctx r).response = (s.ctx r).response ∧ (ctx r).result = (s.ctx r).result ∧
      (ctx r).scheduler = (s.ctx r).scheduler ∧ (ctx r).timed = (s.ctx r).timed := by
    obtain ⟨timer, h⟩ := hctx r
    rw [h]
    exact ⟨rfl, rfl, rfl, rfl⟩
  subst hs'
  constructor
  · exact hinv
  · exact hf.keyed
  · exact hf.owner
  · intro r' hne
    obtain ⟨h1, h2⟩ := hf.unanswered r' ((hsame r').1 ▸ hne)
    exact ⟨hadded' r' h1, h2⟩
  · intro r' hne hscd
    exact hf.received r' ((hsame r').1 ▸ hne) ((hsame r').2.2.1 ▸ hscd)
  · intro k hk
    obtain ⟨timer, h⟩ := hctx k.ctx
    dsimp only
    rw [h]
    exact ok_timer.2 (hf.ok k hk)
  · exact hf.erased
  · exact hf.alone
  · intro r' hpos
    obtain ⟨h1, h2, h3, hsettled⟩ := hf.scheduled r' hpos
    dsimp only
    rw [(hsame r').1, (hsame r').2.1]
    exact ⟨hadded' r' h1, h2, h3, hsettled⟩
  · intro r'
    have hmono {pc : Pc P} (h : pc.Settled (sn r') s r') : pc.Settled (sn r') { s with
        ctx := ctx, timers := timers, pc := Function.update s.pc r pc } r' :=
      h.mono fun hpos => ⟨hpos, (hsame r').1⟩
    by_cases h : r' = r
    · subst h
      dsimp only
      rw [Function.update_self]
      exact hmono hpc
    · dsimp only
      rw [Function.update_of_ne h]
      exact hmono (hf.fibers r')

/-- An activity that is about to schedule the fiber. -/
theorem Fine.settled_of_schedule (hf : Fine sn s) (hk : k ∈ s.tasks) {scd : S}
    (hpc : k.pc = .schedule scd) :
    s.entry k.ctx = 0 ∧ tally (Task.recvs k.ctx) s.tasks ≤ k.recvs k.ctx ∧
      Settled (sn k.ctx) (s.ctx k.ctx).result (s.ctx k.ctx).response := by
  have howner := hf.owner k.ctx
  have hok := hf.ok k hk
  cases hof : k.of with
  | doRecv =>
    have hrecv := recvs_of hof
    have hle := le_tally (f := Task.recvs k.ctx) hk
    rw [Task.Ok, hof, hpc] at hok
    exact ⟨by omega, by omega, .inl hok⟩
  | onTimeOut =>
    rw [Task.Ok, hof, hpc] at hok
    have halone := hf.alone k hk hof (by rw [hpc]; rfl)
    exact ⟨hf.erased k hk hof, by omega, .inr hok.2⟩
  | innerClose =>
    have hclose := (closes_of hof).trans (le_tally hk)
    rw [Task.Ok, hof, hpc] at hok
    exact ⟨by omega, by omega, .inr ⟨hf.response_eq_none hk (.inl hof), hok⟩⟩

theorem Undisturbed.of_run {n : ℕ} (h : Undisturbed s (.run n)) (hk : s.tasks[n]? = some k) :
    (k.of = .doRecv → ∀ scd, k.pc = .test scd → (s.ctx k.ctx).timed = false) ∧
    (k.of = .onTimeOut → ∀ scd, k.pc = .compareAndSwap (some scd) →
      (s.ctx k.ctx).scheduler = some scd → tally (Task.recvs k.ctx) s.tasks = 0) := by
  obtain ⟨of, r, pc, rest⟩ := k
  simp only [Undisturbed, hk] at h
  constructor
  · rintro rfl scd rfl
    exact h
  · rintro rfl scd rfl hscd
    exact tally_eq_zero.2 fun k' hk' => recvs_eq_zero.2 (h hscd k' hk')

theorem count_insert (m_ctxs : AList fun _ : BitVec 32 => R) (r' : R) :
    ((insert sn m_ctxs r).entries.map Sigma.snd).count r' ≤
      (m_ctxs.entries.map Sigma.snd).count r' + if r = r' then 1 else 0 := by
  unfold insert
  split
  · exact Nat.le_add_right _ _
  · rw [AList.entries_insert_of_notMem ‹_›, List.map_cons, List.count_cons]
    simp

theorem fiberStep_fine (hf : Fine sn s) (h : fiberStep sn s r = some s') : Fine sn s' := by
  have hinv := fiberStep_inv hf.inv h
  have hsame (r : R) : ∃ timer, s.ctx r = { s.ctx r with timer := timer } := ⟨_, rfl⟩
  have hfiber := hf.fibers r
  unfold fiberStep at h
  cases hpc : s.pc r <;> simp only [hpc] at h hfiber
  case addCtx =>
    cases h
    have hadded : ¬(s.pc r).Added := by
      rw [hpc]
      exact id
    refine hf.begin hadded (s.ctx r) .addTimer (by rw [Function.update_eq_self]; rfl) hinv
      (fun e he => (mem_insert he).symm) (count_insert s.m_ctxs) ?_ trivial
    by_contra hne
    exact hadded (hf.unanswered r hne).1
  case setTimer =>
    cases h
    refine hf.goto rfl hinv (fun r' => ?_) trivial trivial
    dsimp only [Sys.goto, Sys.setCtx]
    by_cases hr : r' = r
    · rw [hr, Function.update_self]
      exact ⟨true, rfl⟩
    · rw [Function.update_of_ne hr]
      exact hsame r'
  case suspended =>
    split at h
    · rename_i hpos
      cases h
      exact hf.goto rfl hinv hsame trivial hpos
    · cases h
  case readResult =>
    cases h
    exact hf.goto rfl hinv hsame trivial ⟨hfiber, (hf.scheduled r hfiber).2.2.2⟩
  case readResponse result =>
    cases h
    exact hf.goto rfl hinv hsame trivial hfiber.2
  case start => cases h
  case refused => cases h
  case returned => cases h
  all_goals
    cases h
    exact hf.goto rfl hinv hsame trivial trivial

/-- An entry that is erased. -/
theorem count_erase {m_ctxs : AList fun _ : BitVec 32 => R} {a : BitVec 32}
    (h : m_ctxs.lookup a = some r) (r' : R) :
    ((m_ctxs.erase a).entries.map Sigma.snd).count r' + (if r = r' then 1 else 0) =
      (m_ctxs.entries.map Sigma.snd).count r' := by
  have hmem : ⟨a, r⟩ ∈ m_ctxs.entries := AList.mem_lookup_iff.1 h
  obtain ⟨r₁, l₁, l₂, -, hl, herase⟩ := List.exists_of_kerase (List.mem_keys_of_mem hmem)
  have hr : r₁ = r := by
    have hmem₁ : ⟨a, r₁⟩ ∈ m_ctxs.entries := hl ▸ List.mem_append_right _ List.mem_cons_self
    exact Option.some.inj ((AList.mem_lookup_iff.2 hmem₁).symm.trans h)
  change ((List.kerase a m_ctxs.entries).map Sigma.snd).count r' + _ = _
  rw [herase, hl, hr]
  simp only [List.map_append, List.map_cons, List.count_append, List.count_cons, beq_iff_eq]
  omega

section
variable [DecidableEq S] {n : ℕ}

theorem Fine.keeps (hf : Fine sn s) (hk : k ∈ s.tasks) (hr : k.recvs r = 0) :
    ((runTask s k).1.ctx r).response = (s.ctx r).response ∧
    (((runTask s k).1.ctx r).result = (s.ctx r).result ∨
      (Failed ((runTask s k).1.ctx r).result ∧ (s.ctx r).response = none)) := by
  obtain ⟨hresponse, hresult⟩ := (hf.ok k hk).keeps hr
  refine ⟨hresponse, hresult.imp_right fun ⟨hfailed, hctx, h⟩ => ⟨hfailed, ?_⟩⟩
  rw [hctx]
  exact hf.response_eq_none hk h

/-- The other activities find their context as they need it. -/
theorem Fine.ok_other (hf : Fine sn s) (hk : s.tasks[n]? = some k) (hk' : k' ∈ s.tasks.eraseIdx n) :
    k'.Ok sn ((runTask s k).1.ctx k'.ctx) := by
  have hmem : k ∈ s.tasks := List.mem_of_getElem? hk
  have hmem' : k' ∈ s.tasks := (mem_iff_of_getElem? hk).2 (.inr hk')
  have hok := hf.ok k' hmem'
  have howner := hf.owner k'.ctx
  rw [← tally_eraseIdx (Task.recvs k'.ctx) hk, ← tally_eraseIdx (Task.closes k'.ctx) hk] at howner
  unfold Task.Ok at hok ⊢
  cases hof : k'.of with
  | doRecv =>
    rw [hof] at hok
    have hrecv := (recvs_of hof).ge.trans (le_tally hk')
    have hr : k.recvs k'.ctx = 0 := by omega
    obtain ⟨hresponse, hresult⟩ := (hf.ok k hmem).keeps hr
    refine hok.congr (hresult.resolve_right fun ⟨_, hctx, h⟩ => ?_) hresponse
    rcases h with h | ⟨h, hwon⟩
    · have hclose := closes_of h
      rw [← hctx] at hclose
      omega
    · have halone := hf.alone k hmem h hwon
      rw [← hctx, ← tally_eraseIdx _ hk] at halone
      omega
  | onTimeOut =>
    rw [hof] at hok
    refine hok.mono runTask_timed fun hwon => ?_
    have halone := hf.alone k' hmem' hof hwon
    rw [← tally_eraseIdx _ hk] at halone
    obtain ⟨hresponse, hresult⟩ := hf.keeps hmem (r := k'.ctx) (by omega)
    exact ⟨hresponse, hresult.imp_right And.left⟩
  | innerClose =>
    rw [hof] at hok
    have hclose := (closes_of hof).trans (le_tally hk')
    exact hok.mono ((hf.keeps hmem (by omega)).2.imp_right And.left)

theorem runTask_won (hk' : k' ∈ (runTask s k).2) (hwon : k'.pc.won) :
    k.pc.won ∨ ∃ scd, k.pc = .compareAndSwap (some scd) ∧ (s.ctx k.ctx).scheduler = some scd := by
  have hclose : k' ∉ Task.close k.rest := fun h => by
    rw [(mem_close h).2.1] at hwon
    cases hwon
  cases hpc : k.pc
  case compareAndSwap scd =>
    simp only [runTask, hpc] at hk'
    split at hk'
    · exact absurd hk' hclose
    · rename_i heq
      cases scd with
      | none => exact absurd hk' hclose
      | some scd => exact .inr ⟨scd, rfl, not_not.1 heq⟩
  case cancel => exact .inl rfl
  case test => exact .inl rfl
  case schedule => exact .inl rfl
  all_goals
    simp only [runTask, hpc] at hk'
    rw [List.mem_singleton.1 hk'] at hwon
    cases hwon

theorem runTask_scheduled (s : Sys R S P) (k : Task R S P) (r : R) :
    (runTask s k).1.scheduled r = s.scheduled r ∨
      (r = k.ctx ∧ (∃ scd, k.pc = .schedule scd) ∧ (runTask s k).2 = Task.close k.rest ∧
        ((runTask s k).1.ctx r).result = (s.ctx r).result ∧
        ((runTask s k).1.ctx r).response = (s.ctx r).response) := by
  by_cases hr : r = k.ctx
  · subst hr
    cases hpc : k.pc
    case schedule => exact .inr ⟨rfl, ⟨_, rfl⟩, by simp [runTask, hpc, Sys.setCtx]⟩
    all_goals
      refine .inl ?_
      simp only [runTask, hpc]
      repeat' split
      all_goals rfl
  · exact .inl (runTask_of_ne hr).2.1

theorem tally_recvs_run (hk : s.tasks[n]? = some k) (r : R) :
    tally (Task.recvs r) (s.tasks.eraseIdx n ++ (runTask s k).2) ≤ tally (Task.recvs r) s.tasks := by
  rw [tally_append, ← tally_eraseIdx _ hk, Nat.add_comm]
  exact Nat.add_le_add_right (tally_recvs_runTask s k r) _

theorem tally_closes_run (hk : s.tasks[n]? = some k) (r : R) :
    tally (Task.closes r) (s.tasks.eraseIdx n ++ (runTask s k).2) ≤
      tally (Task.closes r) s.tasks := by
  rw [tally_append, ← tally_eraseIdx _ hk, Nat.add_comm]
  exact Nat.add_le_add_right (tally_closes_runTask s k r) _

/-- A receiving thread that has written the response goes on as long as the scheduler is there. -/
theorem Fine.received_run (hf : Fine sn s) (hk : s.tasks[n]? = some k)
    (hne : ((runTask s k).1.ctx r).response ≠ none)
    (hscd : ((runTask s k).1.ctx r).scheduler ≠ none) :
    0 < tally (Task.recvs r) (s.tasks.eraseIdx n ++ (runTask s k).2) := by
  have hmem : k ∈ s.tasks := List.mem_of_getElem? hk
  have hold : (s.ctx r).scheduler ≠ none :=
    (runTask_scheduler s k r).elim (fun h => absurd h hscd) fun h => h ▸ hscd
  rw [tally_append]
  by_cases hr : k.recvs r = 0
  · have hpos := hf.received r ((hf.keeps hmem hr).1 ▸ hne) hold
    rw [← tally_eraseIdx _ hk] at hpos
    omega
  · obtain ⟨hof, rfl⟩ := recvs_of_ne_zero hr
    have hwon : k.pc.won = false := by
      have hwins := hf.inv.wins_eq_zero hold k hmem
      simpa [Task.wins] using hwins
    obtain ⟨k₁, hk₁, hof₁, hctx₁, -⟩ := runTask_waits hwon (hf.inv.swaps k hmem) hscd
    have hrecv := recvs_of (hof₁.trans hof)
    rw [hctx₁] at hrecv
    have hle := le_tally (f := Task.recvs k.ctx) hk₁
    omega

/-- A fiber that is scheduled has its outcome. -/
theorem Fine.scheduled_run (hf : Fine sn s) (hk : s.tasks[n]? = some k)
    (hpos : 0 < (runTask s k).1.scheduled r) : (s.pc r).Added ∧ s.entry r = 0 ∧
      tally (Task.recvs r) (s.tasks.eraseIdx n ++ (runTask s k).2) = 0 ∧
      Settled (sn r) ((runTask s k).1.ctx r).result ((runTask s k).1.ctx r).response := by
  have hmem : k ∈ s.tasks := List.mem_of_getElem? hk
  rcases runTask_scheduled s k r with h | ⟨rfl, ⟨scd, hpc⟩, hks, hresult, hresponse⟩
  · obtain ⟨h1, h2, h3, hsettled⟩ := hf.scheduled r (h ▸ hpos)
    have hr : k.recvs r = 0 := Nat.le_zero.1 ((le_tally hmem).trans_eq h3)
    obtain ⟨hresponse, hresult⟩ := hf.keeps hmem hr
    exact ⟨h1, h2, Nat.le_zero.1 ((tally_recvs_run hk r).trans_eq h3),
      hresponse ▸ hsettled.mono hresult⟩
  · obtain ⟨h1, h2, hsettled⟩ := hf.settled_of_schedule hmem hpc
    rw [← tally_eraseIdx _ hk] at h2
    refine ⟨hf.inv.tasks k hmem k.ctx List.mem_cons_self, h1, ?_, hresult ▸ hresponse ▸ hsettled⟩
    rw [tally_append, hks, tally_recvs_close]
    omega

/-- **The steps of the activities.** -/
theorem run_fine (hf : Fine sn s) (hk : s.tasks[n]? = some k) (hund : Undisturbed s (.run n)) :
    Fine sn { (runTask s k).1 with tasks := s.tasks.eraseIdx n ++ (runTask s k).2 } := by
  have hmem : k ∈ s.tasks := List.mem_of_getElem? hk
  obtain ⟨htest, hswap⟩ := hund.of_run hk
  have hrecvs := tally_recvs_run hk
  have hcloses := tally_closes_run hk
  have hentry (r : R) : Sys.entry { (runTask s k).1 with
      tasks := s.tasks.eraseIdx n ++ (runTask s k).2 } r = s.entry r := by
    simp only [Sys.entry, runTask_m_ctxs]
  constructor
  · exact run_inv hf.inv hk
  · simpa using hf.keyed
  · intro r
    have howner := hf.owner r
    have h1 := hrecvs r
    have h2 := hcloses r
    rw [hentry]
    dsimp only
    omega
  · intro r hne
    rw [runTask_pc, hentry]
    by_cases hr : k.recvs r = 0
    · obtain ⟨h1, h2, h3⟩ := hf.unanswered r ((hf.keeps hmem hr).1 ▸ hne)
      exact ⟨h1, h2, Nat.le_zero.1 ((hcloses r).trans_eq h3)⟩
    · have howner := hf.owner r
      have hle := le_tally (f := Task.recvs r) hmem
      have h2 := hcloses r
      have hadded := hf.inv.tasks k hmem k.ctx List.mem_cons_self
      dsimp only
      exact ⟨(recvs_of_ne_zero hr).2 ▸ hadded, by omega, by omega⟩
  · exact fun r hne hscd => hf.received_run hk hne hscd
  · intro k' hk'
    rcases List.mem_append.1 hk' with hk' | hk'
    · exact hf.ok_other hk hk'
    · refine (hf.ok k hmem).run htest (fun hof scd hpc hscd => ?_) hk'
      by_contra hne
      have hrecv := hf.received k.ctx hne (hscd ▸ nofun)
      exact hrecv.ne' (hswap hof scd hpc hscd)
  · intro k' hk' hof
    rw [hentry]
    rcases List.mem_append.1 hk' with hk' | hk'
    · exact hf.erased k' ((mem_iff_of_getElem? hk).2 (.inr hk')) hof
    · rcases mem_runTask hk' with ⟨hof', hctx', -⟩ | hk'
      · exact hctx' ▸ hf.erased k hmem (hof' ▸ hof)
      · cases (mem_close hk').1.symm.trans hof
  · intro k' hk' hof hwon
    refine Nat.le_zero.1 ((hrecvs k'.ctx).trans_eq ?_)
    rcases List.mem_append.1 hk' with hk' | hk'
    · exact hf.alone k' ((mem_iff_of_getElem? hk).2 (.inr hk')) hof hwon
    · rcases mem_runTask hk' with ⟨hof', hctx', -⟩ | hclose
      · rw [hctx']
        rcases runTask_won hk' hwon with hwon | ⟨scd, hpc, hscd⟩
        · exact hf.alone k hmem (hof' ▸ hof) hwon
        · exact hswap (hof' ▸ hof) scd hpc hscd
      · cases (mem_close hclose).1.symm.trans hof
  · intro r hpos
    rw [runTask_pc, hentry]
    exact hf.scheduled_run hk hpos
  · intro r
    rw [runTask_pc]
    refine (hf.fibers r).mono fun hpos => ?_
    have hr : k.recvs r = 0 := Nat.le_zero.1 ((le_tally hmem).trans_eq (hf.scheduled r hpos).2.2.1)
    exact ⟨Nat.pos_of_ne_zero fun h => hpos.ne' (runTask_fiber h).2, (hf.keeps hmem hr).1⟩

theorem step_fine {l : Label R S P} (hf : Fine sn s) (hund : Undisturbed s l)
    (h : step sn s l s') : Fine sn s' := by
  have hinv := step_inv hf.inv h
  cases l with
  | request r isConnected scheduler =>
    simp only [step, next] at h
    split at h
    · rename_i hpc
      have hadded : ¬(s.pc r).Added := by
        rw [hpc]
        exact id
      have hnone : (s.ctx r).response = none := by
        by_contra hne
        exact hadded (hf.unanswered r hne).1
      cases isConnected <;> cases h
      · exact hf.begin hadded (s.ctx r) .refused (by rw [Function.update_eq_self]; rfl) hinv
          (fun _ he => .inl he) (fun _ => Nat.le_add_right _ _) hnone trivial
      · exact hf.begin hadded _ .addCtx rfl hinv (fun _ he => .inl he)
          (fun _ => Nat.le_add_right _ _) rfl trivial
    · cases h
  | fiber r => exact fiberStep_fine hf h
  | doRecv rsp =>
    cases hr : s.m_ctxs.lookup rsp.m_sn with
    | none =>
      simp only [step, next, hr] at h
      cases h
      exact hf
    | some r =>
      simp only [step, next, hr] at h
      cases h
      have hsn : rsp.m_sn = sn r := hf.keyed _ (AList.mem_lookup_iff.1 hr)
      refine hf.spawn _ rfl hinv (fun e he => mem_erase he) (fun r' => ?_) (fun k hk => ?_)
        fun k hk hof => ?_
      · have hc := count_erase hr r'
        simp [Sys.entry, Task.recvs, Task.closes]
        omega
      · rw [List.mem_singleton.1 hk]
        exact ⟨hsn, rfl⟩
      · rw [List.mem_singleton.1 hk] at hof
        cases hof
  | expire r =>
    simp only [step, next] at h
    split at h
    · cases h
      exact hf.spawn [] (by rw [List.append_nil]) hinv (fun _ he => he) (fun _ => le_rfl) (by simp) (by simp)
    · cases h
  | onTimeOut r =>
    simp only [step, next] at h
    split at h
    · cases h
      refine hf.spawn _ rfl hinv (fun e he => mem_erase he) (fun r' => ?_) (fun k hk => ?_)
        fun k hk hof => ?_
      · exact ((List.kerase_sublist (sn r) s.m_ctxs.entries).map Sigma.snd).count_le r'
      · rw [List.mem_singleton.1 hk]
        exact ⟨trivial, rfl⟩
      · rw [List.mem_singleton.1 hk]
        refine List.count_eq_zero.2 fun hr => ?_
        obtain ⟨e, he, rfl⟩ := List.mem_map.1 hr
        have hkey : e.1 ∈ s.m_ctxs.erase (sn e.2) := AList.mem_keys.2 (List.mem_keys_of_mem he)
        exact (AList.mem_erase.1 hkey).1 (hf.keyed e (mem_erase he))
    · cases h
  | innerClose ctxs =>
    simp only [step, next] at h
    split at h
    · rename_i hperm
      cases h
      refine hf.spawn _ rfl hinv (by simp) (fun r => ?_) (fun k hk => ⟨ok_close hk, ?_⟩)
        fun k hk hof => ?_
      · rw [tally_recvs_close, tally_closes_close, hperm.count_eq]
        exact (Nat.zero_add _).le
      · rw [(mem_close hk).2.1]
        rfl
      · cases (mem_close hk).1.symm.trans hof
    · cases h
  | run n =>
    obtain ⟨k, hk, rfl⟩ := Option.map_eq_some_iff.1 h
    exact run_fine hf hk hund

/-- **Outcomes are consistent**: in a run in which no timeout comes between a receiving thread and
    its context, a request returns a response with its result, or an error with none. -/
theorem consistent_of_undisturbed {ls : List (Label R S P)}
    (hrun : Run (fun s l s' => Undisturbed s l ∧ step sn s l s') (init R S P) ls s) :
    Consistent sn s := by
  have hf : Fine sn s :=
    hrun.invariant (P := Fine sn) (fun _ _ _ hf h => step_fine hf h.1 h.2) (init_fine sn)
  intro r result response h
  have hsettled := hf.fibers r
  cases hpc : s.pc r <;> rw [hpc] at h hsettled <;> cases h
  · exact .inr ⟨rfl, .inr (.inr rfl)⟩
  · rcases hsettled with hanswered | ⟨hnone, hfailed⟩
    · exact .inl hanswered
    · exact .inr ⟨hnone, hfailed.imp_right .inl⟩

end

/-- The timeout sets `timed` after the receiving thread has tested it. -/
theorem consistent_late : ∃ s, Run (step fun r : ℕ => BitVec.ofNat 32 r) (init ℕ ℕ ℕ)
    [.request 3 true 0, .fiber 3, .fiber 3, .fiber 3, .fiber 3, .fiber 3, .doRecv ⟨3, 0, 9⟩, .run 0,
      .run 0, .expire 3, .onTimeOut 3, .run 0, .run 1, .run 1, .run 1, .run 0, .run 0, .fiber 3,
      .fiber 3, .fiber 3] s ∧ (s.pc 3).outcome = some (0, some ⟨3, 0, 9⟩) ∧
    Consistent (fun r => BitVec.ofNat 32 r) s := by
  obtain ⟨s, hrun, h⟩ : ∃ s, Run (fun s l s' => Undisturbed s l ∧
      step (fun r : ℕ => BitVec.ofNat 32 r) s l s') (init ℕ ℕ ℕ)
      [.request 3 true 0, .fiber 3, .fiber 3, .fiber 3, .fiber 3, .fiber 3, .doRecv ⟨3, 0, 9⟩,
        .run 0, .run 0, .expire 3, .onTimeOut 3, .run 0, .run 1, .run 1, .run 1, .run 0, .run 0,
        .fiber 3, .fiber 3, .fiber 3] s ∧ (s.pc 3).outcome = some (0, some ⟨3, 0, 9⟩) := by
    refine ⟨_, .cons ⟨trivial, rfl⟩ <| .cons ⟨trivial, rfl⟩ <| .cons ⟨trivial, rfl⟩ <|
      .cons ⟨trivial, rfl⟩ <| .cons ⟨trivial, rfl⟩ <| .cons ⟨trivial, rfl⟩ <|
      .cons ⟨trivial, rfl⟩ <| .cons ⟨trivial, rfl⟩ <| .cons ⟨trivial, rfl⟩ <|
      .cons ⟨trivial, rfl⟩ <| .cons ⟨trivial, rfl⟩ <| .cons ⟨trivial, rfl⟩ <|
      .cons ⟨trivial, rfl⟩ <| .cons ⟨trivial, rfl⟩ <| .cons ⟨rfl, rfl⟩ <|
      .cons ⟨trivial, rfl⟩ <| .cons ⟨trivial, rfl⟩ <| .cons ⟨trivial, rfl⟩ <|
      .cons ⟨trivial, rfl⟩ <| .cons ⟨trivial, rfl⟩ <| .nil _, rfl⟩
  exact ⟨s, hrun.mono fun _ _ _ h => h.2, h, consistent_of_undisturbed hrun⟩

/-- The timeout sets `timed` before: the request returns `TIMEOUT` with the response. -/
theorem not_settled : ¬∀ ls s, Run (step fun r : ℕ => BitVec.ofNat 32 r) (init ℕ ℕ ℕ) ls s →
    Consistent (fun r => BitVec.ofNat 32 r) s := by
  intro h
  obtain ⟨s, hrun, hpc⟩ : ∃ s, Run (step fun r : ℕ => BitVec.ofNat 32 r) (init ℕ ℕ ℕ)
      [.request 3 true 0, .fiber 3, .fiber 3, .fiber 3, .fiber 3, .fiber 3, .doRecv ⟨3, 0, 9⟩,
        .run 0, .run 0, .expire 3, .onTimeOut 3, .run 0, .run 0, .run 0, .run 1, .run 1, .run 1,
        .fiber 3, .fiber 3, .fiber 3] s ∧
      (s.pc 3).outcome = some (TIMEOUT, some ⟨3, 0, 9⟩) := by
    refine ⟨_, .cons rfl <| .cons rfl <| .cons rfl <| .cons rfl <| .cons rfl <| .cons rfl <|
      .cons rfl <| .cons rfl <| .cons rfl <| .cons rfl <| .cons rfl <| .cons rfl <| .cons rfl <|
      .cons rfl <| .cons rfl <| .cons rfl <| .cons rfl <| .cons rfl <| .cons rfl <| .cons rfl <|
      .nil _, rfl⟩
  rcases h _ s hrun 3 _ _ hpc with ⟨rsp, -, hresult, hresponse⟩ | ⟨hnone, -⟩
  · cases hresponse
    exact absurd hresult (by decide)
  · cases hnone

end

end Ancfl.Requests
