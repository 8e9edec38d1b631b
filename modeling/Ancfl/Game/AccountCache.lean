/-
  The account cache of `DBService` beside the account table.

  * `Call`: a call of one of the four operations that use the cache, as far as
    it has come; a step is one SQL statement or one locked cache access;
  * `SealAccount` and `UnsealAccount` go on to the cache where the statement
    fails: they test `!stmt->execute()`, and `execute` gives 0 on success;
  * `agrees_of_steady`: the cache agrees with the table in a run in which a
    statement changes no account that is cached or about to be, and the cache
    is changed to what the table holds already.
-/
import Ancfl.Game.Database

namespace Ancfl.Game.AccountCache

open Lib Database

/-- A row of the table `account`, without the columns these operations do not read. -/
structure Account where
  account_name : String
  channel : BitVec 32
  create_time : BitVec 64
  last_login_time : BitVec 64
  is_sealed : BitVec 32
  seal_end_time : BitVec 64
deriving DecidableEq

/-- The row as the query of `GetAccountInfo` selects its columns. -/
def Account.selected (account_id : BitVec 64) (account : Account) : Row where
  getInt8 _ := 0
  getInt32
    | 2 => account.channel
    | 5 => account.is_sealed
    | _ => 0
  getInt64
    | 0 => account_id
    | 3 => account.create_time
    | 4 => account.last_login_time
    | 6 => account.seal_end_time
    | _ => 0
  getString
    | 1 => account.account_name
    | _ => ""

/-- What `SealAccount` and `UnsealAccount` set. -/
structure Ban where
  is_sealed : Bool
  seal_end_time : BitVec 64
deriving DecidableEq

/-- `UPDATE account SET is_sealed=…, seal_end_time=…`. -/
def Account.set (account : Account) (ban : Ban) : Account :=
  { account with
    is_sealed := if ban.is_sealed then 1 else 0
    seal_end_time := ban.seal_end_time }

/-- The ban as the row has it. -/
def Account.ban (account : Account) : Ban := ⟨account.is_sealed != 0, account.seal_end_time⟩

/-- The ban as a cached entry has it. -/
def ban (info : AccountInfo) : Ban := ⟨info.is_sealed, info.seal_end_time⟩

/-- `is_sealed && seal_end_time > time(nullptr)`. -/
def Ban.active (ban : Ban) (time : BitVec 64) : Bool := ban.is_sealed && time.slt ban.seal_end_time

/-- A call, before its next step. -/
inductive Call
  /-- `GetAccountInfo` before it looks into the cache, with the variable of its caller -/
  | getFind (account_id : BitVec 64) (account_info : AccountInfo)
  | getQuery (account_id : BitVec 64) (account_info : AccountInfo)
  /-- before `UpdateAccountCache(account_info)` -/
  | getStore (account_info : AccountInfo)
  /-- `SealAccount` or `UnsealAccount` before its statement -/
  | sealExecute (account_id : BitVec 64) (ban : Ban)
  | sealFind (account_id : BitVec 64) (ban : Ban)
  /-- before `UpdateAccountCache(info)` -/
  | sealStore (info : AccountInfo)
  | isFind (account_id : BitVec 64)
  | isQuery (account_id : BitVec 64)
deriving DecidableEq

/-- How a call's way to its statement, and the statement, end. -/
inductive Sql
  /-- no connection, no statement or an exception -/
  | none
  /-- the statement acts on the table -/
  | ok
  /-- the statement fails -/
  | error
deriving DecidableEq

inductive Label (T : Type)
  | GetAccountInfo (t : T) (account_id : BitVec 64) (account_info : AccountInfo)
  | SealAccount (t : T) (account_id seal_end_time : BitVec 64)
  | UnsealAccount (t : T) (account_id : BitVec 64)
  | IsAccountSealed (t : T) (account_id : BitVec 64)
  /-- the statement of the call of `t` -/
  | sql (t : T) (outcome : Sql)
  /-- the next cache access of the call of `t` -/
  | cache (t : T)

/-- The table, the cache, and the calls in progress, at most one for each thread. -/
structure Sys (T : Type) where
  account : Finmap fun _ : BitVec 64 => Account
  account_cache : Finmap fun _ : BitVec 64 => AccountInfo
  name_to_id : Finmap fun _ : String => BitVec 64
  calls : Finmap fun _ : T => Call

variable {T : Type} [DecidableEq T]

def init (T : Type) (account : Finmap fun _ : BitVec 64 => Account) : Sys T := ⟨account, ∅, ∅, ∅⟩

/-- A call ends, or has its next step before it. -/
def goOn (s : Sys T) (t : T) : Option Call → Sys T
  | none => { s with calls := s.calls.erase t }
  | some call => { s with calls := s.calls.insert t call }

/-- A thread that is in no call begins one. -/
def start (s : Sys T) (t : T) (call : Call) : Option (Sys T) :=
  if t ∈ s.calls then none else some (goOn s t (some call))

def UpdateAccountCache (s : Sys T) (info : AccountInfo) : Sys T :=
  { s with
    account_cache := s.account_cache.insert info.account_id info
    name_to_id := s.name_to_id.insert info.account_name info.account_id }

/-- The statement of a call. -/
def runSql (s : Sys T) (t : T) (outcome : Sql) : Call → Option (Sys T)
  | .getQuery account_id account_info =>
    match outcome with
    | .ok =>
      match s.account.lookup account_id with
      | some account =>
        some (goOn s t (some (.getStore (account_info.load (account.selected account_id)))))
      | none => some (goOn s t none)
    | _ => some (goOn s t none)
  | .sealExecute account_id ban =>
    match outcome with
    | .none => some (goOn s t none)
    -- `execute` returns 0, and the call ends as if it had failed
    | .ok =>
      match s.account.lookup account_id with
      | some account =>
        some (goOn { s with account := s.account.insert account_id (account.set ban) } t none)
      | none => some (goOn s t none)
    | .error => some (goOn s t (some (.sealFind account_id ban)))
  | .isQuery _ => some (goOn s t none)
  | _ => none

/-- The cache access of a call. -/
def runCache (s : Sys T) (t : T) : Call → Option (Sys T)
  | .getFind account_id account_info =>
    match s.account_cache.lookup account_id with
    | some _ => some (goOn s t none)
    | none => some (goOn s t (some (.getQuery account_id account_info)))
  | .getStore account_info => some (goOn (UpdateAccountCache s account_info) t none)
  | .sealFind account_id ban =>
    match s.account_cache.lookup account_id with
    | some info => some (goOn s t (some (.sealStore
        { info with is_sealed := ban.is_sealed, seal_end_time := ban.seal_end_time })))
    | none => some (goOn s t none)
  | .sealStore info => some (goOn (UpdateAccountCache s info) t none)
  | .isFind account_id =>
    match s.account_cache.lookup account_id with
    | some _ => some (goOn s t none)
    | none => some (goOn s t (some (.isQuery account_id)))
  | _ => none

def next (s : Sys T) : Label T → Option (Sys T)
  | .GetAccountInfo t account_id account_info => start s t (.getFind account_id account_info)
  | .SealAccount t account_id seal_end_time =>
    start s t (.sealExecute account_id ⟨true, seal_end_time⟩)
  | .UnsealAccount t account_id => start s t (.sealExecute account_id ⟨false, 0⟩)
  | .IsAccountSealed t account_id => start s t (.isFind account_id)
  | .sql t outcome => (s.calls.lookup t).bind (runSql s t outcome)
  | .cache t => (s.calls.lookup t).bind (runCache s t)

def step (s : Sys T) (l : Label T) (s' : Sys T) : Prop := next s l = some s'

/-- An entry has the ban that the table has for its account. -/
def Agrees (s : Sys T) (info : AccountInfo) : Prop :=
  (s.account.lookup info.account_id).map Account.ban = some (ban info)

/-- The entry that a call is about to store. -/
def Call.stores : Call → Option AccountInfo
  | .getStore info => some info
  | .sealStore info => some info
  | _ => none

/-- No entry for the account is cached or about to be stored. -/
def Fresh (s : Sys T) (account_id : BitVec 64) : Prop :=
  account_id ∉ s.account_cache ∧ ∀ t call info, s.calls.lookup t = some call →
    call.stores = some info → info.account_id ≠ account_id

/-- The table has the ban already, or no row for the account. -/
def Has (s : Sys T) (account_id : BitVec 64) (ban : Ban) : Prop :=
  ∀ account, s.account.lookup account_id = some account → account.ban = ban

/-- A statement changes no account that is cached or about to be; after a failed one the cache is
    changed only to what the table has. -/
def Steady (s : Sys T) : Label T → Prop
  | .sql t .ok => ∀ account_id ban, s.calls.lookup t = some (.sealExecute account_id ban) →
    Has s account_id ban ∨ Fresh s account_id
  | .cache t => ∀ account_id ban, s.calls.lookup t = some (.sealFind account_id ban) →
    Has s account_id ban ∨ account_id ∉ s.account_cache
  | _ => True

/-- The cache agrees with the table, now and after what the calls are about to store. -/
structure Inv (s : Sys T) : Prop where
  cached : ∀ account_id info, s.account_cache.lookup account_id = some info →
    info.account_id = account_id ∧ Agrees s info
  pending : ∀ t call info, s.calls.lookup t = some call → call.stores = some info → Agrees s info

omit [DecidableEq T] in
theorem ban_set (account : Account) (ban : Ban) : (account.set ban).ban = ban := by
  obtain ⟨is_sealed, seal_end_time⟩ := ban
  cases is_sealed <;> rfl

theorem Inv.goOn {s : Sys T} (h : Inv s) (t : T) {next : Option Call}
    (hnext : ∀ call info, next = some call → call.stores = some info → Agrees s info) :
    Inv (goOn s t next) := by
  cases next with
  | none =>
    refine ⟨h.cached, fun t' call info hcall => h.pending t' call info ?_⟩
    by_cases ht : t' = t
    · rw [ht] at hcall
      cases (Finmap.lookup_erase t s.calls).symm.trans hcall
    · exact (Finmap.lookup_erase_ne ht).symm.trans hcall
  | some call =>
    refine ⟨h.cached, fun t' call' info hcall hstores => ?_⟩
    by_cases ht : t' = t
    · rw [ht] at hcall
      cases (Finmap.lookup_insert s.calls).symm.trans hcall
      exact hnext call info rfl hstores
    · exact h.pending t' call' info ((Finmap.lookup_insert_of_ne _ ht).symm.trans hcall) hstores

theorem Inv.update {s : Sys T} (h : Inv s) {info : AccountInfo} (hinfo : Agrees s info) :
    Inv (UpdateAccountCache s info) := by
  refine ⟨fun account_id info' hlookup => ?_, h.pending⟩
  by_cases ha : account_id = info.account_id
  · rw [ha] at hlookup ⊢
    cases (Finmap.lookup_insert s.account_cache).symm.trans hlookup
    exact ⟨rfl, hinfo⟩
  · exact h.cached account_id info' ((Finmap.lookup_insert_of_ne _ ha).symm.trans hlookup)

/-- An `UPDATE` changes no ban that a cached entry, or one about to be stored, has. -/
theorem Inv.execute {s : Sys T} (h : Inv s) {account_id : BitVec 64} {ban : Ban} {account : Account}
    (hrow : s.account.lookup account_id = some account)
    (hsteady : Has s account_id ban ∨ Fresh s account_id) :
    Inv { s with account := s.account.insert account_id (account.set ban) } := by
  have hagrees (info : AccountInfo) (hinfo : Agrees s info)
      (hne : Fresh s account_id → info.account_id ≠ account_id) :
      Agrees { s with account := s.account.insert account_id (account.set ban) } info := by
    rw [Agrees]
    by_cases ha : info.account_id = account_id
    · obtain hhas | hfresh := hsteady
      · rw [Agrees, ha, hrow] at hinfo
        rw [ha, Finmap.lookup_insert, ← hinfo, Option.map_some, Option.map_some, ban_set,
          hhas account hrow]
      · exact absurd ha (hne hfresh)
    · rw [Finmap.lookup_insert_of_ne _ ha]
      exact hinfo
  refine ⟨fun id info hlookup => ?_, fun t call info hcall hstores => ?_⟩
  · obtain ⟨hid, hinfo⟩ := h.cached id info hlookup
    refine ⟨hid, hagrees info hinfo fun hfresh ha => hfresh.1 ?_⟩
    rw [← ha, hid]
    exact Finmap.mem_of_lookup_eq_some hlookup
  · exact hagrees info (h.pending t call info hcall hstores) fun hfresh =>
      hfresh.2 t call info hcall hstores

theorem Inv.start {s s' : Sys T} (h : Inv s) {t : T} {call : Call} (hcall : call.stores = none)
    (hstart : start s t call = some s') : Inv s' := by
  rw [AccountCache.start] at hstart
  split_ifs at hstart
  cases hstart
  refine h.goOn t fun call' info hnext hstores => ?_
  cases hnext
  rw [hcall] at hstores
  cases hstores

theorem Inv.runSql {s s' : Sys T} (h : Inv s) {t : T} {outcome : Sql} {call : Call}
    (hcall : s.calls.lookup t = some call) (hsteady : Steady s (.sql t outcome))
    (hstep : runSql s t outcome call = some s') : Inv s' := by
  have hdone : Inv (AccountCache.goOn s t none) := h.goOn t fun _ _ hnext _ => by cases hnext
  cases call with
  | getQuery account_id account_info =>
    cases outcome with
    | none => cases hstep; exact hdone
    | ok =>
      rw [AccountCache.runSql] at hstep
      cases hrow : s.account.lookup account_id with
      | none => rw [hrow] at hstep; cases hstep; exact hdone
      | some account =>
        rw [hrow] at hstep
        cases hstep
        refine h.goOn t fun call info hnext hstores => ?_
        cases hnext
        cases hstores
        exact congrArg (Option.map Account.ban) hrow
    | error => cases hstep; exact hdone
  | sealExecute account_id ban =>
    cases outcome with
    | none => cases hstep; exact hdone
    | ok =>
      rw [AccountCache.runSql] at hstep
      cases hrow : s.account.lookup account_id with
      | none => rw [hrow] at hstep; cases hstep; exact hdone
      | some account =>
        rw [hrow] at hstep
        cases hstep
        exact (h.execute hrow (hsteady account_id ban hcall)).goOn t fun _ _ hnext _ => by
          cases hnext
    | error =>
      cases hstep
      refine h.goOn t fun call info hnext hstores => ?_
      cases hnext
      cases hstores
  | isQuery account_id => cases hstep; exact hdone
  | getFind account_id account_info => cases hstep
  | getStore account_info => cases hstep
  | sealFind account_id ban => cases hstep
  | sealStore info => cases hstep
  | isFind account_id => cases hstep

theorem Inv.runCache {s s' : Sys T} (h : Inv s) {t : T} {call : Call}
    (hcall : s.calls.lookup t = some call) (hsteady : Steady s (.cache t))
    (hstep : runCache s t call = some s') : Inv s' := by
  have hdone : Inv (AccountCache.goOn s t none) := h.goOn t fun _ _ hnext _ => by cases hnext
  cases call with
  | getFind account_id account_info =>
    rw [AccountCache.runCache] at hstep
    split at hstep
    · cases hstep; exact hdone
    · cases hstep
      refine h.goOn t fun call info hnext hstores => ?_
      cases hnext
      cases hstores
  | getStore account_info =>
    cases hstep
    exact (h.update (h.pending t _ _ hcall rfl)).goOn t fun _ _ hnext _ => by cases hnext
  | sealFind account_id ban =>
    rw [AccountCache.runCache] at hstep
    split at hstep
    · next info hinfo =>
      cases hstep
      refine h.goOn t fun call info' hnext hstores => ?_
      cases hnext
      cases hstores
      -- the entry agreed before, so the row exists; it has the new ban already
      obtain ⟨hid, hagrees⟩ := h.cached account_id info hinfo
      obtain ⟨account, hrow, -⟩ := Option.map_eq_some_iff.1 hagrees
      rw [hid] at hrow
      have hhas := (hsteady account_id ban hcall).resolve_right
        (not_not.2 (Finmap.mem_of_lookup_eq_some hinfo))
      show (s.account.lookup info.account_id).map Account.ban = _
      rw [hid, hrow, Option.map_some, hhas account hrow]
      rfl
    · cases hstep; exact hdone
  | sealStore info =>
    cases hstep
    exact (h.update (h.pending t _ _ hcall rfl)).goOn t fun _ _ hnext _ => by cases hnext
  | isFind account_id =>
    rw [AccountCache.runCache] at hstep
    split at hstep
    · cases hstep; exact hdone
    · cases hstep
      refine h.goOn t fun call info hnext hstores => ?_
      cases hnext
      cases hstores
  | getQuery account_id account_info => cases hstep
  | sealExecute account_id ban => cases hstep
  | isQuery account_id => cases hstep

theorem step_inv {s s' : Sys T} {l : Label T} (hsteady : Steady s l) (hstep : step s l s')
    (h : Inv s) : Inv s' := by
  cases l with
  | GetAccountInfo t account_id account_info => exact h.start rfl hstep
  | SealAccount t account_id seal_end_time => exact h.start rfl hstep
  | UnsealAccount t account_id => exact h.start rfl hstep
  | IsAccountSealed t account_id => exact h.start rfl hstep
  | sql t outcome =>
    obtain ⟨call, hcall, hstep⟩ := Option.bind_eq_some_iff.1 hstep
    exact h.runSql hcall hsteady hstep
  | cache t =>
    obtain ⟨call, hcall, hstep⟩ := Option.bind_eq_some_iff.1 hstep
    exact h.runCache hcall hsteady hstep

/-- What `IsAccountSealed` answers from the cache. -/
def cachedAnswer (s : Sys T) (account_id time : BitVec 64) : Option Bool :=
  (s.account_cache.lookup account_id).map fun info => (ban info).active time

/-- What it answers from the table. -/
def tableAnswer (s : Sys T) (account_id time : BitVec 64) : Option Bool :=
  (s.account.lookup account_id).map fun account => account.ban.active time

/-- The cache does not contradict the table about a ban, and so gives the same answers. -/
def Consistent (s : Sys T) : Prop :=
  (∀ account_id info, s.account_cache.lookup account_id = some info →
    (s.account.lookup account_id).map Account.ban = some (ban info)) ∧
  ∀ account_id time answer, cachedAnswer s account_id time = some answer →
    tableAnswer s account_id time = some answer

theorem Inv.consistent {s : Sys T} (h : Inv s) : Consistent s := by
  have hcached (account_id : BitVec 64) (info : AccountInfo)
      (hinfo : s.account_cache.lookup account_id = some info) :
      (s.account.lookup account_id).map Account.ban = some (ban info) := by
    obtain ⟨hid, hagrees⟩ := h.cached account_id info hinfo
    rwa [Agrees, hid] at hagrees
  refine ⟨hcached, fun account_id time answer hanswer => ?_⟩
  obtain ⟨info, hinfo, rfl⟩ := Option.map_eq_some_iff.1 hanswer
  obtain ⟨account, hrow, hban⟩ := Option.map_eq_some_iff.1 (hcached account_id info hinfo)
  rw [tableAnswer, hrow, Option.map_some, hban]

/-- **The cache agrees with the table** as long as no statement changes an account that is cached or
    about to be, and no failed one changes the cache. -/
theorem consistent_of_steady {account : Finmap fun _ : BitVec 64 => Account} {ls : List (Label T)}
    {s : Sys T} (hrun : Run (fun s l s' => Steady s l ∧ step s l s') (init T account) ls s) :
    Consistent s := by
  refine (hrun.invariant (P := Inv) (fun s l s' h hs => step_inv hs.1 hs.2 h) ⟨?_, ?_⟩).consistent
  · intro account_id info hinfo
    simp [init] at hinfo
  · intro t call info hcall
    simp [init] at hcall

/-- An account that is not banned, and the variable of a caller. -/
def ann : Account := ⟨"ann", 1, 100, 200, 0, 0⟩

def unset : AccountInfo := ⟨0, "", "", 0, 0, 0, 0, false, 0, false⟩

/-- Account 8 is banned while account 7 is cached. -/
theorem consistent_two : ∃ s : Sys ℕ, Run step
    (init ℕ ((Finmap.singleton 8 ann).insert 7 ann))
    [.GetAccountInfo 0 7 unset, .cache 0, .sql 0 .ok, .cache 0, .SealAccount 1 8 5000,
      .sql 1 .ok] s ∧ Consistent s := by
  obtain ⟨s, hrun⟩ : ∃ s, Run (fun s l s' => Steady s l ∧ step s l s')
      (init ℕ ((Finmap.singleton 8 ann).insert 7 ann))
      [.GetAccountInfo 0 7 unset, .cache 0, .sql 0 .ok, .cache 0, .SealAccount 1 8 5000,
        .sql 1 .ok] s := by
    refine ⟨_, .cons ⟨trivial, rfl⟩ (.cons ⟨fun a b h => ?_, rfl⟩ (.cons ⟨fun a b h => ?_, rfl⟩
      (.cons ⟨fun a b h => ?_, rfl⟩ (.cons ⟨trivial, rfl⟩
        (.cons ⟨fun a b h => ?_, rfl⟩ (.nil _))))))⟩
    · nomatch (show some (Call.getFind 7 unset) = some (Call.sealFind a b) from h)
    · nomatch (show some (Call.getQuery 7 unset) = some (Call.sealExecute a b) from h)
    · nomatch (show some (Call.getStore _) = some (Call.sealFind a b) from h)
    · cases (show some (Call.sealExecute 8 ⟨true, 5000⟩) = some (Call.sealExecute a b) from h)
      refine .inr ⟨by decide, fun t call info hcall hstores => ?_⟩
      by_cases ht : t = 1
      · rw [ht] at hcall
        cases (show some (Call.sealExecute 8 ⟨true, 5000⟩) = some call from hcall)
        cases hstores
      · cases (Finmap.lookup_insert_of_ne _ ht).symm.trans hcall
  exact ⟨_, hrun.mono fun _ _ _ h => h.2, consistent_of_steady hrun⟩

/-- **A ban that succeeds does not reach the cache**, even when no other call is in progress. -/
theorem not_consistent : ¬∀ (account : Finmap fun _ : BitVec 64 => Account) (ls : List (Label ℕ))
    (s : Sys ℕ), Run step (init ℕ account) ls s → s.calls = ∅ → Consistent s := by
  intro h
  have hrun : Run step (init ℕ (Finmap.singleton 7 ann))
      [.GetAccountInfo 0 7 unset, .cache 0, .sql 0 .ok, .cache 0, .SealAccount 0 7 5000,
        .sql 0 .ok] _ :=
    .cons rfl (.cons rfl (.cons rfl (.cons rfl (.cons rfl (.cons rfl (.nil _))))))
  have hcached := (h _ _ _ hrun (by decide)).1 7 _ rfl
  exact absurd hcached (by decide)

end Ancfl.Game.AccountCache
