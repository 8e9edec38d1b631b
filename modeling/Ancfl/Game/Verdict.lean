/-
  The two ban checks: `AccountService::IsAccountSealed` and
  `DBService::IsAccountSealed`.

  * `Sys`: the account table and the cache of `DBService`, the cache of
    `AccountService` and the clock; a step is one call of `AccountService`, with
    the outcomes of its statements and of its requests, or time that passes;
  * `Inv`: where `AccountService` has an account, `DBService` has it with the
    same flag and no later end;
  * `same_iff`: the checks agree, in a run that loses no answer, iff the account
    is not banned, or the ban of `DBService` has not ended yet, or that of
    `AccountService` has an end and is over.
-/
import Ancfl.Game.AccountCache

namespace Ancfl.Game.Verdict

open Lib
open AccountCache (Sql)

/-! ## Accounts -/

/-- A row of the table `account`, without the columns these operations do not read. -/
structure Account where
  account_name : String
  channel : BitVec 32
  create_time : ℤ
  last_login_time : ℤ
  is_sealed : BitVec 32
  seal_end_time : ℤ

structure AccountInfo where
  account_id : BitVec 64
  account_name : String
  password : String
  channel : BitVec 32
  create_time : ℤ
  last_login_time : ℤ
  last_login_ip : BitVec 32
  is_sealed : Bool
  seal_end_time : ℤ
  review : Bool

/-- The fields of a `DBResponse` that concern an account. -/
structure DBResponse where
  ret_code : BitVec 32
  ret_msg : String
  account_id : BitVec 64 := 0
  account_name : String := ""
  channel : BitVec 32 := 0
  create_time : ℤ := 0
  last_login_time : ℤ := 0
  last_login_ip : BitVec 32 := 0
  is_sealed : Bool := false
  seal_end_time : ℤ := 0
  review : Bool := false

/-- The cache of `DBService` beside the table. -/
structure DB where
  account : Finmap fun _ : BitVec 64 => Account
  account_cache : Finmap fun _ : BitVec 64 => AccountInfo

namespace DBService

def UpdateAccountCache (info : AccountInfo) (db : DB) : DB :=
  { db with account_cache := db.account_cache.insert info.account_id info }

/-- `account_info` is the variable of the caller; `none` for `return false`. -/
def GetAccountInfo (account_id : BitVec 64) (account_info : AccountInfo) (query : Sql) (db : DB) :
    Option AccountInfo × DB :=
  match db.account_cache.lookup account_id with
  | some info => (some info, db)
  | none =>
    match query, db.account.lookup account_id with
    | .ok, some row =>
      let account_info := { account_info with
        account_id := account_id
        account_name := row.account_name
        channel := row.channel
        create_time := row.create_time
        last_login_time := row.last_login_time
        is_sealed := row.is_sealed ≠ 0
        seal_end_time := row.seal_end_time }
      (some account_info, UpdateAccountCache account_info db)
    | _, _ => (none, db)

/-- The statement of `SealAccount` and `UnsealAccount`, and what they do after it. -/
def setSealed (is_sealed : Bool) (seal_end_time : ℤ) (account_id : BitVec 64) (execute : Sql)
    (db : DB) : Bool × DB :=
  match execute with
  | .none => (false, db)
  | .ok =>
    -- `execute` returns 0, and `!stmt->execute()` holds
    match db.account.lookup account_id with
    | none => (false, db)
    | some row => (false, { db with account := db.account.insert account_id { row with
        is_sealed := if is_sealed then 1 else 0
        seal_end_time := seal_end_time } })
  | .error =>
    match db.account_cache.lookup account_id with
    | none => (true, db)
    | some info => (true, UpdateAccountCache { info with
        is_sealed := is_sealed
        seal_end_time := seal_end_time } db)

def SealAccount (account_id : BitVec 64) (seal_end_time : ℤ) (execute : Sql) (db : DB) : Bool × DB :=
  setSealed true seal_end_time account_id execute db

def UnsealAccount (account_id : BitVec 64) (execute : Sql) (db : DB) : Bool × DB :=
  setSealed false 0 account_id execute db

def IsAccountSealed (time : ℤ) (account_id : BitVec 64) (query : Sql) (db : DB) : Bool :=
  match db.account_cache.lookup account_id with
  | some info => info.is_sealed && info.seal_end_time > time
  | none =>
    match query, db.account.lookup account_id with
    | .ok, some row => row.is_sealed ≠ 0 && row.seal_end_time > time
    | _, _ => false

def HandleGetAccountInfo (account_id : BitVec 64) (account_info : AccountInfo) (query : Sql)
    (db : DB) : DBResponse × DB :=
  match GetAccountInfo account_id account_info query db with
  | (some info, db) =>
    ({ ret_code := 0
       ret_msg := "获取账号信息成功"
       account_id := info.account_id
       account_name := info.account_name
       channel := info.channel
       create_time := info.create_time
       last_login_time := info.last_login_time
       last_login_ip := info.last_login_ip
       is_sealed := info.is_sealed
       seal_end_time := info.seal_end_time
       review := info.review }, db)
  | (none, db) => ({ ret_code := 1, ret_msg := "获取账号信息失败" }, db)

def HandleSealAccount (time : ℤ) (account_id : BitVec 64) (seal_time : ℤ) (execute : Sql) (db : DB) :
    DBResponse × DB :=
  let seal_end_time := time + seal_time
  let (success, db) := SealAccount account_id seal_end_time execute db
  if success then ({ ret_code := 0, ret_msg := "封号成功" }, db)
  else ({ ret_code := 1, ret_msg := "封号失败" }, db)

def HandleUnsealAccount (account_id : BitVec 64) (execute : Sql) (db : DB) : DBResponse × DB :=
  let (success, db) := UnsealAccount account_id execute db
  if success then ({ ret_code := 0, ret_msg := "解封成功" }, db)
  else ({ ret_code := 1, ret_msg := "解封失败" }, db)

end DBService

/-! ## `AccountService` -/

structure Sys where
  time : ℤ
  db : DB
  account_cache : Finmap fun _ : BitVec 64 => AccountInfo

/-- What becomes of a request. -/
inductive Net
  | unsent
  /-- `DBService` handles it, and its answer is lost -/
  | unanswered
  | answered
deriving DecidableEq

namespace AccountService

/-- `none` for `return false`. -/
def SendDBRequest (net : Net) (handle : DB → DBResponse × DB) (s : Sys) : Option DBResponse × Sys :=
  match net with
  | .unsent => (none, s)
  | .unanswered => (none, { s with db := (handle s.db).2 })
  | .answered => (some (handle s.db).1, { s with db := (handle s.db).2 })

def GetAccountInfo (account_id : BitVec 64) (account_info : AccountInfo) (query : Sql) (net : Net)
    (s : Sys) : Option AccountInfo × Sys :=
  match s.account_cache.lookup account_id with
  | some info => (some info, s)
  | none =>
    match SendDBRequest net (DBService.HandleGetAccountInfo account_id account_info query) s with
    | (none, s) => (none, s)
    | (some rsp, s) =>
      if rsp.ret_code ≠ 0 then (none, s)
      else
        let info : AccountInfo := {
          account_id := rsp.account_id
          account_name := rsp.account_name
          password := ""
          channel := rsp.channel
          create_time := rsp.create_time
          last_login_time := rsp.last_login_time
          last_login_ip := rsp.last_login_ip
          is_sealed := rsp.is_sealed
          seal_end_time := rsp.seal_end_time
          review := rsp.review }
        (some info, { s with account_cache := s.account_cache.insert info.account_id info })

/-- The change of a cached entry. -/
def setCached (account_id : BitVec 64) (is_sealed : Bool) (seal_end_time : ℤ) (s : Sys) : Sys :=
  match s.account_cache.lookup account_id with
  | none => s
  | some info => { s with account_cache := s.account_cache.insert account_id { info with
      is_sealed := is_sealed
      seal_end_time := seal_end_time } }

/-- The clock of `AccountService` is read `wait` later than that of `DBService`. -/
def SealAccount (account_id : BitVec 64) (seal_time : ℤ) (execute : Sql) (net : Net) (wait : ℕ)
    (s : Sys) : Bool × Sys :=
  match SendDBRequest net (DBService.HandleSealAccount s.time account_id seal_time execute) s with
  | (none, s) => (false, s)
  | (some rsp, s) =>
    if rsp.ret_code ≠ 0 then (false, s)
    else
      let s := { s with time := s.time + wait }
      (true, setCached account_id true (s.time + seal_time) s)

def UnsealAccount (account_id : BitVec 64) (execute : Sql) (net : Net) (s : Sys) : Bool × Sys :=
  match SendDBRequest net (DBService.HandleUnsealAccount account_id execute) s with
  | (none, s) => (false, s)
  | (some rsp, s) =>
    if rsp.ret_code ≠ 0 then (false, s)
    else (true, setCached account_id false 0 s)

/-- `execute` and `lifted` are the outcomes of the `UnsealAccount` that it may call. -/
def IsAccountSealed (account_id : BitVec 64) (account_info : AccountInfo) (query : Sql) (net : Net)
    (execute : Sql) (lifted : Net) (s : Sys) : Bool × Sys :=
  match GetAccountInfo account_id account_info query net s with
  | (none, s) => (false, s)
  | (some info, s) =>
    if !info.is_sealed then (false, s)
    else if info.seal_end_time > 0 ∧ s.time > info.seal_end_time then
      (false, (UnsealAccount account_id execute lifted s).2)
    else (true, s)

end AccountService

inductive Label
  | GetAccountInfo (account_id : BitVec 64) (account_info : AccountInfo) (query : Sql) (net : Net)
  | SealAccount (account_id : BitVec 64) (seal_time : ℤ) (execute : Sql) (net : Net) (wait : ℕ)
  | UnsealAccount (account_id : BitVec 64) (execute : Sql) (net : Net)
  | IsAccountSealed (account_id : BitVec 64) (account_info : AccountInfo) (query : Sql) (net : Net)
      (execute : Sql) (lifted : Net)
  | wait (seconds : ℕ)

def init (time : ℤ) (account : Finmap fun _ : BitVec 64 => Account) : Sys := ⟨time, ⟨account, ∅⟩, ∅⟩

def next (s : Sys) : Label → Sys
  | .GetAccountInfo account_id account_info query net =>
    (AccountService.GetAccountInfo account_id account_info query net s).2
  | .SealAccount account_id seal_time execute net wait =>
    (AccountService.SealAccount account_id seal_time execute net wait s).2
  | .UnsealAccount account_id execute net =>
    (AccountService.UnsealAccount account_id execute net s).2
  | .IsAccountSealed account_id account_info query net execute lifted =>
    (AccountService.IsAccountSealed account_id account_info query net execute lifted s).2
  | .wait seconds => { s with time := s.time + seconds }

def step (s : Sys) (l : Label) (s' : Sys) : Prop := next s l = s'

/-! ## What is to hold, and when -/

/-- The two checks at one time, with the same outcome of the query, and a request that is answered. -/
def Same (s : Sys) (account_id : BitVec 64) (account_info : AccountInfo) (query execute : Sql)
    (lifted : Net) : Prop :=
  (AccountService.IsAccountSealed account_id account_info query .answered execute lifted s).1 =
    DBService.IsAccountSealed s.time account_id query s.db

/-- A change that `DBService` makes in its cache is answered, if `AccountService` has the account. -/
def Answered (s : Sys) : Label → Prop
  | .SealAccount account_id _ execute net _ | .UnsealAccount account_id execute net =>
    account_id ∈ s.account_cache → execute = .error → net ≠ .unanswered
  | .IsAccountSealed _ _ _ _ execute lifted => execute = .error → lifted ≠ .unanswered
  | _ => True

/-- `DBService` has no ban of the account, or one that has not ended; or the ban that
    `AccountService` has of it, or gets from `DBService`, has an end and is over. -/
def Settled (s : Sys) (account_id : BitVec 64) (account_info : AccountInfo) (query : Sql) : Prop :=
  ∀ info, (DBService.GetAccountInfo account_id account_info query s.db).1 = some info →
    info.is_sealed = false ∨ s.time < info.seal_end_time ∨
      let seal_end_time := ((s.account_cache.lookup account_id).getD info).seal_end_time
      0 < seal_end_time ∧ seal_end_time < s.time

/-! ## `DBService` -/

namespace DBService

variable {db : DB} {account_id : BitVec 64} {account_info : AccountInfo} {query : Sql}

/-- Entries are under their own ids. -/
def Keyed (db : DB) : Prop :=
  ∀ account_id info, db.account_cache.lookup account_id = some info → info.account_id = account_id

theorem isAccountSealed_eq (time : ℤ) (account_info : AccountInfo) :
    IsAccountSealed time account_id query db =
      (GetAccountInfo account_id account_info query db).1.any fun info =>
        info.is_sealed && info.seal_end_time > time := by
  unfold IsAccountSealed GetAccountInfo
  cases db.account_cache.lookup account_id with
  | some info => rfl
  | none =>
    cases db.account.lookup account_id <;> cases query <;> rfl

/-- What `GetAccountInfo` gives is cached afterwards, and nothing else changes. -/
theorem getAccountInfo_spec (hkeyed : Keyed db) {result : Option AccountInfo} {db' : DB}
    (h : GetAccountInfo account_id account_info query db = (result, db')) :
    Keyed db' ∧
    (∀ info, result = some info →
      info.account_id = account_id ∧ db'.account_cache.lookup account_id = some info) ∧
    ∀ id info, db.account_cache.lookup id = some info → db'.account_cache.lookup id = some info := by
  unfold GetAccountInfo at h
  cases hcache : db.account_cache.lookup account_id with
  | some info =>
    rw [hcache] at h
    cases h
    refine ⟨hkeyed, ?_, fun _ _ h => h⟩
    rintro _ ⟨⟩
    exact ⟨hkeyed account_id info hcache, hcache⟩
  | none =>
    rw [hcache] at h
    dsimp only at h
    split at h
    · cases h
      refine ⟨fun id info hinfo => ?_, ?_, fun id info hinfo => ?_⟩
      · dsimp only [UpdateAccountCache] at hinfo
        by_cases hid : id = account_id
        · subst hid
          rw [Finmap.lookup_insert] at hinfo
          cases hinfo
          rfl
        · rw [Finmap.lookup_insert_of_ne _ hid] at hinfo
          exact hkeyed id info hinfo
      · rintro _ ⟨⟩
        exact ⟨rfl, Finmap.lookup_insert _⟩
      · have hid : id ≠ account_id := by
          rintro rfl
          rw [hcache] at hinfo
          cases hinfo
        exact (Finmap.lookup_insert_of_ne _ hid).trans hinfo
    · cases h
      exact ⟨hkeyed, (fun _ h => nomatch h), fun _ _ h => h⟩

/-- The entries of a cache after the ban of one of them has changed. -/
def Changed (account_id : BitVec 64) (is_sealed : Bool) (seal_end_time : ℤ)
    (cache cache' : Finmap fun _ : BitVec 64 => AccountInfo) : Prop :=
  ∀ id, cache'.lookup id =
    if id = account_id then (cache.lookup id).map fun info => { info with
      is_sealed := is_sealed
      seal_end_time := seal_end_time }
    else cache.lookup id

/-- A statement that succeeds changes the table alone, one that fails the cache alone. -/
theorem setSealed_spec {is_sealed : Bool} {seal_end_time : ℤ} {execute : Sql} {success : Bool}
    {db' : DB} (hkeyed : Keyed db)
    (h : setSealed is_sealed seal_end_time account_id execute db = (success, db')) :
    Keyed db' ∧
    (success = false → db'.account_cache = db.account_cache) ∧
    (success = true → execute = .error ∧
      Changed account_id is_sealed seal_end_time db.account_cache db'.account_cache) := by
  unfold setSealed at h
  cases execute with
  | none =>
    cases h
    exact ⟨hkeyed, fun _ => rfl, fun h => nomatch h⟩
  | ok =>
    dsimp only at h
    split at h
    · cases h
      exact ⟨hkeyed, fun _ => rfl, fun h => nomatch h⟩
    · cases h
      exact ⟨hkeyed, fun _ => rfl, fun h => nomatch h⟩
  | error =>
    dsimp only at h
    cases hcache : db.account_cache.lookup account_id with
    | none =>
      rw [hcache] at h
      cases h
      refine ⟨hkeyed, (fun h => nomatch h), fun _ => ⟨rfl, fun id => ?_⟩⟩
      split_ifs with hid
      · rw [hid, hcache, Option.map_none]
      · rfl
    | some info =>
      rw [hcache] at h
      cases h
      obtain rfl : info.account_id = account_id := hkeyed account_id info hcache
      have hchanged : Changed info.account_id is_sealed seal_end_time db.account_cache
          (db.account_cache.insert info.account_id { info with
            is_sealed := is_sealed
            seal_end_time := seal_end_time }) := by
        intro id
        split_ifs with hid
        · rw [hid, Finmap.lookup_insert, hcache, Option.map_some]
        · rw [Finmap.lookup_insert_of_ne _ hid]
      refine ⟨fun id info' h => ?_, (fun h => nomatch h), fun _ => ⟨rfl, hchanged⟩⟩
      have hid := (hchanged id).symm.trans h
      split_ifs at hid with heq
      · obtain ⟨old, hold, rfl⟩ := Option.map_eq_some_iff.1 hid
        exact hkeyed id old hold
      · exact hkeyed id info' hid

end DBService

/-! ## Runs -/

/-- An account that `AccountService` has is one of `DBService`, with its flag and no earlier end. -/
structure Inv (s : Sys) : Prop where
  keyed : DBService.Keyed s.db
  cached : ∀ account_id info, s.account_cache.lookup account_id = some info →
    ∃ info', s.db.account_cache.lookup account_id = some info' ∧
      info'.is_sealed = info.is_sealed ∧ info'.seal_end_time ≤ info.seal_end_time

theorem init_inv (time : ℤ) (account : Finmap fun _ : BitVec 64 => Account) :
    Inv (init time account) := by
  constructor
  · intro _ _ h
    rw [init, Finmap.lookup_empty] at h
    cases h
  · intro _ _ h
    rw [init, Finmap.lookup_empty] at h
    cases h

namespace AccountService

variable {s : Sys} {account_id : BitVec 64}

theorem getAccountInfo_inv (hinv : Inv s) (account_id : BitVec 64) (account_info : AccountInfo)
    (query : Sql) (net : Net) :
    Inv (GetAccountInfo account_id account_info query net s).2 := by
  unfold GetAccountInfo
  cases s.account_cache.lookup account_id with
  | some info => exact hinv
  | none =>
    obtain ⟨result, db, hget⟩ : ∃ result db,
        DBService.GetAccountInfo account_id account_info query s.db = (result, db) := ⟨_, _, rfl⟩
    obtain ⟨hkeyed, hresult, hold⟩ := DBService.getAccountInfo_spec hinv.keyed hget
    have hdb : Inv { s with db := db } := by
      refine ⟨hkeyed, fun id info hinfo => ?_⟩
      obtain ⟨info', hinfo', h⟩ := hinv.cached id info hinfo
      exact ⟨info', hold id info' hinfo', h⟩
    dsimp only
    cases net with
    | unsent => exact hinv
    | unanswered =>
      simp only [SendDBRequest, DBService.HandleGetAccountInfo, hget]
      cases result with
      | none => exact hdb
      | some info => exact hdb
    | answered =>
      simp only [SendDBRequest, DBService.HandleGetAccountInfo, hget]
      cases result with
      | none => exact hdb
      | some info =>
        rw [if_neg fun h => h rfl]
        refine ⟨hkeyed, fun id info' hinfo' => ?_⟩
        dsimp only at hinfo'
        by_cases hid : id = info.account_id
        · rw [hid, Finmap.lookup_insert] at hinfo'
          cases hinfo'
          rw [hid, (hresult info rfl).1]
          exact ⟨info, (hresult info rfl).2, rfl, le_rfl⟩
        · rw [Finmap.lookup_insert_of_ne _ hid] at hinfo'
          exact hdb.cached id info' hinfo'

/-- Both caches change, or there is no entry of the account to change. -/
theorem setCached_inv (hinv : Inv s) (time : ℤ) {db : DB} {is_sealed : Bool} {first last : ℤ}
    (hkeyed : DBService.Keyed db)
    (hdb : DBService.Changed account_id is_sealed first s.db.account_cache db.account_cache)
    (hle : first ≤ last) :
    Inv (setCached account_id is_sealed last { s with db := db, time := time }) := by
  have hother (id : BitVec 64) (info : AccountInfo) (hid : id ≠ account_id)
      (hinfo : s.account_cache.lookup id = some info) :
      ∃ info', db.account_cache.lookup id = some info' ∧ info'.is_sealed = info.is_sealed ∧
        info'.seal_end_time ≤ info.seal_end_time := by
    rw [hdb, if_neg hid]
    exact hinv.cached id info hinfo
  unfold setCached
  cases hcache : s.account_cache.lookup account_id with
  | none =>
    refine ⟨hkeyed, fun id info hinfo => hother id info ?_ hinfo⟩
    rintro rfl
    rw [hcache] at hinfo
    cases hinfo
  | some old =>
    refine ⟨hkeyed, fun id info hinfo => ?_⟩
    dsimp only at hinfo
    by_cases hid : id = account_id
    · rw [hid, Finmap.lookup_insert] at hinfo
      cases hinfo
      obtain ⟨old', hold', -⟩ := hinv.cached account_id old hcache
      rw [hid, hdb, if_pos rfl, hold']
      exact ⟨_, rfl, rfl, hle⟩
    · rw [Finmap.lookup_insert_of_ne _ hid] at hinfo
      exact hother id info hid hinfo

variable {is_sealed : Bool} {first last : ℤ} {execute : Sql} {success : Bool} {db : DB}

/-- A change whose answer does not come, or says that it has failed. -/
theorem setSealed_inv (hinv : Inv s)
    (hset : DBService.setSealed is_sealed first account_id execute s.db = (success, db))
    (hnone : success = true → execute = .error → account_id ∉ s.account_cache) :
    Inv { s with db := db } := by
  obtain ⟨hkeyed, hfalse, htrue⟩ := DBService.setSealed_spec hinv.keyed hset
  cases success with
  | false =>
    refine ⟨hkeyed, fun id info hinfo => ?_⟩
    dsimp only
    rw [hfalse rfl]
    exact hinv.cached id info hinfo
  | true =>
    obtain ⟨hexecute, hchanged⟩ := htrue rfl
    have h := setCached_inv hinv s.time hkeyed hchanged le_rfl
    rwa [setCached, Finmap.lookup_eq_none.2 (hnone rfl hexecute)] at h

theorem setSealed_setCached_inv (hinv : Inv s) (time : ℤ)
    (hset : DBService.setSealed is_sealed first account_id execute s.db = (true, db))
    (hle : first ≤ last) :
    Inv (setCached account_id is_sealed last { s with db := db, time := time }) := by
  obtain ⟨hkeyed, -, htrue⟩ := DBService.setSealed_spec hinv.keyed hset
  exact setCached_inv hinv time hkeyed (htrue rfl).2 hle

theorem sealAccount_inv (hinv : Inv s) {seal_time : ℤ} {net : Net} (wait : ℕ)
    (hanswered : account_id ∈ s.account_cache → execute = .error → net ≠ .unanswered) :
    Inv (SealAccount account_id seal_time execute net wait s).2 := by
  obtain ⟨success, db, hset⟩ : ∃ success db, DBService.setSealed true (s.time + seal_time) account_id
      execute s.db = (success, db) := ⟨_, _, rfl⟩
  have hhandle : DBService.HandleSealAccount s.time account_id seal_time execute s.db =
      ({ ret_code := if success then 0 else 1
         ret_msg := if success then "封号成功" else "封号失败" }, db) := by
    simp only [DBService.HandleSealAccount, DBService.SealAccount, hset]
    cases success <;> rfl
  unfold SealAccount
  cases net with
  | unsent => exact hinv
  | unanswered =>
    rw [SendDBRequest, hhandle]
    exact setSealed_inv hinv hset fun _ hexecute hmem => hanswered hmem hexecute rfl
  | answered =>
    rw [SendDBRequest, hhandle]
    cases success with
    | false => exact setSealed_inv hinv hset fun h => nomatch h
    | true =>
      exact setSealed_setCached_inv hinv _ hset
        (add_le_add_left (Int.le_add_of_nonneg_right (Int.natCast_nonneg wait)) seal_time)

theorem unsealAccount_inv (hinv : Inv s) {net : Net}
    (hanswered : account_id ∈ s.account_cache → execute = .error → net ≠ .unanswered) :
    Inv (UnsealAccount account_id execute net s).2 := by
  obtain ⟨success, db, hset⟩ : ∃ success db, DBService.setSealed false 0 account_id execute s.db =
      (success, db) := ⟨_, _, rfl⟩
  have hhandle : DBService.HandleUnsealAccount account_id execute s.db =
      ({ ret_code := if success then 0 else 1
         ret_msg := if success then "解封成功" else "解封失败" }, db) := by
    simp only [DBService.HandleUnsealAccount, DBService.UnsealAccount, hset]
    cases success <;> rfl
  unfold UnsealAccount
  cases net with
  | unsent => exact hinv
  | unanswered =>
    rw [SendDBRequest, hhandle]
    exact setSealed_inv hinv hset fun _ hexecute hmem => hanswered hmem hexecute rfl
  | answered =>
    rw [SendDBRequest, hhandle]
    cases success with
    | false => exact setSealed_inv hinv hset fun h => nomatch h
    | true => exact setSealed_setCached_inv hinv s.time hset le_rfl

theorem isAccountSealed_inv (hinv : Inv s) {account_info : AccountInfo} {query : Sql}
    {net lifted : Net} (hanswered : execute = .error → lifted ≠ .unanswered) :
    Inv (IsAccountSealed account_id account_info query net execute lifted s).2 := by
  have hget := getAccountInfo_inv hinv account_id account_info query net
  rw [IsAccountSealed]
  generalize GetAccountInfo account_id account_info query net s = r at hget
  obtain ⟨_ | info, s'⟩ := r
  · exact hget
  · dsimp only
    split_ifs
    · exact hget
    · exact unsealAccount_inv hget fun _ => hanswered
    · exact hget

end AccountService

theorem step_inv {s s' : Sys} {l : Label} (hinv : Inv s) (hanswered : Answered s l)
    (h : step s l s') : Inv s' := by
  subst h
  cases l with
  | GetAccountInfo account_id account_info query net =>
    exact AccountService.getAccountInfo_inv hinv _ account_info query net
  | SealAccount account_id seal_time execute net wait =>
    exact AccountService.sealAccount_inv hinv wait hanswered
  | UnsealAccount account_id execute net => exact AccountService.unsealAccount_inv hinv hanswered
  | IsAccountSealed account_id account_info query net execute lifted =>
    exact AccountService.isAccountSealed_inv hinv hanswered
  | wait seconds => exact ⟨hinv.keyed, hinv.cached⟩

/-! ## The checks -/

section
variable {s : Sys} {account_id : BitVec 64} {account_info : AccountInfo} {query execute : Sql}
  {lifted : Net}

/-- The ban that a check of `AccountService` finds. -/
theorem isAccountSealed_of_get {net : Net} {info : AccountInfo} {s' : Sys}
    (hget : AccountService.GetAccountInfo account_id account_info query net s = (some info, s')) :
    (AccountService.IsAccountSealed account_id account_info query net execute lifted s).1 =
      (info.is_sealed && !decide (0 < info.seal_end_time ∧ info.seal_end_time < s'.time)) := by
  rw [AccountService.IsAccountSealed, hget]
  dsimp only
  cases info.is_sealed with
  | false => rfl
  | true =>
    rw [if_neg (by decide), Bool.true_and]
    split_ifs with hover
    · rw [decide_eq_true hover]
      rfl
    · rw [decide_eq_false hover]
      rfl

/-- The ban that `AccountService` goes by, when its request is answered. -/
theorem isAccountSealed_eq (hinv : Inv s) :
    (AccountService.IsAccountSealed account_id account_info query .answered execute lifted s).1 =
      (DBService.GetAccountInfo account_id account_info query s.db).1.any fun info =>
        let seal_end_time := ((s.account_cache.lookup account_id).getD info).seal_end_time
        info.is_sealed && !decide (0 < seal_end_time ∧ seal_end_time < s.time) := by
  cases hcache : s.account_cache.lookup account_id with
  | some info =>
    obtain ⟨info', hinfo', hsealed, -⟩ := hinv.cached account_id info hcache
    have hget : AccountService.GetAccountInfo account_id account_info query .answered s =
        (some info, s) := by
      rw [AccountService.GetAccountInfo, hcache]
    have hdb : DBService.GetAccountInfo account_id account_info query s.db = (some info', s.db) := by
      unfold DBService.GetAccountInfo
      rw [hinfo']
    rw [isAccountSealed_of_get hget, hdb, Option.any_some, hsealed, Option.getD_some]
  | none =>
    obtain ⟨result, db, hdb⟩ : ∃ result db,
        DBService.GetAccountInfo account_id account_info query s.db = (result, db) := ⟨_, _, rfl⟩
    rw [hdb]
    cases result with
    | none =>
      have hget : AccountService.GetAccountInfo account_id account_info query .answered s =
          (none, { s with db := db }) := by
        simp only [AccountService.GetAccountInfo, hcache, AccountService.SendDBRequest,
          DBService.HandleGetAccountInfo, hdb]
        rfl
      rw [AccountService.IsAccountSealed, hget]
      rfl
    | some info =>
      have hget : ∃ info' s', AccountService.GetAccountInfo account_id account_info query .answered s =
          (some info', s') ∧ info'.is_sealed = info.is_sealed ∧
            info'.seal_end_time = info.seal_end_time ∧ s'.time = s.time := by
        simp only [AccountService.GetAccountInfo, hcache, AccountService.SendDBRequest,
          DBService.HandleGetAccountInfo, hdb]
        exact ⟨_, _, rfl, rfl, rfl, rfl⟩
      obtain ⟨info', s', hget, hsealed, hend, htime⟩ := hget
      rw [isAccountSealed_of_get hget, hsealed, hend, htime, Option.any_some, Option.getD_none]

/-- The entry of `AccountService` ends no earlier than what `DBService` gives. -/
theorem seal_end_time_le (hinv : Inv s) {info : AccountInfo}
    (hinfo : (DBService.GetAccountInfo account_id account_info query s.db).1 = some info) :
    info.seal_end_time ≤ ((s.account_cache.lookup account_id).getD info).seal_end_time := by
  cases hcache : s.account_cache.lookup account_id with
  | none => exact le_rfl
  | some cached =>
    obtain ⟨info', hinfo', -, hle⟩ := hinv.cached account_id cached hcache
    unfold DBService.GetAccountInfo at hinfo
    rw [hinfo'] at hinfo
    cases hinfo
    exact hle

/-- **The two checks**: they agree, whatever has been done before, iff the account is not banned, or
    both find the ban under way, or both find it over. -/
theorem same_iff {time : ℤ} {account : Finmap fun _ : BitVec 64 => Account} {ls : List Label}
    (hrun : Run (fun s l s' => Answered s l ∧ step s l s') (init time account) ls s)
    (account_id : BitVec 64) (account_info : AccountInfo) (query execute : Sql) (lifted : Net) :
    Same s account_id account_info query execute lifted ↔
      Settled s account_id account_info query := by
  have hinv : Inv s :=
    hrun.invariant (P := Inv) (fun _ _ _ hinv h => step_inv hinv h.1 h.2) (init_inv time account)
  rw [Same, Settled, isAccountSealed_eq hinv, DBService.isAccountSealed_eq s.time account_info]
  cases hget : (DBService.GetAccountInfo account_id account_info query s.db).1 with
  | none => simp
  | some info =>
    have hle := seal_end_time_le hinv hget
    simp only [Option.any_some, Option.some.injEq, forall_eq']
    generalize ((s.account_cache.lookup account_id).getD info).seal_end_time = last at hle
    cases info.is_sealed with
    | false => simp
    | true =>
      simp only [Bool.true_and, Bool.true_eq_false, false_or]
      by_cases hactive : s.time < info.seal_end_time
      · rw [decide_eq_true (show info.seal_end_time > s.time from hactive),
          decide_eq_false fun h => by omega]
        exact iff_of_true rfl (.inl hactive)
      · rw [decide_eq_false (show ¬info.seal_end_time > s.time from hactive), or_iff_right hactive]
        by_cases hover : 0 < last ∧ last < s.time
        · rw [decide_eq_true hover]
          exact iff_of_true rfl hover
        · rw [decide_eq_false hover]
          exact iff_of_false Bool.noConfusion hover

end

/-- A row of the table. -/
def row : Account := ⟨"player", 0, 0, 0, 0, 0⟩

/-- What is in the variable of a caller. -/
def caller : AccountInfo := ⟨0, "", "", 0, 0, 0, 0, false, 0, false⟩

/-- The account is banned for ten seconds, and read from the table. -/
def ls : List Label :=
  [.SealAccount 1 10 .ok .answered 0, .GetAccountInfo 1 caller .ok .answered]

theorem same_active : ∃ s : Sys, Run step (init 100 (Finmap.singleton 1 row)) ls s ∧ s.time = 100 ∧
    (DBService.IsAccountSealed s.time 1 .ok s.db = true) ∧
    (Same s 1 caller .ok .ok .answered ↔ Settled s 1 caller .ok) := by
  obtain ⟨s, hrun, h⟩ : ∃ s : Sys, Run (fun s l s' => Answered s l ∧ step s l s')
      (init 100 (Finmap.singleton 1 row)) ls s ∧ s.time = 100 ∧
      DBService.IsAccountSealed s.time 1 .ok s.db = true := by
    refine ⟨_, .cons ⟨?_, rfl⟩ (.cons ⟨trivial, rfl⟩ (.nil _)), rfl, rfl⟩
    exact fun _ h => nomatch h
  exact ⟨s, hrun.mono fun _ _ _ h => h.2, h.1, h.2, same_iff hrun ..⟩

/-- The ban is looked at in the second in which it ends. -/
theorem not_same : ¬∀ (ls : List Label) (s : Sys),
    Run step (init 100 (Finmap.singleton 1 row)) ls s →
    Same s 1 caller .ok .ok .answered := by
  intro h
  have hsame := h (ls ++ [.wait 10]) _ (.cons rfl (.cons rfl (.cons rfl (.nil _))))
  rw [Same] at hsame
  exact absurd hsame (by decide)

end Ancfl.Game.Verdict
