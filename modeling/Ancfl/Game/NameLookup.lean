/-
  The lookup of an account by its name: `AccountService::GetAccountInfo` and
  the `VERIFY_ACCOUNT` request it makes.

  * `HandleVerifyAccount` is the answer of `DBService`, which has the id only
    after a password that is right;
  * `GetAccountInfo` looks in the cache, then asks with a dummy password;
    `CreateAccount` refuses the names it finds;
  * `getAccountInfo_cached` and `getAccountInfo_asked`: the two routes;
  * `finds_iff`: when the lookup agrees with the table.
-/
import Ancfl.Game.Registration

namespace Ancfl.Game.NameLookup

open Lib
open Database (DBService Env)
open Registration (Account Table Answers verifyRows serving serving_answers ann annOnly)

/-! ## `DBService` -/

/-- The fields of a `DBResponse` that concern an account. -/
structure DBResponse where
  ret_code : BitVec 32
  ret_msg : String
  account_id : BitVec 64 := 0
  account_name : String := ""
  channel : BitVec 32 := 0
  create_time : BitVec 64 := 0
  last_login_time : BitVec 64 := 0
  last_login_ip : BitVec 32 := 0
  is_sealed : Bool := false
  seal_end_time : BitVec 64 := 0
  review : Bool := false

variable {Conn : Type}

/-- `info` is the local variable as it is before `GetAccountInfo` sets some of its fields. -/
def HandleVerifyAccount (env : Env Conn) (info : Database.AccountInfo) (account_name password : String) :
    Call String (DBService Conn) DBResponse := fun s =>
  match Database.VerifyAccount env account_name password (s, 0) with
  | .undef => .undef
  | .throw what s' => .throw what s'.1
  | .ret false s' => .ret { ret_code := 1, ret_msg := "验证账号失败" } s'.1
  | .ret true s' =>
    let rsp : DBResponse := {
      ret_code := 0
      ret_msg := "验证账号成功"
      account_id := s'.2
      account_name := account_name }
    match Database.GetAccountInfo env s'.2 (s'.1, info) with
    | .undef => .undef
    | .throw what s' => .throw what s'.1
    | .ret false s' => .ret rsp s'.1
    | .ret true s' => .ret { rsp with
        channel := s'.2.channel
        create_time := s'.2.create_time
        last_login_time := s'.2.last_login_time
        last_login_ip := s'.2.last_login_ip
        is_sealed := s'.2.is_sealed
        seal_end_time := s'.2.seal_end_time
        review := s'.2.review } s'.1

def HandleCreateAccount (env : Env Conn) (account_name password : String) (channel : BitVec 32) :
    Call String (DBService Conn) DBResponse := fun s =>
  match Database.CreateAccount env account_name password channel (s, 0) with
  | .undef => .undef
  | .throw what s' => .throw what s'.1
  | .ret false s' => .ret { ret_code := 1, ret_msg := "创建账号失败" } s'.1
  | .ret true s' => .ret {
      ret_code := 0
      ret_msg := "创建账号成功"
      account_id := s'.2
      account_name := account_name
      channel := channel } s'.1

/-! ## `AccountService` -/

structure AccountInfo where
  account_id : BitVec 64
  account_name : String
  password : String
  channel : BitVec 32
  create_time : BitVec 64
  last_login_time : BitVec 64
  last_login_ip : BitVec 32
  is_sealed : Bool
  seal_end_time : BitVec 64
  review : Bool

structure AccountService where
  account_cache : Finmap fun _ : BitVec 64 => AccountInfo
  name_to_id : Finmap fun _ : String => BitVec 64

/-- The two servers. -/
structure Sys (Conn : Type) where
  service : AccountService
  db : DBService Conn

def AccountService.store (service : AccountService) (account_id : BitVec 64) (account_name : String)
    (info : AccountInfo) : AccountService where
  account_cache := service.account_cache.insert account_id info
  name_to_id := service.name_to_id.insert account_name account_id

def AccountService.cached (service : AccountService) (account_name : String) : Option AccountInfo :=
  (service.name_to_id.lookup account_name).bind fun account_id => service.account_cache.lookup account_id

/-- A request that `DBService` handles, and its answer. -/
def SendDBRequest (handle : Call String (DBService Conn) DBResponse) :
    Call String (Sys Conn) DBResponse := fun s =>
  match handle s.db with
  | .undef => .undef
  | .throw what db => .throw what { s with db := db }
  | .ret rsp db => .ret rsp { s with db := db }

/-- `none` for `return false`; `info` is the local variable of `HandleVerifyAccount`. -/
def GetAccountInfo (env : Env Conn) (info : Database.AccountInfo) (account_name : String) :
    Call String (Sys Conn) (Option AccountInfo) := do
  match ← Call.gets fun s => s.service.cached account_name with
  | some info => return some info
  | none =>
    let rsp ← SendDBRequest (HandleVerifyAccount env info account_name "invalid_password")
    if 0 < rsp.account_id then
      let info : AccountInfo := {
        account_id := rsp.account_id
        account_name := rsp.account_name
        password := ""
        channel := rsp.channel
        create_time := rsp.create_time
        last_login_time := rsp.last_login_time
        last_login_ip := rsp.last_login_ip
        is_sealed := rsp.is_sealed
        seal_end_time := rsp.seal_end_time
        review := rsp.review }
      Call.modify fun s => { s with service := s.service.store info.account_id info.account_name info }
      return some info
    else return none

/-- How `CreateAccount` returns; it returns true in the last case only. -/
inductive Creation
  | already_exists
  | failed
  | created (account_id : BitVec 64)

/-- `unset` is the local variable of the last block as it is before its fields are set. -/
def CreateAccount (env : Env Conn) (info : Database.AccountInfo) (unset : AccountInfo)
    (account_name password : String) (channel : BitVec 32) : Call String (Sys Conn) Creation := do
  match ← GetAccountInfo env info account_name with
  | some _ => return .already_exists
  | none =>
    let encrypted_password := env.md5 password
    let rsp ← SendDBRequest (HandleCreateAccount env account_name encrypted_password channel)
    if rsp.ret_code ≠ 0 then return .failed
    let account_id := rsp.account_id
    if account_id = 0 then return .failed
    Call.modify fun s => { s with service := s.service.store account_id account_name { unset with
      account_id := account_id
      account_name := account_name
      password := encrypted_password
      channel := channel
      create_time := rsp.create_time
      last_login_time := rsp.last_login_time
      is_sealed := rsp.is_sealed
      seal_end_time := rsp.seal_end_time
      review := rsp.review } }
    return .created account_id

/-! ## The two routes -/

/-- The id that a `VERIFY_ACCOUNT` request gives. -/
def verifiedId (env : Env Conn) (account_name password : String) (db : DBService Conn) : BitVec 64 :=
  match verifyRows env account_name db with
  | some (row :: _) => if row.getString 1 = env.md5 password then row.getInt64 0 else 0
  | _ => 0

section
variable (env : Env Conn) (info : Database.AccountInfo) {account_name : String} {s : Sys Conn}

/-- **The answer of `DBService`**: the id is 0 unless the password is right. -/
theorem handleVerifyAccount_ret (account_name password : String) (db : DBService Conn) : ∃ rsp db',
    HandleVerifyAccount env info account_name password db = .ret rsp db' ∧
      rsp.account_id = verifiedId env account_name password db := by
  rw [HandleVerifyAccount, Registration.VerifyAccount_eq, verifiedId]
  rcases hrows : verifyRows env account_name db with _ | _ | ⟨row, rows⟩
  · exact ⟨_, _, rfl, rfl⟩
  · exact ⟨_, _, rfl, rfl⟩
  by_cases hpassword : row.getString 1 = env.md5 password
  · obtain ⟨success, s', hret, -⟩ := @Database.GetAccountInfo_ret _ env (row.getInt64 0) (db, info)
    dsimp only
    rw [if_pos hpassword, beq_iff_eq.2 hpassword]
    dsimp only
    rw [hret]
    cases success
    · exact ⟨_, _, rfl, rfl⟩
    · exact ⟨_, _, rfl, rfl⟩
  · dsimp only
    rw [if_neg hpassword, beq_eq_false_iff_ne.2 hpassword]
    exact ⟨_, _, rfl, rfl⟩

theorem getAccountInfo_cached {entry : AccountInfo} (h : s.service.cached account_name = some entry) :
    GetAccountInfo env info account_name s = .ret (some entry) s := by
  rw [GetAccountInfo, Call.bind_ret (Call.gets_apply _ s), h]
  rfl

theorem getAccountInfo_asked (h : s.service.cached account_name = none) : ∃ result s',
    GetAccountInfo env info account_name s = .ret result s' ∧
      result.map AccountInfo.account_id =
        (some (verifiedId env account_name "invalid_password" s.db)).filter (0 < ·) := by
  obtain ⟨rsp, db', hret, hid⟩ := handleVerifyAccount_ret env info account_name "invalid_password" s.db
  have hrequest : SendDBRequest (HandleVerifyAccount env info account_name "invalid_password") s =
      .ret rsp { s with db := db' } := by
    rw [SendDBRequest, hret]
  rw [GetAccountInfo, Call.bind_ret (Call.gets_apply _ s), h]
  dsimp only
  rw [Call.bind_ret hrequest, ← hid]
  by_cases hpos : 0 < rsp.account_id
  · rw [if_pos hpos, Option.filter_some_pos (by simpa using hpos)]
    exact ⟨_, _, rfl, rfl⟩
  · rw [if_neg hpos, Option.filter_some_neg (by simpa using hpos)]
    exact ⟨_, _, rfl, rfl⟩

end

/-! ## What is to hold, and when -/

/-- The lookup returns true iff the table has an account of the name, and gives the id of it. -/
def Finds (env : Env Conn) (info : Database.AccountInfo) (t : Table) (account_name : String)
    (s : Sys Conn) : Prop :=
  ∃ result s', GetAccountInfo env info account_name s = .ret result s' ∧
    result.map AccountInfo.account_id = (t.named account_name).map Account.account_id

/-- `CreateAccount` refuses the name. -/
def Refuses (env : Env Conn) (info : Database.AccountInfo) (unset : AccountInfo)
    (account_name password : String) (channel : BitVec 32) (s : Sys Conn) : Prop :=
  ∃ s', CreateAccount env info unset account_name password channel s = .ret .already_exists s'

/-- A cached account is the one the table has. An account that is not cached does not exist; or the
    database answers, its password has the hash of the dummy one and its id is not 0. -/
def Known (env : Env Conn) (t : Table) (account_name : String) (s : Sys Conn) : Prop :=
  match s.service.cached account_name with
  | some info => ∃ a, t.named account_name = some a ∧ a.account_id = info.account_id
  | none => ∀ a, t.named account_name = some a → (verifyRows env account_name s.db).isSome ∧
      a.password = env.md5 "invalid_password" ∧ a.account_id ≠ 0

section
variable {env : Env Conn} {t : Table} {account_name : String} {s : Sys Conn}

/-- The account that the dummy password gives is the one the table has, if the table has one. -/
theorem verifiedId_iff (h : Answers env t) (db : DBService Conn) :
    (some (verifiedId env account_name "invalid_password" db)).filter (0 < ·) =
        (t.named account_name).map Account.account_id ↔
      ∀ a, t.named account_name = some a → (verifyRows env account_name db).isSome ∧
        a.password = env.md5 "invalid_password" ∧ a.account_id ≠ 0 := by
  rw [verifiedId]
  rcases hrows : verifyRows env account_name db with _ | _ | ⟨row, rows⟩
  · cases t.named account_name with
    | none => simp
    | some a => simpa using Eq.symm
  · rw [h.nil hrows]
    simp
  · obtain ⟨a, ha, hid, hpassword⟩ := h.cons hrows
    dsimp only
    rw [ha, hid, hpassword]
    split_ifs with hdummy
    · simp [hdummy, BitVec.pos_iff_ne_zero]
    · simpa [hdummy] using Eq.symm

theorem finds_iff_of_ret {info : Database.AccountInfo} {result : Option AccountInfo} {s' : Sys Conn}
    (h : GetAccountInfo env info account_name s = .ret result s') : Finds env info t account_name s ↔
      result.map AccountInfo.account_id = (t.named account_name).map Account.account_id := by
  constructor
  · rintro ⟨result', s'', hret, hid⟩
    rwa [(Out.ret.inj (h.symm.trans hret)).1]
  · exact fun hid => ⟨result, s', h, hid⟩

theorem refuses_iff_of_ret {info : Database.AccountInfo} {result : Option AccountInfo} {s' : Sys Conn}
    (h : GetAccountInfo env info account_name s = .ret result s') (unset : AccountInfo) (password : String)
    (channel : BitVec 32) :
    Refuses env info unset account_name password channel s ↔ result.isSome := by
  rw [Refuses, CreateAccount, Call.bind_ret h]
  cases result with
  | none =>
    refine iff_of_false ?_ nofun
    rintro ⟨s'', hrest⟩
    obtain ⟨rsp, s₁, -, hrest⟩ := Call.bind_eq_ret.1 hrest
    by_cases hcode : rsp.ret_code ≠ 0
    · rw [if_pos hcode] at hrest
      cases hrest
    rw [if_neg hcode] at hrest
    by_cases hid : rsp.account_id = 0
    · rw [if_pos hid] at hrest
      cases hrest
    · rw [if_neg hid] at hrest
      cases hrest
  | some entry => exact iff_of_true ⟨s', rfl⟩ rfl

/-- **The lookup finds every account** exactly if the cache is right about the name, or it is not
    cached and no account has it, or the dummy password is the account's. -/
theorem finds_iff (h : Answers env t) (info : Database.AccountInfo) (account_name : String) (s : Sys Conn) :
    (Finds env info t account_name s ↔ Known env t account_name s) ∧
    (Known env t account_name s → ∀ unset password channel,
      Refuses env info unset account_name password channel s ↔ (t.named account_name).isSome) := by
  have hfinds : Finds env info t account_name s ↔ Known env t account_name s := by
    rw [Known]
    cases hcached : s.service.cached account_name with
    | some entry =>
      rw [finds_iff_of_ret (getAccountInfo_cached env info hcached), Option.map_some, eq_comm,
        Option.map_eq_some_iff]
    | none =>
      obtain ⟨result, s', hret, hid⟩ := getAccountInfo_asked env info hcached
      rw [finds_iff_of_ret hret, hid, verifiedId_iff h]
  refine ⟨hfinds, fun hknown unset password channel => ?_⟩
  obtain ⟨result, s', hret, hid⟩ := hfinds.2 hknown
  rw [refuses_iff_of_ret hret, ← Option.isSome_map, hid, Option.isSome_map]

end

def blank : Database.AccountInfo := ⟨0, "", "", 0, 0, 0, 0, false, 0, false⟩

def unset : AccountInfo := ⟨0, "", "", 0, 0, 0, 0, false, 0, false⟩

/-- Ann's account, and nothing cached. -/
def started : Sys ℕ := ⟨⟨∅, ∅⟩, ⟨[1], ∅, ∅⟩⟩

/-- The account is cached. -/
def knowing : Sys ℕ :=
  { started with service := started.service.store 7 "ann" { unset with account_id := 7 } }

/-- The name of an account that does not exist is free, and Ann's is taken once it is cached. -/
theorem finds_two :
    (Finds (serving annOnly) blank annOnly "bob" started ∧
      ¬Refuses (serving annOnly) blank unset "bob" "pw" 1 started) ∧
    Refuses (serving annOnly) blank unset "ann" "pw" 1 knowing := by
  obtain ⟨hfinds, hrefuses⟩ := finds_iff (serving_answers annOnly) blank "bob" started
  have hbob : Known (serving annOnly) annOnly "bob" started := fun _ ha => nomatch ha
  have hann : Known (serving annOnly) annOnly "ann" knowing := ⟨ann, rfl, rfl⟩
  refine ⟨⟨hfinds.2 hbob, fun h => nomatch (hrefuses hbob unset "pw" 1).1 h⟩, ?_⟩
  exact ((finds_iff (serving_answers annOnly) blank "ann" knowing).2 hann unset "pw" 1).2 rfl

/-- **Ann's account is not found**, with a database that answers, and her name can be registered
    again. -/
theorem not_finds : ¬∀ (env : Env ℕ) (t : Table) (account_name : String) (s : Sys ℕ), Answers env t →
    (verifyRows env account_name s.db).isSome → Finds env blank t account_name s := by
  intro h
  obtain ⟨result, s', hret, hid⟩ := getAccountInfo_asked (serving annOnly) blank
    (rfl : started.service.cached "ann" = none)
  have hfinds := (finds_iff_of_ret hret).1 (h _ annOnly _ _ (serving_answers annOnly) rfl)
  rw [hid, verifiedId_iff (serving_answers annOnly)] at hfinds
  exact absurd (hfinds ann rfl).2.1 (by decide)

end Ancfl.Game.NameLookup
