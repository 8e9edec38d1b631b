/-
  The operations of `DBService` (game_server/db_server/db_service.cc) and its
  pool of database connections.

  * `Env`: what an operation meets, the outcomes of the calls on a connection,
    the clock and the two hashes; `Op`: a call on the service and on the
    variable its caller passes by reference;
  * `withConnection`, `prepared`, `executed` and `queried` are the parts all
    operations are made of; `release` is what their exits do with the
    connection: `ReleaseDBConnection` in some operations, nothing in others;
  * `kept_iff`: an operation keeps the size of the pool iff it is one of the
    releasing ones or takes no connection; so does a run of such operations.
-/
import Ancfl.Lib.Call
import Ancfl.Lib.Run
import Mathlib.Data.Finmap

namespace Ancfl.Game.Database

open Lib

/-! ## Data -/

structure RoleInfo where
  role_id : BitVec 64
  account_id : BitVec 64
  server_id : BitVec 32
  role_name : String
  career : BitVec 32
  level : BitVec 32
  exp : BitVec 64
  head_id : BitVec 32
  portrait_frame : BitVec 32
  create_time : BitVec 64
  last_login_time : BitVec 64
  is_deleted : BitVec 32
  delete_time : BitVec 64
deriving DecidableEq

structure AccountInfo where
  account_id : BitVec 64
  account_name : String
  password : String
  channel : BitVec 32
  create_time : BitVec 64
  last_login_time : BitVec 64
  last_login_ip : BitVec 32
  is_sealed : Bool
  seal_end_time : BitVec 64
  review : Bool
deriving DecidableEq

/-- A parameter of a statement, as `bindInt8` and the other binders take it. -/
inductive Value
  | int8 (v : BitVec 8)
  | int32 (v : BitVec 32)
  | int64 (v : BitVec 64)
  | string (v : String)

/-- A row of a result: what its getters give for each column. -/
structure Row where
  getInt8 : ℕ → BitVec 8
  getInt32 : ℕ → BitVec 32
  getInt64 : ℕ → BitVec 64
  getString : ℕ → String

/-- What an operation meets.  The calls on a connection may throw a `std::exception`; `prepare` and
    `query` may give a null pointer; a result is the list of the rows that `next` reaches. -/
structure Env (Conn : Type) where
  prepare : Conn → String → Except String Bool
  execute : Conn → String → List Value → Except String (BitVec 32)
  query : Conn → String → List Value → Except String (Option (List Row))
  getLastInsertId : Conn → BitVec 64
  time : BitVec 64
  Sha1Hash : String → String
  md5 : String → String

structure DBService (Conn : Type) where
  /-- the back of the vector is the end of the list -/
  db_connections : List Conn
  account_cache : Finmap fun _ : BitVec 64 => AccountInfo
  name_to_id : Finmap fun _ : String => BitVec 64

/-- A call on the service and on a variable of its caller, which is passed by reference. -/
abbrev Op (Conn β α : Type) := Call String (DBService Conn × β) α

variable {Conn β : Type}

/-! ## The pool and the cache -/

def GetDBConnection : Op Conn β (Option Conn) := fun s =>
  match s.1.db_connections.getLast? with
  | none => .ret none s
  | some conn => .ret (some conn) ({ s.1 with db_connections := s.1.db_connections.dropLast }, s.2)

def ReleaseDBConnection (conn : Conn) : Op Conn β Unit :=
  Call.modify fun s => ({ s.1 with db_connections := s.1.db_connections ++ [conn] }, s.2)

def UpdateAccountCache (info : AccountInfo) : Op Conn β Unit :=
  Call.modify fun s => ({ s.1 with
    account_cache := s.1.account_cache.insert info.account_id info
    name_to_id := s.1.name_to_id.insert info.account_name info.account_id }, s.2)

def GetAccountFromCache (account_id : BitVec 64) : Op Conn β (Option AccountInfo) :=
  Call.gets fun s => s.1.account_cache.lookup account_id

/-- Assign to the caller's variable. -/
def assign (v : β) : Op Conn β Unit := Call.modify fun s => (s.1, v)

/-- A call on a connection: its value, or its exception. -/
def invoke {α : Type} (outcome : Except String α) : Op Conn β α := fun s =>
  match outcome with
  | .ok a => .ret a s
  | .error what => .throw what s

/-! ## The parts of an operation -/

/-- `try { body } catch (const std::exception&) { handler }`. -/
def guarded (body handler : Op Conn β Bool) : Op Conn β Bool := fun s =>
  match body s with
  | .throw _ s' => handler s'
  | out => out

/-- Take a connection, run `body` in a `try` block, and `release` the connection in its handler. -/
def withConnection (release : Conn → Op Conn β Unit) (body : Conn → Op Conn β Bool) :
    Op Conn β Bool := do
  match ← GetDBConnection with
  | none => return false
  | some conn => guarded (body conn) do
    release conn
    return false

variable (env : Env Conn)

def prepared (release : Conn → Op Conn β Unit) (conn : Conn) (sql : String)
    (body : Op Conn β Bool) : Op Conn β Bool := do
  let stmt ← invoke (env.prepare conn sql)
  if !stmt then
    release conn
    return false
  body

/-- `if (!stmt->execute())`: the exit is taken on 0. -/
def executed (release : Conn → Op Conn β Unit) (conn : Conn) (sql : String) (binds : List Value)
    (body : Op Conn β Bool) : Op Conn β Bool :=
  prepared env release conn sql do
    let result ← invoke (env.execute conn sql binds)
    if result = 0 then
      release conn
      return false
    body

def queried (release : Conn → Op Conn β Unit) (conn : Conn) (sql : String) (binds : List Value)
    (body : List Row → Op Conn β Bool) : Op Conn β Bool :=
  prepared env release conn sql do
    match ← invoke (env.query conn sql binds) with
    | none =>
      release conn
      return false
    | some rows => body rows

/-- The exits of the operations that never give their connection back. -/
def keep (_ : Conn) : Op Conn β Unit := pure ()

/-! ## Operations on roles -/

def CreateRole (role_info : RoleInfo) : Op Conn Unit Bool :=
  withConnection keep fun conn =>
    executed env keep conn
      ("INSERT INTO role_base (account_id, server_id, role_name, career, " ++
        "level, exp, head_id, portrait_frame, create_time, last_login_time, " ++
        "is_deleted, delete_time) " ++
        "VALUES (?, ?, ?, ?, ?, ?, ?, ?, ?, ?, ?, ?)")
      [.int64 role_info.account_id, .int32 role_info.server_id, .string role_info.role_name,
        .int32 role_info.career, .int32 role_info.level, .int64 role_info.exp,
        .int32 role_info.head_id, .int32 role_info.portrait_frame, .int64 role_info.create_time,
        .int64 role_info.last_login_time, .int8 (role_info.is_deleted.setWidth 8),
        .int64 role_info.delete_time]
      (return true)

def UpdateRole (role_info : RoleInfo) : Op Conn Unit Bool :=
  withConnection keep fun conn =>
    executed env keep conn
      ("UPDATE role_base SET account_id=?, server_id=?, role_name=?, " ++
        "career=?, level=?, exp=?, head_id=?, portrait_frame=?, " ++
        "last_login_time=?, is_deleted=?, delete_time=? " ++
        "WHERE role_id=?")
      [.int64 role_info.account_id, .int32 role_info.server_id, .string role_info.role_name,
        .int32 role_info.career, .int32 role_info.level, .int64 role_info.exp,
        .int32 role_info.head_id, .int32 role_info.portrait_frame,
        .int64 role_info.last_login_time, .int8 (role_info.is_deleted.setWidth 8),
        .int64 role_info.delete_time, .int64 role_info.role_id]
      (return true)

def DeleteRole (role_id : BitVec 64) : Op Conn Unit Bool :=
  withConnection keep fun conn =>
    executed env keep conn "DELETE FROM role_base WHERE role_id=?" [.int64 role_id] (return true)

/-- The columns of `role_base`, as both queries select them. -/
def RoleInfo.ofRow (result : Row) : RoleInfo where
  role_id := result.getInt64 0
  account_id := result.getInt64 1
  server_id := result.getInt32 2
  role_name := result.getString 3
  career := result.getInt32 4
  level := result.getInt32 5
  exp := result.getInt64 6
  head_id := result.getInt32 7
  portrait_frame := result.getInt32 8
  create_time := result.getInt64 9
  last_login_time := result.getInt64 10
  is_deleted := (result.getInt8 11).signExtend 32
  delete_time := result.getInt64 12

def GetRoleData (role_id : BitVec 64) : Op Conn RoleInfo Bool :=
  withConnection keep fun conn =>
    queried env keep conn
      ("SELECT role_id, account_id, server_id, role_name, career, " ++
        "level, exp, head_id, portrait_frame, create_time, last_login_time, " ++
        "is_deleted, delete_time FROM role_base WHERE role_id=?")
      [.int64 role_id] fun
      | [] => return false
      | result :: _ => do
        assign (.ofRow result)
        return true

def GetRoleList (account_id : BitVec 64) : Op Conn (List RoleInfo) Bool :=
  withConnection keep fun conn =>
    queried env keep conn
      ("SELECT role_id, account_id, server_id, role_name, career, " ++
        "level, exp, head_id, portrait_frame, create_time, last_login_time, " ++
        "is_deleted, delete_time FROM role_base WHERE account_id=?")
      [.int64 account_id] fun rows => do
        assign (rows.map .ofRow)
        return true

/-! ## Operations on accounts -/

/-- `CreateAccount` asks for the id of the new account where the connection does not give it. -/
def retrieveId (conn : Conn) (account_name : String) : Op Conn (BitVec 64) Unit := do
  if (← Call.gets Prod.snd) = 0 then
    let query_sql := "SELECT account_id FROM account WHERE account_name = ?"
    if ← invoke (env.prepare conn query_sql) then
      match ← invoke (env.query conn query_sql [.string account_name]) with
      | some (result :: _) => assign (result.getInt64 0)
      | _ => pure ()

def CreateAccount (account_name password : String) (channel : BitVec 32) :
    Op Conn (BitVec 64) Bool :=
  withConnection ReleaseDBConnection fun conn =>
    executed env ReleaseDBConnection conn
      ("INSERT INTO account (account_name, password, channel, create_time, " ++
        "last_login_time, is_sealed, seal_end_time) VALUES (?, ?, ?, ?, ?, ?, ?)")
      [.string account_name, .string (env.Sha1Hash password), .int32 channel, .int64 env.time,
        .int64 env.time, .int32 0, .int64 0] do
      assign (env.getLastInsertId conn)
      retrieveId env conn account_name
      let account_id ← Call.gets Prod.snd
      ReleaseDBConnection conn
      return decide (0 < account_id)

def VerifyAccount (account_name password : String) : Op Conn (BitVec 64) Bool :=
  withConnection ReleaseDBConnection fun conn =>
    queried env ReleaseDBConnection conn
      "SELECT account_id, password FROM account WHERE account_name=?" [.string account_name] fun
      | [] => do
        ReleaseDBConnection conn
        return false
      | result :: _ => do
        assign (result.getInt64 0)
        let stored_password := result.getString 1
        let encrypted_password := env.md5 password
        ReleaseDBConnection conn
        return stored_password == encrypted_password

/-- The columns that `GetAccountInfo` selects; the other fields stay as the caller has them. -/
def AccountInfo.load (account_info : AccountInfo) (result : Row) : AccountInfo :=
  { account_info with
    account_id := result.getInt64 0
    account_name := result.getString 1
    channel := result.getInt32 2
    create_time := result.getInt64 3
    last_login_time := result.getInt64 4
    is_sealed := result.getInt32 5 != 0
    seal_end_time := result.getInt64 6 }

def GetAccountInfo (account_id : BitVec 64) : Op Conn AccountInfo Bool := do
  match ← GetAccountFromCache account_id with
  | some info =>
    assign info
    return true
  | none =>
    withConnection ReleaseDBConnection fun conn =>
      queried env ReleaseDBConnection conn
        ("SELECT account_id, account_name, channel, create_time, last_login_time, " ++
          "is_sealed, seal_end_time FROM account WHERE account_id=?")
        [.int64 account_id] fun
        | [] => do
          ReleaseDBConnection conn
          return false
        | result :: _ => do
          let account_info ← Call.gets fun s => s.2.load result
          assign account_info
          UpdateAccountCache account_info
          ReleaseDBConnection conn
          return true

/-- After a successful statement, `SealAccount` and `UnsealAccount` change a cached entry. -/
def sealCached (account_id : BitVec 64) (is_sealed : Bool) (seal_end_time : BitVec 64) :
    Op Conn Unit Unit := do
  match ← GetAccountFromCache account_id with
  | some info =>
    UpdateAccountCache { info with is_sealed := is_sealed, seal_end_time := seal_end_time }
  | none => pure ()

def SealAccount (account_id seal_end_time : BitVec 64) : Op Conn Unit Bool :=
  withConnection ReleaseDBConnection fun conn =>
    executed env ReleaseDBConnection conn
      "UPDATE account SET is_sealed=1, seal_end_time=? WHERE account_id=?"
      [.int64 seal_end_time, .int64 account_id] do
      sealCached account_id true seal_end_time
      ReleaseDBConnection conn
      return true

def UnsealAccount (account_id : BitVec 64) : Op Conn Unit Bool :=
  withConnection ReleaseDBConnection fun conn =>
    executed env ReleaseDBConnection conn
      "UPDATE account SET is_sealed=0, seal_end_time=0 WHERE account_id=?"
      [.int64 account_id] do
      sealCached account_id false 0
      ReleaseDBConnection conn
      return true

def IsAccountSealed (account_id : BitVec 64) : Op Conn Unit Bool := do
  match ← GetAccountFromCache account_id with
  | some info => return info.is_sealed && env.time.slt info.seal_end_time
  | none =>
    withConnection keep fun conn =>
      queried env keep conn "SELECT is_sealed, seal_end_time FROM account WHERE account_id=?"
        [.int64 account_id] fun
        | [] => return false
        | result :: _ => return result.getInt32 0 != 0 && env.time.slt (result.getInt64 1)

def RecordLoginLog (account_id : BitVec 64) (channel : BitVec 32)
    (version uuid idfa imodel imei : String) (ip : BitVec 32) : Op Conn Unit Bool :=
  withConnection ReleaseDBConnection fun conn => do
    if account_id = 0 then
      ReleaseDBConnection conn
      return false
    executed env ReleaseDBConnection conn
      ("INSERT INTO account_login_log (account_id, login_time, login_ip, " ++
        "channel, version, uuid, idfa, imodel, imei) VALUES (?, ?, ?, ?, ?, " ++
        "?, ?, ?, ?)")
      [.int64 account_id, .int64 env.time, .int32 ip, .int32 channel, .string version,
        .string uuid, .string idfa, .string imodel, .string imei] do
      ReleaseDBConnection conn
      return true

/-! ## One operation after the other -/

/-- An operation with its arguments, among them the value its caller's variable has. -/
inductive Operation
  | CreateRole (role_info : RoleInfo)
  | UpdateRole (role_info : RoleInfo)
  | DeleteRole (role_id : BitVec 64)
  | GetRoleData (role_id : BitVec 64) (role_info : RoleInfo)
  | GetRoleList (account_id : BitVec 64) (roles : List RoleInfo)
  | CreateAccount (account_name password : String) (channel : BitVec 32)
      (account_id : BitVec 64)
  | VerifyAccount (account_name password : String) (account_id : BitVec 64)
  | GetAccountInfo (account_id : BitVec 64) (account_info : AccountInfo)
  | SealAccount (account_id seal_end_time : BitVec 64)
  | UnsealAccount (account_id : BitVec 64)
  | IsAccountSealed (account_id : BitVec 64)
  | RecordLoginLog (account_id : BitVec 64) (channel : BitVec 32)
      (version uuid idfa imodel imei : String) (ip : BitVec 32)

/-- The call of an operation on the service, with a variable that has the value `v`. -/
def perform (x : Op Conn β Bool) (v : β) : Call String (DBService Conn) Bool := fun s =>
  match x (s, v) with
  | .ret b s' => .ret b s'.1
  | .throw what s' => .throw what s'.1
  | .undef => .undef

def Operation.call : Operation → Call String (DBService Conn) Bool
  | .CreateRole role_info => perform (Database.CreateRole env role_info) ()
  | .UpdateRole role_info => perform (Database.UpdateRole env role_info) ()
  | .DeleteRole role_id => perform (Database.DeleteRole env role_id) ()
  | .GetRoleData role_id role_info => perform (Database.GetRoleData env role_id) role_info
  | .GetRoleList account_id roles => perform (Database.GetRoleList env account_id) roles
  | .CreateAccount account_name password channel account_id =>
    perform (Database.CreateAccount env account_name password channel) account_id
  | .VerifyAccount account_name password account_id =>
    perform (Database.VerifyAccount env account_name password) account_id
  | .GetAccountInfo account_id account_info =>
    perform (Database.GetAccountInfo env account_id) account_info
  | .SealAccount account_id seal_end_time =>
    perform (Database.SealAccount env account_id seal_end_time) ()
  | .UnsealAccount account_id => perform (Database.UnsealAccount env account_id) ()
  | .IsAccountSealed account_id => perform (Database.IsAccountSealed env account_id) ()
  | .RecordLoginLog account_id channel version uuid idfa imodel imei ip =>
    perform (Database.RecordLoginLog env account_id channel version uuid idfa imodel imei ip) ()

/-- An operation, with whatever it meets. -/
def step (s : DBService Conn) (l : Env Conn × Operation) (s' : DBService Conn) : Prop :=
  ∃ success, l.2.call l.1 s = .ret success s'

/-- The operations that give back the connection they take, and those that take none. -/
def GivesBack (s : DBService Conn) : Operation → Prop
  | .CreateRole _ | .UpdateRole _ | .DeleteRole _ | .GetRoleData _ _ | .GetRoleList _ _ =>
    s.db_connections = []
  | .IsAccountSealed account_id => account_id ∈ s.account_cache ∨ s.db_connections = []
  | _ => True

/-! ## What the parts leave in the pool -/

/-- The call has changed the pool to `pool'` if it returns, and not at all if it throws. -/
def Ends {α : Type} (pool pool' : List Conn) : Out String (DBService Conn × β) α → Prop
  | .ret _ s' => s'.1.db_connections = pool'
  | .throw _ s' => s'.1.db_connections = pool
  | .undef => False

/-- A part of a `try` block: it changes the pool by `f` where it returns. -/
def Leaves {α : Type} (f : List Conn → List Conn) (x : Op Conn β α) : Prop :=
  ∀ s, Ends s.1.db_connections (f s.1.db_connections) (x s)

/-- What an exit does with the connection: it changes the pool by `f` and never throws. -/
def Exits (f : List Conn → List Conn) (x : Op Conn β Unit) : Prop :=
  ∀ s, ∃ s', x s = .ret () s' ∧ s'.1.db_connections = f s.1.db_connections

section
variable {α γ : Type} {env : Env Conn} {f : List Conn → List Conn} {conn : Conn}
  {release : Conn → Op Conn β Unit}

theorem Leaves.bind {x : Op Conn β α} {k : α → Op Conn β γ} (hx : Leaves id x)
    (hk : ∀ a, Leaves f (k a)) : Leaves f (x >>= k) := by
  intro s
  have h1 := hx s
  show Ends _ _ (Call.bind x k s)
  unfold Call.bind
  cases hxs : x s with
  | ret a t =>
    rw [hxs] at h1
    have h2 := hk a t
    rw [show t.1.db_connections = s.1.db_connections from h1] at h2
    exact h2
  | throw what t => rw [hxs] at h1; exact h1
  | undef => rw [hxs] at h1; exact h1

theorem Exits.bind_pure {x : Op Conn β Unit} (hx : Exits f x) (b : α) :
    Leaves f (x >>= fun _ => pure b) := by
  intro s
  obtain ⟨s', hret, hpool⟩ := hx s
  rw [Call.bind_ret hret]
  exact hpool

theorem leaves_pure (a : α) : Leaves id (pure a : Op Conn β α) := fun _ => rfl

theorem leaves_gets (g : DBService Conn × β → α) : Leaves id (Call.gets g : Op Conn β α) :=
  fun _ => rfl

theorem GetAccountFromCache_ret (account_id : BitVec 64) (s : DBService Conn × β) :
    GetAccountFromCache account_id s = .ret (s.1.account_cache.lookup account_id) s := rfl

theorem leaves_assign (v : β) : Leaves id (assign v : Op Conn β Unit) := fun _ => rfl

theorem leaves_update (info : AccountInfo) : Leaves id (UpdateAccountCache info : Op Conn β Unit) :=
  fun _ => rfl

theorem leaves_invoke (outcome : Except String α) : Leaves id (invoke outcome : Op Conn β α) := by
  intro s
  cases outcome <;> rfl

theorem exits_release (conn : Conn) :
    Exits (· ++ [conn]) (ReleaseDBConnection conn : Op Conn β Unit) := fun _ => ⟨_, rfl, rfl⟩

theorem exits_keep (conn : Conn) : Exits id (keep conn : Op Conn β Unit) := fun _ => ⟨_, rfl, rfl⟩

theorem leaves_prepared {sql : String} {body : Op Conn β Bool} (hrelease : Exits f (release conn))
    (hbody : Leaves f body) : Leaves f (prepared env release conn sql body) := by
  refine (leaves_invoke _).bind fun stmt => ?_
  cases stmt with
  | false => exact hrelease.bind_pure false
  | true => exact hbody

theorem leaves_executed {sql : String} {binds : List Value} {body : Op Conn β Bool}
    (hrelease : Exits f (release conn)) (hbody : Leaves f body) :
    Leaves f (executed env release conn sql binds body) := by
  refine leaves_prepared hrelease ((leaves_invoke _).bind fun result => ?_)
  by_cases h : result = 0
  · rw [if_pos h]; exact hrelease.bind_pure false
  · rw [if_neg h]; exact hbody

theorem leaves_queried {sql : String} {binds : List Value} {body : List Row → Op Conn β Bool}
    (hrelease : Exits f (release conn)) (hbody : ∀ rows, Leaves f (body rows)) :
    Leaves f (queried env release conn sql binds body) := by
  refine leaves_prepared hrelease ((leaves_invoke _).bind fun result => ?_)
  cases result with
  | none => exact hrelease.bind_pure false
  | some rows => exact hbody rows

theorem leaves_sealCached {account_id seal_end_time : BitVec 64} {is_sealed : Bool} :
    Leaves id (sealCached account_id is_sealed seal_end_time : Op Conn Unit Unit) := by
  refine (leaves_gets _).bind fun info => ?_
  cases info with
  | none => exact leaves_pure ()
  | some info => exact leaves_update _

/-- Whatever happens, the operation returns; it has changed the pool without its last connection
    as its exits do. -/
theorem withConnection_ret {g : Conn → List Conn → List Conn} {body : Conn → Op Conn β Bool}
    (hrelease : ∀ conn, Exits (g conn) (release conn)) (hbody : ∀ conn, Leaves (g conn) (body conn))
    (s : DBService Conn × β) : ∃ success s', withConnection release body s = .ret success s' ∧
      s'.1.db_connections = match s.1.db_connections.getLast? with
        | none => s.1.db_connections
        | some conn => g conn s.1.db_connections.dropLast := by
  cases hlast : s.1.db_connections.getLast? with
  | none =>
    have hget : (GetDBConnection : Op Conn β _) s = .ret none s := by rw [GetDBConnection, hlast]
    exact ⟨false, s, Call.bind_ret hget, rfl⟩
  | some conn =>
    let s₁ : DBService Conn × β := ({ s.1 with db_connections := s.1.db_connections.dropLast }, s.2)
    have hget : (GetDBConnection : Op Conn β _) s = .ret (some conn) s₁ := by
      rw [GetDBConnection, hlast]
    rw [withConnection, Call.bind_ret hget]
    have h1 := hbody conn s₁
    simp only [guarded]
    cases hx : body conn s₁ with
    | ret success t => rw [hx] at h1; exact ⟨success, t, rfl, h1⟩
    | throw what t =>
      -- the handler runs on the pool as it was when the block began
      rw [hx] at h1
      obtain ⟨u, hret, hpool⟩ := hrelease conn t
      refine ⟨false, u, Call.bind_ret hret, ?_⟩
      rw [hpool, show t.1.db_connections = s₁.1.db_connections from h1]
    | undef => rw [hx] at h1; exact h1.elim

theorem withConnection_gives {body : Conn → Op Conn β Bool}
    (hbody : ∀ conn, Leaves (· ++ [conn]) (body conn)) (s : DBService Conn × β) :
    ∃ success s', withConnection ReleaseDBConnection body s = .ret success s' ∧
      s'.1.db_connections = s.1.db_connections := by
  obtain ⟨success, s', hret, hpool⟩ := withConnection_ret exits_release hbody s
  refine ⟨success, s', hret, hpool.trans ?_⟩
  cases hlast : s.1.db_connections.getLast? with
  | none => rfl
  | some conn => exact List.dropLast_append_getLast? conn hlast

theorem withConnection_keeps {body : Conn → Op Conn β Bool} (hbody : ∀ conn, Leaves id (body conn))
    (s : DBService Conn × β) : ∃ success s', withConnection keep body s = .ret success s' ∧
      s'.1.db_connections = s.1.db_connections.dropLast := by
  obtain ⟨success, s', hret, hpool⟩ := withConnection_ret exits_keep hbody s
  refine ⟨success, s', hret, hpool.trans ?_⟩
  cases hlast : s.1.db_connections.getLast? with
  | none => rw [List.getLast?_eq_none_iff.1 hlast]; rfl
  | some conn => rfl

/-! ## Each operation -/

theorem leaves_retrieveId {account_name : String} :
    Leaves id (retrieveId env conn account_name) := by
  refine (leaves_gets _).bind fun account_id => ?_
  by_cases h0 : account_id = 0
  · rw [if_pos h0]
    refine (leaves_invoke _).bind fun query_stmt => ?_
    cases query_stmt with
    | false => exact leaves_pure ()
    | true =>
      refine (leaves_invoke _).bind fun result => ?_
      rcases result with _ | _ | ⟨result, rows⟩
      · exact leaves_pure ()
      · exact leaves_pure ()
      · exact leaves_assign _
  · rw [if_neg h0]
    exact leaves_pure ()

theorem CreateRole_ret (role_info : RoleInfo) (s : DBService Conn × Unit) :
    ∃ success s', CreateRole env role_info s = .ret success s' ∧
      s'.1.db_connections = s.1.db_connections.dropLast :=
  withConnection_keeps (fun conn => leaves_executed (exits_keep conn) (leaves_pure true)) s

theorem UpdateRole_ret (role_info : RoleInfo) (s : DBService Conn × Unit) :
    ∃ success s', UpdateRole env role_info s = .ret success s' ∧
      s'.1.db_connections = s.1.db_connections.dropLast :=
  withConnection_keeps (fun conn => leaves_executed (exits_keep conn) (leaves_pure true)) s

theorem DeleteRole_ret (role_id : BitVec 64) (s : DBService Conn × Unit) :
    ∃ success s', DeleteRole env role_id s = .ret success s' ∧
      s'.1.db_connections = s.1.db_connections.dropLast :=
  withConnection_keeps (fun conn => leaves_executed (exits_keep conn) (leaves_pure true)) s

theorem GetRoleData_ret (role_id : BitVec 64) (s : DBService Conn × RoleInfo) :
    ∃ success s', GetRoleData env role_id s = .ret success s' ∧
      s'.1.db_connections = s.1.db_connections.dropLast := by
  refine withConnection_keeps (fun conn => leaves_queried (exits_keep conn) fun rows => ?_) s
  cases rows with
  | nil => exact leaves_pure false
  | cons result rows => exact (leaves_assign _).bind fun _ => leaves_pure true

theorem GetRoleList_ret (account_id : BitVec 64) (s : DBService Conn × List RoleInfo) :
    ∃ success s', GetRoleList env account_id s = .ret success s' ∧
      s'.1.db_connections = s.1.db_connections.dropLast :=
  withConnection_keeps (fun conn => leaves_queried (exits_keep conn) fun _ =>
    (leaves_assign _).bind fun _ => leaves_pure true) s

theorem CreateAccount_ret (account_name password : String) (channel : BitVec 32)
    (s : DBService Conn × BitVec 64) :
    ∃ success s', CreateAccount env account_name password channel s = .ret success s' ∧
      s'.1.db_connections = s.1.db_connections :=
  withConnection_gives (fun conn => leaves_executed (exits_release conn) <|
    (leaves_assign _).bind fun _ => leaves_retrieveId.bind fun _ => (leaves_gets _).bind fun _ =>
      (exits_release conn).bind_pure _) s

theorem VerifyAccount_ret (account_name password : String) (s : DBService Conn × BitVec 64) :
    ∃ success s', VerifyAccount env account_name password s = .ret success s' ∧
      s'.1.db_connections = s.1.db_connections := by
  refine withConnection_gives (fun conn => leaves_queried (exits_release conn) fun rows => ?_) s
  cases rows with
  | nil => exact (exits_release conn).bind_pure false
  | cons result rows => exact (leaves_assign _).bind fun _ => (exits_release conn).bind_pure _

theorem GetAccountInfo_ret (account_id : BitVec 64) (s : DBService Conn × AccountInfo) :
    ∃ success s', GetAccountInfo env account_id s = .ret success s' ∧
      s'.1.db_connections = s.1.db_connections := by
  rw [GetAccountInfo, Call.bind_ret (GetAccountFromCache_ret account_id s)]
  cases s.1.account_cache.lookup account_id with
  | some info => exact ⟨true, _, rfl, rfl⟩
  | none =>
    refine withConnection_gives (fun conn => leaves_queried (exits_release conn) fun rows => ?_) s
    cases rows with
    | nil => exact (exits_release conn).bind_pure false
    | cons result rows =>
      exact (leaves_gets _).bind fun _ => (leaves_assign _).bind fun _ =>
        (leaves_update _).bind fun _ => (exits_release conn).bind_pure true

theorem SealAccount_ret (account_id seal_end_time : BitVec 64) (s : DBService Conn × Unit) :
    ∃ success s', SealAccount env account_id seal_end_time s = .ret success s' ∧
      s'.1.db_connections = s.1.db_connections :=
  withConnection_gives (fun conn => leaves_executed (exits_release conn) <|
    leaves_sealCached.bind fun _ => (exits_release conn).bind_pure true) s

theorem UnsealAccount_ret (account_id : BitVec 64) (s : DBService Conn × Unit) :
    ∃ success s', UnsealAccount env account_id s = .ret success s' ∧
      s'.1.db_connections = s.1.db_connections :=
  withConnection_gives (fun conn => leaves_executed (exits_release conn) <|
    leaves_sealCached.bind fun _ => (exits_release conn).bind_pure true) s

theorem IsAccountSealed_ret (account_id : BitVec 64) (s : DBService Conn × Unit) :
    ∃ success s', IsAccountSealed env account_id s = .ret success s' ∧
      s'.1.db_connections = if account_id ∈ s.1.account_cache then s.1.db_connections
        else s.1.db_connections.dropLast := by
  rw [IsAccountSealed, Call.bind_ret (GetAccountFromCache_ret account_id s)]
  cases hcache : s.1.account_cache.lookup account_id with
  | some info =>
    rw [if_pos (Finmap.mem_of_lookup_eq_some hcache)]
    exact ⟨_, _, rfl, rfl⟩
  | none =>
    rw [if_neg (Finmap.lookup_eq_none.1 hcache)]
    refine withConnection_keeps (fun conn => leaves_queried (exits_keep conn) fun rows => ?_) s
    cases rows with
    | nil => exact leaves_pure false
    | cons result rows => exact leaves_pure _

theorem RecordLoginLog_ret (account_id : BitVec 64) (channel : BitVec 32)
    (version uuid idfa imodel imei : String) (ip : BitVec 32) (s : DBService Conn × Unit) :
    ∃ success s', RecordLoginLog env account_id channel version uuid idfa imodel imei ip s =
      .ret success s' ∧ s'.1.db_connections = s.1.db_connections := by
  refine withConnection_gives (fun conn => ?_) s
  by_cases h0 : account_id = 0
  · rw [if_pos h0]; exact (exits_release conn).bind_pure false
  · rw [if_neg h0]
    exact leaves_executed (exits_release conn) ((exits_release conn).bind_pure true)

/-- Whether an operation keeps the size of the pool. -/
def KeepsIff (x : Call String (DBService Conn) Bool) (s : DBService Conn) (cond : Prop) : Prop :=
  ∃ success s', x s = .ret success s' ∧
    (s'.db_connections.length = s.db_connections.length ↔ cond)

theorem keepsIff_of_gives {x : Op Conn β Bool} {v : β} {s : DBService Conn} {cond : Prop}
    (h : ∃ success s', x (s, v) = .ret success s' ∧ s'.1.db_connections = s.db_connections)
    (hcond : cond) : KeepsIff (perform x v) s cond := by
  obtain ⟨success, s', hret, hpool⟩ := h
  exact ⟨success, s'.1, by rw [perform, hret], by rw [hpool]; exact iff_of_true rfl hcond⟩

theorem keepsIff_of_keeps {x : Op Conn β Bool} {v : β} {s : DBService Conn} {cond : Prop}
    (h : ∃ success s', x (s, v) = .ret success s' ∧
      s'.1.db_connections = s.db_connections.dropLast)
    (hcond : cond ↔ s.db_connections = []) : KeepsIff (perform x v) s cond := by
  obtain ⟨success, s', hret, hpool⟩ := h
  refine ⟨success, s'.1, by rw [perform, hret], ?_⟩
  rw [hpool, List.length_dropLast, hcond, ← List.length_eq_zero_iff]
  omega

theorem call_keepsIff (env : Env Conn) (o : Operation) (s : DBService Conn) :
    KeepsIff (o.call env) s (GivesBack s o) := by
  cases o with
  | CreateRole role_info => exact keepsIff_of_keeps (CreateRole_ret role_info _) Iff.rfl
  | UpdateRole role_info => exact keepsIff_of_keeps (UpdateRole_ret role_info _) Iff.rfl
  | DeleteRole role_id => exact keepsIff_of_keeps (DeleteRole_ret role_id _) Iff.rfl
  | GetRoleData role_id role_info => exact keepsIff_of_keeps (GetRoleData_ret role_id _) Iff.rfl
  | GetRoleList account_id roles => exact keepsIff_of_keeps (GetRoleList_ret account_id _) Iff.rfl
  | CreateAccount account_name password channel account_id =>
    exact keepsIff_of_gives (CreateAccount_ret account_name password channel _) trivial
  | VerifyAccount account_name password account_id =>
    exact keepsIff_of_gives (VerifyAccount_ret account_name password _) trivial
  | GetAccountInfo account_id account_info =>
    exact keepsIff_of_gives (GetAccountInfo_ret account_id _) trivial
  | SealAccount account_id seal_end_time =>
    exact keepsIff_of_gives (SealAccount_ret account_id seal_end_time _) trivial
  | UnsealAccount account_id => exact keepsIff_of_gives (UnsealAccount_ret account_id _) trivial
  | IsAccountSealed account_id =>
    have h := @IsAccountSealed_ret _ env account_id (s, ())
    by_cases hcached : account_id ∈ s.account_cache
    · simp only [hcached, if_true] at h
      exact keepsIff_of_gives h (.inl hcached)
    · simp only [hcached, if_false] at h
      exact keepsIff_of_keeps h (or_iff_right hcached)
  | RecordLoginLog account_id channel version uuid idfa imodel imei ip =>
    exact keepsIff_of_gives
      (RecordLoginLog_ret account_id channel version uuid idfa imodel imei ip _) trivial

end

/-- **The pool keeps its size exactly over the operations that give back**, whatever they meet; over
    a run of such operations as well. -/
theorem kept_iff {Conn : Type} :
    (∀ (env : Env Conn) (o : Operation) (s : DBService Conn),
      ∃ success s', o.call env s = .ret success s' ∧
        (s'.db_connections.length = s.db_connections.length ↔ GivesBack s o)) ∧
    ∀ (s s' : DBService Conn) (ls : List (Env Conn × Operation)),
      Run (fun s l s' => GivesBack s l.2 ∧ step s l s') s ls s' →
        s'.db_connections.length = s.db_connections.length := by
  refine ⟨call_keepsIff, fun s s' ls hrun => ?_⟩
  refine hrun.invariant (P := fun t => t.db_connections.length = s.db_connections.length) ?_ rfl
  rintro t l u ht ⟨hgives, success, hcall⟩
  obtain ⟨success', u', hcall', hiff⟩ := call_keepsIff l.1 l.2 t
  rw [hcall] at hcall'
  cases hcall'
  exact (hiff.2 hgives).trans ht

/-- A database in which every call succeeds. -/
def working : Env ℕ where
  prepare _ _ := .ok true
  execute _ _ _ := .ok 0
  query _ _ _ := .ok (some [])
  getLastInsertId _ := 1
  time := 1000
  Sha1Hash := id
  md5 := id

/-- A seal and a login, with one connection. -/
theorem kept_two : ∃ s', Run step (⟨[1], ∅, ∅⟩ : DBService ℕ)
    [(working, .SealAccount 7 2000), (working, .VerifyAccount "ann" "pw" 0)] s' ∧
    s'.db_connections.length = 1 :=
  have hrun : Run (fun s l s' => GivesBack s l.2 ∧ step s l s') (⟨[1], ∅, ∅⟩ : DBService ℕ)
      [(working, .SealAccount 7 2000), (working, .VerifyAccount "ann" "pw" 0)] ⟨[1], ∅, ∅⟩ :=
    .cons ⟨trivial, false, rfl⟩ (.cons ⟨trivial, false, rfl⟩ (.nil _))
  ⟨_, hrun.mono fun _ _ _ h => h.2, kept_iff.2 _ _ _ hrun⟩

/-- **Five deleted roles use up the five connections**, though every statement succeeds. -/
theorem not_kept : ¬∀ (s s' : DBService ℕ) (ls : List (Env ℕ × Operation)),
    s.db_connections.length = 5 → Run step s ls s' → s'.db_connections ≠ [] := by
  intro h
  have hrun : Run step (⟨[1, 2, 3, 4, 5], ∅, ∅⟩ : DBService ℕ)
      (List.replicate 5 (working, .DeleteRole 7)) ⟨[], ∅, ∅⟩ :=
    .cons ⟨false, rfl⟩ (.cons ⟨false, rfl⟩ (.cons ⟨false, rfl⟩ (.cons ⟨false, rfl⟩
      (.cons ⟨false, rfl⟩ (.nil _)))))
  exact h _ _ _ rfl hrun rfl

end Ancfl.Game.Database
