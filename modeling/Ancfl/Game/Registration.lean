/-
  An account from `CreateAccount` to `VerifyAccount` of `DBService`.

  * `Sha1Hash` and `md5` are the texts of the two digests, in hexadecimal;
  * `Table`: the rows of `account`, which has two unique keys; `Inserted`: what
    the `INSERT` may have done to it; `Answers`: the rows that a `SELECT` gives;
  * `VerifyAccount_eq`: what a login returns, from the rows it gets;
  * `not_logsIn`: no password logs an account in that `CreateAccount` made.
-/
import Ancfl.Game.Database
import Ancfl.Lib.First

namespace Ancfl.Game.Registration

open Lib Database

/-! ## The two hashes -/

def hexDigit (c : ℕ) : Char := if 9 < c then Char.ofNat (c + 97 - 10) else Char.ofNat (c + 48)

def hexstring_from_data (data : List UInt8) : String :=
  .ofList (data.flatMap fun b => [hexDigit (b.toNat >>> 4 &&& 0xf), hexDigit (b.toNat &&& 0xf)])

/-- `std::hex << std::setw(2) << std::setfill('0')` -/
def hexPadded (b : UInt8) : List Char :=
  let digits := Nat.toDigits 16 b.toNat
  List.replicate (2 - digits.length) '0' ++ digits

/-- `SHA1` fills a digest of `SHA_DIGEST_LENGTH` bytes. -/
def Sha1Hash (SHA1 : String → Vector UInt8 20) (input : String) : String :=
  .ofList ((SHA1 input).toList.flatMap hexPadded)

/-- `md5sum` gives a digest of `MD5_DIGEST_LENGTH` bytes. -/
def md5 (md5sum : String → Vector UInt8 16) (data : String) : String :=
  hexstring_from_data (md5sum data).toList

theorem length_hexPadded (b : UInt8) : (hexPadded b).length = 2 := by
  have hdigits : (Nat.toDigits 16 b.toNat).length ≤ 2 :=
    (Nat.length_toDigits_le_iff (by decide) (by decide)).2 b.toNat_lt
  rw [hexPadded, List.length_append, List.length_replicate]
  omega

theorem length_flatMap_two {f : UInt8 → List Char} (hf : ∀ b, (f b).length = 2) (bytes : List UInt8) :
    (bytes.flatMap f).length = 2 * bytes.length := by
  induction bytes with
  | nil => rfl
  | cons b bytes ih =>
    rw [List.flatMap_cons, List.length_append, hf, ih, List.length_cons]
    omega

/-- **The two hashes never give the same text**: one has 40 digits, the other 32. -/
theorem Sha1Hash_ne_md5 (SHA1 : String → Vector UInt8 20) (md5sum : String → Vector UInt8 16)
    (p q : String) : Sha1Hash SHA1 p ≠ md5 md5sum q := by
  intro h
  have hlength := congrArg String.length h
  rw [Sha1Hash, md5, hexstring_from_data, String.length_ofList, String.length_ofList,
    length_flatMap_two length_hexPadded, length_flatMap_two (fun _ => rfl), Vector.length_toList,
    Vector.length_toList] at hlength
  omega

/-! ## The table -/

/-- The columns of `account` that a statement of `CreateAccount` or `VerifyAccount` names. -/
structure Account where
  account_id : BitVec 64
  account_name : String
  password : String
  channel : BitVec 32
  create_time : BitVec 64
  last_login_time : BitVec 64
  is_sealed : BitVec 32
  seal_end_time : BitVec 64
deriving DecidableEq

/-- `account`, with its primary key and `uk_account_name`. -/
structure Table where
  rows : List Account
  id_nodup : (rows.map Account.account_id).Nodup
  name_nodup : (rows.map Account.account_name).Nodup

def Table.named (t : Table) (account_name : String) : Option Account :=
  t.rows.find? fun a => a.account_name = account_name

/-- The row that the `INSERT` of `CreateAccount` stores with these parameters. -/
def Account.ofBinds (account_id : BitVec 64) : List Value → Option Account
  | [.string account_name, .string password, .int32 channel, .int64 create_time,
      .int64 last_login_time, .int32 is_sealed, .int64 seal_end_time] =>
    some ⟨account_id, account_name, password, channel, create_time, last_login_time, is_sealed,
      seal_end_time⟩
  | _ => none

/-- The statement has stored its row, or it has failed. -/
def Inserted (binds : List Value) (t t' : Table) : Prop :=
  t'.rows = t.rows ∨ ∃ account_id a, Account.ofBinds account_id binds = some a ∧
    t'.rows = t.rows ++ [a]

def insertSql : String :=
  "INSERT INTO account (account_name, password, channel, create_time, " ++
    "last_login_time, is_sealed, seal_end_time) VALUES (?, ?, ?, ?, ?, ?, ?)"

def selectSql : String := "SELECT account_id, password FROM account WHERE account_name=?"

variable {Conn : Type}

/-- What `CreateAccount` binds to the parameters of its `INSERT`. -/
def insertBinds (env : Env Conn) (account_name password : String) (channel : BitVec 32) : List Value :=
  [.string account_name, .string (env.Sha1Hash password), .int32 channel, .int64 env.time,
    .int64 env.time, .int32 0, .int64 0]

/-- The `INSERT` that `CreateAccount` executes on the table `t` leaves the table `t'`. -/
def Leaves (env : Env Conn) (binds : List Value) (t t' : Table) : Prop :=
  ∀ conn result, env.execute conn insertSql binds = .ok result → Inserted binds t t'

/-- A result row of the `SELECT` of `VerifyAccount`. -/
def Row.Shows (row : Row) (a : Account) : Prop :=
  row.getInt64 0 = a.account_id ∧ row.getString 1 = a.password

/-- A query by name gives the rows of that name, if it gives any answer. -/
def Answers (env : Env Conn) (t : Table) : Prop :=
  ∀ conn account_name rows, env.query conn selectSql [.string account_name] = .ok (some rows) →
    List.Forall₂ Row.Shows rows (t.rows.filter fun a => a.account_name = account_name)

theorem Table.named_eq_some_iff {t : Table} {account_name : String} {a : Account} :
    t.named account_name = some a ↔ a ∈ t.rows ∧ a.account_name = account_name :=
  find?_key_eq_some_iff t.name_nodup

/-! ## A login -/

/-- The rows that `VerifyAccount` gets. -/
def verifyRows (env : Env Conn) (account_name : String) (s : DBService Conn) : Option (List Row) :=
  match s.db_connections.getLast? with
  | none => none
  | some conn =>
    match env.prepare conn selectSql, env.query conn selectSql [.string account_name] with
    | .ok true, .ok rows => rows
    | _, _ => none

theorem VerifyAccount_eq (env : Env Conn) (account_name password : String) (s : DBService Conn)
    (account_id : BitVec 64) : VerifyAccount env account_name password (s, account_id) =
      match verifyRows env account_name s with
      | some (row :: _) => .ret (row.getString 1 == env.md5 password) (s, row.getInt64 0)
      | _ => .ret false (s, account_id) := by
  cases hlast : s.db_connections.getLast? with
  | none =>
    have hget : (GetDBConnection : Database.Op Conn (BitVec 64) _) (s, account_id) =
        .ret none (s, account_id) := by
      rw [GetDBConnection, hlast]
    rw [VerifyAccount, withConnection, Call.bind_ret hget, verifyRows, hlast]
    rfl
  | some conn =>
    -- every exit gives the connection back
    have hpool (v : BitVec 64) : (({ s with db_connections := s.db_connections.dropLast ++ [conn] }, v) :
        DBService Conn × BitVec 64) = (s, v) := by
      rw [List.dropLast_append_getLast? conn hlast]
    have hget : (GetDBConnection : Database.Op Conn (BitVec 64) _) (s, account_id) =
        .ret (some conn) ({ s with db_connections := s.db_connections.dropLast }, account_id) := by
      rw [GetDBConnection, hlast]
    rw [VerifyAccount, withConnection, Call.bind_ret hget, verifyRows, hlast]
    dsimp only [guarded, queried, prepared]
    rw [← selectSql]
    rcases hprepare : env.prepare conn selectSql with what | _ | _
    · exact congrArg (Out.ret false) (hpool account_id)
    · exact congrArg (Out.ret false) (hpool account_id)
    · rcases hquery : env.query conn selectSql [.string account_name] with what | _ | _ | ⟨row, rows⟩
      · exact congrArg (Out.ret false) (hpool account_id)
      · exact congrArg (Out.ret false) (hpool account_id)
      · exact congrArg (Out.ret false) (hpool account_id)
      · exact congrArg (Out.ret _) (hpool (row.getInt64 0))

section
variable {env : Env Conn} {t : Table} {account_name : String} {s : DBService Conn}

theorem Answers.cons (h : Answers env t) {row : Row} {rows : List Row}
    (hrows : verifyRows env account_name s = some (row :: rows)) :
    ∃ a, t.named account_name = some a ∧ Row.Shows row a := by
  rw [verifyRows] at hrows
  split at hrows
  · cases hrows
  · split at hrows
    · rename_i hquery
      rw [hrows] at hquery
      obtain ⟨a, as, hshows, -, hfilter⟩ := List.forall₂_cons_left_iff.1 (h _ _ _ hquery)
      have hmem : a ∈ t.rows.filter fun a => a.account_name = account_name := by
        rw [hfilter]
        exact List.mem_cons_self
      rw [List.mem_filter, decide_eq_true_iff] at hmem
      exact ⟨a, Table.named_eq_some_iff.2 hmem, hshows⟩
    · cases hrows

theorem Answers.nil (h : Answers env t) (hrows : verifyRows env account_name s = some []) :
    t.named account_name = none := by
  rw [verifyRows] at hrows
  split at hrows
  · cases hrows
  · split at hrows
    · rename_i hquery
      rw [hrows] at hquery
      have hfilter := List.forall₂_nil_left_iff.1 (h _ _ _ hquery)
      rw [Table.named, List.find?_eq_none]
      exact List.filter_eq_nil_iff.1 hfilter
    · cases hrows

end

/-! ## A registration and a login -/

/-- `CreateAccount` has returned true with `account_id`; the tables before and after it. -/
structure Registered (env : Env Conn) (t t' : Table) (account_name password : String)
    (channel : BitVec 32) (account_id : BitVec 64) : Prop where
  returned : ∃ s s', CreateAccount env account_name password channel s = .ret true s' ∧
    s'.2 = account_id
  not_named : t.named account_name = none
  leaves : Leaves env (insertBinds env account_name password channel) t t'

/-- Exactly one password logs the account in, and gives its id. -/
def LogsIn (env : Env Conn) (account_name password : String) (account_id : BitVec 64)
    (s : DBService Conn × BitVec 64) : Prop :=
  ∀ q, ((∃ s', VerifyAccount env account_name q s = .ret true s') ↔ q = password) ∧
    ∀ s', VerifyAccount env account_name q s = .ret true s' → s'.2 = account_id

/-- The hash of no other text is that of this one. -/
def Alone (hash : String → String) (p : String) : Prop := ∀ q, hash q = hash p → q = p

theorem ofBinds_insertBinds (env : Env Conn) (account_name password : String) (channel : BitVec 32)
    (account_id : BitVec 64) : Account.ofBinds account_id (insertBinds env account_name password channel) =
      some ⟨account_id, account_name, env.Sha1Hash password, channel, env.time, env.time, 0, 0⟩ := rfl

section
variable {β : Type} {env : Env Conn} {release : Conn → Database.Op Conn β Unit}
  {s s' : DBService Conn × β}

/-- An exit of an operation does not return true. -/
theorem exit_ne_true {conn : Conn} :
    (do release conn; return false : Database.Op Conn β Bool) s ≠ .ret true s' := by
  intro h
  obtain ⟨_, _, -, h⟩ := Call.bind_eq_ret.1 h
  cases h

theorem withConnection_true {body : Conn → Database.Op Conn β Bool}
    (h : withConnection release body s = .ret true s') : ∃ conn s₁, body conn s₁ = .ret true s' := by
  obtain ⟨conn, s₁, -, h⟩ := Call.bind_eq_ret.1 h
  cases conn with
  | none => cases h
  | some conn =>
    refine ⟨conn, s₁, ?_⟩
    dsimp only [guarded] at h
    split at h
    · exact absurd h exit_ne_true
    · exact h

theorem executed_true {conn : Conn} {sql : String} {binds : List Value} {body : Database.Op Conn β Bool}
    (h : executed env release conn sql binds body s = .ret true s') :
    ∃ result, env.execute conn sql binds = .ok result ∧ result ≠ 0 := by
  obtain ⟨stmt, s₁, -, h⟩ := Call.bind_eq_ret.1 h
  cases stmt with
  | false => exact absurd h exit_ne_true
  | true =>
    obtain ⟨result, s₂, hinvoke, h⟩ := Call.bind_eq_ret.1 h
    refine ⟨result, ?_, ?_⟩
    · cases hexecute : env.execute conn sql binds with
      | error what =>
        rw [hexecute] at hinvoke
        cases hinvoke
      | ok r =>
        rw [hexecute] at hinvoke
        exact congrArg Except.ok (Out.ret.inj hinvoke).1
    · rintro rfl
      exact exit_ne_true h

end

/-- A registration that returns true has executed its `INSERT`, which did not return 0. -/
theorem createAccount_executes {env : Env Conn} {account_name password : String} {channel : BitVec 32}
    {s s' : DBService Conn × BitVec 64}
    (h : CreateAccount env account_name password channel s = .ret true s') :
    ∃ conn result, env.execute conn insertSql (insertBinds env account_name password channel) =
      .ok result ∧ result ≠ 0 := by
  obtain ⟨conn, s₁, h⟩ := withConnection_true h
  exact ⟨conn, executed_true h⟩

/-- **No password logs in the account that `CreateAccount` made.** -/
theorem not_logsIn {SHA1 : String → Vector UInt8 20} {md5sum : String → Vector UInt8 16}
    {env env' : Env Conn} {t t' : Table} {account_name password : String} {channel : BitVec 32}
    {account_id : BitVec 64} (hsha1 : env.Sha1Hash = Sha1Hash SHA1) (hmd5 : env'.md5 = md5 md5sum)
    (hcreate : Registered env t t' account_name password channel account_id)
    (hanswers : Answers env' t') (s : DBService Conn × BitVec 64) :
    ¬LogsIn env' account_name password account_id s := by
  intro h
  obtain ⟨s', hlogin⟩ := (h password).1.2 rfl
  rw [VerifyAccount_eq] at hlogin
  split at hlogin
  · rename_i row rows hrows
    obtain ⟨a, ha, -, hpassword⟩ := hanswers.cons hrows
    obtain ⟨hmem, hname⟩ := Table.named_eq_some_iff.1 ha
    obtain ⟨_, _, hreturned, -⟩ := hcreate.returned
    obtain ⟨conn, result, hexecute, -⟩ := createAccount_executes hreturned
    have hold : a ∉ t.rows := fun hold => by
      have := hcreate.not_named
      rw [Table.named_eq_some_iff.2 ⟨hold, hname⟩] at this
      cases this
    -- the row that the login reads is the one of the registration
    have hstored : a.password = env.Sha1Hash password := by
      rcases hcreate.leaves conn result hexecute with hrows | ⟨id, b, hb, hrows⟩
      · rw [hrows] at hmem
        exact absurd hmem hold
      · rw [hrows, List.mem_append, List.mem_singleton] at hmem
        rw [hmem.resolve_left hold, Option.some.inj (hb.symm.trans (ofBinds_insertBinds ..))]
    have heq := (Out.ret.inj hlogin).1
    rw [beq_iff_eq, hpassword, hstored, hsha1, hmd5] at heq
    exact Sha1Hash_ne_md5 _ _ _ _ heq
  · cases hlogin

/-- The digests of `pw`, and zeros for any other text. -/
def sha1 (input : String) : Vector UInt8 20 :=
  if input = "pw" then
    #v[26, 145, 214, 47, 124, 166, 115, 153, 98, 90, 67, 104, 166, 171, 93, 74, 59, 170, 96, 115]
  else .replicate 20 0

def md5sum (data : String) : Vector UInt8 16 :=
  if data = "pw" then #v[143, 228, 193, 20, 81, 40, 28, 9, 74, 101, 120, 230, 221, 191, 94, 237]
  else .replicate 16 0

def Account.row (a : Account) : Row where
  getInt8 _ := 0
  getInt32 _ := 0
  getInt64 _ := a.account_id
  getString _ := a.password

/-- A database with the table `t`, in which every call succeeds. -/
def serving (t : Table) : Env ℕ where
  prepare _ _ := .ok true
  execute _ _ _ := .ok 1
  query _ _ binds := .ok <| some <| match binds with
    | [.string account_name] => (t.rows.filter fun a => a.account_name = account_name).map Account.row
    | _ => []
  getLastInsertId _ := 7
  time := 1000
  Sha1Hash := Sha1Hash sha1
  md5 := md5 md5sum

theorem serving_answers (t : Table) : Answers (serving t) t := by
  intro conn account_name rows h
  cases h
  rw [List.forall₂_map_left_iff, List.forall₂_same]
  exact fun a _ => ⟨rfl, rfl⟩

def noRows : Table := ⟨[], .nil, .nil⟩

def ann : Account := ⟨7, "ann", Sha1Hash sha1 "pw", 1, 1000, 1000, 0, 0⟩

def annOnly : Table := ⟨[ann], List.nodup_singleton _, List.nodup_singleton _⟩

theorem registered_ann : Registered (serving noRows) noRows annOnly "ann" "pw" 1 7 where
  returned := ⟨(⟨[1], ∅, ∅⟩, 0), (⟨[1], ∅, ∅⟩, 7), rfl, rfl⟩
  not_named := rfl
  leaves _ _ _ := .inr ⟨7, ann, rfl, rfl⟩

theorem not_logsIn_ann : Registered (serving noRows) noRows annOnly "ann" "pw" 1 7 ∧
    ¬LogsIn (serving annOnly) "ann" "pw" 7 (⟨[1], ∅, ∅⟩, 0) :=
  ⟨registered_ann, not_logsIn rfl rfl registered_ann (serving_answers _) _⟩

theorem alone_of_digests {hash : String → String} (h : hash "pw" ≠ hash "")
    (hother : ∀ q, q ≠ "pw" → hash q = hash "") : Alone hash "pw" := by
  intro q hq
  by_contra hne
  exact h (hq.symm.trans (hother q hne))

/-- **The password of the registration does not log in**, even with hashes that do not collide. -/
theorem not_registered_logsIn : ¬∀ (SHA1 : String → Vector UInt8 20) (md5sum : String → Vector UInt8 16)
    (env env' : Env ℕ) (t t' : Table) (account_name password : String) (channel : BitVec 32)
    (account_id : BitVec 64) (s : DBService ℕ × BitVec 64), env.Sha1Hash = Sha1Hash SHA1 →
    env'.md5 = md5 md5sum → Alone (Sha1Hash SHA1) password → Alone (md5 md5sum) password →
    Registered env t t' account_name password channel account_id → Answers env' t' →
    (verifyRows env' account_name s.1).isSome → LogsIn env' account_name password account_id s := by
  intro h
  have hsha1 : Alone (Sha1Hash sha1) "pw" := alone_of_digests (by decide) fun q hq => by
    rw [Sha1Hash, sha1, if_neg hq]
    rfl
  have hmd5 : Alone (md5 md5sum) "pw" := alone_of_digests (by decide) fun q hq => by
    rw [md5, md5sum, if_neg hq]
    rfl
  obtain ⟨s', hlogin⟩ := (h _ _ _ (serving annOnly) _ _ _ _ _ _ (⟨[1], ∅, ∅⟩, 0) rfl rfl hsha1
    hmd5 registered_ann (serving_answers _) rfl "pw").1.2 rfl
  rw [VerifyAccount_eq] at hlogin
  exact Sha1Hash_ne_md5 sha1 md5sum "pw" "pw" (beq_iff_eq.1 (Out.ret.inj hlogin).1)

end Ancfl.Game.Registration
