/-
  `MySQLTransaction`: a transaction on a connection that goes back to its pool.

  * `lifetime`: what `openTransaction`, the calls of the user and the destructor
    send on the connection; the server may fail any statement;
  * `closed_iff`: the last of `BEGIN`, `COMMIT` and `ROLLBACK` that is sent is
    not `BEGIN`, and no `COMMIT` follows a failure, iff the destructor does not
    find a failed transaction that it is to commit, and the user executes no
    `COMMIT` after a failure.
-/
import Mathlib.Data.Int.Notation
import Mathlib.Data.List.Basic
import Mathlib.Tactic.Common

namespace Ancfl.Db

/-! ## Transactions -/

/-- What `mysql_query` returns for a statement, after the statements that were sent before. -/
abbrev Server := List String → String → ℤ

/-- `sent` are the statements that were sent on the connection, with what `mysql_query` returned. -/
structure MySQLTransaction where
  sent : List (String × ℤ)
  m_autoCommit : Bool
  m_isFinished : Bool
  m_hasError : Bool
deriving DecidableEq

namespace MySQLTransaction

variable (server : Server)

def new (auto_commit : Bool) : MySQLTransaction := ⟨[], auto_commit, false, false⟩

def execute (sql : String) (t : MySQLTransaction) : ℤ × MySQLTransaction :=
  if t.m_isFinished then (-1, t)
  else
    let rt := server (t.sent.map Prod.fst) sql
    let t := { t with sent := t.sent ++ [(sql, rt)] }
    (rt, if rt ≠ 0 then { t with m_hasError := true } else t)

def begin (t : MySQLTransaction) : Bool × MySQLTransaction :=
  let (rt, t) := execute server "BEGIN" t
  (rt = 0, t)

def commit (t : MySQLTransaction) : Bool × MySQLTransaction :=
  if t.m_isFinished || t.m_hasError then (!t.m_hasError, t)
  else
    let (rt, t) := execute server "COMMIT" t
    (rt = 0, if rt = 0 then { t with m_isFinished := true } else { t with m_hasError := true })

def rollback (t : MySQLTransaction) : Bool × MySQLTransaction :=
  if t.m_isFinished then (true, t)
  else
    let (rt, t) := execute server "ROLLBACK" t
    (rt = 0, if rt = 0 then { t with m_isFinished := true } else { t with m_hasError := true })

/-- The destructor. -/
def destroy (t : MySQLTransaction) : MySQLTransaction :=
  if t.m_autoCommit then (commit server t).2 else (rollback server t).2

end MySQLTransaction

open MySQLTransaction

/-- A call of the user; `sql` is the statement after its format was filled in. -/
inductive Call
  | execute (sql : String)
  | commit
  | rollback
deriving DecidableEq

section
variable (server : Server)

def Call.run (t : MySQLTransaction) : Call → MySQLTransaction
  | .execute sql => (MySQLTransaction.execute server sql t).2
  | .commit => (MySQLTransaction.commit server t).2
  | .rollback => (MySQLTransaction.rollback server t).2

/-- What `openTransaction`, the calls of the user and the destructor send.  If `BEGIN` fails, there is
    no object to call. -/
def lifetime (auto_commit : Bool) (cs : List Call) : List (String × ℤ) :=
  let (begun, t) := begin server (new auto_commit)
  (destroy server (if begun then cs.foldl (Call.run server) t else t)).sent

/-- The calls that are made on the object, that of `Create` first. -/
def performed (cs : List Call) : List Call :=
  .execute "BEGIN" :: if server [] "BEGIN" = 0 then cs else []

end

/-! ## What is to hold, and when -/

/-- The last of the statements that begin or end a transaction. -/
def lastControl (sent : List String) : Option String :=
  (sent.filter fun sql => sql = "BEGIN" ∨ sql = "COMMIT" ∨ sql = "ROLLBACK").getLast?

/-- No transaction is left open. -/
def Closed (sent : List (String × ℤ)) : Prop := lastControl (sent.map Prod.fst) ≠ some "BEGIN"

/-- `COMMIT` is sent only if no statement has failed. -/
def CommitsSound (sent : List (String × ℤ)) : Prop :=
  ∀ before rt later, sent = before ++ ("COMMIT", rt) :: later → ∀ x ∈ before, x.2 = 0

/-- The statements that the user executes. -/
def executed (cs : List Call) : List String :=
  cs.filterMap fun
    | .execute sql => some sql
    | _ => none

section
variable (server : Server)

/-- After the statements `sent`, one fails before any `commit()` or `rollback()`, and no `rollback()`
    follows. -/
def Spoiled : List String → List Call → Prop
  | _, [] => False
  | sent, .execute sql :: cs =>
    if server sent sql = 0 then Spoiled (sent ++ [sql]) cs else .rollback ∉ cs
  | _, .commit :: _ | _, .rollback :: _ => False

/-- The user executes `COMMIT` after a failure, before any `rollback()`; `failed` is whether a
    statement has failed already. -/
def CommitsLate : Bool → List String → List Call → Prop
  | _, _, [] => False
  | failed, sent, .execute sql :: cs =>
    failed = true ∧ sql = "COMMIT" ∨
      CommitsLate (failed || server sent sql ≠ 0) (sent ++ [sql]) cs
  | failed, sent, .commit :: cs => failed = true ∧ CommitsLate failed sent cs
  | _, _, .rollback :: _ => False

end

/-! ## A run of calls -/

section
variable {server : Server} {t : MySQLTransaction} {cs : List Call}

theorem run_of_finished (h : t.m_isFinished = true) (c : Call) : c.run server t = t := by
  cases c <;> simp [Call.run, MySQLTransaction.execute, commit, rollback, h]

theorem foldl_of_finished (h : t.m_isFinished = true) : cs.foldl (Call.run server) t = t := by
  induction cs with
  | nil => rfl
  | cons c cs ih => rw [List.foldl_cons, run_of_finished h, ih]

theorem destroy_of_finished (h : t.m_isFinished = true) : destroy server t = t := by
  simp [destroy, commit, rollback, h]

/-- A statement of an open transaction. -/
theorem run_execute (server : Server) (h : t.m_isFinished = false) (sql : String) :
    (Call.execute sql).run server t = { t with
      sent := t.sent ++ [(sql, server (t.sent.map Prod.fst) sql)]
      m_hasError := t.m_hasError || server (t.sent.map Prod.fst) sql ≠ 0 } := by
  obtain ⟨sent, auto, finished, error⟩ := t
  obtain rfl : finished = false := h
  by_cases hrt : server (sent.map Prod.fst) sql = 0
  · simp [Call.run, MySQLTransaction.execute, hrt]
  · simp [Call.run, MySQLTransaction.execute, hrt]

section
variable (hserver : ∀ sent, server sent "COMMIT" = 0 ∧ server sent "ROLLBACK" = 0)
include hserver

/-- `rollback()` ends an open transaction. -/
theorem rollback_open (h : t.m_isFinished = false) :
    (rollback server t).2 =
      { t with sent := t.sent ++ [("ROLLBACK", 0)], m_isFinished := true } := by
  simp [rollback, MySQLTransaction.execute, h, (hserver _).2]

/-- `commit()` ends an open transaction without a failure. -/
theorem commit_open (h : t.m_isFinished = false) (herror : t.m_hasError = false) :
    (commit server t).2 = { t with sent := t.sent ++ [("COMMIT", 0)], m_isFinished := true } := by
  simp [commit, MySQLTransaction.execute, h, herror, (hserver _).1]

end

/-- `commit()` does nothing after a failure. -/
theorem commit_failed (herror : t.m_hasError = true) : (commit server t).2 = t := by
  simp [commit, herror]

theorem lifetime_eq (server : Server) (auto_commit : Bool) (cs : List Call) :
    lifetime server auto_commit cs =
      (destroy server ((performed server cs).foldl (Call.run server) (new auto_commit))).sent := by
  have hbegin : (begin server (new auto_commit)).1 = decide (server [] "BEGIN" = 0) := rfl
  have hrun : (begin server (new auto_commit)).2 =
      (Call.execute "BEGIN").run server (new auto_commit) := rfl
  rw [lifetime, performed, List.foldl_cons, ← hrun]
  dsimp only
  rw [hbegin]
  by_cases h : server [] "BEGIN" = 0
  · rw [decide_eq_true h, if_pos rfl, if_pos h]
  · rw [decide_eq_false h, if_neg Bool.false_ne_true, if_neg h, List.foldl_nil]

/-! ## The end of the transaction -/

theorem lastControl_snoc (sent : List String) {sql : String} (h : sql = "COMMIT" ∨ sql = "ROLLBACK") :
    lastControl (sent ++ [sql]) = some sql := by
  have hcontrol : sql = "BEGIN" ∨ sql = "COMMIT" ∨ sql = "ROLLBACK" := .inr h
  rw [lastControl, List.filter_append, List.filter_cons_of_pos (by simpa using hcontrol),
    List.filter_nil, List.getLast?_append, List.getLast?_singleton]
  rfl

/-- After `COMMIT` or `ROLLBACK` no transaction is open. -/
theorem closed_snoc (sent : List (String × ℤ)) {sql : String} (rt : ℤ)
    (h : sql = "COMMIT" ∨ sql = "ROLLBACK") : Closed (sent ++ [(sql, rt)]) := by
  rw [Closed, List.map_append, List.map_singleton, lastControl_snoc _ h]
  rcases h with rfl | rfl <;> decide

section
variable (hserver : ∀ sent, server sent "COMMIT" = 0 ∧ server sent "ROLLBACK" = 0)
include hserver

/-- After a failure only `rollback()` ends the transaction, or the destructor if it is to. -/
theorem closed_failed (h : t.m_isFinished = false) (herror : t.m_hasError = true) :
    Closed (destroy server (cs.foldl (Call.run server) t)).sent ↔
      (t.m_autoCommit = true → .rollback ∉ cs →
        lastControl (t.sent.map Prod.fst ++ executed cs) ≠ some "BEGIN") := by
  induction cs generalizing t with
  | nil =>
    rw [List.foldl_nil, executed, List.filterMap_nil, List.append_nil, destroy]
    cases hauto : t.m_autoCommit with
    | true =>
      rw [if_pos rfl, commit_failed herror]
      simp [Closed]
    | false =>
      rw [if_neg Bool.false_ne_true, rollback_open hserver h]
      simp [closed_snoc]
  | cons c cs ih =>
    rw [List.foldl_cons]
    cases c with
    | execute sql =>
      have hrun := run_execute server h sql
      refine (ih (by rw [hrun]; exact h) (by rw [hrun]; simp [herror])).trans ?_
      rw [hrun]
      simp [executed]
    | commit =>
      rw [Call.run, commit_failed herror, ih h herror]
      simp [executed]
    | rollback =>
      rw [Call.run, rollback_open hserver h, foldl_of_finished rfl, destroy_of_finished rfl]
      simp [closed_snoc]

/-- Without a failure so far. -/
theorem closed_open (h : t.m_isFinished = false) (herror : t.m_hasError = false) :
    Closed (destroy server (cs.foldl (Call.run server) t)).sent ↔
      (t.m_autoCommit = true → Spoiled server (t.sent.map Prod.fst) cs →
        lastControl (t.sent.map Prod.fst ++ executed cs) ≠ some "BEGIN") := by
  induction cs generalizing t with
  | nil =>
    rw [List.foldl_nil, destroy]
    split_ifs
    · rw [commit_open hserver h herror]
      simp [closed_snoc, Spoiled]
    · rw [rollback_open hserver h]
      simp [closed_snoc, Spoiled]
  | cons c cs ih =>
    rw [List.foldl_cons]
    cases c with
    | execute sql =>
      have hrun := run_execute server h sql
      have hopen : ((Call.execute sql).run server t).m_isFinished = false := by rw [hrun]; exact h
      by_cases hrt : server (t.sent.map Prod.fst) sql = 0
      · refine (ih hopen (by rw [hrun]; simp [herror, hrt])).trans ?_
        rw [hrun]
        simp [executed, Spoiled, hrt]
      · refine (closed_failed hserver hopen (by rw [hrun]; simp [hrt])).trans ?_
        rw [hrun]
        simp [executed, Spoiled, hrt]
    | commit =>
      rw [Call.run, commit_open hserver h herror, foldl_of_finished rfl, destroy_of_finished rfl]
      simp [closed_snoc, Spoiled]
    | rollback =>
      rw [Call.run, rollback_open hserver h, foldl_of_finished rfl, destroy_of_finished rfl]
      simp [closed_snoc, Spoiled]

end

/-! ## Commits -/

theorem commitsSound_snoc (sent : List (String × ℤ)) (sql : String) (rt : ℤ) :
    CommitsSound (sent ++ [(sql, rt)]) ↔
      CommitsSound sent ∧ (sql = "COMMIT" → ∀ x ∈ sent, x.2 = 0) := by
  constructor
  · refine fun h => ⟨fun before rt' later heq => ?_, ?_⟩
    · exact h before rt' (later ++ [(sql, rt)]) (by rw [heq]; simp)
    · rintro rfl
      exact h sent rt [] rfl
  · rintro ⟨h, hlast⟩ before rt' later heq
    rcases List.eq_nil_or_concat later with rfl | ⟨init, x, rfl⟩
    · obtain ⟨rfl, hx⟩ := List.append_inj' heq rfl
      exact hlast (Prod.mk.inj (List.singleton_inj.1 hx)).1
    · rw [List.concat_eq_append, ← List.cons_append, ← List.append_assoc] at heq
      obtain ⟨hinit, -⟩ := List.append_inj' heq rfl
      exact h before rt' init hinit

/-- The flag tells whether a statement has failed. -/
def Marked (t : MySQLTransaction) : Prop := t.m_hasError = false ↔ ∀ x ∈ t.sent, x.2 = 0

theorem marked_execute (hm : Marked t) (h : t.m_isFinished = false) (sql : String) :
    Marked ((Call.execute sql).run server t) := by
  rw [run_execute server h]
  refine Bool.or_eq_false_iff.trans ((and_congr_left fun _ => hm).trans ?_)
  simp [or_imp, forall_and]

theorem commitsSound_rollback (sent : List (String × ℤ)) (rt : ℤ) :
    CommitsSound (sent ++ [("ROLLBACK", rt)]) ↔ CommitsSound sent := by
  rw [commitsSound_snoc, and_iff_left fun heq => absurd heq (by decide)]

theorem commitsSound_commit (hm : Marked t) (herror : t.m_hasError = false) (rt : ℤ) :
    CommitsSound (t.sent ++ [("COMMIT", rt)]) ↔ CommitsSound t.sent := by
  rw [commitsSound_snoc, and_iff_left fun _ => hm.1 herror]

/-- The commits of the transaction and of its destructor follow no failure. -/
theorem commitsSound_iff (hserver : ∀ sent, server sent "COMMIT" = 0 ∧ server sent "ROLLBACK" = 0)
    (h : t.m_isFinished = false) (hm : Marked t) :
    CommitsSound (destroy server (cs.foldl (Call.run server) t)).sent ↔
      CommitsSound t.sent ∧ ¬CommitsLate server t.m_hasError (t.sent.map Prod.fst) cs := by
  induction cs generalizing t with
  | nil =>
    rw [List.foldl_nil, CommitsLate, and_iff_left not_false, destroy]
    split_ifs
    · cases herror : t.m_hasError with
      | true => rw [commit_failed herror]
      | false => rw [commit_open hserver h herror, commitsSound_commit hm herror]
    · rw [rollback_open hserver h, commitsSound_rollback]
  | cons c cs ih =>
    rw [List.foldl_cons]
    cases c with
    | execute sql =>
      have hrun := run_execute server h sql
      refine (ih (by rw [hrun]; exact h) (marked_execute hm h sql)).trans ?_
      rw [hrun, CommitsLate, commitsSound_snoc]
      have hzero : (∀ x ∈ t.sent, x.2 = 0) ↔ ¬t.m_hasError = true := by
        rw [Bool.not_eq_true]
        exact Iff.symm hm
      rw [hzero, List.map_append, List.map_singleton]
      tauto
    | commit =>
      rw [Call.run, CommitsLate]
      cases herror : t.m_hasError with
      | true =>
        rw [commit_failed herror]
        refine (ih h hm).trans ?_
        simp [herror]
      | false =>
        rw [commit_open hserver h herror, foldl_of_finished rfl, destroy_of_finished rfl,
          commitsSound_commit hm herror]
        simp
    | rollback =>
      rw [Call.run, rollback_open hserver h, foldl_of_finished rfl, destroy_of_finished rfl,
        commitsSound_rollback, CommitsLate, and_iff_left not_false]

end

/-! ## Finished objects -/

/-- **A finished transaction object**: it leaves no transaction open and commits none that failed, iff
    it is not to commit one that was spoiled, in which the user left a transaction open, and the user
    executes no `COMMIT` after a failure. -/
theorem closed_iff (server : Server) (auto_commit : Bool) (cs : List Call)
    (hserver : ∀ sent, server sent "COMMIT" = 0 ∧ server sent "ROLLBACK" = 0) :
    Closed (lifetime server auto_commit cs) ∧ CommitsSound (lifetime server auto_commit cs) ↔
      (auto_commit = true → Spoiled server [] (performed server cs) →
        lastControl (executed (performed server cs)) ≠ some "BEGIN") ∧
      ¬CommitsLate server false [] (performed server cs) := by
  have hmarked : Marked (new auto_commit) := by simp [Marked, new]
  have hsound : CommitsSound (new auto_commit).sent := by simp [CommitsSound, new]
  rw [lifetime_eq]
  refine and_congr (closed_open hserver rfl rfl) ((commitsSound_iff hserver rfl hmarked).trans ?_)
  exact and_iff_right hsound

/-- A server on which every statement but `sql` succeeds. -/
def failing (sql : String) : Server := fun _ sql' => if sql' = sql then 1 else 0

/-- A failure is rolled back. -/
theorem closed_rolled_back :
    Closed (lifetime (failing "bad") true [.execute "bad", .rollback]) ∧
      CommitsSound (lifetime (failing "bad") true [.execute "bad", .rollback]) := by
  refine (closed_iff (failing "bad") true _ fun _ => ⟨rfl, rfl⟩).2 ⟨fun _ h => ?_, ?_⟩
  · simp [performed, failing, Spoiled] at h
  · simp [performed, failing, CommitsLate]

/-- **A failed transaction stays open**: the destructor neither commits nor rolls it back. -/
theorem not_closed : ¬∀ (server : Server) (auto_commit : Bool) (cs : List Call),
    (∀ sent, server sent "COMMIT" = 0 ∧ server sent "ROLLBACK" = 0) →
    Closed (lifetime server auto_commit cs) ∧ CommitsSound (lifetime server auto_commit cs) := by
  intro h
  refine (h (failing "bad") true [.execute "bad"] fun _ => ⟨rfl, rfl⟩).1 ?_
  decide

end Ancfl.Db
