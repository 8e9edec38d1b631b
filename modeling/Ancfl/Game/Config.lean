/-
  The cached tables of `ConfigManager`.

  * `Query`: a statement as SQLite runs it, with all its rows, and the row
    after which a `sqlite3_step` fails, if one does; `ExecuteQuery` takes a
    failed step for the end;
  * `RowPtr`: a pointer into a vector of rows, the local one of `LoadConfig` or
    that of a cached table;
  * `allOrNothing_iff`: a reload is all or nothing iff no step of its `SELECT`
    fails before the last row; in every run the pointers of the cached tables
    are good, and `GetConfigRow` finds the last row with an id.
-/
import Ancfl.Lib.Call
import Ancfl.Lib.Int32
import Ancfl.Lib.Run
import Mathlib.Data.Finmap

namespace Ancfl.Game.Config

open Lib

/-! ## Rows and tables -/

inductive ConfigDataType
  | INT | FLOAT | STRING | BOOL
deriving DecidableEq

/-- `F` is `float`. -/
structure ConfigValue (F : Type) where
  type : ConfigDataType
  int_val : ℤ
  float_val : F
  str_val : List UInt8
  bool_val : Bool
deriving DecidableEq

abbrev ConfigRow (F : Type) := Finmap fun _ : String => ConfigValue F

/-- A pointer to a row: of `table` in `LoadConfig`, or of a table in `config_cache_`. -/
inductive RowPtr
  | table (i : ℕ)
  | cached_table (table_name : String) (i : ℕ)
deriving DecidableEq

structure ConfigTable (F : Type) where
  table_name : String
  columns : List (List UInt8)
  rows : List (ConfigRow F)
  id_index : Finmap fun _ : ℤ => RowPtr

structure ConfigManager (F : Type) where
  initialized : Bool
  config_cache : Finmap fun _ : String => ConfigTable F

/-! ## Queries -/

/-- A column of a row, with its value; a float as it is converted. -/
inductive Cell (F : Type)
  | INTEGER (v : ℤ)
  | FLOAT (v : F)
  | TEXT (v : List UInt8)
  | BLOB
  | NULL

/-- A statement as SQLite runs it. -/
structure Query (F : Type) where
  /-- `sqlite3_prepare_v2` returns `SQLITE_OK` -/
  prepared : Bool
  /-- `sqlite3_column_name`, for each column -/
  names : List String
  /-- all rows of the statement -/
  rows : List (List (Cell F))
  /-- the number of rows after which `sqlite3_step` fails, if it does -/
  fails : Option ℕ
  /-- what the fields of a `ConfigValue` hold that are not set, by row and column -/
  unset : ℕ → ℕ → ConfigValue F

variable {F : Type}

/-- The rows for which `sqlite3_step` returns `SQLITE_ROW`. -/
def Query.steps (q : Query F) : List (List (Cell F)) :=
  match q.fails with
  | none => q.rows
  | some n => q.rows.take n

def Cell.value (unset : ConfigValue F) (cell : Cell F) : ConfigValue F :=
  let value := { unset with type := .STRING, str_val := [] }
  match cell with
  | .INTEGER v => { value with type := .INT, int_val := toInt32 v }
  | .FLOAT v => { value with type := .FLOAT, float_val := v }
  -- a C string ends at its first 0
  | .TEXT v => { value with type := .STRING, str_val := v.takeWhile (· ≠ 0) }
  | .BLOB => { value with type := .STRING }
  | .NULL => { value with type := .INT, int_val := 0 }

/-- The loop over the columns, from column `i` on. -/
def fillRow (unset : ℕ → ConfigValue F) :
    List String → List (Cell F) → ℕ → ConfigRow F → ConfigRow F
  | name :: names, cell :: cells, i, row =>
    fillRow unset names cells (i + 1) (row.insert name (cell.value (unset i)))
  | _, _, _, row => row

/-- The loop over the rows, from row `i` on. -/
def readRows (q : Query F) : List (List (Cell F)) → ℕ → List (ConfigRow F)
  | [], _ => []
  | cells :: rows, i => fillRow (q.unset i) q.names cells 0 ∅ :: readRows q rows (i + 1)

def ExecuteQuery (q : Query F) : Option (List (ConfigRow F)) :=
  if q.prepared then some (readRows q q.steps 0) else none

/-- All rows of the statement, as they are stored. -/
def Query.all (q : Query F) : List (ConfigRow F) := readRows q q.rows 0

/-! ## Loading -/

/-- The loops that build `id_index`; `ptr i` is the pointer to row `i`. -/
def indexRows (ptr : ℕ → RowPtr) : List (ConfigRow F) → ℕ → (Finmap fun _ : ℤ => RowPtr) →
    Finmap fun _ : ℤ => RowPtr
  | [], _, id_index => id_index
  | row :: rows, i, id_index =>
    match row.lookup "id" with
    | some value => indexRows ptr rows (i + 1) (id_index.insert value.int_val (ptr i))
    | none => indexRows ptr rows (i + 1) id_index

/-- `sqlite` is what SQLite makes of the statements of the call. -/
def LoadConfig (sqlite : String → Query F) (table_name : String) (s : ConfigManager F) :
    Bool × ConfigManager F :=
  if !s.initialized then (false, s)
  else
    match ExecuteQuery (sqlite ("PRAGMA table_info(" ++ table_name ++ ")")) with
    | none => (false, s)
    | some columns_info =>
      if columns_info.isEmpty then (false, s)
      else
        let columns := columns_info.filterMap fun col => (col.lookup "name").map (·.str_val)
        match ExecuteQuery (sqlite ("SELECT * FROM " ++ table_name)) with
        | none => (false, s)
        | some rows =>
          let table : ConfigTable F := ⟨table_name, columns, rows, indexRows .table rows 0 ∅⟩
          -- `config_cache_[table_name] = table` copies the rows, and the index is built again
          let cached_table :=
            { table with id_index := indexRows (.cached_table table_name) table.rows 0 ∅ }
          (true, { s with config_cache := s.config_cache.insert table_name cached_table })

def ReloadConfig (sqlite : String → Query F) (table_name : String) (s : ConfigManager F) :
    Bool × ConfigManager F :=
  LoadConfig sqlite table_name s

/-- `opened` is whether `sqlite3_open` returns `SQLITE_OK`. -/
def Init (db_path : String) (opened : Bool) (s : ConfigManager F) : Bool × ConfigManager F :=
  if s.initialized then (true, s)
  else if db_path.isEmpty then (false, s)
  else if opened then (true, { s with initialized := true })
  else (false, s)

def Close (s : ConfigManager F) : ConfigManager F :=
  { s with config_cache := ∅, initialized := false }

/-- The row that a pointer points to; none if it is dangling. -/
def ConfigManager.deref (s : ConfigManager F) : RowPtr → Option (ConfigRow F)
  | .table _ => none
  | .cached_table table_name i =>
    (s.config_cache.lookup table_name).bind fun table => table.rows[i]?

/-- The row, if the call returns `true`. -/
def GetConfigRow (table_name : String) (id : ℤ) :
    Call Empty (ConfigManager F) (Option (ConfigRow F)) :=
  fun s =>
    match s.config_cache.lookup table_name with
    | none => .ret none s
    | some table =>
      match table.id_index.lookup id with
      | none => .ret none s
      | some ptr =>
        match s.deref ptr with
        | none => .undef
        | some row => .ret (some row) s

/-! ## The index -/

/-- The row has the id. -/
def HasId (row : ConfigRow F) (id : ℤ) : Prop := (row.lookup "id").map (·.int_val) = some id

/-- Row `i` is the last with the id. -/
def Last (rows : List (ConfigRow F)) (id : ℤ) (i : ℕ) : Prop :=
  (∃ row, rows[i]? = some row ∧ HasId row id) ∧
    ∀ i' row, i < i' → rows[i']? = some row → ¬HasId row id

/-- The index maps each id to the last cached row that has it. -/
def Indexed (table_name : String) (table : ConfigTable F) : Prop :=
  ∀ id ptr, table.id_index.lookup id = some ptr ↔
    ∃ i, Last table.rows id i ∧ ptr = .cached_table table_name i

theorem last_cons_succ {row : ConfigRow F} {rows : List (ConfigRow F)} {id : ℤ} {i : ℕ} :
    Last (row :: rows) id (i + 1) ↔ Last rows id i := by
  rw [Last, Last]
  refine and_congr Iff.rfl ⟨fun h i' row' hlt hrow => h (i' + 1) row' (by omega) hrow, ?_⟩
  rintro h (_ | i') row' hlt hrow
  · omega
  · exact h i' row' (by omega) hrow

theorem last_cons_zero {row : ConfigRow F} {rows : List (ConfigRow F)} {id : ℤ} :
    Last (row :: rows) id 0 ↔ HasId row id ∧ ∀ row' ∈ rows, ¬HasId row' id := by
  constructor
  · rintro ⟨⟨row', hrow, hid⟩, hlater⟩
    cases hrow
    refine ⟨hid, fun row' hmem => ?_⟩
    obtain ⟨i, hi⟩ := List.getElem?_of_mem hmem
    exact hlater (i + 1) row' (by omega) hi
  · rintro ⟨hid, hrest⟩
    refine ⟨⟨row, rfl, hid⟩, ?_⟩
    rintro (_ | i') row' hlt hrow
    · omega
    · exact hrest row' (List.mem_of_getElem? hrow)

/-- The index after the loop: the last row with the id, or what it had before. -/
theorem lookup_indexRows (ptr : ℕ → RowPtr) (rows : List (ConfigRow F)) (i : ℕ)
    (id_index : Finmap fun _ : ℤ => RowPtr) (id : ℤ) (p : RowPtr) :
    (indexRows ptr rows i id_index).lookup id = some p ↔
      (∃ k, Last rows id k ∧ p = ptr (i + k)) ∨
        (∀ row ∈ rows, ¬HasId row id) ∧ id_index.lookup id = some p := by
  induction rows generalizing i id_index with
  | nil => simp [indexRows, Last]
  | cons row rows ih =>
    -- the first row counts if no later one has the id
    have hfirst : (indexRows ptr (row :: rows) i id_index).lookup id = some p ↔
        (∃ k, Last rows id k ∧ p = ptr (i + 1 + k)) ∨ (∀ row' ∈ rows, ¬HasId row' id) ∧
          (HasId row id ∧ p = ptr i ∨ ¬HasId row id ∧ id_index.lookup id = some p) := by
      rw [indexRows]
      cases hid : row.lookup "id" with
      | none => simp only [ih, HasId, hid]; simp
      | some value =>
        simp only [ih, HasId, hid, Option.map_some, Option.some.injEq]
        rcases eq_or_ne id value.int_val with rfl | hne
        · simp [Finmap.lookup_insert, eq_comm]
        · simp [Finmap.lookup_insert_of_ne _ hne, hne.symm]
    rw [hfirst]
    constructor
    · rintro (⟨k, hk, rfl⟩ | ⟨hnone, ⟨hid, rfl⟩ | ⟨hid, hold⟩⟩)
      · exact .inl ⟨k + 1, last_cons_succ.2 hk, by congr 1; omega⟩
      · exact .inl ⟨0, last_cons_zero.2 ⟨hid, hnone⟩, rfl⟩
      · exact .inr ⟨List.forall_mem_cons.2 ⟨hid, hnone⟩, hold⟩
    · rintro (⟨_ | k, hk, rfl⟩ | ⟨hnone, hold⟩)
      · obtain ⟨hid, hrest⟩ := last_cons_zero.1 hk
        exact .inr ⟨hrest, .inl ⟨hid, rfl⟩⟩
      · exact .inl ⟨k, last_cons_succ.1 hk, by congr 1; omega⟩
      · obtain ⟨hid, hrest⟩ := List.forall_mem_cons.1 hnone
        exact .inr ⟨hrest, .inr ⟨hid, hold⟩⟩

theorem indexed_indexRows (table_name : String) (columns : List (List UInt8))
    (rows : List (ConfigRow F)) :
    Indexed table_name
      ⟨table_name, columns, rows, indexRows (.cached_table table_name) rows 0 ∅⟩ := by
  intro id ptr
  simp [lookup_indexRows]

/-! ## What a load does -/

/-- The call comes to the loop over the rows of its `SELECT`. -/
def Reaches (s : ConfigManager F) (sqlite : String → Query F) (table_name : String) : Prop :=
  s.initialized = true ∧
    (sqlite ("PRAGMA table_info(" ++ table_name ++ ")")).prepared = true ∧
    (sqlite ("PRAGMA table_info(" ++ table_name ++ ")")).steps ≠ [] ∧
    (sqlite ("SELECT * FROM " ++ table_name)).prepared = true

/-- No `sqlite3_step` fails before the last row. -/
def Query.Delivers (q : Query F) : Prop := ∀ n, q.fails = some n → q.rows.length ≤ n

/-- The table after a load: all rows and their index, or what it was. -/
def AllOrNothing (s : ConfigManager F) (sqlite : String → Query F) (table_name : String)
    (result : Bool × ConfigManager F) : Prop :=
  if result.1 then
    ∃ table, result.2.config_cache.lookup table_name = some table ∧
      table.rows = (sqlite ("SELECT * FROM " ++ table_name)).all ∧ Indexed table_name table ∧
      ∀ other, other ≠ table_name →
        result.2.config_cache.lookup other = s.config_cache.lookup other
  else result.2 = s

theorem length_readRows (q : Query F) (rows : List (List (Cell F))) (i : ℕ) :
    (readRows q rows i).length = rows.length := by
  induction rows generalizing i with
  | nil => rfl
  | cons cells rows ih => rw [readRows, List.length_cons, List.length_cons, ih]

theorem readRows_isEmpty (q : Query F) (rows : List (List (Cell F))) (i : ℕ) :
    (readRows q rows i).isEmpty = rows.isEmpty := by
  cases rows <;> rfl

/-- All rows are read iff no step fails before the last. -/
theorem readRows_steps_iff (q : Query F) : readRows q q.steps 0 = q.all ↔ q.Delivers := by
  rw [Query.Delivers, Query.all, Query.steps]
  cases q.fails with
  | none => simp
  | some n =>
    constructor
    · intro h m hm
      cases hm
      have hlen := congrArg List.length h
      rw [length_readRows, length_readRows, List.length_take] at hlen
      omega
    · intro h
      show readRows q (q.rows.take n) 0 = readRows q q.rows 0
      rw [List.take_of_length_le (h n rfl)]

theorem loadConfig_fails {s : ConfigManager F} {sqlite : String → Query F} {table_name : String}
    (h : ¬Reaches s sqlite table_name) : LoadConfig sqlite table_name s = (false, s) := by
  rw [LoadConfig]
  cases hinit : s.initialized with
  | false => simp
  | true =>
    rw [ExecuteQuery, ExecuteQuery]
    cases hpragma : (sqlite ("PRAGMA table_info(" ++ table_name ++ ")")).prepared with
    | false => simp
    | true =>
      by_cases hsteps : (sqlite ("PRAGMA table_info(" ++ table_name ++ ")")).steps = []
      · simp [hsteps, readRows]
      · cases hselect : (sqlite ("SELECT * FROM " ++ table_name)).prepared with
        | false => simp
        | true => exact absurd ⟨hinit, hpragma, hsteps, hselect⟩ h

/-- A load that comes so far caches the rows that it read, with their index. -/
theorem loadConfig_loads {s : ConfigManager F} {sqlite : String → Query F} {table_name : String}
    (h : Reaches s sqlite table_name) :
    ∃ table : ConfigTable F,
      LoadConfig sqlite table_name s =
        (true, { s with config_cache := s.config_cache.insert table_name table }) ∧
      table.rows = readRows (sqlite ("SELECT * FROM " ++ table_name))
        (sqlite ("SELECT * FROM " ++ table_name)).steps 0 ∧
      Indexed table_name table := by
  obtain ⟨hinit, hpragma, hsteps, hselect⟩ := h
  have hempty : (readRows (sqlite ("PRAGMA table_info(" ++ table_name ++ ")"))
      (sqlite ("PRAGMA table_info(" ++ table_name ++ ")")).steps 0).isEmpty = false := by
    rw [readRows_isEmpty, List.isEmpty_eq_false_iff]
    exact hsteps
  rw [LoadConfig, ExecuteQuery, ExecuteQuery, hinit, if_neg (by decide), if_pos hpragma,
    if_pos hselect]
  dsimp only
  rw [if_neg (by simp [hempty])]
  exact ⟨_, rfl, rfl, indexed_indexRows table_name _ _⟩

theorem loadConfig_iff (s : ConfigManager F) (sqlite : String → Query F) (table_name : String) :
    AllOrNothing s sqlite table_name (LoadConfig sqlite table_name s) ↔
      (Reaches s sqlite table_name → (sqlite ("SELECT * FROM " ++ table_name)).Delivers) := by
  by_cases hreach : Reaches s sqlite table_name
  · obtain ⟨table, hload, hrows, hindexed⟩ := loadConfig_loads hreach
    rw [hload, AllOrNothing, if_pos rfl, ← readRows_steps_iff]
    constructor
    · rintro ⟨table', hlook, hall, -⟩ -
      rw [Finmap.lookup_insert, Option.some.injEq] at hlook
      rw [← hrows, hlook, hall]
    · intro h
      refine ⟨table, Finmap.lookup_insert _, hrows.trans (h hreach), hindexed, ?_⟩
      exact fun other hne => Finmap.lookup_insert_of_ne _ hne
  · rw [loadConfig_fails hreach]
    simp [AllOrNothing, hreach]

/-! ## Runs -/

inductive Op (F : Type)
  | Init (db_path : String) (opened : Bool)
  | LoadConfig (sqlite : String → Query F) (table_name : String)
  | ReloadConfig (sqlite : String → Query F) (table_name : String)
  | Close

def step (s : ConfigManager F) : Op F → ConfigManager F
  | .Init db_path opened => (Init db_path opened s).2
  | .LoadConfig sqlite table_name => (LoadConfig sqlite table_name s).2
  | .ReloadConfig sqlite table_name => (ReloadConfig sqlite table_name s).2
  | .Close => Close s

/-- The manager as it is constructed. -/
def init (F : Type) : ConfigManager F := ⟨false, ∅⟩

/-- Each cached table has its index, by pointers into its own rows. -/
def Inv (s : ConfigManager F) : Prop :=
  ∀ table_name table, s.config_cache.lookup table_name = some table → Indexed table_name table

theorem loadConfig_inv {s : ConfigManager F} (h : Inv s) (sqlite : String → Query F)
    (table_name : String) : Inv (LoadConfig sqlite table_name s).2 := by
  by_cases hreach : Reaches s sqlite table_name
  · obtain ⟨table, hload, -, hindexed⟩ := loadConfig_loads hreach
    rw [hload]
    intro other table' hlook
    rcases eq_or_ne other table_name with rfl | hne
    · rw [Finmap.lookup_insert, Option.some.injEq] at hlook
      exact hlook ▸ hindexed
    · rw [Finmap.lookup_insert_of_ne _ hne] at hlook
      exact h other table' hlook
  · rw [loadConfig_fails hreach]
    exact h

theorem step_inv {s : ConfigManager F} (h : Inv s) (op : Op F) : Inv (step s op) := by
  cases op with
  | Init db_path opened =>
    rw [step, Init]
    split_ifs <;> exact h
  | LoadConfig sqlite table_name => exact loadConfig_inv h sqlite table_name
  | ReloadConfig sqlite table_name => exact loadConfig_inv h sqlite table_name
  | Close =>
    intro table_name table hlook
    simp [step, Close] at hlook

theorem run_inv {ops : List (Op F)} {s : ConfigManager F}
    (hrun : Run (fun s op t => step s op = t) (init F) ops s) : Inv s := by
  refine hrun.invariant (fun s op t hs hstep => hstep ▸ step_inv hs op) ?_
  intro table_name table hlook
  simp [init] at hlook

/-- The row is the last one with the id in the cached table. -/
def LastRow (s : ConfigManager F) (table_name : String) (id : ℤ) (row : ConfigRow F) : Prop :=
  ∃ table i, s.config_cache.lookup table_name = some table ∧ Last table.rows id i ∧
    table.rows[i]? = some row

/-- `GetConfigRow` follows a good pointer, to the last row with the id. -/
theorem getConfigRow_ret {s : ConfigManager F} (h : Inv s) (table_name : String) (id : ℤ) :
    ∃ found, GetConfigRow table_name id s = .ret found s ∧
      ∀ row, found = some row ↔ LastRow s table_name id row := by
  rw [GetConfigRow]
  cases htable : s.config_cache.lookup table_name with
  | none => exact ⟨none, rfl, by simp [LastRow, htable]⟩
  | some table =>
    have hindexed := h table_name table htable id
    dsimp only
    cases hptr : table.id_index.lookup id with
    | none =>
      refine ⟨none, rfl, fun row => ⟨nofun, ?_⟩⟩
      rintro ⟨table', i, htable', hlast, -⟩
      obtain rfl := Option.some.inj (htable.symm.trans htable')
      have := (hindexed _).2 ⟨i, hlast, rfl⟩
      rw [hptr] at this
      cases this
    | some ptr =>
      obtain ⟨i, hlast, rfl⟩ := (hindexed ptr).1 hptr
      obtain ⟨row, hrow, -⟩ := hlast.1
      have hderef : s.deref (.cached_table table_name i) = some row := by
        rw [ConfigManager.deref, htable]
        exact hrow
      dsimp only
      rw [hderef]
      refine ⟨some row, rfl, fun row' => ⟨?_, ?_⟩⟩
      · rintro ⟨⟩
        exact ⟨table, i, htable, hlast, hrow⟩
      · rintro ⟨table', i', htable', hlast', hrow'⟩
        obtain rfl := Option.some.inj (htable.symm.trans htable')
        have hsame := (hindexed _).2 ⟨i', hlast', rfl⟩
        rw [hptr, Option.some.injEq, RowPtr.cached_table.injEq] at hsame
        rw [← hrow, ← hrow', hsame.2]

/-- **A load in any run is all or nothing iff no step of its `SELECT` fails before the last row, and
    `GetConfigRow` finds the last cached row with an id.** -/
theorem allOrNothing_iff {ops : List (Op F)} {s : ConfigManager F}
    (hrun : Run (fun s op t => step s op = t) (init F) ops s) :
    (∀ sqlite table_name,
      (AllOrNothing s sqlite table_name (LoadConfig sqlite table_name s) ↔
        (Reaches s sqlite table_name → (sqlite ("SELECT * FROM " ++ table_name)).Delivers)) ∧
      (AllOrNothing s sqlite table_name (ReloadConfig sqlite table_name s) ↔
        (Reaches s sqlite table_name → (sqlite ("SELECT * FROM " ++ table_name)).Delivers))) ∧
    ∀ table_name id, ∃ found, GetConfigRow table_name id s = .ret found s ∧
      ∀ row, found = some row ↔ LastRow s table_name id row := by
  constructor
  · intro sqlite table_name
    exact ⟨loadConfig_iff s sqlite table_name, loadConfig_iff s sqlite table_name⟩
  · exact getConfigRow_ret (run_inv hrun)

/-- A table `t` of one column, `id`. -/
def tableT (ids : List ℤ) (fails : Option ℕ) (sql : String) : Query UInt32 :=
  if sql = "PRAGMA table_info(t)" then
    ⟨true, ["cid", "name"], [[.INTEGER 0, .TEXT [105, 100]]], none,
      fun _ _ => ⟨.INT, 0, 0, [], false⟩⟩
  else ⟨true, ["id"], ids.map fun i => [.INTEGER i], fails, fun _ _ => ⟨.INT, 0, 0, [], false⟩⟩

theorem allOrNothing_reload :
    ∃ s, Run (fun s op t => step s op = t) (init UInt32)
      [.Init "game.db" true, .LoadConfig (tableT [1, 2, 1] none) "t"] s ∧
    (AllOrNothing s (tableT [1, 2] none) "t" (ReloadConfig (tableT [1, 2] none) "t" s)) ∧
    ∃ found, GetConfigRow "t" 1 s = .ret found s ∧
      ∀ row, found = some row ↔ LastRow s "t" 1 row := by
  obtain ⟨s, hrun⟩ : ∃ s, Run (fun s op t => step s op = t) (init UInt32)
      [.Init "game.db" true, .LoadConfig (tableT [1, 2, 1] none) "t"] s :=
    ⟨_, .cons rfl (.cons rfl (.nil _))⟩
  obtain ⟨hloads, hrows⟩ := allOrNothing_iff hrun
  refine ⟨s, hrun, (hloads _ "t").2.2 fun _ => ?_, hrows "t" 1⟩
  rintro n ⟨⟩

/-- The first step of the `SELECT` fails: the load returns true, with no rows. -/
theorem not_allOrNothing :
    ¬∀ (ops : List (Op UInt32)) (s : ConfigManager UInt32),
      Run (fun s op t => step s op = t) (init UInt32) ops s → ∀ sqlite table_name,
        AllOrNothing s sqlite table_name (LoadConfig sqlite table_name s) := by
  intro h
  have hload := h [.Init "game.db" true] _ (.cons rfl (.nil _)) (tableT [1] (some 0)) "t"
  have hreach : Reaches (step (init UInt32) (.Init "game.db" true)) (tableT [1] (some 0)) "t" :=
    ⟨rfl, rfl, by simp [tableT, Query.steps], rfl⟩
  have := (loadConfig_iff _ _ _).1 hload hreach 0 rfl
  simp [tableT] at this

end Ancfl.Game.Config
