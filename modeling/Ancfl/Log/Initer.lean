/-
  The `logs` configuration: `LogIniter` sets the loggers up when it changes.

  * `Logger`, `LogAppender`: what the listener reads and writes of them;
  * `LogDefine` with the comparison of the source, `LogSet` a configuration;
  * `assign`: `setValue` with the listener, on the set in force and the loggers;
  * `inForce_iff`: after each assignment the loggers are as the current set
    describes, if and only if entries that compare equal describe the same.
-/
import Ancfl.Lib.First
import Ancfl.Lib.Run
import Ancfl.Lib.Update
import Mathlib.Data.List.Chain
import Mathlib.Data.String.Basic

namespace Ancfl.Log

open Lib

/-! ## Loggers -/

inductive LogLevel
  | UNKNOW
  | DEBUG
  | INFO
  | WARN
  | ERROR
  | FATAL
deriving DecidableEq

/-- What an appender was made with. -/
inductive Target
  | FileLogAppender (filename : String)
  | StdoutLogAppender
  | TimeSlicingFileLogAppender (path namePrefix suffix : String) (interval : BitVec 64)
      (timeformat beginTime : String)
deriving DecidableEq

/-- A formatter is named by its pattern. -/
structure LogAppender where
  target : Target
  m_level : LogLevel
  m_hasFormatter : Bool
  m_formatter : Option String
deriving DecidableEq

structure Logger where
  m_level : LogLevel
  m_formatter : String
  m_appenders : List LogAppender
deriving DecidableEq

/-- `Logger(name)` -/
def Logger.new : Logger := ⟨.DEBUG, "%d\x7b%Y-%m-%d %H:%M:%S\x7d%T%t%T%N%T%F%T[%p]%T[%c]%T%f:%l%T%m%n", []⟩

def LogAppender.new (target : Target) : LogAppender := ⟨target, .DEBUG, false, none⟩

namespace Logger

variable (l : Logger)

def setLevel (val : LogLevel) : Logger := { l with m_level := val }

def clearAppenders : Logger := { l with m_appenders := [] }

/-- `isError` is what the formatter of a pattern says. -/
def setFormatter (isError : String → Bool) (val : String) : Logger :=
  if isError val then l
  else { l with
    m_formatter := val
    m_appenders := l.m_appenders.map fun i =>
      if !i.m_hasFormatter then { i with m_formatter := some val } else i }

def addAppender (appender : LogAppender) : Logger :=
  let appender :=
    if appender.m_formatter = none then { appender with m_formatter := some l.m_formatter } else appender
  { l with m_appenders := l.m_appenders ++ [appender] }

end Logger

/-! ## The configuration -/

structure LogAppenderDefine where
  type : ℤ
  level : LogLevel
  formatter : String
  file : String
  path : String
  namePrefix : String
  suffix : String
  beginTime : String
  interval : BitVec 64
  fmt : String
deriving DecidableEq

/-- `operator==` -/
instance : BEq LogAppenderDefine where
  beq a oth := decide (a.type = oth.type) && decide (a.level = oth.level) &&
    decide (a.formatter = oth.formatter) && decide (a.file = oth.file)

structure LogDefine where
  name : String
  level : LogLevel
  formatter : String
  appenders : List LogAppenderDefine

/-- `operator==`; the appenders are compared with themselves. -/
instance : BEq LogDefine where
  beq a oth := decide (a.name = oth.name) && decide (a.level = oth.level) &&
    decide (a.formatter = oth.formatter) && a.appenders == a.appenders

/-- What an appender is made with; for other types there is none. -/
def LogAppenderDefine.target (a : LogAppenderDefine) : Option Target :=
  if a.type = 1 then some (.FileLogAppender a.file)
  else if a.type = 2 then some .StdoutLogAppender
  else if a.type = 3 then
    some (.TimeSlicingFileLogAppender a.path a.namePrefix a.suffix a.interval a.fmt a.beginTime)
  else none

section
variable (isError : String → Bool) (d : Bool)

/-- The turn of the loop over the appenders; where none was made, a null pointer is used. -/
def addDefined (logger : Logger) (a : LogAppenderDefine) : Option Logger :=
  if a.type = 2 ∧ d then some logger
  else a.target.map fun target =>
    let ap := { LogAppender.new target with m_level := a.level }
    logger.addAppender
      (if a.formatter ≠ "" ∧ isError a.formatter = false then
        { ap with m_formatter := some a.formatter, m_hasFormatter := true }
      else ap)

/-- A logger that is new or has changed. -/
def configure (i : LogDefine) (logger : Logger) : Option Logger :=
  let logger := logger.setLevel i.level
  let logger := if i.formatter ≠ "" then logger.setFormatter isError i.formatter else logger
  i.appenders.foldlM (addDefined isError d) logger.clearAppenders

/-- The turn of the loop over the new set. -/
def update (old_value : List LogDefine) (i : LogDefine) (logger : Logger) : Option Logger :=
  match old_value.find? (·.name = i.name) with
  | none => configure isError d i logger
  | some it => if !(i == it) then configure isError d i logger else some logger

/-- The turn of the loop over the old set. -/
def remove (new_value : List LogDefine) (i : LogDefine) (logger : Logger) : Logger :=
  match new_value.find? (·.name = i.name) with
  | none => (logger.setLevel .UNKNOW).clearAppenders
  | some _ => logger

/-- The listener. -/
def onChange (old_value new_value : List LogDefine) (m_loggers : String → Logger) :
    Option (String → Logger) := do
  let m_loggers ← new_value.foldlM
    (fun m i => (update isError d old_value i (m i.name)).map (Function.update m i.name)) m_loggers
  old_value.foldlM
    (fun m i => (some (remove new_value i (m i.name))).map (Function.update m i.name)) m_loggers

end

/-! ## Assigning a set -/

/-- A `std::set<LogDefine>` whose formatters are valid. -/
structure LogSet (isError : String → Bool) where
  defines : List LogDefine
  sorted : defines.Pairwise fun i j => i.name < j.name
  valid : ∀ i ∈ defines, (i.formatter ≠ "" → isError i.formatter = false) ∧
    ∀ a ∈ i.appenders, a.formatter ≠ "" → isError a.formatter = false

/-- The value of the variable and the loggers, with the last value that was assigned. -/
structure Logs where
  m_val : List LogDefine
  m_loggers : String → Logger
  current : List LogDefine

/-- `setValue(v)`, without the option `-d`. -/
def assign (isError : String → Bool) (v : List LogDefine) (s : Logs) : Option Logs :=
  if v == s.m_val then some { s with current := v }
  else (onChange isError false s.m_val v s.m_loggers).map fun m_loggers => ⟨v, m_loggers, v⟩

/-- The appender of an entry, of a logger with the formatter. -/
def LogAppenderDefine.appender (a : LogAppenderDefine) (m_formatter : String) : Option LogAppender :=
  a.target.map fun target =>
    ⟨target, a.level, a.formatter ≠ "", some (if a.formatter ≠ "" then a.formatter else m_formatter)⟩

def made (as : List LogAppenderDefine) (m_formatter : String) : Option (List LogAppender) :=
  as.mapM fun a => a.appender m_formatter

/-- The logger is as the entry describes. -/
structure Describes (i : LogDefine) (l : Logger) : Prop where
  level_eq : l.m_level = i.level
  formatter_eq : i.formatter ≠ "" → l.m_formatter = i.formatter
  appenders_eq : made i.appenders l.m_formatter = some l.m_appenders

/-- After the assignment of `v` to `s`. -/
structure InForce (s : Logs) (v : List LogDefine) (t : Logs) : Prop where
  describes : ∀ i ∈ v, Describes i (t.m_loggers i.name)
  removed : ∀ j ∈ s.current, j.name ∉ v.map LogDefine.name → (t.m_loggers j.name).m_appenders = []

/-- What counts of an entry for an appender. -/
def LogAppenderDefine.described (a : LogAppenderDefine) : Option Target × LogLevel × String :=
  (a.target, a.level, a.formatter)

/-- All appenders have a type of the source, and entries that compare equal describe the same ones. -/
structure Compatible (prev v : List LogDefine) : Prop where
  targets : ∀ i ∈ v, ∀ a ∈ i.appenders, a.type = 1 ∨ a.type = 2 ∨ a.type = 3
  same : ∀ i ∈ v, ∀ j ∈ prev, i.name = j.name → i.level = j.level → i.formatter = j.formatter →
    i.appenders.map LogAppenderDefine.described = j.appenders.map LogAppenderDefine.described

/-! ## One logger -/

section
variable {isError : String → Bool} {i j : LogDefine} {a : LogAppenderDefine} {l l' : Logger}

theorem addDefined_eq (ha : a.formatter ≠ "" → isError a.formatter = false) :
    addDefined isError false l a =
      (a.appender l.m_formatter).map fun ap => { l with m_appenders := l.m_appenders ++ [ap] } := by
  have hd : ¬(a.type = 2 ∧ false = true) := fun h => nomatch h.2
  rw [addDefined, if_neg hd, LogAppenderDefine.appender, Option.map_map]
  refine congrArg (Option.map · a.target) (funext fun target => ?_)
  by_cases hf : a.formatter ≠ ""
  · simp [hf, ha hf, Logger.addAppender, LogAppender.new]
  · simp [hf, Logger.addAppender, LogAppender.new]

theorem foldlM_addDefined {as : List LogAppenderDefine}
    (has : ∀ a ∈ as, a.formatter ≠ "" → isError a.formatter = false) :
    as.foldlM (addDefined isError false) l =
      (made as l.m_formatter).map fun aps => { l with m_appenders := l.m_appenders ++ aps } := by
  induction as generalizing l with
  | nil => simp [made]
  | cons a as ih =>
    rw [List.foldlM_cons, addDefined_eq (has a (by simp)), made, List.mapM_cons]
    cases a.appender l.m_formatter with
    | none => rfl
    | some ap =>
      show as.foldlM (addDefined isError false) { l with m_appenders := l.m_appenders ++ [ap] } = _
      rw [ih fun b hb => has b (by simp [hb])]
      show Option.map _ (made as l.m_formatter) =
        Option.map _ (Option.bind (made as l.m_formatter) fun aps => some (ap :: aps))
      cases made as l.m_formatter with
      | none => rfl
      | some aps => simp

/-- A logger that is configured is as described. -/
theorem configure_eq (hi : i.formatter ≠ "" → isError i.formatter = false)
    (has : ∀ a ∈ i.appenders, a.formatter ≠ "" → isError a.formatter = false) :
    configure isError false i l =
      (made i.appenders (if i.formatter ≠ "" then i.formatter else l.m_formatter)).map fun aps =>
        ⟨i.level, if i.formatter ≠ "" then i.formatter else l.m_formatter, aps⟩ := by
  rw [configure, foldlM_addDefined has]
  by_cases hf : i.formatter ≠ ""
  · rw [if_pos hf, if_pos hf, Logger.setFormatter, hi hf]
    rfl
  · rw [if_neg hf, if_neg hf]
    rfl

theorem made_cons {as : List LogAppenderDefine} {f : String} {aps : List LogAppender} :
    made (a :: as) f = some aps ↔
      ∃ ap aps', a.appender f = some ap ∧ made as f = some aps' ∧ aps = ap :: aps' := by
  rw [made, List.mapM_cons]
  constructor
  · intro h
    obtain ⟨ap, hap, h⟩ := Option.bind_eq_some_iff.1 h
    obtain ⟨aps', haps, h⟩ := Option.bind_eq_some_iff.1 h
    exact ⟨ap, aps', hap, haps, (Option.some.inj h).symm⟩
  · rintro ⟨ap, aps', hap, haps, rfl⟩
    exact Option.bind_eq_some_iff.2 ⟨ap, hap, Option.bind_eq_some_iff.2 ⟨aps', haps, rfl⟩⟩

theorem target_eq_none : a.target = none ↔ ¬(a.type = 1 ∨ a.type = 2 ∨ a.type = 3) := by
  rw [LogAppenderDefine.target]
  split_ifs with h1 h2 h3
  · simp [h1]
  · simp [h2]
  · simp [h3]
  · simp [h1, h2, h3]

/-- All appenders are made where all types are those of the source. -/
theorem exists_made {as : List LogAppenderDefine} {f : String} :
    (∃ aps, made as f = some aps) ↔ ∀ a ∈ as, a.type = 1 ∨ a.type = 2 ∨ a.type = 3 := by
  induction as with
  | nil => exact iff_of_true ⟨[], rfl⟩ fun a ha => absurd ha List.not_mem_nil
  | cons a as ih =>
    rw [List.forall_mem_cons, ← ih, ← not_not (a := a.type = 1 ∨ _), ← target_eq_none]
    constructor
    · rintro ⟨aps, h⟩
      obtain ⟨ap, aps', hap, haps, -⟩ := made_cons.1 h
      obtain ⟨target, htarget, -⟩ := Option.map_eq_some_iff.1 hap
      exact ⟨fun hnone => (nomatch htarget.symm.trans hnone), aps', haps⟩
    · rintro ⟨htarget, aps, haps⟩
      obtain ⟨target, htarget⟩ := Option.ne_none_iff_exists'.1 htarget
      exact ⟨_, made_cons.2 ⟨_, aps, Option.map_eq_some_iff.2 ⟨target, htarget, rfl⟩, haps, rfl⟩⟩

theorem appender_inj {b : LogAppenderDefine} {f : String} {ap : LogAppender} (ha : a.appender f = some ap) :
    b.appender f = some ap ↔ b.described = a.described := by
  obtain ⟨target, htarget, rfl⟩ := Option.map_eq_some_iff.1 ha
  constructor
  · intro hb
    obtain ⟨target', htarget', heq⟩ := Option.map_eq_some_iff.1 hb
    obtain ⟨rfl, hlevel, hhas, hf⟩ := LogAppender.mk.inj heq
    rw [LogAppenderDefine.described, LogAppenderDefine.described, htarget, htarget', hlevel]
    by_cases hfa : a.formatter = ""
    · simp_all
    · simp_all
  · intro h
    obtain ⟨h₁, h⟩ := Prod.mk.inj h
    obtain ⟨h₂, h₃⟩ := Prod.mk.inj h
    rw [LogAppenderDefine.appender, h₁, h₂, h₃, htarget]
    rfl

/-- Entries give the same appenders exactly if what counts of them is the same. -/
theorem made_inj {as bs : List LogAppenderDefine} {f : String} {aps : List LogAppender}
    (ha : made as f = some aps) :
    made bs f = some aps ↔ bs.map LogAppenderDefine.described = as.map LogAppenderDefine.described := by
  induction as generalizing bs aps with
  | nil =>
    obtain rfl : aps = [] := (Option.some.inj ha).symm
    cases bs with
    | nil => exact iff_of_true rfl rfl
    | cons b bs =>
      refine iff_of_false (fun h => ?_) (fun h => nomatch h)
      obtain ⟨_, _, -, -, heq⟩ := made_cons.1 h
      cases heq
  | cons a as ih =>
    obtain ⟨ap, aps, hap, haps, rfl⟩ := made_cons.1 ha
    cases bs with
    | nil => exact iff_of_false (fun h => nomatch Option.some.inj h) (fun h => nomatch h)
    | cons b bs =>
      rw [made_cons, List.map_cons, List.map_cons, List.cons.injEq, ← appender_inj hap, ← ih haps]
      constructor
      · rintro ⟨_, _, hb, hbs, heq⟩
        obtain ⟨rfl, rfl⟩ := List.cons.inj heq
        exact ⟨hb, hbs⟩
      · exact fun ⟨hb, hbs⟩ => ⟨ap, aps, hb, hbs, rfl⟩

/-- A logger that is as `j` describes is as `i` describes, if the two compare equal, exactly if what
    counts of the appenders is the same. -/
theorem Describes.iff_of_eq (h : Describes j l) (hlevel : i.level = j.level)
    (hf : i.formatter = j.formatter) :
    Describes i l ↔
      i.appenders.map LogAppenderDefine.described = j.appenders.map LogAppenderDefine.described := by
  rw [← made_inj h.appenders_eq]
  refine ⟨fun hi => hi.appenders_eq, fun hi => ⟨h.level_eq.trans hlevel.symm, fun hne => ?_, hi⟩⟩
  rw [hf] at hne ⊢
  exact h.formatter_eq hne

/-- A logger that is configured is as described, where all types are those of the source. -/
theorem exists_configure (hi : i.formatter ≠ "" → isError i.formatter = false)
    (has : ∀ a ∈ i.appenders, a.formatter ≠ "" → isError a.formatter = false) :
    (∃ l', configure isError false i l = some l' ∧ Describes i l') ↔
      ∀ a ∈ i.appenders, a.type = 1 ∨ a.type = 2 ∨ a.type = 3 := by
  rw [configure_eq hi has, ← exists_made (f := if i.formatter ≠ "" then i.formatter else l.m_formatter)]
  constructor
  · rintro ⟨l', hl', -⟩
    obtain ⟨aps, haps, -⟩ := Option.map_eq_some_iff.1 hl'
    exact ⟨aps, haps⟩
  · rintro ⟨aps, haps⟩
    exact ⟨_, Option.map_eq_some_iff.2 ⟨aps, haps, rfl⟩, rfl, fun hne => if_pos hne, haps⟩

end

/-! ## The listener -/

/-- What entries are compared by. -/
def LogDefine.key (i : LogDefine) : String × LogLevel × String := (i.name, i.level, i.formatter)

instance : ReflBEq LogAppenderDefine where
  rfl := by simp [BEq.beq]

theorem beq_iff {i j : LogDefine} : (i == j) = true ↔ i.key = j.key := by
  have hself : (i.appenders == i.appenders) = true := beq_self_eq_true _
  show (decide (i.name = j.name) && decide (i.level = j.level) && decide (i.formatter = j.formatter) &&
    (i.appenders == i.appenders)) = true ↔ _
  rw [hself, Bool.and_true, Bool.and_eq_true, Bool.and_eq_true, decide_eq_true_iff, decide_eq_true_iff,
    decide_eq_true_iff, LogDefine.key, LogDefine.key, Prod.mk.injEq, Prod.mk.injEq, and_assoc]

theorem beq_list_iff {v w : List LogDefine} :
    (v == w) = true ↔ v.map LogDefine.key = w.map LogDefine.key := by
  induction v generalizing w with
  | nil => cases w <;> simp
  | cons i v ih =>
    cases w with
    | nil => simp
    | cons j w =>
      rw [List.cons_beq_cons, Bool.and_eq_true, beq_iff, ih, List.map_cons, List.map_cons, List.cons.injEq]

theorem name_of_key {v w : List LogDefine} (h : v.map LogDefine.key = w.map LogDefine.key) :
    v.map LogDefine.name = w.map LogDefine.name := by
  have := congrArg (List.map Prod.fst) h
  rwa [List.map_map, List.map_map] at this

section
variable {v : List LogDefine} {i j : LogDefine}

theorem find_some (hv : (v.map LogDefine.name).Nodup) (hj : j ∈ v) (hname : j.name = i.name) :
    v.find? (·.name = i.name) = some j :=
  (find?_key_eq_some_iff hv).2 ⟨hj, hname⟩

theorem find_none (h : i.name ∉ v.map LogDefine.name) : v.find? (·.name = i.name) = none := by
  refine List.find?_eq_none.2 fun j hj hname => h ?_
  rw [← of_decide_eq_true hname]
  exact List.mem_map_of_mem hj

variable {isError : String → Bool} {d : Bool} {old : List LogDefine} {m m' : String → Logger}

/-- What the listener leaves: the loggers of the new set as the loop makes them, those that are only in
    the old set without appenders. -/
theorem onChange_spec (hv : (v.map LogDefine.name).Nodup) (hold : (old.map LogDefine.name).Nodup)
    (h : onChange isError d old v m = some m') :
    (∀ i ∈ v, update isError d old i (m i.name) = some (m' i.name)) ∧
      ∀ j ∈ old, j.name ∉ v.map LogDefine.name → (m' j.name).m_appenders = [] := by
  obtain ⟨m₁, h₁, h₂⟩ := Option.bind_eq_some_iff.1 h
  obtain ⟨hnew, -⟩ := (foldlM_update_iff hv).1 h₁
  obtain ⟨hdel, hrest⟩ := (foldlM_update_iff (f := fun i l => some (remove v i l)) hold).1 h₂
  refine ⟨fun i hi => ?_, fun j hj hname => ?_⟩
  · rw [hnew i hi]
    by_cases hin : i.name ∈ old.map LogDefine.name
    · obtain ⟨j, hj, hname⟩ := List.mem_map.1 hin
      have hkept := Option.some.inj (hdel j hj)
      rw [remove, find_some hv hi hname.symm] at hkept
      rw [← hname, ← hkept]
    · rw [hrest _ hin]
  · rw [← Option.some.inj (hdel j hj), remove, find_none hname]
    rfl

theorem exists_onChange (hv : (v.map LogDefine.name).Nodup) (hold : (old.map LogDefine.name).Nodup)
    (h : ∀ i ∈ v, ∃ l, update isError d old i (m i.name) = some l) :
    ∃ m', onChange isError d old v m = some m' := by
  obtain ⟨m₁, h₁⟩ := exists_foldlM_update hv h
  obtain ⟨m₂, h₂⟩ :=
    exists_foldlM_update (m := m₁) (f := fun i l => some (remove v i l)) hold fun _ _ => ⟨_, rfl⟩
  exact ⟨m₂, Option.bind_eq_some_iff.2 ⟨m₁, h₁, h₂⟩⟩

end

/-! ## Runs -/

/-- The current set is the value but for the appenders, and is in force. -/
structure Inv (s : Logs) : Prop where
  keys_eq : s.m_val.map LogDefine.key = s.current.map LogDefine.key
  nodup : (s.current.map LogDefine.name).Nodup
  describes : ∀ j ∈ s.current, Describes j (s.m_loggers j.name)

section
variable {isError : String → Bool} {s t : Logs} {i : LogDefine} {v : List LogDefine}

theorem Inv.nodup_val (h : Inv s) : (s.m_val.map LogDefine.name).Nodup := by
  rw [name_of_key h.keys_eq]
  exact h.nodup

/-- One entry: its logger is as it describes after the loop. -/
theorem Inv.update_iff (h : Inv s) (hi : i.formatter ≠ "" → isError i.formatter = false)
    (has : ∀ a ∈ i.appenders, a.formatter ≠ "" → isError a.formatter = false) :
    (∃ l, update isError false s.m_val i (s.m_loggers i.name) = some l ∧ Describes i l) ↔
      (∀ a ∈ i.appenders, a.type = 1 ∨ a.type = 2 ∨ a.type = 3) ∧ ∀ j ∈ s.current, i.key = j.key →
        i.appenders.map LogAppenderDefine.described = j.appenders.map LogAppenderDefine.described := by
  by_cases hin : i.key ∈ s.m_val.map LogDefine.key
  · -- the entry compares equal to the one of its name
    obtain ⟨it, hit, hkey⟩ := List.mem_map.1 hin
    have hfind := find_some h.nodup_val hit (congrArg Prod.fst hkey)
    have hupdate : update isError false s.m_val i (s.m_loggers i.name) = some (s.m_loggers i.name) := by
      rw [update, hfind]
      show (if (!(i == it)) = true then _ else _) = _
      rw [beq_iff.2 hkey.symm]
      rfl
    rw [h.keys_eq] at hin
    obtain ⟨j, hj, hjkey⟩ := List.mem_map.1 hin
    obtain ⟨hname, hrest⟩ := Prod.mk.inj hjkey
    obtain ⟨hlevel, hformatter⟩ := Prod.mk.inj hrest
    have hdesc := h.describes j hj
    rw [hname] at hdesc
    have hiff := hdesc.iff_of_eq (i := i) hlevel.symm hformatter.symm
    rw [hupdate]
    constructor
    · rintro ⟨l, hl, hdescribes⟩
      obtain rfl := Option.some.inj hl
      refine ⟨exists_made.1 ⟨_, hdescribes.appenders_eq⟩, fun k hk hik => ?_⟩
      have hname' : k.name = j.name := (congrArg Prod.fst hik).symm.trans hname.symm
      rw [List.inj_on_of_nodup_map h.nodup hk hj hname']
      exact hiff.1 hdescribes
    · intro ⟨_, hsame⟩
      exact ⟨_, rfl, hiff.2 (hsame j hj hjkey.symm)⟩
  · have hnone : ∀ j ∈ s.current, i.key ≠ j.key := fun j hj hik =>
      hin (h.keys_eq ▸ hik ▸ List.mem_map_of_mem hj)
    have hupdate : update isError false s.m_val i (s.m_loggers i.name) =
        configure isError false i (s.m_loggers i.name) := by
      rw [update]
      cases hfind : s.m_val.find? (·.name = i.name) with
      | none => rfl
      | some it =>
        have hne : (i == it) = false := by
          rw [← Bool.not_eq_true, beq_iff]
          exact fun hkey => hin (hkey ▸ List.mem_map_of_mem (List.mem_of_find?_eq_some hfind))
        show (if (!(i == it)) = true then _ else _) = _
        rw [hne]
        rfl
    rw [hupdate, exists_configure hi has]
    exact ⟨fun htypes => ⟨htypes, fun j hj hik => absurd hik (hnone j hj)⟩, fun hall => hall.1⟩

/-- One assignment: the set is in force after it exactly if each of its entries is. -/
theorem Inv.assign_iff (h : Inv s) (hv : (v.map LogDefine.name).Nodup) :
    (∃ t, assign isError v s = some t ∧ InForce s v t) ↔
      ∀ i ∈ v, ∃ l, update isError false s.m_val i (s.m_loggers i.name) = some l ∧ Describes i l := by
  have hnames := name_of_key h.keys_eq
  by_cases heq : (v == s.m_val) = true
  · have hkeys := beq_list_iff.1 heq
    have hassign : assign isError v s = some { s with current := v } := if_pos heq
    have hupdate : ∀ i ∈ v,
        update isError false s.m_val i (s.m_loggers i.name) = some (s.m_loggers i.name) := by
      intro i hi
      obtain ⟨it, hit, hkey⟩ :=
        List.mem_map.1 (hkeys ▸ List.mem_map_of_mem hi : i.key ∈ s.m_val.map LogDefine.key)
      rw [update, find_some h.nodup_val hit (congrArg Prod.fst hkey)]
      show (if (!(i == it)) = true then _ else _) = _
      rw [beq_iff.2 hkey.symm]
      rfl
    constructor
    · rintro ⟨t, ht, hforce⟩ i hi
      obtain rfl := Option.some.inj (hassign.symm.trans ht)
      exact ⟨_, hupdate i hi, hforce.describes i hi⟩
    · intro hall
      refine ⟨_, hassign, fun i hi => ?_, fun j hj hname => ?_⟩
      · obtain ⟨l, hl, hdescribes⟩ := hall i hi
        obtain rfl := Option.some.inj ((hupdate i hi).symm.trans hl)
        exact hdescribes
      · rw [name_of_key hkeys, hnames] at hname
        exact absurd (List.mem_map_of_mem hj) hname
  · have hassign : assign isError v s =
        (onChange isError false s.m_val v s.m_loggers).map fun m_loggers => ⟨v, m_loggers, v⟩ := if_neg heq
    rw [hassign]
    constructor
    · rintro ⟨t, ht, hforce⟩ i hi
      obtain ⟨m', hm', rfl⟩ := Option.map_eq_some_iff.1 ht
      exact ⟨_, (onChange_spec hv h.nodup_val hm').1 i hi, hforce.describes i hi⟩
    · intro hall
      obtain ⟨m', hm'⟩ := exists_onChange hv h.nodup_val fun i hi => (hall i hi).imp fun l hl => hl.1
      obtain ⟨hnew, hold⟩ := onChange_spec hv h.nodup_val hm'
      refine ⟨_, Option.map_eq_some_iff.2 ⟨m', hm', rfl⟩, fun i hi => ?_, fun j hj hname => ?_⟩
      · obtain ⟨l, hl, hdescribes⟩ := hall i hi
        rw [hnew i hi] at hl
        obtain rfl := Option.some.inj hl
        exact hdescribes
      · obtain ⟨k, hk, hkname⟩ :=
          List.mem_map.1 (hnames ▸ List.mem_map_of_mem hj : j.name ∈ s.m_val.map LogDefine.name)
        rw [← hkname] at hname ⊢
        exact hold k hk hname

theorem inv_assigned (hv : (v.map LogDefine.name).Nodup) (ht : assign isError v s = some t)
    (hforce : InForce s v t) : Inv t ∧ t.current = v := by
  by_cases heq : (v == s.m_val) = true
  · have hassign : assign isError v s = some { s with current := v } := if_pos heq
    obtain rfl := Option.some.inj (hassign.symm.trans ht)
    exact ⟨⟨(beq_list_iff.1 heq).symm, hv, hforce.describes⟩, rfl⟩
  · have hassign : assign isError v s =
        (onChange isError false s.m_val v s.m_loggers).map fun m_loggers => ⟨v, m_loggers, v⟩ := if_neg heq
    rw [hassign] at ht
    obtain ⟨m', -, rfl⟩ := Option.map_eq_some_iff.1 ht
    exact ⟨⟨rfl, hv, hforce.describes⟩, rfl⟩

theorem LogSet.nodup (v : LogSet isError) : (v.defines.map LogDefine.name).Nodup := by
  rw [List.Nodup, List.pairwise_map]
  exact v.sorted.imp fun hlt => ne_of_lt hlt

/-- **One assignment.** -/
theorem Inv.compatible_iff (h : Inv s) (v : LogSet isError) :
    (∃ t, assign isError v.defines s = some t ∧ InForce s v.defines t) ↔ Compatible s.current v.defines := by
  rw [h.assign_iff v.nodup]
  have hupdate (i : LogDefine) (hi : i ∈ v.defines) := h.update_iff (v.valid i hi).1 (v.valid i hi).2
  constructor
  · intro hall
    refine ⟨fun i hi => ((hupdate i hi).1 (hall i hi)).1, fun i hi j hj hname hlevel hformatter => ?_⟩
    exact ((hupdate i hi).1 (hall i hi)).2 j hj
      (by rw [LogDefine.key, LogDefine.key, hname, hlevel, hformatter])
  · intro hc i hi
    refine (hupdate i hi).2 ⟨hc.targets i hi, fun j hj hkey => ?_⟩
    obtain ⟨hname, hrest⟩ := Prod.mk.inj hkey
    obtain ⟨hlevel, hformatter⟩ := Prod.mk.inj hrest
    exact hc.same i hi j hj hname hlevel hformatter

/-- An assignment after which the set is in force. -/
def Applies (isError : String → Bool) (s : Logs) (v : LogSet isError) (t : Logs) : Prop :=
  assign isError v.defines s = some t ∧ InForce s v.defines t

theorem Inv.run_iff (h : Inv s) (vs : List (LogSet isError)) :
    (∃ t, Run (Applies isError) s vs t) ↔ (s.current :: vs.map LogSet.defines).IsChain Compatible := by
  induction vs generalizing s with
  | nil => exact iff_of_true ⟨s, .nil s⟩ (List.isChain_singleton _)
  | cons v vs ih =>
    rw [List.map_cons, List.isChain_cons_cons, ← h.compatible_iff v]
    constructor
    · rintro ⟨t, hr⟩
      obtain ⟨u, hu, hr⟩ := Run.cons_iff.1 hr
      obtain ⟨hinv, hcur⟩ := inv_assigned v.nodup hu.1 hu.2
      exact ⟨⟨u, hu⟩, hcur ▸ (ih hinv).1 ⟨t, hr⟩⟩
    · rintro ⟨⟨u, hu⟩, hchain⟩
      obtain ⟨hinv, hcur⟩ := inv_assigned v.nodup hu.1 hu.2
      rw [← hcur] at hchain
      obtain ⟨t, hr⟩ := (ih hinv).2 hchain
      exact ⟨t, .cons hu hr⟩

theorem inv_empty (m_loggers : String → Logger) : Inv ⟨[], m_loggers, []⟩ :=
  ⟨rfl, List.nodup_nil, fun _ hj => absurd hj List.not_mem_nil⟩

/-- **The set in force is the last one assigned**, after each assignment, if and only if each set is
    compatible with the one before it. -/
theorem inForce_iff (m_loggers : String → Logger) (vs : List (LogSet isError)) :
    (∃ t, Run (Applies isError) ⟨[], m_loggers, []⟩ vs t) ↔ ([] :: vs.map LogSet.defines).IsChain Compatible :=
  Inv.run_iff (inv_empty m_loggers) vs

end

/-- A set of one entry with these appenders. -/
def single (appenders : List LogAppenderDefine) (h : ∀ a ∈ appenders, a.formatter = "") :
    LogSet fun _ => false where
  defines := [⟨"system", .INFO, "", appenders⟩]
  sorted := List.pairwise_singleton _ _
  valid i hi := by
    rw [List.mem_singleton.1 hi]
    exact ⟨fun hne => absurd rfl hne, fun a ha hne => absurd (h a ha) hne⟩

/-- An appender that is added to an entry is not added to its logger. -/
theorem not_inForce : ¬∀ vs : List (LogSet fun _ => false),
    ∃ t, Run (Applies fun _ => false) ⟨[], fun _ => .new, []⟩ vs t := by
  intro h
  have hchain := (Inv.run_iff (inv_empty fun _ => .new) _).1
    (h [single [] (by simp), single [⟨2, .INFO, "", "", "", "", "", "", 0, ""⟩] (by simp)])
  have hsame := (List.isChain_cons_cons.1 (List.isChain_cons_cons.1 hchain).2).1.same _ List.mem_cons_self _
    List.mem_cons_self rfl rfl rfl
  cases hsame

end Ancfl.Log
