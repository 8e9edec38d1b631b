/-
  The parameters of a `MySQLStmt`.

  * A buffer is the block that `malloc` gave: its length is the size of the
    allocation; a copy that does not fit has no result;
  * `BIND_COPY` uses the block that is there, `BIND_COPY_LEN` a new one if the
    length of the last value is too small;
  * `bind_spec` and `bind_isSome_iff`: what a bind leaves, and when it fits;
  * `rebinding_safe_iff`: a sequence of binds is safe iff no value of a fixed size meets a
    block that is too small.
-/
import Ancfl.ByteArray.Typed
import Ancfl.Lib.Run
import Mathlib.Data.List.Induction
import Mathlib.Logic.Function.Basic

namespace Ancfl.Db

open Lib

/-! ## Binding -/

inductive enum_field_types
  | MYSQL_TYPE_DECIMAL
  | MYSQL_TYPE_TINY
  | MYSQL_TYPE_SHORT
  | MYSQL_TYPE_LONG
  | MYSQL_TYPE_FLOAT
  | MYSQL_TYPE_DOUBLE
  | MYSQL_TYPE_NULL
  | MYSQL_TYPE_LONGLONG
  | MYSQL_TYPE_BLOB
  | MYSQL_TYPE_STRING
deriving DecidableEq

structure MYSQL_BIND where
  buffer_type : enum_field_types
  /-- the block, or a null pointer -/
  buffer : Option (List UInt8)
  buffer_length : ℕ
  is_unsigned : Bool
deriving DecidableEq

/-- A new block; what is in it does not matter, as all of it is written. -/
def malloc (size : ℕ) : List UInt8 := List.replicate size 0

/-- The block after the copy, if the data fit. -/
def memcpy (block data : List UInt8) : Option (List UInt8) :=
  if data.length ≤ block.length then some (overwrite block 0 data) else none

def BIND_COPY (data : List UInt8) (b : MYSQL_BIND) : Option MYSQL_BIND :=
  (memcpy (b.buffer.getD (malloc data.length)) data).map fun block => { b with buffer := some block }

def BIND_COPY_LEN (data : List UInt8) (b : MYSQL_BIND) : Option MYSQL_BIND :=
  let block := match b.buffer with
    | none => malloc data.length
    | some block => if b.buffer_length < data.length then malloc data.length else block
  (memcpy block data).map fun block => { b with buffer := some block, buffer_length := data.length }

/-- The binders of the fixed sizes; those of floating point leave `is_unsigned` as it is. -/
def bindFixed (buffer_type : enum_field_types) (is_unsigned : Option Bool) (data : List UInt8)
    (b : MYSQL_BIND) : Option MYSQL_BIND :=
  (BIND_COPY data { b with buffer_type := buffer_type }).map fun b => { b with
    is_unsigned := is_unsigned.getD b.is_unsigned
    buffer_length := data.length }

def bindInt8 (value : BitVec 8) := bindFixed .MYSQL_TYPE_TINY (some false) (image 1 value)

def bindUint8 (value : BitVec 8) := bindFixed .MYSQL_TYPE_TINY (some true) (image 1 value)

def bindInt16 (value : BitVec 16) := bindFixed .MYSQL_TYPE_SHORT (some false) (image 2 value)

def bindUint16 (value : BitVec 16) := bindFixed .MYSQL_TYPE_SHORT (some true) (image 2 value)

def bindInt32 (value : BitVec 32) := bindFixed .MYSQL_TYPE_LONG (some false) (image 4 value)

def bindUint32 (value : BitVec 32) := bindFixed .MYSQL_TYPE_LONG (some true) (image 4 value)

def bindInt64 (value : BitVec 64) := bindFixed .MYSQL_TYPE_LONGLONG (some false) (image 8 value)

def bindUint64 (value : BitVec 64) := bindFixed .MYSQL_TYPE_LONGLONG (some true) (image 8 value)

/-- The value as its four bytes. -/
def bindFloat (value : BitVec 32) := bindFixed .MYSQL_TYPE_FLOAT none (image 4 value)

/-- The value as its eight bytes. -/
def bindDouble (value : BitVec 64) := bindFixed .MYSQL_TYPE_DOUBLE none (image 8 value)

/-- The characters of a `std::string`, or of a C string up to its NUL. -/
def bindString (value : List UInt8) (b : MYSQL_BIND) : Option MYSQL_BIND :=
  BIND_COPY_LEN value { b with buffer_type := .MYSQL_TYPE_STRING }

def bindBlob (value : List UInt8) (b : MYSQL_BIND) : Option MYSQL_BIND :=
  BIND_COPY_LEN value { b with buffer_type := .MYSQL_TYPE_BLOB }

def bindTime (Time2Str : BitVec 64 → List UInt8) (value : BitVec 64) (b : MYSQL_BIND) :
    Option MYSQL_BIND :=
  bindString (Time2Str value) b

def bindNull (b : MYSQL_BIND) : Option MYSQL_BIND := some { b with buffer_type := .MYSQL_TYPE_NULL }

/-- A call of a binder. -/
inductive Value
  | int8 (value : BitVec 8)
  | uint8 (value : BitVec 8)
  | int16 (value : BitVec 16)
  | uint16 (value : BitVec 16)
  | int32 (value : BitVec 32)
  | uint32 (value : BitVec 32)
  | int64 (value : BitVec 64)
  | uint64 (value : BitVec 64)
  | float (value : BitVec 32)
  | double (value : BitVec 64)
  | string (value : List UInt8)
  | blob (value : List UInt8)
  | time (value : BitVec 64)
  | null
deriving DecidableEq

section
variable (Time2Str : BitVec 64 → List UInt8)

def Value.bind : Value → MYSQL_BIND → Option MYSQL_BIND
  | .int8 value => bindInt8 value
  | .uint8 value => bindUint8 value
  | .int16 value => bindInt16 value
  | .uint16 value => bindUint16 value
  | .int32 value => bindInt32 value
  | .uint32 value => bindUint32 value
  | .int64 value => bindInt64 value
  | .uint64 value => bindUint64 value
  | .float value => bindFloat value
  | .double value => bindDouble value
  | .string value => bindString value
  | .blob value => bindBlob value
  | .time value => bindTime Time2Str value
  | .null => bindNull

/-- `m_binds`, for `n` parameters. -/
abbrev MySQLStmt (n : ℕ) := Fin n → MYSQL_BIND

/-- All is zero. -/
def MySQLStmt.Create (n : ℕ) : MySQLStmt n := fun _ => ⟨.MYSQL_TYPE_DECIMAL, none, 0, false⟩

def MySQLStmt.next {n : ℕ} (s : MySQLStmt n) (l : Fin n × Value) : Option (MySQLStmt n) :=
  (l.2.bind Time2Str (s l.1)).map fun b => Function.update s l.1 b

def MySQLStmt.step {n : ℕ} (s : MySQLStmt n) (l : Fin n × Value) (s' : MySQLStmt n) : Prop :=
  s.next Time2Str l = some s'

/-! ## What is to hold, and when -/

namespace Value

/-- The bytes of the value. -/
def data : Value → List UInt8
  | .int8 value | .uint8 value => image 1 value
  | .int16 value | .uint16 value => image 2 value
  | .int32 value | .uint32 value | .float value => image 4 value
  | .int64 value | .uint64 value | .double value => image 8 value
  | .string value | .blob value => value
  | .time value => Time2Str value
  | .null => []

def buffer_type : Value → enum_field_types
  | .int8 _ | .uint8 _ => .MYSQL_TYPE_TINY
  | .int16 _ | .uint16 _ => .MYSQL_TYPE_SHORT
  | .int32 _ | .uint32 _ => .MYSQL_TYPE_LONG
  | .int64 _ | .uint64 _ => .MYSQL_TYPE_LONGLONG
  | .float _ => .MYSQL_TYPE_FLOAT
  | .double _ => .MYSQL_TYPE_DOUBLE
  | .string _ | .time _ => .MYSQL_TYPE_STRING
  | .blob _ => .MYSQL_TYPE_BLOB
  | .null => .MYSQL_TYPE_NULL

/-- An integer has a sign or not. -/
def is_unsigned : Value → Option Bool
  | .int8 _ | .int16 _ | .int32 _ | .int64 _ => some false
  | .uint8 _ | .uint16 _ | .uint32 _ | .uint64 _ => some true
  | _ => none

/-- The type fixes the size. -/
def Fixed : Value → Bool
  | .string _ | .blob _ | .time _ | .null => false
  | _ => true

end Value

/-- The parameter has the type, the bytes and the length of the value. -/
structure Holds (v : Value) (b : MYSQL_BIND) : Prop where
  buffer_type : b.buffer_type = v.buffer_type
  is_unsigned : ∀ u, v.is_unsigned = some u → b.is_unsigned = u
  buffer : v ≠ .null → b.buffer_length = (v.data Time2Str).length ∧
    ∃ block, b.buffer = some block ∧ block.take b.buffer_length = v.data Time2Str

/-- The value that was bound last to a parameter. -/
def lastBound {n : ℕ} (ls : List (Fin n × Value)) (idx : Fin n) : Option Value :=
  (ls.reverse.find? fun l => l.1 = idx).map Prod.snd

/-- All copies fit, and then the parameters hold what was bound last. -/
def Safe {n : ℕ} (ls : List (Fin n × Value)) : Prop :=
  ∃ s, Run (MySQLStmt.step Time2Str) (.Create n) ls s ∧
    ∀ idx v, lastBound ls idx = some v → Holds Time2Str v (s idx)

/-- A value of a fixed size finds no block, or one of that size at least. -/
def Room {n : ℕ} (s : MySQLStmt n) (l : Fin n × Value) : Prop :=
  l.2.Fixed → ∀ block ∈ (s l.1).buffer, (l.2.data Time2Str).length ≤ block.length

/-! ## One bind -/

theorem length_malloc (size : ℕ) : (malloc size).length = size := List.length_replicate

theorem memcpy_isSome_iff {block data : List UInt8} :
    (∃ block', memcpy block data = some block') ↔ data.length ≤ block.length := by
  rw [memcpy]
  split_ifs with h
  · exact iff_of_true ⟨_, rfl⟩ h
  · exact iff_of_false nofun h

theorem memcpy_spec {block block' data : List UInt8} (h : memcpy block data = some block') :
    data.length ≤ block'.length ∧ block'.take data.length = data := by
  rw [memcpy] at h
  split_ifs at h
  cases h
  rw [overwrite_zero]
  refine ⟨?_, List.take_left⟩
  rw [List.length_append]
  omega

/-- The length that is remembered is within the block. -/
def Within (b : MYSQL_BIND) : Prop := ∀ block ∈ b.buffer, b.buffer_length ≤ block.length

/-- The bytes are at the beginning of the block, and their number is remembered. -/
structure Copied (data : List UInt8) (b : MYSQL_BIND) : Prop where
  buffer_length : b.buffer_length = data.length
  buffer : ∃ block, b.buffer = some block ∧ data.length ≤ block.length ∧ block.take data.length = data

theorem Copied.within {data : List UInt8} {b : MYSQL_BIND} (h : Copied data b) : Within b := by
  intro block hblock
  obtain ⟨block', hblock', hle, -⟩ := h.buffer
  rw [hblock'] at hblock
  cases hblock
  rw [h.buffer_length]
  exact hle

section
variable {buffer_type : enum_field_types} {is_unsigned : Option Bool} {data : List UInt8}
  {b b' : MYSQL_BIND}

theorem bindFixed_isSome_iff : (∃ b', bindFixed buffer_type is_unsigned data b = some b') ↔
    ∀ block ∈ b.buffer, data.length ≤ block.length := by
  have hcopy : (∃ b', bindFixed buffer_type is_unsigned data b = some b') ↔
      ∃ block, memcpy (b.buffer.getD (malloc data.length)) data = some block := by
    simp [bindFixed, BIND_COPY]
  rw [hcopy, memcpy_isSome_iff]
  cases hbuffer : b.buffer with
  | none => exact iff_of_true (length_malloc _).ge nofun
  | some block => simp

theorem bindFixed_spec (h : bindFixed buffer_type is_unsigned data b = some b') :
    b'.buffer_type = buffer_type ∧ (∀ u, is_unsigned = some u → b'.is_unsigned = u) ∧ Copied data b' := by
  rw [bindFixed, BIND_COPY, Option.map_map, Option.map_eq_some_iff] at h
  obtain ⟨block, hmemcpy, rfl⟩ := h
  refine ⟨rfl, ?_, rfl, block, rfl, memcpy_spec hmemcpy⟩
  rintro u rfl
  rfl

/-- A copy with its length always fits: a block that is too small is replaced. -/
theorem copyLen_total (hb : Within b) : ∃ b', BIND_COPY_LEN data b = some b' := by
  obtain ⟨block, hblock⟩ : ∃ block, memcpy (match b.buffer with
      | none => malloc data.length
      | some block => if b.buffer_length < data.length then malloc data.length else block) data =
        some block := by
    rw [memcpy_isSome_iff]
    split
    · exact (length_malloc _).ge
    · rename_i block hbuffer
      split_ifs with hlt
      · exact (length_malloc _).ge
      · exact (not_lt.1 hlt).trans (hb block hbuffer)
  exact ⟨_, Option.map_eq_some_iff.2 ⟨block, hblock, rfl⟩⟩

theorem copyLen_spec (h : BIND_COPY_LEN data b = some b') :
    b'.buffer_type = b.buffer_type ∧ b'.is_unsigned = b.is_unsigned ∧ Copied data b' := by
  rw [BIND_COPY_LEN, Option.map_eq_some_iff] at h
  obtain ⟨block, hmemcpy, rfl⟩ := h
  exact ⟨rfl, rfl, rfl, block, rfl, memcpy_spec hmemcpy⟩

end

section
variable {Time2Str : BitVec 64 → List UInt8} {v : Value} {b b' : MYSQL_BIND}

theorem bind_fixed (h : v.Fixed) :
    v.bind Time2Str = bindFixed v.buffer_type v.is_unsigned (v.data Time2Str) := by
  cases v <;> first | rfl | cases h

theorem bind_sized (h : v.Fixed = false) (hnull : v ≠ .null) :
    v.bind Time2Str b = BIND_COPY_LEN (v.data Time2Str) { b with buffer_type := v.buffer_type } := by
  cases v <;> first | exact absurd rfl hnull | rfl | cases h

/-- **When a bind fits.** -/
theorem bind_isSome_iff (hb : Within b) : (∃ b', v.bind Time2Str b = some b') ↔
    (v.Fixed → ∀ block ∈ b.buffer, (v.data Time2Str).length ≤ block.length) := by
  by_cases hfixed : v.Fixed
  · rw [bind_fixed hfixed, bindFixed_isSome_iff]
    exact (imp_iff_right hfixed).symm
  refine iff_of_true ?_ fun h => absurd h hfixed
  by_cases hnull : v = .null
  · rw [hnull]
    exact ⟨_, rfl⟩
  · rw [bind_sized (by simpa using hfixed) hnull]
    exact copyLen_total hb

/-- **What a bind leaves.** -/
theorem bind_spec (h : v.bind Time2Str b = some b') (hb : Within b) : Within b' ∧ Holds Time2Str v b' := by
  have hholds (htype : b'.buffer_type = v.buffer_type)
      (hsign : ∀ u, v.is_unsigned = some u → b'.is_unsigned = u) (hcopied : Copied (v.data Time2Str) b') :
      Within b' ∧ Holds Time2Str v b' := by
    obtain ⟨block, hblock, -, htake⟩ := hcopied.buffer
    refine ⟨hcopied.within, htype, hsign, fun _ => ⟨hcopied.buffer_length, block, hblock, ?_⟩⟩
    rw [hcopied.buffer_length, htake]
  by_cases hfixed : v.Fixed
  · rw [bind_fixed hfixed] at h
    obtain ⟨htype, hsign, hcopied⟩ := bindFixed_spec h
    exact hholds htype hsign hcopied
  by_cases hnull : v = .null
  · subst hnull
    cases h
    exact ⟨hb, rfl, nofun, fun hne => absurd rfl hne⟩
  · rw [bind_sized (by simpa using hfixed) hnull] at h
    obtain ⟨htype, -, hcopied⟩ := copyLen_spec h
    have hsign : v.is_unsigned = none := by
      cases v <;> first | rfl | exact absurd rfl hfixed
    exact hholds htype (by rw [hsign]; exact nofun) hcopied

end

/-! ## Sequences of binds -/

theorem lastBound_append {n : ℕ} (ls : List (Fin n × Value)) (l : Fin n × Value) (idx : Fin n) :
    lastBound (ls ++ [l]) idx = if l.1 = idx then some l.2 else lastBound ls idx := by
  rw [lastBound, lastBound, List.reverse_append, List.reverse_singleton, List.singleton_append,
    List.find?_cons]
  by_cases h : l.1 = idx
  · rw [if_pos h, decide_eq_true h]
    rfl
  · rw [if_neg h, decide_eq_false h]

variable {Time2Str} {n : ℕ}

/-- All parameters are within their blocks. -/
def Inv (s : MySQLStmt n) : Prop := ∀ idx, Within (s idx)

theorem step_iff {s s' : MySQLStmt n} {l : Fin n × Value} : MySQLStmt.step Time2Str s l s' ↔
    ∃ b, l.2.bind Time2Str (s l.1) = some b ∧ Function.update s l.1 b = s' := Option.map_eq_some_iff

theorem step_inv {s s' : MySQLStmt n} {l : Fin n × Value} (h : MySQLStmt.step Time2Str s l s')
    (hs : Inv s) : Inv s' := by
  obtain ⟨b, hb, rfl⟩ := step_iff.1 h
  intro idx
  by_cases hidx : idx = l.1
  · rw [hidx, Function.update_self]
    exact (bind_spec hb (hs l.1)).1
  · rw [Function.update_of_ne hidx]
    exact hs idx

theorem step_exists_iff {s : MySQLStmt n} {l : Fin n × Value} (hs : Inv s) :
    (∃ s', MySQLStmt.step Time2Str s l s') ↔ Room Time2Str s l := by
  rw [Room, ← bind_isSome_iff (hs l.1)]
  constructor
  · rintro ⟨s', h⟩
    obtain ⟨b, hb, -⟩ := step_iff.1 h
    exact ⟨b, hb⟩
  · rintro ⟨b, hb⟩
    exact ⟨_, step_iff.2 ⟨b, hb, rfl⟩⟩

theorem inv_create : Inv (.Create n) := fun _ => nofun

/-- After a run the parameters hold what was bound last. -/
theorem run_holds {ls : List (Fin n × Value)} {s : MySQLStmt n}
    (h : Run (MySQLStmt.step Time2Str) (.Create n) ls s) :
    ∀ idx v, lastBound ls idx = some v → Holds Time2Str v (s idx) := by
  induction ls using List.reverseRecOn generalizing s with
  | nil => exact nofun
  | append_singleton ls l ih =>
    obtain ⟨t, hrun, hstep⟩ := Run.snoc_iff.1 h
    have ht : Inv t := hrun.invariant (P := Inv) (fun _ _ _ hi hs => step_inv hs hi) inv_create
    obtain ⟨b, hb, rfl⟩ := step_iff.1 hstep
    intro idx v hlast
    rw [lastBound_append] at hlast
    split_ifs at hlast with hidx
    · cases hlast
      rw [← hidx, Function.update_self]
      exact (bind_spec hb (ht l.1)).2
    · rw [Function.update_of_ne (Ne.symm hidx)]
      exact ih hrun idx v hlast

/-- **Rebinding is safe** exactly if no value of a fixed size meets a block that is too small. -/
theorem rebinding_safe_iff (Time2Str : BitVec 64 → List UInt8) (ls : List (Fin n × Value)) :
    Safe Time2Str ls ↔ ∀ ls₁ l ls₂ s, ls = ls₁ ++ l :: ls₂ →
      Run (MySQLStmt.step Time2Str) (.Create n) ls₁ s → Room Time2Str s l := by
  rw [← Run.exists_iff (fun s l t t' _ h h' => Option.some.inj (h'.symm.trans h))
    (fun s l t hs h => step_inv h hs) (fun s l hs => step_exists_iff hs) inv_create]
  constructor
  · rintro ⟨s, hrun, -⟩
    exact ⟨s, hrun⟩
  · rintro ⟨s, hrun⟩
    exact ⟨s, hrun, run_holds hrun⟩

end

/-- **Eight bytes into a block of one**. -/
theorem rebinding_not_safe : ¬∀ (Time2Str : BitVec 64 → List UInt8) (ls : List (Fin 1 × Value)),
    Safe Time2Str ls := by
  intro h
  obtain ⟨s, hrun, -⟩ := h (fun _ => []) [(0, .int8 1), (0, .int64 2)]
  exact absurd hrun.foldlM_eq nofun

end Ancfl.Db
