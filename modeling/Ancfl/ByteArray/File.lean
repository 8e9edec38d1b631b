/-
  Files of the unread bytes (`writeToFile`, `readFromFile`, `toString`).

  * `writeToFile` gives the calls of `ofs.write`; the offset in the block is an
    `int`, and the length of a step the remaining size, up to a block, less the
    offset;
  * `readFromFile` appends the file, block by block;
  * `Saves`: the calls write the unread bytes, each a positive number of them
    from inside its block, and a buffer that reads the file has them;
  * `saves_iff`: so it is with the cursor at the start of a block, or a whole
    block unread.
-/
import Ancfl.ByteArray.Positional
import Ancfl.Lib.Int32

namespace Ancfl

open Lib

namespace ByteArray

/-- `ofs.write(cur->ptr + diff, len)`. -/
structure OfsWrite where
  node : ℕ
  diff : ℤ
  len : ℤ

/-- The loop of `writeToFile`, at the block `cur`; `none` is a null dereference. -/
def writeLoop (b : ByteArray) (cur : Option ℕ) (pos read_size : ℤ) : Option (List OfsWrite) :=
  if 0 < read_size then
    match cur with
    | none => none
    | some k =>
      if _h : k < b.nodes.length then
        let diff := toInt32 (pos % b.baseSize)
        let len := (if (b.baseSize : ℤ) < read_size then (b.baseSize : ℤ) else read_size) - diff
        (writeLoop b (next b.nodes k) (pos + len) (read_size - len)).map (⟨k, diff, len⟩ :: ·)
      else none
  else some []
termination_by cur.elim 0 fun k => b.nodes.length - k
decreasing_by
  unfold next
  split_ifs
  · exact Nat.sub_lt_sub_left _h (Nat.lt_succ_self k)
  · exact Nat.sub_pos_of_lt _h

/-- `writeToFile`; `ofs` says whether the file can be opened. -/
def writeToFile (ofs : Bool) (b : ByteArray) : Option (Bool × List OfsWrite) :=
  if !ofs then some (false, [])
  else (writeLoop b b.cur b.position b.getReadSize).map fun writes => (true, writes)

/-- The loop of `readFromFile`: `ifs.read` sets `eof` if fewer than `m_baseSize` bytes are left. With
    blocks of no bytes it would not end. -/
def readLoop (ifs : List UInt8) : Call Exn ByteArray Unit := fun b =>
  if _h : b.baseSize = 0 then .undef
  else
    match write (ifs.take b.baseSize) b with
    | .ret () b' =>
      if _hlt : ifs.length < b.baseSize then .ret () b' else readLoop (ifs.drop b.baseSize) b'
    | .throw e b' => .throw e b'
    | .undef => .undef
termination_by ifs.length
decreasing_by
  rw [List.length_drop]
  omega

/-- `readFromFile`; `none` is a file that cannot be opened. -/
def readFromFile : Option (List UInt8) → Call Exn ByteArray Bool
  | none => pure false
  | some ifs => do readLoop ifs; return true

/-- `toString`. -/
def toString : Call Exn ByteArray (List UInt8) := fun b =>
  if b.getReadSize = 0 then .ret [] b
  else
    match readAt b.getReadSize b.position b with
    | .undef => .undef
    | .throw e b' => .throw e b'
    | .ret segs b' => .ret (load b.nodes segs) b'

/-! ## Files and the unread bytes -/

/-- The bytes that a write takes out of the blocks. -/
def OfsWrite.segment (w : OfsWrite) : Segment := ⟨w.node, w.diff.toNat, w.len.toNat⟩

/-- The write takes a positive number of bytes from inside its block. -/
structure OfsWrite.Inside (w : OfsWrite) (b : ByteArray) : Prop where
  diff : 0 ≤ w.diff
  len : 0 < w.len
  le : w.diff + w.len ≤ b.baseSize

/-- The file that the writes leave. -/
def fileOf (b : ByteArray) (writes : List OfsWrite) : List UInt8 :=
  load b.nodes (writes.map OfsWrite.segment)

/-- An empty buffer that reads the file and goes back to its start has it. -/
def Reloads (file : List UInt8) : Prop :=
  ∀ b : ByteArray, Rep b → b.content = [] → ∃ b₁ b₂, readFromFile (some file) b = .ret true b₁ ∧
    setPosition 0 b₁ = .ret () b₂ ∧ toString b₂ = .ret file b₂

/-- `writeToFile` writes the unread bytes, one after the other, and the file brings them back. -/
def Saves (b : ByteArray) : Prop :=
  ∃ writes, writeToFile true b = some (true, writes) ∧ (∀ w ∈ writes, w.Inside b) ∧
    Tiles b.nodes.length b.baseSize (writes.map OfsWrite.segment) b.position b.getReadSize ∧
    toString b = .ret (fileOf b writes) b ∧ Reloads (fileOf b writes)

section
variable {b : ByteArray} {file : List UInt8}

/-- **`toString` returns the unread bytes.** -/
theorem toString_ret (h : Rep b) : toString b = .ret (b.content.drop b.position) b := by
  have hpos := h.pos_le
  have hsize := h.size_le
  unfold toString
  split_ifs with h0
  · rw [getReadSize, ← h.length_content] at h0
    rw [List.drop_of_length_le (by omega)]
  · unfold getReadSize at h0 ⊢
    have hfit : b.position + (b.size - b.position) ≤ b.content.length := by
      rw [h.length_content]
      omega
    have hread : ReadsAt b (b.size - b.position) b.position :=
      readsAt_of_block h (by omega) (by omega) rfl
    rw [ReadsAt, if_pos hfit] at hread
    obtain ⟨segs, hret, hload, -⟩ := hread
    simp only [hret, hload]
    rw [slice, ← h.length_content, List.take_of_length_le (by rw [List.length_drop])]

/-- The loop of `readFromFile` appends the file. -/
theorem readLoop_ret : ∀ (n : ℕ) (b : ByteArray) (ifs : List UInt8), ifs.length = n → Rep b →
    b.position = b.content.length →
    ∃ b', readLoop ifs b = .ret () b' ∧ Rep b' ∧ b'.content = b.content ++ ifs := by
  intro n
  induction n using Nat.strong_induction_on with
  | _ n ih =>
    intro b ifs hn h hpos
    have hbase := h.base_pos
    obtain ⟨b₁, hwrite, h₁, hflat, hsame⟩ := write_ret h (ifs.take b.baseSize)
    have hcontent : b₁.content = overwrite b.content b.position (ifs.take b.baseSize) :=
      congrArg Flat.bytes hflat
    have hposition : b₁.position = b.position + (ifs.take b.baseSize).length :=
      congrArg Flat.cursor hflat
    have happend : b₁.content = b.content ++ ifs.take b.baseSize := by
      rw [hcontent, hpos, overwrite, List.take_length, List.drop_of_length_le (by omega), List.append_nil]
    rw [readLoop, dif_neg (by omega), hwrite]
    dsimp only
    split_ifs with hlt
    · exact ⟨b₁, rfl, h₁, by rw [happend, List.take_of_length_le (by omega)]⟩
    · obtain ⟨b', hret, h', hcontent'⟩ := ih (ifs.drop b.baseSize).length
        (by rw [List.length_drop]; omega) b₁ (ifs.drop b.baseSize) rfl h₁
        (by rw [hposition, happend, List.length_append, hpos])
      exact ⟨b', hret, h', by rw [hcontent', happend, List.append_assoc, List.take_append_drop]⟩

/-- **Every file comes back.** -/
theorem reloads (file : List UInt8) : Reloads file := by
  intro b h hempty
  have hpos : b.position = b.content.length := by
    have hle := h.pos_le
    rw [← h.length_content, hempty] at hle
    rw [hempty]
    exact Nat.le_zero.1 hle
  obtain ⟨b₁, hread, h₁, hcontent⟩ := readLoop_ret _ b file rfl h hpos
  obtain ⟨b₂, w, hset, h₂, hw, hflat, -⟩ := setPosition_ret h₁ (Nat.zero_le _)
  refine ⟨b₁, b₂, Call.bind_ret hread, hset, ?_⟩
  have hnil : w = [] := List.length_eq_zero_iff.1 (by omega)
  have hcontent₂ : b₂.content = b₁.content ++ w := congrArg Flat.bytes hflat
  have hposition : b₂.position = 0 := congrArg Flat.cursor hflat
  rw [toString_ret h₂, hposition, hcontent₂, hnil, hcontent, hempty]
  simp

/-- Writes that cover the unread bytes leave them in the file. -/
theorem fileOf_eq (h : Rep b) {writes : List OfsWrite}
    (ht : Tiles b.nodes.length b.baseSize (writes.map OfsWrite.segment) b.position b.getReadSize) :
    fileOf b writes = b.content.drop b.position := by
  have hpos := h.pos_le
  rw [fileOf, load_tiles h.blocks _ _ _ ht, getReadSize, slice, ← List.take_of_length_le
    (l := b.content.drop b.position) (i := b.size - b.position) (by rw [List.length_drop, h.length_content])]
  rw [content, List.drop_take, List.take_take, min_self]

/-- The offset of the cursor in its block. -/
def inBlock (b : ByteArray) : ℕ := b.position % b.baseSize

theorem writeLoop_done {cur : Option ℕ} {pos read_size : ℤ} (h : read_size ≤ 0) :
    writeLoop b cur pos read_size = some [] := by
  rw [writeLoop.eq_def, if_neg (not_lt.2 h)]

/-- The length of a step. -/
def stepLen (b : ByteArray) (pos read_size : ℤ) : ℤ :=
  (if (b.baseSize : ℤ) < read_size then (b.baseSize : ℤ) else read_size) - toInt32 (pos % b.baseSize)

theorem writeLoop_step {k : ℕ} {pos read_size : ℤ} (h : 0 < read_size) (hk : k < b.nodes.length) :
    writeLoop b (some k) pos read_size =
      (writeLoop b (next b.nodes k) (pos + stepLen b pos read_size) (read_size - stepLen b pos read_size)).map
        (⟨k, toInt32 (pos % b.baseSize), stepLen b pos read_size⟩ :: ·) := by
  rw [writeLoop.eq_def, if_pos h]
  simp only [dif_pos hk, stepLen]

/-- The first write of a loop that has bytes to write. -/
theorem writeLoop_head {cur : Option ℕ} {pos read_size : ℤ} {writes : List OfsWrite} (h : 0 < read_size)
    (hret : writeLoop b cur pos read_size = some writes) : ∃ k rest, cur = some k ∧
      writes = ⟨k, toInt32 (pos % b.baseSize), stepLen b pos read_size⟩ :: rest ∧
      writeLoop b (next b.nodes k) (pos + stepLen b pos read_size) (read_size - stepLen b pos read_size) =
        some rest := by
  cases cur with
  | none =>
    rw [writeLoop.eq_def, if_pos h] at hret
    cases hret
  | some k =>
    by_cases hk : k < b.nodes.length
    · rw [writeLoop_step h hk] at hret
      obtain ⟨rest, hrest, rfl⟩ := Option.map_eq_some_iff.1 hret
      exact ⟨k, rest, rfl, rfl, hrest⟩
    · rw [writeLoop.eq_def, if_pos h] at hret
      simp only [dif_neg hk] at hret
      cases hret

/-- From the start of a block on, or with a whole block left, the loop writes the bytes that are
    left. -/
theorem writeLoop_ret (h : Rep b) : ∀ (n k d : ℕ), d < b.baseSize → d < 2 ^ 31 → d = 0 ∨ b.baseSize ≤ n →
    k * b.baseSize + d + n ≤ b.capacity → ∃ writes,
      writeLoop b (cursorAt b.nodes b.baseSize (k * b.baseSize + d)) (k * b.baseSize + d : ℕ) n = some writes ∧
      (∀ w ∈ writes, w.Inside b) ∧
      Tiles b.nodes.length b.baseSize (writes.map OfsWrite.segment) (k * b.baseSize + d) n := by
  intro n
  induction n using Nat.strong_induction_on with
  | _ n ih =>
    intro k d hd hint hwhole hfit
    have hbase := h.base_pos
    rcases Nat.eq_zero_or_pos n with rfl | hn
    · exact ⟨[], writeLoop_done le_rfl, by simp, rfl⟩
    have hk : k < b.nodes.length := by
      rw [h.capacity_eq] at hfit
      exact Nat.lt_of_mul_lt_mul_right (show k * b.baseSize < b.nodes.length * b.baseSize by omega)
    have hdiff : toInt32 (((k * b.baseSize + d : ℕ) : ℤ) % b.baseSize) = d := by
      rw [← Int.natCast_mod, Nat.mul_add_mod_self_right, Nat.mod_eq_of_lt hd, toInt32_natCast hint]
    rw [cursorAt_inside hk hd, writeLoop_step (by omega) hk, next_eq_cursorAt hbase hk, hdiff]
    by_cases hlast : n < b.baseSize
    · -- the last block: the cursor is at its start
      obtain rfl : d = 0 := by omega
      have hlen : stepLen b (k * b.baseSize + 0 : ℕ) n = n := by
        rw [stepLen, hdiff]
        split_ifs <;> omega
      rw [hlen, sub_self, writeLoop_done le_rfl]
      refine ⟨_, rfl, ?_, hk, rfl, ?_, le_rfl, Nat.sub_self n⟩
      · intro w hw
        rw [List.mem_singleton.1 hw]
        exact ⟨le_rfl, by show (0 : ℤ) < n; omega, by show ((0 : ℕ) : ℤ) + n ≤ b.baseSize; omega⟩
      · show 0 + n ≤ b.baseSize
        omega
    · obtain ⟨m, hm⟩ : ∃ m, m = b.baseSize - d := ⟨_, rfl⟩
      have hlen : stepLen b (k * b.baseSize + d : ℕ) n = m := by
        rw [stepLen, hdiff]
        split_ifs <;> omega
      have hstart : (k + 1) * b.baseSize + 0 = k * b.baseSize + d + m := by
        rw [Nat.add_mul]
        omega
      obtain ⟨writes, hret, hinside, ht⟩ := ih (n - m) (by omega) (k + 1) 0 hbase (by decide) (.inl rfl)
        (by omega)
      rw [hstart] at hret ht
      rw [hlen, show (k + 1) * b.baseSize = k * b.baseSize + d + m by omega, ← Nat.cast_add,
        ← Nat.cast_sub (by omega), hret]
      refine ⟨_, rfl, ?_, hk, rfl, ?_, ?_, ht⟩
      · intro w hw
        rcases List.mem_cons.1 hw with rfl | hw
        · exact ⟨Int.natCast_nonneg d, by show (0 : ℤ) < m; omega, by show (d : ℤ) + m ≤ b.baseSize; omega⟩
        · exact hinside w hw
      · show d + m ≤ b.baseSize
        omega
      · show m ≤ n
        omega

/-- The unread bytes are written only from the start of a block on, or with a whole block left: else
    the first write is not positive, or ends before its block does, and the second one starts with
    the next block. -/
theorem offset_of_saves (h : Rep b) {writes : List OfsWrite} (hn : 0 < b.getReadSize)
    (hret : writeToFile true b = some (true, writes)) (hinside : ∀ w ∈ writes, w.Inside b)
    (ht : Tiles b.nodes.length b.baseSize (writes.map OfsWrite.segment) b.position b.getReadSize) :
    inBlock b < 2 ^ 31 ∧ (inBlock b = 0 ∨ b.baseSize ≤ b.getReadSize) := by
  have hsize := h.size_le
  have hread : b.getReadSize = b.size - b.position := rfl
  obtain ⟨hcur, -⟩ := h.cur_some (show b.position < b.capacity by omega)
  have hd : inBlock b < b.baseSize := Nat.mod_lt _ h.base_pos
  have hpos : b.position / b.baseSize * b.baseSize + inBlock b = b.position := Nat.div_add_mod' _ _
  obtain ⟨writes', hloop, hpair⟩ := Option.map_eq_some_iff.1 hret
  obtain rfl : writes' = writes := congrArg Prod.snd hpair
  obtain ⟨k, rest, hk, rfl, hrest⟩ := writeLoop_head (by omega) hloop
  obtain rfl : b.position / b.baseSize = k := Option.some.inj (hcur.symm.trans hk)
  obtain ⟨-, hplace, -, hle, ht⟩ := ht
  obtain ⟨hdiff, hlen, -⟩ := hinside _ List.mem_cons_self
  have hrange := (toInt32_range ((b.position : ℤ) % b.baseSize)).2
  have hstep : stepLen b b.position b.getReadSize = (if (b.baseSize : ℤ) < b.getReadSize then
      (b.baseSize : ℤ) else b.getReadSize) - toInt32 ((b.position : ℤ) % b.baseSize) := rfl
  generalize toInt32 ((b.position : ℤ) % b.baseSize) = diff at *
  generalize stepLen b b.position b.getReadSize = len at *
  change b.position / b.baseSize * b.baseSize + diff.toNat = b.position at hplace
  change 0 ≤ diff at hdiff
  change 0 < len at hlen
  obtain ⟨d, rfl⟩ := Int.eq_ofNat_of_zero_le hdiff
  obtain rfl : d = inBlock b := by omega
  refine ⟨by omega, ?_⟩
  by_contra hcon
  push Not at hcon
  obtain ⟨hne, hshort⟩ := hcon
  rw [if_neg (by omega)] at hstep
  obtain ⟨k', rest', hk', rfl, -⟩ := writeLoop_head (by omega) hrest
  obtain ⟨-, hplace', -⟩ := ht
  change k' * b.baseSize + (toInt32 _).toNat = b.position + len.toNat at hplace'
  -- the second write is in the next block, which starts behind the unread bytes
  unfold next at hk'
  split_ifs at hk'
  obtain rfl := Option.some.inj hk'
  rw [Nat.add_mul] at hplace'
  omega

/-- **The file gets the unread bytes** iff there are none, or the cursor is at the start of a block or
    a whole block is unread, and its offset in the block is an `int`. -/
theorem saves_iff (h : Rep b) : Saves b ↔ b.getReadSize = 0 ∨
    inBlock b < 2 ^ 31 ∧ (inBlock b = 0 ∨ b.baseSize ≤ b.getReadSize) := by
  constructor
  · rintro ⟨writes, hret, hinside, ht, -⟩
    rcases Nat.eq_zero_or_pos b.getReadSize with h0 | hn
    · exact .inl h0
    · exact .inr (offset_of_saves h hn hret hinside ht)
  · intro hcond
    have hsaves : ∃ writes, writeToFile true b = some (true, writes) ∧ (∀ w ∈ writes, w.Inside b) ∧
        Tiles b.nodes.length b.baseSize (writes.map OfsWrite.segment) b.position b.getReadSize := by
      rcases hcond with h0 | ⟨hint, hwhole⟩
      · refine ⟨[], ?_, by simp, h0⟩
        rw [writeToFile, writeLoop_done (by omega)]
        rfl
      · have hpos : b.position / b.baseSize * b.baseSize + inBlock b = b.position := Nat.div_add_mod' _ _
        have hfit : b.position + b.getReadSize ≤ b.capacity := by
          have hle := h.pos_le
          have hsize := h.size_le
          unfold getReadSize
          omega
        have hwrite := writeLoop_ret h b.getReadSize (b.position / b.baseSize) (inBlock b)
          (Nat.mod_lt _ h.base_pos) hint hwhole (by rw [hpos]; exact hfit)
        rw [hpos, ← h.cur_eq] at hwrite
        obtain ⟨writes, hret, hinside, ht⟩ := hwrite
        exact ⟨writes, by rw [writeToFile, hret]; rfl, hinside, ht⟩
    obtain ⟨writes, hret, hinside, ht⟩ := hsaves
    refine ⟨writes, hret, hinside, ht, ?_, reloads _⟩
    rw [fileOf_eq h ht, toString_ret h]

end

/-- Three bytes in blocks of two, all of them unread. -/
theorem saves_three : ∃ b : ByteArray, b.content = [7, 8, 9] ∧ b.position = 0 ∧ Saves b := by
  obtain ⟨b₁, -, hrep₁, hflat₁, -⟩ := write_ret (new_rep (show 1 ≤ 2 by decide) fun _ => 0) [7, 8, 9]
  have hcontent₁ : b₁.content = [7, 8, 9] := congrArg Flat.bytes hflat₁
  obtain ⟨b, w, -, hrep, hw, hflat, -⟩ := setPosition_ret hrep₁ (Nat.zero_le _)
  have hcontent : b.content = b₁.content ++ w := congrArg Flat.bytes hflat
  rw [hcontent₁, List.length_eq_zero_iff.1 (by omega : w.length = 0)] at hcontent
  have hposition : b.position = 0 := congrArg Flat.cursor hflat
  have hoffset : inBlock b = 0 := by rw [inBlock, hposition, Nat.zero_mod]
  exact ⟨b, hcontent, hposition, (saves_iff hrep).2 (.inr ⟨by omega, .inl hoffset⟩)⟩

/-- The last byte of a block is not saved when the cursor is on it: the length of the write is 0. -/
theorem not_saves : ¬ ∀ (base : ℕ) (heap : ℕ → UInt8) (buf : List UInt8) (b₁ b : ByteArray) (p : ℕ),
    1 ≤ base → write buf (new base heap) = .ret () b₁ → setPosition p b₁ = .ret () b → Saves b := by
  intro h
  obtain ⟨b₁, hwrite, hrep₁, hflat₁, hsame₁⟩ := write_ret (new_rep (show 1 ≤ 2 by decide) fun _ => 0) [7, 8]
  have hcap₁ : b₁.capacity = 2 := congrArg Flat.cap hflat₁
  have hlength₁ : b₁.content.length = 2 := congrArg (List.length ∘ Flat.bytes) hflat₁
  obtain ⟨b, w, hset, hrep, hw, hflat, hsame⟩ := setPosition_ret (p := 1) hrep₁ (by omega)
  have hcontent : b.content = b₁.content ++ w := congrArg Flat.bytes hflat
  have hposition : b.position = 1 := congrArg Flat.cursor hflat
  have hbase : b.baseSize = 2 := hsame.1.trans hsame₁.1
  have hlength : b.content.length = 2 := by
    rw [hcontent, List.length_append]
    omega
  have hread : b.getReadSize = 1 := by rw [getReadSize, ← hrep.length_content, hlength, hposition]
  have hoffset : inBlock b = 1 := by rw [inBlock, hposition, hbase]
  obtain ⟨writes, hret, hinside, ht, -⟩ := h 2 _ _ b₁ b 1 (by decide) hwrite hset
  have hcond := (offset_of_saves hrep (by omega) hret hinside ht).2
  omega

end ByteArray
end Ancfl
