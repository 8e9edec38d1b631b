/-
  Reading a stream into a `ByteArray`, and writing one to a stream.

  * `getReadBuffers` and `getWriteBuffers` are the segments of the blocks that
    a `read` or `write` of a stream works on;
  * `readInto` and `writeFrom` are `read` and `write` of a socket stream on a
    `ByteArray`, `readFixSizeInto` and `writeFixSizeFrom` the loops over them;
  * `readFixSizeInto_ret`: the loop appends the next bytes of the stream;
  * `writeFixSizeFrom_ret`: the loop writes the bytes after the cursor.
-/
import Ancfl.ByteArray.RoundTrip
import Ancfl.Stream.FixSize

namespace Ancfl

open Lib

namespace ByteArray

/-- `getReadBuffers(buffers, len)`: the segments of the bytes after the cursor. -/
def getReadBuffers (len : ℕ) : Call Exn ByteArray (List Segment) := fun b =>
  let len := if b.getReadSize < len then b.getReadSize else len
  if len = 0 then .ret [] b
  else
    match b.cur with
    | none => .undef
    | some k =>
      match b.nodes[k]? with
      | none => .undef
      | some n =>
        let npos := b.position % b.baseSize
        match walk b.nodes k npos (n.size - npos) len with
        | none => .undef
        | some (segs, _) => .ret segs b

/-- `getWriteBuffers(buffers, len)`: the segments of `len` bytes after the cursor. -/
def getWriteBuffers (len : ℕ) : Call Exn ByteArray (List Segment) := fun b =>
  if len = 0 then .ret [] b
  else
    let b := b.addCapacity len
    match b.cur with
    | none => .undef
    | some k =>
      match b.nodes[k]? with
      | none => .undef
      | some n =>
        let npos := b.position % b.baseSize
        match walk b.nodes k npos (n.size - npos) len with
        | none => .undef
        | some (segs, _) => .ret segs b

/-- What a read into the segments does to the blocks. -/
def fill (segs : List Segment) (bytes : List UInt8) (b : ByteArray) : ByteArray :=
  { b with nodes := store b.nodes segs bytes }

/-- The read buffers hold the bytes after the cursor. -/
theorem getReadBuffers_ret {b : ByteArray} (h : Rep b) (len : ℕ) :
    ∃ segs, getReadBuffers len b = .ret segs b ∧
      load b.nodes segs = (b.content.drop b.position).take len := by
  have hpos := h.pos_le
  have hsize := h.size_le
  have htake : (b.content.drop b.position).take len =
      slice b.content b.position (if b.getReadSize < len then b.getReadSize else len) := by
    rw [slice]
    split_ifs with hlt
    · have hlen : (b.content.drop b.position).length = b.getReadSize := by
        rw [List.length_drop, h.length_content, getReadSize]
      rw [List.take_of_length_le (by omega), List.take_of_length_le (by omega)]
    · rfl
  unfold getReadBuffers
  rw [htake]
  set m := if b.getReadSize < len then b.getReadSize else len with hm
  have hmle : m ≤ b.size - b.position := by
    rw [hm]; unfold getReadSize; split_ifs <;> omega
  by_cases h0 : m = 0
  · exact ⟨[], by simp only [if_pos h0], by rw [h0, slice_zero]; rfl⟩
  obtain ⟨k, n, hk, hn, hns, hklt, hnpos, hkpos⟩ := h.node (by omega)
  obtain ⟨segs, hw, ht⟩ := walk_spec h.base_pos h.blocks m k _ hnpos hklt
    (by rw [hkpos, ← h.capacity_eq]; omega)
  rw [hkpos] at hw ht
  refine ⟨segs, by simp only [if_neg h0, hk, hn, hns, hw], ?_⟩
  rw [load_tiles h.blocks segs _ _ ht, content, slice_take _ (by omega)]

/-- **Reading into the write buffers and moving the cursor** overwrites or extends the content as
    `write` does, but makes room for `len` bytes. -/
theorem getWriteBuffers_ret {b : ByteArray} (h : Rep b) {len : ℕ} (hlen : 0 < len) :
    ∃ segs c, getWriteBuffers len b = .ret segs c ∧ c.position = b.position ∧
      ∀ bytes : List UInt8, bytes.length ≤ len → Rep (fill segs bytes c) ∧
        ∃ b', setPosition (b.position + bytes.length) (fill segs bytes c) = .ret () b' ∧ Rep b' ∧
          b'.flat = ⟨overwrite b.content b.position bytes, b.position + bytes.length,
            grown b.baseSize b.capacity (b.position + len)⟩ ∧ Same b b' := by
  obtain ⟨extra, heap, hc, hrep⟩ := addCapacity_spec h len
  generalize hcdef : b.addCapacity len = c at hc hrep
  have hcpos : c.position = b.position := by rw [hc]
  have hcbase : c.baseSize = b.baseSize := by rw [hc]
  have hcsize : c.size = b.size := by rw [hc]
  have hcend : c.endian = b.endian := by rw [hc]
  have hccap : c.capacity = grown b.baseSize b.capacity (b.position + len) := by rw [hc]
  have hcont : (memory c.nodes).take b.size = b.content := by rw [hc]; exact h.memory_take extra
  have hroom : b.position + len ≤ c.capacity := hccap ▸ le_grown h.base_pos _ _
  obtain ⟨k, n, hk, hn, hns, hklt, hnpos, hkpos⟩ := hrep.node (by omega)
  obtain ⟨segs, hw, ht⟩ := walk_spec hrep.base_pos hrep.blocks len k _ hnpos hklt
    (by rw [hkpos, ← hrep.capacity_eq, hcpos]; exact hroom)
  rw [hkpos, hcpos] at hw ht
  refine ⟨segs, c, ?_, hcpos, fun bytes hbytes => ?_⟩
  · rw [getWriteBuffers, if_neg (by omega)]
    simp only [hcdef, hk, hn, hns, hcpos, hw]
  obtain ⟨hmem, hcount, hsizes⟩ := store_tiles segs c.nodes _ _ bytes hrep.blocks ht hbytes
  have hfill : Rep (fill segs bytes c) := by
    refine ⟨hrep.base_pos, ?_, hsizes, ?_, hrep.pos_le, hrep.size_le, ?_⟩
    · exact List.ne_nil_of_length_pos (by rw [fill, hcount]; omega)
    · show c.capacity = (store c.nodes segs bytes).length * c.baseSize
      rw [hcount]; exact hrep.capacity_eq
    · show c.cur = cursorAt (store c.nodes segs bytes) c.baseSize c.position
      rw [hrep.cur_eq, cursorAt, cursorAt, hcount]
  have hp : b.position + bytes.length ≤ c.capacity := by omega
  obtain ⟨b', w, hset, hrep', -, hflat, hsame⟩ := setPosition_ret hfill hp
  refine ⟨hfill, b', hset, hrep', ?_, hsame.1.trans hcbase, hsame.2.trans hcend⟩
  have heq := hset.symm.trans (setPosition_eq hfill hp)
  have hbytes' : b'.content = overwrite b.content b.position bytes := by
    have hb' : b'.nodes = store c.nodes segs bytes ∧ b'.size = max c.size (b.position + bytes.length) := by
      injection heq with _ hb'
      rw [hb']; exact ⟨rfl, rfl⟩
    rw [content, hb'.1, hb'.2, hmem, hcsize, ← hcont]
    exact take_overwrite h.pos_le (by rw [hrep.length_memory]; omega)
  have hcur : b'.position = b.position + bytes.length := congrArg Flat.cursor hflat
  have hcap : b'.capacity = c.capacity := congrArg Flat.cap hflat
  rw [flat, hbytes', hcur, hcap, hccap]

/-- A buffer of content `v` and capacity `C` with the cursor at the end of the content. -/
structure Holds (e : Endian) (s C : ℕ) (b : ByteArray) (v : List UInt8) : Prop where
  rep : Rep b
  endian_eq : b.endian = e
  base_eq : b.baseSize = s
  content_eq : b.content = v
  position_eq : b.position = v.length
  capacity_eq : b.capacity = C

theorem Appended.holds {e : Endian} {s : ℕ} {b : ByteArray} {v : List UInt8}
    (h : Appended e s b v) : Holds e s (grown s s v.length) b v :=
  ⟨h.rep, h.endian_eq, h.base_eq, h.content_eq, h.position_eq, h.capacity_eq⟩

theorem Holds.length_le {e : Endian} {s C : ℕ} {b : ByteArray} {v : List UInt8}
    (h : Holds e s C b v) : v.length ≤ C := by
  rw [← h.position_eq, ← h.capacity_eq]; exact h.rep.pos_le.trans h.rep.size_le

/-- Back at the beginning, all of the content is still to be read. -/
theorem Holds.rewind {e : Endian} {s C : ℕ} {b : ByteArray} {v : List UInt8} (h : Holds e s C b v) :
    ∃ b', setPosition 0 b = .ret () b' ∧ Unread e v C b' v := by
  obtain ⟨b', w, hset, hrep, hw, hflat, hsame⟩ := setPosition_ret h.rep (Nat.zero_le _)
  obtain rfl : w = [] := List.length_eq_zero_iff.1 (by omega)
  have hc : b'.content = b.content ++ [] := congrArg Flat.bytes hflat
  have hp : b'.position = 0 := congrArg Flat.cursor hflat
  refine ⟨b', hset, hrep, hsame.2.trans h.endian_eq, ?_, (congrArg Flat.cap hflat).trans h.capacity_eq, ?_⟩
  · rw [hc, List.append_nil, h.content_eq]
  · rw [hp, List.drop_zero]

end ByteArray

namespace Stream

/-! ## A stream and a buffer -/

/-- `read(ba, length)` of a socket stream. -/
def readInto (ba : ByteArray) (length : ℕ) : Call Exn Stream (ℤ × ByteArray) := do
  if ← .gets closed then return (-1, ba)
  else
    let (iovs, ba) ← .on ba (ByteArray.getWriteBuffers length)
    let (rt, bytes) ← read length
    if 0 < rt then
      let ((), ba) ← .on (ba.fill iovs bytes) (ByteArray.setPosition (ba.position + rt.toNat))
      return (rt, ba)
    else return (rt, ba)

/-- `write(ba, length)` of a socket stream. -/
def writeFrom (ba : ByteArray) (length : ℕ) : Call Exn Stream (ℤ × ByteArray) := do
  if ← .gets closed then return (-1, ba)
  else
    let (iovs, ba) ← .on ba (ByteArray.getReadBuffers length)
    let rt ← write (load ba.nodes iovs)
    if 0 < rt then
      let ((), ba) ← .on ba (ByteArray.setPosition (ba.position + rt.toNat))
      return (rt, ba)
    else return (rt, ba)

/-- The loop `while (left > 0)` of `readFixSize(ba, length)`. -/
def readLoopInto (left : ℕ) (ba : ByteArray) : Call Exn Stream (Except ℤ Unit × ByteArray) :=
  if left = 0 then return (.ok (), ba)
  else do
    let (len, ba) ← readInto ba left
    if len ≤ 0 then return (.error len, ba)
    else readLoopInto (left - len.toNat) ba
termination_by left

/-- `readFixSize(ba, length)`. -/
def readFixSizeInto (ba : ByteArray) (length : ℕ) : Call Exn Stream (ℤ × ByteArray) := do
  match ← readLoopInto (toInt64 length).toNat ba with
  | (.ok (), ba) => return (toInt32 length, ba)
  | (.error e, ba) => return (e, ba)

/-- The loop `while (left > 0)` of `writeFixSize(ba, length)`. -/
def writeLoopFrom (left : ℕ) (ba : ByteArray) : Call Exn Stream (Except ℤ Unit × ByteArray) :=
  if left = 0 then return (.ok (), ba)
  else do
    let (len, ba) ← writeFrom ba left
    if len ≤ 0 then return (.error len, ba)
    else writeLoopFrom (left - len.toNat) ba
termination_by left

/-- `writeFixSize(ba, length)`. -/
def writeFixSizeFrom (ba : ByteArray) (length : ℕ) : Call Exn Stream (ℤ × ByteArray) := do
  match ← writeLoopFrom (toInt64 length).toNat ba with
  | (.ok (), ba) => return (toInt32 length, ba)
  | (.error e, ba) => return (e, ba)

open Ancfl.ByteArray

/-- A read appends some of the coming bytes to the buffer, at least one. -/
theorem readInto_ret {st : Stream} {w v : List UInt8} {e : Endian} {s C n : ℕ} {b : ByteArray}
    (h : Delivers st w) (hb : Holds e s C b v) (hn : 0 < n) (hw : w ≠ []) :
    ∃ k st' b', 0 < k ∧ k ≤ n ∧ k ≤ w.length ∧ readInto b n st = .ret (k, b') st' ∧
      Delivers st' (w.drop k) ∧ SameOut st st' ∧
        Holds e s (grown s C (v.length + n)) b' (v ++ w.take k) := by
  obtain ⟨k, st', hk0, hkn, hkw, hread, h', hsame⟩ := read_ret (ε := Exn) h hn hw
  obtain ⟨segs, c, hget, hcpos, hfill⟩ := getWriteBuffers_ret hb.rep hn
  have hlen : (w.take k).length = k := by rw [List.length_take]; omega
  obtain ⟨-, b', hset, hrep, hflat, hsameb⟩ := hfill (w.take k) (by omega)
  have hc : b'.content = overwrite b.content b.position (w.take k) := congrArg Flat.bytes hflat
  have hp : b'.position = b.position + (w.take k).length := congrArg Flat.cursor hflat
  have hcap : b'.capacity = grown b.baseSize b.capacity (b.position + n) := congrArg Flat.cap hflat
  refine ⟨k, st', b', hk0, hkn, hkw, ?_, h', hsame, hrep, hsameb.2.trans hb.endian_eq,
    hsameb.1.trans hb.base_eq, ?_, ?_, ?_⟩
  · rw [hlen, ← hcpos] at hset
    rw [readInto, Call.bind_ret (Call.gets_apply _ _), h.is_open]
    simp only [Bool.false_eq_true, if_false]
    rw [Call.bind_ret (Call.on_ret hget st)]
    dsimp only
    rw [Call.bind_ret hread]
    dsimp only
    rw [if_pos (by omega), Int.toNat_natCast, Call.bind_ret (Call.on_ret hset st')]
    rfl
  · rw [hc, hb.content_eq, hb.position_eq, overwrite]; simp
  · rw [hp, hb.position_eq, List.length_append]
  · rw [hcap, hb.base_eq, hb.capacity_eq, hb.position_eq]

/-- The loop appends as many bytes as are asked for. -/
theorem readLoopInto_ret {rest : List UInt8} {e : Endian} {s : ℕ} (hs : 0 < s) :
    ∀ (w : List UInt8) {st : Stream} {v : List UInt8} {C : ℕ} {b : ByteArray},
      Delivers st (w ++ rest) → Holds e s C b v →
        ∃ st' b', readLoopInto w.length b st = .ret (.ok (), b') st' ∧ Delivers st' rest ∧
          SameOut st st' ∧ Holds e s (grown s C (v.length + w.length)) b' (v ++ w) := by
  intro w
  induction hn : w.length using Nat.strong_induction_on generalizing w with
  | _ n ih =>
    intro st v C b h hb
    subst hn
    rw [readLoopInto]
    by_cases h0 : w.length = 0
    · obtain rfl : w = [] := List.length_eq_zero_iff.1 h0
      refine ⟨st, b, by rw [if_pos h0]; rfl, h, ⟨rfl, rfl⟩, ?_⟩
      rw [List.length_nil, Nat.add_zero, List.append_nil, grown, if_pos hb.length_le]
      exact hb
    have hw : w ++ rest ≠ [] := by
      intro hnil
      rw [List.append_eq_nil_iff] at hnil
      exact h0 (by rw [hnil.1]; rfl)
    obtain ⟨k, st₁, b₁, hk0, hk, -, hread, h₁, hsame₁, hb₁⟩ := readInto_ret h hb (Nat.pos_of_ne_zero h0) hw
    rw [List.drop_append_of_le_length hk] at h₁
    rw [List.take_append_of_le_length hk] at hb₁
    have hlen : (w.drop k).length = w.length - k := List.length_drop
    obtain ⟨st₂, b₂, hloop, h₂, hsame₂, hb₂⟩ := ih _ (by omega) (w.drop k) rfl h₁ hb₁
    have htake : (w.take k).length = k := by rw [List.length_take]; omega
    refine ⟨st₂, b₂, ?_, h₂, ⟨hsame₂.1.trans hsame₁.1, hsame₂.2.trans hsame₁.2⟩, ?_⟩
    · rw [if_neg h0, Call.bind_ret hread]
      dsimp only
      rw [if_neg (by omega), Int.toNat_natCast, ← hlen]
      exact hloop
    · rw [List.append_assoc, List.take_append_drop, List.length_append, htake, hlen] at hb₂
      rw [show v.length + k + (w.length - k) = v.length + w.length by omega] at hb₂
      rw [grown, if_pos (le_grown hs _ _)] at hb₂
      exact hb₂

/-- **`readFixSize` appends the next bytes of the stream to the buffer**, which grows to hold them. -/
theorem readFixSizeInto_ret {st : Stream} {w rest v : List UInt8} {e : Endian} {s C : ℕ}
    {b : ByteArray} (hs : 0 < s) (h : Delivers st (w ++ rest)) (hb : Holds e s C b v)
    (hw : w.length < 2 ^ 63) :
    ∃ st' b', readFixSizeInto b w.length st = .ret (toInt32 w.length, b') st' ∧ Delivers st' rest ∧
      SameOut st st' ∧ Holds e s (grown s C (v.length + w.length)) b' (v ++ w) := by
  obtain ⟨st', b', hloop, h', hsame, hb'⟩ := readLoopInto_ret hs w h hb
  refine ⟨st', b', ?_, h', hsame, hb'⟩
  rw [readFixSizeInto, toInt64_natCast hw, Int.toNat_natCast, Call.bind_ret hloop]
  rfl

/-- A write takes some of the bytes after the cursor, at least one. -/
theorem writeFrom_ret {st : Stream} {w v u : List UInt8} {e : Endian} {C : ℕ} {b : ByteArray}
    (h : Sent st u) (hb : Unread e v C b w) (hw : w ≠ []) :
    ∃ k st' b', 0 < k ∧ k ≤ w.length ∧ writeFrom b w.length st = .ret (k, b') st' ∧
      Sent st' (u ++ w.take k) ∧ Unread e v C b' (w.drop k) := by
  obtain ⟨segs, hget, hload⟩ := getReadBuffers_ret hb.rep w.length
  rw [hb.content_eq, hb.drop_eq, List.take_length] at hload
  obtain ⟨k, st', hk0, hk, hwrite, h'⟩ := write_ret (ε := Exn) h hw
  have hlen : w.length = v.length - b.position := by rw [← hb.drop_eq, List.length_drop]
  have hcontent := hb.rep.length_content
  have hsize := hb.rep.size_le
  rw [hb.content_eq] at hcontent
  obtain ⟨b', x, hset, hrep, hx, hflat, hsame⟩ :=
    setPosition_ret hb.rep (p := b.position + k) (by omega)
  rw [hb.content_eq] at hx
  obtain rfl : x = [] := List.length_eq_zero_iff.1 (by omega)
  have hc : b'.content = b.content ++ [] := congrArg Flat.bytes hflat
  have hp : b'.position = b.position + k := congrArg Flat.cursor hflat
  refine ⟨k, st', b', hk0, hk, ?_, h', hrep, hsame.2.trans hb.endian_eq, ?_,
    (congrArg Flat.cap hflat).trans hb.capacity_eq, ?_⟩
  · rw [writeFrom, Call.bind_ret (Call.gets_apply _ _), h.is_open]
    simp only [Bool.false_eq_true, if_false]
    rw [Call.bind_ret (Call.on_ret hget st)]
    dsimp only
    rw [hload, Call.bind_ret hwrite, if_pos (by omega), Int.toNat_natCast,
      Call.bind_ret (Call.on_ret hset st')]
    rfl
  · rw [hc, List.append_nil, hb.content_eq]
  · rw [hp, ← List.drop_drop, hb.drop_eq]

/-- The loop writes all the bytes after the cursor. -/
theorem writeLoopFrom_ret {v : List UInt8} {e : Endian} {C : ℕ} : ∀ (w : List UInt8) {st : Stream}
    {u : List UInt8} {b : ByteArray}, Sent st u → Unread e v C b w →
      ∃ st' b', writeLoopFrom w.length b st = .ret (.ok (), b') st' ∧ Sent st' (u ++ w) ∧
        Unread e v C b' [] := by
  intro w
  induction hn : w.length using Nat.strong_induction_on generalizing w with
  | _ n ih =>
    intro st u b h hb
    subst hn
    rw [writeLoopFrom]
    by_cases h0 : w.length = 0
    · obtain rfl : w = [] := List.length_eq_zero_iff.1 h0
      exact ⟨st, b, by rw [if_pos h0]; rfl, by rw [List.append_nil]; exact h, hb⟩
    obtain ⟨k, st₁, b₁, hk0, hk, hwrite, h₁, hb₁⟩ :=
      writeFrom_ret h hb (fun hw => h0 (List.length_eq_zero_iff.2 hw))
    have hlen : (w.drop k).length = w.length - k := List.length_drop
    obtain ⟨st₂, b₂, hloop, h₂, hb₂⟩ := ih _ (by omega) (w.drop k) rfl h₁ hb₁
    rw [List.append_assoc, List.take_append_drop] at h₂
    refine ⟨st₂, b₂, ?_, h₂, hb₂⟩
    rw [if_neg h0, Call.bind_ret hwrite]
    dsimp only
    rw [if_neg (by omega), Int.toNat_natCast, ← hlen]
    exact hloop

/-- **`writeFixSize` writes the bytes after the cursor.** -/
theorem writeFixSizeFrom_ret {st : Stream} {w v u : List UInt8} {e : Endian} {C : ℕ} {b : ByteArray}
    (h : Sent st u) (hb : Unread e v C b w) (hw : w.length < 2 ^ 63) :
    ∃ st' b', writeFixSizeFrom b w.length st = .ret (toInt32 w.length, b') st' ∧ Sent st' (u ++ w) ∧
      Unread e v C b' [] := by
  obtain ⟨st', b', hloop, h', hb'⟩ := writeLoopFrom_ret w h hb
  refine ⟨st', b', ?_, h', hb'⟩
  rw [writeFixSizeFrom, toInt64_natCast hw, Int.toNat_natCast, Call.bind_ret hloop]
  rfl

end Stream
end Ancfl
