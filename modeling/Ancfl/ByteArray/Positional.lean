/-
  Reads at a position (`read(buf, size, position)` and
  `getReadBuffers(buffers, len, position)`).

  * `readAt` and `getReadBuffersAt` are the segments of the blocks that the two
    calls copy or hand out;
  * `Yields`: segments that hold given bytes and lie in the content. `ReadsAt`
    and `BuffersAt` say that a call answers with the bytes at the position;
  * `readAt` starts in the block of the cursor, at the offset that the position
    has in its own block: at `inCursorBlock`. `getReadBuffersAt` starts in the
    block of the position, but bounds the length by the bytes after the cursor;
  * `positional_iff`: for which cursors each of them is right.
-/
import Ancfl.ByteArray.Flat

namespace Ancfl

open Lib

/-! ## The loop through the blocks -/

section
variable {nodes : List Node} {s N : ℕ}

/-- A loop that goes beyond the last block dereferences a null pointer. -/
theorem walk_none (hs : 0 < s) (hb : ∀ n ∈ nodes, n.size = s) (size : ℕ) :
    ∀ k npos, npos < s → k < nodes.length → nodes.length * s < k * s + npos + size →
      walk nodes k npos (s - npos) size = none := by
  induction size using Nat.strong_induction_on with
  | _ size ih =>
    intro k npos hnpos hk hsize
    have hblock : (k + 1) * s ≤ nodes.length * s := Nat.mul_le_mul_right s hk
    rw [Nat.add_mul, Nat.one_mul] at hblock
    rw [walk, if_neg (by omega), if_neg (by omega)]
    split
    · rfl
    · next n hn =>
      have hn' := List.getElem?_eq_some_iff.1 hn
      obtain ⟨hk1, rfl⟩ := hn'
      have hsize1 : nodes[k + 1].size = s := hb _ (List.getElem_mem hk1)
      have hrest := ih (size - (s - npos)) (by omega) (k + 1) 0 hs hk1 (by rw [Nat.add_mul]; omega)
      rw [Nat.sub_zero] at hrest
      rw [hsize1, hrest]
      rfl

/-- Segments that cover a range lie in it. -/
theorem Tiles.le : ∀ {segs : List Segment} {p n : ℕ}, Tiles N s segs p n → ∀ g ∈ segs,
    g.npos + g.len ≤ s ∧ g.node * s + g.npos + g.len ≤ p + n
  | [], _, _, _, g, hg => by cases hg
  | g' :: gs, p, n, ⟨_, hp, hl, hn, ht⟩, g, hg => by
    rcases List.mem_cons.1 hg with rfl | hg
    · exact ⟨hl, by omega⟩
    · obtain ⟨hblock, hle⟩ := Tiles.le ht g hg
      exact ⟨hblock, by omega⟩

/-- One of them reaches its end. -/
theorem Tiles.exists_end : ∀ {segs : List Segment} {p n : ℕ}, Tiles N s segs p n → 0 < n →
    ∃ g ∈ segs, g.node * s + g.npos + g.len = p + n
  | [], _, _, h, hn => absurd (show _ = 0 from h) (by omega)
  | g :: gs, p, n, ⟨_, hp, _, hn, ht⟩, _ => by
    by_cases hlast : g.len = n
    · exact ⟨g, List.mem_cons_self, by omega⟩
    · obtain ⟨g', hg', hend⟩ := Tiles.exists_end ht (by omega)
      exact ⟨g', List.mem_cons_of_mem _ hg', by omega⟩

end

namespace ByteArray

/-! ## The two calls -/

/-- `a - b` in `size_t`. -/
def sizeSub (a b : ℕ) : ℕ := if b ≤ a then a - b else 2 ^ 64 - (b - a)

/-- `read(buf, size, position)`: the segments that it copies to `buf`. -/
def readAt (size position : ℕ) : Call Exn ByteArray (List Segment) := fun b =>
  if sizeSub b.size position < size then .throw (.outOfRange "not enough len") b
  else
    match b.cur with
    | none => .undef
    | some k =>
      match b.nodes[k]? with
      | none => .undef
      | some n =>
        let npos := position % b.baseSize
        match walk b.nodes k npos (n.size - npos) size with
        | none => .undef
        | some (segs, _) => .ret segs b

/-- `getReadBuffers(buffers, len, position)`: the size and the segments in `buffers`. -/
def getReadBuffersAt (len position : ℕ) : Call Exn ByteArray (ℕ × List Segment) := fun b =>
  let len := if b.getReadSize < len then b.getReadSize else len
  if len = 0 then .ret (0, []) b
  else
    -- `count` times `next` from `m_root`; behind the last block `cur->size` is a null dereference
    match b.nodes[position / b.baseSize]? with
    | none => .undef
    | some n =>
      let npos := position % b.baseSize
      match walk b.nodes (position / b.baseSize) npos (n.size - npos) len with
      | none => .undef
      | some (segs, _) => .ret (len, segs) b

/-! ## What they answer -/

/-- The segments hold the bytes `w`, and lie in their blocks and in the content. -/
structure Yields (b : ByteArray) (segs : List Segment) (w : List UInt8) : Prop where
  load_eq : load b.nodes segs = w
  inside : ∀ g ∈ segs, g.npos + g.len ≤ b.baseSize ∧ g.node * b.baseSize + g.npos + g.len ≤ b.content.length

/-- `read(buf, size, position)` returns the bytes at the position, or throws if they are too few. -/
def ReadsAt (b : ByteArray) (size position : ℕ) : Prop :=
  if position + size ≤ b.content.length then
    ∃ segs, readAt size position b = .ret segs b ∧ Yields b segs (slice b.content position size)
  else ∃ e, readAt size position b = .throw e b

/-- `getReadBuffers(buffers, len, position)` yields the bytes at the position, `len` of them or as
    many as there are. -/
def BuffersAt (b : ByteArray) (len position : ℕ) : Prop :=
  ∃ segs, getReadBuffersAt len position b = .ret (min len (b.content.length - position), segs) b ∧
    Yields b segs (slice b.content position (min len (b.content.length - position)))

/-- The place in the cursor's block that has the offset of `position`. -/
def inCursorBlock (b : ByteArray) (position : ℕ) : ℕ :=
  b.position / b.baseSize * b.baseSize + position % b.baseSize

section
variable {b : ByteArray} {size len position : ℕ} {segs : List Segment}

/-- Segments that cover a range hold its bytes, and lie in the content if the range does. -/
theorem Rep.yields_iff (h : Rep b) {p n : ℕ} {w : List UInt8} (hn : 0 < n)
    (ht : Tiles b.nodes.length b.baseSize segs p n) :
    Yields b segs w ↔ p + n ≤ b.content.length ∧ slice b.content p n = w := by
  have hload := load_tiles h.blocks segs p n ht
  have hslice (hle : p + n ≤ b.content.length) : load b.nodes segs = slice b.content p n := by
    rw [h.length_content] at hle
    rw [hload, content, slice_take _ hle]
  constructor
  · rintro ⟨heq, hinside⟩
    obtain ⟨g, hg, hend⟩ := ht.exists_end hn
    have hle : p + n ≤ b.content.length := hend ▸ (hinside g hg).2
    exact ⟨hle, (hslice hle).symm.trans heq⟩
  · rintro ⟨hle, rfl⟩
    refine ⟨hslice hle, fun g hg => ?_⟩
    obtain ⟨hblock, hend⟩ := ht.le g hg
    exact ⟨hblock, hend.trans hle⟩

theorem Yields.nil : Yields b [] (slice b.content position 0) :=
  ⟨(slice_zero _ _).symm, fun g hg => by cases hg⟩

theorem Rep.sizeSub_eq (h : Rep b) (hpos : position ≤ b.content.length) :
    sizeSub b.size position = b.content.length - position := by
  rw [h.length_content] at hpos ⊢
  exact if_pos hpos

theorem readAt_throw (h : Rep b) (hpos : position ≤ b.content.length)
    (hsize : ¬ position + size ≤ b.content.length) :
    readAt size position b = .throw (.outOfRange "not enough len") b := by
  rw [readAt, h.sizeSub_eq hpos, if_pos (by omega)]

/-- No bytes: only `m_cur->size` is read. -/
theorem readAt_zero (h : Rep b) :
    readAt 0 position b = if b.position < b.capacity then .ret [] b else .undef := by
  rw [readAt, if_neg (by omega)]
  split_ifs with hcur
  · obtain ⟨hk, hlt⟩ := h.cur_some hcur
    have hwalk (n : Node) : walk b.nodes (b.position / b.baseSize) (position % b.baseSize)
        (n.size - position % b.baseSize) 0 = some ([], some (b.position / b.baseSize)) := by
      rw [walk, if_pos rfl]
    simp only [hk, List.getElem?_eq_getElem hlt, hwalk]
  · have hle := h.pos_le.trans h.size_le
    rw [h.cur_none.2 (by omega)]

/-- **`read` goes through the blocks from `inCursorBlock` on**, and ends where the last block does. -/
theorem readAt_pos (h : Rep b) (hn : 0 < size) (hsize : position + size ≤ b.content.length) :
    (b.position < b.capacity ∧ ∃ segs, readAt size position b = .ret segs b ∧
      Tiles b.nodes.length b.baseSize segs (inCursorBlock b position) size) ∨
    ((b.position = b.capacity ∨ b.capacity < inCursorBlock b position + size) ∧
      readAt size position b = .undef) := by
  have hle := h.pos_le.trans h.size_le
  rw [readAt, h.sizeSub_eq (by omega), if_neg (by omega)]
  by_cases hcur : b.position = b.capacity
  · exact .inr ⟨.inl hcur, by rw [h.cur_none.2 hcur]⟩
  obtain ⟨hk, hlt⟩ := h.cur_some (by omega)
  have hblock := List.getElem?_eq_getElem hlt
  have hbsize : b.nodes[b.position / b.baseSize].size = b.baseSize := h.blocks _ (List.getElem_mem hlt)
  have hnpos : position % b.baseSize < b.baseSize := Nat.mod_lt _ h.base_pos
  by_cases hfit : inCursorBlock b position + size ≤ b.capacity
  · obtain ⟨segs, hw, ht⟩ :=
      walk_spec h.base_pos h.blocks size _ _ hnpos hlt (by rw [← h.capacity_eq]; exact hfit)
    exact .inl ⟨by omega, segs, by simp only [hk, hblock, hbsize, hw], ht⟩
  · have hw := walk_none h.base_pos h.blocks size _ _ hnpos hlt
      (by rw [← h.capacity_eq]; exact not_le.1 hfit)
    exact .inr ⟨.inr (not_le.1 hfit), by simp only [hk, hblock, hbsize, hw]⟩

/-- The bytes at the position are read if they stand at the same offset in the cursor's block. -/
theorem readsAt_iff (h : Rep b) (hpos : position ≤ b.content.length) :
    ReadsAt b size position ↔ (position + size ≤ b.content.length → b.position < b.capacity ∧
      (size = 0 ∨ inCursorBlock b position + size ≤ b.content.length ∧
        slice b.content (inCursorBlock b position) size = slice b.content position size)) := by
  unfold ReadsAt
  split_ifs with hsize
  · rw [forall_prop_of_true hsize]
    rcases Nat.eq_zero_or_pos size with rfl | hn
    · rw [readAt_zero h]
      split_ifs with hcur
      · exact ⟨fun _ => ⟨hcur, .inl rfl⟩, fun _ => ⟨[], rfl, Yields.nil⟩⟩
      · simp [hcur]
    have hne : ¬ size = 0 := hn.ne'
    rcases readAt_pos h hn hsize with ⟨hlt, segs, hret, ht⟩ | ⟨hbad, hundef⟩
    · have hyields := h.yields_iff (w := slice b.content position size) hn ht
      rw [hret]
      constructor
      · rintro ⟨segs', heq, hr⟩
        obtain ⟨rfl, -⟩ := Out.ret.inj heq
        exact ⟨hlt, .inr (hyields.1 hr)⟩
      · rintro ⟨-, hzero | hright⟩
        · exact absurd hzero hne
        · exact ⟨segs, rfl, hyields.2 hright⟩
    · rw [hundef]
      constructor
      · rintro ⟨segs, heq, -⟩
        cases heq
      · rintro ⟨hlt, hzero | ⟨hle, -⟩⟩
        · exact absurd hzero hne
        · have hcap := h.length_content.trans_le h.size_le
          omega
  · simp only [hsize, false_implies, iff_true]
    exact ⟨_, readAt_throw h hpos hsize⟩

/-- A position in the block of the cursor is read right. -/
theorem readsAt_of_block (h : Rep b) (hpos : position ≤ b.content.length) (hcur : b.position < b.capacity)
    (hblock : position / b.baseSize = b.position / b.baseSize) : ReadsAt b size position := by
  have hplace : inCursorBlock b position = position := by
    rw [inCursorBlock, ← hblock]
    exact Nat.div_add_mod' _ _
  rw [readsAt_iff h hpos, hplace]
  exact fun hsize => ⟨hcur, .inr ⟨hsize, rfl⟩⟩

/-- The length that `getReadBuffers` cuts to the bytes after the cursor. -/
theorem Rep.clipped (h : Rep b) (len : ℕ) : (if b.getReadSize < len then b.getReadSize else len) =
    min len (b.content.length - b.position) := by
  rw [getReadSize, ← h.length_content]
  split_ifs <;> omega

/-- **`getReadBuffers` goes through the blocks from the position on**, for as many bytes as are
    after the cursor. -/
theorem getReadBuffersAt_ret (h : Rep b) (hn : 0 < min len (b.content.length - b.position))
    (hfit : position + min len (b.content.length - b.position) ≤ b.content.length) :
    ∃ segs, getReadBuffersAt len position b = .ret (min len (b.content.length - b.position), segs) b ∧
      Tiles b.nodes.length b.baseSize segs position (min len (b.content.length - b.position)) := by
  have hcap := h.length_content.trans_le h.size_le
  have hlt : position / b.baseSize < b.nodes.length := by
    rw [Nat.div_lt_iff_lt_mul h.base_pos, ← h.capacity_eq]
    omega
  have hpos : position / b.baseSize * b.baseSize + position % b.baseSize = position := Nat.div_add_mod' _ _
  obtain ⟨segs, hw, ht⟩ := walk_spec h.base_pos h.blocks (min len (b.content.length - b.position)) _ _
    (Nat.mod_lt position h.base_pos) hlt (by rw [← h.capacity_eq, hpos]; omega)
  rw [hpos] at ht
  have hlen := h.clipped len
  have hbsize : b.nodes[position / b.baseSize].size = b.baseSize := h.blocks _ (List.getElem_mem hlt)
  refine ⟨segs, ?_, ht⟩
  rw [getReadBuffersAt, hlen]
  simp only [if_neg hn.ne', List.getElem?_eq_getElem hlt, hbsize, hw]

/-- The size that it returns is at most the bytes after the cursor. -/
theorem getReadBuffersAt_size (h : Rep b) {n : ℕ}
    (hret : getReadBuffersAt len position b = .ret (n, segs) b) :
    n = min len (b.content.length - b.position) := by
  have hlen := h.clipped len
  rw [getReadBuffersAt, hlen] at hret
  dsimp only at hret
  split_ifs at hret with h0
  · injection hret with hpair
    injection hpair with hsize
    omega
  · split at hret
    · cases hret
    · split at hret
      · cases hret
      · injection hret with hpair
        injection hpair with hsize
        exact hsize.symm

/-- The bytes at the position are handed out if as many of them are asked for and there as of those
    after the cursor. -/
theorem buffersAt_iff (h : Rep b) (hpos : position ≤ b.content.length) :
    BuffersAt b len position ↔
      min len (b.content.length - b.position) = min len (b.content.length - position) := by
  constructor
  · rintro ⟨segs, hret, -⟩
    exact (getReadBuffersAt_size h hret).symm
  · intro heq
    rw [BuffersAt, ← heq]
    rcases Nat.eq_zero_or_pos (min len (b.content.length - b.position)) with h0 | hn
    · refine ⟨[], ?_, h0 ▸ Yields.nil⟩
      rw [getReadBuffersAt, h.clipped, h0]
      rfl
    · have hfit : position + min len (b.content.length - b.position) ≤ b.content.length := by omega
      obtain ⟨segs, hret, ht⟩ := getReadBuffersAt_ret h hn hfit
      exact ⟨segs, hret, (h.yields_iff hn ht).2 ⟨hfit, rfl⟩⟩

/-- **Reads at a position.** `read` is right iff the bytes asked for are too few, or the cursor is
    before the end of the capacity and its block has the bytes of the position at the same offset;
    `getReadBuffers` iff the bytes after the cursor are as many, up to `len`, as those after the
    position. -/
theorem positional_iff (h : Rep b) (hpos : position ≤ b.content.length) (size len : ℕ) :
    (ReadsAt b size position ↔ (position + size ≤ b.content.length → b.position < b.capacity ∧
      (size = 0 ∨ inCursorBlock b position + size ≤ b.content.length ∧
        slice b.content (inCursorBlock b position) size = slice b.content position size))) ∧
    (BuffersAt b len position ↔
      min len (b.content.length - b.position) = min len (b.content.length - position)) :=
  ⟨readsAt_iff h hpos, buffersAt_iff h hpos⟩

end

/-- Three bytes in blocks of two, the cursor on the second of them. -/
theorem positional_three : ∃ b : ByteArray, b.content = [7, 8, 9] ∧ b.position = 1 ∧
    ReadsAt b 3 0 ∧ BuffersAt b 2 0 := by
  obtain ⟨b₁, -, hrep₁, hflat₁, hsame₁⟩ := write_ret (new_rep (show 1 ≤ 2 by decide) fun _ => 0) [7, 8, 9]
  have hcontent₁ : b₁.content = [7, 8, 9] := congrArg Flat.bytes hflat₁
  have hcap₁ : b₁.capacity = 4 := congrArg Flat.cap hflat₁
  obtain ⟨b, w, -, hrep, hw, hflat, hsame⟩ := setPosition_ret (p := 1) hrep₁ (by omega)
  rw [hcontent₁, List.length_eq_zero_iff.1 (hw.trans (by rw [hcontent₁]; rfl))] at hflat
  have hcontent : b.content = [7, 8, 9] := congrArg Flat.bytes hflat
  have hposition : b.position = 1 := congrArg Flat.cursor hflat
  have hcap : b.capacity = 4 := (congrArg Flat.cap hflat).trans hcap₁
  have hbase : b.baseSize = 2 := hsame.1.trans hsame₁.1
  obtain ⟨hread, hbuffers⟩ := positional_iff hrep (Nat.zero_le b.content.length) 3 2
  refine ⟨b, hcontent, hposition, hread.2 fun _ => ?_, hbuffers.2 ?_⟩
  · rw [inCursorBlock, hcontent, hposition, hcap, hbase]
    decide
  · rw [hcontent, hposition]
    rfl

/-- After a write of three bytes into blocks of two, the byte at position 0 is not read: the cursor
    is in the second block. -/
theorem not_positional : ¬ ∀ (base : ℕ) (heap : ℕ → UInt8) (buf : List UInt8) (b : ByteArray),
    1 ≤ base → write buf (new base heap) = .ret () b → ∀ size len position,
      position ≤ b.content.length → ReadsAt b size position ∧ BuffersAt b len position := by
  intro h
  obtain ⟨b, hwrite, hrep, hflat, hsame⟩ := write_ret (new_rep (show 1 ≤ 2 by decide) fun _ => 0) [7, 8, 9]
  have hcontent : b.content = [7, 8, 9] := congrArg Flat.bytes hflat
  have hposition : b.position = 3 := congrArg Flat.cursor hflat
  have hbase : b.baseSize = 2 := hsame.1
  have hread := (h 2 _ _ b (by decide) hwrite 1 0 0 (Nat.zero_le _)).1
  rw [readsAt_iff hrep (Nat.zero_le _), inCursorBlock, hcontent, hposition, hbase] at hread
  obtain ⟨-, hzero | ⟨-, hslice⟩⟩ := hread (by decide)
  · cases hzero
  · revert hslice
    decide

end ByteArray
end Ancfl
