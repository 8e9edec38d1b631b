/-
  `ByteArray` (bytearray.h, bytearray.cc): a byte buffer stored in a linked
  list of blocks of one size, with a cursor.

  * `Node`, `ByteArray`: the blocks and the fields of the object.  The list
    starting at `m_root` is `nodes`, the pointer `m_cur` an index into it;
  * `walk` is the loop that goes through the blocks from the cursor on, shared
    by all operations that copy bytes; `write`, `read`, `setPosition`, `clear`
    and `addCapacity` are the operations;
  * `Rep` is the representation invariant, `content` the bytes written so far.
    Each operation keeps `Rep`, and `write_ret`, `read_ret`, `setPosition_ret`
    and `clear_ret` say what it does to the content and the cursor.

  Sizes and positions are natural numbers: none exceeds the memory that holds
  the blocks.
-/
import Ancfl.Lib.Call
import Ancfl.Lib.Bytes

namespace Ancfl

open Lib

/-- `ANCFL_LITTLE_ENDIAN` and `ANCFL_BIG_ENDIAN`. -/
inductive Endian where
  | little
  | big
deriving DecidableEq

/-- `ANCFL_BYTE_ORDER` of the host. -/
def byteOrder : Endian := .little

/-- `std::out_of_range` with its message. -/
inductive Exn where
  | outOfRange (what : String)
deriving DecidableEq

/-- A block of the list (`ByteArray::Node`): the bytes at `ptr`.  Its `next`
    is the node after it in `ByteArray.nodes`. -/
structure Node where
  ptr : List UInt8

/-- The size of the block. -/
def Node.size (n : Node) : ℕ := n.ptr.length

/-- The fields of a `ByteArray`. -/
structure ByteArray where
  /-- `m_baseSize`, the size of a block -/
  baseSize : ℕ
  position : ℕ
  capacity : ℕ
  size : ℕ
  endian : Endian
  /-- the blocks in list order, the first one is `m_root` -/
  nodes : List Node
  /-- `m_cur`: the position in the list of the current block, `none` for null -/
  cur : Option ℕ
  /-- the bytes that the memory handed out next by `new char[]` contains -/
  heap : ℕ → UInt8

/-- The part of a block that one step of a copy loop touches. -/
structure Segment where
  /-- the block, by its position in the list -/
  node : ℕ
  /-- `npos`, the offset in the block -/
  npos : ℕ
  len : ℕ

/-- `nodes[k]->next`. -/
def next (nodes : List Node) (k : ℕ) : Option ℕ :=
  if k + 1 < nodes.length then some (k + 1) else none

/-- The loop `while (size > 0)` of the copying operations, at the block `k`:
    the segments it copies and the value of the block pointer after it
    (`none` if the loop dereferences a null pointer). -/
def walk (nodes : List Node) (k npos ncap size : ℕ) : Option (List Segment × Option ℕ) :=
  if size = 0 then some ([], some k)
  else if size ≤ ncap then
    some ([⟨k, npos, size⟩],
      if (nodes[k]?.map Node.size) = some (npos + size) then next nodes k else some k)
  else
    match _h : nodes[k + 1]? with
    | none => none
    | some n =>
      (walk nodes (k + 1) 0 n.size (size - ncap)).map fun r => (⟨k, npos, ncap⟩ :: r.1, r.2)
termination_by nodes.length - k
decreasing_by
  have := (List.getElem?_eq_some_iff.1 _h).1
  omega

/-- The copies of `walk`'s segments into the blocks, taking the bytes from `buf`. -/
def store (nodes : List Node) : List Segment → List UInt8 → List Node
  | [], _ => nodes
  | s :: segs, buf =>
    store (nodes.modify s.node fun n => ⟨overwrite n.ptr s.npos (buf.take s.len)⟩) segs
      (buf.drop s.len)

/-- The bytes in `walk`'s segments. -/
def load (nodes : List Node) (segs : List Segment) : List UInt8 :=
  segs.flatMap fun s => (nodes[s.node]?.elim [] fun n => slice n.ptr s.npos s.len)

namespace ByteArray

/-- `new Node(s)` on a memory that contains `heap`. -/
def newNode (heap : ℕ → UInt8) (s : ℕ) : Node := ⟨(List.range s).map heap⟩

/-- The constructor. -/
def new (base_size : ℕ) (heap : ℕ → UInt8) : ByteArray where
  baseSize := base_size
  position := 0
  capacity := base_size
  size := 0
  endian := .big
  nodes := [newNode heap base_size]
  cur := some 0
  heap := fun i => heap (base_size + i)

/-- `setIsLittleEndian`. -/
def setIsLittleEndian (val : Bool) : Call Exn ByteArray Unit :=
  .modify fun b => { b with endian := if val then .little else .big }

/-- `getReadSize`. -/
def getReadSize (b : ByteArray) : ℕ := b.size - b.position

/-- `getCapacity`: the bytes left after the cursor. -/
def getCapacity (b : ByteArray) : ℕ := b.capacity - b.position

/-- One turn of the loop of `addCapacity`: a new block at the end of the list. -/
def appendNode (b : ByteArray) : ByteArray :=
  { b with
    nodes := b.nodes ++ [newNode b.heap b.baseSize]
    capacity := b.capacity + b.baseSize
    heap := fun i => b.heap (b.baseSize + i) }

/-- `addCapacity`.  The quotient `1.0 * size / m_baseSize` is rounded up exactly:
    `size` is below `2^53`. -/
def addCapacity (b : ByteArray) (size : ℕ) : ByteArray :=
  if size = 0 then b
  else
    let old_cap := b.getCapacity
    if size ≤ old_cap then b
    else
      let count := (size - old_cap + b.baseSize - 1) / b.baseSize
      let b' := appendNode^[count] b
      if old_cap = 0 then { b' with cur := if count = 0 then none else some b.nodes.length } else b'

/-- `write(buf, size)`. -/
def write (buf : List UInt8) : Call Exn ByteArray Unit := fun b =>
  if buf.length = 0 then .ret () b
  else
    let b := b.addCapacity buf.length
    match b.cur with
    | none => .undef
    | some k =>
      match b.nodes[k]? with
      | none => .undef
      | some n =>
        let npos := b.position % b.baseSize
        match walk b.nodes k npos (n.size - npos) buf.length with
        | none => .undef
        | some (segs, cur) =>
          let position := b.position + buf.length
          .ret () { b with
            nodes := store b.nodes segs buf
            cur := cur
            position := position
            size := if b.size < position then position else b.size }

/-- `read(buf, size)`: the bytes stored into `buf`.  `m_cur->size` is read also
    when `size` is 0. -/
def read (size : ℕ) : Call Exn ByteArray (List UInt8) := fun b =>
  if b.getReadSize < size then .throw (.outOfRange "not enough len") b
  else
    match b.cur with
    | none => .undef
    | some k =>
      match b.nodes[k]? with
      | none => .undef
      | some n =>
        let npos := b.position % b.baseSize
        match walk b.nodes k npos (n.size - npos) size with
        | none => .undef
        | some (segs, cur) =>
          .ret (load b.nodes segs) { b with cur := cur, position := b.position + size }

/-- The search of `setPosition` for the block of position `v`, from block `k` on
    (the outer `none` is a null dereference). -/
def seek (nodes : List Node) (k v : ℕ) : Option (Option ℕ) :=
  match _h : nodes[k]? with
  | none => none
  | some n =>
    if n.size < v then seek nodes (k + 1) (v - n.size)
    else if v = n.size then some (next nodes k)
    else some (some k)
termination_by nodes.length - k
decreasing_by
  have := (List.getElem?_eq_some_iff.1 _h).1
  omega

/-- `setPosition`. -/
def setPosition (v : ℕ) : Call Exn ByteArray Unit := fun b =>
  if b.capacity < v then .throw (.outOfRange "set_position out of range") b
  else
    match seek b.nodes 0 v with
    | none => .undef
    | some cur =>
      .ret () { b with position := v, size := if b.size < v then v else b.size, cur := cur }

/-- `clear`: every block but the first is deleted. -/
def clear : Call Exn ByteArray Unit :=
  .modify fun b =>
    { b with position := 0, size := 0, capacity := b.baseSize, nodes := b.nodes.take 1, cur := some 0 }

end ByteArray

/-! ## The loop through the blocks -/

/-- The memory of the blocks, one after the other. -/
def memory (nodes : List Node) : List UInt8 := (nodes.map Node.ptr).flatten

/-- The block that holds position `p` when all blocks have size `s`. -/
def cursorAt (nodes : List Node) (s p : ℕ) : Option ℕ :=
  if p = nodes.length * s then none else some (p / s)

/-- The segments cover the positions `p` to `p + n`, in order, in `N` blocks of size `s`. -/
def Tiles (N s : ℕ) : List Segment → ℕ → ℕ → Prop
  | [], _, n => n = 0
  | g :: gs, p, n =>
    g.node < N ∧ g.node * s + g.npos = p ∧ g.npos + g.len ≤ s ∧ g.len ≤ n ∧
      Tiles N s gs (p + g.len) (n - g.len)

section
variable {nodes : List Node} {s : ℕ}

theorem blocks_map (hb : ∀ n ∈ nodes, n.size = s) : ∀ b ∈ nodes.map Node.ptr, b.length = s := by
  intro b hb'
  obtain ⟨n, hn, rfl⟩ := List.mem_map.1 hb'
  exact hb n hn

theorem length_memory (hb : ∀ n ∈ nodes, n.size = s) : (memory nodes).length = nodes.length * s := by
  rw [memory, length_flatten_blocks (blocks_map hb), List.length_map]

theorem next_eq_cursorAt {k : ℕ} (hs : 0 < s) (hk : k < nodes.length) :
    next nodes k = cursorAt nodes s ((k + 1) * s) := by
  unfold next cursorAt
  by_cases h : k + 1 < nodes.length
  · have : (k + 1) * s ≠ nodes.length * s := (Nat.mul_lt_mul_of_pos_right h hs).ne
    rw [if_pos h, if_neg this, Nat.mul_div_cancel _ hs]
  · rw [if_neg h, if_pos (by rw [show k + 1 = nodes.length by omega])]

theorem cursorAt_inside {k i : ℕ} (hk : k < nodes.length) (hi : i < s) :
    cursorAt nodes s (k * s + i) = some k := by
  have hlt : k * s + i < nodes.length * s := calc
    k * s + i < k * s + s := by omega
    _ = (k + 1) * s := by ring
    _ ≤ nodes.length * s := Nat.mul_le_mul_right s hk
  have hdiv : (k * s + i) / s = k := by
    rw [Nat.mul_comm, Nat.mul_add_div (by omega), Nat.div_eq_of_lt hi, Nat.add_zero]
  rw [cursorAt, if_neg hlt.ne, hdiv]

/-- **The loop covers the bytes from the cursor on**, and leaves the block
    pointer at the block of the position it reaches. -/
theorem walk_spec (hs : 0 < s) (hb : ∀ n ∈ nodes, n.size = s) (size : ℕ) :
    ∀ k npos, npos < s → k < nodes.length → k * s + npos + size ≤ nodes.length * s →
      ∃ segs, walk nodes k npos (s - npos) size =
          some (segs, cursorAt nodes s (k * s + npos + size)) ∧
        Tiles nodes.length s segs (k * s + npos) size := by
  induction size using Nat.strong_induction_on with
  | _ size ih =>
    intro k npos hnpos hk hsize
    have hnode : nodes[k]? = some nodes[k] := List.getElem?_eq_getElem hk
    have hksize : nodes[k].size = s := hb _ (List.getElem_mem hk)
    rw [walk]
    by_cases h0 : size = 0
    · subst h0
      rw [if_pos rfl, Nat.add_zero, cursorAt_inside hk hnpos]
      exact ⟨[], rfl, rfl⟩
    rw [if_neg h0]
    by_cases hfit : size ≤ s - npos
    · rw [if_pos hfit]
      refine ⟨[⟨k, npos, size⟩], ?_, hk, rfl, by show npos + size ≤ s; omega, le_refl _,
        by show size - size = 0; omega⟩
      rw [hnode, Option.map_some, hksize]
      by_cases hfull : s = npos + size
      · rw [if_pos (by rw [hfull]), next_eq_cursorAt hs hk,
          show k * s + npos + size = (k + 1) * s by rw [Nat.add_assoc, ← hfull]; ring]
      · rw [if_neg (by simpa using hfull), Nat.add_assoc, cursorAt_inside hk (by omega)]
    · rw [if_neg hfit]
      have hnext : k * s + npos + size = (k + 1) * s + 0 + (size - (s - npos)) := by
        rw [Nat.add_mul]; omega
      have hk1 : k + 1 < nodes.length := by
        by_contra hc
        have : nodes.length * s ≤ (k + 1) * s := Nat.mul_le_mul_right s (by omega)
        omega
      obtain ⟨segs, hw, ht⟩ := ih (size - (s - npos)) (by omega) (k + 1) 0 hs hk1 (by omega)
      have hpos : (k + 1) * s + 0 = k * s + npos + (s - npos) := by rw [Nat.add_mul]; omega
      refine ⟨⟨k, npos, s - npos⟩ :: segs, ?_, hk, rfl, by show npos + (s - npos) ≤ s; omega,
        by show s - npos ≤ size; omega, ?_⟩
      · have hsize1 : nodes[k + 1].size = s := hb _ (List.getElem_mem hk1)
        split
        · next hn => rw [List.getElem?_eq_getElem hk1] at hn; cases hn
        · next n hn =>
          rw [List.getElem?_eq_getElem hk1] at hn
          obtain rfl : nodes[k + 1] = n := by simpa using hn
          rw [hsize1]
          rw [Nat.sub_zero] at hw
          rw [hw, hnext]; rfl
      · show Tiles _ s segs (k * s + npos + (s - npos)) (size - (s - npos))
        rw [← hpos]; exact ht

/-- The bytes of segments that cover a range are the bytes of that range. -/
theorem load_tiles (hb : ∀ n ∈ nodes, n.size = s) : ∀ (segs : List Segment) (p n : ℕ),
    Tiles nodes.length s segs p n → load nodes segs = slice (memory nodes) p n
  | [], p, n, h => by rw [show n = 0 from h]; simp [load]
  | g :: gs, p, n, ⟨hk, hp, hl, hn, ht⟩ => by
    have hnode : nodes[g.node]? = some nodes[g.node] := List.getElem?_eq_getElem hk
    have hblock : (nodes.map Node.ptr)[g.node]? = some nodes[g.node].ptr := by
      rw [List.getElem?_map, hnode]; rfl
    have hrest := load_tiles hb gs (p + g.len) (n - g.len) ht
    have hfirst : slice (memory nodes) p g.len = slice nodes[g.node].ptr g.npos g.len := by
      rw [← hp]; exact slice_flatten (blocks_map hb) hblock hl
    have hsplit := slice_add (memory nodes) p g.len (n - g.len)
    rw [show g.len + (n - g.len) = n by omega] at hsplit
    rw [hsplit, hfirst, ← hrest]
    simp [load, hnode]

/-- Copying into segments that cover a range overwrites the beginning of that range, and keeps
    the number of the blocks and their sizes. -/
theorem store_tiles : ∀ (segs : List Segment) (nodes : List Node) (p n : ℕ) (buf : List UInt8),
    (∀ n ∈ nodes, n.size = s) → Tiles nodes.length s segs p n → buf.length ≤ n →
      memory (store nodes segs buf) = overwrite (memory nodes) p buf ∧
        (store nodes segs buf).length = nodes.length ∧ ∀ n ∈ store nodes segs buf, n.size = s
  | [], nodes, p, n, buf, hb, h, hbuf => by
    rw [Tiles] at h
    rw [List.length_eq_zero_iff.1 (show buf.length = 0 by omega)]; simpa [store] using hb
  | g :: gs, nodes, p, n, buf, hb, ⟨hk, hp, hl, hn, ht⟩, hbuf => by
    have hnode : nodes[g.node]? = some nodes[g.node] := List.getElem?_eq_getElem hk
    have hblock : (nodes.map Node.ptr)[g.node]? = some nodes[g.node].ptr := by
      rw [List.getElem?_map, hnode]; rfl
    have htake : (buf.take g.len).length ≤ g.len := List.length_take_le _ _
    have hnew : (overwrite nodes[g.node].ptr g.npos (buf.take g.len)).length = s := by
      have hs : nodes[g.node].ptr.length = s := hb _ (List.getElem_mem hk)
      rw [length_overwrite (by rw [hs]; omega), hs]
    set nodes' := nodes.modify g.node fun n => ⟨overwrite n.ptr g.npos (buf.take g.len)⟩ with hnodes'
    have hset : nodes' = nodes.set g.node ⟨overwrite nodes[g.node].ptr g.npos (buf.take g.len)⟩ := by
      rw [hnodes', List.modify_eq_take_cons_drop hk, List.set_eq_take_append_cons_drop, if_pos hk]
    have hb' : ∀ n ∈ nodes', n.size = s := by
      intro n hn'
      rw [hset] at hn'
      rcases List.mem_or_eq_of_mem_set hn' with hn' | rfl
      exacts [hb n hn', hnew]
    have hlen' : nodes'.length = nodes.length := by rw [hset, List.length_set]
    have hmem' : memory nodes' = overwrite (memory nodes) p (buf.take g.len) := by
      rw [memory, hset, List.map_set, ← hp]
      exact overwrite_flatten (blocks_map hb) hblock (by omega)
    have hdrop : (buf.drop g.len).length ≤ n - g.len := by rw [List.length_drop]; omega
    obtain ⟨h1, h2, h3⟩ := store_tiles gs nodes' (p + g.len) (n - g.len) (buf.drop g.len) hb'
      (hlen' ▸ ht) hdrop
    refine ⟨?_, h2.trans hlen', h3⟩
    by_cases hshort : buf.length ≤ g.len
    · -- nothing is left for the segments after this one
      rw [List.drop_of_length_le hshort, overwrite_nil] at h1
      rw [store, List.drop_of_length_le hshort]
      rw [List.take_of_length_le hshort] at hmem'
      exact h1.trans hmem'
    have hfull : (buf.take g.len).length = g.len := by rw [List.length_take]; omega
    have hfit : p + (buf.take g.len).length ≤ (memory nodes).length := by
      have : (g.node + 1) * s ≤ nodes.length * s := Nat.mul_le_mul_right s hk
      rw [length_memory hb, hfull, ← hp]
      rw [Nat.add_mul] at this; omega
    have hjoin := overwrite_overwrite (buf.take g.len) (buf.drop g.len)
      ((Nat.le_add_right p _).trans hfit)
    rw [List.take_append_drop, hfull, ← hmem', ← h1] at hjoin
    exact hjoin

end

/-! ## The representation invariant -/

namespace ByteArray

/-- The representation invariant. -/
structure Rep (b : ByteArray) : Prop where
  base_pos : 0 < b.baseSize
  root : b.nodes ≠ []
  blocks : ∀ n ∈ b.nodes, n.size = b.baseSize
  capacity_eq : b.capacity = b.nodes.length * b.baseSize
  pos_le : b.position ≤ b.size
  size_le : b.size ≤ b.capacity
  cur_eq : b.cur = cursorAt b.nodes b.baseSize b.position

/-- The bytes written so far. -/
def content (b : ByteArray) : List UInt8 := (memory b.nodes).take b.size

/-- The capacity after a demand for `p` bytes: `cap`, or the least multiple of `s` that holds them. -/
def grown (s cap p : ℕ) : ℕ := if p ≤ cap then cap else (p + s - 1) / s * s

theorem le_grown {s : ℕ} (hs : 0 < s) (cap p : ℕ) : p ≤ grown s cap p := by
  unfold grown
  split_ifs with h
  · exact h
  · have := Nat.div_add_mod' (p + s - 1) s
    have := Nat.mod_lt (p + s - 1) hs
    omega

theorem Rep.length_memory {b : ByteArray} (h : Rep b) : (memory b.nodes).length = b.capacity := by
  rw [Ancfl.length_memory h.blocks, h.capacity_eq]

theorem Rep.length_content {b : ByteArray} (h : Rep b) : b.content.length = b.size := by
  rw [content, List.length_take, h.length_memory, min_eq_left h.size_le]

/-- `m_cur` is null only at the end of the capacity. -/
theorem Rep.cur_none {b : ByteArray} (h : Rep b) : b.cur = none ↔ b.position = b.capacity := by
  rw [h.cur_eq, cursorAt, ← h.capacity_eq]
  split_ifs with hp <;> simp [hp]

/-- Before the end of the capacity, `m_cur` is the block that holds the cursor. -/
theorem Rep.cur_some {b : ByteArray} (h : Rep b) (hp : b.position < b.capacity) :
    b.cur = some (b.position / b.baseSize) ∧ b.position / b.baseSize < b.nodes.length := by
  refine ⟨?_, ?_⟩
  · rw [h.cur_eq, cursorAt, if_neg (by rw [← h.capacity_eq]; omega)]
  · rw [Nat.div_lt_iff_lt_mul h.base_pos, ← h.capacity_eq]; exact hp

theorem new_rep {base_size : ℕ} (hb : 1 ≤ base_size) (heap : ℕ → UInt8) :
    Rep (new base_size heap) where
  base_pos := hb
  root := by simp [new]
  blocks n hn := by
    obtain rfl : n = newNode heap base_size := by simpa [new] using hn
    simp [Node.size, newNode, new]
  capacity_eq := by simp [new]
  pos_le := le_refl _
  size_le := Nat.zero_le _
  cur_eq := by
    have h := cursorAt_inside (show 0 < (new base_size heap).nodes.length by simp [new]) hb
    rw [Nat.zero_mul, Nat.zero_add] at h
    exact h.symm

theorem content_new (base_size : ℕ) (heap : ℕ → UInt8) : (new base_size heap).content = [] := by
  simp [content, new]

/-- The loop of `addCapacity` appends blocks. -/
theorem iterate_appendNode (b : ByteArray) : ∀ count, ∃ extra heap,
    appendNode^[count] b = { b with
      nodes := b.nodes ++ extra, capacity := b.capacity + count * b.baseSize, heap := heap } ∧
    extra.length = count ∧ ∀ n ∈ extra, n.size = b.baseSize
  | 0 => ⟨[], b.heap, by simp⟩
  | count + 1 => by
    obtain ⟨extra, heap, he, hl, hs⟩ := iterate_appendNode b count
    refine ⟨extra ++ [newNode heap b.baseSize], fun i => heap (b.baseSize + i), ?_, by simp [hl], ?_⟩
    · rw [Function.iterate_succ_apply', he]
      simp only [appendNode, List.append_assoc, Nat.add_mul, Nat.one_mul, Nat.add_assoc]
    · intro n hn
      rcases List.mem_append.1 hn with hn | hn
      · exact hs n hn
      · rw [List.mem_singleton.1 hn]; simp [Node.size, newNode]

/-- **`addCapacity` makes room** for `size` bytes after the cursor, and changes nothing else. -/
theorem addCapacity_spec {b : ByteArray} (h : Rep b) (size : ℕ) : ∃ extra heap,
    b.addCapacity size = { b with
      nodes := b.nodes ++ extra
      capacity := grown b.baseSize b.capacity (b.position + size)
      cur := (b.addCapacity size).cur
      heap := heap } ∧ Rep (b.addCapacity size) := by
  have hpos : b.position ≤ b.capacity := h.pos_le.trans h.size_le
  by_cases hfit : size = 0 ∨ size ≤ b.getCapacity
  · have hsame : b.addCapacity size = b := by
      unfold addCapacity
      rcases hfit with h0 | h1
      · rw [if_pos h0]
      · simp only [if_pos h1, ite_self]
    have hg : grown b.baseSize b.capacity (b.position + size) = b.capacity := by
      rw [grown, if_pos]; unfold getCapacity at hfit; omega
    rw [hsame]
    exact ⟨[], b.heap, by rw [hg]; simp, h⟩
  · push Not at hfit
    obtain ⟨h0, hlt⟩ := hfit
    set count := (size - b.getCapacity + b.baseSize - 1) / b.baseSize with hcount
    obtain ⟨extra, heap, he, hl, hs⟩ := iterate_appendNode b count
    have hbase := h.base_pos
    have hcount_pos : 0 < count := Nat.div_pos (by omega) hbase
    have hg : grown b.baseSize b.capacity (b.position + size) = b.capacity + count * b.baseSize := by
      unfold getCapacity at hlt hcount
      rw [grown, if_neg (by omega), hcount, h.capacity_eq]
      rw [h.capacity_eq] at hlt hpos
      rw [show b.position + size + b.baseSize - 1 =
          (size - (b.nodes.length * b.baseSize - b.position) + b.baseSize - 1) +
            b.nodes.length * b.baseSize by omega, Nat.add_mul_div_right _ _ hbase]
      ring
    have hcur : b.addCapacity size = { b with
        nodes := b.nodes ++ extra
        capacity := grown b.baseSize b.capacity (b.position + size)
        cur := if b.getCapacity = 0 then some b.nodes.length else b.cur
        heap := heap } := by
      rw [addCapacity, if_neg h0]
      simp only [if_neg (not_le.2 hlt), ← hcount, if_neg hcount_pos.ne', he, hg]
      split_ifs <;> rfl
    rw [hcur]
    refine ⟨extra, heap, rfl, ?_⟩
    have hlen : (b.nodes ++ extra).length = b.nodes.length + count := by
      rw [List.length_append, hl]
    refine ⟨hbase, by simp [h.root], ?_, ?_, h.pos_le, ?_, ?_⟩
    · intro n hn
      rcases List.mem_append.1 hn with hn | hn
      exacts [h.blocks n hn, hs n hn]
    · show grown _ _ _ = (b.nodes ++ extra).length * b.baseSize
      rw [hg, hlen, h.capacity_eq]; ring
    · show b.size ≤ grown _ _ _
      rw [hg]; exact h.size_le.trans (Nat.le_add_right _ _)
    · show (if b.getCapacity = 0 then some b.nodes.length else b.cur) =
        cursorAt (b.nodes ++ extra) b.baseSize b.position
      have hmore : b.nodes.length * b.baseSize < (b.nodes ++ extra).length * b.baseSize := by
        rw [hlen]; exact Nat.mul_lt_mul_of_pos_right (by omega) hbase
      have hinside : b.position ≠ (b.nodes ++ extra).length * b.baseSize := by
        rw [h.capacity_eq] at hpos; omega
      rw [show cursorAt (b.nodes ++ extra) b.baseSize b.position = some (b.position / b.baseSize) from
        if_neg hinside]
      unfold getCapacity
      split_ifs with hfull
      · rw [show b.position = b.nodes.length * b.baseSize by rw [h.capacity_eq] at hpos hfull; omega,
          Nat.mul_div_cancel _ hbase]
      · exact (h.cur_some (by omega)).1

end ByteArray
end Ancfl
