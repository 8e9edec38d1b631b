/-
  `ByteArray` as a flat byte vector with a cursor.

  * `Flat` is what the buffer is for: a vector of bytes, a cursor into it, and
    the capacity that bounds `setPosition`; `Flat.Step` are its operations;
  * `write_ret`, `read_ret`, `setPosition_ret` and `clear_ret`: each operation
    of the chunked buffer keeps `Rep` and does to `flat` what the vector's
    operation does;
  * `read_undef`: a `read` of no bytes at the end of the capacity dereferences
    the null pointer `m_cur`;
  * `chunked_refines_flat_iff`: a sequence of operations refines the vector, at every state
    it reaches, iff it contains no such read.
-/
import Ancfl.ByteArray.Chunks
import Ancfl.Lib.Run

namespace Ancfl

open Lib

/-- A vector of bytes with a cursor, and the capacity it has room for. -/
structure Flat where
  bytes : List UInt8
  cursor : ℕ
  cap : ℕ
deriving DecidableEq

/-- The public operations that move or copy bytes. -/
inductive Op where
  | write (buf : List UInt8)
  | read (n : ℕ)
  | setPosition (p : ℕ)
  | clear
deriving DecidableEq

/-- How an operation ends: it returns (`read` with the bytes) or throws. -/
inductive Answer where
  | returns (bytes : List UInt8)
  | throws (e : Exn)
deriving DecidableEq

namespace Flat

/-- `write` overwrites or extends the vector at the cursor. -/
def write (s : ℕ) (f : Flat) (buf : List UInt8) : Flat :=
  ⟨overwrite f.bytes f.cursor buf, f.cursor + buf.length,
    ByteArray.grown s f.cap (f.cursor + buf.length)⟩

/-- The operations of the vector.  The bytes `setPosition` adds are not
    specified. -/
inductive Step (s : ℕ) : Flat → Op × Answer → Flat → Prop
  | write {f : Flat} (buf : List UInt8) : Step s f (.write buf, .returns []) (f.write s buf)
  | read {f : Flat} {n : ℕ} : n ≤ f.bytes.length - f.cursor →
      Step s f (.read n, .returns (slice f.bytes f.cursor n)) { f with cursor := f.cursor + n }
  | readThrow {f : Flat} {n : ℕ} : f.bytes.length - f.cursor < n →
      Step s f (.read n, .throws (.outOfRange "not enough len")) f
  | setPosition {f : Flat} {p : ℕ} (w : List UInt8) : p ≤ f.cap → w.length = p - f.bytes.length →
      Step s f (.setPosition p, .returns []) { f with bytes := f.bytes ++ w, cursor := p }
  | setPositionThrow {f : Flat} {p : ℕ} : f.cap < p →
      Step s f (.setPosition p, .throws (.outOfRange "set_position out of range")) f
  | clear {f : Flat} : Step s f (.clear, .returns []) ⟨[], 0, s⟩

end Flat

namespace ByteArray

/-- The vector a buffer stands for. -/
def flat (b : ByteArray) : Flat := ⟨b.content, b.position, b.capacity⟩

/-- The fields no operation changes. -/
def Same (b b' : ByteArray) : Prop := b'.baseSize = b.baseSize ∧ b'.endian = b.endian

theorem Rep.memory_take {b : ByteArray} (h : Rep b) (extra : List Node) :
    (memory (b.nodes ++ extra)).take b.size = b.content := by
  rw [memory, List.map_append, List.flatten_append, List.take_append_of_le_length]
  · rfl
  · exact h.length_memory ▸ h.size_le

/-- The block that holds the cursor, when the cursor is before the end of the capacity. -/
theorem Rep.node {b : ByteArray} (h : Rep b) (hp : b.position < b.capacity) :
    ∃ k n, b.cur = some k ∧ b.nodes[k]? = some n ∧ n.size = b.baseSize ∧ k < b.nodes.length ∧
      b.position % b.baseSize < b.baseSize ∧ k * b.baseSize + b.position % b.baseSize = b.position := by
  obtain ⟨hc, hk⟩ := h.cur_some hp
  exact ⟨_, _, hc, List.getElem?_eq_getElem hk, h.blocks _ (List.getElem_mem hk), hk,
    Nat.mod_lt _ h.base_pos, Nat.div_add_mod' _ _⟩

/-- **`write` overwrites or extends the content.** -/
theorem write_ret {b : ByteArray} (h : Rep b) (buf : List UInt8) :
    ∃ b', write buf b = .ret () b' ∧ Rep b' ∧ b'.flat = b.flat.write b.baseSize buf ∧ Same b b' := by
  by_cases h0 : buf.length = 0
  · refine ⟨b, by rw [write, if_pos h0], h, ?_, rfl, rfl⟩
    rw [List.length_eq_zero_iff.1 h0, Flat.write, overwrite_nil]
    have hcap : grown b.baseSize b.capacity b.position = b.capacity :=
      if_pos (h.pos_le.trans h.size_le)
    simp [flat, hcap]
  obtain ⟨extra, heap, hc, hrep⟩ := addCapacity_spec h buf.length
  generalize hcdef : b.addCapacity buf.length = c at hc hrep
  have hcpos : c.position = b.position := by rw [hc]
  have hcbase : c.baseSize = b.baseSize := by rw [hc]
  have hcsize : c.size = b.size := by rw [hc]
  have hcend : c.endian = b.endian := by rw [hc]
  have hccap : c.capacity = grown b.baseSize b.capacity (b.position + buf.length) := by rw [hc]
  have hcont : (memory c.nodes).take b.size = b.content := by rw [hc]; exact h.memory_take extra
  have hroom : b.position + buf.length ≤ c.capacity := hccap ▸ le_grown h.base_pos _ _
  obtain ⟨k, n, hk, hn, hns, hklt, hnpos, hkpos⟩ := hrep.node (by omega)
  obtain ⟨segs, hw, ht⟩ := walk_spec hrep.base_pos hrep.blocks buf.length k _ hnpos hklt
    (by rw [hkpos, ← hrep.capacity_eq, hcpos]; exact hroom)
  rw [hkpos] at hw ht
  obtain ⟨hmem, hlen, hsizes⟩ :=
    store_tiles segs c.nodes c.position _ buf hrep.blocks ht (le_refl _)
  have hwrite : write buf b = .ret () { c with
      nodes := store c.nodes segs buf
      cur := cursorAt c.nodes c.baseSize (c.position + buf.length)
      position := c.position + buf.length
      size := if c.size < c.position + buf.length then c.position + buf.length else c.size } := by
    rw [write, if_neg h0]; simp only [hcdef, hk, hn, hns, hw]
  refine ⟨_, hwrite, ?_, ?_, hcbase, hcend⟩
  · refine ⟨hrep.base_pos, ?_, hsizes, by rw [hlen]; exact hrep.capacity_eq, ?_, ?_, ?_⟩
    · exact List.ne_nil_of_length_pos (by rw [hlen]; omega)
    · dsimp only; split_ifs <;> omega
    · have := hrep.size_le
      dsimp only; split_ifs <;> omega
    · dsimp only; rw [cursorAt, cursorAt, hlen]
  · have hmax : (if c.size < c.position + buf.length then c.position + buf.length else c.size) =
        max b.size (b.position + buf.length) := by split_ifs <;> omega
    have hfits : b.position + buf.length ≤ (memory c.nodes).length := by rw [hrep.length_memory]; exact hroom
    have hover := take_overwrite h.pos_le hfits
    rw [hcont, ← hmax, ← hcpos] at hover
    rw [← hcpos] at hccap
    simp only [flat, Flat.write, ← hcpos, ← hccap, ← hover, ← hmem]
    rfl

/-- **`read` returns the bytes after the cursor** and advances it, when there are
    enough of them and, for no bytes, the cursor is before the end of the capacity. -/
theorem read_ret {b : ByteArray} (h : Rep b) {n : ℕ} (hn : n ≤ b.content.length - b.position)
    (h0 : n = 0 → b.position < b.capacity) :
    ∃ b', read n b = .ret (slice b.content b.position n) b' ∧ Rep b' ∧
      b'.flat = { b.flat with cursor := b.position + n } ∧ Same b b' := by
  rw [h.length_content] at hn
  have hpos := h.pos_le
  have hsize := h.size_le
  obtain ⟨k, m, hk, hm, hms, hklt, hnpos, hkpos⟩ := h.node (by omega)
  obtain ⟨segs, hw, ht⟩ := walk_spec h.base_pos h.blocks n k _ hnpos hklt
    (by rw [hkpos, ← h.capacity_eq]; omega)
  rw [hkpos] at hw ht
  have hload : load b.nodes segs = slice b.content b.position n := by
    rw [load_tiles h.blocks segs _ _ ht, content, slice_take _ (by omega)]
  have hread : read n b = .ret (slice b.content b.position n) { b with
      cur := cursorAt b.nodes b.baseSize (b.position + n), position := b.position + n } := by
    rw [read, if_neg (by unfold getReadSize; omega)]; simp only [hk, hm, hms, hw, hload]
  exact ⟨_, hread, ⟨h.base_pos, h.root, h.blocks, h.capacity_eq, by dsimp only; omega, h.size_le, rfl⟩,
    rfl, rfl, rfl⟩

theorem read_throw {b : ByteArray} (h : Rep b) {n : ℕ} (hn : b.content.length - b.position < n) :
    read n b = .throw (.outOfRange "not enough len") b := by
  rw [h.length_content] at hn
  rw [read, if_pos (by unfold getReadSize; omega)]

/-- **A read of no bytes at the end of the capacity is not defined**: `m_cur` is null. -/
theorem read_undef {b : ByteArray} (h : Rep b) (hp : b.position = b.capacity) :
    read 0 b = .undef := by
  rw [read, if_neg (by omega), h.cur_none.2 hp]

theorem seek_spec {nodes : List Node} {s : ℕ} (hs : 0 < s) (hb : ∀ n ∈ nodes, n.size = s) :
    ∀ (v k : ℕ), k < nodes.length → k * s + v ≤ nodes.length * s →
      seek nodes k v = some (cursorAt nodes s (k * s + v)) := by
  intro v
  induction v using Nat.strong_induction_on with
  | _ v ih =>
    intro k hk hv
    have hksize : nodes[k].size = s := hb _ (List.getElem_mem hk)
    rw [seek]
    split
    · next hn => rw [List.getElem?_eq_getElem hk] at hn; cases hn
    · next n hn =>
      rw [List.getElem?_eq_getElem hk] at hn
      obtain rfl : nodes[k] = n := by simpa using hn
      rw [hksize]
      have hstep : (k + 1) * s = k * s + s := by ring
      by_cases hlt : s < v
      · have hk1 : k + 1 < nodes.length := by
          by_contra hc
          have : nodes.length * s ≤ (k + 1) * s := Nat.mul_le_mul_right s (by omega)
          omega
        rw [if_pos hlt, ih (v - s) (by omega) (k + 1) hk1 (by omega)]
        rw [show (k + 1) * s + (v - s) = k * s + v by omega]
      · rw [if_neg hlt]
        by_cases heq : v = s
        · rw [if_pos heq, next_eq_cursorAt hs hk, hstep, heq]
        · rw [if_neg heq, cursorAt_inside hk (by omega)]

theorem setPosition_eq {b : ByteArray} (h : Rep b) {p : ℕ} (hp : p ≤ b.capacity) :
    setPosition p b = .ret () { b with
      position := p, size := max b.size p, cur := cursorAt b.nodes b.baseSize p } := by
  have hroot : 0 < b.nodes.length := List.length_pos_iff.2 h.root
  have hseek := seek_spec h.base_pos h.blocks p 0 hroot (by rw [← h.capacity_eq]; omega)
  rw [Nat.zero_mul, Nat.zero_add] at hseek
  have hmax : (if b.size < p then p else b.size) = max b.size p := by split_ifs <;> omega
  rw [setPosition, if_neg (by omega), hseek]; simp only [hmax]

/-- **`setPosition` moves the cursor** and extends the content to it. -/
theorem setPosition_ret {b : ByteArray} (h : Rep b) {p : ℕ} (hp : p ≤ b.capacity) :
    ∃ b' w, setPosition p b = .ret () b' ∧ Rep b' ∧ w.length = p - b.content.length ∧
      b'.flat = { b.flat with bytes := b.content ++ w, cursor := p } ∧ Same b b' := by
  have hset := setPosition_eq h hp
  have hsize := h.size_le
  rw [show max b.size p = b.size + (p - b.size) by omega] at hset
  refine ⟨_, slice (memory b.nodes) b.size (p - b.size), hset,
    ⟨h.base_pos, h.root, h.blocks, h.capacity_eq, ?_, ?_, rfl⟩, ?_, ?_, rfl, rfl⟩
  · dsimp only; omega
  · dsimp only; omega
  · rw [length_slice (by rw [h.length_memory]; omega), h.length_content]
  · simp only [flat, content, List.take_add, slice]

theorem setPosition_throw {b : ByteArray} {p : ℕ} (hp : b.capacity < p) :
    setPosition p b = .throw (.outOfRange "set_position out of range") b := by
  rw [setPosition, if_pos hp]

/-- **`clear` empties the vector.** -/
theorem clear_ret {b : ByteArray} (h : Rep b) :
    ∃ b', clear b = .ret () b' ∧ Rep b' ∧ b'.flat = ⟨[], 0, b.baseSize⟩ ∧ Same b b' := by
  obtain ⟨n, ns, hns⟩ := List.exists_cons_of_ne_nil h.root
  have h1 : (b.nodes.take 1).length = 1 := by simp [hns]
  refine ⟨_, rfl, ⟨h.base_pos, by simp [hns], fun m hm => h.blocks m (List.mem_of_mem_take hm), ?_,
    le_refl _, Nat.zero_le _, ?_⟩, by simp [flat, content], rfl, rfl⟩
  · dsimp only; rw [h1, Nat.one_mul]
  · have hc := cursorAt_inside (show 0 < (b.nodes.take 1).length by omega) h.base_pos
    rw [Nat.zero_mul, Nat.zero_add] at hc
    exact hc.symm

/-! ## Sequences of operations -/

/-- One operation. -/
def perform : Op → Call Exn ByteArray (List UInt8)
  | .write buf => do write buf; return []
  | .read n => read n
  | .setPosition p => do setPosition p; return []
  | .clear => do clear; return []

/-- An operation that has a defined behaviour, with its answer. -/
def Step (b : ByteArray) (l : Op × Answer) (b' : ByteArray) : Prop :=
  match perform l.1 b with
  | .ret bytes s => l.2 = .returns bytes ∧ b' = s
  | .throw e s => l.2 = .throws e ∧ b' = s
  | .undef => False

/-- The operation is not a read of no bytes at the end of the capacity. -/
def Meets (b : ByteArray) (op : Op) : Prop := op = .read 0 → b.position < b.capacity

/-- The relation between a buffer and the vector it refines. -/
def Refines (base : ℕ) (b : ByteArray) (f : Flat) : Prop := Rep b ∧ b.baseSize = base ∧ f = b.flat

theorem step_iff {b b' : ByteArray} {op : Op} {a : Answer} :
    Step b (op, a) b' ↔ (∃ bytes, perform op b = .ret bytes b' ∧ a = .returns bytes) ∨
      ∃ e, perform op b = .throw e b' ∧ a = .throws e := by
  unfold Step
  cases h : perform op b with
  | ret bytes s => simp [and_comm, eq_comm]
  | throw e s => simp [and_comm, eq_comm]
  | undef => simp

/-- **One operation**: if it meets the condition, it is defined, and whatever it does the
    vector can do. -/
theorem step_refines {base : ℕ} {b : ByteArray} {f : Flat} {op : Op} (h : Refines base b f)
    (hop : Meets b op) :
    ∃ a b' f', Step b (op, a) b' ∧ Flat.Step base f (op, a) f' ∧ Refines base b' f' := by
  obtain ⟨hr, rfl, rfl⟩ := h
  cases op with
  | write buf =>
    obtain ⟨b', hw, hr', hf, hs⟩ := write_ret hr buf
    refine ⟨.returns [], b', _, step_iff.2 (Or.inl ⟨[], ?_, rfl⟩), .write buf, hr', hs.1, hf.symm⟩
    exact (Call.bind_ret hw).trans rfl
  | read n =>
    by_cases hn : n ≤ b.content.length - b.position
    · obtain ⟨b', hrd, hr', hf, hs⟩ := read_ret hr hn fun h0 => hop (by rw [h0])
      exact ⟨_, b', _, step_iff.2 (Or.inl ⟨_, hrd, rfl⟩), .read (f := b.flat) hn, hr', hs.1, hf.symm⟩
    · exact ⟨_, b, _, step_iff.2 (Or.inr ⟨_, read_throw hr (not_le.1 hn), rfl⟩),
        .readThrow (f := b.flat) (not_le.1 hn), hr, rfl, rfl⟩
  | setPosition p =>
    by_cases hp : p ≤ b.capacity
    · obtain ⟨b', w, hset, hr', hw, hf, hs⟩ := setPosition_ret hr hp
      refine ⟨.returns [], b', _, step_iff.2 (Or.inl ⟨[], ?_, rfl⟩),
        .setPosition (f := b.flat) w hp hw, hr', hs.1, hf.symm⟩
      exact (Call.bind_ret hset).trans rfl
    · refine ⟨_, b, _, step_iff.2 (Or.inr ⟨.outOfRange "set_position out of range", ?_, rfl⟩),
        .setPositionThrow (f := b.flat) (not_le.1 hp), hr, rfl, rfl⟩
      show Call.bind (setPosition p) _ b = _
      rw [Call.bind, setPosition_throw (not_le.1 hp)]
  | clear =>
    obtain ⟨b', hc, hr', hf, hs⟩ := clear_ret hr
    refine ⟨.returns [], b', _, step_iff.2 (Or.inl ⟨[], ?_, rfl⟩), .clear, hr', hs.1, hf.symm⟩
    exact (Call.bind_ret hc).trans rfl

/-- An operation that is defined meets the condition. -/
theorem Step.meets {b b' : ByteArray} {op : Op} {a : Answer} (hr : Rep b) (h : Step b (op, a) b') :
    Meets b op := by
  rintro rfl
  by_contra hp
  have hu := read_undef hr (Nat.le_antisymm (hr.pos_le.trans hr.size_le) (not_lt.1 hp))
  simp [Step, perform, hu] at h

/-- Operations are deterministic. -/
theorem Step.det {b b₁ b₂ : ByteArray} {op : Op} {a₁ a₂ : Answer} (h₁ : Step b (op, a₁) b₁)
    (h₂ : Step b (op, a₂) b₂) : a₁ = a₂ ∧ b₁ = b₂ := by
  unfold Step at h₁ h₂
  cases hp : perform op b <;> simp_all

/-- The operations `ops` on a new buffer all have a defined behaviour, and they answer as the
    vector does; the buffer they leave stands for the vector they leave. -/
def Behaves (base : ℕ) (heap : ℕ → UInt8) (ops : List Op) : Prop :=
  ∃ tr b, tr.map Prod.fst = ops ∧ Run Step (new base heap) tr b ∧
    ∃ f, Run (Flat.Step base) ⟨[], 0, base⟩ tr f ∧ Refines base b f

/-- No operation of `ops`, run one after the other from `b`, is a read of no bytes at the end of
    the capacity. -/
def AllMeet : ByteArray → List Op → Prop
  | _, [] => True
  | b, op :: ops => Meets b op ∧ ∀ a b', Step b (op, a) b' → AllMeet b' ops

theorem refines_new {base : ℕ} (hb : 1 ≤ base) (heap : ℕ → UInt8) :
    Refines base (new base heap) ⟨[], 0, base⟩ :=
  ⟨new_rep hb heap, rfl, by rw [flat, content_new]; rfl⟩

/-- Operations that meet the condition run as the vector's do. -/
theorem run_refines {base : ℕ} : ∀ (ops : List Op) {b : ByteArray} {f : Flat},
    Refines base b f → AllMeet b ops →
      ∃ tr b', tr.map Prod.fst = ops ∧ Run Step b tr b' ∧
        ∃ f', Run (Flat.Step base) f tr f' ∧ Refines base b' f'
  | [], b, f, h, _ => ⟨[], b, rfl, .nil b, f, .nil f, h⟩
  | op :: ops, b, f, h, ⟨hop, hall⟩ => by
    obtain ⟨a, b₁, f₁, hs, hf, hr⟩ := step_refines h hop
    obtain ⟨tr, b₂, htr, hrun, f₂, hfrun, hr₂⟩ := run_refines ops hr (hall a b₁ hs)
    exact ⟨(op, a) :: tr, b₂, by simp [htr], .cons hs hrun, f₂, .cons hf hfrun, hr₂⟩

/-- Operations that are all defined meet the condition. -/
theorem allMeet_of_run {base : ℕ} {b b' : ByteArray} {f : Flat} {tr : List (Op × Answer)}
    (h : Refines base b f) (hrun : Run Step b tr b') : AllMeet b (tr.map Prod.fst) := by
  induction tr generalizing b f with
  | nil => trivial
  | cons l tr ih =>
    obtain ⟨op, a⟩ := l
    obtain ⟨b₁, hs, hrun⟩ := Run.cons_iff.1 hrun
    have hop := hs.meets h.1
    refine ⟨hop, fun a₂ b₂ hs₂ => ?_⟩
    obtain ⟨a₃, b₃, f₃, hs₃, -, hr₃⟩ := step_refines h hop
    obtain ⟨-, rfl⟩ := hs.det hs₂
    obtain ⟨-, rfl⟩ := hs.det hs₃
    exact ih hr₃ hrun

/-- **The chunked buffer refines the flat vector** through a sequence of operations, at every
    state the sequence reaches, iff no operation of it is a read of no bytes with the cursor at
    the end of the capacity. -/
theorem chunked_refines_flat_iff {base : ℕ} (hb : 1 ≤ base) (heap : ℕ → UInt8) (ops : List Op) :
    (∀ pre, pre <+: ops → Behaves base heap pre) ↔ AllMeet (new base heap) ops := by
  have h0 := refines_new hb heap
  constructor
  · intro h
    obtain ⟨tr, b, rfl, hrun, -⟩ := h ops (List.prefix_refl ops)
    exact allMeet_of_run h0 hrun
  · rintro h pre ⟨post, rfl⟩
    obtain ⟨tr, b, htr, hrun, -⟩ := run_refines _ h0 h
    obtain ⟨tr₁, tr₂, rfl, rfl, -⟩ := List.map_eq_append_iff.1 htr
    obtain ⟨b₁, hrun₁, -⟩ := Run.append_iff.1 hrun
    exact run_refines _ h0 (allMeet_of_run h0 hrun₁)

/-- The condition is met, for one, by a read of the bytes just written. -/
theorem chunked_refines_flat_write_read :
    Behaves 2 (fun _ => 0) [Op.write [7, 8, 9], .setPosition 1, .read 2] := by
  refine (chunked_refines_flat_iff (by decide) (fun _ => 0) _).2 ?_ _ (List.prefix_refl _)
  refine ⟨fun h => by simp at h, fun _ _ _ => ⟨fun h => by simp at h, fun _ _ _ =>
    ⟨fun h => by simp at h, ?_⟩⟩⟩
  exact fun _ _ _ => trivial

/-- A buffer of blocks of one byte, after the write of one byte: a read of no bytes dereferences
    a null pointer. -/
theorem not_chunked_refines_flat :
    ¬ ∀ base, 1 ≤ base → ∀ heap ops, ∀ pre, pre <+: ops → Behaves base heap pre := by
  intro h
  obtain ⟨tr, b, htr, hrun, -⟩ := h 1 (le_refl _) (fun _ => 0) [.write [7], .read 0] _ (List.prefix_refl _)
  obtain ⟨-, h1⟩ : AllMeet (new 1 fun _ => 0) [.write [7], .read 0] :=
    htr ▸ allMeet_of_run (refines_new (le_refl 1) _) hrun
  obtain ⟨b', hw, -, hf, -⟩ := write_ret (new_rep (le_refl 1) fun _ => 0) [7]
  have hs : Step (new 1 fun _ => 0) (.write [7], .returns []) b' :=
    step_iff.2 (Or.inl ⟨[], (Call.bind_ret hw).trans rfl, rfl⟩)
  have hcursor : b'.position = 1 := congrArg Flat.cursor hf
  have hcap : b'.capacity = 1 := congrArg Flat.cap hf
  have hlt := (h1 _ b' hs).1 rfl
  omega

end ByteArray
end Ancfl
