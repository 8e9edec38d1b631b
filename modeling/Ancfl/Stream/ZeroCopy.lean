/-
  The buffers of a `ByteArray` that a stream reads and writes in place, beside the
  operations that copy.

  * `Use` are the operations that leave a `ByteArray` in another state, among them a
    transfer into the write buffers after which the cursor is not moved, or moved
    by less;
  * `ReadsAlike` and `WritesAlike`: the read buffers hold what `read` returns, and a
    transfer into the write buffers, with the cursor moved after it, leaves what
    `write` does;
  * `writesAlike`: the second always holds; `alike_iff`: both do, in each state that
    is reached, except for no bytes at the end of the capacity.
-/
import Ancfl.Stream.Buffers

namespace Ancfl.ByteArray

open Lib

/-- An operation, and what is then stored into the buffers it returns. -/
inductive Use
  | op (op : Op)
  | setIsLittleEndian (val : Bool)
  | getReadBuffers (len : ℕ)
  /-- no more than `len` of the bytes are stored -/
  | getWriteBuffers (len : ℕ) (bytes : List UInt8)

def performUse : Use → Call Exn ByteArray Unit
  | .op op => do let _ ← perform op
  | .setIsLittleEndian val => setIsLittleEndian val
  | .getReadBuffers len => do let _ ← getReadBuffers len
  | .getWriteBuffers len bytes => do
    let segs ← getWriteBuffers len
    .modify (fill segs (bytes.take len))

/-- An operation returns, or it throws. -/
def Uses (b : ByteArray) (u : Use) (b' : ByteArray) : Prop :=
  performUse u b = .ret () b' ∨ ∃ e, performUse u b = .throw e b'

/-! ## What is to hold -/

/-- The segments of the read buffers, one after the other, are what `read` returns, and they are
    cut without a change. -/
def ReadsAlike (b : ByteArray) (len : ℕ) : Prop :=
  ∃ segs b', getReadBuffers len b = .ret segs b ∧
    read (min len b.getReadSize) b = .ret (load b.nodes segs) b'

/-- The first bytes stored into the write buffers, and the cursor moved behind them, leave what
    `write` of these bytes leaves. -/
def WritesAlike (b : ByteArray) (len : ℕ) : Prop :=
  ∃ segs c, getWriteBuffers len b = .ret segs c ∧ ∀ bytes : List UInt8, bytes.length ≤ len →
    ∃ b₁ b₂, setPosition (b.position + bytes.length) (fill segs bytes c) = .ret () b₁ ∧
      write bytes b = .ret () b₂ ∧ b₁.content = b₂.content ∧ b₁.size = b₂.size ∧
        b₁.position = b₂.position

section
variable {b b' : ByteArray}

theorem Step.rep {op : Op} {a : Answer} (h : Rep b) (hstep : Step b (op, a) b') : Rep b' := by
  have href : Refines b.baseSize b b.flat := ⟨h, rfl, rfl⟩
  obtain ⟨a', c, f, hc, -, href'⟩ := step_refines href (hstep.meets h)
  obtain ⟨-, rfl⟩ := hstep.det hc
  exact href'.1

/-- Without a length there are no write buffers. -/
theorem getWriteBuffers_zero (b : ByteArray) : getWriteBuffers 0 b = .ret [] b := rfl

theorem Uses.rep {u : Use} (h : Rep b) (hu : Uses b u b') : Rep b' := by
  cases u with
  | op op =>
    cases hp : perform op b with
    | ret bytes c =>
      have heq : performUse (.op op) b = .ret () c := Call.bind_ret hp
      rcases hu with hu | ⟨e, hu⟩ <;> cases heq.symm.trans hu
      exact Step.rep h (step_iff.2 (.inl ⟨bytes, hp, rfl⟩))
    | throw e c =>
      have heq : performUse (.op op) b = .throw e c := Call.bind_throw hp
      rcases hu with hu | ⟨e, hu⟩ <;> cases heq.symm.trans hu
      exact Step.rep h (step_iff.2 (.inr ⟨e, hp, rfl⟩))
    | undef =>
      have heq : performUse (.op op) b = .undef := Call.bind_undef hp
      rcases hu with hu | ⟨e, hu⟩ <;> cases heq.symm.trans hu
  | setIsLittleEndian val =>
    rcases hu with hu | ⟨e, hu⟩
    · cases hu
      exact ⟨h.base_pos, h.root, h.blocks, h.capacity_eq, h.pos_le, h.size_le, h.cur_eq⟩
    · cases hu
  | getReadBuffers len =>
    obtain ⟨segs, hget, -⟩ := getReadBuffers_ret h len
    have heq : performUse (.getReadBuffers len) b = .ret () b := Call.bind_ret hget
    rcases hu with hu | ⟨e, hu⟩ <;> cases heq.symm.trans hu
    exact h
  | getWriteBuffers len bytes =>
    have hfilled : ∃ c, performUse (.getWriteBuffers len bytes) b = .ret () c ∧ Rep c := by
      rcases Nat.eq_zero_or_pos len with rfl | hpos
      · exact ⟨_, Call.bind_ret (getWriteBuffers_zero b), h⟩
      · obtain ⟨segs, c, hget, -, hfill⟩ := getWriteBuffers_ret h hpos
        exact ⟨_, Call.bind_ret hget, (hfill _ (List.length_take_le _ _)).1⟩
    obtain ⟨c, heq, hc⟩ := hfilled
    rcases hu with hu | ⟨e, hu⟩ <;> cases heq.symm.trans hu
    exact hc

theorem writesAlike (h : Rep b) (len : ℕ) : WritesAlike b len := by
  have hbytes {b₁ b₂ : ByteArray} (h₁ : Rep b₁) (h₂ : Rep b₂) (hb : b₁.flat.bytes = b₂.flat.bytes)
      (hp : b₁.flat.cursor = b₂.flat.cursor) : b₁.content = b₂.content ∧ b₁.size = b₂.size ∧
        b₁.position = b₂.position := by
    have hb' : b₁.content = b₂.content := hb
    exact ⟨hb', by rw [← h₁.length_content, ← h₂.length_content, hb'], hp⟩
  rcases Nat.eq_zero_or_pos len with rfl | hpos
  · refine ⟨[], b, getWriteBuffers_zero b, fun bytes hle => ?_⟩
    obtain rfl := List.length_eq_zero_iff.1 (Nat.le_zero.1 hle)
    obtain ⟨b₁, w, hset, hrep, hw, hflat, -⟩ := setPosition_ret h (h.pos_le.trans h.size_le)
    rw [h.length_content, Nat.sub_eq_zero_of_le h.pos_le, List.length_eq_zero_iff] at hw
    refine ⟨b₁, b, hset, rfl, hbytes hrep h ?_ ?_⟩
    · rw [hflat, hw, List.append_nil]
      rfl
    · rw [hflat]
      rfl
  · obtain ⟨segs, c, hget, -, hfill⟩ := getWriteBuffers_ret h hpos
    refine ⟨segs, c, hget, fun bytes hle => ?_⟩
    obtain ⟨-, b₁, hset, hrep₁, hflat₁, -⟩ := hfill bytes hle
    obtain ⟨b₂, hwrite, hrep₂, hflat₂, -⟩ := write_ret h bytes
    exact ⟨b₁, b₂, hset, hwrite, hbytes hrep₁ hrep₂ (by rw [hflat₁, hflat₂]; rfl)
      (by rw [hflat₁, hflat₂]; rfl)⟩

theorem readsAlike_iff (h : Rep b) (len : ℕ) :
    ReadsAlike b len ↔ (min len b.getReadSize = 0 → b.position < b.capacity) := by
  constructor
  · rintro ⟨segs, b', -, hread⟩ h0
    by_contra hp
    have hend : b.position = b.capacity :=
      Nat.le_antisymm (h.pos_le.trans h.size_le) (not_lt.1 hp)
    rw [h0, read_undef h hend] at hread
    cases hread
  · intro h0
    have hle : min len b.getReadSize ≤ b.content.length - b.position := by
      rw [h.length_content]
      exact Nat.min_le_right _ _
    obtain ⟨segs, hget, hload⟩ := getReadBuffers_ret h len
    obtain ⟨b', hread, -⟩ := read_ret h hle h0
    refine ⟨segs, b', hget, ?_⟩
    have hlen : (b.content.drop b.position).length = b.getReadSize := by
      rw [List.length_drop, h.length_content, getReadSize]
    have htake : (b.content.drop b.position).take (min len b.getReadSize) =
        (b.content.drop b.position).take len := by
      rw [List.take_eq_take_iff, hlen, Nat.min_assoc, Nat.min_self]
    rw [hread, hload, slice, htake]

end

/-- A state that is reached has its representation. -/
theorem rep_of_run {base : ℕ} {heap : ℕ → UInt8} {us : List Use} {b : ByteArray} (hbase : 1 ≤ base)
    (hr : Run Uses (new base heap) us b) : Rep b :=
  hr.invariant (P := Rep) (fun _ _ _ h hu => hu.rep h) (new_rep hbase heap)

/-- **The buffers agree with the operations that copy**, in a state that is reached, if and only if
    there is a byte to read or the cursor is before the end of the capacity. -/
theorem alike_iff {base : ℕ} {heap : ℕ → UInt8} {us : List Use} {b : ByteArray} (hbase : 1 ≤ base)
    (hr : Run Uses (new base heap) us b) (len : ℕ) :
    ReadsAlike b len ∧ WritesAlike b len ↔
      (min len b.getReadSize = 0 → b.position < b.capacity) := by
  have h := rep_of_run hbase hr
  rw [readsAlike_iff h, and_iff_left (writesAlike h len)]

/-- After a transfer of one byte into buffers for three, and the cursor moved behind it. -/
theorem alike_short : ∃ b, Run Uses (new 2 fun _ => 0)
    [.getWriteBuffers 3 [7], .op (.setPosition 1)] b ∧ b.content = [7] ∧ b.capacity = 4 ∧
      ReadsAlike b 5 ∧ WritesAlike b 5 := by
  obtain ⟨segs, c, hget, -, hfill⟩ := getWriteBuffers_ret (new_rep (by decide : 1 ≤ 2) fun _ => 0)
    (by decide : 0 < 3)
  obtain ⟨-, b, hset, -, hflat, -⟩ := hfill [7] (by decide)
  have hr : Run Uses (new 2 fun _ => 0) [.getWriteBuffers 3 [7], .op (.setPosition 1)] b :=
    .cons (.inl (Call.bind_ret hget)) <| .cons (.inl (Call.bind_ret (Call.bind_ret hset))) (.nil b)
  have hcursor : b.position = 1 := congrArg Flat.cursor hflat
  have hcap : b.capacity = 4 := congrArg Flat.cap hflat
  exact ⟨b, hr, congrArg Flat.bytes hflat, hcap, (alike_iff (by decide) hr 5).2 fun _ => by omega⟩

/-- A buffer of blocks of one byte, after the write of one byte: there are no read buffers, and a
    read of no bytes dereferences a null pointer. -/
theorem not_alike : ¬∀ (base : ℕ) (heap : ℕ → UInt8) (us : List Use) (b : ByteArray), 1 ≤ base →
    Run Uses (new base heap) us b → ∀ len, ReadsAlike b len ∧ WritesAlike b len := by
  intro h
  obtain ⟨b, hw, hrep, hflat, -⟩ := write_ret (new_rep (le_refl 1) fun _ => 0) [7]
  have hr : Run Uses (new 1 fun _ => 0) [.op (.write [7])] b :=
    .cons (.inl (Call.bind_ret (Call.bind_ret hw))) (.nil b)
  have hcursor : b.position = 1 := congrArg Flat.cursor hflat
  have hcap : b.capacity = 1 := congrArg Flat.cap hflat
  have hlt := (readsAlike_iff hrep 0).1 (h 1 _ _ b (le_refl 1) hr 0).1 (Nat.zero_min _)
  omega

end Ancfl.ByteArray
