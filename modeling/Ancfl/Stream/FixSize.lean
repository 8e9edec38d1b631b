/-
  Byte streams, read and written piece by piece.

  * a `Stream` holds what its coming reads find, one piece a read at most, how
    much its coming writes take, and what has been written;
  * `readFixSize` and `writeFixSize` are the loops over `read` and `write`;
  * `Delivers s w`: the stream `s` is open and its reads deliver `w` in some
    pieces; `Sent s w`: `s` is open and `w` has been written to it;
  * `readFixSize_ret` and `writeFixSize_ret`: the loops read and write the
    bytes in one piece, whatever the pieces of the stream are;
  * `readFixSize_total`, `writeFixSize_total`: on any stream they return, and a
    positive result of `readFixSize` comes with as many bytes as were asked for.
-/
import Ancfl.Lib.Codec
import Ancfl.Lib.Int32

namespace Ancfl

open Lib

/-- A stream, as a party sees it. -/
structure Stream where
  /-- what the coming reads find; an empty entry is a read that fails -/
  incoming : List (List UInt8)
  /-- how many bytes the coming writes take at most; the writes after them take all -/
  accepts : List ℕ
  /-- the bytes written so far -/
  sent : List UInt8
  closed : Bool
deriving DecidableEq

namespace Stream

variable {ε : Type}

/-- `read(buffer, length)`: the result and the bytes put into the buffer. -/
def read (length : ℕ) : Call ε Stream (ℤ × List UInt8) := fun s =>
  if s.closed then .ret (-1, []) s
  else
    match s.incoming with
    | [] => .ret (0, []) s
    | piece :: rest =>
      let bytes := piece.take length
      .ret (bytes.length, bytes) { s with
        incoming := if piece.length ≤ length then rest else piece.drop length :: rest }

/-- `write(buffer, length)`. -/
def write (buffer : List UInt8) : Call ε Stream ℤ := fun s =>
  if s.closed then .ret (-1) s
  else
    let len := (s.accepts.head?.map fun k => min k buffer.length).getD buffer.length
    .ret len { s with accepts := s.accepts.tail, sent := s.sent ++ buffer.take len }

/-- `close`. -/
def close : Call ε Stream Unit := .modify fun s => { s with closed := true }

/-- The loop `while (left > 0)` of `readFixSize`: the result of a `read` that fails, and the bytes
    put into the buffer. -/
def readLoop (left : ℕ) : Call ε Stream (Option ℤ × List UInt8) :=
  if left = 0 then return (none, [])
  else do
    let (len, bytes) ← read left
    if len ≤ 0 then return (some len, [])
    else
      let (failed, rest) ← readLoop (left - len.toNat)
      return (failed, bytes ++ rest)
termination_by left

/-- `readFixSize(buffer, length)`: the result and the bytes put into the buffer.  `left` is an
    `int64_t`, the result an `int`. -/
def readFixSize (length : ℕ) : Call ε Stream (ℤ × List UInt8) := do
  let (failed, bytes) ← readLoop (toInt64 length).toNat
  return (failed.getD (toInt32 length), bytes)

/-- The loop `while (left > 0)` of `writeFixSize`: the result of a `write` that fails. -/
def writeLoop (buffer : List UInt8) : Call ε Stream (Except ℤ Unit) :=
  if buffer.length = 0 then return .ok ()
  else do
    let len ← write buffer
    if len ≤ 0 then return .error len
    else writeLoop (buffer.drop len.toNat)
termination_by buffer.length
decreasing_by rw [List.length_drop]; omega

/-- `writeFixSize(buffer, length)`. -/
def writeFixSize (buffer : List UInt8) : Call ε Stream ℤ := do
  match ← writeLoop buffer with
  | .ok () => return toInt32 buffer.length
  | .error e => return e

/-! ## Streams that do not fail -/

/-- The stream is open, none of its reads and writes fails until its end, and `w` is still to be
    read. -/
structure Delivers (s : Stream) (w : List UInt8) : Prop where
  is_open : s.closed = false
  pieces : ∀ piece ∈ s.incoming, piece ≠ []
  accepts : ∀ k ∈ s.accepts, 0 < k
  flatten_eq : s.incoming.flatten = w

/-- The stream is open, none of its writes fails, and `w` has been written. -/
structure Sent (s : Stream) (w : List UInt8) : Prop where
  is_open : s.closed = false
  accepts : ∀ k ∈ s.accepts, 0 < k
  sent_eq : s.sent = w

/-- The number of bytes still to be read. -/
def pending (s : Stream) : ℕ := s.incoming.flatten.length

/-- Any bytes can be on their way. -/
theorem exists_delivers (w : List UInt8) : ∃ s, Delivers s w := by
  refine ⟨⟨w.map fun x => [x], [], [], false⟩, rfl, ?_, by simp, ?_⟩
  · intro piece hp
    obtain ⟨x, -, rfl⟩ := List.mem_map.1 hp
    simp
  · show (w.map fun x => [x]).flatten = w
    rw [← List.flatMap_def, List.flatMap_singleton']

/-- What a read leaves as it was. -/
def SameOut (s s' : Stream) : Prop :=
  s'.accepts = s.accepts ∧ s'.sent = s.sent

/-- A read of a stream that is not at its end returns some of the coming bytes, at least one. -/
theorem read_ret {s : Stream} {w : List UInt8} {n : ℕ} (h : Delivers s w) (hn : 0 < n)
    (hw : w ≠ []) :
    ∃ k s', 0 < k ∧ k ≤ n ∧ k ≤ w.length ∧ (read n : Call ε Stream _) s = .ret (k, w.take k) s' ∧
      Delivers s' (w.drop k) ∧ SameOut s s' := by
  obtain ⟨hopen, hpieces, haccepts, rfl⟩ := h
  rcases hin : s.incoming with _ | ⟨piece, rest⟩
  · rw [hin] at hw; exact (hw rfl).elim
  rw [hin] at hpieces
  have hpiece : 0 < piece.length := List.length_pos_iff.2 (hpieces piece (by simp))
  have hread : (read n : Call ε Stream _) s = .ret ((piece.take n).length, piece.take n)
      { s with incoming := if piece.length ≤ n then rest else piece.drop n :: rest } := by
    rw [read, if_neg (by simp [hopen]), hin]
  by_cases hle : piece.length ≤ n
  · rw [if_pos hle, List.take_of_length_le hle] at hread
    refine ⟨piece.length, { s with incoming := rest }, hpiece, hle, ?_, ?_, ⟨hopen, ?_, haccepts, ?_⟩,
      rfl, rfl⟩
    · rw [List.flatten_cons, List.length_append]; omega
    · rw [hread, List.flatten_cons, List.take_left]
    · intro p hp; exact hpieces p (List.mem_cons_of_mem _ hp)
    · rw [List.flatten_cons, List.drop_left]
  · have hlt : n ≤ piece.length := (not_le.1 hle).le
    rw [if_neg hle, List.length_take, min_eq_left hlt] at hread
    refine ⟨n, { s with incoming := piece.drop n :: rest }, hn, le_refl n, ?_, ?_,
      ⟨hopen, ?_, haccepts, ?_⟩, rfl, rfl⟩
    · rw [List.flatten_cons, List.length_append]; omega
    · rw [hread, List.flatten_cons, List.take_append_of_le_length hlt]
    · intro p hp
      rcases List.mem_cons.1 hp with rfl | hp
      · rw [Ne, List.drop_eq_nil_iff]; exact hle
      · exact hpieces p (List.mem_cons_of_mem _ hp)
    · rw [List.flatten_cons, List.flatten_cons, List.drop_append_of_le_length hlt]

/-- At the end of the stream a read finds nothing. -/
theorem read_end {s : Stream} {n : ℕ} (h : Delivers s []) :
    (read n : Call ε Stream _) s = .ret (0, []) s := by
  have hin : s.incoming = [] := by
    rcases hs : s.incoming with _ | ⟨piece, rest⟩
    · rfl
    · have := List.flatten_eq_nil_iff.1 h.flatten_eq piece (by simp [hs])
      exact absurd this (h.pieces piece (by simp [hs]))
  rw [read, if_neg (by simp [h.is_open]), hin]

/-- The loop reads as many bytes as are asked for. -/
theorem readLoop_ret {s : Stream} {rest : List UInt8} : ∀ (w : List UInt8), Delivers s (w ++ rest) →
    ∃ s', (readLoop w.length : Call ε Stream _) s = .ret (none, w) s' ∧ Delivers s' rest ∧
      SameOut s s' := by
  intro w
  induction hn : w.length using Nat.strong_induction_on generalizing w s with
  | _ n ih =>
    intro h
    subst hn
    rw [readLoop]
    by_cases h0 : w.length = 0
    · obtain rfl : w = [] := List.length_eq_zero_iff.1 h0
      exact ⟨s, by rw [if_pos h0]; rfl, h, rfl, rfl⟩
    have hw : w ++ rest ≠ [] := by
      intro hnil
      rw [List.append_eq_nil_iff] at hnil
      exact h0 (by rw [hnil.1]; rfl)
    obtain ⟨k, s₁, hk0, hk, -, hread, h₁, hsame⟩ := read_ret (ε := ε) h (Nat.pos_of_ne_zero h0) hw
    rw [List.drop_append_of_le_length hk] at h₁
    rw [List.take_append_of_le_length hk] at hread
    have hlen : (w.drop k).length = w.length - k := List.length_drop
    obtain ⟨s₂, hloop, h₂, hsame₂⟩ := ih _ (by omega) (w.drop k) rfl h₁
    refine ⟨s₂, ?_, h₂, hsame₂.1.trans hsame.1, hsame₂.2.trans hsame.2⟩
    rw [if_neg h0, Call.bind_ret hread]
    dsimp only
    rw [if_neg (by omega), Int.toNat_natCast, ← hlen, Call.bind_ret hloop]
    dsimp only
    rw [List.take_append_drop]
    rfl

/-- **`readFixSize` reads the next bytes of the stream**, in whatever pieces they come.  The result
    is their number as an `int`. -/
theorem readFixSize_ret {s : Stream} {w rest : List UInt8} (h : Delivers s (w ++ rest))
    (hw : w.length < 2 ^ 63) :
    ∃ s', (readFixSize w.length : Call ε Stream _) s = .ret (toInt32 w.length, w) s' ∧
      Delivers s' rest ∧ SameOut s s' := by
  obtain ⟨s', hloop, h', hsame⟩ := readLoop_ret (ε := ε) w h
  refine ⟨s', ?_, h', hsame⟩
  rw [readFixSize, toInt64_natCast hw, Int.toNat_natCast, Call.bind_ret hloop]
  dsimp only
  rw [Call.pure_apply, Option.getD_none]

/-- A `read` of any stream returns; it takes the bytes it puts into the buffer from the stream. -/
theorem read_total (n : ℕ) (s : Stream) : ∃ len bytes s',
    (read n : Call ε Stream _) s = .ret (len, bytes) s' ∧ s'.pending + bytes.length = s.pending ∧
      bytes.length ≤ n ∧ (0 < len → len = bytes.length) ∧ (len ≤ 0 → bytes = []) := by
  unfold read
  by_cases hclosed : s.closed
  · exact ⟨-1, [], s, by rw [if_pos hclosed], rfl, Nat.zero_le _, by omega, fun _ => rfl⟩
  rw [if_neg hclosed]
  rcases hin : s.incoming with _ | ⟨piece, rest⟩
  · exact ⟨0, [], s, rfl, rfl, Nat.zero_le _, by omega, fun _ => rfl⟩
  · refine ⟨_, _, _, rfl, ?_, List.length_take_le _ _, fun _ => rfl, fun hlen => ?_⟩
    · rw [pending, pending, hin, List.flatten_cons, List.length_append, List.length_take]
      dsimp only
      split_ifs with hle
      · omega
      · rw [List.flatten_cons, List.length_append, List.length_drop]; omega
    · exact List.length_eq_zero_iff.1 (by omega)

theorem readLoop_total : ∀ (left : ℕ) (s : Stream), ∃ failed bytes s',
    (readLoop left : Call ε Stream _) s = .ret (failed, bytes) s' ∧
      s'.pending + bytes.length = s.pending ∧ bytes.length ≤ left ∧
      (failed = none → bytes.length = left) ∧ ∀ e, failed = some e → e ≤ 0 := by
  intro left
  induction left using Nat.strong_induction_on with
  | _ left ih =>
    intro s
    rw [readLoop]
    by_cases h0 : left = 0
    · exact ⟨none, [], s, by rw [if_pos h0]; rfl, rfl, Nat.zero_le _, fun _ => h0.symm, nofun⟩
    obtain ⟨len, bytes, s₁, hread, hpend, hle, hlen, hnil⟩ := read_total (ε := ε) left s
    rw [if_neg h0, Call.bind_ret hread]
    dsimp only
    by_cases hfail : len ≤ 0
    · rw [hnil hfail] at hpend
      refine ⟨some len, [], s₁, by rw [if_pos hfail]; rfl, hpend, Nat.zero_le _, nofun, ?_⟩
      rintro e ⟨⟩; exact hfail
    have hlen' := hlen (by omega)
    obtain ⟨failed, rest, s₂, hloop, hpend₂, hle₂, hall, hneg⟩ := ih (left - len.toNat) (by omega) s₁
    refine ⟨failed, bytes ++ rest, s₂, ?_, ?_, ?_, fun hf => ?_, hneg⟩
    · rw [if_neg hfail, Call.bind_ret hloop]; rfl
    · rw [List.length_append]; omega
    · rw [List.length_append]; omega
    · have := hall hf
      rw [List.length_append]; omega

/-- **`readFixSize` returns on any stream.**  It takes the bytes it puts into the buffer from the
    stream, no more than were asked for, and all of them if the result is positive. -/
theorem readFixSize_total (n : ℕ) (s : Stream) : ∃ v bytes s',
    (readFixSize n : Call ε Stream _) s = .ret (v, bytes) s' ∧
      s'.pending + bytes.length = s.pending ∧ bytes.length ≤ (toInt64 n).toNat ∧
      (0 < v → bytes.length = (toInt64 n).toNat ∧ v = toInt32 n) := by
  obtain ⟨failed, bytes, s', hloop, hpend, hle, hall, hneg⟩ :=
    readLoop_total (ε := ε) (toInt64 n).toNat s
  refine ⟨failed.getD (toInt32 n), bytes, s', ?_, hpend, hle, fun hv => ?_⟩
  · rw [readFixSize, Call.bind_ret hloop]
    dsimp only
    rw [Call.pure_apply]
  · cases failed with
    | none => exact ⟨hall rfl, Option.getD_none⟩
    | some e => exact absurd hv (not_lt.2 (hneg e rfl))

/-- A write to a stream that does not fail takes some of the bytes, at least one. -/
theorem write_ret {s : Stream} {v w : List UInt8} (h : Sent s v) (hw : w ≠ []) :
    ∃ k s', 0 < k ∧ k ≤ w.length ∧ (write w : Call ε Stream _) s = .ret k s' ∧
      Sent s' (v ++ w.take k) := by
  obtain ⟨hopen, haccepts, rfl⟩ := h
  have hlen : 0 < w.length := List.length_pos_iff.2 hw
  rcases hacc : s.accepts with _ | ⟨n, rest⟩
  · refine ⟨w.length, { s with accepts := [], sent := s.sent ++ w.take w.length }, hlen, le_refl _, ?_,
      hopen, by simp, rfl⟩
    rw [write, if_neg (by simp [hopen]), hacc]
    rfl
  · rw [hacc] at haccepts
    have hn : 0 < n := haccepts n (by simp)
    refine ⟨min n w.length, { s with accepts := rest, sent := s.sent ++ w.take (min n w.length) },
      by omega, by omega, ?_, hopen, fun k hk => haccepts k (List.mem_cons_of_mem _ hk), rfl⟩
    rw [write, if_neg (by simp [hopen]), hacc]
    rfl

/-- The loop writes all the bytes. -/
theorem writeLoop_ret {s : Stream} {v : List UInt8} : ∀ (w : List UInt8), Sent s v →
    ∃ s', (writeLoop w : Call ε Stream _) s = .ret (.ok ()) s' ∧ Sent s' (v ++ w) := by
  intro w
  induction hn : w.length using Nat.strong_induction_on generalizing w s v with
  | _ n ih =>
    intro h
    subst hn
    rw [writeLoop]
    by_cases h0 : w.length = 0
    · obtain rfl : w = [] := List.length_eq_zero_iff.1 h0
      exact ⟨s, by rw [if_pos h0]; rfl, by rw [List.append_nil]; exact h⟩
    obtain ⟨k, s₁, hk0, hk, hwrite, h₁⟩ :=
      write_ret (ε := ε) h (fun hw => h0 (List.length_eq_zero_iff.2 hw))
    have hlen : (w.drop k).length = w.length - k := List.length_drop
    obtain ⟨s₂, hloop, h₂⟩ := ih _ (by omega) (w.drop k) rfl h₁
    rw [List.append_assoc, List.take_append_drop] at h₂
    refine ⟨s₂, ?_, h₂⟩
    rw [if_neg h0, Call.bind_ret hwrite, if_neg (by omega), Int.toNat_natCast]
    exact hloop

/-- **`writeFixSize` writes the bytes**, in whatever pieces the stream takes them.  The result is
    their number as an `int`. -/
theorem writeFixSize_ret {s : Stream} {v : List UInt8} (h : Sent s v) (w : List UInt8) :
    ∃ s', (writeFixSize w : Call ε Stream _) s = .ret (toInt32 w.length) s' ∧ Sent s' (v ++ w) := by
  obtain ⟨s', hloop, h'⟩ := writeLoop_ret (ε := ε) w h
  refine ⟨s', ?_, h'⟩
  rw [writeFixSize, Call.bind_ret hloop]
  rfl

theorem writeLoop_total : ∀ (w : List UInt8) (s : Stream), ∃ r s',
    (writeLoop w : Call ε Stream _) s = .ret r s' := by
  intro w
  induction hn : w.length using Nat.strong_induction_on generalizing w with
  | _ n ih =>
    intro s
    subst hn
    rw [writeLoop]
    split
    · exact ⟨_, s, rfl⟩
    obtain ⟨len, s₁, hwrite⟩ : ∃ len s₁, (write w : Call ε Stream _) s = .ret len s₁ := by
      unfold write
      split <;> exact ⟨_, _, rfl⟩
    rw [Call.bind_ret hwrite]
    split
    · exact ⟨_, s₁, rfl⟩
    · exact ih _ (by rw [List.length_drop]; omega) _ rfl s₁

/-- `writeFixSize` returns on any stream. -/
theorem writeFixSize_total (w : List UInt8) (s : Stream) : ∃ v s',
    (writeFixSize w : Call ε Stream _) s = .ret v s' := by
  obtain ⟨r, s', hloop⟩ := writeLoop_total (ε := ε) w s
  rw [writeFixSize, Call.bind_ret hloop]
  cases r with
  | ok => exact ⟨_, s', Call.pure_apply _ _⟩
  | error e => exact ⟨_, s', Call.pure_apply _ _⟩

/-- Nothing is written to a closed stream. -/
theorem writeFixSize_closed {s : Stream} {w : List UInt8} (hs : s.closed = true) (hw : w ≠ []) :
    (writeFixSize w : Call ε Stream _) s = .ret (-1) s := by
  have hwrite : (write w : Call ε Stream _) s = .ret (-1) s := by rw [write, if_pos hs]
  have hloop : (writeLoop w : Call ε Stream _) s = .ret (.error (-1)) s := by
    rw [writeLoop, if_neg (List.length_eq_zero_iff.not.2 hw), Call.bind_ret hwrite,
      if_pos (by decide)]
    rfl
  rw [writeFixSize, Call.bind_ret hloop]
  rfl

/-! ## What is still to be read -/

theorem writeLoop_incoming : ∀ (w : List UInt8) {s s' : Stream} {r : Except ℤ Unit},
    (writeLoop w : Call ε Stream _) s = .ret r s' → s'.incoming = s.incoming := by
  intro w
  induction hn : w.length using Nat.strong_induction_on generalizing w with
  | _ n ih =>
    intro s s' r h
    subst hn
    rw [writeLoop] at h
    split_ifs at h with h0
    · cases h; rfl
    obtain ⟨len, s₁, hwrite, h⟩ := Call.bind_eq_ret.1 h
    have hsame : s₁.incoming = s.incoming := by
      unfold write at hwrite
      split_ifs at hwrite
      · cases hwrite; rfl
      · cases hwrite; rfl
    split_ifs at h with hlen
    · cases h; exact hsame
    · exact (ih _ (by rw [List.length_drop]; omega) _ rfl h).trans hsame

theorem writeFixSize_incoming {w : List UInt8} {s s' : Stream} {v : ℤ}
    (h : (writeFixSize w : Call ε Stream _) s = .ret v s') : s'.incoming = s.incoming := by
  obtain ⟨r, s₁, hloop, h⟩ := Call.bind_eq_ret.1 h
  have hs₁ : s₁ = s' := by
    cases r <;> simp only [Call.pure_apply, Out.ret.injEq] at h <;> exact h.2
  exact hs₁ ▸ writeLoop_incoming w hloop

/-- Writing to a stream that does not fail leaves what is still to be read. -/
theorem Delivers.writeFixSize {s : Stream} {w : List UInt8} (h : Delivers s w) (v : List UInt8) :
    ∃ s', (Stream.writeFixSize v : Call ε Stream _) s = .ret (toInt32 v.length) s' ∧
      Delivers s' w := by
  obtain ⟨s', hwrite, hs'⟩ := writeFixSize_ret (ε := ε) ⟨h.is_open, h.accepts, rfl⟩ v
  have hin := writeFixSize_incoming hwrite
  exact ⟨s', hwrite, hs'.is_open, hin ▸ h.pieces, hs'.accepts, hin ▸ h.flatten_eq⟩

/-- The call leaves no more to be read than there was. -/
def Shrinks {α : Type} (x : Call ε Stream α) : Prop :=
  ∀ s a s', x s = .ret a s' → s'.pending ≤ s.pending

theorem Shrinks.pure {α : Type} (a : α) : Shrinks (Pure.pure a : Call ε Stream α) := by
  rintro s b s' ⟨⟩; exact le_refl _

theorem Shrinks.undefined {α : Type} : Shrinks (Call.undefined : Call ε Stream α) := by
  rintro s b s' ⟨⟩

theorem Shrinks.bind {α β : Type} {x : Call ε Stream α} {f : α → Call ε Stream β} (hx : Shrinks x)
    (hf : ∀ a, Shrinks (f a)) : Shrinks (x >>= f) := by
  intro s b s' h
  obtain ⟨a, s₁, h₁, h₂⟩ := Call.bind_eq_ret.1 h
  exact (hf a s₁ b s' h₂).trans (hx s a s₁ h₁)

theorem readFixSize_shrinks (n : ℕ) : Shrinks (readFixSize n : Call ε Stream _) := by
  intro s a s' h
  obtain ⟨v, bytes, s₁, hread, hpend, -⟩ := readFixSize_total (ε := ε) n s
  rw [hread] at h
  cases h
  omega

theorem writeFixSize_shrinks (w : List UInt8) : Shrinks (Stream.writeFixSize w : Call ε Stream _) := by
  intro s a s' h
  rw [pending, pending, writeFixSize_incoming h]

theorem close_shrinks : Shrinks (close : Call ε Stream _) := by
  rintro s a s' ⟨⟩; exact le_refl _

/-! ## What a call depends on -/

/-- The call ends in the same way on any two streams that deliver the same bytes. -/
def Respects {α : Type} (x : Call ε Stream α) : Prop :=
  ∀ s₁ s₂ w, Delivers s₁ w → Delivers s₂ w → x s₁ = .undef ∧ x s₂ = .undef ∨
    ∃ a w' s₁' s₂', x s₁ = .ret a s₁' ∧ x s₂ = .ret a s₂' ∧ Delivers s₁' w' ∧ Delivers s₂' w'

theorem Respects.pure {α : Type} (a : α) : Respects (Pure.pure a : Call ε Stream α) :=
  fun s₁ s₂ w h₁ h₂ => .inr ⟨a, w, s₁, s₂, rfl, rfl, h₁, h₂⟩

theorem Respects.undefined {α : Type} : Respects (Call.undefined : Call ε Stream α) :=
  fun _ _ _ _ _ => .inl ⟨rfl, rfl⟩

theorem Respects.bind {α β : Type} {x : Call ε Stream α} {f : α → Call ε Stream β} (hx : Respects x)
    (hf : ∀ a, Respects (f a)) : Respects (x >>= f) := by
  intro s₁ s₂ w h₁ h₂
  rcases hx s₁ s₂ w h₁ h₂ with ⟨hu₁, hu₂⟩ | ⟨a, w', s₁', s₂', hr₁, hr₂, h₁', h₂'⟩
  · exact .inl ⟨Call.bind_undef hu₁, Call.bind_undef hu₂⟩
  · rw [Call.bind_ret hr₁, Call.bind_ret hr₂]
    exact hf a s₁' s₂' w' h₁' h₂'

/-- The loop reads all there is, if more is asked for. -/
theorem readLoop_short : ∀ (left : ℕ) {s : Stream} {w : List UInt8}, Delivers s w → w.length < left →
    ∃ s', (readLoop left : Call ε Stream _) s = .ret (some 0, w) s' ∧ Delivers s' [] := by
  intro left
  induction left using Nat.strong_induction_on with
  | _ left ih =>
    intro s w h hlt
    rw [readLoop, if_neg (by omega)]
    by_cases hw : w = []
    · subst hw
      have hin : s.incoming = [] := by
        cases hs : s.incoming with
        | nil => rfl
        | cons piece rest =>
          have hne := h.pieces piece (by simp [hs])
          have hnil := h.flatten_eq
          rw [hs, List.flatten_cons] at hnil
          exact (hne (List.append_eq_nil_iff.1 hnil).1).elim
      have hread : (read left : Call ε Stream _) s = .ret (0, []) s := by
        rw [read, if_neg (by simp [h.is_open]), hin]
      exact ⟨s, by rw [Call.bind_ret hread]; rfl, h⟩
    · obtain ⟨k, s₁, hk0, hkn, hkw, hread, h₁, -⟩ := read_ret (ε := ε) (n := left) h (by omega) hw
      obtain ⟨s', hloop, h'⟩ := ih (left - k) (by omega) h₁ (by rw [List.length_drop]; omega)
      refine ⟨s', ?_, h'⟩
      rw [Call.bind_ret hread]
      dsimp only
      rw [if_neg (by omega), Int.toNat_natCast, Call.bind_ret hloop]
      dsimp only
      rw [List.take_append_drop]
      rfl

theorem readFixSize_respects (n : ℕ) : Respects (readFixSize n : Call ε Stream _) := by
  refine Respects.bind (fun s₁ s₂ w h₁ h₂ => .inr ?_) fun _ => .pure _
  by_cases hle : (toInt64 n).toNat ≤ w.length
  · rw [← List.take_append_drop (toInt64 n).toNat w] at h₁ h₂
    obtain ⟨s₁', hloop₁, h₁', -⟩ := readLoop_ret (ε := ε) _ h₁
    obtain ⟨s₂', hloop₂, h₂', -⟩ := readLoop_ret (ε := ε) _ h₂
    rw [List.length_take, min_eq_left hle] at hloop₁ hloop₂
    exact ⟨_, _, s₁', s₂', hloop₁, hloop₂, h₁', h₂'⟩
  · obtain ⟨s₁', hloop₁, h₁'⟩ := readLoop_short (ε := ε) _ h₁ (not_le.1 hle)
    obtain ⟨s₂', hloop₂, h₂'⟩ := readLoop_short (ε := ε) _ h₂ (not_le.1 hle)
    exact ⟨_, _, s₁', s₂', hloop₁, hloop₂, h₁', h₂'⟩

end Stream
end Ancfl
