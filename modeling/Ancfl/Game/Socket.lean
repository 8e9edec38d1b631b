/-
  The sockets of the game servers, which may not block.

  * a `Socket` holds what its coming `recv`s find, one entry a call at most,
    what its coming `send`s do, and what has been sent;
  * `Brings retry s w`: the coming `recv`s bring the bytes `w`, in some pieces,
    and fewer than `max_retries` in a row would block, the last `retry` included;
  * `Takes s`: no coming `send` fails, though each may take less than it is given.
-/
import Ancfl.Lib.Int32
import Mathlib.Data.List.Infix

namespace Ancfl.Game

open Lib

/-- What a `recv` finds. -/
inductive Arrival where
  /-- a piece of the stream; an empty one is the end of the connection -/
  | bytes (piece : List UInt8)
  /-- nothing yet: `EINPROGRESS`, `EAGAIN` or `EWOULDBLOCK` -/
  | again
  /-- any other error -/
  | error
deriving DecidableEq

/-- What a `send` does. -/
inductive Departure where
  /-- it takes so many bytes at most -/
  | takes (length : ℕ)
  | again
  | error
deriving DecidableEq

structure Socket where
  incoming : List Arrival
  /-- the `send`s after these take all -/
  accepts : List Departure
  sent : List UInt8
deriving DecidableEq

/-- The result of a call: what it returns, whether `errno` is one of those of `again`, and the bytes
    put into the buffer. -/
structure Result where
  ret : ℤ
  would_block : Bool
  bytes : List UInt8
deriving DecidableEq

def Arrival.weight : Arrival → ℕ
  | .bytes piece => piece.length + 1
  | .again | .error => 1

namespace Socket

/-- What is left of the incoming stream; every `recv` that does not return 0 takes some of it. -/
def weight (s : Socket) : ℕ := (s.incoming.map Arrival.weight).sum

/-- `recv(buffer, length)`. -/
def recv (length : ℕ) (s : Socket) : Result × Socket :=
  match s.incoming with
  | [] => (⟨0, false, []⟩, s)
  | .again :: rest => (⟨-1, true, []⟩, { s with incoming := rest })
  | .error :: rest => (⟨-1, false, []⟩, { s with incoming := rest })
  | .bytes piece :: rest =>
    let bytes := piece.take length
    (⟨toInt32 bytes.length, false, bytes⟩,
      { s with incoming := if piece.length ≤ length then rest else .bytes (piece.drop length) :: rest })

/-- `send(buffer, length)`. -/
def send (buffer : List UInt8) (s : Socket) : Result × Socket :=
  match s.accepts with
  | [] => (⟨toInt32 buffer.length, false, []⟩, { s with sent := s.sent ++ buffer })
  | .again :: rest => (⟨-1, true, []⟩, { s with accepts := rest })
  | .error :: rest => (⟨-1, false, []⟩, { s with accepts := rest })
  | .takes length :: rest =>
    let bytes := buffer.take length
    (⟨toInt32 bytes.length, false, []⟩, { s with accepts := rest, sent := s.sent ++ bytes })

theorem toInt32_zero : toInt32 ((0 : ℕ) : ℤ) = 0 := rfl

theorem recv_weight (length : ℕ) (s : Socket) (h : (s.recv length).1.ret ≠ 0) :
    (s.recv length).2.weight < s.weight := by
  unfold recv at h ⊢
  rcases hin : s.incoming with _ | ⟨_ | _ | _, rest⟩ <;> simp only [hin] at h ⊢
  · exact absurd rfl h
  · rename_i piece
    have hpos : 0 < (piece.take length).length := by
      rcases Nat.eq_zero_or_pos (piece.take length).length with h0 | hpos
      · rw [h0] at h; exact absurd toInt32_zero h
      · exact hpos
    rw [List.length_take] at hpos
    simp only [weight, hin, List.map_cons, List.sum_cons, Arrival.weight]
    split_ifs with hle
    · omega
    · simp only [List.map_cons, List.sum_cons, Arrival.weight, List.length_drop]
      omega
  · simp [weight, hin, Arrival.weight]
  · simp [weight, hin, Arrival.weight]

/-! ## Sockets that do not fail -/

end Socket

/-- The bytes of an entry. -/
def Arrival.piece : Arrival → List UInt8
  | .bytes piece => piece
  | .again | .error => []

/-- No end of the connection, and no other error than that the call would block. -/
def Arrival.Fine : Arrival → Prop
  | .bytes piece => piece ≠ []
  | .again => True
  | .error => False

/-- The `send` takes something, or would block. -/
def Departure.Fine : Departure → Prop
  | .takes length => 0 < length
  | .again => True
  | .error => False

namespace Socket

/-- `TcpClient` gives up when so many calls in a row would block. -/
def max_retries : ℕ := 20

/-- The coming `recv`s bring `w`.  The last `retry` ones would have blocked. -/
structure Brings (retry : ℕ) (s : Socket) (w : List UInt8) : Prop where
  fine : ∀ a ∈ s.incoming, a.Fine
  retries : ¬List.replicate max_retries .again <:+: List.replicate retry .again ++ s.incoming
  flatMap_eq : s.incoming.flatMap Arrival.piece = w

/-- No coming `send` fails. -/
def Takes (s : Socket) : Prop := ∀ d ∈ s.accepts, d.Fine

section
variable {s : Socket} {w : List UInt8} {retry : ℕ}

/-- After a call that does not block the count starts anew. -/
theorem Brings.restart (h : Brings retry s w) : Brings 0 s w where
  fine := h.fine
  retries hin := h.retries (hin.trans (List.suffix_append _ _).isInfix)
  flatMap_eq := h.flatMap_eq

theorem infix_of_bytes {piece : List UInt8} {l : List Arrival}
    (h : List.replicate max_retries .again <:+: .bytes piece :: l) :
    List.replicate max_retries .again <:+: l := by
  rcases List.infix_cons_iff.1 h with ⟨t, ht⟩ | h
  · cases ht
  · exact h

/-- **A `recv` while there are bytes to come** brings some of them, or would block. -/
theorem recv_brings {n : ℕ} (h : Brings retry s w) (hw : w ≠ []) (hn : 0 < n) (hn31 : n < 2 ^ 31) :
    (∃ s', s.recv n = (⟨-1, true, []⟩, s') ∧ retry + 1 < max_retries ∧ Brings (retry + 1) s' w) ∨
      ∃ k s', 0 < k ∧ k ≤ n ∧ k ≤ w.length ∧ s.recv n = (⟨k, false, w.take k⟩, s') ∧
        Brings 0 s' (w.drop k) := by
  have hbrings := h.restart
  obtain ⟨hfine, hretries, rfl⟩ := h
  rcases hin : s.incoming with _ | ⟨a, rest⟩
  · rw [hin] at hw; exact absurd rfl hw
  rw [hin] at hfine hretries
  have hrest : ∀ a ∈ rest, a.Fine := fun b hb => hfine b (List.mem_cons_of_mem _ hb)
  have hsuffix : rest <:+: s.incoming := hin ▸ (List.suffix_cons a rest).isInfix
  cases a with
  | again =>
    left
    have hsnoc : List.replicate (retry + 1) .again ++ rest =
        List.replicate retry .again ++ .again :: rest := by
      rw [List.replicate_succ', List.append_assoc]; rfl
    refine ⟨{ s with incoming := rest }, by rw [recv, hin], ?_, hrest, hsnoc ▸ hretries, rfl⟩
    by_contra hge
    refine hretries (hsnoc ▸ ?_)
    obtain ⟨m, hm⟩ := Nat.exists_eq_add_of_le (Nat.le_of_not_lt hge)
    rw [hm, List.replicate_add, List.append_assoc]
    exact (List.prefix_append _ _).isInfix
  | error => exact absurd (hfine .error (by simp)) id
  | bytes piece =>
    right
    have hpiece : 0 < piece.length := List.length_pos_iff.2 (hfine (.bytes piece) (by simp))
    have hrecv : s.recv n = (⟨toInt32 (piece.take n).length, false, piece.take n⟩,
        { s with incoming := if piece.length ≤ n then rest else .bytes (piece.drop n) :: rest }) := by
      rw [recv, hin]
    by_cases hle : piece.length ≤ n
    · rw [if_pos hle, List.take_of_length_le hle, toInt32_natCast (by omega)] at hrecv
      refine ⟨piece.length, { s with incoming := rest }, hpiece, hle, ?_, hrecv.trans ?_, hrest, ?_, ?_⟩
      · simp [Arrival.piece]
      · simp [Arrival.piece]
      · exact fun h => hbrings.retries (h.trans hsuffix)
      · simp [Arrival.piece]
    · have hlt : n ≤ piece.length := (Nat.lt_of_not_le hle).le
      rw [if_neg hle, List.length_take, min_eq_left hlt, toInt32_natCast (by omega)] at hrecv
      refine ⟨n, { s with incoming := .bytes (piece.drop n) :: rest }, hn, le_rfl, ?_, hrecv.trans ?_,
        ?_, ?_, ?_⟩
      · simp [Arrival.piece]; omega
      · simp [Arrival.piece, List.take_append_of_le_length hlt]
      · intro b hb
        rcases List.mem_cons.1 hb with rfl | hb
        · show piece.drop n ≠ []
          rw [Ne, List.drop_eq_nil_iff]; omega
        · exact hrest b hb
      · exact fun h => hbrings.retries ((infix_of_bytes h).trans hsuffix)
      · simp [Arrival.piece, List.drop_append_of_le_length hlt]

/-- **A `send`** takes some of the bytes, or would block. -/
theorem send_takes (h : Takes s) (hw : w ≠ []) (hw31 : w.length < 2 ^ 31) :
    (∃ s', s.send w = (⟨-1, true, []⟩, s') ∧ Takes s' ∧ s'.sent = s.sent ∧
      s'.accepts.length < s.accepts.length) ∨
      ∃ k s', 0 < k ∧ k ≤ w.length ∧ s.send w = (⟨k, false, []⟩, s') ∧ Takes s' ∧
        s'.sent = s.sent ++ w.take k := by
  have hlen : 0 < w.length := List.length_pos_iff.2 hw
  rcases hacc : s.accepts with _ | ⟨d, rest⟩
  · right
    refine ⟨w.length, { s with accepts := [], sent := s.sent ++ w }, hlen, le_rfl, ?_, nofun, ?_⟩
    · rw [send, hacc, toInt32_natCast hw31]
    · rw [List.take_length]
  · rw [Takes, hacc] at h
    have hrest : Takes { s with accepts := rest } := fun b hb => h b (List.mem_cons_of_mem _ hb)
    cases d with
    | again => exact .inl ⟨{ s with accepts := rest }, by rw [send, hacc], hrest, rfl, by simp⟩
    | error => exact absurd (h .error (by simp)) id
    | takes n =>
      right
      have hn : 0 < n := h (.takes n) (by simp)
      have hmin : (w.take n).length = min n w.length := List.length_take
      refine ⟨min n w.length, { s with accepts := rest, sent := s.sent ++ w.take n }, by omega,
        by omega, ?_, hrest, ?_⟩
      · rw [send, hacc]
        simp only [hmin]
        rw [toInt32_natCast (by omega)]
      · rw [← List.take_eq_take_min]

end

end Socket

end Ancfl.Game
