/-
  Where the reads of a stream end.

  * `afterRead`: the pieces after a read of some bytes; `dropPieces`: after all
    the reads of some number of bytes;
  * `ReadEnd size pieces c`: one of the reads of at most `size` bytes ends
    after `c` bytes of the pieces;
  * `read_piece`, `readFixSize_piece`: what the calls leave of the pieces.
-/
import Ancfl.Stream.FixSize

namespace Ancfl.Stream

open Lib

variable {ε : Type}

/-- The pieces after a read of at most `size` bytes of the first of them. -/
def afterRead (size : ℕ) (piece : List UInt8) (rest : List (List UInt8)) : List (List UInt8) :=
  if piece.length ≤ size then rest else piece.drop size :: rest

/-- The pieces without their first `n` bytes. -/
def dropPieces : ℕ → List (List UInt8) → List (List UInt8)
  | _, [] => []
  | n, piece :: rest =>
    if piece.length ≤ n then dropPieces (n - piece.length) rest else piece.drop n :: rest

/-- After `c` bytes of the pieces ends one of the reads of at most `size` bytes. -/
inductive ReadEnd (size : ℕ) : List (List UInt8) → ℕ → Prop
  | here (piece : List UInt8) (rest : List (List UInt8)) :
      ReadEnd size (piece :: rest) (min size piece.length)
  | later {piece : List UInt8} {rest : List (List UInt8)} {c : ℕ} :
      ReadEnd size (afterRead size piece rest) c →
      ReadEnd size (piece :: rest) (min size piece.length + c)

theorem dropPieces_zero : ∀ {pieces : List (List UInt8)}, (∀ p ∈ pieces, p ≠ []) →
    dropPieces 0 pieces = pieces
  | [], _ => rfl
  | piece :: rest, h => by
    have hpos : 0 < piece.length := List.length_pos_iff.2 (h piece (by simp))
    rw [dropPieces, if_neg (by omega), List.drop_zero]

theorem dropPieces_ne_nil : ∀ {n : ℕ} {pieces : List (List UInt8)}, (∀ p ∈ pieces, p ≠ []) →
    ∀ p ∈ dropPieces n pieces, p ≠ []
  | _, [], _, _, hp => by cases hp
  | n, piece :: rest, h, p, hp => by
    rw [dropPieces] at hp
    split_ifs at hp with hle
    · exact dropPieces_ne_nil (fun q hq => h q (List.mem_cons_of_mem _ hq)) p hp
    · rcases List.mem_cons.1 hp with rfl | hp
      · rw [Ne, List.drop_eq_nil_iff]
        exact hle
      · exact h p (List.mem_cons_of_mem _ hp)

theorem flatten_dropPieces : ∀ (n : ℕ) (pieces : List (List UInt8)),
    (dropPieces n pieces).flatten = pieces.flatten.drop n
  | _, [] => by simp [dropPieces]
  | n, piece :: rest => by
    rw [dropPieces, List.flatten_cons, List.drop_append]
    split_ifs with hle
    · rw [flatten_dropPieces _ rest, List.drop_of_length_le hle, List.nil_append]
    · rw [List.flatten_cons, Nat.sub_eq_zero_of_le (by omega), List.drop_zero]

theorem dropPieces_add : ∀ (m n : ℕ) {pieces : List (List UInt8)}, (∀ p ∈ pieces, p ≠ []) →
    dropPieces n (dropPieces m pieces) = dropPieces (m + n) pieces
  | _, _, [], _ => rfl
  | m, n, piece :: rest, h => by
    have hrest : ∀ p ∈ rest, p ≠ [] := fun p hp => h p (List.mem_cons_of_mem _ hp)
    rw [dropPieces]
    by_cases hle : piece.length ≤ m
    · rw [if_pos hle, dropPieces_add _ n hrest, dropPieces, if_pos (by omega)]
      congr 1
      omega
    · rw [if_neg hle, dropPieces, dropPieces, List.length_drop]
      by_cases hle' : piece.length ≤ m + n
      · rw [if_pos (by omega), if_pos hle']
        congr 1
        omega
      · rw [if_neg (by omega), if_neg hle', List.drop_drop]

theorem afterRead_eq (size : ℕ) {piece : List UInt8} {rest : List (List UInt8)}
    (h : ∀ p ∈ rest, p ≠ []) :
    afterRead size piece rest = dropPieces (min size piece.length) (piece :: rest) := by
  rw [afterRead, dropPieces]
  by_cases hle : piece.length ≤ size
  · rw [if_pos hle, if_pos (by omega), min_eq_right hle, Nat.sub_self, dropPieces_zero h]
  · rw [if_neg hle, if_neg (by omega), min_eq_left (by omega)]

/-- A read takes bytes of the first piece. -/
theorem read_piece {s : Stream} {w : List UInt8} {size : ℕ} (h : Delivers s w) (hw : w ≠ [])
    (hsize : 0 < size) : ∃ m s', 0 < m ∧ m ≤ size ∧ m ≤ w.length ∧
      (read size : Call ε Stream _) s = .ret (m, w.take m) s' ∧ Delivers s' (w.drop m) ∧
      s'.incoming = dropPieces m s.incoming ∧ ReadEnd size s.incoming m ∧
      ∀ c, ReadEnd size s.incoming c ↔ c = m ∨ ∃ c', c = m + c' ∧ ReadEnd size s'.incoming c' := by
  obtain ⟨k, s', hk0, hk, hkw, hread, hs', -⟩ := read_ret (ε := ε) h hsize hw
  rcases hin : s.incoming with _ | ⟨piece, rest⟩
  · exact absurd (h.flatten_eq.symm.trans (by rw [hin]; rfl)) hw
  have hrest : ∀ p ∈ rest, p ≠ [] := fun p hp => h.pieces p (by simp [hin, hp])
  have hread' := hread
  rw [read, if_neg (by simp [h.is_open]), hin] at hread'
  simp only [Out.ret.injEq, Prod.mk.injEq] at hread'
  obtain ⟨⟨hlen, -⟩, rfl⟩ := hread'
  obtain rfl : k = min size piece.length := by
    rw [List.length_take] at hlen
    omega
  have hafter : ({ s with incoming := afterRead size piece rest } : Stream).incoming =
      dropPieces (min size piece.length) (piece :: rest) := afterRead_eq size hrest
  refine ⟨_, _, hk0, hk, hkw, hread, hs', hafter, .here piece rest, fun c => ⟨fun hc => ?_, ?_⟩⟩
  · cases hc with
    | here => exact .inl rfl
    | later hc => exact .inr ⟨_, rfl, hc⟩
  · rintro (rfl | ⟨c', rfl, hc'⟩)
    · exact .here piece rest
    · exact .later hc'

/-- A read takes the first piece, or as much of it as is asked for. -/
theorem read_first {s : Stream} {w piece : List UInt8} {rest : List (List UInt8)} {size : ℕ}
    (h : Delivers s w) (hin : s.incoming = piece :: rest) (hsize : 0 < size) : ∃ s',
    (read size : Call ε Stream _) s =
      .ret ((min size piece.length : ℕ), w.take (min size piece.length)) s' ∧
      Delivers s' (w.drop (min size piece.length)) ∧ s'.incoming = afterRead size piece rest := by
  have hpieces := h.pieces
  rw [hin] at hpieces
  have hw : w ≠ [] := by
    rw [← h.flatten_eq, hin, List.flatten_cons]
    exact fun hnil => hpieces piece (by simp) (List.append_eq_nil_iff.1 hnil).1
  obtain ⟨m, s', -, -, -, hread, hs', hin', hhere, hends⟩ := read_piece (ε := ε) h hw hsize
  obtain rfl : m = min size piece.length := by
    rw [hin] at hhere hends
    rcases (hends _).1 (.here piece rest) with heq | ⟨c, heq, -⟩
    · exact heq.symm
    · cases hhere with
      | here => rfl
      | later hc => omega
  refine ⟨s', hread, hs', ?_⟩
  rw [hin', hin, afterRead_eq size fun p hp => hpieces p (List.mem_cons_of_mem _ hp)]

/-- The last read ends with the last byte. -/
theorem readEnd_length {size : ℕ} (hsize : 0 < size) : ∀ {pieces : List (List UInt8)},
    (∀ p ∈ pieces, p ≠ []) → pieces ≠ [] → ReadEnd size pieces pieces.flatten.length := by
  intro pieces
  induction hn : pieces.flatten.length using Nat.strong_induction_on generalizing pieces with
  | _ n ih =>
    intro h hne
    obtain ⟨piece, rest, rfl⟩ := List.exists_cons_of_ne_nil hne
    have hpos : 0 < piece.length := List.length_pos_iff.2 (h piece (by simp))
    have hrest : ∀ p ∈ rest, p ≠ [] := fun p hp => h p (List.mem_cons_of_mem _ hp)
    rw [List.flatten_cons, List.length_append] at hn
    have hafter : afterRead size piece rest =
        dropPieces (min size piece.length) (piece :: rest) := afterRead_eq size hrest
    have hlength : (afterRead size piece rest).flatten.length = n - min size piece.length := by
      rw [hafter, flatten_dropPieces, List.length_drop, List.flatten_cons, List.length_append, hn]
    by_cases hnil : afterRead size piece rest = []
    · rw [hnil] at hlength
      have hhere : ReadEnd size (piece :: rest) (min size piece.length) := .here piece rest
      rwa [show min size piece.length = n by simp at hlength; omega] at hhere
    · have hlater := ih _ (by omega) hlength
        (by rw [hafter]; exact dropPieces_ne_nil h) hnil
      have := ReadEnd.later hlater
      rwa [show min size piece.length + (n - min size piece.length) = n by omega] at this

/-- The loop takes as many bytes as are asked for. -/
theorem readLoop_piece {s : Stream} {rest : List UInt8} : ∀ (w : List UInt8), Delivers s (w ++ rest) →
    ∃ s', (readLoop w.length : Call ε Stream _) s = .ret (none, w) s' ∧ Delivers s' rest ∧
      s'.incoming = dropPieces w.length s.incoming := by
  intro w
  induction hn : w.length using Nat.strong_induction_on generalizing w s with
  | _ n ih =>
    intro h
    subst hn
    rw [readLoop]
    by_cases h0 : w.length = 0
    · obtain rfl : w = [] := List.length_eq_zero_iff.1 h0
      exact ⟨s, by rw [if_pos h0]; rfl, h, (dropPieces_zero h.pieces).symm⟩
    have hw : w ++ rest ≠ [] := by
      intro hnil
      rw [List.append_eq_nil_iff] at hnil
      exact h0 (by rw [hnil.1]; rfl)
    obtain ⟨m, s₁, hm0, hm, -, hread, h₁, hin₁, -⟩ :=
      read_piece (ε := ε) h hw (Nat.pos_of_ne_zero h0)
    rw [List.drop_append_of_le_length hm] at h₁
    rw [List.take_append_of_le_length hm] at hread
    have hlen : (w.drop m).length = w.length - m := List.length_drop
    obtain ⟨s₂, hloop, h₂, hin₂⟩ := ih _ (by omega) (w.drop m) rfl h₁
    refine ⟨s₂, ?_, h₂, ?_⟩
    · rw [if_neg h0, Call.bind_ret hread]
      dsimp only
      rw [if_neg (by omega), Int.toNat_natCast, ← hlen, Call.bind_ret hloop]
      dsimp only
      rw [List.take_append_drop]
      rfl
    · rw [hin₂, hin₁, dropPieces_add _ _ h.pieces, hlen, Nat.add_sub_cancel' hm]

/-- `readFixSize` takes as many bytes as are asked for. -/
theorem readFixSize_piece {s : Stream} {w rest : List UInt8} (h : Delivers s (w ++ rest))
    (hw : w.length < 2 ^ 63) : ∃ s', (readFixSize w.length : Call ε Stream _) s =
      .ret (toInt32 w.length, w) s' ∧ Delivers s' rest ∧
        s'.incoming = dropPieces w.length s.incoming := by
  obtain ⟨s', hloop, h', hin⟩ := readLoop_piece (ε := ε) w h
  refine ⟨s', ?_, h', hin⟩
  rw [readFixSize, toInt64_natCast hw, Int.toNat_natCast, Call.bind_ret hloop]
  dsimp only
  rw [Call.pure_apply, Option.getD_none]

end Ancfl.Stream
