/-
  Chunked responses that come in several reads.

  * `wire`: the bytes of the chunks, each with its size line, and of the last
    size line with what comes after it; `readLines`: what the machine makes of
    the size lines;
  * `LinesWhole`: the reads bring each size line in one piece;
  * `InHead`: where the loop for the head stands before a read;
  * `recvHead_ret`, `recvSize_ret`, `recvPayload_ret`, `recvChunks_ret`: what the
    loops of `recvResponse` return of such a response;
  * `reassembled_of_whole`: the body is made of the payloads, and decompressed
    if the response says so.
-/
import Ancfl.Http.SizeLines
import Ancfl.Stream.Reads

namespace Ancfl.Http

open Lib
open HttpRequestParser (Holds)

namespace HttpConnection

open HttpResponseParser (Related Same execute_line hasError_of_final httpclient_parser_execute_part
  isFinished_of_final of_readHead read readHead readLine readLine_digits readLine_pos related_fresh)
open HttpclientParser (Marks marking machine first_final)

/-! ## Chunks -/

structure Chunk where
  /-- the size, the extensions, and the end of the line -/
  line : List UInt8
  payload : List UInt8
deriving DecidableEq

/-- The chunks, and after them the last size line with all that follows. -/
def wire : List Chunk → List UInt8 → List UInt8
  | [], tail => tail
  | c :: cs, tail => c.line ++ (c.payload ++ ([13, 10] ++ wire cs tail))

/-- The response after the size lines, if they are read as the sizes of the payloads and the last
    as 0. -/
def readLines (r : HttpResponse) : List Chunk → List UInt8 → Option HttpResponse
  | [], last => (readLine r last).bind fun x => if x.1 = 0 then some x.2 else none
  | c :: cs, last =>
    (readLine r c.line).bind fun x =>
      if x.1 = c.payload.length ∧ c.payload ≠ [] then readLines x.2 cs last else none

/-- The number of bytes in the buffer when a size line is parsed, and the pieces still to come, if
    there are `k` bytes before. -/
def filled (size : ℕ) : ℕ → List (List UInt8) → ℕ × List (List UInt8)
  | 0, piece :: rest => (min size piece.length, Stream.afterRead size piece rest)
  | k, pieces => (k, pieces)

/-- **Each size line is in the buffer as a whole when it is parsed**, if there are `k` bytes before
    the first. -/
def LinesWhole (size : ℕ) : ℕ → List (List UInt8) → List Chunk → List UInt8 → Prop
  | k, pieces, [], last => last.length ≤ (filled size k pieces).1
  | k, pieces, c :: cs, last =>
    let (k, pieces) := filled size k pieces
    c.line.length ≤ k ∧
      let k := k - c.line.length
      let n := c.payload.length + 2
      if n ≤ k then LinesWhole size (k - n) pieces cs last
      else LinesWhole size 0 (Stream.dropPieces (n - k) pieces) cs last

theorem linesWhole_cons {size k : ℕ} {pieces : List (List UInt8)} {c : Chunk} {cs : List Chunk}
    {last : List UInt8} : LinesWhole size k pieces (c :: cs) last ↔
      c.line.length ≤ (filled size k pieces).1 ∧
        if c.payload.length + 2 ≤ (filled size k pieces).1 - c.line.length then
          LinesWhole size ((filled size k pieces).1 - c.line.length - (c.payload.length + 2))
            (filled size k pieces).2 cs last
        else LinesWhole size 0 (Stream.dropPieces
          (c.payload.length + 2 - ((filled size k pieces).1 - c.line.length))
          (filled size k pieces).2) cs last := Iff.rfl

instance (size : ℕ) : ∀ (k : ℕ) (pieces : List (List UInt8)) (chunks : List Chunk)
    (last : List UInt8), Decidable (LinesWhole size k pieces chunks last)
  | _, _, [], _ => inferInstanceAs (Decidable (_ ≤ _))
  | k, pieces, c :: cs, last =>
    haveI := instDecidableLinesWhole size
      ((filled size k pieces).1 - c.line.length - (c.payload.length + 2))
      (filled size k pieces).2 cs last
    haveI := instDecidableLinesWhole size 0 (Stream.dropPieces
      (c.payload.length + 2 - ((filled size k pieces).1 - c.line.length))
      (filled size k pieces).2) cs last
    decidable_of_iff' _ linesWhole_cons

/-- A size line of hexadecimal digits, without extensions. -/
def IsSize (line : List UInt8) (n : ℕ) : Prop :=
  ∃ u, u ≠ [] ∧ u.all (isDigit 16) ∧ digits 16 u 0 = n ∧ line = u ++ [13, 10]

theorem readLine_of_isSize {line : List UInt8} {n : ℕ} (h : IsSize line n) (hn : n < 2 ^ 31)
    (r : HttpResponse) : readLine r line = some ((n : ℤ), r) := by
  obtain ⟨u, hne, hu, rfl, rfl⟩ := h
  exact readLine_digits r hne (List.all_eq_true.1 hu) hn

/-- Size lines without extensions leave the response as it is. -/
theorem readLines_of_isSize {last : List UInt8} (hlast : IsSize last 0) (r : HttpResponse) :
    ∀ chunks : List Chunk,
      (∀ c ∈ chunks, IsSize c.line c.payload.length ∧ c.payload ≠ [] ∧ c.payload.length < 2 ^ 31) →
      readLines r chunks last = some r
  | [], _ => by rw [readLines, readLine_of_isSize hlast (by omega)]; rfl
  | c :: cs, h => by
    obtain ⟨hsize, hne, hlt⟩ := h c (by simp)
    rw [readLines, readLine_of_isSize hsize hlt, Option.bind_some, if_pos ⟨rfl, hne⟩]
    exact readLines_of_isSize hlast r cs fun c' hc' => h c' (List.mem_cons_of_mem _ hc')

/-! ## The head -/

/-- The first read that ends after at least `n` bytes ends after `n + k`. -/
def FirstEnd (size : ℕ) (pieces : List (List UInt8)) (n k : ℕ) : Prop :=
  Stream.ReadEnd size pieces (n + k) ∧ ∀ c, Stream.ReadEnd size pieces c → c < n + k → c < n

/-- The buffer holds the first `k` of the coming bytes, and the stream delivers the rest. -/
structure Buffered (size k : ℕ) (data : List UInt8) (st : Stream) (bs : List UInt8) : Prop where
  length_eq : data.length = size + 1
  le_size : k ≤ size
  le_length : k ≤ bs.length
  take_eq : data.take k = bs.take k
  delivers : Stream.Delivers st (bs.drop k)

/-- The NUL that is put after the bytes in the buffer. -/
theorem overwrite_nul {data : List UInt8} {len : ℕ} (h : len < data.length) :
    (overwrite data len [0]).length = data.length ∧ (overwrite data len [0])[len]? = some 0 ∧
      (overwrite data len [0]).take len = data.take len := by
  have htake : (data.take len).length = len := by rw [List.length_take, min_eq_left h.le]
  refine ⟨length_overwrite (by simp; omega), ?_, ?_⟩
  · rw [overwrite, List.append_assoc, List.getElem?_append_right htake.le, htake, Nat.sub_self]
    rfl
  · rw [overwrite, List.append_assoc, List.take_left' htake]

/-- What is left in front after a call of `execute`. -/
theorem take_rest {data : List UInt8} {n m : ℕ} (hm : m ≤ data.length) :
    (overwrite data 0 (slice data n (m - n))).take (m - n) = (data.take m).drop n := by
  have hlen : (slice data n (m - n)).length = m - n := by
    rw [slice, List.length_take, List.length_drop]
    omega
  rw [overwrite_zero, List.take_left' hlen, slice, List.drop_take]

theorem length_rest {data : List UInt8} {n m : ℕ} (hm : m ≤ data.length) :
    (overwrite data 0 (slice data n (m - n))).length = data.length := by
  refine length_overwrite ?_
  rw [slice, List.length_take, List.length_drop]
  omega

/-- A read into the empty buffer: `mem` has the `m` bytes that it brings, and the NUL after them. -/
structure HeadRead (size : ℕ) (s : HttpResponseParser) (data : List UInt8) (st : Stream)
    (bs : List UInt8) (m : ℕ) (mem : List UInt8) (st₁ : Stream) : Prop where
  pos : 0 < m
  le_size : m ≤ size
  le_length : m ≤ bs.length
  length_eq : mem.length = size + 1
  nul : mem[m]? = some 0
  take_eq : mem.take m = bs.take m
  delivers : Stream.Delivers st₁ (bs.drop m)
  incoming_eq : st₁.incoming = Stream.dropPieces m st.incoming
  readEnd : Stream.ReadEnd size st.incoming m
  readEnd_iff : ∀ c, Stream.ReadEnd size st.incoming c ↔
    c = m ∨ ∃ c', c = m + c' ∧ Stream.ReadEnd size st₁.incoming c'
  turn : ∀ {turns n s'}, s.httpclient_parser_execute mem m = .ok (n, s') → 0 < n → n ≤ m →
    s'.hasError = false → recvHead size (turns + 1) s data 0 st =
      (if s'.isFinished ≠ 0 then
        return some (s', overwrite mem 0 (slice mem n (m - n)), ((m - n : ℕ) : ℤ))
      else recvHead size turns s' (overwrite mem 0 (slice mem n (m - n))) (m - n : ℕ)) st₁

/-- A turn of the loop, when a read brings `m` bytes of which the parser takes `n`. -/
theorem recvHead_turn {turns size m n : ℕ} {s s' : HttpResponseParser}
    {data data' bytes : List UInt8} {st st₁ : Stream} (hsize : size < 2 ^ 31) (hm0 : 0 < m)
    (hm : m ≤ size) (hread : (Stream.read size : Call Fault Stream _) st = .ret (m, bytes) st₁)
    (hexec : s.execute (overwrite (overwrite data 0 bytes) m [0]) m false = .ok (n, s', data'))
    (hn0 : 0 < n) (hn : n ≤ m) (herror : s'.hasError = false) :
    recvHead size (turns + 1) s data 0 st =
      (if s'.isFinished ≠ 0 then return some (s', data', ((m - n : ℕ) : ℤ))
        else recvHead size turns s' data' (m - n : ℕ)) st₁ := by
  have hsize64 : toUInt64 ((size : ℤ) - 0) = size := by
    rw [Int.sub_zero, toUInt64_natCast (by omega)]
  have hm32 : toInt32 ((m : ℤ) + 0) = m := by
    rw [Int.add_zero, toInt32_natCast (by omega)]
  have hoffset : toInt32 ((m : ℤ) - n) = (m - n : ℕ) := by
    rw [← Int.natCast_sub hn, toInt32_natCast (by omega)]
  have hfull : ((m - n : ℕ) : ℤ) ≠ toInt32 (size : ℤ) := by
    rw [toInt32_natCast hsize]
    omega
  rw [recvHead, hsize64, Call.bind_ret hread]
  simp only [Int.toNat_zero]
  rw [if_neg (by omega), hm32, Int.toNat_natCast, hexec, Call.bind_ret (runParser_ok _ _)]
  dsimp only
  rw [herror, if_neg Bool.false_ne_true, hoffset, if_neg hfull]

theorem exists_headRead {size : ℕ} {s : HttpResponseParser} {data bs : List UInt8} {st : Stream}
    (hpos : 0 < size) (hsize : size < 2 ^ 31) (hlen : data.length = size + 1)
    (hst : Stream.Delivers st bs) (hne : bs ≠ []) :
    ∃ m mem st₁, HeadRead size s data st bs m mem st₁ := by
  obtain ⟨m, st₁, hm0, hm, hmw, hread, hst₁, hin₁, hhere, hends⟩ :=
    Stream.read_piece (ε := Fault) hst hne hpos
  have hblen : (bs.take m).length = m := by rw [List.length_take, min_eq_left hmw]
  have hover : (overwrite data 0 (bs.take m)).length = size + 1 := by
    rw [length_overwrite (by omega), hlen]
  obtain ⟨hmemlen, hnul, htake⟩ :=
    overwrite_nul (show m < (overwrite data 0 (bs.take m)).length by omega)
  have hbytes : (overwrite data 0 (bs.take m)).take m = bs.take m := by
    rw [overwrite_zero, List.take_left' hblen]
  refine ⟨m, _, st₁, hm0, hm, hmw, hmemlen.trans hover, hnul, htake.trans hbytes, hst₁, hin₁, hhere,
    hends, ?_⟩
  intro turns n s' hcall
  refine recvHead_turn hsize hm0 hm hread ?_
  simp only [HttpResponseParser.execute, Bool.false_eq_true, if_false, hcall]
  rfl

/-- Before a read in the head: the parser has taken its first `b` bytes, and will take the rest; no
    read ends inside of an element. -/
structure InHead (head tail : List UInt8) (size : ℕ) (S' : HttpResponseParser) (b : ℕ)
    (s : HttpResponseParser) (st : Stream) : Prop where
  delivers : Stream.Delivers st (head.drop b ++ tail)
  parses : ∃ γ S, (∀ e, Related head b e s.parser.cs b γ S s.enter) ∧
    machine.scan (read head) (head.drop b) b s.parser.cs S =
      .ok (.stops first_final head.length S') ∧
    ∀ x ∈ machine.elements marking (head.drop b) b s.parser.cs γ, ¬ x.SplitAt b ∧
      ∀ c, Stream.ReadEnd size st.incoming c → ¬ x.SplitAt (b + c)

section
variable {head tail data mem : List UInt8} {size b m : ℕ} {S' s : HttpResponseParser}
  {st st₁ : Stream}

theorem InHead.lt (h : InHead head tail size S' b s st) : b < head.length := by
  obtain ⟨-, γ, S, -, hscan, -⟩ := h
  by_contra hge
  rw [List.drop_of_length_le (by omega)] at hscan
  cases hscan

/-- A read that ends in the head. -/
theorem InHead.goes_on (h : InHead head tail size S' b s st) (hgood : S'.error = 0)
    (hread : HeadRead size s data st (head.drop b ++ tail) m mem st₁) (hlt : b + m < head.length) :
    ∃ s', (∀ turns, recvHead size (turns + 1) s data 0 st = recvHead size turns s' mem 0 st₁) ∧
      InHead head tail size S' (b + m) s' st₁ := by
  obtain ⟨-, γ, S, hrel, hscan, hel⟩ := h
  have hm := hread.pos
  have hdata : Holds head mem b (b + m) := by
    rw [Holds, Nat.add_sub_cancel_left, hread.take_eq,
      List.take_append_of_le_length (by rw [List.length_drop]; omega)]
    rfl
  have hcall := httpclient_parser_execute_part hdata hread.nul (by omega) hlt.le (by omega)
    (fun _ => by omega) (hrel (b + m)) (fun x hx => (hel x hx).1) hscan hgood
  obtain ⟨_, -, -, hle, -⟩ | ⟨s', γ₁, S₁, hcall, -, herror, hcs, hgoing, hrel₁, hscan₁, hsub⟩ :=
    hcall
  · omega
  · rw [Nat.add_sub_cancel_left] at hcall
    have hfin : s'.isFinished = 0 := by
      rw [HttpResponseParser.isFinished, if_neg hcs, if_neg hgoing.ne]
    have herr : s'.hasError = false := by
      simp [HttpResponseParser.hasError, herror, hcs]
    refine ⟨s', fun turns => ?_, ?_, γ₁, S₁, hrel₁, hscan₁, fun x hx => ?_⟩
    · rw [hread.turn hcall hm le_rfl herr, hfin, if_neg (by simp), Nat.sub_self, slice_zero,
        overwrite_nil]
      rfl
    · have hdrop : (head.drop b ++ tail).drop m = head.drop (b + m) ++ tail := by
        rw [List.drop_append_of_le_length (by rw [List.length_drop]; omega), List.drop_drop]
      rw [← hdrop]
      exact hread.delivers
    · obtain ⟨-, hcuts⟩ := hel x (hsub x hx)
      refine ⟨hcuts m hread.readEnd, fun c hc => ?_⟩
      rw [Nat.add_assoc]
      exact hcuts (m + c) ((hread.readEnd_iff _).2 (.inr ⟨c, rfl, hc⟩))

/-- The read that brings the end of the head. -/
theorem InHead.ends (h : InHead head tail size S' b s st) (hgood : S'.error = 0)
    (hread : HeadRead size s data st (head.drop b ++ tail) m mem st₁) (hge : head.length ≤ b + m) :
    ∃ s' data', (∀ turns, recvHead size (turns + 1) s data 0 st =
        .ret (some (s', data', (m - (head.length - b) : ℕ))) st₁) ∧ Same S' s' ∧
      Buffered size (m - (head.length - b)) data' st₁ tail := by
  have hb := h.lt
  obtain ⟨-, γ, S, hrel, hscan, hel⟩ := h
  have hm := hread.le_size
  have hdata : Holds head mem b head.length := by
    have htake := congrArg (List.take (head.length - b)) hread.take_eq
    rw [List.take_take, List.take_take, min_eq_left (by omega),
      List.take_append_of_le_length (by rw [List.length_drop])] at htake
    exact htake
  have hcall := httpclient_parser_execute_part hdata hread.nul hb le_rfl (by omega)
    (fun hlt => absurd hlt (lt_irrefl _)) (hrel head.length) (fun x hx => (hel x hx).1) hscan hgood
  obtain ⟨s', hcall, -, -, hcs, hsame⟩ | ⟨_, _, _, -, hlt, -⟩ := hcall
  · have herr := hasError_of_final hcs (hsame.error.trans hgood)
    have hlength := hread.length_eq
    have hle := hread.le_length
    rw [List.length_append, List.length_drop] at hle
    refine ⟨s', overwrite mem 0 (slice mem (head.length - b) (m - (head.length - b))),
      fun turns => ?_, hsame, ?_, by omega, by omega, ?_, ?_⟩
    · rw [hread.turn hcall (by omega) (by omega) herr, isFinished_of_final hcs,
        if_pos one_ne_zero]
      rfl
    · rw [length_rest (by omega), hlength]
    · rw [take_rest (by omega), hread.take_eq, List.drop_take,
        List.drop_left' (by rw [List.length_drop])]
    · have hrest : (head.drop b ++ tail).drop m = tail.drop (m - (head.length - b)) := by
        rw [List.drop_append, List.drop_of_length_le (by rw [List.length_drop]; omega),
          List.length_drop, List.nil_append]
      rw [← hrest]
      exact hread.delivers
  · exact absurd hlt (lt_irrefl _)

end

/-- **The head** of a response, when no read ends inside of an element: the bytes after it are at
    the front of the buffer, or still in the stream. -/
theorem recvHead_ret {head tail : List UInt8} {size : ℕ} {S' : HttpResponseParser}
    (hgood : S'.error = 0) (hpos : 0 < size) (hsize : size < 2 ^ 31) : ∀ (turns : ℕ) {b : ℕ}
    {s : HttpResponseParser} {data : List UInt8} {st : Stream}, data.length = size + 1 →
    InHead head tail size S' b s st → (head.drop b ++ tail).length < turns →
    ∃ s' data' st' k, recvHead size turns s data 0 st = .ret (some (s', data', (k : ℕ))) st' ∧
      Same S' s' ∧ Buffered size k data' st' tail ∧
      FirstEnd size st.incoming (head.length - b) k ∧
      st'.incoming = Stream.dropPieces (head.length - b + k) st.incoming
  | 0, _, _, _, _, _, _, hturns => by omega
  | turns + 1, b, s, data, st, hlen, h, hturns => by
    have hbh := h.lt
    have hne : head.drop b ++ tail ≠ [] := by
      intro hnil
      have hdrop := (List.append_eq_nil_iff.1 hnil).1
      rw [List.drop_eq_nil_iff] at hdrop
      omega
    obtain ⟨m, mem, st₁, hread⟩ := exists_headRead (s := s) hpos hsize hlen h.delivers hne
    have hm := hread.pos
    rcases Nat.lt_or_ge (b + m) head.length with hlt | hge
    · obtain ⟨s₁, hturn, h₁⟩ := h.goes_on hgood hread hlt
      have hlen₁ : (head.drop (b + m) ++ tail).length < turns := by
        rw [List.length_append, List.length_drop] at hturns ⊢
        omega
      obtain ⟨s₂, data₂, st₂, k, hret, hsame, hbuffered, hfirst, hin₂⟩ :=
        recvHead_ret hgood hpos hsize turns hread.length_eq h₁ hlen₁
      have hsum : head.length - b = m + (head.length - (b + m)) := by omega
      refine ⟨s₂, data₂, st₂, k, (hturn turns).trans hret, hsame, hbuffered, ⟨?_, ?_⟩, ?_⟩
      · rw [hsum, Nat.add_assoc]
        exact (hread.readEnd_iff _).2 (.inr ⟨_, rfl, hfirst.1⟩)
      · intro c hc hlt'
        rcases (hread.readEnd_iff c).1 hc with rfl | ⟨c', rfl, hc'⟩
        · omega
        · have := hfirst.2 c' hc' (by omega)
          omega
      · rw [hin₂, hread.incoming_eq, Stream.dropPieces_add _ _ h.delivers.pieces, hsum,
          Nat.add_assoc]
    · obtain ⟨s', data', hturn, hsame, hbuffered⟩ := h.ends hgood hread hge
      have hm' : m = head.length - b + (m - (head.length - b)) := by omega
      refine ⟨s', data', st₁, _, hturn turns, hsame, hbuffered, ⟨?_, ?_⟩, ?_⟩
      · rw [← hm']
        exact hread.readEnd
      · intro c hc hlt'
        rcases (hread.readEnd_iff c).1 hc with rfl | ⟨c', rfl, -⟩ <;> omega
      · rw [hread.incoming_eq, ← hm']

/-! ## The size lines -/

section
variable {size k : ℕ} {data bs : List UInt8} {st : Stream}

/-- The buffer is filled if it is empty. -/
theorem fill_ret (hpos : 0 < size) (hsize : size < 2 ^ 31) (h : Buffered size k data st bs)
    (hbs : bs ≠ []) : ∃ data' st',
    (if !true || decide ((k : ℤ) = 0) then fill size data k else pure (some (data, (k : ℤ)))) st =
      .ret (some (data', ((filled size k st.incoming).1 : ℤ))) st' ∧
      Buffered size (filled size k st.incoming).1 data' st' bs ∧
      st'.incoming = (filled size k st.incoming).2 := by
  rcases k with _ | k
  · have hst := h.delivers
    rw [List.drop_zero] at hst
    obtain ⟨piece, rest, hin⟩ : ∃ piece rest, st.incoming = piece :: rest := by
      refine List.exists_cons_of_ne_nil fun hnil => hbs ?_
      rw [← hst.flatten_eq, hnil]
      rfl
    obtain ⟨st', hread, hst', hin'⟩ := Stream.read_first (ε := Fault) hst hin hpos
    have hm : min size piece.length ≤ bs.length := by
      rw [← hst.flatten_eq, hin, List.flatten_cons, List.length_append]
      omega
    have hpiece : 0 < piece.length := List.length_pos_iff.2 (hst.pieces piece (by rw [hin]; simp))
    have hm0 : 0 < min size piece.length := by omega
    have hmsize : min size piece.length ≤ size := min_le_left _ _
    rw [hin, filled]
    dsimp only
    generalize min size piece.length = m at hread hst' hm hm0 hmsize
    have hlen : (bs.take m).length = m := by rw [List.length_take, min_eq_left hm]
    have hsize64 : toUInt64 ((size : ℤ) - (0 : ℕ)) = size := by
      rw [Int.natCast_zero, Int.sub_zero, toUInt64_natCast (by omega)]
    have hm32 : toInt32 (((0 : ℕ) : ℤ) + m) = m := by
      rw [Int.natCast_zero, Int.zero_add, toInt32_natCast (by omega)]
    refine ⟨overwrite data 0 (bs.take m), st', ?_, ⟨?_, hmsize, hm, ?_, hst'⟩, hin'⟩
    · rw [if_pos (by simp), fill, hsize64, Call.bind_ret hread]
      dsimp only
      rw [if_neg (by omega), hm32]
      rfl
    · rw [length_overwrite (by rw [hlen, h.length_eq]; omega), h.length_eq]
    · rw [overwrite_zero, List.take_left' hlen]
  · refine ⟨data, st, ?_, h, rfl⟩
    rw [if_neg (by simp; omega)]
    rfl

/-- **A size line** that is in the buffer as a whole is taken from it. -/
theorem recvSize_ret (turns : ℕ) {s : HttpResponseParser} {r' : HttpResponse} {line : List UInt8}
    {n : ℤ} (hpos : 0 < size) (hsize : size < 2 ^ 31) (h : Buffered size k data st (line ++ bs))
    (hline : readLine s.data line = some (n, r')) (herror : s.error = 0)
    (hwhole : line.length ≤ (filled size k st.incoming).1) : ∃ s' data' st',
    recvSize size (turns + 1) true s data k st =
      .ret (some (s', data', (((filled size k st.incoming).1 - line.length : ℕ) : ℤ))) st' ∧
      s'.data = r' ∧ s'.error = 0 ∧ s'.parser.content_len = n ∧
      s'.parser.chunks_done = decide (n ≤ 0) ∧
      Buffered size ((filled size k st.incoming).1 - line.length) data' st' bs ∧
      st'.incoming = (filled size k st.incoming).2 := by
  have hline0 := readLine_pos hline
  have hne : line ++ bs ≠ [] := fun hnil => by
    rw [(List.append_eq_nil_iff.1 hnil).1] at hline0
    cases hline0
  obtain ⟨data₁, st₁, hfill, h₁, hin₁⟩ := fill_ret hpos hsize h hne
  generalize (filled size k st.incoming).1 = m at hwhole hfill h₁ ⊢
  generalize hmem : overwrite data₁ m [0] = mem
  have hm : m < data₁.length := by
    have := h₁.length_eq
    have := h₁.le_size
    omega
  obtain ⟨hmemlen, hnul, htake⟩ := overwrite_nul hm
  rw [hmem, h₁.length_eq] at hmemlen
  rw [hmem] at hnul
  rw [hmem, h₁.take_eq] at htake
  have hhead : mem.take line.length = line := by
    have := congrArg (List.take line.length) htake
    rwa [List.take_take, min_eq_left hwhole, List.take_take, min_eq_left hwhole,
      List.take_left] at this
  obtain ⟨s', hexec, hdata, herror', hcs, hcontent, hdone⟩ :=
    execute_line hline herror hwhole hhead hnul
  have hle := h₁.le_size
  have hoffset : toInt32 ((m : ℤ) - line.length) = (m - line.length : ℕ) := by
    rw [← Int.natCast_sub hwhole, toInt32_natCast (by omega)]
  have hfull : ((m - line.length : ℕ) : ℤ) ≠ toInt32 (size : ℤ) := by
    rw [toInt32_natCast hsize]
    omega
  refine ⟨s', overwrite mem 0 (slice mem line.length (m - line.length)), st₁, ?_, hdata, herror',
    hcontent, hdone, ⟨?_, by omega, ?_, ?_, ?_⟩, hin₁⟩
  · rw [recvSize, Call.ite_bind_ret hfill]
    dsimp only
    rw [Int.toNat_natCast, hmem, hexec, Call.bind_ret (runParser_ok _ _)]
    dsimp only
    rw [hasError_of_final hcs herror', if_neg Bool.false_ne_true, hoffset, if_neg hfull,
      isFinished_of_final hcs, if_pos one_ne_zero]
    rfl
  · rw [length_rest (by omega), hmemlen]
  · have := h₁.le_length
    rw [List.length_append] at this
    omega
  · rw [take_rest (by omega), htake, List.drop_take, List.drop_left]
  · have hst := h₁.delivers
    rwa [List.drop_append, List.drop_of_length_le hwhole, List.nil_append] at hst

/-! ## The payloads -/

/-- The bytes that the buffer does not hold are read in turns. -/
theorem recvLeft_ret (hpos : 0 < size) (hsize : size < 2 ^ 31) : ∀ (turns : ℕ) (body : List UInt8)
    {w rest data : List UInt8} {st : Stream}, Stream.Delivers st (w ++ rest) → w.length < turns →
    w.length < 2 ^ 31 → data.length = size + 1 → ∃ data' st',
    recvLeft size turns w.length body data st = .ret (some (body ++ w, data')) st' ∧
      data'.length = size + 1 ∧ Stream.Delivers st' rest ∧
      st'.incoming = Stream.dropPieces w.length st.incoming
  | 0, _, _, _, _, _, _, hturns, _, _ => by omega
  | turns + 1, body, w, rest, data, st, hst, hturns, hw, hlen => by
    rw [recvLeft]
    by_cases hnil : w = []
    · subst hnil
      rw [if_pos (by simp), List.append_nil, List.length_nil]
      exact ⟨data, st, rfl, hlen, hst, (Stream.dropPieces_zero hst.pieces).symm⟩
    have hw0 : 0 < w.length := List.length_pos_iff.2 hnil
    have hne : w ++ rest ≠ [] := fun h => hnil (List.append_eq_nil_iff.1 h).1
    have hask : toUInt64 (if toInt32 size < (w.length : ℤ) then toInt32 size else w.length) =
        min size w.length := by
      rw [toInt32_natCast hsize]
      split_ifs <;> rw [toUInt64_natCast (by omega)] <;> omega
    obtain ⟨m, st₁, hm0, hm, -, hread, hst₁, hin₁, -⟩ :=
      Stream.read_piece (ε := Fault) hst hne (show 0 < min size w.length by omega)
    have hmw : m ≤ w.length := by omega
    rw [List.take_append_of_le_length hmw] at hread
    rw [List.drop_append_of_le_length hmw] at hst₁
    have htaken : (w.take m).length = m := by rw [List.length_take, min_eq_left hmw]
    have hlen₁ : (overwrite data 0 (w.take m)).length = size + 1 := by
      rw [length_overwrite (by rw [htaken, hlen]; omega), hlen]
    have hleft : (w.length : ℤ) - m = (w.drop m).length := by
      rw [List.length_drop, Int.natCast_sub hmw]
    have hbytes : (overwrite data 0 (w.take m)).take m = w.take m := by
      rw [overwrite_zero, List.take_left' htaken]
    obtain ⟨data', st', hret, hlen', hst', hin'⟩ := recvLeft_ret hpos hsize turns (body ++ w.take m)
      hst₁ (by rw [List.length_drop]; omega) (by rw [List.length_drop]; omega) hlen₁
    refine ⟨data', st', ?_, hlen', hst', ?_⟩
    · rw [if_neg (by omega), hask, Call.bind_ret hread]
      dsimp only
      rw [if_neg (by omega), Int.toNat_natCast, hbytes, hleft, hret, List.append_assoc,
        List.take_append_drop]
    · rw [hin', hin₁, Stream.dropPieces_add _ _ hst.pieces, List.length_drop,
        Nat.add_sub_cancel' hmw]

theorem append_ret (body data : List UInt8) (n : ℕ) (st : Stream) :
    (append body data n : Call Fault Stream _) st = .ret (body ++ data.take n) st :=
  congrFun (if_neg (by omega)) st

/-- **The payload** of a chunk is taken from the buffer and the stream, with the two bytes
    after it. -/
theorem recvPayload_ret (body : List UInt8) {payload two : List UInt8} (hpos : 0 < size)
    (hsize : size < 2 ^ 31) (hpayload : payload.length + 2 < 2 ^ 31) (htwo : two.length = 2)
    (h : Buffered size k data st (payload ++ (two ++ bs))) : ∃ data' st', ∃ k' : ℕ,
    recvPayload size payload.length body data k st =
      .ret (some (body ++ payload, data', (k' : ℤ))) st' ∧
      Buffered size k' data' st' bs ∧
      (k', st'.incoming) = if payload.length + 2 ≤ k then (k - (payload.length + 2), st.incoming)
        else (0, Stream.dropPieces (payload.length + 2 - k) st.incoming) := by
  have hadd : toInt32 ((payload.length : ℤ) + 2) = (payload.length + 2 : ℕ) := by
    rw [show (payload.length : ℤ) + 2 = (payload.length + 2 : ℕ) by omega, toInt32_natCast hpayload]
  have hle := h.le_size
  have hlen := h.length_eq
  have hboth : (payload ++ two).length = payload.length + 2 := by rw [List.length_append, htwo]
  have hbs := h.le_length
  rw [← List.append_assoc, List.length_append, hboth] at hbs
  have htake := h.take_eq
  have hst := h.delivers
  rw [← List.append_assoc] at htake hst
  simp only [recvPayload, hadd]
  by_cases hall : payload.length + 2 ≤ k
  · -- the buffer holds all of it
    rw [if_pos (by omega), if_pos hall]
    have hbody : (append body data payload.length : Call Fault Stream _) st =
        .ret (body ++ payload) st := by
      have hp := congrArg (List.take payload.length) htake
      rw [List.take_take, min_eq_left (by omega), List.take_take, min_eq_left (by omega),
        List.append_assoc, List.take_left] at hp
      rw [append_ret, hp]
    have hrest : ((payload.length : ℤ) + 2).toNat = payload.length + 2 ∧
        ((k : ℤ) - payload.length - 2).toNat = k - (payload.length + 2) := by
      omega
    have hoffset : toInt32 ((k : ℤ) - (payload.length + 2)) = (k - (payload.length + 2) : ℕ) := by
      rw [show (k : ℤ) - (payload.length + 2) = (k - (payload.length + 2) : ℕ) by omega,
        toInt32_natCast (by omega)]
    rw [Call.bind_ret hbody, hrest.1, hrest.2, hoffset]
    refine ⟨_, st, _, rfl, ⟨?_, by omega, by omega, ?_, ?_⟩, rfl⟩
    · rw [length_rest (by omega), hlen]
    · rw [take_rest (by omega), htake, List.drop_take, List.drop_left' hboth]
    · rwa [List.drop_append, List.drop_of_length_le (by omega), hboth, List.nil_append] at hst
  · -- the rest of it is in the stream
    rw [if_neg (by omega), if_neg hall]
    have hleft : toInt32 ((payload.length : ℤ) - k + 2) = ((payload ++ two).drop k).length := by
      rw [List.length_drop, hboth,
        show (payload.length : ℤ) - k + 2 = (payload.length + 2 - k : ℕ) by omega,
        toInt32_natCast (by omega)]
    have hdrop : (payload ++ two ++ bs).drop k = (payload ++ two).drop k ++ bs :=
      List.drop_append_of_le_length (by omega)
    rw [hdrop] at hst
    rw [List.take_append_of_le_length (by omega)] at htake
    obtain ⟨data', st', hret, hlen', hst', hin'⟩ := recvLeft_ret hpos hsize
      (((payload ++ two).drop k).length + 1) (body ++ data.take k) hst (Nat.lt_succ_self _)
      (by rw [List.length_drop]; omega) hlen
    have hbody : body ++ data.take k ++ (payload ++ two).drop k = body ++ payload ++ two := by
      rw [htake, List.append_assoc, List.take_append_drop, List.append_assoc]
    rw [hbody] at hret
    have hwhole : (body ++ payload ++ two).length = (body ++ payload).length + 2 := by
      rw [List.length_append, htwo]
    have hresize : Ws.resize (body ++ payload ++ two) ((body ++ payload).length + 2 - 2) =
        body ++ payload := by
      rw [Nat.add_sub_cancel, Ws.resize, List.take_left, hwhole,
        Nat.sub_eq_zero_of_le (Nat.le_add_right _ _), List.replicate_zero, List.append_nil]
    rw [hleft, Int.toNat_natCast, Int.toNat_natCast, Call.bind_ret hret]
    dsimp only
    rw [hwhole, hresize]
    refine ⟨data', st', 0, congrFun (if_neg (by omega)) st',
      ⟨hlen', Nat.zero_le _, Nat.zero_le _, rfl, hst'⟩, ?_⟩
    rw [hin', List.length_drop, hboth]

/-! ## The chunks -/

/-- A turn of the loop: a size line, and a payload with the two bytes after it. -/
theorem recvChunks_turn (turns : ℕ) (body : List UInt8) {s : HttpResponseParser} {r' : HttpResponse}
    {line payload two : List UInt8} (hpos : 0 < size) (hsize : size < 2 ^ 31)
    (hpayload : payload.length + 2 < 2 ^ 31) (htwo : two.length = 2)
    (h : Buffered size k data st (line ++ (payload ++ (two ++ bs)))) (herror : s.error = 0)
    (hline : readLine s.data line = some ((payload.length : ℤ), r'))
    (hwhole : line.length ≤ (filled size k st.incoming).1) : ∃ s' data' st', ∃ k' : ℕ,
    recvChunks size (turns + 1) s body data k st =
      (if payload = [] then return some (s', body ++ payload)
        else recvChunks size turns s' (body ++ payload) data' k') st' ∧
      s'.data = r' ∧ s'.error = 0 ∧ Buffered size k' data' st' bs ∧
      (k', st'.incoming) =
        if payload.length + 2 ≤ (filled size k st.incoming).1 - line.length then
          ((filled size k st.incoming).1 - line.length - (payload.length + 2),
            (filled size k st.incoming).2)
        else (0, Stream.dropPieces
          (payload.length + 2 - ((filled size k st.incoming).1 - line.length))
          (filled size k st.incoming).2) := by
  obtain ⟨s', data₁, st₁, hret₁, hdata, herror', hcontent, hdone, h₁, hin₁⟩ :=
    recvSize_ret turns hpos hsize h hline herror hwhole
  obtain ⟨data', st', k', hret₂, h₂, hin₂⟩ := recvPayload_ret body hpos hsize hpayload htwo h₁
  rw [hin₁] at hin₂
  refine ⟨s', data', st', k', ?_, hdata, herror', h₂, hin₂⟩
  rw [recvChunks, Call.bind_ret hret₁]
  dsimp only
  rw [hcontent, Call.bind_ret hret₂]
  dsimp only
  rw [hdone]
  by_cases hnil : payload = []
  · rw [if_pos hnil, if_pos (by rw [hnil]; rfl)]
  · have hlen := List.length_pos_iff.2 hnil
    rw [if_neg hnil, if_neg (by rw [decide_eq_true_eq]; omega)]

/-- **The chunks** are taken one after the other, until the last size line. -/
theorem recvChunks_ret {last trailer : List UInt8} (hpos : 0 < size) (hsize : size < 2 ^ 31)
    (htrailer : 2 ≤ trailer.length) : ∀ (chunks : List Chunk) (body : List UInt8) {turns k : ℕ}
    {data : List UInt8} {st : Stream} {s : HttpResponseParser} {r' : HttpResponse},
    (∀ c ∈ chunks, c.payload.length + 2 < 2 ^ 31) → chunks.length < turns →
    Buffered size k data st (wire chunks (last ++ trailer)) → s.error = 0 →
    readLines s.data chunks last = some r' → LinesWhole size k st.incoming chunks last →
    ∃ s' st', recvChunks size turns s body data k st =
      .ret (some (s', body ++ (chunks.map Chunk.payload).flatten)) st' ∧ s'.data = r'
  | [], _, 0, _, _, _, _, _, _, hturns, _, _, _, _ => by cases hturns
  | [], body, turns + 1, k, data, st, s, r', _, _, h, herror, hlines, hwhole => by
    obtain ⟨⟨n, r₁⟩, hline, hzero⟩ := Option.bind_eq_some_iff.1 hlines
    split_ifs at hzero with hn
    cases hzero
    obtain rfl : n = 0 := hn
    have htwo : (trailer.take 2).length = 2 := by rw [List.length_take, min_eq_left htrailer]
    have h' : Buffered size k data st (last ++ ([] ++ (trailer.take 2 ++ trailer.drop 2))) := by
      rwa [List.nil_append, List.take_append_drop]
    obtain ⟨s', data', st', k', hret, hdata, -⟩ := recvChunks_turn turns body hpos hsize
      (by decide : [].length + 2 < 2 ^ 31) htwo h' herror hline hwhole
    exact ⟨s', st', hret, hdata⟩
  | c :: cs, _, 0, _, _, _, _, _, _, hturns, _, _, _, _ => by cases hturns
  | c :: cs, body, turns + 1, k, data, st, s, r', hfit, hturns, h, herror, hlines, hwhole => by
    obtain ⟨⟨n, r₁⟩, hline, hrest⟩ := Option.bind_eq_some_iff.1 hlines
    split_ifs at hrest with hn
    obtain ⟨rfl, hne⟩ := hn
    obtain ⟨hle, hwhole⟩ := linesWhole_cons.1 hwhole
    obtain ⟨s', data', st', k', hret, hdata, herror', h', hin⟩ := recvChunks_turn turns body hpos
      hsize (hfit c (by simp)) rfl h herror hline hle
    rw [if_neg hne] at hret
    have hwhole' : LinesWhole size k' st'.incoming cs last := by
      split_ifs at hin hwhole
      all_goals
        obtain ⟨rfl, hpieces⟩ := Prod.mk.inj hin
        rwa [hpieces]
    obtain ⟨s₂, st₂, hret₂, hdata₂⟩ := recvChunks_ret hpos hsize htrailer cs (body ++ c.payload)
      (fun c' hc' => hfit c' (List.mem_cons_of_mem _ hc')) (by simpa using hturns) h' herror'
      (hdata.symm ▸ hrest) hwhole'
    refine ⟨s₂, st₂, ?_, hdata₂⟩
    rw [hret, hret₂, List.map_cons, List.flatten_cons, List.append_assoc]

end

/-! ## Responses -/

variable (lexical_cast : List UInt8 → Option UInt64) (inflate : ZlibType → List UInt8 → List UInt8)
  {size : ℕ} {head last trailer : List UInt8} {chunks : List Chunk} {r r' : HttpResponse}
  {st : Stream}

/-- **No read ends inside of an element of the head.** -/
def Uncut (size : ℕ) (head : List UInt8) (pieces : List (List UInt8)) : Prop :=
  ∀ x ∈ machine.elements marking head 0 1 {}, ∀ c, Stream.ReadEnd size pieces c → ¬ x.SplitAt c

theorem length_le_wire (tail : List UInt8) : ∀ chunks : List Chunk,
    chunks.length ≤ (wire chunks tail).length
  | [] => Nat.zero_le _
  | c :: cs => by
    have := length_le_wire tail cs
    simp only [wire, List.length_cons, List.length_append]
    omega

/-- **The response** that `recvResponse` returns, when its lines are whole. -/
theorem recvResponse_ret (status : ℤ) {buffer : List UInt8} (hpos : 0 < size)
    (hsize : size < 2 ^ 31) (hfit : ∀ c ∈ chunks, c.payload.length + 2 < 2 ^ 31)
    (hhead : readHead head = some r) (hlines : readLines r chunks last = some r')
    (htrailer : 2 ≤ trailer.length) (hbuffer : buffer.length = size + 1)
    (hst : Stream.Delivers st (head ++ wire chunks (last ++ trailer)))
    (huncut : Uncut size head st.incoming)
    (hwhole : ∀ k, FirstEnd size st.incoming head.length k →
      LinesWhole size k (Stream.dropPieces (head.length + k) st.incoming) chunks last) :
    ∃ st', recvResponse lexical_cast inflate status buffer st =
      .ret (some (finish inflate { r' with body := (chunks.map Chunk.payload).flatten })) st' := by
  obtain ⟨S, hscan, hgood, hchunked, hdata⟩ := of_readHead hhead
  generalize htail : wire chunks (last ++ trailer) = tail at hst
  have hinHead : InHead head tail size S 0 (.new status) st := by
    refine ⟨hst, {}, _, fun e => related_fresh head e 0 status {}, hscan, fun x hx =>
      ⟨fun hsplit => absurd hsplit.1 (Nat.not_lt_zero _), fun c hc => ?_⟩⟩
    rw [Nat.zero_add]
    exact huncut x hx c hc
  have hturns : (head.drop 0 ++ tail).length < st.pending + 1 := by
    rw [Stream.pending, hst.flatten_eq]
    exact Nat.lt_succ_self _
  obtain ⟨s', data', st₁, k, hret, hsame, hbuffered, hfirst, hin₁⟩ :=
    recvHead_ret hgood hpos hsize (st.pending + 1) hbuffer hinHead hturns
  rw [Nat.sub_zero] at hfirst hin₁
  have hpending : st₁.pending + (k : ℤ).toNat + 1 = tail.length + 1 := by
    have := hbuffered.le_length
    rw [Stream.pending, hbuffered.delivers.flatten_eq, List.length_drop, Int.toNat_natCast]
    omega
  have hlines' : readLines s'.data chunks last = some r' := by
    rw [hsame.data, hdata]
    exact hlines
  subst htail
  obtain ⟨s₂, st₂, hret₂, hdata₂⟩ := recvChunks_ret hpos hsize htrailer chunks [] hfit
    (Nat.lt_succ_of_le (length_le_wire _ chunks)) hbuffered (hsame.error.trans hgood) hlines'
    (hin₁ ▸ hwhole k hfirst)
  refine ⟨st₂, ?_⟩
  unfold recvResponse
  rw [hbuffer, Nat.add_sub_cancel, Call.bind_ret (Call.gets_apply _ _), Call.bind_ret hret]
  dsimp only
  rw [hsame.chunked, if_pos hchunked, Call.bind_ret (Call.gets_apply _ _), hpending,
    Call.bind_ret hret₂, ← hdata₂, List.nil_append]
  rfl

/-- What is to be made of the payloads: a body that is not empty is decompressed, if the response
    says how. -/
def plain (r : HttpResponse) (body : List UInt8) : List UInt8 :=
  let content_encoding := cStr (r.getHeader (ascii "content-encoding"))
  if body = [] then []
  else if strcasecmp content_encoding (ascii "gzip") = .eq then inflate .GZIP body
  else if strcasecmp content_encoding (ascii "deflate") = .eq then inflate .DEFLATE body
  else body

theorem finish_body (r : HttpResponse) (body : List UInt8) :
    (finish inflate { r with body := body }).body = plain inflate r body := by
  rw [finish, plain]
  by_cases hnil : body = []
  · rw [if_neg (not_not_intro hnil), if_pos hnil]
    exact hnil
  · rw [if_pos hnil, if_neg hnil]
    rfl

/-- **A chunked response is reassembled**, and decompressed if it says so, when no read ends inside
    of an element of its head, and each size line is in the buffer as a whole. -/
theorem reassembled_of_whole (hpos : 0 < size) (hsize : size + 2 < 2 ^ 31)
    (hfit : ∀ c ∈ chunks, c.payload.length ≤ size) (hhead : readHead head = some r)
    (hlines : readLines r chunks last = some r') (htrailer : 2 ≤ trailer.length)
    (hst : Stream.Delivers st (head ++ wire chunks (last ++ trailer)))
    (huncut : Uncut size head st.incoming)
    (hwhole : ∀ k, FirstEnd size st.incoming head.length k →
      LinesWhole size k (Stream.dropPieces (head.length + k) st.incoming) chunks last) :
    ∀ (status : ℤ) (buffer : List UInt8), buffer.length = size + 1 → ∃ response st',
      recvResponse lexical_cast inflate status buffer st = .ret (some response) st' ∧
      response.body = plain inflate r' (chunks.map Chunk.payload).flatten := by
  intro status buffer hbuffer
  have hfit' : ∀ c ∈ chunks, c.payload.length + 2 < 2 ^ 31 := fun c hc => by
    have := hfit c hc
    omega
  obtain ⟨st', hret⟩ := recvResponse_ret lexical_cast inflate status hpos (by omega) hfit' hhead
    hlines htrailer hbuffer hst huncut hwhole
  exact ⟨_, st', hret, finish_body inflate r' _⟩

/-! ## Two responses -/

theorem le_of_readEnd {piece : List UInt8} {rest : List (List UInt8)} {c : ℕ}
    (h : Stream.ReadEnd size (piece :: rest) c) : min size piece.length ≤ c := by
  cases h with
  | here => exact le_rfl
  | later => exact Nat.le_add_right _ _

/-- The first piece brings the head, and more of the response. -/
theorem uncut_of_first {piece : List UInt8} {rest : List (List UInt8)}
    (h : head.length ≤ piece.length) (hpiece : piece.length ≤ size) :
    Uncut size head (piece :: rest) := by
  intro x hx c hc hsplit
  have hstop := Scanner.stop_lt hx
  have := le_of_readEnd hc
  have := hsplit.2
  omega

theorem firstEnd_of_first {piece : List UInt8} {rest : List (List UInt8)} {k : ℕ}
    (h : head.length ≤ piece.length) (hpiece : piece.length ≤ size)
    (hk : FirstEnd size (piece :: rest) head.length k) : k = piece.length - head.length := by
  obtain ⟨hend, hfirst⟩ := hk
  have := le_of_readEnd hend
  by_contra hne
  have := hfirst _ (.here piece rest) (by omega)
  omega

def plainHead : List UInt8 := ascii "HTTP/1.1 200 OK\r\ntransfer-encoding:chunked\r\n\r\n"

/-- One chunk, in which the reads are cut after the size line and in the payload. -/
theorem reassembled_two : ∃ r : HttpResponse, ∀ (status : ℤ) (buffer : List UInt8),
    buffer.length = 129 → ∃ response st', recvResponse (fun _ => none) (fun _ _ => []) status buffer
      ⟨[plainHead ++ ascii "2\r\n", ascii "a", ascii "b\r\n", ascii "0\r\n\r\n"], [], [], false⟩ =
        .ret (some response) st' ∧ response.body = plain (fun _ _ => []) r (ascii "ab") := by
  have hsome : (readHead plainHead).isSome := by decide +kernel
  obtain ⟨r, hhead⟩ := Option.isSome_iff_exists.1 hsome
  have htwo : IsSize (ascii "2\r\n") 2 := ⟨ascii "2", by decide, by decide, by decide, by decide⟩
  have hzero : IsSize (ascii "0\r\n") 0 := ⟨ascii "0", by decide, by decide, by decide, by decide⟩
  have hlines : readLines r [⟨ascii "2\r\n", ascii "ab"⟩] (ascii "0\r\n") = some r :=
    readLines_of_isSize hzero r _ fun c hc => by
      rw [List.mem_singleton.1 hc]
      exact ⟨htwo, by decide, by decide⟩
  have htrailer : 2 ≤ (ascii "\r\n").length := by decide
  refine ⟨r, reassembled_of_whole _ _ (by decide) (by decide) (by decide) hhead hlines htrailer
    ⟨rfl, by decide, by decide, by decide⟩ (uncut_of_first (by decide) (by decide)) ?_⟩
  intro k hk
  rw [firstEnd_of_first (by decide) (by decide) hk]
  decide

/-- The text "hi", as `gzip` compresses it. -/
def compressed : List UInt8 :=
  [31, 139, 8, 0, 0, 0, 0, 0, 2, 3, 203, 200, 4, 0, 172, 42, 147, 216, 2, 0, 0, 0]

/-- What a `ZlibStream` makes of it. -/
def inflateHi (type : ZlibType) (body : List UInt8) : List UInt8 :=
  if type = .GZIP ∧ body = compressed then ascii "hi" else []

def gzipHead : List UInt8 :=
  ascii "HTTP/1.1 200 OK\r\ncontent-encoding:gzip\r\ntransfer-encoding:chunked\r\n\r\n"

/-- **A body that is compressed** does not stay as it was sent. -/
theorem not_reassembled : ¬ ∀ (size : ℕ) (head last trailer : List UInt8) (chunks : List Chunk)
    (r r' : HttpResponse) (st : Stream), 0 < size → size + 2 < 2 ^ 31 →
    (∀ c ∈ chunks, c.payload.length ≤ size) → readHead head = some r →
    readLines r chunks last = some r' → 2 ≤ trailer.length →
    Stream.Delivers st (head ++ wire chunks (last ++ trailer)) →
    ∀ (status : ℤ) (buffer : List UInt8), buffer.length = size + 1 → ∃ response st',
      recvResponse (fun _ => none) inflateHi status buffer st = .ret (some response) st' ∧
      response.body = (chunks.map Chunk.payload).flatten := by
  intro h
  let chunks : List Chunk := [⟨ascii "16\r\n", compressed⟩]
  let st : Stream :=
    ⟨[gzipHead ++ wire chunks (ascii "0\r\n" ++ ascii "\r\n")], [], [], false⟩
  have hsome : (readHead gzipHead).isSome := by decide +kernel
  obtain ⟨r, hhead⟩ := Option.isSome_iff_exists.1 hsome
  have hplain : (readHead gzipHead).map (plain inflateHi · compressed) = some (ascii "hi") := by
    decide +kernel
  rw [hhead, Option.map_some, Option.some.injEq] at hplain
  have hsize : IsSize (ascii "16\r\n") 22 :=
    ⟨ascii "16", by decide, by decide, by decide, by decide⟩
  have hzero : IsSize (ascii "0\r\n") 0 := ⟨ascii "0", by decide, by decide, by decide, by decide⟩
  have hlines : readLines r chunks (ascii "0\r\n") = some r :=
    readLines_of_isSize hzero r _ fun c hc => by
      rw [List.mem_singleton.1 hc]
      exact ⟨hsize, by decide, by decide⟩
  have hst : Stream.Delivers st (gzipHead ++ wire chunks (ascii "0\r\n" ++ ascii "\r\n")) :=
    ⟨rfl, by decide, by decide, List.append_nil _⟩
  have hbuffer : (List.replicate 129 (0 : UInt8)).length = 128 + 1 := by simp
  obtain ⟨response, st₁, hret₁, hbody⟩ := h 128 _ _ _ chunks r r st (by decide) (by decide)
    (by decide) hhead hlines (by decide) hst 0 _ hbuffer
  obtain ⟨st₂, hret₂⟩ := recvResponse_ret (fun _ => none) inflateHi 0 (by decide) (by decide)
    (by decide) hhead hlines (by decide) hbuffer hst
    (uncut_of_first (by decide) (by decide)) fun k hk => by
      rw [firstEnd_of_first (by decide) (by decide) hk]
      decide
  rw [hret₁] at hret₂
  simp only [Out.ret.injEq, Option.some.injEq] at hret₂
  rw [hret₂.1, finish_body] at hbody
  exact absurd (hplain.symm.trans hbody) (by decide)

end HttpConnection
end Ancfl.Http
