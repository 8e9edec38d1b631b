/-
  The head of a chunked response, and the size lines of its chunks.

  * `readHead`, `readLine`: what the machine makes of the whole of a head, and
    of the whole of a size line, which may add headers by its extensions;
  * `readLine_digits`: a line of hexadecimal digits is read as their number;
  * `execute_line`: a call for a buffer with a whole line takes this line.
-/
import Ancfl.Http.Connection
import Ancfl.Http.ResponsePieces

namespace Ancfl.Http

open Lib HttpRequestParser

namespace HttpResponseParser

open HttpclientParser (Action Marks marking machine first_final)

/-- The head of a chunked response: the response with its headers. -/
def readHead (head : List UInt8) : Option HttpResponse :=
  match machine.scan (read head) head 0 1 (new 0).enter with
  | .ok (.stops cs H s) =>
    if cs = first_final ∧ H = head.length ∧ s.error = 0 ∧ s.parser.chunked = true then some s.data
    else none
  | _ => none

/-- A size line, for a response that has been read so far: the size, and the response. -/
def readLine (r : HttpResponse) (line : List UInt8) : Option (ℤ × HttpResponse) :=
  match machine.scan (read line) line 0 1 (fresh 0 r).enter with
  | .ok (.stops cs H s) =>
    if cs = first_final ∧ H = line.length ∧ s.error = 0 ∧
        s.parser.chunks_done = decide (s.parser.content_len ≤ 0) then
      some (s.parser.content_len, s.data)
    else none
  | _ => none

section
variable {r r' : HttpResponse} {head line data : List UInt8} {n : ℤ}

theorem of_readHead (h : readHead head = some r) : ∃ s,
    machine.scan (read head) head 0 1 (new 0).enter = .ok (.stops first_final head.length s) ∧
      s.error = 0 ∧ s.parser.chunked = true ∧ s.data = r := by
  unfold readHead at h
  split at h
  · rename_i cs H s hscan
    split_ifs at h with hcond
    obtain ⟨rfl, rfl, herror, hchunked⟩ := hcond
    exact ⟨s, hscan, herror, hchunked, Option.some.inj h⟩
  · cases h

theorem of_readLine (h : readLine r line = some (n, r')) : ∃ s,
    machine.scan (read line) line 0 1 (fresh 0 r).enter = .ok (.stops first_final line.length s) ∧
      s.error = 0 ∧ s.parser.content_len = n ∧ s.parser.chunks_done = decide (n ≤ 0) ∧
      s.data = r' := by
  unfold readLine at h
  split at h
  · rename_i cs H s hscan
    split_ifs at h with hcond
    obtain ⟨rfl, rfl, herror, hdone⟩ := hcond
    cases h
    exact ⟨s, hscan, herror, rfl, hdone, rfl⟩
  · cases h

theorem readLine_pos (h : readLine r line = some (n, r')) : 0 < line.length := by
  obtain ⟨s, hscan, -⟩ := of_readLine h
  obtain ⟨k, -, -, hpos, hle⟩ := Scanner.ends_of_scan hscan
  omega

theorem isFinished_of_final {s : HttpResponseParser} (h : s.parser.cs = first_final) :
    s.isFinished = 1 := by
  rw [isFinished, h]
  rfl

theorem hasError_of_final {s : HttpResponseParser} (h : s.parser.cs = first_final)
    (herror : s.error = 0) : s.hasError = false := by
  rw [hasError, h, herror]
  rfl

/-- **A call for a buffer with a whole size line** takes the line, and moves what comes after it to
    the front. -/
theorem execute_line {s : HttpResponseParser} {len : ℕ}
    (hline : readLine s.data line = some (n, r')) (herror : s.error = 0)
    (hlen : line.length ≤ len) (hdata : data.take line.length = line)
    (hnul : data[len]? = some 0) : ∃ s', s.execute data len true =
      .ok (line.length, s', overwrite data 0 (slice data line.length (len - line.length))) ∧
      s'.data = r' ∧ s'.error = 0 ∧ s'.parser.cs = first_final ∧ s'.parser.content_len = n ∧
      s'.parser.chunks_done = decide (n ≤ 0) := by
  obtain ⟨S, hscan, hgood, hcontent, hdone, hr⟩ := of_readLine hline
  have hpos := readLine_pos hline
  have hholds : Holds line data 0 line.length := by
    rw [Holds, Nat.sub_zero, hdata, slice, List.drop_zero, List.take_length]
  have hstart : { s with parser := httpclient_parser_init s.parser.status } =
      fresh s.parser.status s.data := by
    rw [fresh, ← herror]
  have hcall := httpclient_parser_execute_part (s := fresh s.parser.status s.data) hholds hnul hpos
    le_rfl (by omega) (fun hlt => absurd hlt (lt_irrefl _))
    (related_fresh line line.length 0 s.parser.status s.data)
    (fun x _ hsplit => absurd hsplit.1 (Nat.not_lt_zero _)) hscan hgood
  obtain ⟨s', hexec, -, -, hcs, hsame⟩ | ⟨_, _, _, -, hlt, -⟩ := hcall
  · refine ⟨s', ?_, hsame.data.trans hr, hsame.error.trans hgood, hcs,
      hsame.content_len.trans hcontent, hsame.chunks_done.trans hdone⟩
    rw [Nat.sub_zero] at hexec
    simp only [execute, if_true]
    rw [hstart, hexec]
    rfl
  · exact absurd hlt (lt_irrefl _)

/-! ## Hexadecimal digits -/

/-- The machine takes the first digit of a size, and the digits after it. -/
theorem next_digit {c : UInt8} (h : isDigit 16 c) :
    machine.next 1 c = some ([.mark], 2) ∧ machine.next 2 c = some ([], 2) := by
  have hbytes : ∀ k : Fin 256, isDigit 16 (UInt8.ofNat k) →
      machine.next 1 (UInt8.ofNat k) = some ([.mark], 2) ∧
        machine.next 2 (UInt8.ofNat k) = some ([], 2) := by
    decide +kernel
  have hc := hbytes ⟨c.toNat, c.toNat_lt⟩
  rw [UInt8.ofNat_toNat] at hc
  exact hc h

theorem scan_digits {w v : List UInt8} {s : HttpResponseParser} : ∀ (u : List UInt8) (p : ℕ),
    (∀ d ∈ u, isDigit 16 d) →
      machine.scan (read w) (u ++ v) p 2 s = machine.scan (read w) v (p + u.length) 2 s
  | [], _, _ => rfl
  | d :: u, p, h => by
    rw [List.cons_append, Scanner.scan_cons (next_digit (h d (by simp))).2]
    have hrest := scan_digits (w := w) (v := v) (s := s) u (p + 1)
      fun d' hd' => h d' (List.mem_cons_of_mem _ hd')
    rw [Nat.add_right_comm, Nat.add_assoc] at hrest
    exact hrest

/-- **A line of hexadecimal digits** is read as their number. -/
theorem readLine_digits (r : HttpResponse) {u : List UInt8} (hne : u ≠ [])
    (hu : ∀ d ∈ u, isDigit 16 d) (hsize : digits 16 u 0 < 2 ^ 31) :
    readLine r (u ++ [13, 10]) = some ((digits 16 u 0 : ℤ), r) := by
  have hstrtol : toInt32 (strtol 16 (u ++ [13, 10])) = digits 16 u 0 := by
    rw [strtol_digits (.inr rfl) hne hu rfl, min_eq_left (by omega), toInt32_natCast hsize]
  obtain ⟨d, u, rfl⟩ := List.exists_cons_of_ne_nil hne
  unfold readLine
  generalize hw : d :: u ++ [13, 10] = w at hstrtol ⊢
  have hscan : ∀ S, machine.scan (read w) w 0 1 S =
      machine.scan (read w) [13, 10] (u.length + 1) 2
        { S with parser := { S.parser with mark := 0 } } := by
    intro S
    nth_rewrite 2 [← hw]
    rw [List.cons_append, Scanner.scan_cons (next_digit (hu d (by simp))).1]
    have hrest := scan_digits (w := w) (v := [13, 10])
      (s := { S with parser := { S.parser with mark := 0 } }) u 1
      fun d' hd' => hu d' (List.mem_cons_of_mem _ hd')
    rw [Nat.add_comm] at hrest
    exact hrest
  have hcr : machine.next 2 13 = some ([.chunk_size], 3) := by decide
  have hlf : machine.next 3 10 = some ([.done], first_final) := by decide
  have hlength : u.length + 1 + 1 + 1 = w.length := by rw [← hw]; simp
  have hgoes : [Action.chunk_size].any machine.stops = false := by decide
  have hstops : [Action.done].any machine.stops = true := by decide
  rw [hscan, Scanner.scan_cons hcr]
  simp only [Scanner.perform, read, act, List.drop_zero, hstrtol, hgoes, Bool.false_eq_true,
    if_false, reduceCtorEq, false_and]
  rw [Scanner.scan_cons hlf]
  simp only [Scanner.perform, read, act, hstops, if_true, reduceCtorEq, false_and, if_false]
  rw [if_pos ⟨trivial, hlength, rfl, trivial⟩]
  rfl

end

end HttpResponseParser
end Ancfl.Http
