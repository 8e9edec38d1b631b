/-
  The text of a response, and what the parser of the client reads in it.

  * `names`, `values`, `texts`: the states of the machine in a header; the names
    that the grammar treats apart have states of their own, and `spelled` tells
    how far `transfer-encoding` has come;
  * `passes_version`, `passes_status`, `passes_reason`, `passes_header`: the
    parts of the text;
  * `scan_head`: all of them, up to the empty line;
  * `find_readHead`: a key has the value that was sent last.
-/
import Ancfl.Http.RequestText
import Ancfl.Http.ResponsePieces
import Ancfl.Http.Server

namespace Ancfl.Http

open Lib Automaton

namespace ResponseText

open HttpclientParser (Action machine)
open HttpResponseParser (act read)
open RequestText (LEN_mid stdString_mid versionOf_mid sameName_iff)

/-! ## The states of a header -/

/-- Before a header: after the first line, after a header without a value, and after `connection: close`. -/
def lines : List ℕ := [20, 36, 43, 62, 113]

/-- In a name. -/
def names : List ℕ :=
  [21, 25, 26, 27, 28, 29, 30, 31, 32, 33, 34, 44, 45, 46, 47, 48, 49, 50, 51, 52, 53, 54, 55, 56, 57, 58, 59, 60,
    73, 74, 75, 76, 77, 78, 79, 90, 91, 92, 93, 94, 101, 102, 103, 104, 105, 106, 107, 108, 109, 110, 111, 117]

/-- After the colon; `transfer-encoding:` leads to 61. -/
def values : List ℕ := [22, 35, 112]

/-- In a value. -/
def texts : List ℕ := [23, 96, 97, 98, 99, 100, 119]

/-- What has been read of `transfer-encoding`, in small letters. -/
def spelled (t : ℕ) : Option (List UInt8) :=
  if 44 ≤ t ∧ t ≤ 60 then some ((ascii "transfer-encoding").take (t - 43)) else none

/-- `token` -/
def nameByte (c : UInt8) : Bool := 32 < c && c < 127 && !(ascii "()<>@,;:\\\"/[]?=\x7b\x7d").contains c

def valueByte (c : UInt8) : Bool := c != 10 && c != 13

/-- A value that no white space is taken from. -/
def valueStart (c : UInt8) : Bool := valueByte c && !isspace c

structure IsHeader (i : List UInt8 × List UInt8) : Prop where
  name_ne : i.1 ≠ []
  name : ∀ c ∈ i.1, nameByte c = true
  plain : i.1.map tolower ≠ ascii "transfer-encoding"
  value : ∀ c ∈ i.2, valueByte c = true
  start : ∀ c ∈ i.2.head?, valueStart c = true

/-- The actions at the first byte of a name, and at the end of a value. -/
def starts : List (List Action) :=
  [[.start_field], [.write_connection_close, .start_field], [.start_value, .start_field]]

def ends : List (List Action) := [[.write_value], [.write_content_len, .write_value]]

/-- What the machine does with the bytes of a name. -/
def ReadsName (c : UInt8) : Prop := nameByte c = true →
  (∀ t ∈ lines, ∃ x ∈ machine.next t c, x.1 ∈ starts ∧ x.2 ∈ names ∧ ∀ u ∈ spelled x.2, u = [tolower c]) ∧
    ∀ t ∈ names, ∃ x ∈ machine.next t c, x.1 = [] ∧ x.2 ∈ names ∧
      ∀ u ∈ spelled x.2, ∃ v ∈ spelled t, u = v ++ [tolower c]

instance {c : UInt8} : Decidable (ReadsName c) := inferInstanceAs (Decidable (_ → _ ∧ _))

theorem reads_name (c : UInt8) : ReadsName c := by
  revert c
  refine forall_byte ?_
  decide +kernel

/-- What it does with the bytes of a value. -/
def ReadsValue (c : UInt8) : Prop :=
  (valueStart c = true → ∀ t ∈ values, ∃ x ∈ machine.next t c, x.1 = [.start_value] ∧ x.2 ∈ texts) ∧
    (valueByte c = true → ∀ t ∈ texts, ∃ x ∈ machine.next t c, x.1 = [] ∧ x.2 ∈ texts)

instance {c : UInt8} : Decidable (ReadsValue c) := inferInstanceAs (Decidable (_ ∧ _))

theorem reads_value (c : UInt8) : ReadsValue c := by
  revert c
  refine forall_byte ?_
  decide +kernel

/-- What it does between them, and at the end of the line. -/
theorem reads_colon : (∀ t ∈ names, ∃ x ∈ machine.next t 58, x.1 = [.write_field] ∧
    (x.2 ∈ values ∨ t = 60)) ∧ ∀ t ∈ values, machine.next t 32 = some ([.start_value], t) := by
  decide +kernel

theorem reads_end : (∀ t ∈ texts, ∃ x ∈ machine.next t 13, x.1 ∈ ends ∧
      ∃ y ∈ machine.next x.2 10, y.1 = [] ∧ (y.2 = 20 ∨ y.2 = 43)) ∧
    ∀ t ∈ values, ∃ x ∈ machine.next t 13, x.1 = [.start_value, .write_value] ∧
      ∃ y ∈ machine.next x.2 10, y.1 = [] ∧ y.2 ∈ lines := by
  decide +kernel

/-! ## What is read -/

/-- The parser has read `d`, without an error, and no sign of chunks. -/
structure HasRead (s : HttpResponseParser) (d : HttpResponse) : Prop where
  data : s.data = d
  error : s.error = 0
  whole : s.parser.chunked = false

/-- A piece of the text of a response. -/
abbrev PassesText (w : List UInt8) (cs cs' : ℕ) (f : HttpResponse → HttpResponse) : Prop :=
  Passes machine read HasRead w cs cs' f

variable {W pre w rest name value : List UInt8} {p cs : ℕ} {acts : List Action} {s : HttpResponseParser}
  {d : HttpResponse}

theorem perform_starts (hacts : acts ∈ starts) (hs : HasRead s d) : acts.any machine.stops = false ∧
    ∃ s', Scanner.perform (read W) p acts s = .ok s' ∧ HasRead s' d ∧ s'.parser.field_start = p := by
  simp only [starts, List.mem_cons, List.not_mem_nil, or_false] at hacts
  rcases hacts with rfl | rfl | rfl
  · exact ⟨rfl, _, rfl, ⟨hs.data, hs.error, hs.whole⟩, rfl⟩
  · exact ⟨rfl, _, rfl, ⟨hs.data, hs.error, hs.whole⟩, rfl⟩
  · exact ⟨rfl, _, rfl, ⟨hs.data, hs.error, hs.whole⟩, rfl⟩

/-- A header is set when both of its parts have been read. -/
theorem read_write_value (hs : HasRead s d) (hname : stdString W s.parser.field_start s.parser.field_len = .ok name)
    (hlen : s.parser.field_len ≠ 0) (hvalue : stdString W s.parser.mark (LEN s.parser.mark p) = .ok value)
    (hle : (s.parser.field_start + s.parser.field_len : ℤ) ≤ p) :
    read W .write_value p s = .ok { s with data := d.setHeader name value } := by
  have hset : s.on_response_http_field W s.parser.field_start s.parser.field_len s.parser.mark (LEN s.parser.mark p) =
      .ok { s with data := d.setHeader name value } := by
    rw [HttpResponseParser.on_response_http_field, if_neg hlen, hname, hvalue, hs.data]
    rfl
  exact (if_neg fun h => absurd h.2 (by omega)).trans hset

theorem perform_ends (hacts : acts ∈ ends) (hs : HasRead s d)
    (hname : stdString W s.parser.field_start s.parser.field_len = .ok name) (hlen : s.parser.field_len ≠ 0)
    (hvalue : stdString W s.parser.mark (LEN s.parser.mark p) = .ok value)
    (hle : (s.parser.field_start + s.parser.field_len : ℤ) ≤ p) : acts.any machine.stops = false ∧
      ∃ s', Scanner.perform (read W) p acts s = .ok s' ∧ HasRead s' (d.setHeader name value) := by
  simp only [ends, List.mem_cons, List.not_mem_nil, or_false] at hacts
  rcases hacts with rfl | rfl
  · exact ⟨rfl, _, perform_ok (read_write_value hs hname hlen hvalue hle), rfl, hs.error, hs.whole⟩
  · have hs' : HasRead { s with parser :=
        { s.parser with content_len := toInt32 (strtol 10 (W.drop s.parser.mark)) } } d :=
      ⟨hs.data, hs.error, hs.whole⟩
    exact ⟨rfl, _, (perform_ok rfl).trans (perform_ok (read_write_value hs' hname hlen hvalue hle)), rfl, hs.error,
      hs.whole⟩

/-! ## Headers -/

theorem scan_name (hne : name ≠ []) (hname : ∀ c ∈ name, nameByte c = true)
    (hplain : name.map tolower ≠ ascii "transfer-encoding") (hcs : cs ∈ lines) : ∃ t ∈ values,
      ∀ (W rest : List UInt8) (p : ℕ) (s : HttpResponseParser) (d : HttpResponse), HasRead s d →
        ∃ s', HasRead s' d ∧ s'.parser.field_start = p ∧ s'.parser.field_len = LEN p (p + name.length) ∧
          machine.scan (read W) (name ++ 58 :: rest) p cs s =
            machine.scan (read W) rest (p + name.length + 1) t s' := by
  obtain ⟨c, name, rfl⟩ := List.exists_cons_of_ne_nil hne
  obtain ⟨⟨acts, t₀⟩, hfirst, hacts, ht₀, hspelled⟩ := (reads_name c (hname c (by simp))).1 cs hcs
  obtain ⟨t, hrun, ht, hword⟩ : ∃ t, run (quiet machine) name t₀ = some t ∧ t ∈ names ∧
      ∀ u ∈ spelled t, u = ([c] ++ name).map tolower := by
    refine run_keeps (P := fun w t => t ∈ names ∧ ∀ u ∈ spelled t, u = w.map tolower) (fun b hb w t ht => ?_)
      ⟨ht₀, hspelled⟩
    obtain ⟨⟨acts, t'⟩, hnext, rfl, ht', hstep⟩ := (reads_name b (hname b (by simp [hb]))).2 t ht.1
    refine ⟨t', ?_, ht', fun u hu => ?_⟩
    · rw [quiet, Option.mem_def.1 hnext]
    · obtain ⟨v, hv, rfl⟩ := hstep u hu
      rw [ht.2 v hv, List.map_append, List.map_singleton]
  obtain ⟨⟨acts', t'⟩, hcolon, rfl, ht'⟩ := reads_colon.1 t ht
  have ht' : t' ∈ values := ht'.resolve_right fun h => hplain (hword _ (by rw [h]; rfl)).symm
  refine ⟨t', ht', fun W rest p s d hs => ?_⟩
  obtain ⟨hstops, s₁, hperform, hs₁, hstart⟩ := perform_starts (W := W) (p := p) hacts hs
  refine ⟨{ s₁ with parser := { s₁.parser with field_len := LEN p (p + (c :: name).length) } },
    ⟨hs₁.data, hs₁.error, hs₁.whole⟩, hstart, rfl, ?_⟩
  have hlen : p + 1 + name.length = p + (c :: name).length := by
    rw [List.length_cons]
    omega
  rw [List.cons_append, scan_step (Option.mem_def.1 hfirst) hstops hperform, scan_quiet _ hrun, hlen]
  refine scan_step (Option.mem_def.1 hcolon) rfl ((perform_ok ?_).trans rfl)
  rw [← hstart]
  rfl

/-- The value of a header, with the end of the line. -/
theorem scan_value {t : ℕ} (ht : t ∈ values) (hvalue : ∀ c ∈ value, valueByte c = true)
    (hstart : ∀ c ∈ value.head?, valueStart c = true) : ∃ cs' ∈ lines, (value ≠ [] → cs' = 20 ∨ cs' = 43) ∧
      ∀ (pre rest name : List UInt8) (s : HttpResponseParser) (d : HttpResponse), HasRead s d →
        stdString (pre ++ (value ++ 13 :: 10 :: rest)) s.parser.field_start s.parser.field_len = .ok name →
        s.parser.field_len ≠ 0 → (s.parser.field_start + s.parser.field_len : ℤ) ≤ pre.length →
        ∃ s', HasRead s' (d.setHeader name value) ∧
          machine.scan (read (pre ++ (value ++ 13 :: 10 :: rest))) (value ++ 13 :: 10 :: rest) pre.length t s =
            machine.scan (read (pre ++ (value ++ 13 :: 10 :: rest))) rest (pre.length + value.length + 2) cs' s' := by
  have hmark {pre : List UInt8} {s : HttpResponseParser} {d : HttpResponse} (hs : HasRead s d) :
      HasRead { s with parser := { s.parser with mark := pre.length } } d :=
    ⟨hs.data, hs.error, hs.whole⟩
  cases value with
  | nil =>
    obtain ⟨⟨acts, x⟩, hcr, rfl, ⟨acts', cs'⟩, hlf, rfl, hcs'⟩ := reads_end.2 t ht
    refine ⟨cs', hcs', fun h => absurd rfl h, fun pre rest name s d hs hname hlen hle => ?_⟩
    refine ⟨_, ?_, (scan_step (Option.mem_def.1 hcr) rfl ((perform_ok rfl).trans
      (perform_ok (read_write_value (hmark hs) hname hlen stdString_mid hle)))).trans
        (scan_step (Option.mem_def.1 hlf) rfl rfl)⟩
    exact ⟨rfl, hs.error, hs.whole⟩
  | cons c value =>
    obtain ⟨⟨acts, t₀⟩, hfirst, rfl, ht₀⟩ := (reads_value c).1 (hstart c rfl) t ht
    obtain ⟨t₁, hrun, ht₁⟩ : ∃ t₁, run (quiet machine) value t₀ = some t₁ ∧ t₁ ∈ texts := by
      refine run_keeps (P := fun _ t => t ∈ texts) (u := []) (fun b hb _ t ht => ?_) ht₀
      obtain ⟨⟨acts, t'⟩, hnext, rfl, ht'⟩ := (reads_value b).2 (hvalue b (by simp [hb])) t ht
      exact ⟨t', by rw [quiet, Option.mem_def.1 hnext], ht'⟩
    obtain ⟨⟨acts, x⟩, hcr, hacts, ⟨acts', cs'⟩, hlf, rfl, hcs'⟩ := reads_end.1 t₁ ht₁
    have hmem : cs' ∈ lines := by
      rcases hcs' with rfl | rfl
      · decide
      · decide
    refine ⟨cs', hmem, fun _ => hcs', fun pre rest name s d hs hname hlen hle => ?_⟩
    have hle' : (s.parser.field_start + s.parser.field_len : ℤ) ≤ (pre.length + (c :: value).length : ℕ) := by
      rw [Nat.cast_add]
      omega
    obtain ⟨hstops, s', hperform, hs'⟩ := perform_ends hacts (hmark hs) hname hlen stdString_mid hle'
    have hpos : pre.length + 1 + value.length = pre.length + (c :: value).length := by
      rw [List.length_cons]
      omega
    refine ⟨s', hs', ?_⟩
    rw [List.cons_append, scan_step (Option.mem_def.1 hfirst) rfl (perform_ok rfl), scan_quiet _ hrun, hpos]
    exact (scan_step (Option.mem_def.1 hcr) hstops hperform).trans (scan_step (Option.mem_def.1 hlf) rfl rfl)

/-- A header, as `dump` writes it. -/
def line (i : List UInt8 × List UInt8) : List UInt8 := i.1 ++ ascii ": " ++ i.2 ++ ascii "\r\n"

theorem passes_header {i : List UInt8 × List UInt8} (hi : IsHeader i) (hcs : cs ∈ lines) :
    ∃ cs' ∈ lines, (i.2 ≠ [] → cs' = 20 ∨ cs' = 43) ∧ PassesText (line i) cs cs' fun d => d.setHeader i.1 i.2 := by
  obtain ⟨name, value⟩ := i
  obtain ⟨hne, hname, hplain, hvalue, hstart⟩ := hi
  dsimp only at hne hname hplain hvalue hstart
  obtain ⟨t, ht, hnamed⟩ := scan_name hne hname hplain hcs
  obtain ⟨cs', hcs', hcase, hvalued⟩ := scan_value ht hvalue hstart
  refine ⟨cs', hcs', hcase, fun pre rest s d hs => ?_⟩
  have htext : line (name, value) ++ rest = name ++ 58 :: 32 :: (value ++ 13 :: 10 :: rest) := by
    have hcolon : ascii ": " = [58, 32] := rfl
    have hcrlf : ascii "\r\n" = [13, 10] := rfl
    rw [line, hcolon, hcrlf]
    simp
  have hsplit : pre ++ (name ++ 58 :: 32 :: (value ++ 13 :: 10 :: rest)) =
      (pre ++ name ++ [58, 32]) ++ (value ++ 13 :: 10 :: rest) := by simp
  have hlength : (pre ++ name ++ [58, 32]).length = pre.length + name.length + 2 := by
    rw [List.length_append, List.length_append]
    rfl
  rw [htext]
  obtain ⟨s₁, hs₁, hstart₁, hlen₁, hscan₁⟩ :=
    hnamed (pre ++ (name ++ 58 :: 32 :: (value ++ 13 :: 10 :: rest))) (32 :: (value ++ 13 :: 10 :: rest)) pre.length s d hs
  have hs₂ : HasRead { s₁ with parser := { s₁.parser with mark := pre.length + name.length + 1 } } d :=
    ⟨hs₁.data, hs₁.error, hs₁.whole⟩
  have hstring : stdString (pre ++ (name ++ 58 :: 32 :: (value ++ 13 :: 10 :: rest))) s₁.parser.field_start
      s₁.parser.field_len = .ok name := by
    rw [hstart₁, hlen₁]
    exact stdString_mid
  have hpos : 0 < name.length := List.length_pos_iff.2 hne
  rw [hsplit] at hscan₁ hstring ⊢
  obtain ⟨s₃, hs₃, hscan₃⟩ := hvalued (pre ++ name ++ [58, 32]) rest name _ d hs₂ hstring
    (by rw [hlen₁, LEN_mid]; omega) (by rw [hstart₁, hlen₁, LEN_mid, hlength]; omega)
  have hend : (pre ++ line (name, value)).length = (pre ++ name ++ [58, 32]).length + value.length + 2 := by
    have hcrlf : (ascii "\r\n").length = 2 := rfl
    have hcolon : (ascii ": ").length = 2 := rfl
    simp only [line, List.length_append, hcrlf, hcolon, hlength]
    omega
  refine ⟨s₃, hs₃, ?_⟩
  rw [hscan₁, hend, ← hscan₃, hlength]
  exact scan_step (reads_colon.2 t ht) rfl (perform_ok rfl)

/-! ## The first line -/

/-- What the machine does with the bytes of the first line. -/
def ReadsLine (c : UInt8) : Prop :=
  (isDigit 10 c = true → machine.next 16 c = some ([.mark], 17) ∧ machine.next 17 c = some ([], 17)) ∧
    (valueByte c = true → machine.next 18 c = some ([.mark], 19) ∧ machine.next 19 c = some ([], 19))

instance {c : UInt8} : Decidable (ReadsLine c) := inferInstanceAs (Decidable (_ ∧ _))

theorem reads_line (c : UInt8) : ReadsLine c := by
  revert c
  refine forall_byte ?_
  decide +kernel

theorem passes_version {v : UInt8} (hv : v = 0x11 ∨ v = 0x10) :
    PassesText (ascii "HTTP/" ++ decimal (v >>> 4).toNat ++ ascii "." ++ decimal (v &&& 0x0F).toNat ++ [32]) 1 16
      fun d => { d with version := v } := by
  have hword : ∀ w ∈ [ascii "HTTP/1.1", ascii "HTTP/1.0"], run (enter machine 1 [.mark]) w none = some (some 15) := by
    decide +kernel
  have hline {w : List UInt8} (hw : w ∈ [ascii "HTTP/1.1", ascii "HTTP/1.0"]) (hlen : w.length = 8)
      (hversion : ∀ rest, versionOf (w ++ rest) 0 8 = some v) :
      PassesText (w ++ [32]) 1 16 fun d => { d with version := v } := by
    have hne : w ≠ [] := by
      rintro rfl
      cases hlen
    have hspace : machine.next 15 32 = some ([.http_version], 16) := rfl
    refine passes_element hne (hword w hw) rfl hspace rfl fun pre rest s d hs => ?_
    refine ⟨_, _, rfl, (perform_ok rfl).trans rfl, ?_⟩
    simp only [HttpResponseParser.on_response_version, versionOf_mid hlen hversion]
    exact ⟨by rw [hs.data], hs.error, hs.whole⟩
  rcases hv with rfl | rfl
  · exact hline (w := ascii "HTTP/1.1") (by decide) (by decide) fun rest => rfl
  · exact hline (w := ascii "HTTP/1.0") (by decide) (by decide) fun rest => rfl

theorem passes_status {n : ℤ} (hlow : -(2 ^ 31) ≤ n) (hhigh : n < 2 ^ 31) :
    PassesText (decimal (n % 2 ^ 32).toNat ++ [32]) 16 18 fun d => { d with status := n } := by
  have hword : run (enter machine 16 [.mark]) (decimal (n % 2 ^ 32).toNat) none = some (some 17) := by
    have hdigit : ∀ c ∈ decimal (n % 2 ^ 32).toNat, isDigit 10 c = true := isDigit_of_decimal
    obtain ⟨c, w, hw⟩ := List.exists_cons_of_ne_nil (decimal_ne_nil (n := (n % 2 ^ 32).toNat))
    rw [hw] at hdigit ⊢
    exact run_enter_loop ((reads_line c).1 (hdigit c (by simp))).1 fun b hb =>
      ((reads_line b).1 (hdigit b (by simp [hb]))).2
  have hspace : machine.next 17 32 = some ([.status_code], 18) := rfl
  refine passes_element decimal_ne_nil hword rfl hspace rfl fun pre rest s d hs => ?_
  refine ⟨_, _, rfl, (perform_ok rfl).trans rfl, ?_⟩
  have hnumber : toInt32 (strtol 10 ((pre ++ (decimal (n % 2 ^ 32).toNat ++ 32 :: rest)).drop pre.length)) = n := by
    have hlt : n % 2 ^ 32 < 2 ^ 32 := Int.emod_lt_of_pos n (by decide)
    have hback : toInt32 (n % 2 ^ 32) = toInt32 n := Int.emod_bmod n _
    rw [List.drop_left, strtol_ten decimal_ne_nil isDigit_of_decimal, digits_decimal, min_eq_left (by omega),
      Int.toNat_of_nonneg (Int.emod_nonneg n (by decide)), hback, toInt32_of_lt hlow hhigh]
    rintro c u ⟨rfl, rfl⟩
    rfl
  refine ⟨?_, hs.error, hs.whole⟩
  rw [← hs.data]
  exact congrArg (fun x => { s.data with status := x }) hnumber

theorem passes_reason (hne : w ≠ []) (hw : ∀ c ∈ w, valueByte c = true) :
    PassesText (w ++ [13] ++ [10]) 18 20 fun d => { d with reason := w } := by
  have hword : run (enter machine 18 [.mark]) w none = some (some 19) := by
    obtain ⟨c, w, rfl⟩ := List.exists_cons_of_ne_nil hne
    exact run_enter_loop ((reads_line c).2 (hw c (by simp))).1 fun b hb => ((reads_line b).2 (hw b (by simp [hb]))).2
  have hcr : machine.next 19 13 = some ([.reason_phrase], 24) := rfl
  refine (passes_element hne hword rfl hcr rfl fun pre rest s d hs => ?_).append
    (passes_byte rfl rfl fun pre rest s d hs => ⟨s, rfl, hs⟩)
  have hs₁ : HasRead { s with parser := { s.parser with mark := pre.length } } d := ⟨hs.data, hs.error, hs.whole⟩
  have hreason : read (pre ++ (w ++ 13 :: rest)) .reason_phrase (pre.length + w.length)
      { s with parser := { s.parser with mark := pre.length } } =
        .ok { s with parser := { s.parser with mark := pre.length }, data := { s.data with reason := w } } := by
    refine (if_neg fun h => by cases h.1).trans ?_
    rw [act, HttpResponseParser.on_response_reason, stdString_mid]
    rfl
  exact ⟨_, _, rfl, (perform_ok hreason).trans rfl, by rw [hs.data], hs₁.error, hs₁.whole⟩

/-- The end of the headers. -/
theorem scan_end (W rest : List UInt8) (p : ℕ) (hcs : cs = 20 ∨ cs = 43) (hs : HasRead s d) : ∃ s', HasRead s' d ∧
    machine.scan (read W) (crlf ++ rest) p cs s = .ok (.stops HttpclientParser.first_final (p + 2) s') := by
  obtain ⟨acts, s₁, hnext, hstops, hperform, hs₁⟩ : ∃ acts s₁, machine.next cs 13 = some (acts, 3) ∧
      acts.any machine.stops = false ∧ Scanner.perform (read W) p acts s = .ok s₁ ∧ HasRead s₁ d := by
    rcases hcs with rfl | rfl
    · exact ⟨[], s, rfl, rfl, rfl, hs⟩
    · exact ⟨[.write_connection_close], _, rfl, rfl, rfl, hs.data, hs.error, hs.whole⟩
  refine ⟨{ s₁ with parser := { s₁.parser with body_start := p + 1 + 1 } }, ⟨hs₁.data, hs₁.error, hs₁.whole⟩, ?_⟩
  refine (scan_step hnext hstops hperform).trans ?_
  have hdone : Scanner.perform (read W) (p + 1) [.done] s₁ =
      .ok { s₁ with parser := { s₁.parser with body_start := p + 1 + 1 } } := rfl
  have hlf : machine.next 3 10 = some ([.done], 120) := rfl
  refine (Scanner.scan_cons hlf).trans ?_
  rw [hdone]
  rfl

/-! ## The head -/

theorem foldl_setHeader (l : List (List UInt8 × List UInt8)) (d : HttpResponse) :
    l.foldl (fun d i => d.setHeader i.1 i.2) d =
      { d with headers := d.headers.setAll CaseInsensitiveLess_trans l } := by
  induction l generalizing d with
  | nil => rfl
  | cons i l ih => exact ih (d.setHeader i.1 i.2)

/-- Headers of which the last has a value. -/
theorem passes_headers {l : List (List UInt8 × List UInt8)} {last : List UInt8 × List UInt8}
    (hl : ∀ i ∈ l ++ [last], IsHeader i) (hlast : last.2 ≠ []) : ∃ cs', (cs' = 20 ∨ cs' = 43) ∧
      PassesText ((l ++ [last]).flatMap line) 20 cs' fun d =>
        { d with headers := d.headers.setAll CaseInsensitiveLess_trans (l ++ [last]) } := by
  have hline : ∀ i ∈ l, ∀ cs ∈ lines, ∃ cs' ∈ lines, PassesText (line i) cs cs' fun d => d.setHeader i.1 i.2 := by
    intro i hi cs hcs
    obtain ⟨cs', hcs', -, h⟩ := passes_header (hl i (by simp [hi])) hcs
    exact ⟨cs', hcs', h⟩
  obtain ⟨cs₁, hcs₁, h₁⟩ := Passes.flatMap_mem hline (show 20 ∈ lines by decide)
  obtain ⟨cs₂, -, hcase, h₂⟩ := passes_header (hl last (by simp)) hcs₁
  refine ⟨cs₂, hcase hlast, ?_⟩
  have htext : (l ++ [last]).flatMap line = l.flatMap line ++ line last := by simp
  rw [htext]
  refine (h₁.append h₂).congr fun d => ?_
  rw [Function.comp_apply, foldl_setHeader]
  simp [OrderedMap.setAll, HttpResponse.setHeader]

end ResponseText

namespace HttpResponse

open ResponseText (line)

def connection (r : HttpResponse) : List UInt8 := if r.close then ascii "close" else ascii "keep-alive"

def reasonText (r : HttpResponse) : List UInt8 := if r.reason = [] then HttpStatusToString r.status else r.reason

/-- The headers but `connection`, which `dump` writes on its own. -/
def otherHeaders (r : HttpResponse) : List (List UInt8 × List UInt8) :=
  r.headers.entries.filter fun i => strcasecmp (cStr i.1) (ascii "connection") ≠ .eq

/-- The headers in the text, in order, but for the last. -/
def firstHeaders (r : HttpResponse) : List (List UInt8 × List UInt8) :=
  r.otherHeaders ++ r.cookies.map (fun i => (ascii "Set-Cookie", i)) ++
    if r.body = [] then [] else [(ascii "connection", r.connection)]

def lastHeader (r : HttpResponse) : List UInt8 × List UInt8 :=
  if r.body = [] then (ascii "connection", r.connection) else (ascii "content-length", Http.decimal r.body.length)

def sentHeaders (r : HttpResponse) : List (List UInt8 × List UInt8) := r.firstHeaders ++ [r.lastHeader]

/-- The text up to the empty line. -/
def head (r : HttpResponse) : List UInt8 :=
  (ascii "HTTP/" ++ Http.decimal (r.version >>> 4).toNat ++ ascii "." ++ Http.decimal (r.version &&& 0x0F).toNat ++
    ascii " ") ++ (Http.decimal (r.status % 2 ^ 32).toNat ++ ascii " ") ++ (r.reasonText ++ crlf) ++
    r.sentHeaders.flatMap line

theorem dump_eq {r : HttpResponse} (h : r.websocket = false) : r.dump = r.head ++ (crlf ++ r.body) := by
  have hcrlf : ascii "\r\n" = crlf := rfl
  have hend : ascii "\r\n\r\n" = crlf ++ crlf := rfl
  have hcolon : ascii "connection: " = ascii "connection" ++ ascii ": " := rfl
  have hcolon' : ascii "content-length: " = ascii "content-length" ++ ascii ": " := rfl
  have hcolon'' : ascii "Set-Cookie: " = ascii "Set-Cookie" ++ ascii ": " := rfl
  have hother (l : List (List UInt8 × List UInt8)) : l.flatMap (dumpHeader false) =
      (l.filter fun i => strcasecmp (cStr i.1) (ascii "connection") ≠ .eq).flatMap line := by
    induction l with
    | nil => rfl
    | cons i l ih =>
      rw [List.flatMap_cons, ih, List.filter_cons, dumpHeader]
      by_cases hconn : strcasecmp (cStr i.1) (ascii "connection") = .eq
      · simp [hconn]
      · simp [hconn, line]
  rw [dump, h, hother, head, sentHeaders, firstHeaders, otherHeaders, lastHeader, reasonText, connection, hend, hcrlf,
    hcolon, hcolon', hcolon'']
  by_cases hbody : r.body = []
  · simp [hbody, line, List.flatMap_map, hcrlf]
  · simp [hbody, line, List.flatMap_map, hcrlf]

/-- The elements of the response are words of the grammar, it is sent in one piece, and only a response with a body
    says how long it is. -/
structure Sendable (r : HttpResponse) : Prop where
  websocket : r.websocket = false
  status : -(2 ^ 31) ≤ r.status ∧ r.status < 2 ^ 31
  version : r.version = 0x11 ∨ r.version = 0x10
  reason : ∀ c ∈ r.reason, ResponseText.valueByte c = true
  headers : ∀ i ∈ r.headers.entries, ResponseText.IsHeader i
  cookies : ∀ i ∈ r.cookies, ResponseText.IsHeader (ascii "Set-Cookie", i)
  length : r.body = [] → r.headers.find (ascii "content-length") = none
  fits : r.dump.length < 2 ^ 31

/-- What the parser has read of the text, without the body. -/
def readHead (r : HttpResponse) : HttpResponse where
  status := r.status
  version := r.version
  reason := r.reasonText
  headers := OrderedMap.setAll CaseInsensitiveLess_trans .empty r.sentHeaders

theorem length_dump {r : HttpResponse} (h : r.websocket = false) : r.dump.length = r.head.length + 2 + r.body.length := by
  rw [dump_eq h, List.length_append, List.length_append, Nat.add_assoc]
  rfl

end HttpResponse

namespace ResponseText

open HttpclientParser (machine)
open HttpResponseParser (read)

variable {r : HttpResponse}

/-- The headers that `dump` adds. -/
theorem isHeader_own {name value : List UInt8} (hname : name ∈ [ascii "connection", ascii "content-length"])
    (hvalue : ∀ c ∈ value, valueStart c = true) : IsHeader (name, value) := by
  have hnames : ∀ name ∈ [ascii "connection", ascii "content-length"], name ≠ [] ∧ (∀ c ∈ name, nameByte c = true) ∧
      name.map tolower ≠ ascii "transfer-encoding" := by
    decide +kernel
  obtain ⟨hne, hbytes, hplain⟩ := hnames name hname
  exact ⟨hne, hbytes, hplain, fun c hc => (Bool.and_eq_true_iff.1 (hvalue c hc)).1, fun c hc =>
    hvalue c (List.mem_of_mem_head? hc)⟩

theorem isHeader_connection (r : HttpResponse) : IsHeader (ascii "connection", r.connection) ∧ r.connection ≠ [] := by
  rw [HttpResponse.connection]
  split_ifs
  · exact ⟨isHeader_own List.mem_cons_self (by decide +kernel), by decide⟩
  · exact ⟨isHeader_own List.mem_cons_self (by decide +kernel), by decide⟩

theorem isHeader_sent (h : r.Sendable) : (∀ i ∈ r.sentHeaders, IsHeader i) ∧ r.lastHeader.2 ≠ [] := by
  have hlast : IsHeader r.lastHeader ∧ r.lastHeader.2 ≠ [] := by
    rw [HttpResponse.lastHeader]
    split_ifs
    · exact isHeader_connection r
    · refine ⟨isHeader_own (List.mem_cons_of_mem _ List.mem_cons_self) fun c hc => ?_, decimal_ne_nil⟩
      refine forall_byte (P := fun c => isDigit 10 c = true → valueStart c = true) ?_ c (isDigit_of_decimal c hc)
      decide +kernel
  refine ⟨fun i hi => ?_, hlast.2⟩
  simp only [HttpResponse.sentHeaders, HttpResponse.firstHeaders, List.mem_append, List.mem_map] at hi
  rcases hi with ((hi | ⟨c, hc, rfl⟩) | hi) | hi
  · exact h.headers i (List.mem_of_mem_filter hi)
  · exact h.cookies c hc
  · split_ifs at hi
    · cases hi
    · exact List.mem_singleton.1 hi ▸ (isHeader_connection r).1
  · exact List.mem_singleton.1 hi ▸ hlast.1

theorem reasonText_bytes (h : r.Sendable) : r.reasonText ≠ [] ∧ ∀ c ∈ r.reasonText, valueByte c = true := by
  have htexts : ∀ x ∈ "<unknown>" :: HTTP_STATUS_MAP.map Prod.snd, ascii x ≠ [] ∧ ∀ c ∈ ascii x, valueByte c = true := by
    have hall : (("<unknown>" :: HTTP_STATUS_MAP.map Prod.snd).all fun x =>
        !(ascii x).isEmpty && (ascii x).all valueByte) = true := by
      decide +kernel
    intro x hx
    have hx := Bool.and_eq_true_iff.1 (List.all_eq_true.1 hall x hx)
    refine ⟨fun hnil => ?_, List.all_eq_true.1 hx.2⟩
    rw [hnil] at hx
    cases hx.1
  rw [HttpResponse.reasonText]
  split_ifs with hreason
  · rw [HttpStatusToString]
    split
    · rename_i x hx
      exact htexts x.2 (List.mem_cons_of_mem _ (List.mem_map_of_mem (List.mem_of_find?_eq_some hx)))
    · exact htexts _ List.mem_cons_self
  · exact ⟨hreason, h.reason⟩

theorem hasRead_new (status : ℤ) : HasRead (HttpResponseParser.new status).enter {} := ⟨rfl, rfl, rfl⟩

/-- **The text of a response up to the body.** -/
theorem scan_head (h : r.Sendable) (status : ℤ) : ∃ s, HasRead s r.readHead ∧
    machine.scan (read (r.head ++ crlf)) (r.head ++ crlf) 0 1 (HttpResponseParser.new status).enter =
      .ok (.stops HttpclientParser.first_final (r.head ++ crlf).length s) := by
  obtain ⟨hne, hbytes⟩ := reasonText_bytes h
  obtain ⟨hsent, hlast⟩ := isHeader_sent h
  obtain ⟨cs', hcs', hheaders⟩ := passes_headers hsent hlast
  have htext : r.reasonText ++ [13] ++ [10] = r.reasonText ++ crlf := by rw [List.append_assoc]; rfl
  have hreason := passes_reason hne hbytes
  rw [htext] at hreason
  have hpasses : PassesText r.head 1 cs' fun d => { d with
      status := r.status, version := r.version, reason := r.reasonText
      headers := d.headers.setAll CaseInsensitiveLess_trans r.sentHeaders } :=
    (((passes_version h.version).append (passes_status h.status.1 h.status.2)).append hreason).append hheaders
  obtain ⟨s, hs, hhead⟩ := hpasses [] crlf _ _ (hasRead_new status)
  obtain ⟨s', hs', hend⟩ := scan_end (r.head ++ crlf) [] r.head.length hcs' hs
  have hlength : (r.head ++ crlf).length = r.head.length + 2 := List.length_append
  rw [List.append_nil] at hend
  rw [hlength]
  exact ⟨s', hs', hhead.trans hend⟩

/-! ## What the receiver has -/

/-- Of headers with one name the last one counts. -/
theorem find?_cookies (name : List UInt8) (l : List (List UInt8)) (key : List UInt8) :
    (((l.map fun i => (name, i)).reverse.find? fun x => OrderedMap.same CaseInsensitiveLess x.1 key).map Prod.snd) =
      if OrderedMap.same CaseInsensitiveLess name key then l.getLast? else none := by
  rw [← List.map_reverse, List.find?_map, Option.map_map, List.getLast?_eq_head?_reverse]
  split_ifs with hkey
  · have hall : (fun x => OrderedMap.same CaseInsensitiveLess x.1 key) ∘ (fun i : List UInt8 => (name, i)) =
        fun _ => true := funext fun _ => hkey
    rw [hall]
    cases l.reverse <;> rfl
  · have hall : (fun x => OrderedMap.same CaseInsensitiveLess x.1 key) ∘ (fun i : List UInt8 => (name, i)) =
        fun _ => false := funext fun _ => Bool.not_eq_true _ ▸ hkey
    rw [hall, List.find?_eq_none.2 fun _ _ => Bool.false_ne_true]
    rfl

/-- The header of a response, as its receiver looks it up. -/
def sentHeader (r : HttpResponse) (key : List UInt8) : Option (List UInt8) :=
  if r.body ≠ [] ∧ OrderedMap.same CaseInsensitiveLess (ascii "content-length") key then
    some (decimal r.body.length)
  else if OrderedMap.same CaseInsensitiveLess (ascii "connection") key then some r.connection
  else (if OrderedMap.same CaseInsensitiveLess (ascii "Set-Cookie") key then r.cookies.getLast? else none).or
    (r.headers.find key)

theorem find_readHead (r : HttpResponse) (key : List UInt8) : r.readHead.headers.find key = sentHeader r key := by
  have hother := RequestText.find?_others r.headers key
  rw [HttpResponse.readHead, OrderedMap.find_setAll CaseInsensitiveLess_same, HttpResponse.sentHeaders,
    HttpResponse.firstHeaders, List.reverse_append, List.reverse_append, List.reverse_append, List.find?_append,
    List.find?_append, List.find?_append, Option.map_or, Option.map_or, Option.map_or, HttpResponse.otherHeaders, hother,
    find?_cookies, HttpResponse.lastHeader, sentHeader]
  by_cases hbody : r.body = [] <;>
    by_cases hconnection : OrderedMap.same CaseInsensitiveLess (ascii "connection") key <;>
      by_cases hlength : OrderedMap.same CaseInsensitiveLess (ascii "content-length") key <;>
        simp [hbody, hconnection, hlength, OrderedMap.find, OrderedMap.empty]

end ResponseText

end Ancfl.Http
