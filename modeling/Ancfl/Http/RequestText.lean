/-
  The text of a request, and what the parser reads in it.

  * `HttpRequest.dump`: the bytes of a request;
  * `Sendable`: its elements are words of the grammar;
  * `passes_method`, `passes_target`, `passes_version`, `passes_header`: the
    parts of the text, each from the state before it to the one after;
  * `passes_head`: all of them, up to the empty line;
  * `Received`: the request as its receiver has it, with the headers that
    `dump` adds;
  * `parse_dump`: the parser reads a request that is sent as what was sent.
-/
import Ancfl.Http.Decimal
import Ancfl.Http.Params
import Ancfl.Http.Segmentation
import Ancfl.Lib.Passage
import Ancfl.Uri.Grammar

namespace Ancfl.Http

open Lib Automaton

/-! ## Text -/

def HttpMethodToString (m : HttpMethod) : List UInt8 :=
  match HTTP_METHOD_MAP.find? fun x => x.1 = m with
  | some x => x.2
  | none => ascii "<unknown>"

def crlf : List UInt8 := [13, 10]

namespace HttpRequest

/-- A part of the target that is left out if it is empty, after the character before it. -/
def part (c : UInt8) (w : List UInt8) : List UInt8 := if w = [] then [] else c :: w

/-- A header in `dump`; those that it adds have a space after the colon. -/
def dumpHeader (colon : List UInt8) (i : List UInt8 × List UInt8) : List UInt8 := i.1 ++ colon ++ i.2 ++ crlf

/-- The headers but `connection`, which `dump` writes on its own unless the request is for a web socket. -/
def otherHeaders (r : HttpRequest) : List (List UInt8 × List UInt8) :=
  r.headers.entries.filter fun i => r.websocket || strcasecmp (cStr i.1) (ascii "connection") ≠ .eq

def connection (r : HttpRequest) : List UInt8 := if r.close then ascii "close" else ascii "keep-alive"

def dump (r : HttpRequest) : List UInt8 :=
  HttpMethodToString r.method ++ ascii " " ++ r.path ++ part 63 r.query ++ part 35 r.fragment ++ ascii " HTTP/" ++
    Http.decimal (r.version >>> 4).toNat ++ ascii "." ++ Http.decimal (r.version &&& 0x0F).toNat ++ crlf ++
  (if !r.websocket then dumpHeader (ascii ": ") (ascii "connection", r.connection) else []) ++
  r.otherHeaders.flatMap (dumpHeader (ascii ":")) ++
  (if r.body ≠ [] then dumpHeader (ascii ": ") (ascii "content-length", Http.decimal r.body.length) ++ crlf ++ r.body
    else crlf)

end HttpRequest

/-! ## The grammar -/

/-- `token`, but for the ends of lines, which it contains by a slip of the grammar. -/
def nameByte (c : UInt8) : Bool :=
  c != 0 && c < 127 && c != 10 && c != 13 && !(ascii "()<>@,;:\\\"/[]?=\x7b\x7d \t").contains c

def valueByte (c : UInt8) : Bool := c != 0 && c != 127 && c != 10 && c != 13

/-- A value that no white space is taken from. -/
def valueStart (c : UInt8) : Bool := valueByte c && c != 32 && c != 9

/-- `path_absolute` -/
def path_absolute : UriParser.Regex :=
  UriParser.byte '/' * UriParser.opt (UriParser.some1 UriParser.pchar *
    (UriParser.byte '/' * UriParser.segment).star)

structure IsHeader (i : List UInt8 × List UInt8) : Prop where
  name_ne : i.1 ≠ []
  name : ∀ c ∈ i.1, nameByte c = true
  value : ∀ c ∈ i.2, valueByte c = true
  start : ∀ c ∈ i.2.head?, valueStart c = true

/-- The elements of the request are words of the grammar, and only a request with a body says how long it is. -/
structure Sendable (r : HttpRequest) : Prop where
  websocket : r.websocket = false
  method : r.method ≠ .MSEARCH ∧ r.method ≠ .INVALID_METHOD
  version : r.version = 0x11 ∨ r.version = 0x10
  path : r.path ∈ path_absolute.matches'
  query : r.query ∈ UriParser.query.matches'
  fragment : r.fragment ∈ UriParser.fragment.matches'
  headers : ∀ i ∈ r.headers.entries, IsHeader i
  length : r.body = [] → r.headers.find (ascii "content-length") = none
  fits : r.dump.length < 2 ^ 31

/-! ## What is read -/

namespace RequestText

open HttpParser (Action machine)
open HttpRequestParser (act)

/-- The parser has read `d`, without an error. -/
structure HasRead (s : HttpRequestParser) (d : HttpRequest) : Prop where
  data : s.data = d
  error : s.error = 0
  xml : s.parser.xml_sent = false
  json : s.parser.json_sent = false

/-- A piece of the text of a request. -/
abbrev PassesText (relaxed : Bool) (w : List UInt8) (cs cs' : ℕ) (f : HttpRequest → HttpRequest) : Prop :=
  Passes (machine relaxed) act HasRead w cs cs' f

variable {relaxed : Bool} {W pre w rest : List UInt8} {p cs cs' : ℕ} {s : HttpRequestParser} {d : HttpRequest}

@[simp] theorem perform_cons (a : Action) (acts : List Action) : Scanner.perform (act W) p (a :: acts) s =
    match act W a p s with
    | .ok s' => Scanner.perform (act W) p acts s'
    | .error e => .error e := by
  rw [Scanner.perform]
  cases act W a p s with
  | ok s' => rfl
  | error e => rfl

@[simp] theorem perform_nil : Scanner.perform (act W) p [] s = .ok s := rfl

theorem slice_mid : slice (pre ++ (w ++ rest)) pre.length w.length = w := by
  rw [slice, List.drop_left, List.take_left]

theorem LEN_mid : LEN pre.length (pre.length + w.length) = w.length := by
  rw [LEN]
  omega

/-- The word from the mark to the byte after it. -/
theorem stdString_mid : stdString (pre ++ (w ++ rest)) pre.length (LEN pre.length (pre.length + w.length)) = .ok w := by
  rw [LEN_mid, stdString, if_neg (by omega), Int.toNat_natCast, slice_mid]

theorem versionOf_mid {v : UInt8} (hlen : w.length = 8) (hversion : ∀ rest, versionOf (w ++ rest) 0 8 = some v) :
    versionOf (pre ++ (w ++ rest)) pre.length (LEN pre.length (pre.length + w.length)) = some v := by
  rw [LEN_mid, hlen, versionOf, List.drop_left]
  exact hversion rest

/-- A byte without actions. -/
theorem passes_quiet {c : UInt8} (hnext : (machine relaxed).next cs c = some ([], cs')) :
    PassesText relaxed [c] cs cs' id :=
  passes_byte hnext rfl fun _ _ s _ hs => ⟨s, rfl, hs⟩

/-! ## The first line -/

theorem passes_method {x : HttpMethod × List UInt8} (hx : x ∈ HTTP_METHOD_MAP) (hsearch : x.1 ≠ .MSEARCH) :
    PassesText relaxed (x.2 ++ [32]) 1 3 fun d => { d with method := x.1 } := by
  have hall : ∀ x ∈ HTTP_METHOD_MAP, x.1 ≠ .MSEARCH → (x.2 ≠ [] ∧
      ∃ t ∈ (run (enter (machine relaxed) 1 [.mark]) x.2 none).join,
        (machine relaxed).next t 32 = some ([.request_method], 3)) ∧
      CharsToHttpMethod (x.2 ++ [32]) = x.1 ∧ x.1 ≠ .INVALID_METHOD ∧ (x.2 ++ [32]).take 2 ≠ [77, 32] := by
    cases relaxed <;> decide +kernel
  obtain ⟨⟨hne, t, ht, hnext⟩, hchars, hvalid, htake⟩ := hall x hx hsearch
  have hword : run (enter (machine relaxed) 1 [.mark]) x.2 none = some (some t) := Option.join_eq_some_iff.1 ht
  refine passes_element hne hword rfl hnext rfl fun pre rest s d hs => ?_
  have hcongr : CharsToHttpMethod (x.2 ++ 32 :: rest) = x.1 := by
    refine (CharsToHttpMethod_congr rest (t := []) ?_ fun v hv => ?_).trans hchars
    · rw [hchars]
      exact hvalid
    · rw [hv] at htake
      exact htake rfl
  refine ⟨_, _, rfl, rfl, ?_⟩
  simp only [HttpRequestParser.on_request_method, List.drop_left, hcongr, if_neg hvalid]
  exact ⟨by rw [hs.data], hs.error, hs.xml, hs.json⟩

/-- The states in which the path may end. -/
def EndsPath (relaxed : Bool) (t : ℕ) : Prop :=
  (machine relaxed).next t 32 = some ([.request_path, .request_uri], 4) ∧
    (machine relaxed).next t 63 = some ([.request_path], 29) ∧
      (machine relaxed).next t 35 = some ([.request_path, .request_uri], 20)

instance : Decidable (EndsPath relaxed p) := inferInstanceAs (Decidable (_ ∧ _ ∧ _))

/-- The states in which the query may end. -/
def EndsQuery (relaxed : Bool) (t : ℕ) : Prop :=
  (machine relaxed).next t 32 = some ([.query_string, .request_uri], 4) ∧
    (machine relaxed).next t 35 = some ([.query_string, .request_uri], 20)

instance : Decidable (EndsQuery relaxed p) := inferInstanceAs (Decidable (_ ∧ _))

/-- Where the parts of the target end. -/
theorem leads_target (relaxed : Bool) :
    (Leads (enter (machine relaxed) 3 [.mark]) path_absolute [none] fun x => ∀ t ∈ x, EndsPath relaxed t) ∧
    (Leads (enter (machine relaxed) 29 [.start_query]) UriParser.query [none] fun x =>
      ∀ t ∈ x, EndsQuery relaxed t) ∧
    Leads (enter (machine relaxed) 20 [.mark]) UriParser.fragment [none] fun x =>
      ∀ t ∈ x, (machine relaxed).next t 32 = some ([.fragment], 4) := by
  cases relaxed <;> decide +kernel

theorem passes_path (hw : w ∈ path_absolute.matches') {c : UInt8}
    (hc : (c = 32 ∧ cs = 4) ∨ (c = 63 ∧ cs = 29) ∨ (c = 35 ∧ cs = 20)) :
    PassesText relaxed (w ++ [c]) 3 cs fun d => { d with path := w } := by
  have hne : w ≠ [] := by
    obtain ⟨u, rfl, v, -, rfl⟩ := Language.mem_mul.1 hw
    exact List.cons_ne_nil _ _
  obtain ⟨t, ⟨hspace, hquestion, hhash⟩, hword⟩ := run_of_leads (leads_target relaxed).1 hw hne
  have hread (pre rest : List UInt8) (s : HttpRequestParser) (d : HttpRequest) (hs : HasRead s d) :
      HasRead { s with parser := { s.parser with mark := pre.length }, data := { s.data with path := w } }
        { d with path := w } :=
    ⟨by rw [hs.data], hs.error, hs.xml, hs.json⟩
  rcases hc with ⟨rfl, rfl⟩ | ⟨rfl, rfl⟩ | ⟨rfl, rfl⟩
  · refine passes_element hne hword rfl hspace rfl fun pre rest s d hs => ⟨_, _, rfl, ?_, hread pre rest s d hs⟩
    simp [act, HttpRequestParser.on_request_path, stdString_mid]
  · refine passes_element hne hword rfl hquestion rfl fun pre rest s d hs => ⟨_, _, rfl, ?_, hread pre rest s d hs⟩
    simp [act, HttpRequestParser.on_request_path, stdString_mid]
  · refine passes_element hne hword rfl hhash rfl fun pre rest s d hs => ⟨_, _, rfl, ?_, hread pre rest s d hs⟩
    simp [act, HttpRequestParser.on_request_path, stdString_mid]

theorem passes_query (hw : w ∈ UriParser.query.matches') (hne : w ≠ []) {c : UInt8}
    (hc : (c = 32 ∧ cs = 4) ∨ (c = 35 ∧ cs = 20)) :
    PassesText relaxed (w ++ [c]) 29 cs fun d => { d with query := w } := by
  obtain ⟨t, ⟨hspace, hhash⟩, hword⟩ := run_of_leads (leads_target relaxed).2.1 hw hne
  have hnext : (machine relaxed).next t c = some ([.query_string, .request_uri], cs) := by
    rcases hc with ⟨rfl, rfl⟩ | ⟨rfl, rfl⟩
    · exact hspace
    · exact hhash
  refine passes_element hne hword rfl hnext rfl fun pre rest s d hs => ?_
  refine ⟨_, { s with parser := { s.parser with query_start := pre.length }, data := { s.data with query := w } },
    rfl, ?_, ⟨by rw [hs.data], hs.error, hs.xml, hs.json⟩⟩
  simp [act, HttpRequestParser.on_request_query, stdString_mid]

theorem passes_fragment (hw : w ∈ UriParser.fragment.matches') (hne : w ≠ []) :
    PassesText relaxed (w ++ [32]) 20 4 fun d => { d with fragment := w } := by
  obtain ⟨t, hnext, hword⟩ := run_of_leads (leads_target relaxed).2.2 hw hne
  refine passes_element hne hword rfl hnext rfl fun pre rest s d hs => ?_
  refine ⟨_, { s with parser := { s.parser with mark := pre.length }, data := { s.data with fragment := w } },
    rfl, ?_, ⟨by rw [hs.data], hs.error, hs.xml, hs.json⟩⟩
  simp [act, HttpRequestParser.on_request_fragment, stdString_mid]

/-- The target of a request: path, query and fragment. -/
theorem passes_target {path query fragment : List UInt8} (hpath : path ∈ path_absolute.matches')
    (hquery : query ∈ UriParser.query.matches') (hfragment : fragment ∈ UriParser.fragment.matches') :
    PassesText relaxed (path ++ HttpRequest.part 63 query ++ HttpRequest.part 35 fragment ++ [32]) 3 4 fun d =>
      { d with path, query := if query = [] then d.query else query,
               fragment := if fragment = [] then d.fragment else fragment } := by
  have htarget : path ++ HttpRequest.part 63 query ++ HttpRequest.part 35 fragment ++ [32] =
      path ++ (HttpRequest.part 63 query ++ (HttpRequest.part 35 fragment ++ [32])) := by simp
  rw [htarget, HttpRequest.part, HttpRequest.part]
  by_cases hq : query = [] <;> by_cases hf : fragment = []
  · simp only [hq, hf, if_true, List.nil_append]
    exact passes_path hpath (.inl ⟨rfl, rfl⟩)
  · simp only [hq, if_true, if_neg hf, List.nil_append]
    have h : PassesText relaxed _ 3 4 _ :=
      (passes_path hpath (.inr (.inr ⟨rfl, rfl⟩))).append (passes_fragment hfragment hf)
    rwa [List.append_assoc, List.singleton_append] at h
  · simp only [hf, if_true, if_neg hq, List.nil_append]
    have h : PassesText relaxed _ 3 4 _ :=
      (passes_path hpath (.inr (.inl ⟨rfl, rfl⟩))).append (passes_query hquery hq (.inl ⟨rfl, rfl⟩))
    rwa [List.append_assoc, List.singleton_append] at h
  · simp only [if_neg hq, if_neg hf]
    have h : PassesText relaxed _ 3 4 _ :=
      ((passes_path hpath (.inr (.inl ⟨rfl, rfl⟩))).append (passes_query hquery hq (.inr ⟨rfl, rfl⟩))).append
        (passes_fragment hfragment hf)
    simp only [List.append_assoc, List.cons_append] at h ⊢
    exact h

theorem passes_version {v : UInt8} (hv : v = 0x11 ∨ v = 0x10) :
    PassesText relaxed (ascii "HTTP/" ++ decimal (v >>> 4).toNat ++ ascii "." ++ decimal (v &&& 0x0F).toNat ++ crlf)
      4 13 fun d => { d with version := v } := by
  have hlf : (machine relaxed).next 17 10 = some ([], 13) := rfl
  have hcr : (machine relaxed).next 12 13 = some ([.http_version], 17) := rfl
  have hword : ∀ w ∈ [ascii "HTTP/1.1", ascii "HTTP/1.0"],
      run (enter (machine relaxed) 4 [.mark]) w none = some (some 12) := by
    cases relaxed <;> decide +kernel
  have hline {w : List UInt8} (hw : w ∈ [ascii "HTTP/1.1", ascii "HTTP/1.0"]) (hlen : w.length = 8)
      (hversion : ∀ rest, versionOf (w ++ rest) 0 8 = some v) :
      PassesText relaxed (w ++ [13] ++ [10]) 4 13 fun d => { d with version := v } := by
    have hne : w ≠ [] := by
      rintro rfl
      cases hlen
    refine (passes_element hne (hword w hw) rfl hcr rfl fun pre rest s d hs => ?_).append (passes_quiet hlf)
    refine ⟨_, _, rfl, rfl, ?_⟩
    simp only [HttpRequestParser.on_request_version, versionOf_mid hlen hversion]
    exact ⟨by rw [hs.data], hs.error, hs.xml, hs.json⟩
  rcases hv with rfl | rfl
  · exact hline (w := ascii "HTTP/1.1") (by decide) (by decide) fun rest => rfl
  · exact hline (w := ascii "HTTP/1.0") (by decide) (by decide) fun rest => rfl

/-! ## Headers -/

/-- What the machine does with the bytes of a header. -/
def ReadsHeader (relaxed : Bool) (c : UInt8) : Prop :=
  (nameByte c = true → (machine relaxed).next 13 c = some ([.start_field], 14) ∧
    (machine relaxed).next 14 c = some ([], 14)) ∧
  (valueByte c = true → (machine relaxed).next 16 c = some ([], 16)) ∧
    (valueStart c = true → (machine relaxed).next 15 c = some ([.start_value], 16))

instance {c : UInt8} : Decidable (ReadsHeader relaxed c) := inferInstanceAs (Decidable (_ ∧ _ ∧ _))

theorem next_header (relaxed : Bool) (c : UInt8) : ReadsHeader relaxed c := by
  revert c
  refine forall_byte ?_
  cases relaxed <;> decide +kernel

theorem on_field {field v : ℕ} {flen vlen : ℤ} {name value : List UInt8} (hname : stdString W field flen = .ok name)
    (hlen : flen ≠ 0) (hvalue : stdString W v vlen = .ok value) :
    s.on_request_http_field W field flen v vlen = .ok { s with data := s.data.setHeader name value } := by
  rw [HttpRequestParser.on_request_http_field, if_neg hlen, hname, hvalue]
  rfl

/-- The value of a header, when the name has been read. -/
theorem scan_value (relaxed : Bool) {value name : List UInt8} (hvalue : ∀ c ∈ value, valueByte c = true)
    (hstart : ∀ c ∈ value.head?, valueStart c = true) (hs : HasRead s d)
    (hname : stdString (pre ++ (value ++ 13 :: rest)) s.parser.field_start s.parser.field_len = .ok name)
    (hlen : s.parser.field_len ≠ 0) : ∃ s', HasRead s' (d.setHeader name value) ∧
      (machine relaxed).scan (act (pre ++ (value ++ 13 :: rest))) (value ++ 13 :: rest) pre.length 15 s =
        (machine relaxed).scan (act (pre ++ (value ++ 13 :: rest))) rest (pre.length + value.length + 1) 17 s' := by
  have hempty : (machine relaxed).next 15 13 = some ([.start_value, .write_value], 17) := rfl
  have hcr : (machine relaxed).next 16 13 = some ([.write_value], 17) := rfl
  refine ⟨{ s with parser := { s.parser with mark := pre.length }, data := s.data.setHeader name value },
    ⟨by rw [hs.data], hs.error, hs.xml, hs.json⟩, ?_⟩
  have hstring : stdString (pre ++ (value ++ 13 :: rest)) pre.length (LEN pre.length (pre.length + value.length)) =
      .ok value := stdString_mid
  cases value with
  | nil =>
    simp only [List.nil_append, List.length_nil, Nat.add_zero] at hname hstring ⊢
    refine scan_step hempty rfl ?_
    simp only [perform_cons, perform_nil, act]
    rw [on_field hname hlen hstring]
  | cons c value =>
    have hword : run (enter (machine relaxed) 15 [.start_value]) (c :: value) none = some (some 16) :=
      run_enter_loop ((next_header relaxed c).2.2 (hstart c rfl)) fun b hb =>
        (next_header relaxed b).2.1 (hvalue b (by simp [hb]))
    obtain ⟨t, ht, hscan⟩ := scan_enter hword (List.cons_ne_nil _ _) rfl
    cases ht
    rw [hscan _ _ s { s with parser := { s.parser with mark := pre.length } } rfl]
    refine scan_step hcr rfl ?_
    simp only [perform_cons, perform_nil, act]
    rw [on_field hname hlen hstring]

theorem passes_header {i : List UInt8 × List UInt8} (hi : IsHeader i) {colon : List UInt8}
    (hcolon : colon = ascii ":" ∨ colon = ascii ": ") :
    PassesText relaxed (HttpRequest.dumpHeader colon i) 13 13 fun d => d.setHeader i.1 i.2 := by
  have hnext : (machine relaxed).next 14 58 = some ([.write_field], 15) := rfl
  have hspace : (machine relaxed).next 15 32 = some ([.start_value], 15) := rfl
  have hlf : (machine relaxed).next 17 10 = some ([], 13) := rfl
  obtain ⟨name, value⟩ := i
  obtain ⟨hne, hname, hvalue, hstart⟩ := hi
  dsimp only at hne hname hvalue hstart
  have hword : run (enter (machine relaxed) 13 [.start_field]) name none = some (some 14) := by
    obtain ⟨c, name, rfl⟩ := List.exists_cons_of_ne_nil hne
    exact run_enter_loop ((next_header relaxed c).1 (hname c (by simp))).1 fun b hb =>
      ((next_header relaxed b).1 (hname b (by simp [hb]))).2
  intro pre rest s d hs
  obtain ⟨W, hW⟩ : ∃ W, W = pre ++ (name ++ (colon ++ (value ++ 13 :: 10 :: rest))) := ⟨_, rfl⟩
  have htext : HttpRequest.dumpHeader colon (name, value) ++ rest = name ++ (colon ++ (value ++ 13 :: 10 :: rest)) := by
    simp [HttpRequest.dumpHeader, crlf]
  have hnamed : stdString W pre.length (LEN pre.length (pre.length + name.length)) = .ok name := hW ▸ stdString_mid
  have hlen : LEN pre.length (pre.length + name.length) ≠ 0 := by
    rw [LEN_mid]
    simpa using hne
  have hsplit : W = (pre ++ name ++ colon) ++ (value ++ 13 :: 10 :: rest) := by simp [hW]
  obtain ⟨s₁, hs₁, hstart₁, hlen₁, hscan₁⟩ : ∃ s₁, HasRead s₁ d ∧ s₁.parser.field_start = pre.length ∧
      s₁.parser.field_len = LEN pre.length (pre.length + name.length) ∧
      (machine relaxed).scan (act W) (name ++ (colon ++ (value ++ 13 :: 10 :: rest))) pre.length 13 s =
        (machine relaxed).scan (act W) (value ++ 13 :: 10 :: rest) (pre ++ name ++ colon).length 15 s₁ := by
    obtain ⟨t, ht, hscan⟩ := scan_enter hword hne rfl
    cases ht
    have hfield : Scanner.perform (act W) pre.length [.start_field] s =
        .ok { s with parser := { s.parser with field_start := pre.length } } := rfl
    rw [hscan _ _ s _ hfield]
    rw [List.length_append, List.length_append]
    have hbytes : colon = [58] ∨ colon = [58, 32] := hcolon
    rcases hbytes with rfl | rfl
    · refine ⟨_, ?_, ?_, ?_, scan_step hnext rfl rfl⟩
      · exact ⟨hs.data, hs.error, hs.xml, hs.json⟩
      · rfl
      · rfl
    · refine ⟨_, ?_, ?_, ?_, (scan_step hnext rfl rfl).trans (scan_step hspace rfl rfl)⟩
      · exact ⟨hs.data, hs.error, hs.xml, hs.json⟩
      · rfl
      · rfl
  rw [← hlen₁, ← hstart₁, hsplit] at hnamed
  obtain ⟨s₂, hs₂, hvalued⟩ := scan_value relaxed hvalue hstart hs₁ hnamed (hlen₁ ▸ hlen)
  have hend : (pre ++ HttpRequest.dumpHeader colon (name, value)).length =
      (pre ++ name ++ colon).length + value.length + 1 + 1 := by
    simp [HttpRequest.dumpHeader, crlf]
    omega
  refine ⟨s₂, hs₂, ?_⟩
  rw [htext, ← hW, hscan₁, hend]
  rw [← hsplit] at hvalued
  exact hvalued.trans (scan_step hlf rfl rfl)

/-! ## The whole -/

/-- The end of the headers. -/
theorem scan_end (relaxed : Bool) (hs : HasRead s d) : ∃ s', HasRead s' d ∧
    (machine relaxed).scan (act W) (crlf ++ rest) p 13 s = .ok (.stops 348 (p + 2) s') := by
  have hcr : (machine relaxed).next 13 13 = some ([.start_field], 18) := rfl
  have hlf : (machine relaxed).next 18 10 = some ([.done], 348) := rfl
  have hdone (s : HttpRequestParser) (p : ℕ) (hs : HasRead s d) : ∃ s', act W .done p s = .ok s' ∧ HasRead s' d := by
    have hclear : ¬(s.parser.xml_sent || s.parser.json_sent) = true := by
      rw [hs.xml, hs.json]
      exact Bool.false_ne_true
    refine ⟨{ s with parser := { s.parser with body_start := p + 1 } }, ?_, hs.data, hs.error, hs.xml, hs.json⟩
    rw [act, if_neg hclear]
  have hstart : HasRead { s with parser := { s.parser with field_start := p } } d := ⟨hs.data, hs.error, hs.xml, hs.json⟩
  obtain ⟨s', hact, hs'⟩ := hdone _ (p + 1) hstart
  refine ⟨s', hs', (scan_step hcr rfl rfl).trans ?_⟩
  have hstop : [Action.done].any (machine relaxed).stops = true := rfl
  refine (Scanner.scan_cons hlf).trans ?_
  simp only [perform_cons, perform_nil, hact, hstop, if_true]

end RequestText

namespace HttpRequest

/-- The headers that the text adds to those of the request. -/
def addedHeaders (r : HttpRequest) : List (List UInt8 × List UInt8) :=
  if r.body ≠ [] then [(ascii "content-length", Http.decimal r.body.length)] else []

/-- The text up to the empty line. -/
def head (r : HttpRequest) : List UInt8 :=
  HttpMethodToString r.method ++ ascii " " ++ (r.path ++ part 63 r.query ++ part 35 r.fragment ++ ascii " ") ++
    (ascii "HTTP/" ++ Http.decimal (r.version >>> 4).toNat ++ ascii "." ++
      Http.decimal (r.version &&& 0x0F).toNat ++ crlf) ++
    dumpHeader (ascii ": ") (ascii "connection", r.connection) ++ r.otherHeaders.flatMap (dumpHeader (ascii ":")) ++
    r.addedHeaders.flatMap (dumpHeader (ascii ": "))

theorem dump_eq {r : HttpRequest} (h : r.websocket = false) : r.dump = r.head ++ (crlf ++ r.body) := by
  have hspace : ascii " HTTP/" = 32 :: ascii "HTTP/" := rfl
  have hspace' : ascii " " = [32] := rfl
  rw [dump, head, hspace, hspace', h]
  by_cases hbody : r.body = []
  · simp [addedHeaders, hbody]
  · simp [addedHeaders, hbody]

/-- The headers in the text, in order. -/
def sentHeaders (r : HttpRequest) : List (List UInt8 × List UInt8) :=
  (ascii "connection", r.connection) :: (r.otherHeaders ++ r.addedHeaders)

/-- What the parser has read of the text, without the body. -/
def readHead (r : HttpRequest) : HttpRequest where
  method := r.method
  version := r.version
  path := r.path
  query := r.query
  fragment := r.fragment
  headers := OrderedMap.setAll CaseInsensitiveLess_trans .empty r.sentHeaders

/-- The request as `recvRequest` returns it. -/
def received (r : HttpRequest) : HttpRequest := HttpSession.keepAlive { r.readHead with body := r.body }

end HttpRequest

namespace RequestText

open HttpParser (machine)
open HttpRequestParser (act)

variable {relaxed : Bool} {r : HttpRequest}

theorem foldl_setHeader (l : List (List UInt8 × List UInt8)) (d : HttpRequest) :
    l.foldl (fun d i => d.setHeader i.1 i.2) d =
      { d with headers := d.headers.setAll CaseInsensitiveLess_trans l } := by
  induction l generalizing d with
  | nil => rfl
  | cons i l ih => exact ih (d.setHeader i.1 i.2)

theorem HttpMethodToString_mem {m : HttpMethod} (hm : m ≠ .INVALID_METHOD) : (m, HttpMethodToString m) ∈ HTTP_METHOD_MAP := by
  revert hm
  cases m <;> decide

/-- The headers that `dump` adds. -/
theorem isHeader_own {name value : List UInt8} (hname : name ∈ [ascii "connection", ascii "content-length"])
    (hvalue : ∀ c ∈ value, valueStart c = true) : IsHeader (name, value) := by
  have hnames : ∀ name ∈ [ascii "connection", ascii "content-length"], name ≠ [] ∧ ∀ c ∈ name, nameByte c = true := by
    decide +kernel
  refine ⟨(hnames name hname).1, (hnames name hname).2, fun c hc => ?_, fun c hc => hvalue c (List.mem_of_mem_head? hc)⟩
  have h := hvalue c hc
  rw [valueStart, Bool.and_eq_true, Bool.and_eq_true] at h
  exact h.1.1

theorem isHeader_connection (r : HttpRequest) : IsHeader (ascii "connection", r.connection) := by
  refine isHeader_own List.mem_cons_self ?_
  rw [HttpRequest.connection]
  split_ifs <;> decide +kernel

theorem isHeader_added : ∀ i ∈ r.addedHeaders, IsHeader i := by
  intro i hi
  rw [HttpRequest.addedHeaders] at hi
  split_ifs at hi
  · obtain rfl := List.mem_singleton.1 hi
    refine isHeader_own (List.mem_cons_of_mem _ List.mem_cons_self) fun c hc => ?_
    refine forall_byte (P := fun c => isDigit 10 c = true → valueStart c = true) ?_ c (isDigit_of_decimal c hc)
    decide +kernel
  · cases hi

theorem isHeader_sent (h : Sendable r) : ∀ i ∈ r.sentHeaders, IsHeader i := by
  intro i hi
  rcases List.mem_cons.1 hi with rfl | hi
  · exact isHeader_connection r
  rcases List.mem_append.1 hi with hi | hi
  · exact h.headers i (List.mem_of_mem_filter hi)
  · exact isHeader_added i hi

/-- **The text of a request up to the empty line.** -/
theorem passes_head (h : Sendable r) :
    PassesText relaxed r.head 1 13 fun d => { d with
      method := r.method, version := r.version, path := r.path
      query := if r.query = [] then d.query else r.query
      fragment := if r.fragment = [] then d.fragment else r.fragment
      headers := d.headers.setAll CaseInsensitiveLess_trans r.sentHeaders } := by
  have hsent := isHeader_sent h
  have hfirst : PassesText relaxed _ 13 13 _ := passes_header (isHeader_connection r) (.inr rfl)
  have hother : PassesText relaxed (r.otherHeaders.flatMap (HttpRequest.dumpHeader (ascii ":"))) 13 13 _ :=
    Passes.flatMap fun i hi => passes_header (hsent i (by simp [HttpRequest.sentHeaders, hi])) (.inl rfl)
  have hadded : PassesText relaxed (r.addedHeaders.flatMap (HttpRequest.dumpHeader (ascii ": "))) 13 13 _ :=
    Passes.flatMap fun i hi => passes_header (hsent i (by simp [HttpRequest.sentHeaders, hi])) (.inr rfl)
  have hmethod : PassesText relaxed _ 1 3 _ := passes_method (HttpMethodToString_mem h.method.2) h.method.1
  refine (((((hmethod.append (passes_target h.path h.query h.fragment)).append (passes_version h.version)).append
    hfirst).append hother).append hadded).congr fun d => ?_
  simp only [Function.comp_apply, foldl_setHeader]
  simp [HttpRequest.sentHeaders, OrderedMap.setAll, HttpRequest.setHeader]

/-! ## What the receiver has -/

/-- `strcasecmp` finds no difference. -/
theorem strcasecmp_eq : ∀ {a b : List UInt8}, strcasecmp a b = .eq ↔ a.map tolower = b.map tolower
  | [], [] => by simp [strcasecmp]
  | [], b :: t => by simp [strcasecmp]
  | a :: s, [] => by simp [strcasecmp]
  | a :: s, b :: t => by
    have ih := strcasecmp_eq (a := s) (b := t)
    rw [List.map_cons, List.map_cons, List.cons.injEq, ← ih, strcasecmp, ← UInt8.toNat_inj]
    simp only [UInt8.lt_iff_toNat_lt]
    rcases Nat.lt_trichotomy (tolower a).toNat (tolower b).toNat with h | h | h
    · simp [h, h.ne]
    · simp [h]
    · simp [h, h.ne', Nat.lt_asymm h]

theorem sameName_iff {a b : List UInt8} : OrderedMap.same CaseInsensitiveLess a b = true ↔ strcasecmp (cStr a) (cStr b) = .eq := by
  rw [strcasecmp_eq, ← strcasecmp_eq_iff]
  simp [OrderedMap.same, CaseInsensitiveLess]

/-- The headers but `connection`, which are searched from the end. -/
theorem find?_others (m : MapType) (key : List UInt8) :
    (((m.entries.filter fun i => strcasecmp (cStr i.1) (ascii "connection") ≠ .eq).reverse.find? fun x =>
      OrderedMap.same CaseInsensitiveLess x.1 key).map Prod.snd) =
      if OrderedMap.same CaseInsensitiveLess (ascii "connection") key then none else m.find key := by
  have hsorted := m.sorted.filter fun i => strcasecmp (cStr i.1) (ascii "connection") ≠ .eq
  rw [OrderedMap.find?_reverse CaseInsensitiveLess_same hsorted, List.find?_filter, OrderedMap.find]
  split_ifs with hkey
  · rw [Option.map_eq_none_iff, List.find?_eq_none]
    rintro x - hx
    obtain ⟨hother, hsame⟩ := of_decide_eq_true hx
    exact of_decide_eq_true hother (sameName_iff.1 (CaseInsensitiveLess_same _ _ _ hsame (OrderedMap.same_symm hkey)))
  · congr 2
    funext x
    refine Bool.eq_iff_iff.2 ⟨fun hx => (of_decide_eq_true hx).2, fun hx => ?_⟩
    have hother : strcasecmp (cStr x.1) (ascii "connection") ≠ .eq := fun heq =>
      hkey (CaseInsensitiveLess_same _ _ _ (OrderedMap.same_symm (sameName_iff.2 heq)) hx)
    exact decide_eq_true ⟨decide_eq_true hother, hx⟩

theorem find_readHead (hsocket : r.websocket = false) (key : List UInt8) : r.readHead.headers.find key =
    if r.body ≠ [] ∧ OrderedMap.same CaseInsensitiveLess (ascii "content-length") key then
      some (decimal r.body.length)
    else if OrderedMap.same CaseInsensitiveLess (ascii "connection") key then some r.connection
    else r.headers.find key := by
  have hothers : r.otherHeaders = r.headers.entries.filter fun i => strcasecmp (cStr i.1) (ascii "connection") ≠ .eq := by
    rw [HttpRequest.otherHeaders, hsocket]
    rfl
  have hother := hothers ▸ find?_others r.headers key
  rw [HttpRequest.readHead, OrderedMap.find_setAll CaseInsensitiveLess_same, HttpRequest.sentHeaders,
    List.reverse_cons, List.reverse_append, List.find?_append, List.find?_append, Option.map_or, Option.map_or, hother,
    List.find?_singleton, HttpRequest.addedHeaders]
  split_ifs <;> simp_all [OrderedMap.find, OrderedMap.empty]

/-- `q` is the request that was sent as `r`. -/
structure Received (r q : HttpRequest) : Prop where
  method : q.method = r.method
  version : q.version = r.version
  path : q.path = r.path
  query : q.query = r.query
  fragment : q.fragment = r.fragment
  body : q.body = r.body
  close : q.close = r.close
  headers : ∀ key, q.headers.find key =
    if r.body ≠ [] ∧ OrderedMap.same CaseInsensitiveLess (ascii "content-length") key then
      some (decimal r.body.length)
    else if OrderedMap.same CaseInsensitiveLess (ascii "connection") key then some r.connection
    else r.headers.find key

theorem keepAlive_eq (r : HttpRequest) : HttpSession.keepAlive r = { r with close :=
    (if strcasecmp (cStr (r.getHeader (ascii "Connection"))) (ascii "keep-alive") = .eq then false else r.close) } := by
  rw [HttpSession.keepAlive]
  split_ifs <;> rfl

theorem received_of (hsocket : r.websocket = false) : Received r r.received := by
  have hheaders (key : List UInt8) : r.received.headers.find key = r.readHead.headers.find key := by
    rw [HttpRequest.received, keepAlive_eq]
  have hother : ¬OrderedMap.same CaseInsensitiveLess (ascii "content-length") (ascii "Connection") = true := by decide
  have hconnection : ({ r.readHead with body := r.body } : HttpRequest).getHeader (ascii "Connection") = r.connection := by
    rw [HttpRequest.getHeader, find_readHead hsocket, if_neg (fun hb => hother hb.2), if_pos (by decide)]
    rfl
  have hclose : r.received.close = r.close := by
    rw [HttpRequest.received, keepAlive_eq, hconnection, HttpRequest.connection]
    cases r.close <;> rfl
  refine ⟨?_, ?_, ?_, ?_, ?_, ?_, hclose, fun key => (hheaders key).trans (find_readHead hsocket key)⟩ <;>
    rw [HttpRequest.received, keepAlive_eq] <;> rfl

theorem hasRead_new (u : HttpParser.Uninit) : HasRead (HttpRequestParser.new u).enter {} := ⟨rfl, rfl, rfl, rfl⟩

theorem length_dump (h : r.websocket = false) : r.dump.length = r.head.length + 2 + r.body.length := by
  rw [HttpRequest.dump_eq h, List.length_append, List.length_append, Nat.add_assoc]
  rfl

variable {lexical_cast : List UInt8 → Option UInt64}

section

variable (h : Sendable r) (hcast : ∀ n < 2 ^ 64, lexical_cast (decimal n) = some (UInt64.ofNat n))

include h hcast

/-- How long the body is, as the parser reads it. -/
theorem getContentLength_readHead :
    (toInt64 (getHeaderAs lexical_cast r.readHead.headers (ascii "content-length")).toNat).toNat = r.body.length := by
  have hfit := h.fits
  rw [length_dump h.websocket] at hfit
  rw [getHeaderAs, find_readHead h.websocket]
  by_cases hbody : r.body = []
  · have hnone : (none : Option (List UInt8)).bind lexical_cast = none := rfl
    rw [if_neg (fun hb => hb.1 hbody), if_neg (by decide), h.length hbody, hbody, hnone]
    decide
  · have hlt : r.body.length < 2 ^ 64 := by omega
    rw [if_pos ⟨hbody, by decide⟩, Option.bind_some, hcast _ hlt, Option.getD_some, UInt64.toNat_ofNat', Nat.mod_eq_of_lt hlt,
      toInt64_natCast (by omega), Int.toNat_natCast]

/-- **What is sent is what is read.** -/
theorem parse_dump (u : HttpParser.Uninit) :
    HttpSession.parse lexical_cast u r.dump = some (r.head.length + 2, r.body.length, r.received) := by
  have hpasses : PassesText u.uri_relaxed r.head 1 13 _ := passes_head h
  obtain ⟨s, hs, hhead⟩ := hpasses [] (crlf ++ r.body) _ _ (hasRead_new u)
  obtain ⟨s', hs', hend⟩ := scan_end u.uri_relaxed hs
  have hscan : (machine u.uri_relaxed).scan (act r.dump) r.dump 0 1 (HttpRequestParser.new u).enter =
      .ok (.stops 348 (r.head.length + 2) s') := by
    rw [← hend, HttpRequest.dump_eq h.websocket]
    exact hhead
  have hread : s'.data = r.readHead := by
    have hempty (w : List UInt8) : (if w = [] then [] else w) = w := ite_eq_right_iff.2 Eq.symm
    rw [hs'.data, HttpRequest.readHead]
    simp only [hempty]
  have hlength : (toInt64 (s'.getContentLength lexical_cast).toNat).toNat = r.body.length := by
    rw [HttpRequestParser.getContentLength, hread, getContentLength_readHead h hcast]
  have hslice : slice r.dump (r.head.length + 2) r.body.length = r.body := by
    have hlen : (r.head ++ crlf).length = r.head.length + 2 := List.length_append
    rw [slice, HttpRequest.dump_eq h.websocket, ← List.append_assoc, ← hlen, List.drop_left, List.take_length]
  rw [HttpSession.parse, hscan]
  simp only [hlength, hs'.error, true_and]
  rw [if_pos (length_dump h.websocket).ge, hslice, hread, HttpRequest.received]
  by_cases hbody : r.body = []
  · rw [hbody]
    rfl
  · rw [if_pos (List.length_pos_iff.2 hbody)]

end

end RequestText

end Ancfl.Http
