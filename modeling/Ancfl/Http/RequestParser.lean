/-
  The request parser.

  * `HttpParser` is `http_parser`: the state of the machine, and positions in
    the buffer, which are counted from the start of the buffer of each call;
  * `HttpRequestParser.act`: what the actions of the grammar do, with the
    callbacks `on_request_..`;
  * `http_parser_execute` runs the machine over a buffer, and
    `HttpRequestParser.execute` moves what is left to the front of the buffer.
-/
import Ancfl.Http.Http11Table
import Ancfl.Http.Message
import Ancfl.Lib.Bytes

namespace Ancfl.Http

open Lib

/-- What ends a call of a parser. -/
inductive Fault where
  /-- `std::length_error` -/
  | length_error
  /-- an `assert` that fails -/
  | assertion
deriving DecidableEq

/-- The difference of two positions, as a length.  A negative one is a `size_t` that is too large
    for a string. -/
def LEN (AT fpc : ℕ) : ℤ := fpc - AT

/-- `std::string(at, length)` for a position in memory. -/
def stdString (memory : List UInt8) (at_ : ℕ) (length : ℤ) : Except Fault (List UInt8) :=
  if length < 0 then .error .length_error else .ok (slice memory at_ length.toNat)

/-- The version for the characters from a position on, `none` if it is none of the two. -/
def versionOf (memory : List UInt8) (at_ : ℕ) (length : ℤ) : Option UInt8 :=
  if strncmpEq (toUInt64 length) (memory.drop at_) (ascii "HTTP/1.1") then some 0x11
  else if strncmpEq (toUInt64 length) (memory.drop at_) (ascii "HTTP/1.0") then some 0x10
  else none

/-- `struct http_parser`. -/
structure HttpParser where
  cs : ℕ
  body_start : ℕ
  content_len : ℤ
  nread : ℕ
  mark : ℕ
  field_start : ℕ
  field_len : ℤ
  query_start : ℕ
  xml_sent : Bool
  json_sent : Bool
  uri_relaxed : Bool
deriving DecidableEq

/-- The members of a new `http_parser` that `http_parser_init` does not set. -/
structure HttpParser.Uninit where
  query_start : ℕ
  uri_relaxed : Bool

def http_parser_init (u : HttpParser.Uninit) : HttpParser where
  cs := 1
  body_start := 0
  content_len := 0
  nread := 0
  mark := 0
  field_start := 0
  field_len := 0
  query_start := u.query_start
  xml_sent := false
  json_sent := false
  uri_relaxed := u.uri_relaxed

structure HttpRequestParser where
  parser : HttpParser
  data : HttpRequest
  error : ℤ
deriving DecidableEq

namespace HttpRequestParser

open HttpParser (Action machine)

/-- A new parser. -/
def new (u : HttpParser.Uninit) : HttpRequestParser := ⟨http_parser_init u, {}, 0⟩

/-! ## The callbacks -/

section
variable (s : HttpRequestParser) (memory : List UInt8)

def on_request_method (at_ : ℕ) : HttpRequestParser :=
  let m := CharsToHttpMethod (memory.drop at_)
  if m = .INVALID_METHOD then { s with error := 1000 }
  else { s with data := { s.data with method := m } }

def on_request_fragment (at_ : ℕ) (length : ℤ) : Except Fault HttpRequestParser := do
  return { s with data := { s.data with fragment := ← stdString memory at_ length } }

def on_request_path (at_ : ℕ) (length : ℤ) : Except Fault HttpRequestParser := do
  return { s with data := { s.data with path := ← stdString memory at_ length } }

def on_request_query (at_ : ℕ) (length : ℤ) : Except Fault HttpRequestParser := do
  return { s with data := { s.data with query := ← stdString memory at_ length } }

def on_request_version (at_ : ℕ) (length : ℤ) : HttpRequestParser :=
  match versionOf memory at_ length with
  | some v => { s with data := { s.data with version := v } }
  | none => { s with error := 1001 }

def on_request_http_field (field : ℕ) (flen : ℤ) (value : ℕ) (vlen : ℤ) :
    Except Fault HttpRequestParser := do
  if flen = 0 then return s
  else
    return { s with data :=
      s.data.setHeader (← stdString memory field flen) (← stdString memory value vlen) }

end

/-! ## The machine -/

/-- An action at the position `fpc`. -/
def act (memory : List UInt8) (a : Action) (fpc : ℕ) (s : HttpRequestParser) :
    Except Fault HttpRequestParser :=
  let q := s.parser
  match a with
  | .mark => .ok { s with parser := { q with mark := fpc } }
  | .start_field => .ok { s with parser := { q with field_start := fpc } }
  | .write_field => .ok { s with parser := { q with field_len := LEN q.field_start fpc } }
  | .start_value => .ok { s with parser := { q with mark := fpc } }
  | .write_value =>
    s.on_request_http_field memory q.field_start q.field_len q.mark (LEN q.mark fpc)
  | .request_method => .ok (s.on_request_method memory q.mark)
  -- `on_request_uri` does nothing
  | .request_uri => .ok s
  | .fragment => s.on_request_fragment memory q.mark (LEN q.mark fpc)
  | .start_query => .ok { s with parser := { q with query_start := fpc } }
  | .query_string => s.on_request_query memory q.query_start (LEN q.query_start fpc)
  | .http_version => .ok (s.on_request_version memory q.mark (LEN q.mark fpc))
  | .request_path => s.on_request_path memory q.mark (LEN q.mark fpc)
  | .done =>
    if q.xml_sent || q.json_sent then
      .ok { s with parser :=
        { q with body_start := q.mark, content_len := toInt32 (LEN q.mark fpc + 1) } }
    else .ok { s with parser := { q with body_start := fpc + 1 } }
  | .xml => .ok { s with parser := { q with xml_sent := true } }
  | .json => .ok { s with parser := { q with json_sent := true } }

/-- What `http_parser_execute` does before the machine runs. -/
def enter (s : HttpRequestParser) : HttpRequestParser :=
  { s with parser := { s.parser with nread := 0, mark := 0, field_len := 0, field_start := 0 } }

/-- What `http_parser_execute` does when the machine is in state `cs` at position `p`. -/
def leave (len cs p : ℕ) (s : HttpRequestParser) : Except Fault (ℕ × HttpRequestParser) :=
  let q := s.parser
  let q := { q with cs := if q.cs = HttpParser.error then q.cs else cs, nread := q.nread + p }
  if q.nread ≤ len ∧ q.body_start ≤ len ∧ q.mark < len ∧ 0 ≤ q.field_len ∧ q.field_len ≤ (len : ℤ) ∧
      q.field_start < len then
    .ok (q.nread, { s with parser := q })
  else .error .assertion

/-- `http_parser_execute(parser, buffer, len, 0)`. -/
def http_parser_execute (s : HttpRequestParser) (buffer : List UInt8) (len : ℕ) :
    Except Fault (ℕ × HttpRequestParser) :=
  if len = 0 then .ok (0, s)
  else
    match (machine s.parser.uri_relaxed).scan (act buffer) (buffer.take len) 0 s.parser.cs s.enter with
    | .error e => .error e
    | .ok (.goesOn cs s) => s.leave len cs len
    | .ok (.stops cs p s) => s.leave len cs p
    | .ok (.fails p s) => s.leave len HttpParser.error p

/-- `execute(data, len)`: the number of bytes parsed, and the buffer with what is left in front. -/
def execute (s : HttpRequestParser) (data : List UInt8) (len : ℕ) :
    Except Fault (ℕ × HttpRequestParser × List UInt8) := do
  let (offset, s) ← s.http_parser_execute data len
  return (offset, s, overwrite data 0 (slice data offset (len - offset)))

def isFinished (s : HttpRequestParser) : ℤ :=
  if s.parser.cs = HttpParser.error then -1
  else if HttpParser.first_final ≤ s.parser.cs then 1
  else 0

def hasError (s : HttpRequestParser) : Bool := s.error ≠ 0 || s.parser.cs = HttpParser.error

def getContentLength (lexical_cast : List UInt8 → Option UInt64) (s : HttpRequestParser) : UInt64 :=
  getHeaderAs lexical_cast s.data.headers (ascii "content-length")

end HttpRequestParser
end Ancfl.Http
