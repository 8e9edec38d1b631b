/-
  The response parser.

  * `HttpclientParser` is `httpclient_parser`, which reads the head of a response
    or the size line of a chunk;
  * `HttpResponseParser.act`: what the actions of the grammar do, with the
    callbacks `on_response_..`;
  * `httpclient_parser_execute` runs the machine over a buffer;
    `HttpResponseParser.execute` starts it anew for a chunk, and moves what is
    left to the front of the buffer.
-/
import Ancfl.Http.HttpClientTable
import Ancfl.Http.RequestParser

namespace Ancfl.Http

open Lib

/-- `struct httpclient_parser`. -/
structure HttpclientParser where
  cs : ℕ
  body_start : ℕ
  content_len : ℤ
  status : ℤ
  chunked : Bool
  chunks_done : Bool
  close : Bool
  nread : ℕ
  mark : ℕ
  field_start : ℕ
  field_len : ℤ
deriving DecidableEq

/-- `httpclient_parser_init` sets all members but `status`. -/
def httpclient_parser_init (status : ℤ) : HttpclientParser where
  cs := 1
  body_start := 0
  content_len := -1
  status := status
  chunked := false
  chunks_done := false
  close := false
  nread := 0
  mark := 0
  field_start := 0
  field_len := 0

structure HttpResponseParser where
  parser : HttpclientParser
  data : HttpResponse
  error : ℤ
deriving DecidableEq

namespace HttpResponseParser

open HttpclientParser (Action machine)

/-- A new parser; `status` is what was in memory before. -/
def new (status : ℤ) : HttpResponseParser := ⟨httpclient_parser_init status, {}, 0⟩

/-! ## The callbacks -/

section
variable (s : HttpResponseParser) (memory : List UInt8)

def on_response_reason (at_ : ℕ) (length : ℤ) : Except Fault HttpResponseParser := do
  return { s with data := { s.data with reason := ← stdString memory at_ length } }

def on_response_status (at_ : ℕ) : HttpResponseParser :=
  { s with data := { s.data with status := toInt32 (strtol 10 (memory.drop at_)) } }

def on_response_version (at_ : ℕ) (length : ℤ) : HttpResponseParser :=
  match versionOf memory at_ length with
  | some v => { s with data := { s.data with version := v } }
  | none => { s with error := 1001 }

def on_response_http_field (field : ℕ) (flen : ℤ) (value : ℕ) (vlen : ℤ) :
    Except Fault HttpResponseParser := do
  if flen = 0 then return { s with error := 1002 }
  else
    return { s with data :=
      s.data.setHeader (← stdString memory field flen) (← stdString memory value vlen) }

end

/-! ## The machine -/

/-- An action at the position `fpc`; the callbacks for a chunk and for the end of the header do
    nothing. -/
def act (memory : List UInt8) (a : Action) (fpc : ℕ) (s : HttpResponseParser) :
    Except Fault HttpResponseParser :=
  let q := s.parser
  match a with
  | .mark => .ok { s with parser := { q with mark := fpc } }
  | .start_field => .ok { s with parser := { q with field_start := fpc } }
  | .write_field => .ok { s with parser := { q with field_len := LEN q.field_start fpc } }
  | .start_value => .ok { s with parser := { q with mark := fpc } }
  | .write_content_len =>
    .ok { s with parser := { q with content_len := toInt32 (strtol 10 (memory.drop q.mark)) } }
  | .write_connection_close => .ok { s with parser := { q with close := true } }
  | .write_value =>
    s.on_response_http_field memory q.field_start q.field_len q.mark (LEN q.mark fpc)
  | .reason_phrase => s.on_response_reason memory q.mark (LEN q.mark fpc)
  | .status_code =>
    let s := { s with parser := { q with status := toInt32 (strtol 10 (memory.drop q.mark)) } }
    .ok (s.on_response_status memory q.mark)
  | .http_version => .ok (s.on_response_version memory q.mark (LEN q.mark fpc))
  | .chunk_size =>
    let content_len := toInt32 (strtol 16 (memory.drop q.mark))
    .ok { s with parser :=
      { q with chunked := true, content_len := content_len, chunks_done := content_len ≤ 0 } }
  | .trans_chunked => .ok { s with parser := { q with chunked := true } }
  | .done => .ok { s with parser := { q with body_start := fpc + 1 } }

/-- What `httpclient_parser_execute` does before the machine runs. -/
def enter (s : HttpResponseParser) : HttpResponseParser :=
  { s with parser := { s.parser with nread := 0, mark := 0, field_len := 0, field_start := 0 } }

/-- What `httpclient_parser_execute` does when the machine is in state `cs` at position `p`.  Where a
    `check` fails the result is `-1`, for `execute` a position outside of the buffer. -/
def leave (len cs p : ℕ) (s : HttpResponseParser) : Except Fault (ℕ × HttpResponseParser) :=
  let q := { s.parser with cs := cs, nread := s.parser.nread + p }
  if q.nread ≤ len ∧ q.body_start ≤ len ∧ q.mark < len ∧ 0 ≤ q.field_len ∧ q.field_len ≤ (len : ℤ) ∧
      q.field_start < len then
    .ok (q.nread, { s with parser := q })
  else .error .assertion

/-- `httpclient_parser_execute(parser, buffer, len, 0)`; a NUL has to stand after the `len` bytes. -/
def httpclient_parser_execute (s : HttpResponseParser) (buffer : List UInt8) (len : ℕ) :
    Except Fault (ℕ × HttpResponseParser) :=
  if buffer[len]? ≠ some 0 then .error .assertion
  else
    match machine.scan (act buffer) (buffer.take len) 0 s.parser.cs s.enter with
    | .error e => .error e
    | .ok (.goesOn cs s) => s.leave len cs len
    | .ok (.stops cs p s) => s.leave len cs p
    | .ok (.fails p s) => s.leave len HttpclientParser.error p

/-- `execute(data, len, chunck)`: the number of bytes parsed, and the buffer with what is left in
    front. -/
def execute (s : HttpResponseParser) (data : List UInt8) (len : ℕ) (chunck : Bool) :
    Except Fault (ℕ × HttpResponseParser × List UInt8) := do
  let s := if chunck then { s with parser := httpclient_parser_init s.parser.status } else s
  let (offset, s) ← s.httpclient_parser_execute data len
  return (offset, s, overwrite data 0 (slice data offset (len - offset)))

/-- Only the first of the final states counts. -/
def isFinished (s : HttpResponseParser) : ℤ :=
  if s.parser.cs = HttpclientParser.error then -1
  else if s.parser.cs = HttpclientParser.first_final then 1
  else 0

def hasError (s : HttpResponseParser) : Bool := s.error ≠ 0 || s.parser.cs = HttpclientParser.error

def getContentLength (lexical_cast : List UInt8 → Option UInt64) (s : HttpResponseParser) : UInt64 :=
  getHeaderAs lexical_cast s.data.headers (ascii "content-length")

end HttpResponseParser
end Ancfl.Http
