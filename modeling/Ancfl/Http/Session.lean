/-
  `HttpSession::recvRequest`.

  * `recvHead` is its loop: it reads into the buffer and runs the parser until
    the header is complete;
  * `recvBody` takes the body from the buffer, and the rest of it from the
    stream;
  * the buffer belongs to the call: what is left in it at the end is lost.
-/
import Ancfl.Http.RequestParser
import Ancfl.Stream.FixSize
import Ancfl.Ws.Session

namespace Ancfl.Http

open Lib

variable {σ : Type}

/-- A call of a parser, inside of another call. -/
def runParser {α : Type} : Except Fault α → Call Fault σ α
  | .ok a => return a
  | .error .length_error => fun s => .throw .length_error s
  | .error .assertion => Call.undefined

theorem runParser_ok {α : Type} (a : α) (s : σ) : (runParser (.ok a) : Call Fault σ α) s = .ret a s :=
  rfl

namespace HttpSession

/-- The loop of `recvRequest`, for at most so many turns: the parser, the buffer and `offset` when
    the header is complete, and `none` for `return nullptr`. -/
def recvHead : ℕ → HttpRequestParser → List UInt8 → ℤ →
    Call Fault Stream (Option (HttpRequestParser × List UInt8 × ℤ))
  | 0, _, _, _ => Call.undefined
  | turns + 1, parser, data, offset => do
    let buff_size := data.length
    let (len, bytes) ← Stream.read (toUInt64 (buff_size - offset))
    let data := overwrite data offset.toNat bytes
    if len ≤ 0 then
      Stream.close
      return none
    else
      let len := toInt32 (len + offset)
      let (nparse, parser, data) ← runParser (parser.execute data len.toNat)
      if parser.hasError then
        Stream.close
        return none
      else
        let offset := toInt32 (len - nparse)
        if offset = toInt32 buff_size then
          Stream.close
          return none
        else if parser.isFinished ≠ 0 then return some (parser, data, offset)
        else recvHead turns parser data offset

/-- The body of a request whose `Content-Length` is `length`: `none` for `return nullptr`. -/
def recvBody (length : ℤ) (data : List UInt8) (offset : ℤ) : Call Fault Stream (Option (List UInt8)) := do
  let body := Ws.resize [] length.toNat
  let len := if offset ≤ length then offset else length
  let body := overwrite body 0 (data.take len.toNat)
  let length := length - offset
  if 0 < length then
    let (v, bytes) ← Stream.readFixSize length.toNat
    if v ≤ 0 then
      Stream.close
      return none
    else return some (overwrite body len.toNat bytes)
  else return some body

/-- What `recvRequest` does with the header `Connection`. -/
def keepAlive (r : HttpRequest) : HttpRequest :=
  if strcasecmp (cStr (r.getHeader (ascii "Connection"))) (ascii "keep-alive") = .eq then
    { r with close := false }
  else r

/-- `recvRequest`, for a new parser and a new buffer, both with what was in memory before;
    `lexical_cast` is `boost::lexical_cast<uint64_t>`.  The stream has fewer turns of the loop than
    bytes. -/
def recvRequest (lexical_cast : List UInt8 → Option UInt64) (u : HttpParser.Uninit)
    (buffer : List UInt8) : Call Fault Stream (Option HttpRequest) := do
  let turns ← Call.gets fun s : Stream => s.pending + 1
  match ← recvHead turns (.new u) buffer 0 with
  | none => return none
  | some (parser, data, offset) =>
    let length := toInt64 (parser.getContentLength lexical_cast).toNat
    if 0 < length then
      match ← recvBody length data offset with
      | none => return none
      | some body => return some (keepAlive { parser.data with body := body })
    else return some (keepAlive parser.data)

end HttpSession
end Ancfl.Http
