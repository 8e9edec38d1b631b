/-
  `HttpConnection::recvResponse`.

  * `recvHead` is its first loop, as in `HttpSession::recvRequest`;
  * `recvChunks` takes one chunk after the other: `recvSize` reads a size line,
    with the parser started anew each time, and `recvPayload` the bytes after
    it, for which `recvLeft` reads what the buffer does not hold yet;
  * `decode`: a body with a `content-encoding` is decompressed.
-/
import Ancfl.Http.ResponseParser
import Ancfl.Http.Session

namespace Ancfl.Http

open Lib

namespace HttpConnection

/-- The formats of a `ZlibStream`. -/
inductive ZlibType where
  | ZLIB | DEFLATE | GZIP
deriving DecidableEq

/-- The loop for the header, for at most so many turns: the parser, the buffer and `offset` when the
    header is complete, and `none` for `return nullptr`. -/
def recvHead (buff_size : ℕ) : ℕ → HttpResponseParser → List UInt8 → ℤ →
    Call Fault Stream (Option (HttpResponseParser × List UInt8 × ℤ))
  | 0, _, _, _ => Call.undefined
  | turns + 1, parser, data, offset => do
    let (len, bytes) ← Stream.read (toUInt64 (buff_size - offset))
    let data := overwrite data offset.toNat bytes
    if len ≤ 0 then
      Stream.close
      return none
    else
      let len := toInt32 (len + offset)
      let data := overwrite data len.toNat [0]
      let (nparse, parser, data) ← runParser (parser.execute data len.toNat false)
      if parser.hasError then
        Stream.close
        return none
      else
        let offset := toInt32 (len - nparse)
        if offset = toInt32 buff_size then
          Stream.close
          return none
        else if parser.isFinished ≠ 0 then return some (parser, data, offset)
        else recvHead buff_size turns parser data offset

/-! ## Chunks -/

/-- The read of the loop for a size line: the buffer and `len` after it. -/
def fill (buff_size : ℕ) (data : List UInt8) (len : ℤ) :
    Call Fault Stream (Option (List UInt8 × ℤ)) := do
  let (rt, bytes) ← Stream.read (toUInt64 (buff_size - len))
  let data := overwrite data len.toNat bytes
  if rt ≤ 0 then
    Stream.close
    return none
  else return some (data, toInt32 (len + rt))

/-- The loop for a size line. -/
def recvSize (buff_size : ℕ) : ℕ → Bool → HttpResponseParser → List UInt8 → ℤ →
    Call Fault Stream (Option (HttpResponseParser × List UInt8 × ℤ))
  | 0, _, _, _, _ => Call.undefined
  | turns + 1, start, parser, data, len => do
    match ← if !start || len = 0 then fill buff_size data len else pure (some (data, len)) with
    | none => return none
    | some (data, len) =>
      let data := overwrite data len.toNat [0]
      let (nparse, parser, data) ← runParser (parser.execute data len.toNat true)
      if parser.hasError then
        Stream.close
        return none
      else
        let len := toInt32 (len - nparse)
        if len = toInt32 buff_size then
          Stream.close
          return none
        else if parser.isFinished ≠ 0 then return some (parser, data, len)
        else recvSize buff_size turns false parser data len

/-- The loop for the `left` bytes of a chunk that the buffer does not hold. -/
def recvLeft (buff_size : ℕ) : ℕ → ℤ → List UInt8 → List UInt8 →
    Call Fault Stream (Option (List UInt8 × List UInt8))
  | 0, _, _, _ => Call.undefined
  | turns + 1, left, body, data =>
    if left ≤ 0 then return some (body, data)
    else do
      let (rt, bytes) ← Stream.read
        (toUInt64 (if toInt32 buff_size < left then toInt32 buff_size else left))
      let data := overwrite data 0 bytes
      if rt ≤ 0 then
        Stream.close
        return none
      else recvLeft buff_size turns (left - rt) (body ++ data.take rt.toNat) data

/-- `body.append(data, n)` -/
def append (body data : List UInt8) (n : ℤ) : Call Fault Stream (List UInt8) :=
  if n < 0 then .throw .length_error else return body ++ data.take n.toNat

/-- The bytes of a chunk and the two bytes after them: the body, the buffer and `len`. -/
def recvPayload (buff_size : ℕ) (content_len : ℤ) (body data : List UInt8) (len : ℤ) :
    Call Fault Stream (Option (List UInt8 × List UInt8 × ℤ)) := do
  if toInt32 (content_len + 2) ≤ len then
    let body ← append body data content_len
    let data := overwrite data 0 (slice data (content_len + 2).toNat (len - content_len - 2).toNat)
    return some (body, data, toInt32 (len - (content_len + 2)))
  else
    let body := body ++ data.take len.toNat
    let left := toInt32 (content_len - len + 2)
    match ← recvLeft buff_size (left.toNat + 1) left body data with
    | none => return none
    | some (body, data) =>
      if body.length < 2 then .throw .length_error
      else return some (Ws.resize body (body.length - 2), data, 0)

/-- The loop over the chunks, for at most so many of them. -/
def recvChunks (buff_size : ℕ) : ℕ → HttpResponseParser → List UInt8 → List UInt8 → ℤ →
    Call Fault Stream (Option (HttpResponseParser × List UInt8))
  | 0, _, _, _, _ => Call.undefined
  | turns + 1, parser, body, data, len => do
    match ← recvSize buff_size (turns + 1) true parser data len with
    | none => return none
    | some (parser, data, len) =>
      match ← recvPayload buff_size parser.parser.content_len body data len with
      | none => return none
      | some (body, data, len) =>
        if parser.parser.chunks_done then return some (parser, body)
        else recvChunks buff_size turns parser body data len

/-! ## Responses -/

/-- The body, decompressed if the response says so; `inflate` is what a `ZlibStream` makes of it. -/
def decode (inflate : ZlibType → List UInt8 → List UInt8) (r : HttpResponse) : List UInt8 :=
  let content_encoding := cStr (r.getHeader (ascii "content-encoding"))
  if strcasecmp content_encoding (ascii "gzip") = .eq then inflate .GZIP r.body
  else if strcasecmp content_encoding (ascii "deflate") = .eq then inflate .DEFLATE r.body
  else r.body

/-- What `recvResponse` does with a body that is not empty. -/
def finish (inflate : ZlibType → List UInt8 → List UInt8) (r : HttpResponse) : HttpResponse :=
  if r.body ≠ [] then { r with body := decode inflate r } else r

/-- `recvResponse`, for a new parser and a new buffer of `buff_size + 1` bytes, both with what was in
    memory before; `lexical_cast` is `boost::lexical_cast<uint64_t>`.  The stream and the buffer have
    fewer turns of the loops than bytes. -/
def recvResponse (lexical_cast : List UInt8 → Option UInt64)
    (inflate : ZlibType → List UInt8 → List UInt8) (status : ℤ) (buffer : List UInt8) :
    Call Fault Stream (Option HttpResponse) := do
  let buff_size := buffer.length - 1
  let turns ← Call.gets fun s : Stream => s.pending + 1
  match ← recvHead buff_size turns (.new status) buffer 0 with
  | none => return none
  | some (parser, data, offset) =>
    if parser.parser.chunked then
      let turns ← Call.gets fun s : Stream => s.pending + offset.toNat + 1
      match ← recvChunks buff_size turns parser [] data offset with
      | none => return none
      | some (parser, body) => return some (finish inflate { parser.data with body := body })
    else
      let length := toInt64 (parser.getContentLength lexical_cast).toNat
      if 0 < length then
        match ← HttpSession.recvBody length data offset with
        | none => return none
        | some body => return some (finish inflate { parser.data with body := body })
      else return some (finish inflate parser.data)

end HttpConnection
end Ancfl.Http
