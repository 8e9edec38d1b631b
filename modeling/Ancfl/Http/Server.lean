/-
  `HttpServer::handleClient`: requests are answered one after the other.

  * `HttpResponse.dump`: the bytes of a response; `sendResponse` writes them;
  * `serve` is the loop of `handleClient`, with a buffer for each call of
    `recvRequest`; a servlet is what it does with the n-th request of the client;
  * `responses`: the answers to some requests, up to the first after which the
    connection is not kept;
  * `answers_in_order`: what is written is these answers, in order, and the
    session is closed.
-/
import Ancfl.Http.Decimal
import Ancfl.Http.Pipeline
import Ancfl.Http.Servlet
import Ancfl.Lib.Frame

namespace Ancfl.Http

open Lib

/-! ## Responses -/

def HTTP_STATUS_MAP : List (ℤ × String) := [
  (100, "Continue"), (101, "Switching Protocols"), (102, "Processing"),
  (200, "OK"), (201, "Created"), (202, "Accepted"), (203, "Non - Authoritative Information"),
  (204, "No Content"), (205, "Reset Content"), (206, "Partial Content"), (207, "Multi - Status"),
  (208, "Already Reported"), (226, "IM Used"),
  (300, "Multiple Choices"), (301, "Moved Permanently"), (302, "Found"), (303, "See Other"),
  (304, "Not Modified"), (305, "Use Proxy"), (307, "Temporary Redirect"), (308, "Permanent Redirect"),
  (400, "Bad Request"), (401, "Unauthorized"), (402, "Payment Required"), (403, "Forbidden"),
  (404, "Not Found"), (405, "Method Not Allowed"), (406, "Not Acceptable"),
  (407, "Proxy Authentication Required"), (408, "Request Timeout"), (409, "Conflict"), (410, "Gone"),
  (411, "Length Required"), (412, "Precondition Failed"), (413, "Payload Too Large"),
  (414, "URI Too Long"), (415, "Unsupported Media Type"), (416, "Range Not Satisfiable"),
  (417, "Expectation Failed"), (421, "Misdirected Request"), (422, "Unprocessable Entity"),
  (423, "Locked"), (424, "Failed Dependency"), (426, "Upgrade Required"),
  (428, "Precondition Required"), (429, "Too Many Requests"),
  (431, "Request Header Fields Too Large"), (451, "Unavailable For Legal Reasons"),
  (500, "Internal Server Error"), (501, "Not Implemented"), (502, "Bad Gateway"),
  (503, "Service Unavailable"), (504, "Gateway Timeout"), (505, "HTTP Version Not Supported"),
  (506, "Variant Also Negotiates"), (507, "Insufficient Storage"), (508, "Loop Detected"),
  (510, "Not Extended"), (511, "Network Authentication Required")]

def HttpStatusToString (s : ℤ) : List UInt8 :=
  match HTTP_STATUS_MAP.find? fun x => x.1 = s with
  | some x => ascii x.2
  | none => ascii "<unknown>"

namespace HttpResponse

/-- A header in `dump`. -/
def dumpHeader (websocket : Bool) (i : List UInt8 × List UInt8) : List UInt8 :=
  if !websocket && strcasecmp (cStr i.1) (ascii "connection") = .eq then []
  else i.1 ++ ascii ": " ++ i.2 ++ ascii "\r\n"

def dump (r : HttpResponse) : List UInt8 :=
  ascii "HTTP/" ++ Http.decimal (r.version >>> 4).toNat ++ ascii "." ++
    Http.decimal (r.version &&& 0x0F).toNat ++ ascii " " ++ Http.decimal (r.status % 2 ^ 32).toNat ++
    ascii " " ++ (if r.reason = [] then HttpStatusToString r.status else r.reason) ++ ascii "\r\n" ++
  r.headers.entries.flatMap (dumpHeader r.websocket) ++
  r.cookies.flatMap (fun i => ascii "Set-Cookie: " ++ i ++ ascii "\r\n") ++
  (if !r.websocket then
    ascii "connection: " ++ (if r.close then ascii "close" else ascii "keep-alive") ++ ascii "\r\n"
  else []) ++
  (if r.body ≠ [] then ascii "content-length: " ++ Http.decimal r.body.length ++ ascii "\r\n\r\n" ++ r.body
    else ascii "\r\n")

end HttpResponse

namespace HttpSession

def sendResponse (rsp : HttpResponse) : Call Fault Stream ℤ := Stream.writeFixSize rsp.dump

end HttpSession

/-! ## Servlets -/

/-- `handle` of a servlet, for the n-th request of a client: it may write to the request and to the
    response, and leaves the session alone. -/
abbrev Servlet := ℕ → HttpRequest → HttpResponse → HttpRequest × HttpResponse

def NotFoundServlet (m_name : List UInt8) : Servlet := fun _ request response =>
  let response := { response with status := 404 }
  let response := response.setHeader (ascii "Server") (ascii "ancfl/1.0.0")
  let response := response.setHeader (ascii "Content-Type") (ascii "text/html")
  (request, { response with
    body := ascii "<html><head><title>404 Not Found</title></head><body><center><h1>404 Not Found</h1></center>" ++
      ascii "<hr><center>" ++ m_name ++ ascii "</center></body></html>" })

def ServletDispatch.handle (fnmatch : List UInt8 → List UInt8 → Bool) (d : ServletDispatch Servlet) : Servlet :=
  fun n request response =>
    match d.getMatchedServlet fnmatch request.path with
    | some slt => slt n request response
    | none => (request, response)

/-! ## The server -/

structure HttpServer where
  m_isKeepalive : Bool
  m_name : List UInt8
  m_dispatch : ServletDispatch Servlet

namespace HttpServer

variable (fnmatch : List UInt8 → List UInt8 → Bool) (server : HttpServer)

/-- The request and the response, after the servlet. -/
def answer (n : ℕ) (req : HttpRequest) : HttpRequest × HttpResponse :=
  let rsp : HttpResponse := { version := req.version, close := req.close || !server.m_isKeepalive }
  server.m_dispatch.handle fnmatch n req (rsp.setHeader (ascii "Server") server.m_name)

/-- The loop of `handleClient`, from the n-th request on. -/
def serve (lexical_cast : List UInt8 → Option UInt64) (u : HttpParser.Uninit) :
    ℕ → List (List UInt8) → Call Fault Stream Unit
  | _, [] => Call.undefined
  | n, buffer :: buffers => do
    match ← HttpSession.recvRequest lexical_cast u buffer with
    | none => return ()
    | some req =>
      let (req, rsp) := server.answer fnmatch n req
      let _ ← HttpSession.sendResponse rsp
      if !server.m_isKeepalive || req.close then return ()
      else serve lexical_cast u (n + 1) buffers

def handleClient (lexical_cast : List UInt8 → Option UInt64) (u : HttpParser.Uninit)
    (buffers : List (List UInt8)) : Call Fault Stream Unit := do
  server.serve fnmatch lexical_cast u 0 buffers
  Stream.close

/-- The answers to the requests from the n-th on. -/
def responses : ℕ → List HttpRequest → List HttpResponse
  | _, [] => []
  | n, req :: requests =>
    let (req, rsp) := server.answer fnmatch n req
    rsp :: if !server.m_isKeepalive || req.close then [] else responses (n + 1) requests

end HttpServer

/-! ## What receiving leaves alone -/

open Call (Keeps)

theorem keeps_read (n : ℕ) : Keeps Stream.sent (Stream.read n : Call Fault Stream _) := by
  intro s a s' h
  unfold Stream.read at h
  split_ifs at h
  · cases h
    rfl
  · split at h <;> cases h <;> rfl

theorem keeps_close : Keeps Stream.sent (Stream.close : Call Fault Stream _) := Keeps.modify fun _ => rfl

theorem keeps_runParser {α : Type} (x : Except Fault α) : Keeps Stream.sent (runParser x) := by
  cases x with
  | ok a => exact Keeps.pure a
  | error e =>
    cases e with
    | length_error =>
      intro s a s' h
      cases h
    | assertion => exact Keeps.undefined

theorem keeps_readLoop (left : ℕ) : Keeps Stream.sent (Stream.readLoop left : Call Fault Stream _) := by
  induction left using Nat.strong_induction_on with
  | _ left ih =>
    rw [Stream.readLoop]
    split_ifs with h0
    · exact Keeps.pure _
    refine (keeps_read left).bind fun r => ?_
    obtain ⟨len, bytes⟩ := r
    dsimp only
    split_ifs with hlen
    · exact Keeps.pure _
    exact (ih _ (by omega)).bind fun _ => Keeps.pure _

theorem keeps_readFixSize (n : ℕ) : Keeps Stream.sent (Stream.readFixSize n : Call Fault Stream _) :=
  (keeps_readLoop _).bind fun _ => Keeps.pure _

namespace HttpSession

theorem keeps_recvHead (turns : ℕ) (parser : HttpRequestParser) (data : List UInt8) (offset : ℤ) :
    Keeps Stream.sent (recvHead turns parser data offset) := by
  induction turns generalizing parser data offset with
  | zero => exact Keeps.undefined
  | succ turns ih =>
    rw [recvHead]
    refine (keeps_read _).bind fun r => ?_
    obtain ⟨len, bytes⟩ := r
    dsimp only
    split_ifs
    · exact keeps_close.bind fun _ => Keeps.pure _
    refine (keeps_runParser _).bind fun r => ?_
    obtain ⟨nparse, parser, data⟩ := r
    dsimp only
    split_ifs
    · exact keeps_close.bind fun _ => Keeps.pure _
    · exact keeps_close.bind fun _ => Keeps.pure _
    · exact Keeps.pure _
    · exact ih parser data _

theorem keeps_recvBody (length : ℤ) (data : List UInt8) (offset : ℤ) :
    Keeps Stream.sent (recvBody length data offset) := by
  refine Keeps.ite ((keeps_readFixSize _).bind fun r => ?_) (Keeps.pure _)
  obtain ⟨v, bytes⟩ := r
  exact Keeps.ite (keeps_close.bind fun _ => Keeps.pure _) (Keeps.pure _)

/-- Nothing is written while a request is received. -/
theorem keeps_recvRequest (lexical_cast : List UInt8 → Option UInt64) (u : HttpParser.Uninit)
    (buffer : List UInt8) : Keeps Stream.sent (recvRequest lexical_cast u buffer) := by
  refine (Keeps.gets _).bind fun turns => (keeps_recvHead _ _ _ _).bind fun head => ?_
  rcases head with _ | ⟨parser, data, offset⟩
  · exact Keeps.pure _
  dsimp only
  split_ifs
  · refine (keeps_recvBody _ _ _).bind fun body => ?_
    cases body <;> exact Keeps.pure _
  · exact Keeps.pure _

end HttpSession

namespace HttpServer

open HttpSession (Request Separated)

variable {lexical_cast : List UInt8 → Option UInt64} {u : HttpParser.Uninit} {size : ℕ}
  {fnmatch : List UInt8 → List UInt8 → Bool} {server : HttpServer}

/-- At the end of the stream, a call of `recvRequest` closes the session. -/
theorem recvRequest_end {st : Stream} {buffer : List UInt8} (hst : Stream.Delivers st []) :
    HttpSession.recvRequest lexical_cast u buffer st = .ret none { st with closed := true } := by
  have hhead (n : ℕ) : HttpSession.recvHead (n + 1) (.new u) buffer 0 st = .ret none { st with closed := true } := by
    rw [HttpSession.recvHead, Call.bind_ret (Stream.read_end hst)]
    rfl
  unfold HttpSession.recvRequest
  rw [Call.bind_ret (Call.gets_apply _ _), Call.bind_ret (hhead _)]
  rfl

theorem serve_ret (hpos : 0 < size) (hsize : size < 2 ^ 31) :
    ∀ {requests : List (Request lexical_cast u)} {n : ℕ} {st : Stream} {buffers : List (List UInt8)},
      (∀ q ∈ requests, q.bytes.length < 2 ^ 31) →
      Stream.Delivers st (requests.map Request.bytes).flatten → Separated size requests st.incoming →
      requests.length < buffers.length → (∀ buffer ∈ buffers, buffer.length = size) →
      ∃ st', server.serve fnmatch lexical_cast u n buffers st = .ret () st' ∧ st'.sent = st.sent ++
        (server.responses fnmatch n (requests.map Request.request)).flatMap HttpResponse.dump
  | requests, n, st, [], _, _, _, hlen, _ => absurd hlen (Nat.not_lt_zero _)
  | [], n, st, buffer :: buffers, _, hst, _, _, _ => by
    refine ⟨{ st with closed := true }, ?_, by simp [responses]⟩
    rw [serve, Call.bind_ret (recvRequest_end hst)]
    rfl
  | q :: requests, n, st, buffer :: buffers, hbytes, hst, ⟨huncut, hend, hsep⟩, hlen, hbuffers => by
    obtain ⟨st₁, hret, hrest⟩ := HttpSession.recvRequest_ret q.parse_eq (hbuffers buffer (by simp)) hpos hsize
      (hbytes q (by simp)) hst huncut hend
    obtain ⟨hst₁, hin₁⟩ := hrest q.length_eq
    have hsent₁ : st₁.sent = st.sent := HttpSession.keeps_recvRequest _ _ _ _ _ _ hret
    cases hanswer : server.answer fnmatch n q.request with
    | mk req rsp =>
      obtain ⟨st₂, hsend, hst₂⟩ := Stream.writeFixSize_ret (ε := Fault) ⟨hst₁.is_open, hst₁.accepts, rfl⟩ rsp.dump
      have hin₂ : st₂.incoming = st₁.incoming := Stream.writeFixSize_incoming hsend
      rw [serve, Call.bind_ret hret]
      simp only [hanswer, List.map_cons, responses]
      rw [HttpSession.sendResponse, Call.bind_ret hsend]
      by_cases hclose : (!server.m_isKeepalive || req.close) = true
      · rw [if_pos hclose, if_pos hclose]
        exact ⟨st₂, rfl, by simp [hst₂.sent_eq, hsent₁]⟩
      · rw [if_neg hclose, if_neg hclose]
        have hst₂' : Stream.Delivers st₂ (requests.map Request.bytes).flatten :=
          ⟨hst₂.is_open, hin₂ ▸ hst₁.pieces, hst₂.accepts, hin₂ ▸ hst₁.flatten_eq⟩
        obtain ⟨st₃, hserve, hsent₃⟩ := serve_ret hpos hsize (n := n + 1)
          (fun q' hq' => hbytes q' (List.mem_cons_of_mem _ hq')) hst₂' (hin₂ ▸ hin₁ ▸ hsep)
          (Nat.lt_of_succ_lt_succ hlen) fun b hb => hbuffers b (List.mem_cons_of_mem _ hb)
        refine ⟨st₃, hserve, ?_⟩
        rw [hsent₃, hst₂.sent_eq, hsent₁, List.flatMap_cons, List.append_assoc]

/-- **What the server writes** to a client whose requests come one after the other are the answers to
    them, in order and whole, up to the one after which the connection is not kept. -/
theorem answers_in_order (hpos : 0 < size) (hsize : size < 2 ^ 31)
    {requests : List (Request lexical_cast u)} {st : Stream} {buffers : List (List UInt8)}
    (hbytes : ∀ q ∈ requests, q.bytes.length < 2 ^ 31)
    (hst : Stream.Delivers st (requests.map Request.bytes).flatten) (hsep : Separated size requests st.incoming)
    (hlen : requests.length < buffers.length) (hbuffers : ∀ buffer ∈ buffers, buffer.length = size) :
    ∃ st', server.handleClient fnmatch lexical_cast u buffers st = .ret () st' ∧ st'.closed = true ∧
      st'.sent = st.sent ++
        (server.responses fnmatch 0 (requests.map Request.request)).flatMap HttpResponse.dump := by
  obtain ⟨st', hserve, hsent⟩ := serve_ret hpos hsize hbytes hst hsep hlen hbuffers
  refine ⟨{ st' with closed := true }, ?_, rfl, hsent⟩
  rw [handleClient, Call.bind_ret hserve]
  rfl

/-- Each request in a read of its own. -/
theorem separated_of_reads : ∀ {requests : List (Request lexical_cast u)},
    (∀ q ∈ requests, q.bytes.length ≤ size ∧ q.bytes ≠ []) →
      Separated size requests (requests.map Request.bytes)
  | [], _ => trivial
  | q :: requests, h => by
    obtain ⟨hfit, hne⟩ := h q List.mem_cons_self
    have hrest : ∀ q' ∈ requests, q'.bytes.length ≤ size ∧ q'.bytes ≠ [] :=
      fun q' hq' => h q' (List.mem_cons_of_mem _ hq')
    have hpieces : ∀ piece ∈ requests.map Request.bytes, piece ≠ [] := by
      intro piece hp
      obtain ⟨q', hq', rfl⟩ := List.mem_map.1 hp
      exact (hrest q' hq').2
    refine ⟨HttpSession.uncut_whole hfit _, ⟨_, .here q.bytes _, ?_, ?_⟩, ?_⟩
    · have := q.length_eq
      omega
    · exact Nat.min_le_right _ _
    · rw [List.map_cons, Stream.dropPieces, if_pos le_rfl, Nat.sub_self, Stream.dropPieces_zero hpieces]
      exact separated_of_reads hrest

/-- Two requests of a client that keeps the connection. -/
theorem answers_in_order_two :
    let fnmatch (pattern uri : List UInt8) : Bool := pattern == uri
    let server : HttpServer := ⟨true, ascii "ancfl/1.0", .new (NotFoundServlet (ascii "ancfl/1.0"))⟩
    ∃ q : Request HttpSession.decimal ⟨0, false⟩,
      q.bytes = ascii "GET /a HTTP/1.1\r\nConnection: keep-alive\r\n\r\n" ∧
      ∃ st', server.handleClient fnmatch HttpSession.decimal ⟨0, false⟩ (List.replicate 3 (List.replicate 64 0))
        ⟨[q.bytes, q.bytes], [], [], false⟩ = .ret () st' ∧ st'.closed = true ∧
        st'.sent = (server.responses fnmatch 0 [q.request, q.request]).flatMap HttpResponse.dump := by
  intro fnmatch server
  obtain ⟨q, hq⟩ : ∃ q : Request HttpSession.decimal ⟨0, false⟩,
      q.bytes = ascii "GET /a HTTP/1.1\r\nConnection: keep-alive\r\n\r\n" :=
    HttpSession.exists_request (by decide +kernel)
  have hlen : q.bytes.length ≤ 64 := by rw [hq]; decide
  have hne : q.bytes ≠ [] := by rw [hq]; decide
  have hsep : Separated 64 [q, q] [q.bytes, q.bytes] := by
    refine separated_of_reads ?_
    simpa using ⟨hlen, hne⟩
  have hcount : [q, q].length < (List.replicate 3 (List.replicate 64 (0 : UInt8))).length := by
    rw [List.length_replicate]
    exact Nat.lt_succ_self 2
  refine ⟨q, hq, answers_in_order (by decide : 0 < 64) (by decide) ?_ ?_ hsep hcount ?_⟩
  · simp only [List.mem_cons, List.not_mem_nil, or_false, or_self, forall_eq]
    omega
  · exact ⟨rfl, by simpa using hne, by simp, by simp⟩
  · intro buffer hbuffer
    rw [List.eq_of_mem_replicate hbuffer, List.length_replicate]

end HttpServer
end Ancfl.Http
