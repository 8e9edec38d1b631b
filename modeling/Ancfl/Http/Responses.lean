/-
  Responses, from a session to a client.

  * `recvResponse_dump`: a response that is sent is returned, in whatever pieces
    it comes, and the bytes after it stay in the stream;
  * `recvAll`: `recvResponse`, called once for each buffer;
  * `returned_in_order`: responses that are sent one after the other are
    returned one after the other;
  * `answered`: what a client sends to an `HttpServer` comes back as the answers
    of its servlets.
-/
import Ancfl.Http.Chunked
import Ancfl.Http.Exchange
import Ancfl.Http.ResponseText
import Ancfl.Http.Server

namespace Ancfl.Http

open Lib ResponseText

namespace HttpConnection

open HttpResponseParser (read related_fresh)
open HttpclientParser (machine)

variable {lexical_cast : List UInt8 → Option UInt64} {inflate : ZlibType → List UInt8 → List UInt8} {size : ℕ}
  {r : HttpResponse}

/-- `q` is the response that was sent as `r`. -/
structure Returned (inflate : ZlibType → List UInt8 → List UInt8) (r q : HttpResponse) : Prop where
  status : q.status = r.status
  version : q.version = r.version
  reason : q.reason = r.reasonText
  headers : ∀ key, q.headers.find key = sentHeader r key
  body : q.body = plain inflate r r.body

/-- The response as `recvResponse` returns it. -/
def received (inflate : ZlibType → List UInt8 → List UInt8) (r : HttpResponse) : HttpResponse :=
  finish inflate { r.readHead with body := r.body }

theorem returned_of (inflate : ZlibType → List UInt8 → List UInt8) (r : HttpResponse) :
    Returned inflate r (received inflate r) := by
  have hencoding : r.readHead.getHeader (ascii "content-encoding") = r.getHeader (ascii "content-encoding") := by
    rw [HttpResponse.getHeader, HttpResponse.getHeader, find_readHead, sentHeader, if_neg (fun h => absurd h.2 (by decide)),
      if_neg (by decide), if_neg (by decide), Option.none_or]
  have hbody : (received inflate r).body = plain inflate r r.body := by
    rw [received, finish_body, plain, plain, hencoding]
  have hhead : (received inflate r).status = r.status ∧ (received inflate r).version = r.version ∧
      (received inflate r).reason = r.reasonText ∧ (received inflate r).headers = r.readHead.headers := by
    rw [received, finish]
    split_ifs <;> exact ⟨rfl, rfl, rfl, rfl⟩
  obtain ⟨hstatus, hversion, hreason, hheaders⟩ := hhead
  exact ⟨hstatus, hversion, hreason, fun key => by rw [hheaders, find_readHead], hbody⟩

theorem getContentLength_readHead (h : r.Sendable)
    (hcast : ∀ n < 2 ^ 64, lexical_cast (decimal n) = some (UInt64.ofNat n)) :
    toInt64 (getHeaderAs lexical_cast r.readHead.headers (ascii "content-length")).toNat = r.body.length := by
  have hfit := h.fits
  rw [HttpResponse.length_dump h.websocket] at hfit
  rw [getHeaderAs, find_readHead, sentHeader]
  by_cases hbody : r.body = []
  · have hnone : (none : Option (List UInt8)).bind lexical_cast = none := rfl
    rw [if_neg (fun hb => hb.1 hbody), if_neg (by decide), if_neg (by decide), Option.none_or, h.length hbody, hbody, hnone]
    decide
  · have hlt : r.body.length < 2 ^ 64 := by omega
    rw [if_pos ⟨hbody, by decide⟩, Option.bind_some, hcast _ hlt, Option.getD_some, UInt64.toNat_ofNat', Nat.mod_eq_of_lt hlt,
      toInt64_natCast (by omega)]

/-- The body of a response, when the buffer holds the first `k` bytes of it. -/
theorem recvBody_buffered {body rest data : List UInt8} {st : Stream} {k : ℕ} (hbody : body ≠ [])
    (hlen : body.length < 2 ^ 31) (hk : k ≤ body.length) (h : Buffered size k data st (body ++ rest)) :
    ∃ st', HttpSession.recvBody body.length data k st = .ret (some body) st' ∧ Stream.Delivers st' rest ∧
      st'.incoming = Stream.dropPieces (body.length - k) st.incoming := by
  have hwhole : slice body 0 body.length = body := by rw [slice, List.drop_zero, List.take_length]
  have hdata : data.take (k - 0) = slice body 0 (k - 0) := by
    rw [Nat.sub_zero, h.take_eq, slice, List.drop_zero, List.take_append_of_le_length hk]
  have hst : Stream.Delivers st (body.drop k ++ rest) := by
    rw [← List.drop_append_of_le_length hk]
    exact h.delivers
  obtain ⟨st', hret, hrest⟩ := HttpSession.recvBody_ret (List.length_pos_iff.2 hbody) (Nat.zero_le k) hk
    (Nat.zero_add _).le hlen hdata hst
  obtain ⟨hst', hin⟩ := hrest (by omega)
  rw [Nat.zero_add] at hst' hin
  rw [hwhole, Nat.sub_zero] at hret
  rw [List.drop_length, List.nil_append] at hst'
  exact ⟨st', hret, hst', hin⟩

/-- **A response that is sent** is returned, in whatever pieces it comes, and the bytes after it stay in the stream. -/
theorem recvResponse_dump (inflate : ZlibType → List UInt8 → List UInt8) {buffer rest : List UInt8} {st : Stream}
    (h : r.Sendable) (hcast : ∀ n < 2 ^ 64, lexical_cast (decimal n) = some (UInt64.ofNat n)) (status : ℤ) (hpos : 0 < size)
    (hsize : size < 2 ^ 31) (hbuffer : buffer.length = size + 1) (hst : Stream.Delivers st (r.dump ++ rest))
    (huncut : Uncut size (r.head ++ crlf) st.incoming)
    (hend : ∃ c, Stream.ReadEnd size st.incoming c ∧ (r.head ++ crlf).length ≤ c ∧ c ≤ r.dump.length) :
    ∃ st', recvResponse lexical_cast inflate status buffer st = .ret (some (received inflate r)) st' ∧
      Stream.Delivers st' rest ∧ st'.incoming = Stream.dropPieces r.dump.length st.incoming := by
  obtain ⟨S, hS, hscan⟩ := scan_head h 0
  have hlength := getContentLength_readHead h hcast
  have hdump : r.dump = r.head ++ crlf ++ r.body := by rw [HttpResponse.dump_eq h.websocket, List.append_assoc]
  have hfits := h.fits
  generalize hhead : r.head ++ crlf = head at hscan huncut hend hdump
  rw [hdump, List.length_append] at hend hfits
  rw [hdump, List.append_assoc] at hst
  have hinHead : InHead head (r.body ++ rest) size S 0 (.new status) st := by
    refine ⟨hst, {}, _, fun e => related_fresh head e 0 status {}, hscan, fun x hx =>
      ⟨fun hsplit => absurd hsplit.1 (Nat.not_lt_zero _), fun c hc => ?_⟩⟩
    rw [Nat.zero_add]
    exact huncut x hx c hc
  have hturns : (head.drop 0 ++ (r.body ++ rest)).length < st.pending + 1 := by
    rw [Stream.pending, hst.flatten_eq]
    exact Nat.lt_succ_self _
  obtain ⟨s', data', st₁, k, hret, hsame, hbuffered, hfirst, hin₁⟩ :=
    recvHead_ret hS.error hpos hsize (st.pending + 1) hbuffer hinHead hturns
  rw [Nat.sub_zero] at hfirst hin₁
  -- the read that brings the end of the head brings nothing of the bytes after the body
  have hk : k ≤ r.body.length := by
    obtain ⟨c, hc, hlow, hhigh⟩ := hend
    by_contra hlt
    have := hfirst.2 c hc (by omega)
    omega
  rw [hdump, List.length_append]
  unfold recvResponse
  rw [hbuffer, Nat.add_sub_cancel, Call.bind_ret (Call.gets_apply _ _), Call.bind_ret hret]
  dsimp only
  rw [hsame.chunked, hS.whole, if_neg Bool.false_ne_true, HttpResponseParser.getContentLength, hsame.data, hS.data, hlength]
  by_cases hbody : r.body = []
  · obtain rfl : k = 0 := by simpa [hbody] using hk
    rw [if_neg (by simp [hbody]), received, hbody]
    refine ⟨st₁, rfl, ?_, hin₁⟩
    simpa [hbody] using hbuffered.delivers
  · obtain ⟨st₂, hret₂, hst₂, hin₂⟩ := recvBody_buffered hbody (by omega) hk hbuffered
    rw [if_pos (by exact_mod_cast List.length_pos_iff.2 hbody), Call.bind_ret hret₂]
    refine ⟨st₂, rfl, hst₂, ?_⟩
    rw [hin₂, hin₁, Stream.dropPieces_add _ _ hst.pieces, Nat.add_assoc, Nat.add_sub_cancel' hk]

/-! ## Responses one after the other -/

/-- `recvResponse`, called for one buffer after the other. -/
def recvAll (lexical_cast : List UInt8 → Option UInt64) (inflate : ZlibType → List UInt8 → List UInt8) (status : ℤ) :
    List (List UInt8) → Call Fault Stream (List (Option HttpResponse))
  | [] => return []
  | buffer :: buffers => do
    let r ← recvResponse lexical_cast inflate status buffer
    return r :: (← recvAll lexical_cast inflate status buffers)

/-- No read ends inside of an element, and one ends in the body or at the end of each response. -/
def Separated (size : ℕ) : List HttpResponse → List (List UInt8) → Prop
  | [], _ => True
  | r :: responses, pieces =>
    Uncut size (r.head ++ crlf) pieces ∧
      (∃ c, Stream.ReadEnd size pieces c ∧ (r.head ++ crlf).length ≤ c ∧ c ≤ r.dump.length) ∧
      Separated size responses (Stream.dropPieces r.dump.length pieces)

theorem recvAll_ret (hcast : ∀ n < 2 ^ 64, lexical_cast (decimal n) = some (UInt64.ofNat n)) (status : ℤ) (hpos : 0 < size)
    (hsize : size < 2 ^ 31) {responses : List HttpResponse} {st : Stream} {buffers : List (List UInt8)}
    (hsend : ∀ r ∈ responses, r.Sendable) (hst : Stream.Delivers st (responses.flatMap HttpResponse.dump))
    (hsep : Separated size responses st.incoming) (hlen : buffers.length = responses.length)
    (hbuffers : ∀ buffer ∈ buffers, buffer.length = size + 1) :
    ∃ st', recvAll lexical_cast inflate status buffers st =
      .ret (responses.map fun r => some (received inflate r)) st' := by
  induction responses generalizing st buffers with
  | nil =>
    obtain rfl := List.length_eq_zero_iff.1 hlen
    exact ⟨st, rfl⟩
  | cons r responses ih =>
    obtain ⟨huncut, hend, hsep⟩ := hsep
    obtain ⟨buffer, buffers, rfl⟩ := List.exists_cons_of_length_eq_add_one hlen
    rw [List.flatMap_cons] at hst
    obtain ⟨st₁, hret, hst₁, hin₁⟩ := recvResponse_dump inflate (hsend r List.mem_cons_self) hcast status hpos
      hsize (hbuffers buffer List.mem_cons_self) hst huncut hend
    obtain ⟨st₂, hret₂⟩ := ih (fun r' hr' => hsend r' (List.mem_cons_of_mem _ hr')) hst₁ (hin₁ ▸ hsep)
      (Nat.succ.inj hlen) fun b hb => hbuffers b (List.mem_cons_of_mem _ hb)
    refine ⟨st₂, ?_⟩
    rw [recvAll, Call.bind_ret hret, Call.bind_ret hret₂]
    rfl

theorem forall₂_returned (inflate : ZlibType → List UInt8 → List UInt8) (responses : List HttpResponse) :
    List.Forall₂ (fun r answer => ∃ q, answer = some q ∧ Returned inflate r q) responses
      (responses.map fun r => some (received inflate r)) := by
  rw [List.forall₂_map_right_iff, List.forall₂_same]
  exact fun r _ => ⟨_, rfl, returned_of inflate r⟩

/-- Each response in a read of its own. -/
theorem separated_of_reads : ∀ {responses : List HttpResponse},
    (∀ r ∈ responses, r.websocket = false ∧ r.dump.length ≤ size ∧ r.dump ≠ []) →
      Separated size responses (responses.map HttpResponse.dump)
  | [], _ => trivial
  | r :: responses, h => by
    obtain ⟨hsocket, hfit, hne⟩ := h r List.mem_cons_self
    have hrest : ∀ r' ∈ responses, r'.websocket = false ∧ r'.dump.length ≤ size ∧ r'.dump ≠ [] :=
      fun r' hr' => h r' (List.mem_cons_of_mem _ hr')
    have hpieces : ∀ piece ∈ responses.map HttpResponse.dump, piece ≠ [] := by
      intro piece hp
      obtain ⟨r', hr', rfl⟩ := List.mem_map.1 hp
      exact (hrest r' hr').2.2
    have hhead : (r.head ++ crlf).length ≤ r.dump.length := by
      rw [HttpResponse.length_dump hsocket, List.length_append]
      exact Nat.le_add_right _ _
    refine ⟨uncut_of_first hhead hfit, ⟨_, .here r.dump _, by omega, Nat.min_le_right _ _⟩, ?_⟩
    rw [List.map_cons, Stream.dropPieces, if_pos le_rfl, Nat.sub_self, Stream.dropPieces_zero hpieces]
    exact separated_of_reads hrest

/-- **What a client asks is answered**: of requests that are sent one after the other to an `HttpServer`, the
    answers of its servlets are returned one after the other, each as the servlet left it, up to the one after
    which the connection is not kept. -/
theorem answered (u : HttpParser.Uninit) (inflate : ZlibType → List UInt8 → List UInt8) (status : ℤ) {size size' : ℕ}
    (hpos : 0 < size) (hsize : size < 2 ^ 31) (hpos' : 0 < size') (hsize' : size' < 2 ^ 31)
    (hcast : ∀ n < 2 ^ 64, lexical_cast (decimal n) = some (UInt64.ofNat n))
    {fnmatch : List UInt8 → List UInt8 → Bool} {server : HttpServer} {requests : List HttpRequest}
    {responses : List HttpResponse} (hsend : ∀ r ∈ requests, Sendable r)
    (hresponses : server.responses fnmatch 0 (requests.map HttpRequest.received) = responses)
    (hanswer : ∀ r ∈ responses, r.Sendable) {client : Stream} (hclient : Stream.Sent client []) :
    ∃ client', sendAll requests client = .ret (requests.map fun r => toInt32 r.dump.length) client' ∧
      client'.sent = (requests.map HttpRequest.dump).flatten ∧
      ∀ session : Stream, Stream.Delivers session client'.sent → session.sent = [] →
        HttpSession.Separated size (requests.pmap (text u hcast) hsend) session.incoming →
        ∀ buffers : List (List UInt8), requests.length < buffers.length → (∀ buffer ∈ buffers, buffer.length = size) →
          ∃ session', server.handleClient fnmatch lexical_cast u buffers session = .ret () session' ∧
            session'.sent = responses.flatMap HttpResponse.dump ∧
            ∀ st : Stream, Stream.Delivers st session'.sent → Separated size' responses st.incoming →
              ∀ buffers' : List (List UInt8), buffers'.length = responses.length →
                (∀ buffer ∈ buffers', buffer.length = size' + 1) →
                ∃ answers st', recvAll lexical_cast inflate status buffers' st = .ret answers st' ∧
                  List.Forall₂ (fun r answer => ∃ q, answer = some q ∧ Returned inflate r q) responses answers := by
  obtain ⟨client', hret, hsent⟩ := sendAll_ret requests hclient
  refine ⟨client', hret, hsent.sent_eq, fun session hsession hempty hsep buffers hlen hbuffers => ?_⟩
  rw [hsent.sent_eq, List.nil_append, ← bytes_texts u hcast hsend] at hsession
  have hcount : (requests.pmap (text u hcast) hsend).length < buffers.length := by rwa [List.length_pmap]
  obtain ⟨session₁, hserve, hwritten⟩ : ∃ session₁, server.serve fnmatch lexical_cast u 0 buffers session =
      .ret () session₁ ∧ session₁.sent = session.sent ++ (server.responses fnmatch 0
        ((requests.pmap (text u hcast) hsend).map HttpSession.Request.request)).flatMap HttpResponse.dump :=
    HttpServer.serve_ret hpos hsize (length_texts_lt u hcast hsend) hsession hsep hcount hbuffers
  rw [hempty, List.nil_append, requests_texts, hresponses] at hwritten
  refine ⟨{ session₁ with closed := true }, ?_, hwritten, fun st hst hsep' buffers' hlen' hbuffers' => ?_⟩
  · rw [HttpServer.handleClient, Call.bind_ret hserve]
    rfl
  · obtain ⟨st', hret'⟩ := recvAll_ret hcast status hpos' hsize' hanswer (hwritten ▸ hst) hsep' hlen' hbuffers'
    exact ⟨_, st', hret', forall₂_returned inflate responses⟩

/-- The page of a server without servlets. -/
def notFound (m_name : List UInt8) : HttpResponse :=
  (NotFoundServlet m_name 0 {} (({ close := false } : HttpResponse).setHeader (ascii "Server") m_name)).2

theorem sendable_notFound :
    (notFound (ascii "ancfl")).Sendable ∧ (notFound (ascii "ancfl")).dump.length = 249 := by
  have hheaders : (∀ i ∈ (notFound (ascii "ancfl")).headers.entries, (i.1 ≠ [] ∧ ∀ c ∈ i.1, ResponseText.nameByte c = true) ∧
      i.1.map tolower ≠ ascii "transfer-encoding" ∧ (∀ c ∈ i.2, ResponseText.valueByte c = true) ∧
        ∀ c ∈ i.2.head?, ResponseText.valueStart c = true) ∧ (notFound (ascii "ancfl")).dump.length = 249 := by
    decide +kernel
  obtain ⟨hheaders, hlen⟩ := hheaders
  refine ⟨?_, hlen⟩
  exact {
    websocket := rfl
    status := ⟨by decide, by decide⟩
    version := .inl rfl
    reason := fun c hc => absurd hc List.not_mem_nil
    headers := fun i hi => by
      obtain ⟨⟨hne, hname⟩, hplain, hvalue, hstart⟩ := hheaders i hi
      exact ⟨hne, hname, hplain, hvalue, hstart⟩
    cookies := fun i hi => absurd hi List.not_mem_nil
    length := fun hbody => absurd hbody (List.cons_ne_nil _ _)
    fits := by omega }

/-- A client that asks a server without servlets twice. -/
theorem answered_twice :
    let fnmatch (pattern uri : List UInt8) : Bool := pattern == uri
    let server : HttpServer := ⟨true, ascii "ancfl", .new (NotFoundServlet (ascii "ancfl"))⟩
    ∃ r : HttpRequest, r.path = ascii "/a" ∧ ∃ q : HttpResponse, q.status = 404 ∧ ∃ session' answers st',
      server.handleClient fnmatch HttpSession.decimal ⟨0, false⟩ (List.replicate 3 (List.replicate 64 0))
        ⟨[r.dump, r.dump], [], [], false⟩ = .ret () session' ∧
      recvAll HttpSession.decimal (fun _ body => body) 0 (List.replicate 2 (List.replicate 257 0))
        ⟨[q.dump, q.dump], [], [], false⟩ = .ret answers st' ∧
      List.Forall₂ (fun r answer => ∃ q, answer = some q ∧ Returned (fun _ body => body) r q) [q, q] answers := by
  intro fnmatch server
  obtain ⟨r, hr, hpath, hversion, hclose, hlen⟩ : ∃ r : HttpRequest, Sendable r ∧ r.path = ascii "/a" ∧
      r.version = 0x11 ∧ r.close = false ∧ r.dump.length = 64 :=
    ⟨_, sendable_put, rfl, rfl, rfl, by decide +kernel⟩
  obtain ⟨q, hq, hstatus, hqlen, hresponses⟩ : ∃ q : HttpResponse, q.Sendable ∧ q.status = 404 ∧ q.dump.length = 249 ∧
      server.responses fnmatch 0 ([r, r].map HttpRequest.received) = [q, q] := by
    have hreceived := RequestText.received_of hr.websocket
    refine ⟨notFound (ascii "ancfl"), sendable_notFound.1, rfl, sendable_notFound.2, ?_⟩
    have hanswer (n : ℕ) : server.answer fnmatch n r.received = (r.received, notFound (ascii "ancfl")) := by
      rw [HttpServer.answer, hreceived.version, hversion, hreceived.close, hclose]
      rfl
    simp only [List.map_cons, List.map_nil, HttpServer.responses, hanswer, hreceived.close, hclose]
    rfl
  have hrne : r.dump ≠ [] := List.length_pos_iff.1 (by omega)
  have hqne : q.dump ≠ [] := List.length_pos_iff.1 (by omega)
  have hsend : ∀ r' ∈ [r, r], Sendable r' := by simp [hr]
  have hanswers : ∀ q' ∈ [q, q], q'.Sendable := by simp [hq]
  have hclient : Stream.Sent ⟨[], [], [], false⟩ [] := ⟨rfl, by simp, rfl⟩
  obtain ⟨client', -, hsent, hanswered⟩ := answered ⟨0, false⟩ (fun _ body => body) 0 (by decide : 0 < 64) (by decide)
    (by decide : 0 < 256) (by decide) (fun n hn => decimal_decimal hn) hsend hresponses hanswers hclient
  have hsession : HttpSession.Separated 64 ([r, r].pmap (text ⟨0, false⟩ fun n hn => decimal_decimal hn) hsend)
      [r.dump, r.dump] :=
    HttpServer.separated_of_reads (by simpa [text] using ⟨hlen.le, hrne⟩)
  obtain ⟨session', hserve, hwritten, hreturned⟩ := hanswered ⟨[r.dump, r.dump], [], [], false⟩
    ⟨rfl, by simpa using hrne, by simp, by simp [hsent]⟩ rfl hsession (List.replicate 3 (List.replicate 64 0))
    (Nat.lt_succ_self 2) (by simp)
  have hseparated : Separated 256 [q, q] [q.dump, q.dump] := by
    refine separated_of_reads ?_
    simp only [List.mem_cons, List.not_mem_nil, or_false, or_self, forall_eq]
    exact ⟨hq.websocket, by omega, hqne⟩
  refine ⟨r, hpath, q, hstatus, session', ?_⟩
  obtain ⟨answers, st', hret, hall⟩ := hreturned ⟨[q.dump, q.dump], [], [], false⟩
    ⟨rfl, by simpa using hqne, by simp, by simp [hwritten]⟩ hseparated
    (List.replicate 2 (List.replicate 257 0)) rfl fun buffer hbuffer => by
      rw [List.eq_of_mem_replicate hbuffer, List.length_replicate]
  exact ⟨answers, st', hserve, hret, hall⟩

end HttpConnection

end Ancfl.Http
