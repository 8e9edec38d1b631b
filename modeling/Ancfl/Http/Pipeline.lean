/-
  Requests back to back.

  * `Request`: the bytes of one request, with what the machine reads in them;
  * `recvAll`: `recvRequest`, called once for each buffer;
  * `Separated`: no read ends inside of an element, and the read that brings
    the end of a header brings nothing of the next request;
  * `pipelined_of_separated`: then the calls return the requests in order;
    `not_pipelined`: two requests in one read.
-/
import Ancfl.Http.Segmentation

namespace Ancfl.Http

open Lib

namespace HttpSession

variable {lexical_cast : List UInt8 → Option UInt64} {u : HttpParser.Uninit} {size : ℕ}

/-- The bytes of a request, header and body. -/
structure Request (lexical_cast : List UInt8 → Option UInt64) (u : HttpParser.Uninit) where
  bytes : List UInt8
  head : ℕ
  body : ℕ
  request : HttpRequest
  parse_eq : parse lexical_cast u bytes = some (head, body, request)
  length_eq : bytes.length = head + body

/-- `recvRequest`, called for one buffer after the other. -/
def recvAll (lexical_cast : List UInt8 → Option UInt64) (u : HttpParser.Uninit) :
    List (List UInt8) → Call Fault Stream (List (Option HttpRequest))
  | [] => return []
  | buffer :: buffers => do
    let r ← recvRequest lexical_cast u buffer
    return r :: (← recvAll lexical_cast u buffers)

/-- **The requests come in order**, one a call, whatever was in the buffers before. -/
def Pipelined (size : ℕ) (requests : List (Request lexical_cast u)) (st : Stream) : Prop :=
  ∀ buffers : List (List UInt8), buffers.length = requests.length →
    (∀ buffer ∈ buffers, buffer.length = size) →
    ∃ st', recvAll lexical_cast u buffers st = .ret (requests.map fun q => some q.request) st'

/-- No read ends inside of an element, and one ends in the body or at the end of each request. -/
def Separated (size : ℕ) : List (Request lexical_cast u) → List (List UInt8) → Prop
  | [], _ => True
  | q :: requests, pieces =>
    Uncut u size q.bytes pieces ∧
      (∃ c, Stream.ReadEnd size pieces c ∧ q.head ≤ c ∧ c ≤ q.bytes.length) ∧
      Separated size requests (Stream.dropPieces q.bytes.length pieces)

theorem recvAll_ret (hpos : 0 < size) (hsize : size < 2 ^ 31) :
    ∀ {requests : List (Request lexical_cast u)} {st : Stream},
      (∀ q ∈ requests, q.bytes.length < 2 ^ 31) →
      Stream.Delivers st (requests.map Request.bytes).flatten → Separated size requests st.incoming →
      Pipelined size requests st
  | [], st, _, _, _, buffers, hlen, _ => by
    obtain rfl := List.length_eq_zero_iff.1 hlen
    exact ⟨st, rfl⟩
  | q :: requests, st, hbytes, hst, ⟨huncut, hend, hsep⟩, buffers, hlen, hbuffers => by
    obtain ⟨buffer, buffers, rfl⟩ := List.exists_cons_of_length_eq_add_one hlen
    obtain ⟨st₁, hret, hrest⟩ := recvRequest_ret q.parse_eq (hbuffers buffer (by simp)) hpos hsize
      (hbytes q (by simp)) hst huncut hend
    obtain ⟨hst₁, hin₁⟩ := hrest q.length_eq
    obtain ⟨st₂, hret₂⟩ := recvAll_ret hpos hsize
      (fun q' hq' => hbytes q' (List.mem_cons_of_mem _ hq')) hst₁ (hin₁ ▸ hsep) buffers
      (Nat.succ.inj hlen) fun b hb => hbuffers b (List.mem_cons_of_mem _ hb)
    refine ⟨st₂, ?_⟩
    rw [recvAll, Call.bind_ret hret, Call.bind_ret hret₂]
    rfl

theorem pipelined_of_separated (hpos : 0 < size) (hsize : size < 2 ^ 31)
    {requests : List (Request lexical_cast u)} {st : Stream}
    (hbytes : ∀ q ∈ requests, q.bytes.length < 2 ^ 31)
    (hst : Stream.Delivers st (requests.map Request.bytes).flatten)
    (hsep : Separated size requests st.incoming) : Pipelined size requests st :=
  recvAll_ret hpos hsize hbytes hst hsep

/-- The bytes are a request, if the machine takes all of them. -/
theorem exists_request {w : List UInt8}
    (h : (parse lexical_cast u w).map (fun x => x.1 + x.2.1) = some w.length) :
    ∃ q : Request lexical_cast u, q.bytes = w := by
  obtain ⟨⟨H, n, r⟩, hparse, hlen⟩ := Option.map_eq_some_iff.1 h
  exact ⟨⟨w, H, n, r, hparse, hlen.symm⟩, rfl⟩

/-- Two requests, each in a read of its own. -/
theorem pipelined_reads : ∃ q : Request decimal ⟨0, false⟩, q.bytes = ascii "GET /a HTTP/1.1\r\n\r\n" ∧
    Pipelined 32 [q, q] ⟨[q.bytes, q.bytes], [], [], false⟩ := by
  obtain ⟨q, hq⟩ : ∃ q : Request decimal ⟨0, false⟩, q.bytes = ascii "GET /a HTTP/1.1\r\n\r\n" :=
    exists_request (by decide +kernel)
  have hlen : q.bytes.length ≤ 32 := by rw [hq]; decide
  have hne : q.bytes ≠ [] := by rw [hq]; decide
  have hhead : q.head ≤ q.bytes.length := by rw [q.length_eq]; omega
  have hend (pieces : List (List UInt8)) : ∃ c, Stream.ReadEnd 32 (q.bytes :: pieces) c ∧
      q.head ≤ c ∧ c ≤ q.bytes.length :=
    ⟨_, .here q.bytes pieces, by omega, by omega⟩
  have hdrop : Stream.dropPieces q.bytes.length [q.bytes, q.bytes] = [q.bytes] := by
    rw [Stream.dropPieces, if_pos le_rfl, Nat.sub_self, Stream.dropPieces_zero (by simpa using hne)]
  refine ⟨q, hq, pipelined_of_separated (by decide) (by decide) ?_ ⟨rfl, ?_, ?_, ?_⟩
    ⟨uncut_whole hlen _, hend _, ?_⟩⟩
  · simp only [List.mem_cons, List.not_mem_nil, or_false, or_self, forall_eq]
    omega
  · simpa using hne
  · simp
  · simp
  · rw [hdrop]
    exact ⟨uncut_whole hlen _, hend _, trivial⟩

/-- Which of the calls returned a request. -/
def found : Out Fault Stream (List (Option HttpRequest)) → List Bool
  | .ret rs _ => rs.map Option.isSome
  | _ => []

/-- Two requests in one read: the second one is lost. -/
theorem not_pipelined : ¬ ∀ (u : HttpParser.Uninit) (size : ℕ) (requests : List (Request decimal u))
    (st : Stream), 0 < size → size < 2 ^ 31 → (∀ q ∈ requests, q.bytes.length < 2 ^ 31) →
    Stream.Delivers st (requests.map Request.bytes).flatten → Pipelined size requests st := by
  intro h
  obtain ⟨q, hq⟩ : ∃ q : Request decimal ⟨0, false⟩, q.bytes = ascii "GET /a HTTP/1.1\r\n\r\n" :=
    exists_request (by decide +kernel)
  obtain ⟨st, hret⟩ := h ⟨0, false⟩ 64 [q, q] ⟨[q.bytes ++ q.bytes], [], [], false⟩ (by decide)
    (by decide) (by rw [List.forall_mem_cons, List.forall_mem_singleton, hq]; decide)
    ⟨rfl, by rw [hq]; decide, by simp, by simp⟩ [List.replicate 64 0, List.replicate 64 0] rfl
    (by simp)
  have hfound : found (.ret ([q, q].map fun q => some q.request) st) = [true, false] := by
    rw [← hret, hq]
    decide +kernel
  cases hfound

end HttpSession
end Ancfl.Http
