/-
  Requests, from a client to a session.

  * `sendAll`: `sendRequest`, called for one request after the other;
  * `text`: the text of a request that can be sent, as the parser takes it;
  * `received_in_order`: what a client sends is what a session receives.
-/
import Ancfl.Http.Pipeline
import Ancfl.Http.RequestText

namespace Ancfl.Http

open Lib RequestText

namespace HttpConnection

def sendRequest (req : HttpRequest) : Call Fault Stream ℤ := Stream.writeFixSize req.dump

/-- `sendRequest`, called for one request after the other. -/
def sendAll : List HttpRequest → Call Fault Stream (List ℤ)
  | [] => return []
  | r :: requests => do
    let rt ← sendRequest r
    return rt :: (← sendAll requests)

theorem sendAll_ret : ∀ (requests : List HttpRequest) {client : Stream} {v : List UInt8}, Stream.Sent client v →
    ∃ client', sendAll requests client = .ret (requests.map fun r => toInt32 r.dump.length) client' ∧
      Stream.Sent client' (v ++ (requests.map HttpRequest.dump).flatten)
  | [], client, v, h => ⟨client, rfl, by simpa using h⟩
  | r :: requests, client, v, h => by
    obtain ⟨client₁, hret₁, h₁⟩ := Stream.writeFixSize_ret (ε := Fault) h r.dump
    obtain ⟨client₂, hret₂, h₂⟩ := sendAll_ret requests h₁
    refine ⟨client₂, ?_, by simpa using h₂⟩
    rw [sendAll, sendRequest, Call.bind_ret hret₁, Call.bind_ret hret₂]
    rfl

variable {lexical_cast : List UInt8 → Option UInt64}

/-- The text of a request that can be sent. -/
def text (u : HttpParser.Uninit) (hcast : ∀ n < 2 ^ 64, lexical_cast (decimal n) = some (UInt64.ofNat n))
    (r : HttpRequest) (h : Sendable r) : HttpSession.Request lexical_cast u where
  bytes := r.dump
  head := r.head.length + 2
  body := r.body.length
  request := r.received
  parse_eq := parse_dump h hcast u
  length_eq := length_dump h.websocket

section
variable (u : HttpParser.Uninit) (hcast : ∀ n < 2 ^ 64, lexical_cast (decimal n) = some (UInt64.ofNat n))
  {requests : List HttpRequest} (hsend : ∀ r ∈ requests, Sendable r)

theorem bytes_texts :
    (requests.pmap (text u hcast) hsend).map HttpSession.Request.bytes = requests.map HttpRequest.dump := by
  rw [List.map_pmap]
  exact List.pmap_eq_map ..

theorem requests_texts :
    (requests.pmap (text u hcast) hsend).map HttpSession.Request.request = requests.map HttpRequest.received := by
  rw [List.map_pmap]
  exact List.pmap_eq_map ..

theorem length_texts_lt : ∀ q ∈ requests.pmap (text u hcast) hsend, q.bytes.length < 2 ^ 31 := by
  intro q hq
  obtain ⟨r, hr, rfl⟩ := List.mem_pmap.1 hq
  exact (hsend r hr).fits

end

/-- **What a client sends is what a session receives**: requests that are sent one after the other are
    returned one after the other, each as it was sent. -/
theorem received_in_order (u : HttpParser.Uninit) (size : ℕ) (hpos : 0 < size) (hsize : size < 2 ^ 31)
    (hcast : ∀ n < 2 ^ 64, lexical_cast (decimal n) = some (UInt64.ofNat n)) {requests : List HttpRequest}
    (hsend : ∀ r ∈ requests, Sendable r) {client : Stream} (hclient : Stream.Sent client []) :
    ∃ client', sendAll requests client = .ret (requests.map fun r => (r.dump.length : ℤ)) client' ∧
      client'.sent = (requests.map HttpRequest.dump).flatten ∧ ∀ server : Stream, Stream.Delivers server client'.sent →
        HttpSession.Separated size (requests.pmap (text u hcast) hsend) server.incoming →
        ∀ buffers : List (List UInt8), buffers.length = requests.length →
          (∀ buffer ∈ buffers, buffer.length = size) →
          ∃ answers server', HttpSession.recvAll lexical_cast u buffers server = .ret answers server' ∧
            List.Forall₂ (fun r answer => ∃ q, answer = some q ∧ Received r q) requests answers := by
  obtain ⟨client', hret, hsent⟩ := sendAll_ret requests hclient
  have hlengths : (requests.map fun r => toInt32 r.dump.length) = requests.map fun r => (r.dump.length : ℤ) :=
    List.map_congr_left fun r hr => toInt32_natCast (hsend r hr).fits
  refine ⟨client', hlengths ▸ hret, hsent.sent_eq, fun server hserver hsep buffers hlen hbuffers => ?_⟩
  rw [hsent.sent_eq, List.nil_append, ← bytes_texts u hcast hsend] at hserver
  obtain ⟨server', hserver'⟩ := HttpSession.pipelined_of_separated hpos hsize (length_texts_lt u hcast hsend) hserver hsep
    buffers (by rw [hlen, List.length_pmap]) hbuffers
  have hrequests : (requests.pmap (text u hcast) hsend).map (fun q => some q.request) =
      requests.map fun r => some r.received := by
    have hmap := congrArg (List.map some) (requests_texts u hcast hsend)
    rwa [List.map_map, List.map_map] at hmap
  refine ⟨_, server', hserver', ?_⟩
  rw [hrequests, List.forall₂_map_right_iff, List.forall₂_same]
  exact fun r hr => ⟨_, rfl, received_of (hsend r hr).websocket⟩

/-- A request with a body, on a connection that is kept. -/
theorem sendable_put : Sendable { method := .PUT, close := false, path := ascii "/a", body := ascii "hi" } where
  websocket := rfl
  method := by decide
  version := .inl rfl
  path := (RegularExpression.rmatch_iff_matches' _ _).1 (by decide +kernel)
  query := (RegularExpression.rmatch_iff_matches' _ _).1 (by decide +kernel)
  fragment := (RegularExpression.rmatch_iff_matches' _ _).1 (by decide +kernel)
  headers i hi := by cases hi
  length hbody := by cases hbody
  fits := by decide +kernel

theorem decimal_decimal {n : ℕ} (hn : n < 2 ^ 64) : HttpSession.decimal (decimal n) = some (UInt64.ofNat n) := by
  have hall : (decimal n).all (fun c => decide (48 ≤ c) && decide (c ≤ 57)) = true := by
    refine List.all_eq_true.2 fun c hc => ?_
    refine forall_byte (P := fun c => isDigit 10 c = true → (decide (48 ≤ c) && decide (c ≤ 57)) = true) ?_ c
      (isDigit_of_decimal c hc)
    decide +kernel
  rw [HttpSession.decimal, digits_decimal, if_pos ⟨decimal_ne_nil, hall, hn⟩]

/-- Two requests, each in a read of its own. -/
theorem received_in_order_two : ∃ r : HttpRequest, r.path = ascii "/a" ∧ r.body = ascii "hi" ∧ ∃ answers server',
    HttpSession.recvAll HttpSession.decimal ⟨0, false⟩ [List.replicate 64 0, List.replicate 64 0]
      ⟨[r.dump, r.dump], [], [], false⟩ = .ret answers server' ∧
        List.Forall₂ (fun r answer => ∃ q, answer = some q ∧ Received r q) [r, r] answers := by
  obtain ⟨r, hr, hpath, hbody, hlen⟩ : ∃ r : HttpRequest, Sendable r ∧ r.path = ascii "/a" ∧ r.body = ascii "hi" ∧
      r.dump.length = 64 :=
    ⟨_, sendable_put, rfl, rfl, by decide +kernel⟩
  have hne : r.dump ≠ [] := List.length_pos_iff.1 (by omega)
  have hsend : ∀ r' ∈ [r, r], Sendable r' := by simp [hr]
  have hclient : Stream.Sent ⟨[], [], [], false⟩ [] := ⟨rfl, by simp, rfl⟩
  obtain ⟨client', -, hsent, hreceived⟩ := received_in_order ⟨0, false⟩ 64 (by decide) (by decide)
    (fun n hn => decimal_decimal hn) hsend hclient
  have hdrop : Stream.dropPieces r.dump.length [r.dump, r.dump] = [r.dump] := by
    rw [Stream.dropPieces, if_pos le_rfl, Nat.sub_self, Stream.dropPieces_zero (by simpa using hne)]
  have hhead : r.head.length + 2 ≤ r.dump.length := by rw [length_dump hr.websocket]; omega
  have hend (pieces : List (List UInt8)) : ∃ c, Stream.ReadEnd 64 (r.dump :: pieces) c ∧
      r.head.length + 2 ≤ c ∧ c ≤ r.dump.length :=
    ⟨_, .here r.dump pieces, by omega, by omega⟩
  refine ⟨r, hpath, hbody, hreceived _ ⟨rfl, by simpa using hne, by simp, by simp [hsent]⟩ ?_ _ rfl (by simp)⟩
  have hfit : r.dump.length ≤ 64 := by omega
  refine ⟨HttpSession.uncut_whole hfit _, hend _, ?_⟩
  change HttpSession.Separated 64 _ (Stream.dropPieces r.dump.length [r.dump, r.dump])
  rw [hdrop]
  exact ⟨HttpSession.uncut_whole hfit _, hend _, trivial⟩

end HttpConnection

end Ancfl.Http
