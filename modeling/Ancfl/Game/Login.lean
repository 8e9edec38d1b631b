/-
  The client loop of `LoginService::handleClient`.

  * `drain` is the inner loop, which takes the messages out of `recv_buffer`
    that are complete; `handleClient` is the outer one, around `recv`;
  * `Dispatch` is the handler that a message is given to;
  * `handleClient_dispatches`: however the stream is cut, the messages are
    dispatched in order, and the bytes of an incomplete one are kept.
-/
import Ancfl.Game.Message
import Ancfl.Lib.Framing
import Ancfl.Stream.FixSize

namespace Ancfl.Game.Login

open Lib Lib.Framing

/-! ## The loops -/

/-- The branches of the `switch` over `msg_id`. -/
inductive Dispatch where
  | HandleLoginRequest (msg_data : List UInt8)
  | HandleRegisterRequest (msg_data : List UInt8)
  | HandleServerListRequest (msg_data : List UInt8)
  | HandleSelectServerRequest (msg_data : List UInt8)
  /-- only an entry in the log -/
  | unknown (msg_id : BitVec 32)
deriving DecidableEq

def dispatch (msg_id : BitVec 32) (msg_data : List UInt8) : Dispatch :=
  if msg_id = 100005#32 then .HandleLoginRequest msg_data
  else if msg_id = 100003#32 then .HandleRegisterRequest msg_data
  else if msg_id = 100009#32 then .HandleServerListRequest msg_data
  else if msg_id = 100011#32 then .HandleSelectServerRequest msg_data
  else .unknown msg_id

/-- The inner loop: what it dispatches, and the buffer it leaves. -/
def drain (recv_buffer : List UInt8) : List Dispatch × List UInt8 :=
  if recv_buffer.length < 20 then ([], recv_buffer)
  else
    let header := (MessageHeader.ofImage recv_buffer).swap
    if _hlen : header.msg_len.toNat < 20 ∨ header.msg_len.toNat > 1024 * 1024 then ([], [])
    else if recv_buffer.length < header.msg_len.toNat then ([], recv_buffer)
    else
      let data := recv_buffer.take header.msg_len.toNat
      let (done, left) := drain (recv_buffer.drop header.msg_len.toNat)
      (dispatch header.msg_id (data.drop 20) :: done, left)
termination_by recv_buffer.length
decreasing_by
  rw [List.length_drop]
  show _ - header.msg_len.toNat < _
  omega

/-- The outer loop, from a `recv` on: what it dispatches, and the buffer when it ends. -/
def handleClient (client : Stream) (recv_buffer : List UInt8) : List Dispatch × List UInt8 :=
  match _h : (Stream.read 4096 : Call Unit Stream _) client with
  | .ret (n, buffer) client' =>
    if _hn : n ≤ 0 then ([], recv_buffer)
    else
      let (done, left) := drain (recv_buffer ++ buffer)
      let (later, left) := handleClient client' left
      (done ++ later, left)
  | _ => ([], recv_buffer)
termination_by client.pending
decreasing_by
  obtain ⟨len, bytes, s', hread, hpend, -, hlen, -⟩ := Stream.read_total (ε := Unit) 4096 client
  rw [hread] at _h
  cases _h
  have := hlen (by omega)
  omega

/-! ## Draining the buffer -/

/-- The lengths that the loop accepts. -/
def Sized (m : Message) : Prop := m.size ≤ 1024 * 1024

/-- What is dispatched for a message. -/
def handled (m : Message) : Dispatch := dispatch m.msg_id m.body

theorem drain_message {m : Message} (hm : Sized m) (rest : List UInt8) :
    drain (m.bytes ++ rest) = (handled m :: (drain rest).1, (drain rest).2) := by
  have hsize : m.size ≤ 1048576 := hm
  have hlen : m.header.msg_len.toNat = m.size := Message.msg_len_toNat (by omega)
  have hge : 20 ≤ m.size := Nat.le_add_right _ _
  rw [drain]
  simp only [Message.ofImage_bytes, hlen, List.length_append, Message.length_bytes]
  rw [if_neg (by omega), dif_neg (by omega), if_neg (by omega), ← m.length_bytes, List.take_left,
    List.drop_left]
  have hbody : m.bytes.drop 20 = m.body := by
    rw [Message.bytes, List.drop_append, List.drop_of_length_le (by simp)]
    simp
  rw [hbody]
  rfl

theorem drain_incomplete {t : List UInt8} (ht : Incomplete Message.bytes Sized t) :
    drain t = ([], t) := by
  obtain ⟨m, u, hm, hu, htu⟩ := ht
  have hsize : m.size ≤ 1048576 := hm
  have hlt : t.length < m.size := by
    have hlens := congrArg List.length htu
    have := List.length_pos_iff.2 hu
    rw [List.length_append, m.length_bytes] at hlens
    omega
  rw [drain]
  by_cases hshort : t.length < 20
  · rw [if_pos hshort]
  · -- the header has come
    have hheader : (MessageHeader.ofImage t).swap = m.header := by
      rw [← MessageHeader.ofImage_take t, ← Message.ofImage_bytes m [], List.append_nil, ← htu,
        ← MessageHeader.ofImage_take (t ++ u), List.take_append_of_le_length (by omega)]
    have hlen : m.header.msg_len.toNat = m.size := Message.msg_len_toNat (by omega)
    have hge : 20 ≤ m.size := Nat.le_add_right _ _
    rw [if_neg hshort]
    simp only [hheader, hlen]
    rw [dif_neg (by omega), if_pos hlt]

theorem drain_messages {ms : List Message} {t : List UInt8} (hms : ∀ m ∈ ms, Sized m)
    (ht : Incomplete Message.bytes Sized t) :
    drain (ms.flatMap Message.bytes ++ t) = (ms.map handled, t) := by
  induction ms with
  | nil => exact drain_incomplete ht
  | cons m ms ih =>
    rw [List.flatMap_cons, List.append_assoc, drain_message (hms m (by simp)),
      ih fun c hc => hms c (List.mem_cons_of_mem _ hc)]
    rfl

/-! ## Any cut of the stream -/

theorem handleClient_end {client client' : Stream} {n : ℤ} {buffer recv_buffer : List UInt8}
    (h : (Stream.read 4096 : Call Unit Stream _) client = .ret (n, buffer) client') (hn : n ≤ 0) :
    handleClient client recv_buffer = ([], recv_buffer) := by
  rw [handleClient]
  split
  · rename_i hread
    rw [h] at hread
    cases hread
    exact dif_pos hn
  · rfl

theorem handleClient_recv {client client' : Stream} {n : ℤ} {buffer recv_buffer left : List UInt8}
    {done : List Dispatch}
    (h : (Stream.read 4096 : Call Unit Stream _) client = .ret (n, buffer) client') (hn : 0 < n)
    (hdrain : drain (recv_buffer ++ buffer) = (done, left)) :
    handleClient client recv_buffer =
      (done ++ (handleClient client' left).1, (handleClient client' left).2) := by
  rw [handleClient]
  split
  · rename_i hread
    rw [h] at hread
    cases hread
    rw [dif_neg (by omega), hdrain]
  · rename_i hno
    exact absurd h (hno _ _ _)

/-- From any turn of the loop on. -/
theorem handleClient_from {client : Stream} {ms : List Message} {t₁ t w : List UInt8}
    (hms : ∀ m ∈ ms, Sized m) (ht : Incomplete Message.bytes Sized t)
    (ht₁ : Incomplete Message.bytes Sized t₁) (hw : t₁ ++ w = ms.flatMap Message.bytes ++ t)
    (hclient : client.Delivers w) : handleClient client t₁ = (ms.map handled, t) := by
  induction hn : w.length using Nat.strong_induction_on generalizing client ms t₁ w with
  | _ n ih =>
    subst hn
    by_cases hnil : w = []
    · subst hnil
      rw [handleClient_end (Stream.read_end hclient) le_rfl, ← drain_incomplete ht₁,
        ← drain_messages hms ht, ← hw, List.append_nil]
    · obtain ⟨k, client', hk0, -, hk, hread, hclient', -⟩ :=
        Stream.read_ret (ε := Unit) hclient (show 0 < 4096 by decide) hnil
      obtain ⟨ms₁, ms₂, t₂, rfl, ht₂, hp, hq⟩ := cut (p := t₁ ++ w.take k) (q := w.drop k) ht hms (by
        rw [List.append_assoc, List.take_append_drop, hw])
      have hdrain := drain_messages (fun m hm => hms m (List.mem_append_left _ hm)) ht₂
      rw [← hp] at hdrain
      rw [handleClient_recv hread (by omega) hdrain, ih _ (by rw [List.length_drop]; omega)
        (fun m hm => hms m (List.mem_append_right _ hm)) ht₂ hq hclient' rfl, List.map_append]

/-- **The messages are dispatched in order, and an incomplete one is kept**, however the stream is
    cut. -/
theorem handleClient_dispatches {client : Stream} {ms : List Message} {t : List UInt8}
    (hms : ∀ m ∈ ms, Sized m) (ht : Incomplete Message.bytes Sized t)
    (hclient : client.Delivers (ms.flatMap Message.bytes ++ t)) :
    handleClient client [] = (ms.map handled, t) := by
  obtain ⟨m, -, hm, -⟩ := id ht
  exact handleClient_from hms ht (incomplete_nil hm m.bytes_ne_nil) rfl hclient

/-- A login request, and a register request without its last byte. -/
theorem handleClient_login : ∃ client, handleClient client [] =
    ([.HandleLoginRequest [7]], (Message.bytes ⟨100003, 0, 0, []⟩).take 19) := by
  obtain ⟨client, hclient⟩ := Stream.exists_delivers
    ([Message.mk 100005 0 0 [7]].flatMap Message.bytes ++ (Message.bytes ⟨100003, 0, 0, []⟩).take 19)
  refine ⟨client, handleClient_dispatches ?_ ?_ hclient⟩
  · simp [Sized, Message.size]
  · refine ⟨⟨100003, 0, 0, []⟩, (Message.bytes ⟨100003, 0, 0, []⟩).drop 19, ?_, ?_,
      List.take_append_drop _ _⟩
    · simp [Sized, Message.size]
    · rw [Ne, List.drop_eq_nil_iff, Message.length_bytes]
      decide

end Ancfl.Game.Login
