/-
  `TcpClient::SendMessage` and `TcpClient::RecvMessage`.

  * `sendLoop` and `recvLoop` are the loops over `send` and `recv`, which go on
    after a part and after a call that would block; `recvLoop` gives up when
    `max_retries` calls in a row would block;
  * `recvFrame` is `RecvMessage` up to the packet: a header and a body;
  * `frame_roundTrip`: a frame that is sent is received, in whatever pieces, and
    a header with a wrong length is refused.
-/
import Ancfl.Game.Message
import Ancfl.Game.Socket

namespace Ancfl.Game

open Lib

/-- The packet; `M` are the messages of protobuf. -/
structure NetPacket (M : Type) where
  conn_id : BitVec 32
  msg_id : BitVec 32
  target_id : BitVec 64
  user_data : BitVec 32
  msg : Option M

structure TcpClient where
  connected : Bool
  socket : Option Socket

namespace TcpClient

open Socket

/-! ## Sending -/

theorem send_accepts (data : List UInt8) (s : Socket) : (s.send data).2.accepts.length ≤ s.accepts.length ∧
    ((s.send data).1.would_block → (s.send data).2.accepts.length < s.accepts.length) := by
  unfold send
  rcases hacc : s.accepts with _ | ⟨_ | _ | _, rest⟩ <;> simp

/-- A loop of `SendMessage`: whether it ends after all the bytes. -/
def sendLoop (data : List UInt8) (s : Socket) : Bool × Socket :=
  if data.length = 0 then (true, s)
  else
    let sent := s.send data
    if sent.1.ret < 0 then
      if sent.1.would_block then sendLoop data sent.2 else (false, sent.2)
    else if sent.1.ret = 0 then (false, sent.2)
    else sendLoop (data.drop sent.1.ret.toNat) sent.2
termination_by data.length + s.accepts.length
decreasing_by
  · have := (send_accepts data s).2 ‹_›
    show _ + (s.send data).2.accepts.length < _
    omega
  · have := (send_accepts data s).1
    rw [List.length_drop]
    show _ - sent.1.ret.toNat + (s.send data).2.accepts.length < _
    omega

def SendMessage (msg_id : BitVec 32) (target_id : BitVec 64) (user_data : BitVec 32)
    (data : List UInt8) (c : TcpClient) : Bool × TcpClient :=
  match c.connected, c.socket with
  | true, some s =>
    let total_len := BitVec.ofNat 32 (data.length + 20)
    let header := (MessageHeader.mk msg_id total_len target_id user_data).swap
    match sendLoop header.image s with
    | (false, s) => (false, { c with socket := some s })
    | (true, s) =>
      if data.length > 0 then
        match sendLoop data s with
        | (ok, s) => (ok, { c with socket := some s })
      else (true, { c with socket := some s })
  | _, _ => (false, c)

/-! ## Receiving -/

/-- A loop of `RecvMessage` before the last `left` bytes, of which it takes at most `chunk` at once:
    `none` if it returns. -/
def recvLoop (chunk left retry_count : ℕ) (s : Socket) : Option (List UInt8) × Socket :=
  if left = 0 then (some [], s)
  else
    let received := s.recv (min left chunk)
    if received.1.ret < 0 then
      if received.1.would_block then
        if retry_count + 1 ≥ max_retries then (none, received.2)
        else recvLoop chunk left (retry_count + 1) received.2
      else (none, received.2)
    else if received.1.ret = 0 then (none, received.2)
    else
      match recvLoop chunk (left - received.1.ret.toNat) 0 received.2 with
      | (none, s) => (none, s)
      | (some bytes, s) => (some (received.1.bytes ++ bytes), s)
termination_by s.weight
decreasing_by
  · exact recv_weight (min left chunk) s fun h => by
      have : (s.recv (min left chunk)).1.ret < 0 := ‹_›
      omega
  · exact recv_weight (min left chunk) s ‹_›

/-- `RecvMessage` from the header to the body. -/
def recvFrame (s : Socket) : Option (MessageHeader × List UInt8) × Socket :=
  match recvLoop 20 20 0 s with
  | (none, s) => (none, s)
  | (some bytes, s) =>
    let header := (MessageHeader.ofImage bytes).swap
    let body_len := (header.msg_len - 20#32).toNat
    if 0 < body_len ∧ body_len < 1024 * 1024 then
      match recvLoop 1024 body_len 0 s with
      | (none, s) => (none, s)
      | (some data, s) => (some (header, data), s)
    else if 0 < body_len then (none, s)
    else (some (header, []), s)

section
variable {M : Type} (select : Socket → ℤ) (ParseFromString : List UInt8 → Option M)

/-- `AccountLoginAck` for `MSG_ACCOUNT_LOGIN_ACK`, which `ParseFromString` reads; otherwise null. -/
def CreateMessage (msg_id : BitVec 32) : Option (List UInt8 → Option M) :=
  if msg_id = 100006#32 then some ParseFromString else none

/-- What `RecvMessage` makes of the packet. -/
def NetPacket.fill (packet : NetPacket M) (header : MessageHeader) (data : List UInt8) :
    NetPacket M where
  conn_id := 0
  msg_id := header.msg_id
  target_id := header.target_id
  user_data := header.user_data
  msg := ((CreateMessage ParseFromString header.msg_id).bind (· data)).or packet.msg

/-- `select` is the call with a timeout of 5 seconds. -/
def RecvMessage (packet : NetPacket M) (c : TcpClient) : Bool × NetPacket M × TcpClient :=
  match c.connected, c.socket with
  | true, some s =>
    if select s ≤ 0 then (false, packet, c)
    else
      match recvFrame s with
      | (none, s) => (false, packet, { c with socket := some s })
      | (some (header, data), s) =>
        (true, NetPacket.fill ParseFromString packet header data, { c with socket := some s })
  | _, _ => (false, packet, c)

end

/-! ## Partial transfers -/

theorem sendLoop_takes {w : List UInt8} {s : Socket} (hs : s.Takes) (hw : w.length < 2 ^ 31) :
    ∃ s', sendLoop w s = (true, s') ∧ s'.Takes ∧ s'.sent = s.sent ++ w := by
  induction hn : w.length + s.accepts.length using Nat.strong_induction_on generalizing w s with
  | _ n ih =>
    subst hn
    rw [sendLoop]
    by_cases h0 : w.length = 0
    · obtain rfl : w = [] := List.length_eq_zero_iff.1 h0
      exact ⟨s, by rw [if_pos h0], hs, (List.append_nil _).symm⟩
    have hne : w ≠ [] := fun h => h0 (by rw [h]; rfl)
    rw [if_neg h0]
    rcases send_takes hs hne hw with ⟨s₁, hsend, hs₁, hsent, hacc⟩ | ⟨k, s₁, hk0, hk, hsend, hs₁, hsent⟩
    · obtain ⟨s', hloop, hs', heq⟩ := ih _ (by omega) hs₁ hw rfl
      refine ⟨s', ?_, hs', by rw [heq, hsent]⟩
      simp only [hsend]
      exact hloop
    · have hacc := (send_accepts w s).1
      rw [hsend] at hacc
      dsimp only at hacc
      have hdrop : (w.drop k).length = w.length - k := List.length_drop
      obtain ⟨s', hloop, hs', heq⟩ := ih ((w.drop k).length + s₁.accepts.length) (by omega)
        hs₁ (by omega) rfl
      refine ⟨s', ?_, hs', by rw [heq, hsent, List.append_assoc, List.take_append_drop]⟩
      simp only [hsend]
      rw [if_neg (by omega), if_neg (by omega), Int.toNat_natCast, hloop]

theorem recvLoop_brings {chunk retry : ℕ} {w rest : List UInt8} {s : Socket} (hchunk : 0 < chunk)
    (hchunk31 : chunk < 2 ^ 31) (hs : Brings retry s (w ++ rest)) :
    ∃ s', recvLoop chunk w.length retry s = (some w, s') ∧ Brings 0 s' rest := by
  induction hn : s.weight using Nat.strong_induction_on generalizing w s retry with
  | _ n ih =>
    subst hn
    rw [recvLoop]
    by_cases h0 : w.length = 0
    · obtain rfl : w = [] := List.length_eq_zero_iff.1 h0
      exact ⟨s, by rw [if_pos h0], hs.restart⟩
    have hne : w ++ rest ≠ [] := fun h => h0 (by rw [(List.append_eq_nil_iff.1 h).1]; rfl)
    rw [if_neg h0]
    rcases recv_brings (n := min w.length chunk) hs hne (by omega) (by omega) with
      ⟨s₁, hrecv, hretry, hs₁⟩ | ⟨k, s₁, hk0, hk, -, hrecv, hs₁⟩
    · have hweight := recv_weight (min w.length chunk) s (by rw [hrecv]; simp)
      rw [hrecv] at hweight
      obtain ⟨s', hloop, hs'⟩ := ih _ hweight hs₁ rfl
      refine ⟨s', ?_, hs'⟩
      simp only [hrecv]
      rw [if_pos (by decide), if_pos trivial, if_neg (by omega), hloop]
    · have hweight := recv_weight (min w.length chunk) s (by rw [hrecv]; simp; omega)
      rw [hrecv] at hweight
      rw [List.drop_append_of_le_length (by omega)] at hs₁
      rw [List.take_append_of_le_length (by omega)] at hrecv
      obtain ⟨s', hloop, hs'⟩ := ih _ hweight hs₁ rfl
      rw [List.length_drop] at hloop
      refine ⟨s', ?_, hs'⟩
      simp only [hrecv]
      rw [if_neg (by omega), if_neg (by omega), Int.toNat_natCast, hloop]
      simp only [List.take_append_drop]

/-! ## Frames -/

theorem SendMessage_takes {m : Message} {c : TcpClient} {s : Socket} (hm : m.body.length < 2 ^ 31)
    (hconnected : c.connected = true) (hsocket : c.socket = some s) (hs : s.Takes) :
    ∃ s', SendMessage m.msg_id m.target_id m.user_data m.body c = (true, { c with socket := some s' }) ∧
      s'.Takes ∧ s'.sent = s.sent ++ m.bytes := by
  have hheader : MessageHeader.mk m.msg_id (BitVec.ofNat 32 (m.body.length + 20)) m.target_id
      m.user_data = m.header := by
    rw [Message.header, Message.size, Nat.add_comm]
  obtain ⟨s₁, hloop₁, hs₁, hsent₁⟩ := sendLoop_takes (w := m.header.swap.image) hs (by simp)
  rw [SendMessage, hconnected, hsocket]
  simp only [hheader, hloop₁]
  by_cases h0 : m.body.length > 0
  · obtain ⟨s₂, hloop₂, hs₂, hsent₂⟩ := sendLoop_takes hs₁ hm
    refine ⟨s₂, ?_, hs₂, by rw [hsent₂, hsent₁, Message.bytes, List.append_assoc]⟩
    rw [if_pos h0, hloop₂]
  · have hnil : m.body = [] := List.length_eq_zero_iff.1 (by omega)
    refine ⟨s₁, by rw [if_neg h0], hs₁, by rw [hsent₁, Message.bytes, hnil, List.append_nil]⟩

/-- The header comes in whatever pieces. -/
theorem recvLoop_header {h : MessageHeader} {s : Socket} {rest : List UInt8}
    (hs : Brings 0 s (h.image ++ rest)) :
    ∃ s', recvLoop 20 20 0 s = (some h.image, s') ∧ Brings 0 s' rest := by
  have := @recvLoop_brings 20 _ _ _ _ (by decide) (by decide) hs
  rwa [h.length_image] at this

theorem ofImage_image_swap (h : MessageHeader) : (MessageHeader.ofImage h.swap.image).swap = h := by
  rw [← List.append_nil h.swap.image, MessageHeader.ofImage_image, MessageHeader.swap_swap]

/-- The length of the body, in the arithmetic of `uint32_t`. -/
theorem body_len_toNat {v : BitVec 32} (h : 20 ≤ v.toNat) : (v - 20#32).toNat = v.toNat - 20 := by
  have := v.isLt
  rw [BitVec.toNat_sub]
  simp only [BitVec.toNat_ofNat]
  omega

/-- A frame comes in whatever pieces, and nothing after it is taken. -/
theorem recvFrame_brings {m : Message} {s : Socket} {rest : List UInt8}
    (hm : m.body.length < 1024 * 1024) (hs : Brings 0 s (m.bytes ++ rest)) :
    ∃ s', recvFrame s = (some (m.header, m.body), s') ∧ Brings 0 s' rest := by
  rw [Message.bytes, List.append_assoc] at hs
  obtain ⟨s₁, hheader, hs₁⟩ := recvLoop_header hs
  have hlen : (m.header.msg_len - 20#32).toNat = m.body.length := by
    have hsize : m.header.msg_len.toNat = m.size := Message.msg_len_toNat (by rw [Message.size]; omega)
    rw [body_len_toNat (by rw [hsize, Message.size]; omega), hsize, Message.size]
    omega
  rw [recvFrame, hheader]
  simp only [ofImage_image_swap, hlen]
  by_cases h0 : 0 < m.body.length
  · obtain ⟨s₂, hbody, hs₂⟩ := @recvLoop_brings 1024 _ _ _ _ (by decide) (by decide) hs₁
    exact ⟨s₂, by rw [if_pos ⟨h0, hm⟩, hbody], hs₂⟩
  · have hnil : m.body = [] := List.length_eq_zero_iff.1 (by omega)
    refine ⟨s₁, by rw [if_neg (fun h => h0 h.1), if_neg h0, hnil], ?_⟩
    rwa [hnil, List.nil_append] at hs₁

/-- A length that is refused. -/
theorem recvFrame_refuse {h : MessageHeader} {s : Socket} {rest : List UInt8}
    (hh : h.msg_len.toNat < 20 ∨ 1024 * 1024 ≤ h.msg_len.toNat - 20)
    (hs : Brings 0 s (h.swap.image ++ rest)) :
    ∃ s', recvFrame s = (none, s') ∧ Brings 0 s' rest := by
  obtain ⟨s₁, hheader, hs₁⟩ := recvLoop_header hs
  have hlen : 1024 * 1024 ≤ (h.msg_len - 20#32).toNat := by
    have := h.msg_len.isLt
    rcases hh with hh | hh
    · rw [BitVec.toNat_sub]
      simp only [BitVec.toNat_ofNat]
      omega
    · rwa [body_len_toNat (by omega)]
  rw [recvFrame, hheader]
  simp only [ofImage_image_swap]
  exact ⟨s₁, by rw [if_neg (by omega), if_pos (by omega)], hs₁⟩

/-- **The round trip of a frame.**  `select` reports a socket to which bytes come. -/
theorem frame_roundTrip {M : Type} {select : Socket → ℤ} (ParseFromString : List UInt8 → Option M)
    (hselect : ∀ r w, Brings 0 r w → w ≠ [] → 0 < select r) :
    (∀ (m : Message) (c : TcpClient) (s : Socket), m.body.length < 1024 * 1024 →
      c.connected = true → c.socket = some s → s.Takes →
      ∃ s', SendMessage m.msg_id m.target_id m.user_data m.body c =
          (true, { c with socket := some s' }) ∧ s'.sent = s.sent ++ m.bytes) ∧
    (∀ (m : Message) (d : TcpClient) (r : Socket) (rest : List UInt8) (packet : NetPacket M),
      m.body.length < 1024 * 1024 → d.connected = true → d.socket = some r →
      Brings 0 r (m.bytes ++ rest) →
      ∃ r', recvFrame r = (some (m.header, m.body), r') ∧ Brings 0 r' rest ∧
        RecvMessage select ParseFromString packet d =
          (true, NetPacket.fill ParseFromString packet m.header m.body, { d with socket := some r' })) ∧
    (∀ (h : MessageHeader) (d : TcpClient) (r : Socket) (rest : List UInt8) (packet : NetPacket M),
      h.msg_len.toNat < 20 ∨ 1024 * 1024 ≤ h.msg_len.toNat - 20 → d.connected = true →
      d.socket = some r → Brings 0 r (h.swap.image ++ rest) →
      ∃ r', RecvMessage select ParseFromString packet d =
          (false, packet, { d with socket := some r' }) ∧ Brings 0 r' rest) := by
  have hne {h : MessageHeader} {v : List UInt8} : h.image ++ v ≠ [] := fun hnil => by
    have := congrArg List.length hnil
    simp at this
  refine ⟨fun m c s hm hc hs htakes => ?_, fun m d r rest packet hm hd hr hbrings => ?_,
    fun h d r rest packet hh hd hr hbrings => ?_⟩
  · obtain ⟨s', hsend, -, hsent⟩ := SendMessage_takes (m := m) (by omega) hc hs htakes
    exact ⟨s', hsend, hsent⟩
  · obtain ⟨r', hframe, hr'⟩ := recvFrame_brings hm hbrings
    refine ⟨r', hframe, hr', ?_⟩
    rw [Message.bytes, List.append_assoc] at hbrings
    rw [RecvMessage, hd, hr]
    simp only [hframe]
    rw [if_neg (not_le.2 (hselect r _ hbrings hne))]
  · obtain ⟨r', hframe, hr'⟩ := recvFrame_refuse hh hbrings
    refine ⟨r', ?_, hr'⟩
    rw [RecvMessage, hd, hr]
    simp only [hframe]
    rw [if_neg (not_le.2 (hselect r _ hbrings hne))]

/-- A `recv` of 3 bytes, one that would block, and the rest. -/
theorem brings_pieces {w : List UInt8} (hw : 3 < w.length) :
    Brings 0 ⟨[.bytes (w.take 3), .again, .bytes (w.drop 3)], [], []⟩ w where
  fine := by
    intro a ha
    simp only [List.mem_cons, List.not_mem_nil, or_false] at ha
    rcases ha with rfl | rfl | rfl
    · intro h
      have := congrArg List.length h
      rw [List.length_take, List.length_nil] at this
      omega
    · trivial
    · intro h
      have := congrArg List.length h
      rw [List.length_drop, List.length_nil] at this
      omega
  retries h := by
    have := h.length_le
    simp [max_retries] at this
  flatMap_eq := by simp [Arrival.piece]

/-- A frame that is sent and received in pieces. -/
theorem frame_roundTrip_pieces : ∃ m : Message, m.body = [7] ∧
    (∃ s', SendMessage m.msg_id m.target_id m.user_data m.body ⟨true, some ⟨[], [.takes 3, .again], []⟩⟩ =
      (true, ⟨true, some s'⟩) ∧ s'.sent = m.bytes) ∧
    ∃ r', recvFrame ⟨[.bytes (m.bytes.take 3), .again, .bytes (m.bytes.drop 3)], [], []⟩ =
      (some (m.header, m.body), r') := by
  have hselect : ∀ r w, Brings 0 r w → w ≠ [] →
      0 < (fun r : Socket => if r.incoming = [] then (0 : ℤ) else 1) r := by
    intro r w hr hw
    have hin : r.incoming ≠ [] := fun h => hw (by rw [← hr.flatMap_eq, h]; rfl)
    simp [hin]
  obtain ⟨hsend, hrecv, -⟩ := frame_roundTrip some hselect
  obtain ⟨m, hbody⟩ : ∃ m : Message, m.body = [7] := ⟨⟨100006, 1, 2, [7]⟩, rfl⟩
  have hlen : m.body.length = 1 := by rw [hbody]; rfl
  have hbytes : 3 < m.bytes.length := by rw [m.length_bytes, Message.size]; omega
  have htakes : Takes ⟨[], [.takes 3, .again], []⟩ := by
    intro d hd
    simp only [List.mem_cons, List.not_mem_nil, or_false] at hd
    rcases hd with rfl | rfl
    · exact Nat.succ_pos 2
    · trivial
  obtain ⟨s', hs', hsent⟩ := hsend m ⟨true, _⟩ _ (by omega) rfl rfl htakes
  obtain ⟨r', hr', -, -⟩ := hrecv m ⟨true, some _⟩ _ [] ⟨0, 0, 0, 0, none⟩ (by omega) rfl rfl
    (by rw [List.append_nil]; exact brings_pieces hbytes)
  exact ⟨m, hbody, ⟨s', hs', hsent⟩, r', hr'⟩

end TcpClient

end Ancfl.Game
