/-
  The messages that `ProxyService`, `DBService`, `LoginService` and
  `AccountService` send to `CenterServer`.

  * `sendMessage` is what `RegisterToCenterServer` and
    `SendHeartbeatToCenterServer` do, in each of them with its own text;
  * `Palindrome`: a field whose bytes are the same in both orders;
  * `agrees_iff`: only messages with such fields are read as they were sent.
-/
import Ancfl.Game.Recv

namespace Ancfl.Game.CenterClient

open Lib Recv

/-! ## What is sent -/

def message (msg_id : BitVec 32) (data : List UInt8) : Message := ⟨msg_id, 0, 0, data⟩

/-- The header and the body, in a `send` each. -/
def sendMessage (m : Message) (conn : Socket) : Bool × Socket :=
  let sent := conn.send m.header.swap.image
  if sent.1.ret ≤ 0 then (false, sent.2)
  else
    let sent' := sent.2.send m.body
    (decide (0 < sent'.1.ret), sent'.2)

/-- The characters of a string literal. -/
def chars (s : String) : List UInt8 := s.toList.map fun c => UInt8.ofNat c.toNat

def ProxyService.RegisterToCenterServer : Socket → Bool × Socket :=
  sendMessage (message 1001 (chars "proxy_server_register"))

def ProxyService.SendHeartbeatToCenterServer : Socket → Bool × Socket :=
  sendMessage (message 1002 (chars "proxy_server_heartbeat"))

def DBService.RegisterToCenterServer : Socket → Bool × Socket :=
  sendMessage (message 1001 (chars "db_server_register"))

def DBService.SendHeartbeatToCenterServer : Socket → Bool × Socket :=
  sendMessage (message 1002 (chars "db_server_heartbeat"))

def LoginService.RegisterToCenterServer : Socket → Bool × Socket :=
  sendMessage (message 1001 (chars "login_server_register"))

def LoginService.SendHeartbeatToCenterServer : Socket → Bool × Socket :=
  sendMessage (message 1002 (chars "login_server_heartbeat"))

def AccountService.RegisterToCenterServer : Socket → Bool × Socket :=
  sendMessage (message 1001 (chars "account_server_register"))

def AccountService.SendHeartbeatToCenterServer : Socket → Bool × Socket :=
  sendMessage (message 1002 (chars "account_server_heartbeat"))

/-- What `sendMessage` puts on a connection that takes all. -/
theorem sendMessage_sent {m : Message} {conn : Socket} (haccepts : conn.accepts = [])
    (hbody : 0 < m.body.length) (hlen : m.body.length < 2 ^ 31) :
    sendMessage m conn = (true, { conn with sent := conn.sent ++ (units .network m).flatten }) := by
  have hne : m.body ≠ [] := List.length_pos_iff.1 hbody
  have hheader : conn.send m.header.swap.image =
      (⟨20, false, []⟩, { conn with sent := conn.sent ++ m.header.swap.image }) := by
    rw [Socket.send, haccepts, MessageHeader.length_image]
    rfl
  simp only [sendMessage, hheader]
  rw [if_neg (by decide), Socket.send, haccepts]
  dsimp only
  rw [toInt32_natCast hlen, units, if_neg hne, decide_eq_true (by omega)]
  simp [wire]

/-! ## What is read -/

/-- `CenterServer` reads the message as it was sent, when no piece ends within its header or body. -/
def Agrees (m : Message) : Prop :=
  ∀ s pieces, Carries s pieces → Whole pieces (units .network m) → CenterServer.HandleRecv s = [seen m]

/-- The first byte is the last, and the second is the third. -/
def Palindrome (v : BitVec 32) : Prop :=
  v.toNat % 256 = v.toNat / 256 / 256 / 256 ∧ v.toNat / 256 % 256 = v.toNat / 256 / 256 % 256

instance (v : BitVec 32) : Decidable (Palindrome v) := inferInstanceAs (Decidable (_ ∧ _))

theorem swap_eq_iff (v : BitVec 32) : byteswapOnLittleEndian (n := 4) v = v ↔ Palindrome v := by
  have hv := v.isLt
  have hswap : (byteswapOnLittleEndian (n := 4) v).toNat = v.toNat / 256 / 256 / 256 % 256 +
      256 * (v.toNat / 256 / 256 % 256 + 256 * (v.toNat / 256 % 256 + 256 * (v.toNat % 256))) := by
    simp only [byteswapOnLittleEndian, byteOrder, byteswap, leBytes, leNat, BitVec.toNat_ofNat,
      List.reverse_cons, List.reverse_nil, List.nil_append, List.cons_append, UInt8.toNat_ofNat', if_true]
    rw [Nat.mod_eq_of_lt (by omega)]
    rfl
  obtain ⟨a, b, c, d, ha, hb, hc, hd, hx⟩ : ∃ a b c d, a < 256 ∧ b < 256 ∧ c < 256 ∧ d < 256 ∧
      v.toNat = a + 256 * (b + 256 * (c + 256 * d)) :=
    ⟨v.toNat % 256, v.toNat / 256 % 256, v.toNat / 256 / 256 % 256, v.toNat / 256 / 256 / 256,
      by omega, by omega, by omega, by omega, by omega⟩
  have h₀ : v.toNat % 256 = a := by omega
  have h₁ : v.toNat / 256 % 256 = b := by omega
  have h₂ : v.toNat / 256 / 256 % 256 = c := by omega
  have h₃ : v.toNat / 256 / 256 / 256 = d := by omega
  rw [← BitVec.toNat_inj, hswap, Palindrome, h₀, h₁, h₂, h₃, Nat.mod_eq_of_lt hd, hx]
  clear hv hswap h₀ h₁ h₂ h₃ hx
  omega

/-- The fields of a header that `CenterServer` reads are those that were put into it. -/
def Decoded (h : MessageHeader) : Prop :=
  (MessageHeader.ofImage h.swap.image).msg_id = h.msg_id ∧
    (MessageHeader.ofImage h.swap.image).msg_len = h.msg_len

theorem decoded_iff (h : MessageHeader) : Decoded h ↔ Palindrome h.msg_id ∧ Palindrome h.msg_len := by
  have himage := MessageHeader.ofImage_image h.swap []
  rw [List.append_nil] at himage
  rw [Decoded, himage, ← swap_eq_iff, ← swap_eq_iff]
  rfl

theorem readable_iff (m : Message) :
    Readable .network m ↔ Palindrome m.msg_id ∧ Palindrome m.header.msg_len := by
  rw [← swap_eq_iff, ← swap_eq_iff]
  rfl

/-- The socket that brings the header and the body in a piece each. -/
def inPieces (m : Message) : Socket := ⟨(units .network m).map .bytes, [], []⟩

theorem whole_self : ∀ us : List (List UInt8), Whole us us
  | [] => .nil
  | _ :: us => .last (whole_self us)

/-- What `CenterServer` makes of the first message: the fields are those on the wire, and `recv` has
    brought the body. -/
theorem of_handleRecv {m : Message} (h : CenterServer.HandleRecv (inPieces m) = [seen m]) :
    Readable .network m ∧ m.body.length < 2 ^ 31 := by
  have htwenty : toInt32 20 = 20 := by decide
  by_cases hbody : m.body = []
  · have hrecv : (inPieces m).recv 20 = (⟨20, false, (wire .network m).image⟩, ⟨[], [], []⟩) := by
      rw [inPieces, units, if_pos hbody, List.map_singleton, Socket.recv]
      simp [htwenty]
    rw [CenterServer.HandleRecv] at h
    simp only [hrecv, ofImage_memory] at h
    rw [if_neg (by decide)] at h
    split_ifs at h with hlong hend
    · exact absurd le_rfl hend
    · obtain ⟨hseen, -⟩ := List.cons.inj h
      simp only [seen, Seen.mk.injEq] at hseen
      exact ⟨⟨hseen.1, hseen.2.1⟩, by rw [hbody]; decide⟩
  · have hrecv : (inPieces m).recv 20 =
        (⟨20, false, (wire .network m).image⟩, ⟨[.bytes m.body], [], []⟩) := by
      rw [inPieces, units, if_neg hbody, List.map_cons, List.map_singleton, Socket.recv]
      simp [htwenty]
    rw [CenterServer.HandleRecv] at h
    simp only [hrecv, ofImage_memory] at h
    rw [if_neg (by decide)] at h
    generalize hn : (wire .network m).msg_len.toNat - 20 = n at h
    have hrecv' : Socket.recv n ⟨[.bytes m.body], [], []⟩ =
        (⟨toInt32 (m.body.take n).length, false, m.body.take n⟩,
          ⟨if m.body.length ≤ n then [] else [.bytes (m.body.drop n)], [], []⟩) := rfl
    simp only [hrecv'] at h
    generalize (if m.body.length ≤ n then [] else [Arrival.bytes (m.body.drop n)]) = rest at h
    split_ifs at h with hlong hend
    · obtain ⟨hseen, -⟩ := List.cons.inj h
      simp only [seen, Seen.mk.injEq] at hseen
      refine ⟨⟨hseen.1, hseen.2.1⟩, ?_⟩
      -- the body has the length that was asked for, and this is what `recv` has returned
      have hlength := congrArg List.length hseen.2.2
      rw [length_overwrite (by simp), List.length_replicate] at hlength
      have hlt := (wire .network m).msg_len.isLt
      rw [List.length_take, hlength, min_self] at hend
      by_contra hge
      have := toInt32_of_ge (Nat.le_of_not_lt hge) (by omega)
      omega
    · obtain ⟨hseen, -⟩ := List.cons.inj h
      simp only [seen, Seen.mk.injEq] at hseen
      exact absurd hseen.2.2 (Ne.symm hbody)

theorem of_agrees {m : Message} (h : Agrees m) : Readable .network m ∧ m.body.length < 2 ^ 31 :=
  of_handleRecv (h (inPieces m) _ rfl (whole_self _))

/-- **The center server reads what was sent** only where both fields are the same in both byte
    orders. -/
theorem agrees_iff (h : MessageHeader) (m : Message) :
    (Decoded h ↔ Palindrome h.msg_id ∧ Palindrome h.msg_len) ∧
      (Agrees m ↔ Palindrome m.msg_id ∧ Palindrome m.header.msg_len ∧ m.body.length < 2 ^ 31) := by
  refine ⟨decoded_iff h, ?_⟩
  rw [← and_assoc, ← readable_iff]
  constructor
  · exact of_agrees
  · rintro ⟨hread, hlen⟩ s pieces hs hwhole
    have hwhole' : Whole pieces ([m].flatMap (units .network)) := by
      rwa [List.flatMap_singleton]
    refine centerLoop_whole (fun m' hm' => ?_) hs hwhole'
    rw [List.mem_singleton.1 hm']
    exact ⟨hlen, hread⟩

/-- No message with one of the two ids that are in use is read as it was sent. -/
theorem not_agrees_of_id {msg_id : BitVec 32} (h : msg_id = 1001 ∨ msg_id = 1002) (data : List UInt8) :
    ¬Agrees (message msg_id data) := by
  intro hagrees
  have hid : Palindrome msg_id := ((readable_iff _).1 (of_agrees hagrees).1).1
  rcases h with rfl | rfl <;> exact absurd hid (by decide)

/-- **The registration of `ProxyService`** is not read as it was sent. -/
theorem not_agrees : ¬((∀ h : MessageHeader, Decoded h) ∧ ∀ m : Message, Agrees m) := by
  rintro ⟨-, h⟩
  exact not_agrees_of_id (.inl rfl) _ (h (message 1001 (chars "proxy_server_register")))

end Ancfl.Game.CenterClient
