/-
  `HandleRecv` of `ProxyService`, `DBService` and `CenterServer`.

  * a turn asks `recv` for the header, and then for the body, once each; what
    `recv` does not fill keeps what was there before;
  * `ProxyService` and `DBService` share the loop up to what they do with a
    body; `CenterServer` does not check the length, nor convert the byte order;
  * `Whole`: no piece of the stream ends within a header or a body;
  * `exact_of_whole`: the messages are processed if the stream comes so.
-/
import Ancfl.Game.Message
import Ancfl.Game.Socket

namespace Ancfl.Game.Recv

open Lib

/-! ## The loops -/

/-- A message that is processed. -/
structure Processed where
  header : MessageHeader
  body : List UInt8
deriving DecidableEq

/-- The loop of `ProxyService` and `DBService` from turn `i` on, `junk i` being what is in the memory of
    `header`, which is not initialized. -/
def recvLoop (junk : ℕ → List UInt8) (i : ℕ) (buffer : List UInt8) (client : Socket) :
    List Processed :=
  let got := client.recv 20
  if got.1.ret ≤ 0 then []
  else
    let header := (MessageHeader.ofImage (overwrite (junk i) 0 got.1.bytes)).swap
    if header.msg_len.toNat > 32768 ∨ header.msg_len.toNat < 20 then []
    else
      let body_len := header.msg_len.toNat - 20
      if body_len > 0 then
        let buffer :=
          if buffer.length < body_len then buffer ++ List.replicate (body_len - buffer.length) 0
          else buffer
        let got' := got.2.recv body_len
        if got'.1.ret ≤ 0 then []
        else
          let buffer := overwrite buffer 0 got'.1.bytes
          ⟨header, buffer.take body_len⟩ :: recvLoop junk (i + 1) buffer got'.2
      else ⟨header, []⟩ :: recvLoop junk (i + 1) buffer got.2
termination_by client.weight
decreasing_by
  · have h1 := client.recv_weight 20 (by have : ¬got.1.ret ≤ 0 := ‹_›; show got.1.ret ≠ 0; omega)
    have h2 := got.2.recv_weight body_len
      (by have : ¬got'.1.ret ≤ 0 := ‹_›; show got'.1.ret ≠ 0; omega)
    exact h2.trans h1
  · exact client.recv_weight 20 (by have : ¬got.1.ret ≤ 0 := ‹_›; show got.1.ret ≠ 0; omega)

def ProxyService.HandleRecv (junk : ℕ → List UInt8) (client : Socket) : List Processed :=
  recvLoop junk 0 (List.replicate 8192 0) client

def DBService.HandleRecv (junk : ℕ → List UInt8) (client : Socket) : List Processed :=
  recvLoop junk 0 (List.replicate 8192 0) client

/-- A message that `CenterServer` processes: of the header it reads two fields. -/
structure Seen where
  msg_id : BitVec 32
  msg_len : BitVec 32
  body : List UInt8
deriving DecidableEq

def CenterServer.HandleRecv (client : Socket) : List Seen :=
  let got := client.recv 20
  if got.1.ret ≤ 0 then
    if _hagain : got.1.ret = -1 ∧ got.1.would_block then HandleRecv got.2 else []
  else
    let header := MessageHeader.ofImage (overwrite (List.replicate 20 0) 0 got.1.bytes)
    let msg_len := header.msg_len.toNat
    if msg_len > 20 then
      let got' := got.2.recv (msg_len - 20)
      if got'.1.ret ≤ 0 then []
      else
        let body := overwrite (List.replicate (msg_len - 20) 0) 0 got'.1.bytes
        ⟨header.msg_id, header.msg_len, body⟩ :: HandleRecv got'.2
    else ⟨header.msg_id, header.msg_len, []⟩ :: HandleRecv got.2
termination_by client.weight
decreasing_by
  · exact client.recv_weight 20 (by show got.1.ret ≠ 0; omega)
  · have h1 := client.recv_weight 20 (by have : ¬got.1.ret ≤ 0 := ‹_›; show got.1.ret ≠ 0; omega)
    have h2 := got.2.recv_weight (msg_len - 20)
      (by have : ¬got'.1.ret ≤ 0 := ‹_›; show got'.1.ret ≠ 0; omega)
    exact h2.trans h1
  · exact client.recv_weight 20 (by have : ¬got.1.ret ≤ 0 := ‹_›; show got.1.ret ≠ 0; omega)

/-! ## Streams that are not cut within a header or a body -/

/-- The byte order of the fields of a header on the wire. -/
inductive Order
  | network
  | host
deriving DecidableEq

def wire : Order → Message → MessageHeader
  | .network, m => m.header.swap
  | .host, m => m.header

/-- The header of a message, and its body unless that is empty. -/
def units (order : Order) (m : Message) : List (List UInt8) :=
  (wire order m).image :: if m.body = [] then [] else [m.body]

/-- Every piece is made of whole units. -/
inductive Whole : List (List UInt8) → List (List UInt8) → Prop
  | nil : Whole [] []
  /-- the first piece ends with its first unit -/
  | last {u : List UInt8} {pieces us : List (List UInt8)} : Whole pieces us →
      Whole (u :: pieces) (u :: us)
  /-- the first piece goes on after its first unit -/
  | more {u p : List UInt8} {pieces us : List (List UInt8)} : p ≠ [] → Whole (p :: pieces) us →
      Whole ((u ++ p) :: pieces) (u :: us)

/-- The socket brings these pieces. -/
def Carries (s : Socket) (pieces : List (List UInt8)) : Prop := s.incoming = pieces.map .bytes

section
variable {s : Socket} {pieces us : List (List UInt8)} {u : List UInt8}

theorem recv_end (hs : Carries s []) (n : ℕ) : s.recv n = (⟨0, false, []⟩, s) := by
  have hin : s.incoming = [] := hs
  rw [Socket.recv, hin]

/-- A `recv` of a whole unit. -/
theorem recv_whole (hs : Carries s pieces) (hwhole : Whole pieces (u :: us)) (hu : u.length < 2 ^ 31) :
    ∃ s' pieces', s.recv u.length = (⟨u.length, false, u⟩, s') ∧ Carries s' pieces' ∧
      Whole pieces' us := by
  cases hwhole with
  | last hrest =>
    rename_i rest
    refine ⟨{ s with incoming := rest.map .bytes }, rest, ?_, rfl, hrest⟩
    have hin : s.incoming = .bytes u :: rest.map .bytes := hs
    rw [Socket.recv, hin]
    simp only [List.take_length, le_refl, if_true]
    rw [toInt32_natCast hu]
  | more hp hrest =>
    rename_i p rest
    refine ⟨{ s with incoming := .bytes p :: rest.map .bytes }, p :: rest, ?_, rfl, hrest⟩
    have hin : s.incoming = .bytes (u ++ p) :: rest.map .bytes := hs
    have hlt : ¬(u ++ p).length ≤ u.length := by
      have := List.length_pos_iff.2 hp
      rw [List.length_append]; omega
    rw [Socket.recv, hin]
    simp only [List.take_left, List.drop_left, if_neg hlt]
    rw [toInt32_natCast hu]

theorem recv_header {order : Order} {m : Message} (hs : Carries s pieces)
    (hwhole : Whole pieces (units order m ++ us)) :
    ∃ s' pieces', s.recv 20 = (⟨20, false, (wire order m).image⟩, s') ∧ Carries s' pieces' ∧
      Whole pieces' ((if m.body = [] then [] else [m.body]) ++ us) := by
  have hlen : (wire order m).image.length = 20 := (wire order m).length_image
  have := recv_whole hs hwhole (by omega)
  rwa [hlen] at this

theorem ofImage_memory (h : MessageHeader) (memory : List UInt8) :
    MessageHeader.ofImage (overwrite memory 0 h.image) = h := by
  rw [overwrite_zero, MessageHeader.ofImage_image]

end

/-! ## What is processed -/

/-- What is to be processed for a message. -/
def processed (m : Message) : Processed := ⟨m.header, m.body⟩

theorem recvLoop_whole {junk : ℕ → List UInt8} {ms : List Message} (hms : ∀ m ∈ ms, m.size ≤ 32768) :
    ∀ {i : ℕ} {buffer : List UInt8} {s : Socket} {pieces : List (List UInt8)}, Carries s pieces →
      Whole pieces (ms.flatMap (units .network)) → recvLoop junk i buffer s = ms.map processed := by
  induction ms with
  | nil =>
    intro i buffer s pieces hs hwhole
    cases hwhole
    rw [recvLoop, recv_end hs]
    rfl
  | cons m ms ih =>
    intro i buffer s pieces hs hwhole
    have hsize : m.size ≤ 32768 := hms m (by simp)
    have hm : m.size = 20 + m.body.length := rfl
    have hlen : m.header.msg_len.toNat = m.size := Message.msg_len_toNat (by omega)
    have ih' := @ih fun c hc => hms c (List.mem_cons_of_mem _ hc)
    rw [List.flatMap_cons] at hwhole
    obtain ⟨s₁, pieces₁, hheader, hs₁, hwhole₁⟩ := recv_header hs hwhole
    rw [recvLoop]
    simp only [hheader, ofImage_memory, wire, MessageHeader.swap_swap, hlen]
    rw [if_neg (by decide), if_neg (by omega)]
    by_cases hbody : m.body = []
    · rw [if_pos hbody] at hwhole₁
      rw [if_neg (by rw [hm, hbody]; decide), ih' hs₁ hwhole₁, List.map_cons, processed, hbody]
    · have hpos := List.length_pos_iff.2 hbody
      rw [if_neg hbody] at hwhole₁
      obtain ⟨s₂, pieces₂, hrecv, hs₂, hwhole₂⟩ := recv_whole hs₁ hwhole₁ (by omega)
      have hsub : m.size - 20 = m.body.length := by omega
      rw [hsub, if_pos hpos]
      simp only [hrecv]
      rw [if_neg (by omega), ih' hs₂ hwhole₂, overwrite_zero, List.take_left]
      rfl

/-- What `CenterServer` is to process for a message. -/
def seen (m : Message) : Seen := ⟨m.header.msg_id, m.header.msg_len, m.body⟩

/-- The two fields of the header that `CenterServer` reads are the same in its own byte order. -/
def Readable (order : Order) (m : Message) : Prop :=
  (wire order m).msg_id = m.header.msg_id ∧ (wire order m).msg_len = m.header.msg_len

instance (order : Order) (m : Message) : Decidable (Readable order m) :=
  inferInstanceAs (Decidable (_ ∧ _))

/-- The header of the heartbeat that `LoginService` sends, in network order, is not read. -/
example : ¬Readable .network ⟨1002, 0, 0, List.replicate 22 0⟩ := by decide

theorem centerLoop_whole {order : Order} {ms : List Message}
    (hms : ∀ m ∈ ms, m.body.length < 2 ^ 31 ∧ Readable order m) :
    ∀ {s : Socket} {pieces : List (List UInt8)}, Carries s pieces →
      Whole pieces (ms.flatMap (units order)) → CenterServer.HandleRecv s = ms.map seen := by
  induction ms with
  | nil =>
    intro s pieces hs hwhole
    cases hwhole
    rw [CenterServer.HandleRecv, recv_end hs]
    rfl
  | cons m ms ih =>
    intro s pieces hs hwhole
    obtain ⟨hsize, hid, hmsg_len⟩ := hms m (by simp)
    have hm : m.size = 20 + m.body.length := rfl
    have hlen : m.header.msg_len.toNat = m.size := Message.msg_len_toNat (by omega)
    have ih' := @ih fun c hc => hms c (List.mem_cons_of_mem _ hc)
    rw [List.flatMap_cons] at hwhole
    obtain ⟨s₁, pieces₁, hheader, hs₁, hwhole₁⟩ := recv_header hs hwhole
    rw [CenterServer.HandleRecv]
    simp only [hheader, ofImage_memory, hid, hmsg_len, hlen]
    rw [if_neg (by decide)]
    by_cases hbody : m.body = []
    · rw [if_pos hbody] at hwhole₁
      rw [if_neg (by rw [hm, hbody]; decide), ih' hs₁ hwhole₁, List.map_cons, seen, hbody]
    · have hpos := List.length_pos_iff.2 hbody
      rw [if_neg hbody] at hwhole₁
      obtain ⟨s₂, pieces₂, hrecv, hs₂, hwhole₂⟩ := recv_whole hs₁ hwhole₁ (by omega)
      have hsub : m.size - 20 = m.body.length := by omega
      rw [hsub, if_pos (by omega)]
      simp only [hrecv]
      rw [if_neg (by omega), ih' hs₂ hwhole₂, overwrite_zero, List.drop_of_length_le (by simp),
        List.append_nil]
      rfl

/-- **The messages are processed** if no piece ends within a header or a body. -/
theorem exact_of_whole {s : Socket} {pieces : List (List UInt8)} {order : Order} {ms : List Message}
    (hs : Carries s pieces) (hwhole : Whole pieces (ms.flatMap (units order))) :
    (order = .network → (∀ m ∈ ms, m.size ≤ 32768) → ∀ junk,
      ProxyService.HandleRecv junk s = ms.map processed ∧
      DBService.HandleRecv junk s = ms.map processed) ∧
    ((∀ m ∈ ms, m.size < 2 ^ 31 ∧ Readable order m) → CenterServer.HandleRecv s = ms.map seen) := by
  constructor
  · rintro rfl hms junk
    exact ⟨recvLoop_whole hms hs hwhole, recvLoop_whole hms hs hwhole⟩
  · intro hms
    refine centerLoop_whole (fun m hm => ⟨?_, (hms m hm).2⟩) hs hwhole
    have hsize : 20 + m.body.length < 2 ^ 31 := (hms m hm).1
    omega

/-- The header and the body of a message in a piece each. -/
theorem whole_units {order : Order} {m : Message} (hbody : m.body ≠ []) :
    Whole [(wire order m).image, m.body] ([m].flatMap (units order)) := by
  rw [List.flatMap_singleton, units, if_neg hbody]
  exact .last (.last .nil)

/-- A login request for `ProxyService` and `DBService`, and one as `CenterServer` reads it. -/
theorem exact_login : ∃ m : Message, m.body = [7] ∧
    (∀ junk, ProxyService.HandleRecv junk ⟨[m.header.swap.image, m.body].map .bytes, [], []⟩ =
        [processed m] ∧
      DBService.HandleRecv junk ⟨[m.header.swap.image, m.body].map .bytes, [], []⟩ = [processed m]) ∧
    CenterServer.HandleRecv ⟨[m.header.image, m.body].map .bytes, [], []⟩ = [seen m] := by
  obtain ⟨m, hbody⟩ : ∃ m : Message, m.body = [7] := ⟨⟨100005, 0, 0, [7]⟩, rfl⟩
  have hne : m.body ≠ [] := by rw [hbody]; decide
  have hsize : m.size = 21 := by rw [Message.size, hbody]; rfl
  have hcarries (h : MessageHeader) : Carries ⟨[h.image, m.body].map .bytes, [], []⟩ [h.image, m.body] :=
    rfl
  refine ⟨m, hbody, (exact_of_whole (hcarries _) (whole_units hne : Whole _ ([m].flatMap (units .network)))).1 rfl ?_,
    (exact_of_whole (hcarries _) (whole_units hne : Whole _ ([m].flatMap (units .host)))).2 ?_⟩
  · simp [hsize]
  · simp [hsize, Readable, wire]

/-- The first byte of a message alone, in memory that was zero. -/
theorem handleRecv_cut : ProxyService.HandleRecv (fun _ => List.replicate 20 0)
    ⟨[[0], [0, 0, 1, 0, 0, 0, 20, 0, 0, 0, 0, 0, 0, 0, 0, 0, 0, 0, 0]].map .bytes, [], []⟩ = [] := by
  have hlen : (MessageHeader.ofImage (overwrite (List.replicate 20 0) 0 [0])).swap.msg_len.toNat = 0 := by
    decide
  have hrecv : Socket.recv 20
      ⟨[[0], [0, 0, 1, 0, 0, 0, 20, 0, 0, 0, 0, 0, 0, 0, 0, 0, 0, 0, 0]].map .bytes, [], []⟩ =
      (⟨1, false, [0]⟩, ⟨[.bytes [0, 0, 1, 0, 0, 0, 20, 0, 0, 0, 0, 0, 0, 0, 0, 0, 0, 0, 0]], [], []⟩) := by
    decide
  rw [ProxyService.HandleRecv, recvLoop]
  simp only [hrecv, hlen]
  rfl

/-- **A header that comes in two pieces is lost.** -/
theorem not_exact : ¬∀ (s : Socket) (pieces : List (List UInt8)) (ms : List Message)
    (junk : ℕ → List UInt8), Carries s pieces → (∀ p ∈ pieces, p ≠ []) →
    pieces.flatten = (ms.flatMap (units .network)).flatten → (∀ m ∈ ms, m.size ≤ 32768) →
    ProxyService.HandleRecv junk s = ms.map processed := by
  intro h
  have := h ⟨_, [], []⟩ [[0], [0, 0, 1, 0, 0, 0, 20, 0, 0, 0, 0, 0, 0, 0, 0, 0, 0, 0, 0]] [⟨1, 0, 0, []⟩]
    (fun _ => List.replicate 20 0) rfl (by decide) (by decide) (by decide)
  exact absurd (handleRecv_cut.symm.trans this) (by simp)

end Ancfl.Game.Recv
