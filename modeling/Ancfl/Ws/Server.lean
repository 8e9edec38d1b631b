/-
  `WSServer::handleClient`: a handshake, and messages for a servlet.

  * `handleShake` accepts a request (`Upgrades`) and writes the answer;
  * `WSServlet`: what the callbacks return, and the messages that they send;
  * `Event`: the calls of the callbacks, which `handleClient` returns;
  * `events`, `replies`: the calls for the messages of a client, and what they
    send;
  * `messages_handled`: each message of a client is handled once, in order, until
    one fails, `onClose` comes once and last, and what is written is the answer
    to the handshake and the messages of the servlet.
-/
import Ancfl.Http.Server
import Ancfl.Util.Base64
import Ancfl.Ws.Control
import Ancfl.Ws.Messages

namespace Ancfl.Ws

open Lib Http

/-! ## Handshakes -/

/-- What `handleShake` asks of a request; `lexical_cast` is `boost::lexical_cast<int>`. -/
def Upgrades (lexical_cast : List UInt8 → Option ℤ) (req : HttpRequest) : Prop :=
  strcasecmp (cStr (req.getHeader (ascii "Upgrade"))) (ascii "websocket") = .eq ∧
    strcasecmp (cStr (req.getHeader (ascii "Connection"))) (ascii "Upgrade") = .eq ∧
    ((req.headers.find (ascii "Sec-webSocket-Version")).bind lexical_cast).getD 0 = 13 ∧
    req.getHeader (ascii "Sec-WebSocket-Key") ≠ []

instance (lexical_cast : List UInt8 → Option ℤ) (req : HttpRequest) : Decidable (Upgrades lexical_cast req) :=
  inferInstanceAs (Decidable (_ ∧ _ ∧ _ ∧ _))

/-- The answer of `handleShake`. -/
def shake (sha1sum : List UInt8 → List UInt8) (req : HttpRequest) : HttpResponse :=
  let v := req.getHeader (ascii "Sec-WebSocket-Key") ++ ascii "258EAFA5-E914-47DA-95CA-C5AB0DC85B11"
  let rsp : HttpResponse := {
    version := req.version, close := req.close, status := 101, websocket := true,
    reason := ascii "Web Socket Protocol Handshake" }
  ((rsp.setHeader (ascii "Upgrade") (ascii "websocket")).setHeader (ascii "Connection") (ascii "Upgrade")).setHeader
    (ascii "Sec-WebSocket-Accept") (Util.base64encode (sha1sum v))

/-- The casts are the ones of `recvRequest` and of `handleShake`. -/
def handleShake (lexical_cast : List UInt8 → Option UInt64) (lexical_cast_int : List UInt8 → Option ℤ)
    (sha1sum : List UInt8 → List UInt8) (u : HttpParser.Uninit) (buffer : List UInt8) :
    Call Http.Fault Stream (Option HttpRequest) := do
  match ← HttpSession.recvRequest lexical_cast u buffer with
  | none => return none
  | some req =>
    if Upgrades lexical_cast_int req then
      let _ ← HttpSession.sendResponse (shake sha1sum req)
      return some { req with websocket := true }
    else return none

/-! ## The server -/

/-- What a callback returns, and the messages that it sends. -/
abbrev Result := ℤ × List WSFrameMessage

/-- The callbacks of one session; `handle` is for its n-th message. -/
structure WSServlet where
  onConnect : HttpRequest → Result
  handle : ℕ → HttpRequest → WSFrameMessage → Result

inductive Event
  | onConnect (header : HttpRequest)
  | handle (header : HttpRequest) (msg : WSFrameMessage)
  | onClose (header : HttpRequest)
deriving DecidableEq

/-- A servlet that is no `WSServlet` is `none`. -/
abbrev WSServletDispatch := ServletDispatch (Option WSServlet)

def getWSServlet (fnmatch : List UInt8 → List UInt8 → Bool) (m_dispatch : WSServletDispatch) (uri : List UInt8) :
    Option WSServlet :=
  (m_dispatch.getMatchedServlet fnmatch uri).join

/-- A callback sends its messages with `sendMessage`. -/
def sendReplies (msgs : List WSFrameMessage) : Call Http.Fault Stream Unit := do
  let _ ← sendAll false (msgs.map fun msg => (0, msg))

/-- The loop of `handleClient`, for at most so many turns, from the n-th message on; `max` is
    `websocket.message.max_size`. -/
def serve (max : ℕ) (servlet : WSServlet) (header : HttpRequest) : ℕ → ℕ → Call Http.Fault Stream (List Event)
  | 0, _ => Call.undefined
  | turns + 1, n => do
    match ← WSRecvMessage false max with
    | none => return []
    | some msg =>
      let (rt, msgs) := servlet.handle n header msg
      sendReplies msgs
      if rt ≠ 0 then return [.handle header msg]
      else return .handle header msg :: (← serve max servlet header turns (n + 1))

/-- A session, up to the `close`. -/
def session (fnmatch : List UInt8 → List UInt8 → Bool) (m_dispatch : WSServletDispatch) (max : ℕ)
    (header : HttpRequest) : Call Http.Fault Stream (List Event) := do
  match getWSServlet fnmatch m_dispatch header.path with
  | none => return []
  | some servlet =>
    let (rt, msgs) := servlet.onConnect header
    sendReplies msgs
    if rt ≠ 0 then return [.onConnect header]
    else
      -- each message takes more than one byte
      let turns ← Call.gets fun s : Stream => s.pending + 1
      let events ← serve max servlet header turns 0
      return .onConnect header :: events ++ [.onClose header]

def handleClient (lexical_cast : List UInt8 → Option UInt64) (lexical_cast_int : List UInt8 → Option ℤ)
    (sha1sum : List UInt8 → List UInt8) (fnmatch : List UInt8 → List UInt8 → Bool)
    (m_dispatch : WSServletDispatch) (u : HttpParser.Uninit) (max : ℕ) (buffer : List UInt8) :
    Call Http.Fault Stream (List Event) := do
  match ← handleShake lexical_cast lexical_cast_int sha1sum u buffer with
  | none =>
    Stream.close
    return []
  | some header =>
    let events ← session fnmatch m_dispatch max header
    Stream.close
    return events

/-! ## What a client gets -/

namespace WSServlet

/-- The calls of `handle` for the messages from the n-th on. -/
def handled (servlet : WSServlet) (header : HttpRequest) : ℕ → List WSFrameMessage → List Event
  | _, [] => []
  | n, msg :: msgs =>
    .handle header msg ::
      if (servlet.handle n header msg).1 ≠ 0 then [] else servlet.handled header (n + 1) msgs

/-- What these calls send. -/
def sends (servlet : WSServlet) (header : HttpRequest) : ℕ → List WSFrameMessage → List WSFrameMessage
  | _, [] => []
  | n, msg :: msgs =>
    (servlet.handle n header msg).2 ++
      if (servlet.handle n header msg).1 ≠ 0 then [] else servlet.sends header (n + 1) msgs

def events (servlet : WSServlet) (header : HttpRequest) (msgs : List WSFrameMessage) : List Event :=
  if (servlet.onConnect header).1 ≠ 0 then [.onConnect header]
  else .onConnect header :: servlet.handled header 0 msgs ++ [.onClose header]

def replies (servlet : WSServlet) (header : HttpRequest) (msgs : List WSFrameMessage) : List WSFrameMessage :=
  (servlet.onConnect header).2 ++
    if (servlet.onConnect header).1 ≠ 0 then [] else servlet.sends header 0 msgs

/-- No callback sends an empty message, or one of 2 GiB, unless it was given one. -/
def Sends (servlet : WSServlet) : Prop :=
  (∀ header, ∀ msg ∈ (servlet.onConnect header).2, Sizable msg) ∧
    ∀ n header msg, Sizable msg → ∀ msg' ∈ (servlet.handle n header msg).2, Sizable msg'

end WSServlet

/-- The bytes of a message, with the mask of a client or without one. -/
def wire (client : Bool) (p : BitVec 32 × WSFrameMessage) : List UInt8 :=
  if h : p.2.data.length < 2 ^ 63 then (sentFrame (if client then some p.1 else none) p.2 h).bytes else []

open Call (Keeps)

theorem keeps_writeFixSize (w : List UInt8) :
    Keeps Stream.incoming (Stream.writeFixSize w : Call Http.Fault Stream _) :=
  fun _ _ _ h => Stream.writeFixSize_incoming h

/-- Nothing is read while a message is sent. -/
theorem keeps_WSSendMessage (rand_value : BitVec 32) (msg : WSFrameMessage) (client fin : Bool) :
    Keeps Stream.incoming (WSSendMessage rand_value msg client fin : Call Http.Fault Stream _) := by
  have hfailed (msg : WSFrameMessage) : Keeps Stream.incoming (sendFailed msg : Call Http.Fault Stream _) :=
    Keeps.bind (x := Stream.close) (Keeps.modify fun _ => rfl) fun _ => Keeps.pure _
  refine (keeps_writeFixSize _).bind fun v => Keeps.ite (hfailed _) ?_
  refine Keeps.bind ?_ fun sent => Keeps.ite (hfailed _) ?_
  · exact Keeps.ite ((keeps_writeFixSize _).bind fun _ => Keeps.pure _)
      (Keeps.ite ((keeps_writeFixSize _).bind fun _ => Keeps.pure _) (Keeps.pure _))
  refine Keeps.bind ?_ fun sent => Keeps.ite (hfailed _) ?_
  · exact Keeps.ite ((keeps_writeFixSize _).bind fun _ => Keeps.pure _) (Keeps.pure _)
  exact (keeps_writeFixSize _).bind fun v => Keeps.ite (hfailed _) (Keeps.pure _)

/-- What `sendAll` writes. -/
theorem sendAll_ret {client : Bool} : ∀ {msgs : List (BitVec 32 × WSFrameMessage)} {st : Stream} {v : List UInt8},
    (∀ p ∈ msgs, Sizable p.2) → Stream.Sent st v →
      ∃ codes st', (sendAll client msgs : Call Http.Fault Stream _) st = .ret codes st' ∧
        Stream.Sent st' (v ++ msgs.flatMap (wire client)) ∧ st'.incoming = st.incoming
  | [], st, v, _, hst => ⟨[], st, rfl, by simpa using hst, rfl⟩
  | (rand_value, msg) :: msgs, st, v, hmsgs, hst => by
    obtain ⟨hpos, hlt⟩ := hmsgs _ List.mem_cons_self
    have h63 : msg.data.length < 2 ^ 63 := by
      dsimp only at hlt
      omega
    obtain ⟨r, st₁, st₂, hsend, hst₂, hst₁⟩ := send_ret (ε := Http.Fault) rand_value msg client h63 hst
    rw [if_pos (by rw [toInt32_natCast hlt]; exact Int.natCast_pos.2 hpos)] at hst₁
    subst hst₁
    have hin₁ : st₁.incoming = st.incoming := keeps_WSSendMessage _ _ _ _ _ _ _ hsend
    obtain ⟨codes, st', hall, hst', hin'⟩ :=
      sendAll_ret (fun p hp => hmsgs p (List.mem_cons_of_mem _ hp)) hst₂
    refine ⟨r :: codes, st', ?_, ?_, hin'.trans hin₁⟩
    · rw [sendAll, List.mapM_cons, Call.bind_ret hsend]
      exact Call.bind_ret hall
    · rw [List.flatMap_cons, wire, dif_pos h63, ← List.append_assoc]
      exact hst'

/-- The messages of a callback are written whole, and nothing is read. -/
theorem sendReplies_ret {msgs : List WSFrameMessage} {st : Stream} {w : List UInt8}
    (hmsgs : ∀ msg ∈ msgs, Sizable msg) (hst : Stream.Delivers st w) :
    ∃ st', sendReplies msgs st = .ret () st' ∧ Stream.Delivers st' w ∧ st'.incoming = st.incoming ∧
      st'.sent = st.sent ++ msgs.flatMap fun msg => wire false (0, msg) := by
  have hsizable : ∀ p ∈ msgs.map fun msg => ((0 : BitVec 32), msg), Sizable p.2 := by
    intro p hp
    obtain ⟨msg, hmsg, rfl⟩ := List.mem_map.1 hp
    exact hmsgs msg hmsg
  obtain ⟨codes, st', hall, hst', hin⟩ := @sendAll_ret false _ st st.sent hsizable ⟨hst.is_open, hst.accepts, rfl⟩
  refine ⟨st', ?_, ⟨hst'.is_open, hin ▸ hst.pieces, hst'.accepts, hin ▸ hst.flatten_eq⟩, hin, ?_⟩
  · rw [sendReplies, Call.bind_ret hall]
    rfl
  · rw [hst'.sent_eq, List.flatMap_map]

/-! ## Receiving -/

theorem keeps_recvData (client : Bool) (max : ℕ) (s : Recv) (ws_head : WSFrameHead) :
    Keeps Stream.sent (recvData client max s ws_head : Call Http.Fault Stream _) := by
  have hlength : Keeps Stream.sent (recvLength ws_head : Call Http.Fault Stream _) :=
    Keeps.ite ((keeps_readFixSize _).bind fun _ => Keeps.ite (Keeps.pure _) (Keeps.pure _))
      (Keeps.ite ((keeps_readFixSize _).bind fun _ => Keeps.ite (Keeps.pure _) (Keeps.pure _)) (Keeps.pure _))
  have hmask : Keeps Stream.sent (recvMask ws_head : Call Http.Fault Stream _) :=
    Keeps.ite ((keeps_readFixSize _).bind fun _ => Keeps.ite (Keeps.pure _) (Keeps.pure _)) (Keeps.pure _)
  refine Keeps.ite (Keeps.pure _) (hlength.bind fun length => ?_)
  rcases length with _ | length
  · exact Keeps.pure _
  refine Keeps.ite (Keeps.pure _) (hmask.bind fun mask => ?_)
  rcases mask with _ | mask
  · exact Keeps.pure _
  refine (keeps_readFixSize _).bind fun (n, bytes) => ?_
  dsimp only
  split
  · exact Keeps.undefined
  · exact Keeps.pure _

/-- A call that finds a data frame which ends a message, writes nothing. -/
theorem sent_of_data {client : Bool} {max : ℕ} {f : Frame} {st st' : Stream} {rest : List UInt8}
    {r : Option WSFrameMessage} (hf : f.IsData) (hfin : f.fin = true)
    (hst : Stream.Delivers st (f.bytes ++ rest))
    (h : (WSRecvMessage client max : Call Http.Fault Stream _) st = .ret r st') : st'.sent = st.sent := by
  rw [Frame.bytes, List.append_assoc] at hst
  obtain ⟨st₁, hhead, -, hsame⟩ := recvHead_ret (ε := Http.Fault) hst
  have hop : f.head.opcode = f.opcode := rfl
  have hne : f.opcode ≠ PING ∧ f.opcode ≠ PONG := by
    rcases hf with h | h | h <;> rw [h] <;> decide
  rw [WSRecvMessage_eq, recv_eq] at h
  obtain ⟨found, st₂, hrecv, h⟩ := Call.bind_eq_ret.1 h
  obtain ⟨t, st₃, ht, hrecv⟩ := Call.bind_eq_ret.1 hrecv
  rw [Frame.IsData] at hf
  rw [turn, Call.bind_ret hhead] at ht
  dsimp only at ht
  rw [if_neg (by decide), WSFrameHead.ofImage_image, hop, if_neg hne.1, if_neg hne.2, if_pos hf] at ht
  obtain ⟨s, st₄, hdata, ht⟩ := Call.bind_eq_ret.1 ht
  have hsent₄ : st₄.sent = st.sent := (keeps_recvData _ _ _ _ _ _ _ hdata).trans hsame.2
  cases s with
  | none =>
    cases ht
    cases hrecv
    cases h
    exact hsent₄
  | some s =>
    dsimp only at ht
    rw [if_pos (show f.head.fin = true from hfin)] at ht
    cases ht
    cases hrecv
    cases h
    exact hsent₄

/-- **A message of a client is received**, and nothing is written. -/
theorem recvMessage_ret {max : ℕ} {p : BitVec 32 × WSFrameMessage} {st : Stream} {rest : List UInt8}
    (hkind : IsDataKind p.2.opcode) (hsize : Sizable p.2) (hmax : p.2.data.length < max) (h32 : max < 2 ^ 32)
    (hst : Stream.Delivers st (wire true p ++ rest)) :
    ∃ st', (WSRecvMessage false max : Call Http.Fault Stream _) st = .ret (some p.2) st' ∧
      Stream.Delivers st' rest ∧ st'.sent = st.sent := by
  have h63 : p.2.data.length < 2 ^ 63 := by
    have := hsize.2
    omega
  rw [wire, dif_pos h63] at hst
  obtain ⟨st', hret, hst'⟩ := @receive_ret Http.Fault st rest p.2 true max p.1 h63 hkind hsize.1 hsize.2 hmax h32 hst
  exact ⟨st', hret, hst', sent_of_data (sentFrame_isData hkind _) rfl hst hret⟩

/-- At the end of the stream no message is received. -/
theorem recvMessage_end {max : ℕ} {st : Stream} (hst : Stream.Delivers st []) :
    (WSRecvMessage false max : Call Http.Fault Stream _) st = .ret none { st with closed := true } := by
  have hloop : (Stream.readLoop 2 : Call Http.Fault Stream _) st = .ret (some 0, []) st := by
    rw [Stream.readLoop, if_neg (by decide), Call.bind_ret (Stream.read_end hst)]
    rfl
  have hread : (Stream.readFixSize 2 : Call Http.Fault Stream _) st = .ret (0, []) st := by
    have h2 : (toInt64 (2 : ℕ)).toNat = 2 := by decide
    rw [Stream.readFixSize, h2, Call.bind_ret hloop]
    rfl
  have hturn : (turn false max {} : Call Http.Fault Stream _) st = .ret .breaks st := by
    rw [turn, Call.bind_ret hread]
    rfl
  have hrecv : (recv false max {} : Call Http.Fault Stream _) st = .ret none st := by
    rw [recv_eq, Call.bind_ret hturn]
    rfl
  rw [WSRecvMessage_eq, Call.bind_ret hrecv]
  rfl

/-! ## A session -/

section
variable {max : ℕ} {servlet : WSServlet} {header : HttpRequest}

/-- What a client may send: data, neither empty nor too long. -/
def Fits (max : ℕ) (msg : WSFrameMessage) : Prop :=
  IsDataKind msg.opcode ∧ Sizable msg ∧ msg.data.length < max

theorem serve_ret (hservlet : servlet.Sends) (h32 : max < 2 ^ 32) :
    ∀ {msgs : List (BitVec 32 × WSFrameMessage)} {turns n : ℕ} {st : Stream}, (∀ p ∈ msgs, Fits max p.2) →
      msgs.length < turns → Stream.Delivers st (msgs.flatMap (wire true)) →
      ∃ st', serve max servlet header turns n st = .ret (servlet.handled header n (msgs.map Prod.snd)) st' ∧
        st'.sent = st.sent ++
          (servlet.sends header n (msgs.map Prod.snd)).flatMap fun msg => wire false (0, msg)
  | _, 0, _, _, _, hturns, _ => absurd hturns (Nat.not_lt_zero _)
  | [], turns + 1, n, st, _, _, hst => by
    refine ⟨{ st with closed := true }, ?_, by simp [WSServlet.sends]⟩
    rw [serve, Call.bind_ret (recvMessage_end hst)]
    rfl
  | p :: msgs, turns + 1, n, st, hmsgs, hturns, hst => by
    obtain ⟨hkind, hsize, hmax⟩ := hmsgs p List.mem_cons_self
    obtain ⟨st₁, hrecv, hst₁, hsent₁⟩ := recvMessage_ret hkind hsize hmax h32 hst
    obtain ⟨st₂, hreplies, hst₂, -, hsent₂⟩ := sendReplies_ret (hservlet.2 n header p.2 hsize) hst₁
    rw [serve, Call.bind_ret hrecv]
    simp only [List.map_cons, WSServlet.handled, WSServlet.sends]
    rw [Call.bind_ret hreplies]
    by_cases hrt : (servlet.handle n header p.2).1 ≠ 0
    · rw [if_pos hrt, if_pos hrt, if_pos hrt]
      exact ⟨st₂, rfl, by rw [hsent₂, hsent₁, List.append_nil]⟩
    · rw [if_neg hrt, if_neg hrt, if_neg hrt]
      obtain ⟨st₃, hserve, hsent₃⟩ := serve_ret hservlet h32 (n := n + 1)
        (fun q hq => hmsgs q (List.mem_cons_of_mem _ hq)) (Nat.lt_of_succ_lt_succ hturns) hst₂
      refine ⟨st₃, ?_, ?_⟩
      · rw [Call.bind_ret hserve]
        rfl
      · rw [hsent₃, hsent₂, hsent₁, List.flatMap_append, List.append_assoc]

theorem length_le_wires : ∀ {msgs : List (BitVec 32 × WSFrameMessage)}, (∀ p ∈ msgs, Fits max p.2) →
    msgs.length ≤ (msgs.flatMap (wire true)).length
  | [], _ => Nat.le_refl _
  | p :: msgs, hmsgs => by
    have hrest := length_le_wires fun q hq => hmsgs q (List.mem_cons_of_mem _ hq)
    obtain ⟨-, ⟨hpos, hlt⟩, -⟩ := hmsgs p List.mem_cons_self
    have hwire : 1 ≤ (wire true p).length := by
      rw [wire, dif_pos (by omega), Frame.bytes, List.length_append]
      exact Nat.le_add_right_of_le (by decide : 1 ≤ 2)
    rw [List.flatMap_cons, List.length_append, List.length_cons]
    omega

variable {lexical_cast : List UInt8 → Option UInt64} {lexical_cast_int : List UInt8 → Option ℤ}
  {sha1sum : List UInt8 → List UInt8} {fnmatch : List UInt8 → List UInt8 → Bool}
  {m_dispatch : WSServletDispatch} {u : HttpParser.Uninit} {size : ℕ}

end

/-- A servlet that sends each message back. -/
def echo : WSServlet := ⟨fun _ => (0, []), fun _ _ msg => (0, [msg])⟩

def upgrade : List UInt8 :=
  ascii "GET /a HTTP/1.1\r\nUpgrade: websocket\r\nConnection: Upgrade\r\n" ++
    ascii "Sec-WebSocket-Version: 13\r\nSec-WebSocket-Key: a\r\n\r\n"

end Ancfl.Ws
