/-
  Messages that are sent and received whole.

  * `sentFrame` is the frame `WSSendMessage` writes; `send_ret`: it does write
    it, but closes the stream after an empty payload or one of 2 GiB and more;
  * `receive_ret`, `receive_none`: `WSRecvMessage` returns the message unless
    the payload is one of these;
  * `received_iff`: a sequence of messages is received as it was sent iff none
    of the payloads is.
-/
import Ancfl.ByteArray.Chunks
import Ancfl.Ws.Frames

namespace Ancfl.Ws

open Lib

variable {ε : Type}

/-! ## Sending -/

/-- The length form of a payload. -/
def formOf (n : ℕ) : LengthForm :=
  if n < 126 then .short else if n < 65536 then .medium else .long

theorem formOf_fits {n : ℕ} (h : n < 2 ^ 63) : (formOf n).Fits n := by
  unfold formOf
  split_ifs with h1 h2
  exacts [h1, h2, h]

/-- The frame of a message that is sent with the mask `key` (from the client), or without one. -/
def sentFrame (key : Option (BitVec 32)) (msg : WSFrameMessage) (h : msg.data.length < 2 ^ 63) :
    Frame where
  opcode := BitVec.ofInt 4 msg.opcode
  fin := true
  form := formOf msg.data.length
  key := key
  payload := if key.isSome then xorMask (key.elim [] (image 4)) msg.data else msg.data
  fits := by
    have : (if key.isSome then xorMask (key.elim [] (image 4)) msg.data else msg.data).length =
        msg.data.length := by split_ifs <;> simp
    rw [this]; exact formOf_fits h

theorem sentFrame_length (key : Option (BitVec 32)) (msg : WSFrameMessage)
    (h : msg.data.length < 2 ^ 63) : (sentFrame key msg h).payload.length = msg.data.length := by
  rw [sentFrame]; split_ifs <;> simp

/-- The payload is meant as the data of the message. -/
theorem sentFrame_data (key : Option (BitVec 32)) (msg : WSFrameMessage)
    (h : msg.data.length < 2 ^ 63) : (sentFrame key msg h).data = msg.data := by
  cases key with
  | none => rfl
  | some k => exact xorMask_xorMask (image 4 k) msg.data

theorem sentFrame_head (rand_value : BitVec 32) (msg : WSFrameMessage) (client : Bool)
    (h : msg.data.length < 2 ^ 63) :
    (sentFrame (if client then some rand_value else none) msg h).head = sendHead msg client true := by
  have hlen := sentFrame_length (if client then some rand_value else none) msg h
  have hform : (sentFrame (if client then some rand_value else none) msg h).form =
      formOf msg.data.length := rfl
  have hmask : (if client then some rand_value else none).isSome = client := by
    cases client <;> rfl
  unfold Frame.head sendHead
  rw [hlen, hform]
  congr 1
  unfold formOf
  split_ifs <;> rfl

theorem sendLength_ret {out : Stream} {u : List UInt8} (rand_value : BitVec 32)
    (msg : WSFrameMessage) (client : Bool) (h : msg.data.length < 2 ^ 63) (hout : Stream.Sent out u) :
    ∃ out', (sendLength (sendHead msg client true) (BitVec.ofNat 64 msg.data.length) :
        Call ε Stream _) out = .ret true out' ∧
      Stream.Sent out'
        (u ++ (sentFrame (if client then some rand_value else none) msg h).lengthBytes) := by
  have hlen := sentFrame_length (if client then some rand_value else none) msg h
  have hwrite {n : ℕ} (hn0 : 0 < n) (hn : n < 2 ^ 31) (x : BitVec (8 * n)) : ∃ out',
      (do return decide (0 < (← Stream.writeFixSize (image n x))) : Call ε Stream Bool) out =
        .ret true out' ∧ Stream.Sent out' (u ++ image n x) := by
    obtain ⟨out', hw, hout'⟩ := Stream.writeFixSize_ret (ε := ε) hout (image n x)
    rw [length_image, toInt32_natCast hn] at hw
    refine ⟨out', ?_, hout'⟩
    rw [Call.bind_ret hw, decide_eq_true (by omega)]
    rfl
  unfold sendLength Frame.lengthBytes
  rw [hlen]
  unfold sentFrame sendHead formOf
  dsimp only
  by_cases h1 : msg.data.length < 126
  · have hne : ∀ k : BitVec 7, 126 ≤ k.toNat → BitVec.ofNat 7 msg.data.length ≠ k := by
      rintro k hk rfl
      rw [BitVec.toNat_ofNat, Nat.mod_eq_of_lt (by omega)] at hk
      omega
    simp only [if_pos h1]
    rw [if_neg (hne 126 (by decide)), if_neg (hne 127 (by decide))]
    exact ⟨out, rfl, by rw [List.append_nil]; exact hout⟩
  by_cases h2 : msg.data.length < 65536
  · simp only [if_neg h1, if_pos h2, if_true]
    rw [BitVec.setWidth_ofNat_of_le (by decide)]
    exact hwrite (by decide) (by decide) _
  · simp only [if_neg h1, if_neg h2]
    rw [if_neg (by decide), if_pos trivial]
    exact hwrite (by decide) (by decide) _

theorem sendMask_ret {out : Stream} {u : List UInt8} (client : Bool) (rand_value : BitVec 32)
    (hout : Stream.Sent out u) :
    ∃ out', (sendMask client (image 4 rand_value) : Call ε Stream _) out = .ret true out' ∧
      Stream.Sent out' (u ++ (if client then some rand_value else none).elim [] (image 4)) := by
  cases client with
  | false => exact ⟨out, rfl, by rw [if_neg nofun]; exact (List.append_nil u).symm ▸ hout⟩
  | true =>
    have h4 : (image 4 rand_value).length = 4 := length_image 4 rand_value
    obtain ⟨out', hw, hout'⟩ := Stream.writeFixSize_ret (ε := ε) hout (image 4 rand_value)
    rw [h4, toInt32_natCast (by decide)] at hw
    refine ⟨out', ?_, hout'⟩
    rw [sendMask, if_pos rfl, Call.bind_ret hw]
    rfl

/-- **`WSSendMessage` writes the frame of the message.**  It returns -1 and closes the stream if the
    size is 0 or negative as an `int`. -/
theorem send_ret {out : Stream} {u : List UInt8} (rand_value : BitVec 32) (msg : WSFrameMessage)
    (client : Bool) (h : msg.data.length < 2 ^ 63) (hout : Stream.Sent out u) :
    ∃ r out' out'', (WSSendMessage rand_value msg client true : Call ε Stream _) out = .ret r out' ∧
      Stream.Sent out'' (u ++ (sentFrame (if client then some rand_value else none) msg h).bytes) ∧
        out' = if 0 < toInt32 msg.data.length then out'' else { out'' with closed := true } := by
  set f := sentFrame (if client then some rand_value else none) msg h with hf
  have hhead : f.head = sendHead msg client true := sentFrame_head rand_value msg client h
  have hlen : f.payload.length = msg.data.length := sentFrame_length _ msg h
  have h2 : (sendHead msg client true).image.length = 2 := rfl
  obtain ⟨out₁, hw₁, hout₁⟩ :=
    Stream.writeFixSize_ret (ε := ε) hout (sendHead msg client true).image
  rw [h2, toInt32_natCast (by decide)] at hw₁
  obtain ⟨out₂, hw₂, hout₂⟩ := sendLength_ret (ε := ε) rand_value msg client h hout₁
  obtain ⟨out₃, hw₃, hout₃⟩ := sendMask_ret (ε := ε) client rand_value hout₂
  have hmasked : (if client then { msg with data := xorMask (image 4 rand_value) msg.data }
      else msg).data = f.payload := by
    rw [hf, sentFrame]; cases client <;> rfl
  obtain ⟨out₄, hw₄, hout₄⟩ := Stream.writeFixSize_ret (ε := ε) hout₃ f.payload
  rw [hlen] at hw₄
  generalize hv : toInt32 msg.data.length = v at hw₄
  have hbytes : u ++ (sendHead msg client true).image ++ f.lengthBytes ++
      (if client then some rand_value else none).elim [] (image 4) ++ f.payload = u ++ f.bytes := by
    rw [Frame.bytes, Frame.body, hhead]
    simp only [List.append_assoc]
    rfl
  rw [hbytes] at hout₄
  rw [WSSendMessage, Call.bind_ret hw₁, if_neg (by decide), Call.bind_ret hw₂, if_neg (by decide),
    Call.bind_ret hw₃, if_neg (by decide), hmasked, Call.bind_ret hw₄]
  by_cases hpos : 0 < v
  · rw [if_neg (by omega)]
    exact ⟨_, _, out₄, rfl, hout₄, (if_pos hpos).symm⟩
  · rw [if_pos (by omega)]
    exact ⟨_, _, out₄, rfl, hout₄, (if_neg hpos).symm⟩

/-- Nothing is sent on a closed stream. -/
theorem send_closed {out : Stream} (rand_value : BitVec 32) (msg : WSFrameMessage) (client : Bool)
    (hout : out.closed = true) :
    (WSSendMessage rand_value msg client true : Call ε Stream _) out = .ret (-1, msg) out := by
  have hw : (Stream.writeFixSize (sendHead msg client true).image : Call ε Stream _) out =
      .ret (-1) out := Stream.writeFixSize_closed hout nofun
  rw [WSSendMessage, Call.bind_ret hw, if_pos (by decide), sendFailed]
  obtain ⟨incoming, accepts, sent, closed⟩ := out
  obtain rfl : closed = true := hout
  rfl

/-! ## Receiving -/

/-- The opcodes of data. -/
def IsDataKind (opcode : ℤ) : Prop := opcode = 0 ∨ opcode = 1 ∨ opcode = 2

section
variable {st : Stream} {rest : List UInt8} {msg : WSFrameMessage} {client : Bool} {max : ℕ}
  {rand_value : BitVec 32} {h : msg.data.length < 2 ^ 63}

theorem sentFrame_isData (hkind : IsDataKind msg.opcode) (key : Option (BitVec 32)) :
    (sentFrame key msg h).IsData := by
  have hop : (sentFrame key msg h).opcode = BitVec.ofInt 4 msg.opcode := rfl
  rw [Frame.IsData, hop]
  rcases hkind with hk | hk | hk <;> rw [hk]
  exacts [.inl rfl, .inr (.inl rfl), .inr (.inr rfl)]

theorem sentFrame_role : (!client) = true ∨
    (sentFrame (if client then some rand_value else none) msg h).key ≠ none := by
  cases client
  exacts [.inl rfl, .inr nofun]

/-- The opcode of the message is the one it was sent with. -/
theorem nextOpcode_start (hkind : IsDataKind msg.opcode) :
    ({} : Recv).nextOpcode (BitVec.ofInt 4 msg.opcode) = msg.opcode := by
  rcases hkind with hk | hk | hk <;> rw [hk] <;> rfl

/-- **A message is received as it was sent** if its payload is neither empty nor 2 GiB or more. -/
theorem receive_ret (hkind : IsDataKind msg.opcode) (hpos : 0 < msg.data.length)
    (hlen : msg.data.length < 2 ^ 31) (hmax : msg.data.length < max) (h32 : max < 2 ^ 32)
    (hst : Stream.Delivers st
      ((sentFrame (if client then some rand_value else none) msg h).bytes ++ rest)) :
    ∃ st', (WSRecvMessage (!client) max : Call ε Stream _) st = .ret (some msg) st' ∧
      Stream.Delivers st' rest := by
  set f := sentFrame (if client then some rand_value else none) msg h with hf
  have hflen : f.payload.length = msg.data.length := sentFrame_length _ msg h
  have hnil : ({} : Recv).data.length = 0 := rfl
  have habs : absorb (!client) max {} f = some (some (({} : Recv).append f)) :=
    absorb_append rfl sentFrame_role (by omega) (by omega) (by omega) h32
  obtain ⟨st', hrecv, hst'⟩ := recv_last (ε := ε) (sentFrame_isData hkind _) rfl habs hst
  have hmsg : (⟨(({} : Recv).append f).opcode, (({} : Recv).append f).data⟩ : WSFrameMessage) =
      msg := by
    have hdata : f.data = msg.data := sentFrame_data _ msg h
    rw [Recv.append, hdata]
    exact congrArg (WSFrameMessage.mk · msg.data) (nextOpcode_start hkind)
  refine ⟨st', ?_, hst'⟩
  rw [WSRecvMessage_eq, Call.bind_ret hrecv, hmsg]
  rfl

/-- **Otherwise no message is received**: the result of `readFixSize` is the number of the bytes as
    an `int`, and 0 and negative results are failures. -/
theorem receive_none (hkind : IsDataKind msg.opcode)
    (hbad : ¬ (0 < msg.data.length ∧ msg.data.length < 2 ^ 31)) (hmax : msg.data.length < max)
    (h32 : max < 2 ^ 32)
    (hst : Stream.Delivers st
      ((sentFrame (if client then some rand_value else none) msg h).bytes ++ rest)) :
    ∃ st', (WSRecvMessage (!client) max : Call ε Stream _) st = .ret none st' := by
  set f := sentFrame (if client then some rand_value else none) msg h with hf
  have hflen : f.payload.length = msg.data.length := sentFrame_length _ msg h
  have hnil : ({} : Recv).data.length = 0 := rfl
  have hint : toInt32 msg.data.length ≤ 0 := by
    by_cases h0 : msg.data.length = 0
    · rw [h0]; decide
    · exact (toInt32_of_ge (by omega) (by omega)).le
  have hno : ¬ ((!client) = false ∧ f.key = none) := by
    rintro ⟨h1, h2⟩
    rcases (sentFrame_role : (!client) = true ∨ _) with h' | h'
    · rw [h1] at h'; cases h'
    · exact h' h2
  have habs : absorb (!client) max {} f = some none := by
    have hzero : ({} : Recv).cur_len + msg.data.length = msg.data.length := Int.zero_add _
    rw [absorb, if_neg hno, hflen, hzero, toUInt64_natCast (by omega), if_neg (by omega), accept,
      hzero, toUInt64_natCast (by omega)]
    have hstore := @storeAt_end ({} : Recv).data _ _ (le_of_eq hflen)
    rw [hnil, Nat.zero_add] at hstore
    have hstore' : storeAt (resize ({} : Recv).data msg.data.length) ({} : Recv).cur_len f.payload =
        some (({} : Recv).data ++ f.payload ++
          List.replicate (msg.data.length - f.payload.length) 0) := hstore
    rw [hstore', Option.bind_eq_bind, Option.bind_some, if_pos hint]
    rfl
  obtain ⟨st', hrecv⟩ := recv_breaks (ε := ε) (sentFrame_isData hkind _) habs hst
  exact ⟨{ st' with closed := true }, by rw [WSRecvMessage_eq, Call.bind_ret hrecv]; rfl⟩

end

/-! ## Sequences of messages -/

/-- The size of the payload is positive as an `int`. -/
def Sizable (msg : WSFrameMessage) : Prop := 0 < msg.data.length ∧ msg.data.length < 2 ^ 31

/-- `WSSendMessage` on the messages, one after the other, each with the value `rand()` returns for
    it. -/
def sendAll (client : Bool) (msgs : List (BitVec 32 × WSFrameMessage)) :
    Call ε Stream (List (ℤ × WSFrameMessage)) :=
  msgs.mapM fun (rand_value, msg) => WSSendMessage rand_value msg client true

/-- The receiver returns the messages, and stops at the bytes that follow. -/
def Returns (ε : Type) (client : Bool) (max : ℕ) (msgs : List (BitVec 32 × WSFrameMessage))
    (st : Stream) (rest : List UInt8) : Prop :=
  ∃ st', (msgs.mapM fun _ => WSRecvMessage client max : Call ε Stream _) st =
    .ret (msgs.map fun p => some p.2) st' ∧ Stream.Delivers st' rest

/-- What the sender writes is received as the messages it was given, in whatever pieces it comes. -/
def Received (ε : Type) (client : Bool) (max : ℕ) (msgs : List (BitVec 32 × WSFrameMessage)) :
    Prop :=
  ∀ out, Stream.Sent out [] → ∃ codes out',
    (sendAll client msgs : Call ε Stream _) out = .ret codes out' ∧
      ∀ st rest, Stream.Delivers st (out'.sent ++ rest) → Returns ε (!client) max msgs st rest

theorem sendAll_closed {out : Stream} {client : Bool} (hout : out.closed = true) :
    ∀ msgs : List (BitVec 32 × WSFrameMessage), ∃ codes,
      (sendAll client msgs : Call ε Stream _) out = .ret codes out
  | [] => ⟨[], rfl⟩
  | (rand_value, msg) :: msgs => by
    obtain ⟨codes, hall⟩ := sendAll_closed hout msgs
    refine ⟨(-1, msg) :: codes, ?_⟩
    rw [sendAll, List.mapM_cons, Call.bind_ret (send_closed rand_value msg client hout)]
    exact Call.bind_ret hall

section
variable {client : Bool} {max : ℕ} {st : Stream} {rest : List UInt8}

/-- A first message that is received. -/
theorem returns_cons {st' : Stream} {p : BitVec 32 × WSFrameMessage}
    {msgs : List (BitVec 32 × WSFrameMessage)}
    (h : (WSRecvMessage client max : Call ε Stream _) st = .ret (some p.2) st') :
    Returns ε client max (p :: msgs) st rest ↔ Returns ε client max msgs st' rest := by
  unfold Returns
  rw [List.mapM_cons, Call.bind_ret h]
  constructor
  · rintro ⟨st₂, hall, hst₂⟩
    obtain ⟨ms, st₃, htail, hcons⟩ := Call.bind_eq_ret.1 hall
    injection hcons with hms hst
    injection hms with _ hms
    subst hms hst
    exact ⟨st₃, htail, hst₂⟩
  · rintro ⟨st₂, htail, hst₂⟩
    exact ⟨st₂, by rw [Call.bind_ret htail]; rfl, hst₂⟩

/-- A first message that is not received. -/
theorem not_returns_cons {st' : Stream} {p : BitVec 32 × WSFrameMessage}
    {msgs : List (BitVec 32 × WSFrameMessage)}
    (h : (WSRecvMessage client max : Call ε Stream _) st = .ret none st') :
    ¬ Returns ε client max (p :: msgs) st rest := by
  rintro ⟨st₂, hall, -⟩
  rw [List.mapM_cons, Call.bind_ret h] at hall
  obtain ⟨ms, st₃, -, hcons⟩ := Call.bind_eq_ret.1 hall
  injection hcons with hms _
  injection hms with hp _
  cases hp

end

/-- **What is sent is received iff the sizes are positive**: after a message that fails the sender
    has closed its stream. -/
theorem exchange_iff {client : Bool} {max : ℕ} (h32 : max < 2 ^ 32) :
    ∀ (msgs : List (BitVec 32 × WSFrameMessage)) {out : Stream} {u : List UInt8},
      (∀ p ∈ msgs, IsDataKind p.2.opcode ∧ p.2.data.length < max) → Stream.Sent out u →
        ∃ codes out' w, (sendAll client msgs : Call ε Stream _) out = .ret codes out' ∧
          out'.sent = u ++ w ∧ ∀ st rest, Stream.Delivers st (w ++ rest) →
            (Returns ε (!client) max msgs st rest ↔ ∀ p ∈ msgs, Sizable p.2)
  | [], out, u, _, hout => by
    refine ⟨[], out, [], rfl, by rw [hout.sent_eq, List.append_nil], fun st rest hst => ?_⟩
    exact ⟨fun _ => nofun, fun _ => ⟨st, rfl, hst⟩⟩
  | (rand_value, msg) :: msgs, out, u, hall, hout => by
    obtain ⟨hkind, hmax⟩ := hall _ List.mem_cons_self
    dsimp only at hkind hmax
    have h63 : msg.data.length < 2 ^ 63 := by omega
    obtain ⟨r, out₁, out₂, hsend, hout₂, hout₁⟩ := send_ret (ε := ε) rand_value msg client h63 hout
    rw [sendAll, List.mapM_cons, Call.bind_ret hsend]
    by_cases hgood : Sizable msg
    · rw [if_pos (by rw [toInt32_natCast hgood.2]; exact Int.natCast_pos.2 hgood.1)] at hout₁
      subst hout₁
      obtain ⟨codes, out', w, htail, hsent, hrecv⟩ :=
        exchange_iff h32 msgs (fun p hp => hall p (List.mem_cons_of_mem _ hp)) hout₂
      refine ⟨r :: codes, out', (sentFrame _ msg h63).bytes ++ w, Call.bind_ret htail,
        hsent.trans (List.append_assoc ..), fun st rest hst => ?_⟩
      rw [List.append_assoc] at hst
      obtain ⟨st₁, hmsg, hst₁⟩ := receive_ret (ε := ε) hkind hgood.1 hgood.2 hmax h32 hst
      rw [returns_cons hmsg, hrecv st₁ rest hst₁, List.forall_mem_cons]
      exact (and_iff_right hgood).symm
    · rw [if_neg] at hout₁
      · have hclosed : out₁.closed = true := by rw [hout₁]
        obtain ⟨codes, htail⟩ := @sendAll_closed ε _ client hclosed msgs
        refine ⟨r :: codes, out₁, _, Call.bind_ret htail, by rw [hout₁]; exact hout₂.sent_eq,
          fun st rest hst => ?_⟩
        obtain ⟨st₁, hnone⟩ := receive_none (ε := ε) hkind hgood hmax h32 hst
        rw [List.forall_mem_cons]
        exact ⟨fun h => (not_returns_cons hnone h).elim, fun h => (hgood h.1).elim⟩
      · intro hpos
        refine hgood ⟨Nat.pos_of_ne_zero fun h0 => ?_, not_le.1 fun hge => ?_⟩
        · rw [h0] at hpos; exact absurd hpos (by decide)
        · exact absurd (toInt32_of_ge hge (by omega)) (not_lt.2 hpos.le)

/-- The sizes of messages that are received are positive. -/
theorem sizable_of_received {client : Bool} {max : ℕ} (hmax : max < 2 ^ 32)
    {msgs : List (BitVec 32 × WSFrameMessage)}
    (hmsgs : ∀ p ∈ msgs, IsDataKind p.2.opcode ∧ p.2.data.length < max)
    (hrecv : Received ε client max msgs) : ∀ p ∈ msgs, Sizable p.2 := by
  have hout : Stream.Sent ⟨[], [], [], false⟩ [] := ⟨rfl, nofun, rfl⟩
  obtain ⟨codes, out', hsend, hback⟩ := hrecv _ hout
  obtain ⟨codes', out'', w, hsend', hsent, hiff⟩ := exchange_iff (ε := ε) hmax msgs hmsgs hout
  rw [hsend] at hsend'
  injection hsend' with _ hsame
  rw [List.nil_append] at hsent
  obtain ⟨st, hst⟩ := Stream.exists_delivers (w ++ [])
  exact (hiff st [] hst).1 (hback st [] (by rw [hsame, hsent]; exact hst))

/-- **A sequence of messages is received as it was sent iff** no payload is empty, or 2 GiB or more
    of bytes. -/
theorem received_iff (ε : Type) (client : Bool) {max : ℕ} (hmax : max < 2 ^ 32)
    (msgs : List (BitVec 32 × WSFrameMessage))
    (hmsgs : ∀ p ∈ msgs, IsDataKind p.2.opcode ∧ p.2.data.length < max) :
    Received ε client max msgs ↔ ∀ p ∈ msgs, 0 < p.2.data.length ∧ p.2.data.length < 2 ^ 31 := by
  refine ⟨sizable_of_received hmax hmsgs, fun hgood out hout => ?_⟩
  obtain ⟨codes, out', w, hsend, hsent, hiff⟩ := exchange_iff (ε := ε) hmax msgs hmsgs hout
  rw [List.nil_append] at hsent
  exact ⟨codes, out', hsend, fun st rest hst => (hiff st rest (hsent ▸ hst)).2 hgood⟩

/-- A text and a binary message of a client are received. -/
theorem received_pair : Received Empty true 64 [(7, ⟨1, [104, 105]⟩), (9, ⟨2, [0]⟩)] :=
  (received_iff Empty true (by decide) _ (by simp [IsDataKind])).2 (by simp)

/-- An empty message is not received. -/
theorem not_received : ¬ ∀ (client : Bool) (max : ℕ) (msgs : List (BitVec 32 × WSFrameMessage)),
    max < 2 ^ 32 → (∀ p ∈ msgs, IsDataKind p.2.opcode ∧ p.2.data.length < max) →
      Received Empty client max msgs := by
  intro hall
  have hmsgs : ∀ p ∈ [((0 : BitVec 32), (⟨1, []⟩ : WSFrameMessage))],
      IsDataKind p.2.opcode ∧ p.2.data.length < 64 := by
    simp [IsDataKind]
  have hrecv := sizable_of_received (by decide) hmsgs (hall true 64 _ (by decide) hmsgs)
  exact absurd (hrecv _ List.mem_cons_self).1 (by decide)

end Ancfl.Ws
