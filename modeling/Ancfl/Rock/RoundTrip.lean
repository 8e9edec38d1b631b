/-
  What `serializeTo` writes, `parseFrom` reads back.

  * `Message.bytes` are the bytes of a message, `frame` those of its frame,
    `framed` the part of it after the header;
  * `serializeTo_ret`: `serializeTo` writes the frame;
  * `parseFrom_ret`: `parseFrom` reads a frame back if the message is
    `Parsable`; `parseFrom_fails`: and it does not otherwise;
  * `arrive_iff`: any sequence of messages is read back from the
    concatenation of its frames iff all of them are parsable.
-/
import Ancfl.Rock.Protocol

namespace Ancfl.Rock

open Lib Ancfl.ByteArray

/-! ## Messages -/

/-- The values a message is written as, before its body. -/
def Message.fields (msg : Message) : List Val :=
  .fuint8 msg.getType :: match msg with
    | .request m => [.uint32 m.sn, .uint32 m.cmd]
    | .response m => [.uint32 m.sn, .uint32 m.cmd, .uint32 m.result, .stringVint m.resultStr]
    | .notify m => [.uint32 m.notify]

/-- The values a message is written as. -/
def Message.vals (msg : Message) : List Val := msg.fields ++ [.stringVint msg.getBody]

/-- The bytes a message is written as. -/
def Message.bytes (msg : Message) : List UInt8 := msg.vals.flatMap (encode .big)

/-- The size of the message is a `size_t`. -/
def Message.Fits (msg : Message) : Prop := msg.bytes.length < 2 ^ 64

theorem serializeToByteArray_eq (msg : Message) :
    msg.serializeToByteArray = Call.catchAll (do msg.vals.forM writeVal; return true) false := by
  cases msg <;>
    simp [Message.serializeToByteArray, Message.vals, Message.fields, Message.getBody, writeVal,
      Request.serializeToByteArray, Response.serializeToByteArray, Notify.serializeToByteArray,
      RockBody.serializeToByteArray]

/-- **The serializer appends the bytes of the message.** -/
theorem serializeToByteArray_ret (msg : Message) {e : Endian} {s : ℕ} {b : ByteArray}
    {v : List UInt8} (h : Appended e s b v) :
    ∃ b', msg.serializeToByteArray b = .ret true b' ∧
      Appended e s b' (v ++ msg.vals.flatMap (encode e)) := by
  obtain ⟨b', hw, h'⟩ := Writes.forM msg.vals (fun x _ => writeVal_writes e s x) b v h
  refine ⟨b', ?_, h'⟩
  rw [serializeToByteArray_eq]
  refine Call.catchAll_ret ?_
  rw [Call.bind_ret hw]
  rfl

/-! ### Reading a message -/

/-- The call returns `r`, but is not defined in the case `full`. -/
def ReturnsUnless {β : Type} (full : Prop) (x : Call Exn ByteArray (Option β)) (b : ByteArray)
    (r : β) : Prop :=
  (¬ full → ∃ b', x b = .ret (some r) b') ∧ (full → x b = .undef)

theorem ReturnsUnless.catchAll {β : Type} {full : Prop} {x : Call Exn ByteArray (Option β)}
    {b : ByteArray} {r : β} (h : ReturnsUnless full x b r) :
    ReturnsUnless full (Call.catchAll x none) b r := by
  refine ⟨fun hn => ?_, fun hf => Call.catchAll_undef (h.2 hf)⟩
  obtain ⟨b', hx⟩ := h.1 hn
  exact ⟨b', Call.catchAll_ret hx⟩

theorem ReturnsUnless.map {β γ : Type} {full : Prop} {x : Call Exn ByteArray (Option β)}
    {b : ByteArray} {r : β} (f : β → γ) (h : ReturnsUnless full x b r) :
    ReturnsUnless full (do return (← x).map f) b (f r) := by
  refine ⟨fun hn => ?_, fun hf => Call.bind_undef (h.2 hf)⟩
  obtain ⟨b', hx⟩ := h.1 hn
  exact ⟨b', by rw [Call.bind_ret hx]; rfl⟩

theorem ReturnsUnless.of_eq {β : Type} {full : Prop} {x y : Call Exn ByteArray (Option β)}
    {b b₁ : ByteArray} {r : β} (hxy : x b = y b₁) (h : ReturnsUnless full y b₁ r) :
    ReturnsUnless full x b r := by
  unfold ReturnsUnless; rw [hxy]; exact h

section
variable {e : Endian} {v w : List UInt8} {C : ℕ} {b : ByteArray} {body : List UInt8}

/-- A body is read after the fields, unless it is empty and ends at the end of the capacity. -/
theorem body_returns {α β : Type} {rd : Call Exn ByteArray α} {a : α} (f : α → List UInt8 → β)
    (hrd : Reads (Left e v C (encode e (.stringVint body))) rd w a)
    (hb : Unread e v C b (w ++ encode e (.stringVint body))) (hlen : body.length < 2 ^ 64) :
    ReturnsUnless (body = [] ∧ v.length = C)
      (do let x ← rd; let y ← readStringVint; return some (f x y)) b (f a body) := by
  obtain ⟨b₁, h₁, hb₁⟩ := hrd b [] (by rw [Left, List.append_nil]; exact hb)
  rw [Left, List.nil_append] at hb₁
  constructor
  · intro hroom
    have hle : v.length ≤ C := by
      rw [← hb₁.content_eq, hb₁.rep.length_content, ← hb₁.capacity_eq]; exact hb₁.rep.size_le
    have hbody : Reads (Left e v C []) readStringVint (encode e (.stringVint body)) body :=
      readString_reads (readUint_reads (w := 64) (by decide) _) hlen fun h0 =>
        .inr (lt_of_le_of_ne hle fun hfull => hroom ⟨h0, hfull⟩)
    obtain ⟨b₂, h₂, -⟩ := hbody b₁ [] (by rw [Left, List.append_nil, List.append_nil]; exact hb₁)
    exact ⟨b₂, by rw [Call.bind_ret h₁, Call.bind_ret h₂]; rfl⟩
  · rintro ⟨rfl, rfl⟩
    have hempty : readStringVint b₁ = .undef :=
      readString_undef (p := varint 0) (readUint_reads (by decide) 0#64)
        (by simpa [encode] using hb₁)
    rw [Call.bind_ret h₁, Call.bind_undef hempty]

theorem RockRequest.parse_returns (m : RockRequest) (hlen : m.body.length < 2 ^ 64)
    (hb : Unread e v C b ([Val.uint32 m.sn, .uint32 m.cmd, .stringVint m.body].flatMap (encode e))) :
    ReturnsUnless (m.body = [] ∧ v.length = C) RockRequest.parseFromByteArray b m := by
  have hrd : Reads (Left e v C (encode e (.stringVint m.body)))
      (do let sn ← readUint32; let cmd ← readUint32; return (sn, cmd)) _ (m.sn, m.cmd) :=
    (readUint_reads (by decide) m.sn).bind ((readUint_reads (by decide) m.cmd).bind (Reads.pure _))
  have h := body_returns (b := b) (fun x y => (⟨x.1, x.2, y⟩ : RockRequest)) hrd
    (by simpa [encode] using hb) hlen
  simp only [bind_assoc, pure_bind] at h
  exact h.catchAll

theorem RockResponse.parse_returns (m : RockResponse) (hlen : m.body.length < 2 ^ 64)
    (hstr : m.resultStr.length < 2 ^ 64)
    (hb : Unread e v C b ([Val.uint32 m.sn, .uint32 m.cmd, .uint32 m.result, .stringVint m.resultStr,
      .stringVint m.body].flatMap (encode e))) :
    ReturnsUnless (m.body = [] ∧ v.length = C) RockResponse.parseFromByteArray b m := by
  have hne : encode e (.stringVint m.body) ≠ [] := encode_ne_nil e _
  have hrd : Reads (Left e v C (encode e (.stringVint m.body)))
      (do let sn ← readUint32; let cmd ← readUint32; let result ← readUint32
          let resultStr ← readStringVint; return (sn, cmd, result, resultStr)) _
      (m.sn, m.cmd, m.result, m.resultStr) :=
    (readUint_reads (by decide) m.sn).bind <| (readUint_reads (by decide) m.cmd).bind <|
      (readUint_reads (by decide) m.result).bind <|
        (readString_reads (readUint_reads (w := 64) (by decide) _) hstr fun _ => .inl hne).bind
          (Reads.pure _)
  have h := body_returns (b := b)
    (fun x y => (⟨x.1, x.2.1, x.2.2.1, x.2.2.2, y⟩ : RockResponse)) hrd
    (by simpa [encode] using hb) hlen
  simp only [bind_assoc, pure_bind] at h
  exact h.catchAll

theorem RockNotify.parse_returns (m : RockNotify) (hlen : m.body.length < 2 ^ 64)
    (hb : Unread e v C b ([Val.uint32 m.notify, .stringVint m.body].flatMap (encode e))) :
    ReturnsUnless (m.body = [] ∧ v.length = C) RockNotify.parseFromByteArray b m := by
  have hrd : Reads (Left e v C (encode e (.stringVint m.body))) readUint32 _ m.notify :=
    readUint_reads (by decide) m.notify
  exact (body_returns (b := b) (fun x y => (⟨x, y⟩ : RockNotify)) hrd
    (by simpa [encode] using hb) hlen).catchAll

end

/-- **The parser reads the message back**, unless its body is empty and the bytes fill the capacity
    of the buffer. -/
theorem parseFromByteArray_returns {msg : Message} (hfits : msg.Fits) {C : ℕ} {b : ByteArray}
    {v : List UInt8} (hb : Unread .big v C b msg.bytes) :
    ReturnsUnless (msg.getBody = [] ∧ v.length = C) Message.parseFromByteArray b msg := by
  have hbody : msg.getBody.length < 2 ^ 64 := by
    refine lt_of_le_of_lt ?_ hfits
    rw [Message.bytes, Message.vals, List.flatMap_append, List.flatMap_singleton, encode]
    simp only [List.length_append]
    omega
  have htype : ∀ (t : UInt8) (vals : List Val), msg.bytes = t :: vals.flatMap (encode .big) →
      ∃ b₁, readFuint8 b = .ret (BitVec.ofNat 8 t.toNat) b₁ ∧
        Unread .big v C b₁ (vals.flatMap (encode .big)) := by
    intro t vals ht
    have hread : Reads (Left .big v C []) readFuint8 [t] (BitVec.ofNat 8 t.toNat) :=
      readFuint8_reads t
    obtain ⟨b₁, h₁, hb₁⟩ := hread b (vals.flatMap (encode .big))
      (by rw [Left, List.append_nil, List.singleton_append, ← ht]; exact hb)
    exact ⟨b₁, h₁, by rw [Left, List.append_nil] at hb₁; exact hb₁⟩
  cases msg with
  | request m =>
    obtain ⟨b₁, h₁, hb₁⟩ := htype 1 [.uint32 m.sn, .uint32 m.cmd, .stringVint m.body] rfl
    refine ReturnsUnless.of_eq ?_ ((RockRequest.parse_returns m hbody hb₁).map Message.request)
    rw [Message.parseFromByteArray, Call.bind_ret h₁]
    rfl
  | response m =>
    have hstr : m.resultStr.length < 2 ^ 64 := by
      refine lt_of_le_of_lt ?_ hfits
      simp only [Message.bytes, Message.vals, Message.fields, List.flatMap_append, List.flatMap_cons,
        encode, List.length_append]
      omega
    obtain ⟨b₁, h₁, hb₁⟩ := htype 2 [.uint32 m.sn, .uint32 m.cmd, .uint32 m.result,
      .stringVint m.resultStr, .stringVint m.body] rfl
    refine ReturnsUnless.of_eq ?_ ((RockResponse.parse_returns m hbody hstr hb₁).map Message.response)
    rw [Message.parseFromByteArray, Call.bind_ret h₁]
    rfl
  | notify m =>
    obtain ⟨b₁, h₁, hb₁⟩ := htype 3 [.uint32 m.notify, .stringVint m.body] rfl
    refine ReturnsUnless.of_eq ?_ ((RockNotify.parse_returns m hbody hb₁).map Message.notify)
    rw [Message.parseFromByteArray, Call.bind_ret h₁]
    rfl

/-! ## Frames -/

section
variable (c : Config)

/-- The message is sent compressed. -/
def Zipped (msg : Message) : Prop := c.gzip_min_length ≤ BitVec.ofNat 32 msg.bytes.length

instance (msg : Message) : Decidable (Zipped c msg) := by unfold Zipped; infer_instance

/-- The part of the frame after the header. -/
def framed (msg : Message) : List UInt8 :=
  if Zipped c msg then
    match c.gzip.encode msg.bytes with
    | .ok zs => zs.flatten
    | .error _ => []
  else msg.bytes

/-- The header of the frame, with the length as it is sent. -/
def header (msg : Message) : RockMsgHeader where
  flag := if Zipped c msg then 1 else 0
  length := byteswapOnLittleEndian (n := 4) (BitVec.ofNat 32 (framed c msg).length)

/-- The frame of a message. -/
def frame (msg : Message) : List UInt8 := (header c msg).image ++ framed c msg

end

theorem RockMsgHeader.length_image {h : RockMsgHeader} (hm : h.magic.length = 2) :
    h.image.length = 8 := by
  simp [RockMsgHeader.image, hm]

theorem RockMsgHeader.ofImage_image {h : RockMsgHeader} (hm : h.magic.length = 2) :
    RockMsgHeader.ofImage h.image = h := by
  obtain ⟨magic, version, flag, length⟩ := h
  have hl : Ancfl.ofImage 4 (Ancfl.image 4 length) = length := Ancfl.ofImage_image 4 length
  match magic, hm with
  | [x, y], _ => simp [RockMsgHeader.ofImage, RockMsgHeader.image, hl]

theorem Message.bytes_ne_nil (msg : Message) : msg.bytes ≠ [] := by
  rw [Message.bytes, Message.vals, List.flatMap_append, List.flatMap_singleton]
  exact List.append_ne_nil_of_right_ne_nil _ (encode_ne_nil .big _)

variable {c : Config} {st : Stream} {u : List UInt8} {msg : Message}

/-- What a frame is made of: the message, or what it is compressed to. -/
theorem framed_cases (msg : Message) :
    (¬ Zipped c msg ∧ framed c msg = msg.bytes) ∨
      (Zipped c msg ∧ ∃ zs, c.gzip.encode msg.bytes = .ok zs ∧ framed c msg = zs.flatten ∧
        zs.flatten ≠ [] ∧ ∃ xs, c.gzip.decode zs.flatten = .ok xs ∧ xs.flatten = msg.bytes) := by
  by_cases hz : Zipped c msg
  · obtain ⟨zs, henc, hne, hdec⟩ := c.gzip.decode_encode msg.bytes
    exact .inr ⟨hz, zs, henc, by rw [framed, if_pos hz, henc], hne, hdec⟩
  · exact .inl ⟨hz, if_neg hz⟩

theorem framed_ne_nil (msg : Message) : framed c msg ≠ [] := by
  rcases framed_cases (c := c) msg with ⟨-, h⟩ | ⟨-, zs, -, h, hne, -⟩
  · rw [h]; exact msg.bytes_ne_nil
  · rw [h]; exact hne

/-! ### Writing a frame -/

theorem newByteArray_appended : Appended .big 4096 c.newByteArray [] :=
  new_appended (by decide) c.heap

theorem toByteArray_ret (msg : Message) (st : Stream) :
    ∃ ba, msg.toByteArray c st = .ret (some ba) st ∧
      Holds .big 4096 (grown 4096 4096 msg.bytes.length) ba msg.bytes := by
  obtain ⟨ba, hser, happ⟩ := serializeToByteArray_ret msg (newByteArray_appended (c := c))
  refine ⟨ba, ?_, happ.holds⟩
  rw [Message.toByteArray, Call.bind_ret (Call.on_ret hser st)]
  rfl

theorem getByteArray_ret (buffs : List (List UInt8)) (st : Stream) :
    ∃ ba, getByteArray c buffs st = .ret ba st ∧
      Unread .big buffs.flatten (grown 4096 4096 buffs.flatten.length) ba buffs.flatten := by
  obtain ⟨b, hw, happ⟩ :=
    Writes.forM buffs (fun w _ => write_writes .big 4096 w) _ [] (newByteArray_appended (c := c))
  rw [List.nil_append, List.flatMap_id'] at happ
  obtain ⟨ba, hset, hba⟩ := happ.holds.rewind
  refine ⟨ba, ?_, hba⟩
  have hon : (do buffs.forM ByteArray.write; ByteArray.setPosition 0) c.newByteArray = .ret () ba := by
    rw [Call.bind_ret hw]; exact hset
  rw [getByteArray, Call.bind_ret (Call.on_ret hon st)]
  rfl

theorem writeFrame_ret {h : RockMsgHeader} (hm : h.magic.length = 2) {v : List UInt8} {C : ℕ}
    {ba : ByteArray} (hst : Stream.Sent st u) (hba : Unread .big v C ba v) (hv : v.length < 2 ^ 63) :
    ∃ code st', writeFrame h ba st = .ret code st' ∧ Stream.Sent st'
      (u ++ ({ h with length := byteswapOnLittleEndian (n := 4) h.length }.image ++ v)) := by
  set h' : RockMsgHeader := { h with length := byteswapOnLittleEndian (n := 4) h.length } with hh'
  obtain ⟨st₁, hw₁, hst₁⟩ := Stream.writeFixSize_ret (ε := Exn) hst h'.image
  obtain ⟨st₂, ba', hw₂, hst₂, -⟩ := Stream.writeFixSizeFrom_ret hst₁ hba hv
  have hlen : toInt32 h'.image.length = 8 := by
    rw [RockMsgHeader.length_image (h := h') hm]; rfl
  have hread : ba.getReadSize = v.length := by
    have hdrop := congrArg List.length hba.drop_eq
    rw [List.length_drop] at hdrop
    have hcontent := hba.rep.length_content
    rw [hba.content_eq] at hcontent
    rw [getReadSize]; omega
  rw [List.append_assoc] at hst₂
  rw [writeFrame]
  simp only [← hh']
  rw [Call.bind_ret hw₁, hlen, if_neg (by decide), hread, Call.bind_ret hw₂]
  dsimp only
  split_ifs
  · exact ⟨_, st₂, rfl, hst₂⟩
  · exact ⟨_, st₂, rfl, hst₂⟩

/-- **`serializeTo` writes the frame of the message.** -/
theorem serializeTo_ret (hfits : msg.Fits) (hlen : (framed c msg).length < 2 ^ 32)
    (hst : Stream.Sent st u) :
    ∃ code st', serializeTo c msg st = .ret code st' ∧ Stream.Sent st' (u ++ frame c msg) := by
  obtain ⟨ba₀, hto, hba₀⟩ := toByteArray_ret (c := c) msg st
  obtain ⟨ba, hset, hba⟩ := hba₀.rewind
  have hsize : ba.size = msg.bytes.length := by rw [← hba.content_eq, hba.rep.length_content]
  rw [serializeTo, Call.bind_ret hto]
  dsimp only
  rw [Call.bind_ret (Call.on_ret hset st)]
  dsimp only
  rw [hsize]
  rcases framed_cases (c := c) msg with ⟨hz, hf⟩ | ⟨hz, zs, henc, hf, -, -⟩
  · rw [frame, header, if_neg hz, hf]
    rw [hf] at hlen
    rw [Zipped] at hz
    rw [if_neg hz]
    exact writeFrame_ret rfl hst hba (by omega)
  · obtain ⟨segs, hget, hload⟩ := getReadBuffers_ret hba.rep (toUInt64 (-1))
    have hall : load ba.nodes segs = msg.bytes := by
      rw [hload, hba.content_eq, hba.drop_eq, List.take_of_length_le]
      exact Nat.le_of_lt_succ hfits
    obtain ⟨bz, hgz, hbz⟩ := getByteArray_ret (c := c) zs st
    have hsizez : bz.size = zs.flatten.length := by rw [← hbz.content_eq, hbz.rep.length_content]
    rw [frame, header, if_pos hz, hf]
    rw [hf] at hlen
    rw [Zipped] at hz
    rw [if_pos hz, Call.bind_ret (Call.on_ret hget st)]
    dsimp only
    rw [hall, henc]
    dsimp only
    rw [Call.bind_ret hgz, hsizez]
    exact writeFrame_ret rfl hst hbz (by omega)

/-! ### Reading a frame -/

/-- The message can be read back from its frame. -/
def Parsable (c : Config) (msg : Message) : Prop :=
  (framed c msg).length < 2 ^ 31 ∧ ¬ (msg.getBody = [] ∧ 4096 ∣ msg.bytes.length)

/-- The header of the frame in the byte order of the host. -/
def hostHeader (c : Config) (msg : Message) : RockMsgHeader :=
  { header c msg with length := BitVec.ofNat 32 (framed c msg).length }

/-- The header of a frame is accepted if the frame is shorter than the maximum. -/
theorem parseFrame_header {rest : List UInt8} (hlen : (framed c msg).length < c.max_length.toNat)
    (hst : Stream.Delivers st (frame c msg ++ rest)) :
    ∃ st', parseFrame c st = parseBody c (hostHeader c msg) st' ∧
      Stream.Delivers st' (framed c msg ++ rest) := by
  rw [frame, List.append_assoc] at hst
  have h8 : (header c msg).image.length = 8 := RockMsgHeader.length_image rfl
  obtain ⟨st', hread, hst', -⟩ := Stream.readFixSize_ret (ε := Exn) hst (by rw [h8]; decide)
  rw [h8, show toInt32 ((8 : ℕ) : ℤ) = 8 from rfl] at hread
  have hlength : byteswapOnLittleEndian (n := 4) (header c msg).length =
      BitVec.ofNat 32 (framed c msg).length :=
    byteswapOnLittleEndian_byteswapOnLittleEndian _
  have hmax : ¬ c.max_length ≤ BitVec.ofNat 32 (framed c msg).length := by
    have h32 := c.max_length.isLt
    rw [BitVec.not_le, BitVec.lt_def, BitVec.toNat_ofNat, Nat.mod_eq_of_lt (by omega)]
    exact hlen
  refine ⟨st', ?_, hst'⟩
  rw [parseFrame, Call.bind_ret hread]
  dsimp only
  rw [if_neg (by decide), RockMsgHeader.ofImage_image rfl, if_neg (by simp [header]),
    if_neg (by simp [header]), hlength, if_neg hmax]
  rfl

/-- The parser of the message starts on the bytes of the message, uncompressed. -/
theorem parseBody_message {rest : List UInt8} (hlen : (framed c msg).length < 2 ^ 31)
    (hst : Stream.Delivers st (framed c msg ++ rest)) :
    ∃ st' ba, Stream.Delivers st' rest ∧
      Unread .big msg.bytes (grown 4096 4096 msg.bytes.length) ba msg.bytes ∧
        parseBody c (hostHeader c msg) st =
          (do let (m, _) ← .on ba Message.parseFromByteArray; return m : Call Exn Stream _) st' := by
  obtain ⟨st', ba₀, hread, hst', -, hba₀⟩ := Stream.readFixSizeInto_ret (by decide) hst
    (newByteArray_appended (c := c)).holds (by omega)
  obtain ⟨ba, hset, hba⟩ := hba₀.rewind
  rw [List.nil_append, grown_grown (by decide), List.length_nil, Nat.zero_add] at hba
  have hpos : 0 < (framed c msg).length := List.length_pos_iff.2 (framed_ne_nil msg)
  have hlength : toUInt64 (hostHeader c msg).length.toInt = (framed c msg).length := by
    have hnat : (BitVec.ofNat 32 (framed c msg).length).toNat = (framed c msg).length := by
      rw [BitVec.toNat_ofNat, Nat.mod_eq_of_lt (by omega)]
    show toUInt64 (BitVec.ofNat 32 (framed c msg).length).toInt = _
    rw [BitVec.toInt_eq_toNat_of_lt (by omega), hnat, toUInt64_natCast (by omega)]
  rw [parseBody, hlength, Call.bind_ret hread]
  dsimp only
  rw [toInt32_natCast hlen, if_neg (by omega), Call.bind_ret (Call.on_ret hset st')]
  dsimp only
  rcases framed_cases (c := c) msg with ⟨hz, hf⟩ | ⟨hz, zs, -, hf, -, xs, hdec, hxs⟩
  · have hflag : (hostHeader c msg).flag = 0 := if_neg hz
    rw [hflag, if_neg (by decide)]
    rw [hf] at hba
    exact ⟨st', ba, hst', hba, rfl⟩
  · have hflag : (hostHeader c msg).flag = 1 := if_pos hz
    obtain ⟨segs, hget, hload⟩ := getReadBuffers_ret hba.rep (toUInt64 (-1))
    have hall : load ba.nodes segs = zs.flatten := by
      rw [hload, hba.content_eq, hba.drop_eq, List.take_of_length_le, hf]
      rw [show toUInt64 (-1) = 2 ^ 64 - 1 from rfl]; omega
    obtain ⟨bm, hgz, hbm⟩ := getByteArray_ret (c := c) xs st'
    rw [hxs] at hbm
    rw [hflag, if_pos (by decide), Call.bind_ret (Call.on_ret hget st')]
    dsimp only
    rw [hall, hdec]
    dsimp only
    rw [Call.bind_ret hgz]
    exact ⟨st', bm, hst', hbm, rfl⟩

/-- **`parseFrom` reads back the frame of a parsable message** and nothing after it. -/
theorem parseFrom_ret {rest : List UInt8} (hfits : msg.Fits)
    (hlen : (framed c msg).length < c.max_length.toNat) (hp : Parsable c msg)
    (hst : Stream.Delivers st (frame c msg ++ rest)) :
    ∃ st', parseFrom c st = .ret (some msg) st' ∧ Stream.Delivers st' rest := by
  obtain ⟨h31, hfull⟩ := hp
  obtain ⟨st₁, hheader, hst₁⟩ := parseFrame_header hlen hst
  obtain ⟨st₂, ba, hst₂, hba, hbody⟩ := parseBody_message h31 hst₁
  have hpos : 0 < msg.bytes.length := List.length_pos_iff.2 msg.bytes_ne_nil
  obtain ⟨b', hparse⟩ := (parseFromByteArray_returns hfits hba).1 fun h =>
    hfull ⟨h.1, (grown_eq_iff (by decide) hpos).1 h.2.symm⟩
  refine ⟨st₂, Call.catchAll_ret ?_, hst₂⟩
  rw [hheader, hbody, Call.bind_ret (Call.on_ret hparse st₂)]
  rfl

/-- **A message that is not parsable is not read back** from its frame. -/
theorem parseFrom_fails {rest : List UInt8} (hfits : msg.Fits)
    (hlen : (framed c msg).length < c.max_length.toNat) (hp : ¬ Parsable c msg)
    (hst : Stream.Delivers st (frame c msg ++ rest)) :
    ∀ st', parseFrom c st ≠ .ret (some msg) st' := by
  obtain ⟨st₁, hheader, hst₁⟩ := parseFrame_header hlen hst
  by_cases h31 : (framed c msg).length < 2 ^ 31
  · -- the body is empty and ends with the last block
    obtain ⟨hempty, hdvd⟩ : msg.getBody = [] ∧ 4096 ∣ msg.bytes.length := by
      by_contra hfull; exact hp ⟨h31, hfull⟩
    obtain ⟨st₂, ba, -, hba, hbody⟩ := parseBody_message h31 hst₁
    have hpos : 0 < msg.bytes.length := List.length_pos_iff.2 msg.bytes_ne_nil
    have hparse := (parseFromByteArray_returns hfits hba).2
      ⟨hempty, ((grown_eq_iff (by decide) hpos).2 hdvd).symm⟩
    have hon : (Call.on ba Message.parseFromByteArray : Call Exn Stream _) st₂ = .undef := by
      rw [Call.on, hparse]
    have hundef : parseFrom c st = .undef := by
      refine Call.catchAll_undef ?_
      rw [hheader, hbody, Call.bind_undef hon]
    intro st' hret
    cases hundef.symm.trans hret
  · -- the length is negative as an `int`, and no body is read
    have h32 := c.max_length.isLt
    have hnat : (BitVec.ofNat 32 (framed c msg).length).toNat = (framed c msg).length := by
      rw [BitVec.toNat_ofNat, Nat.mod_eq_of_lt (by omega)]
    have hint : (hostHeader c msg).length.toInt = (framed c msg).length - 2 ^ 32 := by
      show (BitVec.ofNat 32 (framed c msg).length).toInt = _
      rw [BitVec.toInt_eq_toNat_cond, if_neg (by omega), hnat]
      rfl
    have hread : Stream.readFixSizeInto c.newByteArray (toUInt64 (hostHeader c msg).length.toInt) st₁ =
        .ret ((hostHeader c msg).length.toInt, c.newByteArray) st₁ := by
      rw [Stream.readFixSizeInto, toInt64_toUInt64 (by omega) (by omega),
        toInt32_toUInt64 (by omega) (by omega), Int.toNat_of_nonpos (by omega), Stream.readLoopInto]
      rfl
    have hnone : parseFrom c st = .ret none st₁ := by
      refine Call.catchAll_ret ?_
      rw [hheader, parseBody, Call.bind_ret hread]
      dsimp only
      rw [if_pos (by omega)]
      rfl
    intro st' hret
    cases hnone.symm.trans hret

/-! ## Sequences of messages -/

/-- The messages are written to a stream, and are read back from what has been written, in whatever
    pieces it comes, up to exactly its end. -/
def Arrive (c : Config) (msgs : List Message) : Prop :=
  ∀ out, Stream.Sent out [] → ∃ codes out', msgs.mapM (serializeTo c) out = .ret codes out' ∧
    ∀ st rest, Stream.Delivers st (out'.sent ++ rest) →
      ∃ st', msgs.mapM (fun _ => parseFrom c) st = .ret (msgs.map some) st' ∧
        Stream.Delivers st' rest

theorem serializeAll_ret : ∀ (msgs : List Message) {st : Stream} {u : List UInt8},
    (∀ m ∈ msgs, m.Fits ∧ (framed c m).length < 2 ^ 32) → Stream.Sent st u →
      ∃ codes st', msgs.mapM (serializeTo c) st = .ret codes st' ∧
        Stream.Sent st' (u ++ msgs.flatMap (frame c))
  | [], st, u, _, hst => ⟨[], st, rfl, by rw [List.flatMap_nil, List.append_nil]; exact hst⟩
  | m :: msgs, st, u, hall, hst => by
    obtain ⟨code, st₁, hser, hst₁⟩ := serializeTo_ret (hall m (by simp)).1 (hall m (by simp)).2 hst
    obtain ⟨codes, st₂, htail, hst₂⟩ :=
      serializeAll_ret msgs (fun m' hm' => hall m' (by simp [hm'])) hst₁
    refine ⟨code :: codes, st₂, ?_, by rw [List.flatMap_cons, ← List.append_assoc]; exact hst₂⟩
    rw [List.mapM_cons, Call.bind_ret hser, Call.bind_ret htail]
    rfl

/-- The parsers read the frames back iff all the messages are parsable. -/
theorem parseAll_iff {rest : List UInt8} : ∀ (msgs : List Message) {st : Stream},
    (∀ m ∈ msgs, m.Fits ∧ (framed c m).length < c.max_length.toNat) →
      Stream.Delivers st (msgs.flatMap (frame c) ++ rest) →
        ((∃ st', msgs.mapM (fun _ => parseFrom c) st = .ret (msgs.map some) st' ∧
          Stream.Delivers st' rest) ↔ ∀ m ∈ msgs, Parsable c m)
  | [], st, _, hst => by
    refine ⟨fun _ => by simp, fun _ => ⟨st, rfl, by simpa using hst⟩⟩
  | m :: msgs, st, hall, hst => by
    obtain ⟨hfits, hlen⟩ := hall m (by simp)
    rw [List.flatMap_cons, List.append_assoc] at hst
    rw [List.mapM_cons]
    by_cases hp : Parsable c m
    · obtain ⟨st₁, hparse, hst₁⟩ := parseFrom_ret hfits hlen hp hst
      have ih := parseAll_iff msgs (fun m' hm' => hall m' (by simp [hm'])) hst₁
      rw [List.forall_mem_cons, ← ih, Call.bind_ret hparse]
      constructor
      · rintro ⟨st', htail, hst'⟩
        obtain ⟨ms, st₂, hrest, hcons⟩ := Call.bind_eq_ret.1 htail
        injection hcons with hms hst₂
        injection hms with _ hms
        subst hms hst₂
        exact ⟨hp, st₂, hrest, hst'⟩
      · rintro ⟨-, st', htail, hst'⟩
        exact ⟨st', by rw [Call.bind_ret htail]; rfl, hst'⟩
    · refine ⟨?_, fun hall => (hp (hall m (by simp))).elim⟩
      rintro ⟨st', hret, -⟩
      obtain ⟨m', st₁, hparse, htail⟩ := Call.bind_eq_ret.1 hret
      obtain ⟨ms, st₂, -, hcons⟩ := Call.bind_eq_ret.1 htail
      injection hcons with hms _
      injection hms with hm' _
      exact (parseFrom_fails hfits hlen hp hst st₁ (hm' ▸ hparse)).elim

/-- Messages that are read back are parsable. -/
theorem parsable_of_arrive {msgs : List Message}
    (hmsgs : ∀ m ∈ msgs, m.Fits ∧ (framed c m).length < c.max_length.toNat)
    (harrive : Arrive c msgs) : ∀ m ∈ msgs, Parsable c m := by
  have h32 := c.max_length.isLt
  have hout : Stream.Sent ⟨[], [], [], false⟩ [] := ⟨rfl, by simp, rfl⟩
  obtain ⟨codes, out', hall, hback⟩ := harrive _ hout
  obtain ⟨codes', out'', hall', hsent⟩ :=
    serializeAll_ret msgs (fun m hm => ⟨(hmsgs m hm).1, (hmsgs m hm).2.trans h32⟩) hout
  obtain rfl : out' = out'' := by
    rw [hall] at hall'; injection hall'
  obtain ⟨st, hst⟩ := Stream.exists_delivers (out'.sent ++ [])
  have hread := hback st [] hst
  rw [hsent.sent_eq, List.nil_append] at hst
  exact (parseAll_iff msgs hmsgs hst).1 hread

/-- **The messages written are read back, one after the other, iff** the part of each frame after
    its header is shorter than 2 GiB, and no message with an empty body fills the blocks of a
    buffer. -/
theorem arrive_iff (c : Config) (msgs : List Message) (hfits : ∀ m ∈ msgs, m.Fits)
    (hlen : ∀ m ∈ msgs, (framed c m).length < c.max_length.toNat) :
    Arrive c msgs ↔ ∀ m ∈ msgs, Parsable c m := by
  have h32 := c.max_length.isLt
  have hmsgs := fun m hm => And.intro (hfits m hm) (hlen m hm)
  refine ⟨parsable_of_arrive hmsgs, fun hall out hout => ?_⟩
  obtain ⟨codes, out', hwrite, hsent⟩ :=
    serializeAll_ret msgs (fun m hm => ⟨hfits m hm, (hlen m hm).trans h32⟩) hout
  refine ⟨codes, out', hwrite, fun st rest hst => ?_⟩
  rw [hsent.sent_eq, List.nil_append] at hst
  exact (parseAll_iff msgs hmsgs hst).2 hall

/-- A compression that stores its input after the magic number of gzip. -/
def Gzip.stored : Gzip where
  encode x := .ok [[0x1f, 0x8b], x]
  decode z := .ok [z.drop 2]
  decode_encode x := ⟨_, rfl, by simp, _, rfl, by simp⟩

/-- A request with a body and a notification without one arrive. -/
theorem arrive_pair :
    Arrive { gzip := .stored, heap := fun _ => 0 } [.request ⟨1, 2, [7, 8]⟩, .notify ⟨3, []⟩] := by
  have hbytes : ∀ m ∈ [Message.request ⟨1, 2, [7, 8]⟩, .notify ⟨3, []⟩],
      0 < m.bytes.length ∧ m.bytes.length < 7 := by
    simp [Message.bytes, Message.vals, Message.fields, Message.getBody, encode, varint_small]
  have hframed : ∀ m ∈ [Message.request ⟨1, 2, [7, 8]⟩, .notify ⟨3, []⟩],
      framed { gzip := .stored, heap := fun _ => 0 } m = m.bytes := by
    intro m hm
    have := hbytes m hm
    rw [framed, if_neg]
    rw [Zipped, BitVec.not_le, BitVec.lt_def, BitVec.toNat_ofNat, Nat.mod_eq_of_lt (by omega)]
    exact this.2.trans (by decide)
  refine (arrive_iff _ _ (fun m hm => ?_) (fun m hm => ?_)).2 fun m hm => ⟨?_, fun h => ?_⟩
  · exact (hbytes m hm).2.trans (by decide)
  · rw [hframed m hm]; exact (hbytes m hm).2.trans (by decide)
  · rw [hframed m hm]; exact (hbytes m hm).2.trans (by decide)
  · have hle := Nat.le_of_dvd (hbytes m hm).1 h.2
    have := (hbytes m hm).2
    omega

/-- A response with no body and a result string of 4089 bytes takes up 4096 bytes, and does not
    arrive. -/
theorem not_arrive : ¬ ∀ (c : Config) (msgs : List Message), (∀ m ∈ msgs, m.Fits) →
    (∀ m ∈ msgs, (framed c m).length < c.max_length.toNat) → Arrive c msgs := by
  intro hall
  set c : Config := { gzip := .stored, heap := fun _ => 0 } with hc
  set m : Message := .response ⟨1, 2, 3, List.replicate 4089 0, []⟩ with hm
  have hbytes : m.bytes.length = 4096 := by
    have hstr : (List.replicate 4089 (0 : UInt8)).length = 4089 := List.length_replicate
    rw [hm]
    generalize List.replicate 4089 (0 : UInt8) = str at hstr
    simp [Message.bytes, Message.vals, Message.fields, Message.getBody, encode, varint_small,
      varint_large, hstr]
  have hframed : (framed c m).length ≤ 4098 := by
    rcases framed_cases (c := c) m with ⟨-, h⟩ | ⟨-, zs, henc, h, -⟩
    · rw [h]; omega
    · obtain rfl : [[0x1f, 0x8b], m.bytes] = zs := by
        simpa [hc, Gzip.stored] using henc
      rw [h]; simp [hbytes]
  have hmax : c.max_length.toNat = 1024 * 1024 * 64 := rfl
  have hfits : ∀ m' ∈ [m], m'.Fits := by
    simp only [List.mem_singleton, forall_eq, Message.Fits, hbytes]; omega
  have hlen : ∀ m' ∈ [m], (framed c m').length < c.max_length.toNat := by
    simp only [List.mem_singleton, forall_eq, hmax]; omega
  have hp := parsable_of_arrive (fun m' hm' => ⟨hfits m' hm', hlen m' hm'⟩) (hall c [m] hfits hlen) m
    (by simp)
  exact hp.2 ⟨rfl, by rw [hbytes]⟩

end Ancfl.Rock
