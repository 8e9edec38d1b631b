/-
  One message object in several calls of `WSSendMessage`.

  * `Send`: a call, on some session; `Kept`: the calls one after the other, each
    of which leaves the payload of the object as it was;
  * `send_data`: a call of a client whose header is written masks the payload in
    place;
  * `payload_kept_iff`: when the calls leave it as it was.
-/
import Ancfl.Ws.Session

namespace Ancfl.Ws

open Lib

/-- A call of `WSSendMessage`, with the value `rand()` returns. -/
structure Send where
  rand_value : BitVec 32
  client : Bool
  fin : Bool
  stream : Stream

namespace Send

variable {ε : Type}

def call (ε : Type) (c : Send) (msg : WSFrameMessage) : Out ε Stream (ℤ × WSFrameMessage) :=
  WSSendMessage c.rand_value msg c.client c.fin c.stream

/-- The calls are made with one message object, and each leaves its payload as it was. -/
def Kept (ε : Type) : WSFrameMessage → List Send → Prop
  | _, [] => True
  | msg, c :: cs => ∃ code msg' stream, c.call ε msg = .ret (code, msg') stream ∧ msg'.data = msg.data ∧
      Kept ε msg' cs

/-- The stream takes the header and the length. -/
def HeaderSent (ε : Type) (c : Send) (msg : WSFrameMessage) : Prop :=
  ∃ v s s', (Stream.writeFixSize (sendHead msg c.client c.fin).image : Call ε Stream _) c.stream = .ret v s ∧
    0 < v ∧ (sendLength (sendHead msg c.client c.fin) (BitVec.ofNat 64 msg.data.length) : Call ε Stream _) s =
      .ret true s'

/-- The call does not come to the mask, or the bytes of the mask that it uses are 0. -/
def Spares (ε : Type) (c : Send) (msg : WSFrameMessage) : Prop :=
  c.client = false ∨ ¬c.HeaderSent ε msg ∨
    ∀ i < msg.data.length, (image 4 c.rand_value).getD (i % 4) 0 = 0

theorem sendLength_total (ws_head : WSFrameHead) (size : BitVec 64) (s : Stream) : ∃ sent s',
    (sendLength ws_head size : Call ε Stream _) s = .ret sent s' := by
  rw [sendLength]
  split_ifs
  · obtain ⟨v, s', hw⟩ := Stream.writeFixSize_total (ε := ε) _ s
    exact ⟨_, s', Call.bind_ret hw⟩
  · obtain ⟨v, s', hw⟩ := Stream.writeFixSize_total (ε := ε) _ s
    exact ⟨_, s', Call.bind_ret hw⟩
  · exact ⟨true, s, rfl⟩

theorem sendMask_total (client : Bool) (mask : List UInt8) (s : Stream) : ∃ sent s',
    (sendMask client mask : Call ε Stream _) s = .ret sent s' := by
  rw [sendMask]
  split_ifs
  · obtain ⟨v, s', hw⟩ := Stream.writeFixSize_total (ε := ε) mask s
    exact ⟨_, s', Call.bind_ret hw⟩
  · exact ⟨true, s, rfl⟩

theorem sendFailed_ret (msg : WSFrameMessage) (s : Stream) : ∃ s',
    (sendFailed msg : Call ε Stream _) s = .ret (-1, msg) s' := ⟨_, rfl⟩

/-- What comes after the masking returns the message it is given. -/
theorem sendRest_total (client : Bool) (mask : List UInt8) (size : ℕ) (msg : WSFrameMessage) (s : Stream) :
    ∃ code s', ((do
      if !(← sendMask client mask) then sendFailed msg
      else if (← Stream.writeFixSize msg.data) ≤ 0 then sendFailed msg
      else return (toInt32 size, msg)) : Call ε Stream _) s = .ret (code, msg) s' := by
  obtain ⟨masked, s₁, hmask⟩ := sendMask_total (ε := ε) client mask s
  obtain ⟨w, s₂, hdata⟩ := Stream.writeFixSize_total (ε := ε) msg.data s₁
  rw [Call.bind_ret hmask]
  cases masked with
  | false => exact ⟨_, _, (sendFailed_ret msg s₁).choose_spec⟩
  | true =>
    simp only [Bool.not_true, Bool.false_eq_true, if_false]
    rw [Call.bind_ret hdata]
    split_ifs
    · exact ⟨_, _, (sendFailed_ret msg s₂).choose_spec⟩
    · exact ⟨_, s₂, rfl⟩

/-- **The message after a call.** -/
theorem send_data (c : Send) (msg : WSFrameMessage) : ∃ code msg' stream,
    c.call ε msg = .ret (code, msg') stream ∧ msg'.opcode = msg.opcode ∧
      (c.client = true → c.HeaderSent ε msg → msg'.data = xorMask (image 4 c.rand_value) msg.data) ∧
      (c.client = false ∨ ¬c.HeaderSent ε msg → msg' = msg) := by
  obtain ⟨v, s₁, hhead⟩ := Stream.writeFixSize_total (ε := ε) (sendHead msg c.client c.fin).image c.stream
  obtain ⟨sent, s₂, hlength⟩ := sendLength_total (ε := ε) (sendHead msg c.client c.fin)
    (BitVec.ofNat 64 msg.data.length) s₁
  have hsent : c.HeaderSent ε msg ↔ 0 < v ∧ sent = true := by
    constructor
    · rintro ⟨v', s, s', hhead', hpos, hlength'⟩
      obtain ⟨rfl, rfl⟩ := Out.ret.inj (hhead.symm.trans hhead')
      exact ⟨hpos, (Out.ret.inj (hlength.symm.trans hlength')).1⟩
    · rintro ⟨hpos, rfl⟩
      exact ⟨v, s₁, s₂, hhead, hpos, hlength⟩
  rw [hsent, call, WSSendMessage, Call.bind_ret hhead]
  dsimp only
  by_cases hv : v ≤ 0
  · obtain ⟨s', hfailed⟩ := sendFailed_ret (ε := ε) msg s₁
    rw [if_pos hv]
    exact ⟨_, msg, s', hfailed, rfl, fun _ h => absurd h.1 (by omega), fun _ => rfl⟩
  rw [if_neg hv, Call.bind_ret hlength]
  cases sent with
  | false =>
    obtain ⟨s', hfailed⟩ := sendFailed_ret (ε := ε) msg s₂
    exact ⟨_, msg, s', hfailed, rfl, fun _ h => absurd h.2 (by decide), fun _ => rfl⟩
  | true =>
    obtain ⟨msg', hmsg'⟩ : ∃ msg', (if c.client then
      { msg with data := xorMask (image 4 c.rand_value) msg.data } else msg) = msg' := ⟨_, rfl⟩
    obtain ⟨code, stream, hret⟩ := sendRest_total (ε := ε) c.client (image 4 c.rand_value)
      (msg.data.length + (sendHead msg c.client c.fin).image.length) msg' s₂
    simp only [Bool.not_true, Bool.false_eq_true, if_false, hmsg']
    refine ⟨code, msg', stream, hret, ?_, fun hclient _ => ?_, fun hnot => ?_⟩
    · rw [← hmsg']
      split_ifs <;> rfl
    · rw [← hmsg', if_pos hclient]
    · rcases hnot with hclient | hnot
      · rw [← hmsg', if_neg (by simp [hclient])]
      · exact absurd ⟨by omega, trivial⟩ hnot

theorem xorMask_eq_self_iff (mask data : List UInt8) :
    xorMask mask data = data ↔ ∀ i < data.length, mask.getD (i % 4) 0 = 0 := by
  constructor
  · intro h i hi
    have hbyte : (xorMask mask data)[i]? = data[i]? := by rw [h]
    rw [xorMask, List.getElem?_mapIdx, List.getElem?_eq_getElem hi, Option.map_some, Option.some.injEq] at hbyte
    exact (UInt8.xor_right_inj _).1 (hbyte.trans (UInt8.xor_zero).symm)
  · intro h
    refine List.ext_getElem (by simp [xorMask]) fun i h₁ h₂ => ?_
    simp only [xorMask, List.getElem_mapIdx, h i h₂, UInt8.xor_zero]

/-- **One call.** -/
theorem data_eq_iff {c : Send} {msg msg' : WSFrameMessage} {code : ℤ} {stream : Stream}
    (h : c.call ε msg = .ret (code, msg') stream) : msg'.data = msg.data ↔ c.Spares ε msg := by
  obtain ⟨code', msg'', stream', hret, -, hmasked, hsame⟩ := send_data (ε := ε) c msg
  obtain ⟨hpair, -⟩ := Out.ret.inj (h.symm.trans hret)
  obtain ⟨-, rfl⟩ := Prod.mk.inj hpair
  by_cases hnot : c.client = false ∨ ¬c.HeaderSent ε msg
  · refine iff_of_true (by rw [hsame hnot]) ?_
    exact hnot.elim .inl fun hheader => .inr (.inl hheader)
  · rw [not_or, not_not, Bool.not_eq_false] at hnot
    rw [hmasked hnot.1 hnot.2, xorMask_eq_self_iff, Spares, hnot.1]
    simp [hnot.2]

/-- **The calls leave the payload as it was** exactly if none of them masks it with bytes that are
    not 0. -/
theorem payload_kept_iff (ε : Type) (msg : WSFrameMessage) (cs : List Send) :
    Kept ε msg cs ↔ ∀ c ∈ cs, c.Spares ε msg := by
  induction cs with
  | nil => exact iff_of_true trivial nofun
  | cons c cs ih =>
    obtain ⟨code, msg', stream, hret, hopcode, -, -⟩ := send_data (ε := ε) c msg
    have hdata := data_eq_iff hret
    have hstep : Kept ε msg (c :: cs) ↔ msg'.data = msg.data ∧ Kept ε msg' cs := by
      constructor
      · rintro ⟨code', msg'', stream', hret', hkept⟩
        obtain ⟨hpair, -⟩ := Out.ret.inj (hret.symm.trans hret')
        obtain ⟨-, rfl⟩ := Prod.mk.inj hpair
        exact hkept
      · exact fun hkept => ⟨code, msg', stream, hret, hkept⟩
    rw [hstep, hdata, List.forall_mem_cons, ← ih]
    refine and_congr_right fun hspares => ?_
    have hsame : msg' = msg := by
      cases msg
      cases msg'
      cases hopcode
      cases hdata.2 hspares
      rfl
    rw [hsame]

/-- An open stream. -/
def opened : Stream := ⟨[], [], [], false⟩

/-- **The same object through two clients**: the second one sends the masked payload. -/
theorem payload_not_kept : ¬∀ (ε : Type) (msg : WSFrameMessage) (cs : List Send), Kept ε msg cs := by
  intro h
  obtain ⟨code, msg', stream, hret, hdata, -⟩ := h Empty ⟨1, [104, 105]⟩ [⟨7, true, true, opened⟩]
  rcases (data_eq_iff hret).1 hdata with hclient | hheader | hmask
  · exact nomatch hclient
  · obtain ⟨s, hhead, -⟩ := Stream.writeFixSize_ret (ε := Empty)
      (⟨rfl, nofun, rfl⟩ : Stream.Sent opened []) (sendHead ⟨1, [104, 105]⟩ true true).image
    exact hheader ⟨_, s, s, hhead, by decide, rfl⟩
  · exact absurd (hmask 0 (by decide)) (by decide)

end Send

end Ancfl.Ws
