/-
  Frames, and what `WSRecvMessage` does with one.

  * a `Frame` is a header with a length in one of three forms, a mask key and a
    payload; `Frame.bytes` are its bytes, `Frame.data` its payload unmasked;
  * `absorb` is what a data frame does to the local variables of
    `WSRecvMessage`; `recvData_ret`: so `recvData` does, reading exactly the
    frame;
  * `turn_data`, `turn_control`: one turn on a frame;
  * `recvLoop_enough`: the loop does not run out of turns.
-/
import Ancfl.ByteArray.RoundTrip
import Ancfl.Ws.Session

namespace Ancfl.Ws

open Lib

/-! ## Headers and masks -/

theorem WSFrameHead.ofImage_image (h : WSFrameHead) : WSFrameHead.ofImage h.image = h := by
  obtain ⟨opcode, rsv3, rsv2, rsv1, fin, payload, mask⟩ := h
  have hfirst : ∀ (opcode : BitVec 4) (rsv3 rsv2 rsv1 fin : Bool),
      let h : WSFrameHead := { opcode, rsv3, rsv2, rsv1, fin }
      WSFrameHead.ofImage h.image = h := by decide +kernel
  have hsecond : ∀ (payload : BitVec 7) (mask : Bool),
      let h : WSFrameHead := { opcode := 0, fin := false, payload, mask }
      WSFrameHead.ofImage h.image = h := by decide +kernel
  have h₁ := WSFrameHead.mk.inj (hfirst opcode rsv3 rsv2 rsv1 fin)
  have h₂ := WSFrameHead.mk.inj (hsecond payload mask)
  exact WSFrameHead.mk.injEq .. ▸ ⟨h₁.1, h₁.2.1, h₁.2.2.1, h₁.2.2.2.1, h₁.2.2.2.2.1, h₂.2.2.2.2.2⟩

@[simp]
theorem length_xorMask (mask data : List UInt8) : (xorMask mask data).length = data.length :=
  List.length_mapIdx

theorem xorMask_xorMask (mask data : List UInt8) : xorMask mask (xorMask mask data) = data := by
  refine List.ext_getElem (by simp) fun i h₁ h₂ => ?_
  simp only [xorMask, List.getElem_mapIdx, UInt8.xor_assoc, UInt8.xor_self, UInt8.xor_zero]

/-! ## Frames -/

/-- The forms of a length: in the header, or in 2 or 8 bytes after it. -/
inductive LengthForm where
  | short
  | medium
  | long
deriving DecidableEq

/-- The lengths of a form. -/
def LengthForm.Fits : LengthForm → ℕ → Prop
  | .short, n => n < 126
  | .medium, n => n < 2 ^ 16
  | .long, n => n < 2 ^ 63

/-- A frame. -/
structure Frame where
  opcode : BitVec 4
  rsv3 : Bool := false
  rsv2 : Bool := false
  rsv1 : Bool := false
  fin : Bool
  form : LengthForm
  /-- the mask, if there is one -/
  key : Option (BitVec 32)
  /-- the payload as it is sent -/
  payload : List UInt8
  fits : form.Fits payload.length

namespace Frame

variable (f : Frame)

def head : WSFrameHead where
  opcode := f.opcode
  rsv3 := f.rsv3
  rsv2 := f.rsv2
  rsv1 := f.rsv1
  fin := f.fin
  payload := match f.form with
    | .short => BitVec.ofNat 7 f.payload.length
    | .medium => 126
    | .long => 127
  mask := f.key.isSome

def lengthBytes : List UInt8 :=
  match f.form with
  | .short => []
  | .medium => image 2 (byteswapOnLittleEndian (n := 2) (BitVec.ofNat 16 f.payload.length))
  | .long => image 8 (byteswapOnLittleEndian (n := 8) (BitVec.ofNat 64 f.payload.length))

def keyBytes : List UInt8 := f.key.elim [] (image 4)

/-- The frame after its header. -/
def body : List UInt8 := f.lengthBytes ++ (f.keyBytes ++ f.payload)

def bytes : List UInt8 := f.head.image ++ f.body

/-- The mask the receiver uses. -/
def mask : List UInt8 := f.key.elim [0, 0, 0, 0] (image 4)

/-- The payload as it is meant. -/
def data : List UInt8 := if f.key.isSome then xorMask f.mask f.payload else f.payload

/-- A data frame. -/
def IsData : Prop := f.opcode = CONTINUE ∨ f.opcode = TEXT_FRAME ∨ f.opcode = BIN_FRAME

/-- A `PING` or `PONG` frame. -/
def IsControl : Prop := f.opcode = PING ∨ f.opcode = PONG

instance : Decidable f.IsData := by unfold IsData; infer_instance
instance : Decidable f.IsControl := by unfold IsControl; infer_instance

theorem length_lt : f.payload.length < 2 ^ 63 := by
  have := f.fits
  cases hform : f.form <;> simp only [hform, LengthForm.Fits] at this <;> omega

@[simp]
theorem length_data : f.data.length = f.payload.length := by
  unfold data; split_ifs <;> simp

end Frame

variable {ε : Type} {st : Stream} {rest : List UInt8}

theorem recvHead_ret {h : WSFrameHead} (hst : Stream.Delivers st (h.image ++ rest)) :
    ∃ st', (Stream.readFixSize 2 : Call ε Stream _) st = .ret (2, h.image) st' ∧
      Stream.Delivers st' rest ∧ Stream.SameOut st st' := by
  have h2 : h.image.length = 2 := rfl
  obtain ⟨st', hread, h', hsame⟩ := Stream.readFixSize_ret (ε := ε) hst (by rw [h2]; decide)
  rw [h2, toInt32_natCast (by decide)] at hread
  exact ⟨st', hread, h', hsame⟩

/-- A length sent in the byte order of the network is read back. -/
theorem recvSwapped_ret {n : ℕ} (hn : n < 2 ^ 31) (hn0 : 0 < n) {x : BitVec (8 * n)}
    (hst : Stream.Delivers st (image n (byteswapOnLittleEndian x) ++ rest)) :
    ∃ v bs st', (Stream.readFixSize n : Call ε Stream _) st = .ret (v, bs) st' ∧ 0 < v ∧
      byteswapOnLittleEndian (ofImage n bs) = x ∧ Stream.Delivers st' rest ∧
        Stream.SameOut st st' := by
  obtain ⟨st', hread, h', hsame⟩ :=
    Stream.readFixSize_ret (ε := ε) hst (by rw [length_image]; omega)
  rw [length_image] at hread
  refine ⟨_, _, st', hread, by rw [toInt32_natCast hn]; omega, ?_, h', hsame⟩
  rw [ofImage_image, byteswapOnLittleEndian_byteswapOnLittleEndian]

/-- The length of a frame is read. -/
theorem recvLength_ret {f : Frame} (hst : Stream.Delivers st (f.lengthBytes ++ rest)) :
    ∃ st', (recvLength f.head : Call ε Stream _) st = .ret (some f.payload.length) st' ∧
      Stream.Delivers st' rest ∧ Stream.SameOut st st' := by
  have hfits := f.fits
  unfold recvLength
  cases hform : f.form with
  | short =>
    rw [hform, LengthForm.Fits] at hfits
    have hp : f.head.payload = BitVec.ofNat 7 f.payload.length := by simp [Frame.head, hform]
    have hnat : f.head.payload.toNat = f.payload.length := by
      rw [hp, BitVec.toNat_ofNat, Nat.mod_eq_of_lt (by omega)]
    have hne : ∀ k : BitVec 7, 126 ≤ k.toNat → f.head.payload ≠ k := by
      rintro k hk rfl; omega
    rw [if_neg (hne 126 (by decide)), if_neg (hne 127 (by decide)), hnat]
    rw [Frame.lengthBytes, hform] at hst
    exact ⟨st, rfl, hst, rfl, rfl⟩
  | medium =>
    rw [hform, LengthForm.Fits] at hfits
    rw [Frame.lengthBytes, hform] at hst
    obtain ⟨v, bs, st', hread, hv, hx, h', hsame⟩ :=
      recvSwapped_ret (ε := ε) (by decide) (by decide) hst
    refine ⟨st', ?_, h', hsame⟩
    rw [if_pos (by simp [Frame.head, hform]), Call.bind_ret hread]
    dsimp only
    rw [if_neg (by omega), hx, BitVec.toNat_ofNat, Nat.mod_eq_of_lt hfits]
    rfl
  | long =>
    rw [hform, LengthForm.Fits] at hfits
    rw [Frame.lengthBytes, hform] at hst
    obtain ⟨v, bs, st', hread, hv, hx, h', hsame⟩ :=
      recvSwapped_ret (ε := ε) (by decide) (by decide) hst
    refine ⟨st', ?_, h', hsame⟩
    rw [if_neg (by simp [Frame.head, hform]), if_pos (by simp [Frame.head, hform]),
      Call.bind_ret hread]
    dsimp only
    rw [if_neg (by omega), hx, BitVec.toNat_ofNat, Nat.mod_eq_of_lt (by omega)]
    rfl

/-- The mask of a frame is read. -/
theorem recvMask_ret {f : Frame} (hst : Stream.Delivers st (f.keyBytes ++ rest)) :
    ∃ st', (recvMask f.head : Call ε Stream _) st = .ret (some f.mask) st' ∧
      Stream.Delivers st' rest ∧ Stream.SameOut st st' := by
  unfold recvMask
  cases hkey : f.key with
  | none =>
    rw [Frame.keyBytes, hkey] at hst
    refine ⟨st, ?_, hst, rfl, rfl⟩
    rw [if_neg (by simp [Frame.head, hkey]), Frame.mask, hkey]
    rfl
  | some k =>
    rw [Frame.keyBytes, hkey] at hst
    have h4 : (image 4 k).length = 4 := length_image 4 k
    obtain ⟨st', hread, h', hsame⟩ :=
      Stream.readFixSize_ret (ε := ε) (w := image 4 k) hst (by rw [h4]; decide)
    rw [h4] at hread
    refine ⟨st', ?_, h', hsame⟩
    rw [if_pos (by simp [Frame.head, hkey]), Call.bind_ret hread]
    dsimp only
    rw [if_neg (by decide), Frame.mask, hkey]
    rfl

/-! ## The accumulated string -/

theorem resize_append (data : List UInt8) (n : ℕ) :
    resize data (data.length + n) = data ++ List.replicate n 0 := by
  rw [resize, List.take_of_length_le (by omega), Nat.add_sub_cancel_left]

/-- Bytes stored at the end of the string before it was resized. -/
theorem storeAt_end {data bytes : List UInt8} {n : ℕ} (h : bytes.length ≤ n) :
    storeAt (resize data (data.length + n)) data.length bytes =
      some (data ++ bytes ++ List.replicate (n - bytes.length) 0) := by
  rw [resize_append, storeAt]
  by_cases h0 : bytes = []
  · rw [if_pos h0, h0, List.append_nil, List.length_nil, Nat.sub_zero]
  have hfit : (0 : ℤ) ≤ data.length ∧
      (data.length : ℤ) + bytes.length ≤ (data ++ List.replicate n (0 : UInt8)).length := by
    rw [List.length_append, List.length_replicate]; omega
  rw [if_neg h0, if_pos hfit, Int.toNat_natCast, overwrite, List.take_left,
    List.drop_append, List.drop_of_length_le (by omega), List.nil_append, Nat.add_sub_cancel_left,
    List.drop_replicate]

/-- The bytes at the end of the string are unmasked. -/
theorem unmaskAt_end (data bytes mask : List UInt8) :
    unmaskAt (data ++ bytes) data.length bytes.length mask =
      some (data ++ xorMask mask bytes) := by
  rw [unmaskAt]
  by_cases h0 : (bytes.length : ℤ) ≤ 0
  · obtain rfl : bytes = [] := List.length_eq_zero_iff.1 (by omega)
    rw [if_pos h0]; rfl
  have hfit : (0 : ℤ) ≤ data.length ∧ (data.length : ℤ) + bytes.length ≤ (data ++ bytes).length := by
    rw [List.length_append]; omega
  rw [if_neg h0, if_pos hfit, Int.toNat_natCast, Int.toNat_natCast, slice, List.drop_left,
    List.take_length, overwrite, List.take_left, length_xorMask, List.drop_of_length_le,
    List.append_nil]
  rw [List.length_append]

/-- The string has the length `cur_len` says. -/
def Recv.Exact (s : Recv) : Prop := s.cur_len = s.data.length

/-- The opcode of the message after a frame. -/
def Recv.nextOpcode (s : Recv) (opcode : BitVec 4) : ℤ :=
  if s.opcode = 0 ∧ opcode ≠ CONTINUE then opcode.toNat else s.opcode

/-- **A payload that is read in full is appended**; `cur_len` is an `int`. -/
theorem accept_append {s : Recv} {h : WSFrameHead} {mask bytes : List UInt8} (hs : s.Exact)
    (hpos : 0 < bytes.length) (hlen : bytes.length < 2 ^ 31)
    (hsum : s.data.length + bytes.length < 2 ^ 64) :
    accept s h bytes.length mask (toInt32 bytes.length) bytes = some (some {
      opcode := s.nextOpcode h.opcode
      data := s.data ++ if h.mask then xorMask mask bytes else bytes
      cur_len := toInt32 (s.data.length + bytes.length : ℕ) }) := by
  have hcast : s.cur_len + bytes.length = (s.data.length + bytes.length : ℕ) := by
    rw [hs, Nat.cast_add]
  have hstore : storeAt (resize s.data (s.data.length + bytes.length)) s.data.length bytes =
      some (s.data ++ bytes) := by
    rw [storeAt_end (le_refl _), Nat.sub_self, List.replicate_zero, List.append_nil]
  rw [accept, hcast, toUInt64_natCast hsum, toInt32_natCast hlen, hs, hstore, Option.bind_eq_bind,
    Option.bind_some, if_neg (by omega)]
  by_cases hm : h.mask
  · rw [if_pos hm, if_pos hm, unmaskAt_end]; rfl
  · rw [if_neg hm, if_neg hm]; rfl

/-! ## A data frame -/

/-- What a data frame does to the local variables: `none` if a write into `data` is outside of it,
    `some none` for a `break`. -/
def absorb (client : Bool) (max : ℕ) (s : Recv) (f : Frame) : Option (Option Recv) :=
  if client = false ∧ f.key = none then some none
  else if max ≤ toUInt64 (s.cur_len + f.payload.length) then some none
  else accept s f.head f.payload.length f.mask (toInt32 f.payload.length) f.payload

/-- The local variables after a frame that fits. -/
def Recv.append (s : Recv) (f : Frame) : Recv where
  opcode := s.nextOpcode f.opcode
  data := s.data ++ f.data
  cur_len := toInt32 (s.data.length + f.payload.length : ℕ)

@[simp]
theorem Recv.length_append (s : Recv) (f : Frame) :
    (s.append f).data.length = s.data.length + f.payload.length := by
  rw [Recv.append, List.length_append, Frame.length_data]

theorem Recv.append_exact {s : Recv} {f : Frame} (h : s.data.length + f.payload.length < 2 ^ 31) :
    (s.append f).Exact := by
  rw [Recv.Exact, Recv.length_append, Recv.append, toInt32_natCast h]

/-- **A frame that fits is appended.** -/
theorem absorb_append {client : Bool} {max : ℕ} {s : Recv} {f : Frame} (hs : s.Exact)
    (hrole : client = true ∨ f.key ≠ none) (hpos : 0 < f.payload.length)
    (hlen : f.payload.length < 2 ^ 31) (hsum : s.data.length + f.payload.length < max)
    (hmax : max < 2 ^ 32) :
    absorb client max s f = some (some (s.append f)) := by
  have hcast : s.cur_len + f.payload.length = (s.data.length + f.payload.length : ℕ) := by
    rw [hs, Nat.cast_add]
  have hno : ¬ (client = false ∧ f.key = none) := by
    rintro ⟨h1, h2⟩
    rcases hrole with h | h
    · rw [h] at h1; cases h1
    · exact h h2
  rw [absorb, if_neg hno, hcast, toUInt64_natCast (by omega), if_neg (by omega),
    accept_append hs hpos hlen (by omega)]
  rfl

/-- How a call that reads a frame ends, given what `absorb` says. -/
def Ends (x : Call ε Stream (Option Recv)) (st : Stream) (rest : List UInt8) :
    Option (Option Recv) → Prop
  | none => x st = .undef
  | some none => ∃ st', x st = .ret none st'
  | some (some s') => ∃ st', x st = .ret (some s') st' ∧ Stream.Delivers st' rest

/-- **A data frame is read as a whole**, or the loop ends in the middle of it. -/
theorem recvData_ends {client : Bool} {max : ℕ} {s : Recv} {f : Frame}
    (hst : Stream.Delivers st (f.body ++ rest)) :
    Ends (recvData client max s f.head : Call ε Stream _) st rest (absorb client max s f) := by
  rw [Frame.body, List.append_assoc, List.append_assoc] at hst
  obtain ⟨st₁, hlength, hst₁, -⟩ := recvLength_ret (ε := ε) hst
  obtain ⟨st₂, hmask, hst₂, -⟩ := recvMask_ret (ε := ε) hst₁
  obtain ⟨st₃, hread, hst₃, -⟩ := Stream.readFixSize_ret (ε := ε) hst₂ f.length_lt
  have hrole : (!client && !f.head.mask) = true ↔ client = false ∧ f.key = none := by
    cases client <;> simp [Frame.head]
  rw [absorb]
  by_cases hr : client = false ∧ f.key = none
  · rw [if_pos hr]
    exact ⟨st, by rw [recvData, if_pos (hrole.2 hr)]; rfl⟩
  rw [if_neg hr]
  by_cases hmax : max ≤ toUInt64 (s.cur_len + f.payload.length)
  · rw [if_pos hmax]
    refine ⟨st₁, ?_⟩
    rw [recvData, if_neg (hrole.not.2 hr), Call.bind_ret hlength]
    dsimp only
    rw [if_pos hmax]
    rfl
  rw [if_neg hmax]
  generalize hr' : accept s f.head f.payload.length f.mask (toInt32 f.payload.length) f.payload = r
  have hrun : (recvData client max s f.head : Call ε Stream _) st =
      r.elim (Call.undefined : Call ε Stream _) (fun result => return result) st₃ := by
    rw [recvData, if_neg (hrole.not.2 hr), Call.bind_ret hlength]
    dsimp only
    rw [if_neg hmax, Call.bind_ret hmask]
    dsimp only
    rw [Call.bind_ret hread]
    dsimp only
    rw [hr']
    cases r <;> rfl
  rcases r with _ | _ | s'
  · exact hrun
  · exact ⟨st₃, hrun⟩
  · exact ⟨st₃, hrun, hst₃⟩

/-! ## Turns of the loop -/

section
variable {client : Bool} {max : ℕ} {s : Recv}

/-- On a data frame the turn reads the header and goes on with `recvData`. -/
theorem turn_data {f : Frame} (hf : f.IsData) (hst : Stream.Delivers st (f.bytes ++ rest)) :
    ∃ st', Stream.Delivers st' (f.body ++ rest) ∧
      (turn client max s : Call ε Stream _) st = (do
        match ← recvData client max s f.head with
        | none => return .breaks
        | some s => if f.fin then return .returns ⟨s.opcode, s.data⟩ else return .goesOn s :
          Call ε Stream Turn) st' := by
  rw [Frame.bytes, List.append_assoc] at hst
  obtain ⟨st', hhead, hst', -⟩ := recvHead_ret (ε := ε) hst
  have hop : f.head.opcode = f.opcode := rfl
  rw [Frame.IsData] at hf
  refine ⟨st', hst', ?_⟩
  rw [turn, Call.bind_ret hhead]
  dsimp only
  rw [if_neg (by decide), WSFrameHead.ofImage_image, hop, if_neg, if_neg, if_pos hf]
  · rfl
  · rcases hf with h | h | h <;> rw [h] <;> decide
  · rcases hf with h | h | h <;> rw [h] <;> decide

theorem turn_undef {f : Frame} (hf : f.IsData) (habs : absorb client max s f = none)
    (hst : Stream.Delivers st (f.bytes ++ rest)) :
    (turn client max s : Call ε Stream _) st = .undef := by
  obtain ⟨st₁, hst₁, hturn⟩ := turn_data (ε := ε) hf hst
  have hends : Ends (recvData client max s f.head : Call ε Stream _) _ _ _ := recvData_ends hst₁
  rw [habs] at hends
  rw [hturn, Call.bind_undef hends]

theorem turn_breaks {f : Frame} (hf : f.IsData) (habs : absorb client max s f = some none)
    (hst : Stream.Delivers st (f.bytes ++ rest)) :
    ∃ st', (turn client max s : Call ε Stream _) st = .ret .breaks st' := by
  obtain ⟨st₁, hst₁, hturn⟩ := turn_data (ε := ε) hf hst
  have hends : Ends (recvData client max s f.head : Call ε Stream _) _ _ _ := recvData_ends hst₁
  rw [habs] at hends
  obtain ⟨st', hret⟩ := hends
  exact ⟨st', by rw [hturn, Call.bind_ret hret]; rfl⟩

/-- **A data frame that is accepted is read as a whole.** -/
theorem turn_accepts {s' : Recv} {f : Frame} (hf : f.IsData)
    (habs : absorb client max s f = some (some s')) (hst : Stream.Delivers st (f.bytes ++ rest)) :
    ∃ st', (turn client max s : Call ε Stream _) st =
      .ret (if f.fin then .returns ⟨s'.opcode, s'.data⟩ else .goesOn s') st' ∧
        Stream.Delivers st' rest := by
  obtain ⟨st₁, hst₁, hturn⟩ := turn_data (ε := ε) hf hst
  have hends : Ends (recvData client max s f.head : Call ε Stream _) _ _ _ := recvData_ends hst₁
  rw [habs] at hends
  obtain ⟨st', hret, hst'⟩ := hends
  refine ⟨st', ?_, hst'⟩
  rw [hturn, Call.bind_ret hret]
  dsimp only
  split_ifs <;> rfl

/-- **On a control frame the turn reads the header only**: its length, mask and payload are still to
    be read. -/
theorem turn_control {f : Frame} (hf : f.IsControl) (hst : Stream.Delivers st (f.bytes ++ rest)) :
    ∃ st', (turn client max s : Call ε Stream _) st = .ret (.goesOn s) st' ∧
      Stream.Delivers st' (f.body ++ rest) := by
  rw [Frame.bytes, List.append_assoc] at hst
  obtain ⟨st₁, hhead, hst₁, -⟩ := recvHead_ret (ε := ε) hst
  have hop : f.head.opcode = f.opcode := rfl
  rw [turn, Call.bind_ret hhead]
  dsimp only
  rw [if_neg (by decide), WSFrameHead.ofImage_image, hop]
  rcases hf with h | h
  · set pong : WSFrameHead := { fin := true, opcode := PONG } with hpong
    have h2 : pong.image.length = 2 := rfl
    obtain ⟨st₂, hwrite, hst₂⟩ := hst₁.writeFixSize (ε := ε) pong.image
    rw [h2, toInt32_natCast (by decide)] at hwrite
    have hsend : (WSPong : Call ε Stream _) st₁ = .ret 2 st₂ := by
      rw [WSPong, sendControl, ← hpong, Call.bind_ret hwrite, if_neg (by decide)]
      rfl
    refine ⟨st₂, ?_, hst₂⟩
    rw [if_pos h, Call.bind_ret hsend, if_neg (by decide)]
    rfl
  · exact ⟨st₁, by rw [if_neg (by rw [h]; decide), if_pos h]; rfl, hst₁⟩

theorem WSPong_shrinks : Stream.Shrinks (WSPong : Call ε Stream _) := by
  unfold WSPong sendControl
  refine (Stream.writeFixSize_shrinks _).bind fun v => ?_
  split_ifs
  · exact Stream.close_shrinks.bind fun _ => .pure _
  · exact .pure _

theorem recvLength_shrinks (h : WSFrameHead) : Stream.Shrinks (recvLength h : Call ε Stream _) := by
  unfold recvLength
  split_ifs
  · exact (Stream.readFixSize_shrinks _).bind fun (n, _) => by
      dsimp only; split <;> exact .pure _
  · exact (Stream.readFixSize_shrinks _).bind fun (n, _) => by
      dsimp only; split <;> exact .pure _
  · exact .pure _

theorem recvMask_shrinks (h : WSFrameHead) : Stream.Shrinks (recvMask h : Call ε Stream _) := by
  unfold recvMask
  split_ifs
  · exact (Stream.readFixSize_shrinks _).bind fun (n, _) => by
      dsimp only; split <;> exact .pure _
  · exact .pure _

theorem recvData_shrinks (h : WSFrameHead) :
    Stream.Shrinks (recvData client max s h : Call ε Stream _) := by
  unfold recvData
  split_ifs
  · exact .pure _
  refine (recvLength_shrinks h).bind fun length => ?_
  rcases length with _ | length
  · exact .pure _
  dsimp only
  split
  · exact .pure _
  refine (recvMask_shrinks h).bind fun mask => ?_
  rcases mask with _ | mask
  · exact .pure _
  refine (Stream.readFixSize_shrinks _).bind fun r => ?_
  rcases r with ⟨v, bytes⟩
  dsimp only
  split
  · exact .undefined
  · exact .pure _

/-- A turn that goes on has read a header. -/
theorem turn_pending {s' : Recv} {st' : Stream}
    (h : (turn client max s : Call ε Stream _) st = .ret (.goesOn s') st') :
    st'.pending < st.pending := by
  obtain ⟨v, bytes, st₁, hread, hpend, -, hall⟩ := Stream.readFixSize_total (ε := ε) 2 st
  rw [turn, Call.bind_ret hread] at h
  dsimp only at h
  by_cases hv : v ≤ 0
  · rw [if_pos hv] at h; cases h
  have htwo : bytes.length = 2 := (hall (by omega)).1
  suffices hle : st'.pending ≤ st₁.pending by omega
  rw [if_neg hv] at h
  refine (?_ : Stream.Shrinks _) st₁ _ st' h
  split
  · exact WSPong_shrinks.bind fun r => by split_ifs <;> exact .pure _
  split
  · exact .pure _
  split
  · refine (recvData_shrinks _).bind fun r => ?_
    rcases r with _ | r
    · exact .pure _
    · dsimp only; split <;> exact .pure _
  · exact .pure _

/-- The loop does not run out of turns: any number of them that is larger than the number of bytes
    is enough. -/
theorem recvLoop_enough : ∀ (n m : ℕ) (s : Recv) (st : Stream), st.pending < n → st.pending < m →
    (recvLoop client max n s : Call ε Stream _) st = recvLoop client max m s st
  | 0, _, _, _, h, _ => (nomatch h)
  | _ + 1, 0, _, _, _, h => (nomatch h)
  | n + 1, m + 1, s, st, hn, hm => by
    rw [recvLoop, recvLoop]
    show Call.bind _ _ st = Call.bind _ _ st
    unfold Call.bind
    cases ht : (turn client max s : Call ε Stream _) st with
    | ret t st' =>
      cases t with
      | breaks => rfl
      | returns msg => rfl
      | goesOn s' =>
        have := turn_pending ht
        exact recvLoop_enough n m s' st' (by omega) (by omega)
    | throw e st' => rfl
    | undef => rfl

/-- The loop of `WSRecvMessage` from any of its states. -/
def recv (client : Bool) (max : ℕ) (s : Recv) : Call ε Stream (Option WSFrameMessage) := fun st =>
  recvLoop client max (st.pending + 1) s st

/-- **The loop**: one turn, and the loop again if it goes on. -/
theorem recv_eq (client : Bool) (max : ℕ) (s : Recv) :
    (recv client max s : Call ε Stream _) = do
      match ← turn client max s with
      | .breaks => return none
      | .goesOn s' => recv client max s'
      | .returns msg => return some msg := by
  funext st
  rw [recv, recvLoop]
  show Call.bind _ _ st = Call.bind _ _ st
  unfold Call.bind
  cases ht : (turn client max s : Call ε Stream _) st with
  | ret t st' =>
    cases t with
    | breaks => rfl
    | returns msg => rfl
    | goesOn s' => exact recvLoop_enough _ _ s' st' (turn_pending ht) (Nat.lt_succ_self _)
  | throw e st' => rfl
  | undef => rfl

end

section
variable {client : Bool} {max : ℕ} {s s' : Recv} {f : Frame}

theorem recv_goesOn {st' : Stream}
    (h : (turn client max s : Call ε Stream _) st = .ret (.goesOn s') st') :
    (recv client max s : Call ε Stream _) st = recv client max s' st' := by
  rw [recv_eq, Call.bind_ret h]

/-- A frame that is accepted and does not end the message. -/
theorem recv_fragment (hf : f.IsData) (hfin : f.fin = false)
    (habs : absorb client max s f = some (some s')) (hst : Stream.Delivers st (f.bytes ++ rest)) :
    ∃ st', (recv client max s : Call ε Stream _) st = recv client max s' st' ∧
      Stream.Delivers st' rest := by
  obtain ⟨st', hturn, hst'⟩ := turn_accepts (ε := ε) hf habs hst
  rw [hfin, if_neg (by decide)] at hturn
  exact ⟨st', recv_goesOn hturn, hst'⟩

/-- A frame that is accepted and ends the message. -/
theorem recv_last (hf : f.IsData) (hfin : f.fin = true)
    (habs : absorb client max s f = some (some s')) (hst : Stream.Delivers st (f.bytes ++ rest)) :
    ∃ st', (recv client max s : Call ε Stream _) st = .ret (some ⟨s'.opcode, s'.data⟩) st' ∧
      Stream.Delivers st' rest := by
  obtain ⟨st', hturn, hst'⟩ := turn_accepts (ε := ε) hf habs hst
  rw [hfin, if_pos rfl] at hturn
  exact ⟨st', by rw [recv_eq, Call.bind_ret hturn]; rfl, hst'⟩

theorem recv_breaks (hf : f.IsData) (habs : absorb client max s f = some none)
    (hst : Stream.Delivers st (f.bytes ++ rest)) :
    ∃ st', (recv client max s : Call ε Stream _) st = .ret none st' := by
  obtain ⟨st', hturn⟩ := turn_breaks (ε := ε) hf habs hst
  exact ⟨st', by rw [recv_eq, Call.bind_ret hturn]; rfl⟩

theorem recv_undef (hf : f.IsData) (habs : absorb client max s f = none)
    (hst : Stream.Delivers st (f.bytes ++ rest)) :
    (recv client max s : Call ε Stream _) st = .undef := by
  rw [recv_eq, Call.bind_undef (turn_undef hf habs hst)]

end

/-- `WSRecvMessage` is the loop from the start. -/
theorem WSRecvMessage_eq (client : Bool) (max : ℕ) :
    (WSRecvMessage client max : Call ε Stream _) = do
      match ← recv client max {} with
      | some msg => return some msg
      | none =>
        Stream.close
        return none := rfl

end Ancfl.Ws
