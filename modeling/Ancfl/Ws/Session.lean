/-
  WebSocket messages on a stream.

  * `WSFrameHead` is the header of a frame, with its two bytes in memory;
  * `WSSendMessage` writes a message as one frame, `WSPing` and `WSPong` write
    control frames;
  * `WSRecvMessage` reads frames until a message is complete: `turn` is one
    turn of its loop, `recvData` what it does with a data frame.  A write into
    the string `data` that is outside of it is undefined.
-/
import Ancfl.ByteArray.Typed
import Ancfl.Stream.FixSize

namespace Ancfl.Ws

open Lib

/-! ## Headers -/

/-! The values of `OPCODE`. -/

def CONTINUE : BitVec 4 := 0
def TEXT_FRAME : BitVec 4 := 1
def BIN_FRAME : BitVec 4 := 2
def CLOSE : BitVec 4 := 8
def PING : BitVec 4 := 0x9
def PONG : BitVec 4 := 0xA

structure WSFrameHead where
  opcode : BitVec 4
  rsv3 : Bool := false
  rsv2 : Bool := false
  rsv1 : Bool := false
  fin : Bool
  payload : BitVec 7 := 0
  mask : Bool := false
deriving DecidableEq

/-- The header in memory: the bit fields fill each byte from its lowest bit on. -/
def WSFrameHead.image (h : WSFrameHead) : List UInt8 :=
  let b (x : Bool) : BitVec 1 := BitVec.ofBool x
  [⟨b h.fin ++ b h.rsv1 ++ b h.rsv2 ++ b h.rsv3 ++ h.opcode⟩, ⟨b h.mask ++ h.payload⟩]

/-- The header whose two bytes in memory are `bytes`. -/
def WSFrameHead.ofImage (bytes : List UInt8) : WSFrameHead :=
  let b₀ := (bytes.getD 0 0).toBitVec
  let b₁ := (bytes.getD 1 0).toBitVec
  { opcode := b₀.setWidth 4
    rsv3 := b₀.getLsbD 4
    rsv2 := b₀.getLsbD 5
    rsv1 := b₀.getLsbD 6
    fin := b₀.getLsbD 7
    payload := b₁.setWidth 7
    mask := b₁.getLsbD 7 }

structure WSFrameMessage where
  opcode : ℤ
  data : List UInt8
deriving DecidableEq

variable {ε : Type}

/-! ## Sending -/

/-- The bytes, each XORed with the byte of the mask for its position modulo 4. -/
def xorMask (mask data : List UInt8) : List UInt8 :=
  data.mapIdx fun i b => b ^^^ mask.getD (i % 4) 0

/-- The header `WSSendMessage` writes. -/
def sendHead (msg : WSFrameMessage) (client fin : Bool) : WSFrameHead where
  fin := fin
  opcode := BitVec.ofInt 4 msg.opcode
  mask := client
  payload :=
    if msg.data.length < 126 then BitVec.ofNat 7 msg.data.length
    else if msg.data.length < 65536 then 126
    else 127

/-- The part of `WSSendMessage` that writes the length, `false` for a `break`. -/
def sendLength (ws_head : WSFrameHead) (size : BitVec 64) : Call ε Stream Bool := do
  if ws_head.payload = 126 then
    let len : BitVec (8 * 2) := byteswapOnLittleEndian (size.setWidth 16)
    return decide (0 < (← Stream.writeFixSize (image 2 len)))
  else if ws_head.payload = 127 then
    let len : BitVec (8 * 8) := byteswapOnLittleEndian size
    return decide (0 < (← Stream.writeFixSize (image 8 len)))
  else return true

/-- The part of `WSSendMessage` that writes the mask, `false` for a `break`. -/
def sendMask (client : Bool) (mask : List UInt8) : Call ε Stream Bool := do
  if client then return decide (0 < (← Stream.writeFixSize mask))
  else return true

/-- The end of `WSSendMessage` after a `break`. -/
def sendFailed (msg : WSFrameMessage) : Call ε Stream (ℤ × WSFrameMessage) := do
  Stream.close
  return (-1, msg)

/-- `WSSendMessage`, with the value `rand()` returns; the result and the message, whose data is
    masked in place. -/
def WSSendMessage (rand_value : BitVec 32) (msg : WSFrameMessage) (client fin : Bool) :
    Call ε Stream (ℤ × WSFrameMessage) := do
  let ws_head := sendHead msg client fin
  let size := msg.data.length
  if (← Stream.writeFixSize ws_head.image) ≤ 0 then sendFailed msg
  else if !(← sendLength ws_head (BitVec.ofNat 64 size)) then sendFailed msg
  else
    let mask := image 4 rand_value
    let msg := if client then { msg with data := xorMask mask msg.data } else msg
    if !(← sendMask client mask) then sendFailed msg
    else if (← Stream.writeFixSize msg.data) ≤ 0 then sendFailed msg
    else return (toInt32 (size + ws_head.image.length), msg)

/-- The body of `WSPing` and `WSPong`. -/
def sendControl (opcode : BitVec 4) : Call ε Stream ℤ := do
  let ws_head : WSFrameHead := { fin := true, opcode := opcode }
  let v ← Stream.writeFixSize ws_head.image
  if v ≤ 0 then
    Stream.close
    return v
  else return v

def WSPing : Call ε Stream ℤ := sendControl PING
def WSPong : Call ε Stream ℤ := sendControl PONG

/-! ## Receiving -/

/-- `resize(n)` of a string. -/
def resize (data : List UInt8) (n : ℕ) : List UInt8 :=
  data.take n ++ List.replicate (n - data.length) 0

/-- The bytes put into the string from `data[pos]` on, `none` if one of them lands outside of it. -/
def storeAt (data : List UInt8) (pos : ℤ) (bytes : List UInt8) : Option (List UInt8) :=
  if bytes = [] then some data
  else if 0 ≤ pos ∧ pos + bytes.length ≤ data.length then some (overwrite data pos.toNat bytes)
  else none

/-- The loop that XORs `n` characters of the string from `data[pos]` on with the mask, `none` if
    one of them lands outside of it. -/
def unmaskAt (data : List UInt8) (pos n : ℤ) (mask : List UInt8) : Option (List UInt8) :=
  if n ≤ 0 then some data
  else if 0 ≤ pos ∧ pos + n ≤ data.length then
    some (overwrite data pos.toNat (xorMask mask (slice data pos.toNat n.toNat)))
  else none

/-- The local variables of `WSRecvMessage`. -/
structure Recv where
  opcode : ℤ := 0
  data : List UInt8 := []
  cur_len : ℤ := 0
deriving DecidableEq

/-- The length of a data frame, `none` for a `break`. -/
def recvLength (ws_head : WSFrameHead) : Call ε Stream (Option ℕ) := do
  if ws_head.payload = 126 then
    let (n, len) ← Stream.readFixSize 2
    if n ≤ 0 then return none
    else return some (byteswapOnLittleEndian (ofImage 2 len)).toNat
  else if ws_head.payload = 127 then
    let (n, len) ← Stream.readFixSize 8
    if n ≤ 0 then return none
    else return some (byteswapOnLittleEndian (ofImage 8 len)).toNat
  else return some ws_head.payload.toNat

/-- The mask of a data frame, `none` for a `break`. -/
def recvMask (ws_head : WSFrameHead) : Call ε Stream (Option (List UInt8)) := do
  if ws_head.mask then
    let (n, mask) ← Stream.readFixSize 4
    if n ≤ 0 then return none
    else return some mask
  else return some [0, 0, 0, 0]

/-- What becomes of the local variables when `readFixSize` puts `bytes` into the resized string and
    returns `n`: `some none` for a `break`, `none` if a write is outside of the string. -/
def accept (s : Recv) (ws_head : WSFrameHead) (length : ℕ) (mask : List UInt8) (n : ℤ)
    (bytes : List UInt8) : Option (Option Recv) := do
  let data ← storeAt (resize s.data (toUInt64 (s.cur_len + length))) s.cur_len bytes
  if n ≤ 0 then return none
  else
    let data ← if ws_head.mask then unmaskAt data s.cur_len (toInt32 length) mask else some data
    return some {
      opcode :=
        if s.opcode = 0 ∧ ws_head.opcode ≠ CONTINUE then ws_head.opcode.toNat else s.opcode
      data := data
      cur_len := toInt32 (s.cur_len + length) }

/-- The branch of the loop for a data frame up to the test of `fin`, `none` for a `break`; `max` is
    `websocket.message.max_size`.  The sum of `cur_len` and the length is a `uint64_t`. -/
def recvData (client : Bool) (max : ℕ) (s : Recv) (ws_head : WSFrameHead) :
    Call ε Stream (Option Recv) := do
  if !client && !ws_head.mask then return none
  else
    match ← recvLength ws_head with
    | none => return none
    | some length =>
      if max ≤ toUInt64 (s.cur_len + length) then return none
      else
        match ← recvMask ws_head with
        | none => return none
        | some mask =>
          let (n, bytes) ← Stream.readFixSize length
          match accept s ws_head length mask n bytes with
          | none => Call.undefined
          | some result => return result

/-- How a turn of the loop ends. -/
inductive Turn where
  | breaks
  | goesOn (s : Recv)
  | returns (msg : WSFrameMessage)
deriving DecidableEq

/-- One turn of the loop of `WSRecvMessage`. -/
def turn (client : Bool) (max : ℕ) (s : Recv) : Call ε Stream Turn := do
  let (n, bytes) ← Stream.readFixSize 2
  if n ≤ 0 then return .breaks
  else
    let ws_head := WSFrameHead.ofImage bytes
    if ws_head.opcode = PING then
      if (← WSPong) ≤ 0 then return .breaks
      else return .goesOn s
    else if ws_head.opcode = PONG then return .goesOn s
    else if ws_head.opcode = CONTINUE ∨ ws_head.opcode = TEXT_FRAME ∨ ws_head.opcode = BIN_FRAME then
      match ← recvData client max s ws_head with
      | none => return .breaks
      | some s => if ws_head.fin then return .returns ⟨s.opcode, s.data⟩ else return .goesOn s
    else return .goesOn s

/-- The loop of `WSRecvMessage`, `none` for a `break`.  A turn that goes on has read a header, so as
    many turns as there are bytes are enough (`recvLoop_enough`). -/
def recvLoop (client : Bool) (max : ℕ) : ℕ → Recv → Call ε Stream (Option WSFrameMessage)
  | 0, _ => Call.undefined
  | n + 1, s => do
    match ← turn client max s with
    | .breaks => return none
    | .goesOn s => recvLoop client max n s
    | .returns msg => return some msg

/-- `WSRecvMessage`, `none` for a null pointer. -/
def WSRecvMessage (client : Bool) (max : ℕ) : Call ε Stream (Option WSFrameMessage) := do
  match ← recvLoop client max ((← .gets Stream.pending) + 1) {} with
  | some msg => return some msg
  | none =>
    Stream.close
    return none

end Ancfl.Ws
