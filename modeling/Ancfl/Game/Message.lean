/-
  The messages of the game servers: a packed header of 20 bytes, then the body.

  * `MessageHeader.swap`: the `byteswapOnLittleEndian` of the four fields, which
    a sender does last and a receiver first;
  * `Message.bytes`: a message as it is sent; `ofImage_bytes` reads its header
    back, `msg_len_toNat` is its length.
-/
import Ancfl.ByteArray.RoundTrip

namespace Ancfl.Game

open Lib

structure MessageHeader where
  msg_id : BitVec 32
  msg_len : BitVec 32
  target_id : BitVec 64
  user_data : BitVec 32
deriving DecidableEq

namespace MessageHeader

/-- The header in memory. -/
def image (h : MessageHeader) : List UInt8 :=
  Ancfl.image 4 h.msg_id ++ (Ancfl.image 4 h.msg_len ++
    (Ancfl.image 8 h.target_id ++ Ancfl.image 4 h.user_data))

/-- The header whose 20 bytes in memory are `bs`. -/
def ofImage (bs : List UInt8) : MessageHeader where
  msg_id := Ancfl.ofImage 4 (slice bs 0 4)
  msg_len := Ancfl.ofImage 4 (slice bs 4 4)
  target_id := Ancfl.ofImage 8 (slice bs 8 8)
  user_data := Ancfl.ofImage 4 (slice bs 16 4)

/-- `byteswapOnLittleEndian` of each field. -/
def swap (h : MessageHeader) : MessageHeader where
  msg_id := byteswapOnLittleEndian (n := 4) h.msg_id
  msg_len := byteswapOnLittleEndian (n := 4) h.msg_len
  target_id := byteswapOnLittleEndian (n := 8) h.target_id
  user_data := byteswapOnLittleEndian (n := 4) h.user_data

@[simp]
theorem length_image (h : MessageHeader) : h.image.length = 20 := by
  simp only [image, List.length_append]
  rw [Ancfl.length_image 4, Ancfl.length_image 4, Ancfl.length_image 8, Ancfl.length_image 4]

@[simp]
theorem swap_swap (h : MessageHeader) : h.swap.swap = h := by
  have h4 (v : BitVec 32) := byteswapOnLittleEndian_byteswapOnLittleEndian (n := 4) v
  have h8 (v : BitVec 64) := byteswapOnLittleEndian_byteswapOnLittleEndian (n := 8) v
  simp only [swap, h4, h8]

/-- A header is read from the beginning of what follows it. -/
theorem ofImage_image (h : MessageHeader) (rest : List UInt8) : ofImage (h.image ++ rest) = h := by
  have hlen4 (v : BitVec 32) := Ancfl.length_image 4 v
  have hlen8 (v : BitVec 64) := Ancfl.length_image 8 v
  have h4 (v : BitVec 32) := Ancfl.ofImage_image 4 v
  have h8 (v : BitVec 64) := Ancfl.ofImage_image 8 v
  simp [ofImage, image, slice, List.drop_append, List.drop_of_length_le, hlen4, hlen8, h4, h8]

/-- Only 20 bytes are read. -/
theorem ofImage_take (bs : List UInt8) : ofImage (bs.take 20) = ofImage bs := by
  rw [ofImage, slice_take _ (by omega), slice_take _ (by omega), slice_take _ (by omega),
    slice_take _ (by omega)]
  rfl

end MessageHeader

/-- A message, of which the header is made by the sender. -/
structure Message where
  msg_id : BitVec 32
  target_id : BitVec 64
  user_data : BitVec 32
  body : List UInt8
deriving DecidableEq

namespace Message

/-- The number of bytes of a message. -/
def size (m : Message) : ℕ := 20 + m.body.length

def header (m : Message) : MessageHeader :=
  ⟨m.msg_id, BitVec.ofNat 32 m.size, m.target_id, m.user_data⟩

/-- A message as it is sent. -/
def bytes (m : Message) : List UInt8 := m.header.swap.image ++ m.body

@[simp]
theorem length_bytes (m : Message) : m.bytes.length = m.size := by
  rw [bytes, List.length_append, MessageHeader.length_image, size]

theorem bytes_ne_nil (m : Message) : m.bytes ≠ [] := by
  intro h
  have := m.length_bytes
  rw [h, List.length_nil, size] at this
  omega

/-- The header that a receiver makes of the bytes of a message. -/
theorem ofImage_bytes (m : Message) (rest : List UInt8) :
    (MessageHeader.ofImage (m.bytes ++ rest)).swap = m.header := by
  rw [bytes, List.append_assoc, MessageHeader.ofImage_image, MessageHeader.swap_swap]

theorem msg_len_toNat {m : Message} (h : m.size < 2 ^ 32) : m.header.msg_len.toNat = m.size := by
  rw [header, BitVec.toNat_ofNat, Nat.mod_eq_of_lt h]

end Message

end Ancfl.Game
