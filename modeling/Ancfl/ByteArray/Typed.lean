/-
  The typed operations of `ByteArray`: fixed-width integers in the byte order
  of the buffer, base-128 varints (signed ones in zigzag form), floating-point
  numbers as their bit patterns, and strings after their length.

  * integers of `w` bits are `BitVec w`, read as signed (`toInt`) where the
    source has a signed type; arithmetic wraps around;
  * `writeFixed`, `writeVarint`, `writeString` and their readers are what the
    members of a family share; the members are named as in the source;
  * `Val` is a value with the type it is written as, `writeVal` and `readKind`
    the call for it.
-/
import Ancfl.ByteArray.Chunks
import Mathlib.Data.Nat.Bitwise

namespace Ancfl

open Lib

/-! ## Integers as bytes -/

/-- The bytes of an integer in the memory of the host. -/
def image (n : ℕ) (v : BitVec (8 * n)) : List UInt8 :=
  match byteOrder with
  | .little => leBytes n v.toNat
  | .big => (leBytes n v.toNat).reverse

/-- The integer whose bytes in the memory of the host are `bs`. -/
def ofImage (n : ℕ) (bs : List UInt8) : BitVec (8 * n) :=
  match byteOrder with
  | .little => BitVec.ofNat _ (leNat bs)
  | .big => BitVec.ofNat _ (leNat bs.reverse)

/-- `byteswap` (endian.h): the bytes in the opposite order. -/
def byteswap {n : ℕ} (v : BitVec (8 * n)) : BitVec (8 * n) :=
  BitVec.ofNat _ (leNat (leBytes n v.toNat).reverse)

/-- `byteswapOnLittleEndian` (endian.h). -/
def byteswapOnLittleEndian {n : ℕ} (t : BitVec (8 * n)) : BitVec (8 * n) :=
  if byteOrder = .little then byteswap t else t

/-- The body of `EncodeZigzag32` and `EncodeZigzag64`. -/
def encodeZigzag {w : ℕ} (v : BitVec w) : BitVec w :=
  if v.toInt < 0 then -v * 2#w - 1#w else v * 2#w

/-- The body of `DecodeZigzag32` and `DecodeZigzag64`. -/
def decodeZigzag {w : ℕ} (v : BitVec w) : BitVec w := (v >>> 1) ^^^ (-(v &&& 1#w))

def encodeZigzag32 (v : BitVec 32) : BitVec 32 := encodeZigzag v
def encodeZigzag64 (v : BitVec 64) : BitVec 64 := encodeZigzag v
def decodeZigzag32 (v : BitVec 32) : BitVec 32 := decodeZigzag v
def decodeZigzag64 (v : BitVec 64) : BitVec 64 := decodeZigzag v

/-- The loop of `writeUint32` and `writeUint64`: the bytes it puts into `tmp`. -/
def varint (value : ℕ) : List UInt8 :=
  if 0x80 ≤ value then UInt8.ofNat ((value &&& 0x7F) ||| 0x80) :: varint (value >>> 7)
  else [UInt8.ofNat value]
decreasing_by rw [Nat.shiftRight_eq_div_pow]; omega

namespace ByteArray

/-! ## Writers -/

def writeFint8 (value : BitVec 8) : Call Exn ByteArray Unit := write (image 1 value)

def writeFuint8 (value : BitVec 8) : Call Exn ByteArray Unit := write (image 1 value)

/-- An integer of `n` bytes in the byte order of the buffer. -/
def writeFixed (n : ℕ) (value : BitVec (8 * n)) : Call Exn ByteArray Unit := do
  let endian ← .gets endian
  let value := if endian ≠ byteOrder then byteswap value else value
  write (image n value)

def writeFint16 (value : BitVec 16) : Call Exn ByteArray Unit := writeFixed 2 value
def writeFuint16 (value : BitVec 16) : Call Exn ByteArray Unit := writeFixed 2 value
def writeFint32 (value : BitVec 32) : Call Exn ByteArray Unit := writeFixed 4 value
def writeFuint32 (value : BitVec 32) : Call Exn ByteArray Unit := writeFixed 4 value
def writeFint64 (value : BitVec 64) : Call Exn ByteArray Unit := writeFixed 8 value
def writeFuint64 (value : BitVec 64) : Call Exn ByteArray Unit := writeFixed 8 value

/-- The body of `writeUint32` and `writeUint64`. -/
def writeVarint {w : ℕ} (value : BitVec w) : Call Exn ByteArray Unit := write (varint value.toNat)

def writeUint32 (value : BitVec 32) : Call Exn ByteArray Unit := writeVarint value
def writeInt32 (value : BitVec 32) : Call Exn ByteArray Unit := writeUint32 (encodeZigzag32 value)
def writeUint64 (value : BitVec 64) : Call Exn ByteArray Unit := writeVarint value
def writeInt64 (value : BitVec 64) : Call Exn ByteArray Unit := writeUint64 (encodeZigzag64 value)

/-- `writeFloat`: the argument is the bit pattern. -/
def writeFloat (value : BitVec 32) : Call Exn ByteArray Unit := writeFuint32 value

/-- `writeDouble`: the argument is the bit pattern. -/
def writeDouble (value : BitVec 64) : Call Exn ByteArray Unit := writeFuint64 value

/-- A string after its length, which the writer `len` stores. -/
def writeString {w : ℕ} (len : BitVec w → Call Exn ByteArray Unit) (value : List UInt8) :
    Call Exn ByteArray Unit := do
  len (BitVec.ofNat w value.length)
  write value

def writeStringF16 (value : List UInt8) : Call Exn ByteArray Unit := writeString writeFuint16 value
def writeStringF32 (value : List UInt8) : Call Exn ByteArray Unit := writeString writeFuint32 value
def writeStringF64 (value : List UInt8) : Call Exn ByteArray Unit := writeString writeFuint64 value
def writeStringVint (value : List UInt8) : Call Exn ByteArray Unit := writeString writeUint64 value

/-! ## Readers -/

def readFint8 : Call Exn ByteArray (BitVec 8) := do
  let v ← read 1
  return ofImage 1 v

def readFuint8 : Call Exn ByteArray (BitVec 8) := do
  let v ← read 1
  return ofImage 1 v

/-- An integer of `n` bytes in the byte order of the buffer (the macro `XX`). -/
def readFixed (n : ℕ) : Call Exn ByteArray (BitVec (8 * n)) := do
  let v ← read n
  let endian ← .gets endian
  return if endian = byteOrder then ofImage n v else byteswap (ofImage n v)

def readFint16 : Call Exn ByteArray (BitVec 16) := readFixed 2
def readFuint16 : Call Exn ByteArray (BitVec 16) := readFixed 2
def readFint32 : Call Exn ByteArray (BitVec 32) := readFixed 4
def readFuint32 : Call Exn ByteArray (BitVec 32) := readFixed 4
def readFint64 : Call Exn ByteArray (BitVec 64) := readFixed 8
def readFuint64 : Call Exn ByteArray (BitVec 64) := readFixed 8

/-- The loop of `readUint32` and `readUint64`, at the bit position `i`. -/
def readVarint (w i : ℕ) (result : BitVec w) : Call Exn ByteArray (BitVec w) :=
  if i < w then do
    let b ← readFuint8
    if b < 0x80#8 then return result ||| (b.setWidth w <<< i)
    else readVarint w (i + 7) (result ||| ((b &&& 0x7F#8).setWidth w <<< i))
  else return result
termination_by w - i

def readUint32 : Call Exn ByteArray (BitVec 32) := readVarint 32 0 0
def readInt32 : Call Exn ByteArray (BitVec 32) := do return decodeZigzag32 (← readUint32)
def readUint64 : Call Exn ByteArray (BitVec 64) := readVarint 64 0 0
def readInt64 : Call Exn ByteArray (BitVec 64) := do return decodeZigzag64 (← readUint64)

/-- `readFloat`: the result is the bit pattern. -/
def readFloat : Call Exn ByteArray (BitVec 32) := readFuint32

/-- `readDouble`: the result is the bit pattern. -/
def readDouble : Call Exn ByteArray (BitVec 64) := readFuint64

/-- A string after its length, which the reader `len` reads. -/
def readString {w : ℕ} (len : Call Exn ByteArray (BitVec w)) : Call Exn ByteArray (List UInt8) := do
  let n ← len
  read n.toNat

def readStringF16 : Call Exn ByteArray (List UInt8) := readString readFuint16
def readStringF32 : Call Exn ByteArray (List UInt8) := readString readFuint32
def readStringF64 : Call Exn ByteArray (List UInt8) := readString readFuint64
def readStringVint : Call Exn ByteArray (List UInt8) := readString readUint64

/-! ## Values of all types -/

end ByteArray

/-- The types the buffer reads and writes. -/
inductive Kind where
  | fint8 | fuint8 | fint16 | fuint16 | fint32 | fuint32 | fint64 | fuint64
  | int32 | uint32 | int64 | uint64 | float | double
  | stringF16 | stringF32 | stringF64 | stringVint
deriving DecidableEq

/-- A value with the type it is written as. -/
inductive Val where
  | fint8 (v : BitVec 8)
  | fuint8 (v : BitVec 8)
  | fint16 (v : BitVec 16)
  | fuint16 (v : BitVec 16)
  | fint32 (v : BitVec 32)
  | fuint32 (v : BitVec 32)
  | fint64 (v : BitVec 64)
  | fuint64 (v : BitVec 64)
  | int32 (v : BitVec 32)
  | uint32 (v : BitVec 32)
  | int64 (v : BitVec 64)
  | uint64 (v : BitVec 64)
  | float (v : BitVec 32)
  | double (v : BitVec 64)
  | stringF16 (v : List UInt8)
  | stringF32 (v : List UInt8)
  | stringF64 (v : List UInt8)
  | stringVint (v : List UInt8)
deriving DecidableEq

/-- The type a value is written as. -/
def Val.kind : Val → Kind
  | fint8 _ => .fint8 | fuint8 _ => .fuint8 | fint16 _ => .fint16 | fuint16 _ => .fuint16
  | fint32 _ => .fint32 | fuint32 _ => .fuint32 | fint64 _ => .fint64 | fuint64 _ => .fuint64
  | int32 _ => .int32 | uint32 _ => .uint32 | int64 _ => .int64 | uint64 _ => .uint64
  | float _ => .float | double _ => .double
  | stringF16 _ => .stringF16 | stringF32 _ => .stringF32
  | stringF64 _ => .stringF64 | stringVint _ => .stringVint

namespace ByteArray

/-- The writer for a value. -/
def writeVal : Val → Call Exn ByteArray Unit
  | .fint8 v => writeFint8 v
  | .fuint8 v => writeFuint8 v
  | .fint16 v => writeFint16 v
  | .fuint16 v => writeFuint16 v
  | .fint32 v => writeFint32 v
  | .fuint32 v => writeFuint32 v
  | .fint64 v => writeFint64 v
  | .fuint64 v => writeFuint64 v
  | .int32 v => writeInt32 v
  | .uint32 v => writeUint32 v
  | .int64 v => writeInt64 v
  | .uint64 v => writeUint64 v
  | .float v => writeFloat v
  | .double v => writeDouble v
  | .stringF16 v => writeStringF16 v
  | .stringF32 v => writeStringF32 v
  | .stringF64 v => writeStringF64 v
  | .stringVint v => writeStringVint v

/-- The reader for a type. -/
def readKind : Kind → Call Exn ByteArray Val
  | .fint8 => Val.fint8 <$> readFint8
  | .fuint8 => Val.fuint8 <$> readFuint8
  | .fint16 => Val.fint16 <$> readFint16
  | .fuint16 => Val.fuint16 <$> readFuint16
  | .fint32 => Val.fint32 <$> readFint32
  | .fuint32 => Val.fuint32 <$> readFuint32
  | .fint64 => Val.fint64 <$> readFint64
  | .fuint64 => Val.fuint64 <$> readFuint64
  | .int32 => Val.int32 <$> readInt32
  | .uint32 => Val.uint32 <$> readUint32
  | .int64 => Val.int64 <$> readInt64
  | .uint64 => Val.uint64 <$> readUint64
  | .float => Val.float <$> readFloat
  | .double => Val.double <$> readDouble
  | .stringF16 => Val.stringF16 <$> readStringF16
  | .stringF32 => Val.stringF32 <$> readStringF32
  | .stringF64 => Val.stringF64 <$> readStringF64
  | .stringVint => Val.stringVint <$> readStringVint

/-- Write the values, go back to the start, read values of the same types, and
    ask for the number of bytes left. -/
def roundTrip (little : Bool) (vs : List Val) : Call Exn ByteArray (List Val × ℕ) := do
  setIsLittleEndian little
  vs.forM writeVal
  setPosition 0
  let rs ← vs.mapM fun v => readKind v.kind
  let left ← .gets getReadSize
  return (rs, left)

end ByteArray
end Ancfl
