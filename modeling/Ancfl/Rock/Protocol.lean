/-
  The rock protocol: requests, responses and notifications in frames.

  * `Message.serializeToByteArray` and `Message.parseFromByteArray`: the fields
    of a message, written to and read from a `ByteArray`;
  * `Gzip` is the compression a message is put through: what the source calls
    from zlib, with the law that decoding undoes encoding;
  * `serializeTo` and `parseFrom` are the two sides of `RockMessageDecoder`: a
    header of 8 bytes, then the message, compressed from a length on.
-/
import Ancfl.Stream.Buffers

namespace Ancfl.Rock

open Lib

/-! ## Messages -/

structure RockRequest where
  sn : BitVec 32
  cmd : BitVec 32
  body : List UInt8
deriving DecidableEq

structure RockResponse where
  sn : BitVec 32
  cmd : BitVec 32
  result : BitVec 32
  resultStr : List UInt8
  body : List UInt8
deriving DecidableEq

structure RockNotify where
  notify : BitVec 32
  body : List UInt8
deriving DecidableEq

inductive Message where
  | request (m : RockRequest)
  | response (m : RockResponse)
  | notify (m : RockNotify)
deriving DecidableEq

/-- `getType`: the values of `MessageType`. -/
def Message.getType : Message → BitVec 8
  | .request _ => 1
  | .response _ => 2
  | .notify _ => 3

/-- `getBody`. -/
def Message.getBody : Message → List UInt8
  | .request m => m.body
  | .response m => m.body
  | .notify m => m.body

namespace RockBody

def serializeToByteArray (body : List UInt8) : Call Exn ByteArray Bool := do
  ByteArray.writeStringVint body
  return true

def parseFromByteArray : Call Exn ByteArray (List UInt8) := ByteArray.readStringVint

end RockBody

/-! The serializers of `Request`, `Response` and `Notify`, then of `RockRequest`, `RockResponse`
and `RockNotify`: an exception makes them return `false`. -/

def Request.serializeToByteArray (type : BitVec 8) (sn cmd : BitVec 32) :
    Call Exn ByteArray Bool := do
  ByteArray.writeFuint8 type
  ByteArray.writeUint32 sn
  ByteArray.writeUint32 cmd
  return true

def Response.serializeToByteArray (type : BitVec 8) (sn cmd result : BitVec 32)
    (resultStr : List UInt8) : Call Exn ByteArray Bool := do
  ByteArray.writeFuint8 type
  ByteArray.writeUint32 sn
  ByteArray.writeUint32 cmd
  ByteArray.writeUint32 result
  ByteArray.writeStringVint resultStr
  return true

def Notify.serializeToByteArray (type : BitVec 8) (notify : BitVec 32) :
    Call Exn ByteArray Bool := do
  ByteArray.writeFuint8 type
  ByteArray.writeUint32 notify
  return true

/-- `serializeToByteArray` of the message's class. -/
def Message.serializeToByteArray (msg : Message) : Call Exn ByteArray Bool :=
  Call.catchAll (do
    let v ← match msg with
      | .request m => Request.serializeToByteArray msg.getType m.sn m.cmd
      | .response m =>
        Response.serializeToByteArray msg.getType m.sn m.cmd m.result m.resultStr
      | .notify m => Notify.serializeToByteArray msg.getType m.notify
    let w ← RockBody.serializeToByteArray msg.getBody
    return v && w) false

/-! The parsers, in the same order: an exception makes them return `false`. -/

def RockRequest.parseFromByteArray : Call Exn ByteArray (Option RockRequest) :=
  Call.catchAll (do
    let sn ← ByteArray.readUint32
    let cmd ← ByteArray.readUint32
    let body ← RockBody.parseFromByteArray
    return some { sn, cmd, body }) none

def RockResponse.parseFromByteArray : Call Exn ByteArray (Option RockResponse) :=
  Call.catchAll (do
    let sn ← ByteArray.readUint32
    let cmd ← ByteArray.readUint32
    let result ← ByteArray.readUint32
    let resultStr ← ByteArray.readStringVint
    let body ← RockBody.parseFromByteArray
    return some { sn, cmd, result, resultStr, body }) none

def RockNotify.parseFromByteArray : Call Exn ByteArray (Option RockNotify) :=
  Call.catchAll (do
    let notify ← ByteArray.readUint32
    let body ← RockBody.parseFromByteArray
    return some { notify, body }) none

/-- The part of `parseFrom` that reads the type and the message, `none` for a type that is
    not one of `MessageType` or a message that does not parse. -/
def Message.parseFromByteArray : Call Exn ByteArray (Option Message) := do
  let type ← ByteArray.readFuint8
  if type = 1 then return (← RockRequest.parseFromByteArray).map .request
  else if type = 2 then return (← RockResponse.parseFromByteArray).map .response
  else if type = 3 then return (← RockNotify.parseFromByteArray).map .notify
  else return none

/-! ## Frames -/

/-- How compressing fails. -/
inductive GzipError where
  | write
  | flush
deriving DecidableEq

/-- A gzip `ZlibStream` of each direction: the buffers `m_buffs` it holds after `write` of its
    input and `flush`. -/
structure Gzip where
  encode : List UInt8 → Except GzipError (List (List UInt8))
  decode : List UInt8 → Except GzipError (List (List UInt8))
  /-- what has been encoded is not empty, as it starts with the gzip header, and decodes to the
      input -/
  decode_encode : ∀ x, ∃ zs, encode x = .ok zs ∧ zs.flatten ≠ [] ∧
    ∃ xs, decode zs.flatten = .ok xs ∧ xs.flatten = x

/-- The values that configure the protocol and the code outside of it. -/
structure Config where
  /-- `rock.protocol.max_length` -/
  max_length : BitVec 32 := 1024 * 1024 * 64
  /-- `rock.protocol.gzip_min_length` -/
  gzip_min_length : BitVec 32 := 1024 * 4
  gzip : Gzip
  /-- the bytes that the memory of a new `ByteArray` contains -/
  heap : ℕ → UInt8

structure RockMsgHeader where
  magic : List UInt8 := [0xab, 0xcd]
  version : UInt8 := 1
  /-- `0x1`: zip -/
  flag : UInt8 := 0
  length : BitVec 32 := 0
deriving DecidableEq

/-- The header in memory. -/
def RockMsgHeader.image (h : RockMsgHeader) : List UInt8 :=
  h.magic ++ [h.version, h.flag] ++ Ancfl.image 4 h.length

/-- The header whose 8 bytes in memory are `bytes`. -/
def RockMsgHeader.ofImage (bytes : List UInt8) : RockMsgHeader where
  magic := bytes.take 2
  version := bytes.getD 2 0
  flag := bytes.getD 3 0
  length := Ancfl.ofImage 4 (bytes.drop 4)

section
variable (c : Config)

/-- `new ByteArray`. -/
def Config.newByteArray : ByteArray := ByteArray.new 4096 c.heap

/-- `toByteArray`, `none` for a null pointer. -/
def Message.toByteArray (msg : Message) : Call Exn Stream (Option ByteArray) := do
  let (ok, ba) ← .on c.newByteArray msg.serializeToByteArray
  return if ok then some ba else none

/-- `getByteArray` of a `ZlibStream` with the buffers `buffs`. -/
def getByteArray (buffs : List (List UInt8)) : Call Exn Stream ByteArray := do
  let ((), ba) ← .on c.newByteArray (do
    buffs.forM ByteArray.write
    ByteArray.setPosition 0)
  return ba

/-- The end of `serializeTo`: the header, then the rest of `ba`. -/
def writeFrame (header : RockMsgHeader) (ba : ByteArray) : Call Exn Stream ℤ := do
  let header := { header with length := byteswapOnLittleEndian (n := 4) header.length }
  if (← Stream.writeFixSize header.image) ≤ 0 then return -3
  else
    let (n, ba) ← Stream.writeFixSizeFrom ba ba.getReadSize
    if n ≤ 0 then return -4
    else return toInt32 (header.image.length + ba.size)

/-- `RockMessageDecoder::serializeTo`. -/
def serializeTo (msg : Message) : Call Exn Stream ℤ := do
  match ← msg.toByteArray c with
  | none => Call.undefined
  | some ba =>
    let ((), ba) ← .on ba (ByteArray.setPosition 0)
    let header : RockMsgHeader := { length := BitVec.ofNat 32 ba.size }
    if c.gzip_min_length ≤ header.length then
      let (iovs, ba) ← .on ba (ByteArray.getReadBuffers (toUInt64 (-1)))
      match c.gzip.encode (load ba.nodes iovs) with
      | .error .write => return -1
      | .error .flush => return -2
      | .ok buffs =>
        let ba ← getByteArray c buffs
        writeFrame { header with
          flag := header.flag ||| 0x1
          length := BitVec.ofNat 32 ba.size } ba
    else writeFrame header ba

/-- The end of the `try` block of `parseFrom`: what follows the header, whose length is in the
    byte order of the host. -/
def parseBody (header : RockMsgHeader) : Call Exn Stream (Option Message) := do
  let (n, ba) ← Stream.readFixSizeInto c.newByteArray (toUInt64 header.length.toInt)
  if n ≤ 0 then return none
  else
    let ((), ba) ← .on ba (ByteArray.setPosition 0)
    if header.flag &&& (0x1 : UInt8) ≠ 0 then
      let (iovs, ba) ← .on ba (ByteArray.getReadBuffers (toUInt64 (-1)))
      match c.gzip.decode (load ba.nodes iovs) with
      | .error _ => return none
      | .ok buffs =>
        let ba ← getByteArray c buffs
        let (msg, _) ← .on ba Message.parseFromByteArray
        return msg
    else
      let (msg, _) ← .on ba Message.parseFromByteArray
      return msg

/-- The `try` block of `parseFrom`. -/
def parseFrame : Call Exn Stream (Option Message) := do
  let (n, bytes) ← Stream.readFixSize 8
  if n ≤ 0 then return none
  else
    let header := RockMsgHeader.ofImage bytes
    if header.magic ≠ [0xab, 0xcd] then return none
    else if header.version ≠ 1 then return none
    else
      let header := { header with length := byteswapOnLittleEndian (n := 4) header.length }
      if c.max_length ≤ header.length then return none
      else parseBody c header

/-- `RockMessageDecoder::parseFrom`, `none` for a null pointer. -/
def parseFrom : Call Exn Stream (Option Message) := Call.catchAll (parseFrame c) none

end

end Ancfl.Rock
