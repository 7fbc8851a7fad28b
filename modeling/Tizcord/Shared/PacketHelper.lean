/-
This file models shared/packet_helper.c: the byte-order conversion of a packet
and the three transfer loops. The loops follow the script of the socket, one
entry for each system call, and keep the packet or the receive buffer as the
memory they write into.
-/

import Tizcord.Library.ByteOrder
import Tizcord.Library.Socket
import Tizcord.Shared.Protocol

namespace Tizcord

open CModel

/-- A packet filled with zero bytes, with its type and the time it was made. -/
def createBasePacket (type : PacketType) (now : Int) : TizcordPacket :=
  TizcordPacket.setTimestamp (TizcordPacket.setType Image.zero type) now

/-! ### Byte order -/

/-- `htonl`, and `ntohl`, on a little-endian host. -/
def htonl (value : Nat) : Nat :=
  byteSwap 4 value

/-- The conversion of a 64-bit value, on the little-endian branch. -/
def network64 (value : Nat) : Nat :=
  htonl (value % 2 ^ 32) <<< 32 ||| htonl (value >>> 32 % 2 ^ 32)

def swap32 (packet : TizcordPacket) (offset : Nat) : TizcordPacket :=
  packet.putWord offset 4 (htonl (packet.word offset 4))

def swap64 (packet : TizcordPacket) (offset : Nat) : TizcordPacket :=
  packet.putWord offset 8 (network64 (packet.word offset 8))

/-- Convert the fields common to all packets, then those of the variant `type` selects. -/
def swapPacket (packet : TizcordPacket) (type : Int) : TizcordPacket :=
  let packet := swap32 packet 0
  let packet := swap64 packet 8
  let packet := swap32 packet 16
  let packet := swap32 packet 20
  let packet := swap32 packet 24
  let packet := swap32 packet 28
  let packet := swap64 packet 616
  match PacketType.ofCode type with
  | some .auth =>
    let packet := swap32 packet 32
    swap32 packet 36
  | some .dm =>
    let packet := swap32 packet 32
    let packet := swap32 packet 36
    let packet := swap32 packet 40
    swap64 packet 48
  | some .server =>
    let packet := swap32 packet 32
    let packet := swap64 packet 40
    let packet := swap64 packet 48
    let packet := swap32 packet 56
    swap32 packet 60
  | some .channel =>
    let packet := swap32 packet 32
    let packet := swap64 packet 40
    let packet := swap32 packet 48
    let packet := swap64 packet 56
    swap64 packet 96
  | some .social =>
    let packet := swap32 packet 32
    let packet := swap32 packet 36
    let packet := swap32 packet 40
    swap64 packet 48
  | none =>
    let packet := swap32 packet 32
    swap32 packet 36

/-! ### Sending -/

/-- The loop of `packet_send` from `offset` on: the result, and the bytes the socket accepted.
Past the end of the script the kernel accepts all that is left. -/
def packetSendLoop (wire : List UInt8) : List SendResult → Nat → Int × List UInt8
  | [], offset => (0, wire.drop offset)
  | result :: script, offset =>
    if offset < wire.length then
      match result with
      | .interrupted => packetSendLoop wire script offset
      | .failed | .zero => (-1, [])
      | .count more =>
        let count := min (more + 1) (wire.length - offset)
        let (status, rest) := packetSendLoop wire script (offset + count)
        (status, (wire.drop offset).take count ++ rest)
    else (0, [])

def packetSend (script : List SendResult) (packet : TizcordPacket) : Int × List UInt8 :=
  packetSendLoop (swapPacket packet packet.type).toBytes script 0

/-! ### Receiving -/

/-- The type the first four bytes of a wire image announce. -/
def wireType (wire : TizcordPacket) : Option PacketType :=
  PacketType.ofCode (htonl (wire.word 0 4))

/-- The decision both receivers make about a complete wire image. -/
def decodePacket (wire : TizcordPacket) : Option TizcordPacket :=
  match wireType wire with
  | none => none
  | some type => some (swapPacket wire type.code)

/-- What `packet_receive` returns: 0, -1 with an `errno`, or a packet. -/
inductive ReceiveResult where
  | closed
  | failed (errno : Errno)
  | received (packet : TizcordPacket)

def ReceiveResult.ofWire (wire : TizcordPacket) : ReceiveResult :=
  match decodePacket wire with
  | none => .failed .protocol
  | some packet => .received packet

/-- The loop of the blocking receiver, which writes into the caller's packet. It has no result
while the script leaves it waiting for data. -/
def packetReceiveLoop :
    List RecvResult → List UInt8 → TizcordPacket → Nat → Option (ReceiveResult × Socket)
  | [], stream, packet, offset =>
    if offset < packetSize then none else some (.ofWire packet, ⟨stream, []⟩)
  | result :: script, stream, packet, offset =>
    if offset < packetSize then
      match recv result stream (packetSize - offset) with
      | .interrupted => packetReceiveLoop script stream packet offset
      | .again => some (.failed .again, ⟨stream, script⟩)
      | .failed errno => some (.failed errno, ⟨stream, script⟩)
      | .closed =>
        if offset = 0 then some (.closed, ⟨stream, script⟩)
        else some (.failed .connectionReset, ⟨stream, script⟩)
      | .data bytes =>
        packetReceiveLoop script (stream.drop bytes.length) (packet.store offset bytes)
          (offset + bytes.length)
    else some (.ofWire packet, ⟨stream, result :: script⟩)

/-- `packet_receive` into a packet with the given previous contents. -/
def packetReceive (socket : Socket) (packet : TizcordPacket) : Option (ReceiveResult × Socket) :=
  packetReceiveLoop socket.script socket.stream packet 0

/-- The receive buffer and offset of one connection. -/
structure ReceiveBuffer where
  bytes : TizcordPacket
  offset : Nat

/-- The buffer of a node cleared by `memset`. -/
def ReceiveBuffer.fresh : ReceiveBuffer := ⟨Image.zero, 0⟩

/-- What `packet_receive_partial` returns: -1 with an `errno`, 0, or 1 with a packet. -/
inductive PartialResult where
  | failed (errno : Errno)
  | again
  | received (packet : TizcordPacket)

def PartialResult.packet? : PartialResult → Option TizcordPacket
  | .received packet => some packet
  | _ => none

/-- What follows the loop of `packet_receive_partial` when the buffer is full. A refused packet
leaves the offset where it is. -/
def partialComplete (socket : Socket) (buffer : ReceiveBuffer) :
    PartialResult × Socket × ReceiveBuffer :=
  match decodePacket buffer.bytes with
  | none => (.failed .protocol, socket, buffer)
  | some packet => (.received packet, socket, { buffer with offset := 0 })

/-- The loop of the receiver that does not wait. Past the end of the script `recv` finds nothing. -/
def packetReceivePartialLoop :
    List RecvResult → List UInt8 → ReceiveBuffer → PartialResult × Socket × ReceiveBuffer
  | [], stream, buffer =>
    if buffer.offset < packetSize then (.again, ⟨stream, []⟩, buffer)
    else partialComplete ⟨stream, []⟩ buffer
  | result :: script, stream, buffer =>
    if buffer.offset < packetSize then
      match recv result stream (packetSize - buffer.offset) with
      | .interrupted => packetReceivePartialLoop script stream buffer
      | .again => (.again, ⟨stream, script⟩, buffer)
      | .closed =>
        (.failed (if buffer.offset = 0 then .clear else .connectionReset), ⟨stream, script⟩, buffer)
      | .failed errno => (.failed errno, ⟨stream, script⟩, buffer)
      | .data bytes =>
        packetReceivePartialLoop script (stream.drop bytes.length)
          ⟨buffer.bytes.store buffer.offset bytes, buffer.offset + bytes.length⟩
    else partialComplete ⟨stream, result :: script⟩ buffer

def packetReceivePartial (socket : Socket) (buffer : ReceiveBuffer) :
    PartialResult × Socket × ReceiveBuffer :=
  packetReceivePartialLoop socket.script socket.stream buffer

end Tizcord
