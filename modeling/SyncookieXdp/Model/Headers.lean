import SyncookieXdp.Lib.Buffer

/-!
# Header layouts

The structures of `headers.h`: the connection key and the offsets at which the packed
Ethernet, IPv4 and TCP structures place their members. Bit-fields are listed as the
little-endian BPF target allocates them, from the least significant bit of each octet.
-/

namespace SyncookieXdp
open Lib

structure ConnectionT where
  srcAddr : BitVec 32
  dstAddr : BitVec 32
  srcPort : BitVec 16
  dstPort : BitVec 16
deriving DecidableEq, Repr

abbrev Key := Vector Byte 12

/-- The twelve octets of a `connection_t` in memory. -/
def ConnectionT.bytes (c : ConnectionT) : Key :=
  #v[octet c.srcAddr 0, octet c.srcAddr 1, octet c.srcAddr 2, octet c.srcAddr 3,
    octet c.dstAddr 0, octet c.dstAddr 1, octet c.dstAddr 2, octet c.dstAddr 3,
    octet c.srcPort 0, octet c.srcPort 1, octet c.dstPort 0, octet c.dstPort 1]

structure Member (w : Nat) where
  offset : Nat

/-- A bit-field member of `w` bits inside one octet of a packed structure. -/
structure BitMember (w : Nat) where
  octet : Nat
  lsb : Nat

namespace EthernetT

@[simp] def size : Nat := 14
@[simp] def dstAddr : Member 48 := ⟨0⟩
@[simp] def srcAddr : Member 48 := ⟨6⟩
@[simp] def etherType : Member 16 := ⟨12⟩

end EthernetT

namespace Ipv4T

@[simp] def size : Nat := 20
@[simp] def protocol : Member 8 := ⟨9⟩
@[simp] def srcAddr : Member 32 := ⟨12⟩
@[simp] def dstAddr : Member 32 := ⟨16⟩

end Ipv4T

namespace TcpT

@[simp] def size : Nat := 20
@[simp] def srcPort : Member 16 := ⟨0⟩
@[simp] def dstPort : Member 16 := ⟨2⟩
@[simp] def seqNo : Member 32 := ⟨4⟩
@[simp] def ackNo : Member 32 := ⟨8⟩
@[simp] def dataOffset : BitMember 4 := ⟨12, 0⟩
@[simp] def res : BitMember 4 := ⟨12, 4⟩
@[simp] def cwr : BitMember 1 := ⟨13, 0⟩
@[simp] def ece : BitMember 1 := ⟨13, 1⟩
@[simp] def urg : BitMember 1 := ⟨13, 2⟩
@[simp] def ack : BitMember 1 := ⟨13, 3⟩
@[simp] def psh : BitMember 1 := ⟨13, 4⟩
@[simp] def rst : BitMember 1 := ⟨13, 5⟩
@[simp] def syn : BitMember 1 := ⟨13, 6⟩
@[simp] def fin : BitMember 1 := ⟨13, 7⟩

end TcpT

/-- A header pointer: an offset from `ctx->data`, or `none` for `NULL`. -/
abbrev HdrPtr := Option Nat

structure HeadersT where
  ether : HdrPtr
  ipv4 : HdrPtr
  tcp : HdrPtr
deriving DecidableEq, Repr

structure HdrCursor where
  pos : Nat
deriving DecidableEq, Repr

end SyncookieXdp
