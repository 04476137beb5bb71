import SyncookieXdp.Model.Kernel

/-!
# The controller

`controller.c`: the decision taken for a TCP packet whose headers have been parsed, the
two in-place rewrites that answer a packet, and the cookie.
-/

namespace SyncookieXdp
open Lib

variable {T : Type}

/-- What the stack holds while `handle_ack` runs: the value of its parameter `connection`,
which is the address of the caller's `connection_t`, and the four octets that follow the
eight octets of that parameter. -/
structure StackImage where
  connection : BitVec 64
  above : BitVec 32
deriving DecidableEq, Repr

/-- The twelve octets found at `&connection` inside `handle_ack`, where `connection` is
the pointer parameter itself. -/
def StackImage.keyAtParameter (s : StackImage) : Key :=
  #v[octet s.connection 0, octet s.connection 1, octet s.connection 2, octet s.connection 3,
    octet s.connection 4, octet s.connection 5, octet s.connection 6, octet s.connection 7,
    octet s.above 0, octet s.above 1, octet s.above 2, octet s.above 3]

def insert : Byte := 0x61

def computeConnection (hdr : HeadersT) : XdpM T ConnectionT := do
  let srcAddr ← load32 hdr.ipv4 Ipv4T.srcAddr
  let dstAddr ← load32 hdr.ipv4 Ipv4T.dstAddr
  let srcPort ← load16 hdr.tcp TcpT.srcPort
  let dstPort ← load16 hdr.tcp TcpT.dstPort
  return ⟨srcAddr, dstAddr, srcPort, dstPort⟩

/-- The three `memcpy` calls on the Ethernet addresses, shared by both handlers. -/
def copyMacAddr (hdr : HeadersT) : XdpM T Unit := do
  let _tmpAddr ← readBytes hdr.ether EthernetT.srcAddr.offset 6
  let srcAddr ← readBytes hdr.ether EthernetT.srcAddr.offset 6
  writeBytes hdr.ether EthernetT.dstAddr.offset srcAddr
  let _tmpAddr ← readBytes hdr.ether EthernetT.dstAddr.offset 6
  return ()

def swapIpAddr (hdr : HeadersT) : XdpM T Unit := do
  let ipaddr ← load32 hdr.ipv4 Ipv4T.srcAddr
  let dstAddr ← load32 hdr.ipv4 Ipv4T.dstAddr
  store32 hdr.ipv4 Ipv4T.srcAddr dstAddr
  store32 hdr.ipv4 Ipv4T.dstAddr ipaddr

def handleSyn (hdr : HeadersT) (cookie : BitVec 32) : XdpM T XdpAction := do
  logCall .handleSyn
  copyMacAddr hdr
  swapIpAddr hdr
  let seqNo ← load32 hdr.tcp TcpT.seqNo
  store32 hdr.tcp TcpT.ackNo (seqNo + 1)
  store32 hdr.tcp TcpT.seqNo cookie
  storeBits hdr.tcp TcpT.ack 1
  -- the port passes through a 32-bit temporary
  let srcPort ← load16 hdr.tcp TcpT.srcPort
  let tcpport : BitVec 32 := srcPort.setWidth 32
  let dstPort ← load16 hdr.tcp TcpT.dstPort
  store16 hdr.tcp TcpT.srcPort dstPort
  store16 hdr.tcp TcpT.dstPort (tcpport.setWidth 16)
  return .tx

def handleAck (M : BpfMap T) (hdr : HeadersT) (stack : StackImage) : XdpM T XdpAction := do
  logCall .handleAck
  -- the result of the update is not looked at
  let _ ← bpfMapUpdateElem M stack.keyAtParameter insert
  copyMacAddr hdr
  swapIpAddr hdr
  let seqNo ← load32 hdr.tcp TcpT.seqNo
  let ackNo ← load32 hdr.tcp TcpT.ackNo
  store32 hdr.tcp TcpT.seqNo ackNo
  store32 hdr.tcp TcpT.ackNo (seqNo + 1)
  storeBits hdr.tcp TcpT.ack 1
  storeBits hdr.tcp TcpT.syn 0
  let tcpport ← load16 hdr.tcp TcpT.srcPort
  let dstPort ← load16 hdr.tcp TcpT.dstPort
  store16 hdr.tcp TcpT.srcPort dstPort
  store16 hdr.tcp TcpT.dstPort tcpport
  return .tx

def computeCookie (hdr : HeadersT) : XdpM T (BitVec 32) := do
  let srcPort ← load16 hdr.tcp TcpT.srcPort
  let auth : BitVec 32 := srcPort.setWidth 32 <<< 16
  let dstPort ← load16 hdr.tcp TcpT.dstPort
  let auth := auth ||| dstPort.setWidth 32
  let srcAddr ← load32 hdr.ipv4 Ipv4T.srcAddr
  let auth := auth ^^^ srcAddr
  let dstAddr ← load32 hdr.ipv4 Ipv4T.dstAddr
  let auth := auth ^^^ dstAddr
  return auth

/-- The test `hdr->tcp->field == 1`. -/
def isOne {w : Nat} (hdr : HeadersT) (m : BitMember w) : XdpM T Bool := do
  let v ← loadBits hdr.tcp m
  return v == 1#w

def acksCookie (hdr : HeadersT) (cookie : BitVec 32) : XdpM T Bool := do
  let ackNo ← load32 hdr.tcp TcpT.ackNo
  return ackNo - 1 == cookie

def controller (M : BpfMap T) (stack : StackImage) (hdr : HeadersT) : XdpM T XdpAction := do
  logCall (.controller hdr)
  let connection ← computeConnection hdr
  let res ← bpfMapLookupElem M connection.bytes
  if res.isSome then
    return .pass
  let cookie ← computeCookie hdr
  if ← (isOne hdr TcpT.syn <&&> isOne hdr TcpT.ack) <||>
      isOne hdr TcpT.res <||> isOne hdr TcpT.cwr <||>
      isOne hdr TcpT.ece <||> isOne hdr TcpT.urg <||>
      isOne hdr TcpT.psh <||> isOne hdr TcpT.rst <||>
      isOne hdr TcpT.fin then
    return .drop
  else if ← isOne hdr TcpT.syn then
    handleSyn hdr cookie
  else if ← isOne hdr TcpT.ack <&&> acksCookie hdr cookie then
    handleAck M hdr stack
  else
    return .drop

end SyncookieXdp
