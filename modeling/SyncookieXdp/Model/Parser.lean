import SyncookieXdp.Model.Kernel

/-!
# Header parsers

`parser.h`. Each parser checks that its header fits before `data_end`, advances the
cursor, stores the header pointer through its out parameter unless that is `NULL`, and
returns the number that identifies the next header, or `-1` when the header does not fit.
-/

namespace SyncookieXdp
open Lib

variable {T : Type}

/-- The common body of the parsers of fixed-size headers. The out parameter is `none`
when the caller passes `NULL` and otherwise holds the pointer stored there before. -/
def parseHdr (size : Nat) (nextHeader : HdrPtr → XdpM T Int) (nh : HdrCursor) (dataEnd : Nat)
    (out : Option HdrPtr) : XdpM T (Int × HdrCursor × Option HdrPtr) := do
  let ptr := nh.pos
  if ptr + size > dataEnd then
    return (-1, nh, out)
  let nh : HdrCursor := ⟨ptr + size⟩
  let out := out.map (fun _ => some ptr)
  let next ← nextHeader (some ptr)
  return (next, nh, out)

def parseEther (nh : HdrCursor) (dataEnd : Nat) (etherhdr : Option HdrPtr) :
    XdpM T (Int × HdrCursor × Option HdrPtr) :=
  parseHdr EthernetT.size
    (fun ptr => do
      let etherType ← load16 ptr EthernetT.etherType
      return (etherType.toNat : Int))
    nh dataEnd etherhdr

def parseIpv4 (nh : HdrCursor) (dataEnd : Nat) (iphdr : Option HdrPtr) :
    XdpM T (Int × HdrCursor × Option HdrPtr) :=
  parseHdr Ipv4T.size
    (fun ptr => do
      let protocol ← readByte ptr Ipv4T.protocol.offset
      return (protocol.toNat : Int))
    nh dataEnd iphdr

def parseTcphdr (nh : HdrCursor) (dataEnd : Nat) (tcphdr : Option HdrPtr) :
    XdpM T (Int × HdrCursor × Option HdrPtr) :=
  parseHdr TcpT.size (fun _ => return 0) nh dataEnd tcphdr

end SyncookieXdp
