import SyncookieXdp.Model.Parser
import SyncookieXdp.Model.Controller

/-!
# The XDP entry point

`syncookie.c`: the headers are parsed from the start of the frame, and only a frame
recognized as IPv4 carrying TCP reaches the controller.
-/

namespace SyncookieXdp
open Lib

variable {T : Type}

def ethPIp : Int := 0x0800

def ipprotoTcp : Int := 6

def syncookieFn (M : BpfMap T) (stack : StackImage) : XdpM T XdpAction := do
  let dataEnd := (← get).frame.length
  let nh : HdrCursor := ⟨0⟩
  let (nhType, nh, ether) ← parseEther nh dataEnd (some none)
  if nhType = ethPIp then
    let (nhType, nh, ipv4) ← parseIpv4 nh dataEnd (some none)
    if nhType = ipprotoTcp then
      -- the result of `parse_tcphdr` is not looked at
      let (_, _, tcp) ← parseTcphdr nh dataEnd (some none)
      controller M stack ⟨ether.join, ipv4.join, tcp.join⟩
    else
      return .pass
  else
    return .pass

/-- One frame handed to the program, with the CPU that runs it and the stack it runs on. -/
structure Delivery where
  cpu : Nat
  stack : StackImage
  frame : List Byte

structure Maps (T : Type) where
  connectionsTable : T
  xdpStatsMap : StatsMap

/-- What one invocation leaves behind. A fault leaves no verdict. -/
structure Outcome where
  verdict : Except Fault XdpAction
  frame : List Byte
  calls : List Call

def invoke (prog : XdpM T XdpAction) (maps : Maps T) (frame : List Byte) : Maps T × Outcome :=
  match prog.run ⟨frame, maps.connectionsTable, maps.xdpStatsMap, []⟩ with
  | .ok a s => (⟨s.connectionsTable, s.xdpStatsMap⟩, ⟨.ok a, s.frame, s.calls⟩)
  | .error e s => (⟨s.connectionsTable, s.xdpStatsMap⟩, ⟨.error e, s.frame, s.calls⟩)

end SyncookieXdp
