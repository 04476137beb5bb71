import SyncookieXdp.Model.Headers

/-!
# The program's environment

What one invocation of the XDP program can see and change: the frame, the two BPF maps
of the object file and the calls it makes. An access through a header pointer is checked
octet by octet; one that leaves `[data, data_end)` or goes through `NULL` stops the
program with a fault. Maps are a parameter, since the kernel implements them.
-/

namespace SyncookieXdp
open Lib

inductive XdpAction where
  | aborted | drop | pass | tx | redirect
deriving DecidableEq, Repr

/-- The numeric value of an action, which is also its key in `xdp_stats_map`. -/
def XdpAction.key : XdpAction → Nat
  | .aborted => 0
  | .drop => 1
  | .pass => 2
  | .tx => 3
  | .redirect => 4

/-- An access through a header pointer that is not inside the packet. -/
inductive Fault where
  | null
  | outside (offset : Nat)
deriving DecidableEq, Repr

inductive Call where
  | controller (hdr : HeadersT)
  | handleSyn
  | handleAck
  | mapLookup (key : Key)
  | mapUpdate (key : Key)
deriving DecidableEq, Repr

structure Datarec where
  rxPackets : BitVec 64
  rxBytes : BitVec 64
deriving DecidableEq, Repr

/-- The per-CPU array `xdp_stats_map`: one record for each CPU and key. -/
abbrev StatsMap := Nat → Nat → Datarec

/-- The kernel's side of a map with twelve-octet keys and one-octet values. An update
returns zero or a negative error, and a refused update leaves the map as it was. -/
structure BpfMap (T : Type) where
  lookup : T → Key → Option Byte
  update : T → Key → Byte → T × Int
  refused : ∀ t k v, (update t k v).2 ≠ 0 → (update t k v).1 = t

structure XdpState (T : Type) where
  frame : List Byte
  connectionsTable : T
  xdpStatsMap : StatsMap
  calls : List Call

/-- A computation of the XDP program; the state reached survives a fault. -/
abbrev XdpM (T : Type) := EStateM Fault (XdpState T)

variable {T : Type}

def logCall (c : Call) : XdpM T Unit :=
  modify (fun s => { s with calls := s.calls ++ [c] })

def readByte (p : HdrPtr) (offset : Nat) : XdpM T Byte := fun s =>
  match p with
  | none => .error .null s
  | some a =>
    match s.frame[a + offset]? with
    | none => .error (.outside (a + offset)) s
    | some b => .ok b s

def writeByte (p : HdrPtr) (offset : Nat) (b : Byte) : XdpM T Unit := fun s =>
  match p with
  | none => .error .null s
  | some a =>
    if a + offset < s.frame.length then
      .ok () { s with frame := s.frame.set (a + offset) b }
    else .error (.outside (a + offset)) s

def readBytes (p : HdrPtr) (offset : Nat) : Nat → XdpM T (List Byte)
  | 0 => return []
  | n + 1 => do
    let b ← readByte p offset
    let bs ← readBytes p (offset + 1) n
    return b :: bs

def writeBytes (p : HdrPtr) (offset : Nat) : List Byte → XdpM T Unit
  | [] => return ()
  | b :: bs => do
    writeByte p offset b
    writeBytes p (offset + 1) bs

def load16 (p : HdrPtr) (m : Member 16) : XdpM T (BitVec 16) := do
  let b₀ ← readByte p m.offset
  let b₁ ← readByte p (m.offset + 1)
  return le16 b₀ b₁

def load32 (p : HdrPtr) (m : Member 32) : XdpM T (BitVec 32) := do
  let b₀ ← readByte p m.offset
  let b₁ ← readByte p (m.offset + 1)
  let b₂ ← readByte p (m.offset + 2)
  let b₃ ← readByte p (m.offset + 3)
  return le32 b₀ b₁ b₂ b₃

def store16 (p : HdrPtr) (m : Member 16) (v : BitVec 16) : XdpM T Unit :=
  writeBytes p m.offset [octet v 0, octet v 1]

def store32 (p : HdrPtr) (m : Member 32) (v : BitVec 32) : XdpM T Unit :=
  writeBytes p m.offset [octet v 0, octet v 1, octet v 2, octet v 3]

def loadBits {w : Nat} (p : HdrPtr) (m : BitMember w) : XdpM T (BitVec w) := do
  let b ← readByte p m.octet
  return bitsAt b m.lsb w

def storeBits {w : Nat} (p : HdrPtr) (m : BitMember w) (v : BitVec w) : XdpM T Unit := do
  let b ← readByte p m.octet
  writeByte p m.octet (withBits b m.lsb v)

/-- `bpf_map_lookup_elem(&connections_table, key)`; `none` stands for `NULL`. -/
def bpfMapLookupElem (M : BpfMap T) (key : Key) : XdpM T (Option Byte) := do
  logCall (.mapLookup key)
  return M.lookup (← get).connectionsTable key

def bpfMapUpdateElem (M : BpfMap T) (key : Key) (value : Byte) : XdpM T Int := do
  logCall (.mapUpdate key)
  let s ← get
  let r := M.update s.connectionsTable key value
  set { s with connectionsTable := r.1 }
  return r.2

end SyncookieXdp
