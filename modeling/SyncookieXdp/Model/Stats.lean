import SyncookieXdp.Model.Kernel

/-!
# Accounting per action

The accounting call offered to XDP programs by `xdp_stats_kern.h`, and the reading side of
`xdp_stats.c`. The records live in the per-CPU array `xdp_stats_map`: the kernel side sees
the record of its own CPU, and user space receives one record for each possible CPU.
-/

namespace SyncookieXdp
open Lib

def xdpActionMax : Nat := XdpAction.redirect.key + 1

/-! ### The kernel side -/

structure XdpMd where
  data : BitVec 32
  dataEnd : BitVec 32
deriving DecidableEq, Repr

namespace StatsMap

/-- `bpf_map_lookup_elem(&xdp_stats_map, &key)` on a CPU; `none` stands for `NULL`. -/
def lookup (m : StatsMap) (cpu key : Nat) : Option Datarec :=
  if key < xdpActionMax then some (m cpu key) else none

def store (m : StatsMap) (cpu key : Nat) (r : Datarec) : StatsMap := fun c k =>
  if c = cpu ∧ k = key then r else m c k

end StatsMap

def xdpStatsRecordAction (cpu : Nat) (ctx : XdpMd) (action : BitVec 32) (m : StatsMap) :
    StatsMap × BitVec 32 :=
  if action.toNat ≥ xdpActionMax then (m, BitVec.ofNat 32 XdpAction.aborted.key)
  else
    match m.lookup cpu action.toNat with
    | none => (m, BitVec.ofNat 32 XdpAction.aborted.key)
    | some r =>
      (m.store cpu action.toNat
        ⟨r.rxPackets + 1, r.rxBytes + (ctx.dataEnd - ctx.data).setWidth 64⟩, action)

namespace XdpProgKern

/-- The same call in `xdp_prog_kern.c`, which takes the length between 64-bit pointers. -/
def xdpStatsRecordAction (cpu : Nat) (ctx : XdpMd) (action : BitVec 32) (m : StatsMap) :
    StatsMap × BitVec 32 :=
  let dataEnd : BitVec 64 := ctx.dataEnd.setWidth 64
  let data : BitVec 64 := ctx.data.setWidth 64
  if action.toNat ≥ xdpActionMax then (m, BitVec.ofNat 32 XdpAction.aborted.key)
  else
    match m.lookup cpu action.toNat with
    | none => (m, BitVec.ofNat 32 XdpAction.aborted.key)
    | some r =>
      let bytes := dataEnd - data
      (m.store cpu action.toNat ⟨r.rxPackets + 1, r.rxBytes + bytes⟩, action)

end XdpProgKern

/-! ### The user side -/

inductive MapType where
  | array | percpuArray | other (n : BitVec 32)
deriving DecidableEq, Repr

/-- The system call behind `bpf_map_lookup_elem(fd, &key, values)`: the records it writes by
position, or `none` when it fails and writes nothing. -/
abbrev MapRead := Nat → Option (Nat → Datarec)

def StatsMap.read (m : StatsMap) : MapRead := fun key =>
  if key < xdpActionMax then some (fun cpu => m cpu key) else none

/-- `value` is what the caller's variable holds, which stays there when the lookup fails. -/
def mapGetValueArray (read : MapRead) (key : Nat) (value : Datarec) : Datarec :=
  match read key with
  | none => value
  | some values => values 0

def sumValues (values : Nat → Datarec) (nrCpus : Nat) : Datarec :=
  (List.range nrCpus).foldl
    (fun sum i => ⟨sum.rxPackets + (values i).rxPackets, sum.rxBytes + (values i).rxBytes⟩) ⟨0, 0⟩

def mapGetValuePercpuArray (read : MapRead) (nrCpus key : Nat) (value : Datarec) : Datarec :=
  match read key with
  | none => value
  | some values => sumValues values nrCpus

structure Record where
  timestamp : BitVec 64
  total : Datarec
deriving DecidableEq, Repr

/-- `now` is what `gettime` returns and `value` what the uninitialized local holds. -/
def mapCollect (read : MapRead) (nrCpus : Nat) (mapType : MapType) (key : Nat) (now : BitVec 64)
    (value : Datarec) (r : Record) : Record × Bool :=
  match mapType with
  | .array => (⟨now, mapGetValueArray read key value⟩, true)
  | .percpuArray => (⟨now, mapGetValuePercpuArray read nrCpus key value⟩, true)
  | .other _ => (⟨now, r.total⟩, false)

/-- `struct stats_record`: one record for each action. -/
abbrev StatsRecord := Fin xdpActionMax → Record

/-- One pass over the keys, with what `gettime` returns and what the local of `map_collect`
holds at each of the calls. -/
def statsCollect (read : MapRead) (nrCpus : Nat) (mapType : MapType)
    (now : Fin xdpActionMax → BitVec 64) (value : Fin xdpActionMax → Datarec)
    (statsRec : StatsRecord) : StatsRecord :=
  (List.finRange xdpActionMax).foldl
    (fun s key =>
      -- the result of `map_collect` is not looked at
      Function.update s key (mapCollect read nrCpus mapType key (now key) (value key) (s key)).1)
    statsRec

end SyncookieXdp
