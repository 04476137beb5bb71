import Mathlib.Data.List.TakeWhile
import SyncookieXdp.Model.Link
import SyncookieXdp.Model.Params
import SyncookieXdp.Model.Pinning
import SyncookieXdp.Model.Stats

/-!
# The two commands

`xdp_loader` and `xdp_stats` from the command line to their exit code, with
`load_bpf_and_xdp_attach` and `check_map_fd_info` of `common_user_bpf_xdp.c` and the functions
of libbpf that choose a program. Reading an object file and loading it into the kernel is a
parameter. A machine has interfaces by index and one pin directory for each interface name.
-/

namespace SyncookieXdp
open Lib

/-! ### Objects -/

structure BpfProgram where
  sectionName : Option CString
  idx : Nat
  fds : List Int

structure BpfObject (V : Type) where
  programs : List BpfProgram
  textShndx : Nat
  hasPseudoCalls : Bool
  maps : List (BpfObjectMap V)

section Libbpf

variable {V : Type} (obj : BpfObject V)

def bpfProgramIsFunctionStorage (prog : BpfProgram) : Bool :=
  decide (prog.idx = obj.textShndx) && obj.hasPseudoCalls

/-- The programs that `bpf_program__next` goes through. -/
def bpfObjectForEachProgram : List BpfProgram :=
  obj.programs.filter (fun prog => !bpfProgramIsFunctionStorage obj prog)

def bpfObjectFindProgramByTitle (title : List Byte) : Option BpfProgram :=
  (bpfObjectForEachProgram obj).find? (fun pos => pos.sectionName.any (fun name => name.bytes = title))

def bpfProgramFd (prog : BpfProgram) : Int :=
  match prog.fds with
  | [] => errInval
  | fd :: _ => if fd < 0 then errNoEntry else fd

end Libbpf

/-! ### The configuration as strings -/

namespace Config

variable (cfg : Config)

/-- The string at `filename`. The arrays after it follow without a gap, and an argument that
fills its array has no end of its own. -/
def filenameString : List Byte :=
  (cfg.filename.toList ++ cfg.progsec.toList ++ cfg.srcMac.toList ++ cfg.destMac.toList).takeWhile (· ≠ 0)

def progsecString : List Byte :=
  (cfg.progsec.toList ++ cfg.srcMac.toList ++ cfg.destMac.toList).takeWhile (· ≠ 0)

/-- The string at `ifname`, which `--dev` leaves with an end. -/
def ifnameString : IfName where
  name := ⟨(CString.read cfg.ifnameBuf).take (ifNamesize - 1), by
    intro b hb
    have hall := List.mem_takeWhile_imp (List.mem_of_mem_take hb)
    simpa using hall⟩
  short := by
    rw [CString.length, List.length_take]
    exact Nat.lt_of_le_of_lt (Nat.min_le_left ..) (by decide)

end Config

/-! ### The loader -/

structure Machine (V : Type) where
  ifaces : BitVec 32 → Interface
  pins : CString → PinDir V

/-- What one process meets. `bpfProgLoadXattr` gives the loaded object, unless it fails. -/
structure LoaderEnv (V : Type) where
  ifNametoindex : List Byte → BitVec 32
  malloc : Malloc
  longOptions : WrapperTable
  link : LinkEnv
  bpfProgLoadXattr : List Byte → BitVec 32 → Option (BpfObject V)

section

variable {V : Type} (env : LoaderEnv V)

def selectProgram (cfg : Config) (obj : BpfObject V) : Option BpfProgram :=
  if cfg.progsec[0] ≠ 0 then bpfObjectFindProgramByTitle obj cfg.progsecString
  else (bpfObjectForEachProgram obj).head?

/-- An error is an exit of the process with that code. -/
def loadBpfAndXdpAttach (cfg : Config) : LinkM (Except Nat (BpfObject V)) := do
  let offloadIfindex := if cfg.xdpFlags &&& xdpFlagsHwMode ≠ 0 then cfg.ifindex else 0
  match env.bpfProgLoadXattr cfg.filenameString offloadIfindex with
  | none => return .error exitFailBpf
  | some obj =>
    match selectProgram cfg obj with
    | none => return .error exitFailBpf
    | some prog =>
      let progFd := bpfProgramFd prog
      if progFd ≤ 0 then
        return .error exitFailBpf
      let err ← xdpLinkAttach env.link cfg.xdpFlags progFd
      if err ≠ 0 then
        return .error err
      return .ok obj

/-- `main` of `xdp_loader.c` after the command line has been read. -/
def loaderRun (cfg : Config) (s : Machine V) : Machine V × Nat :=
  if cfg.ifindex = -1 then (s, exitFailOption)
  else
    let iface := s.ifaces cfg.ifindex
    if cfg.doUnload then
      let (code, link) := (xdpLinkDetach env.link cfg.xdpFlags 0).run ⟨iface, []⟩
      ({ s with ifaces := Function.update s.ifaces cfg.ifindex link.iface }, code)
    else
      let (loaded, link) := (loadBpfAndXdpAttach env cfg).run ⟨iface, []⟩
      let s := { s with ifaces := Function.update s.ifaces cfg.ifindex link.iface }
      match loaded with
      | .error code => (s, code)
      | .ok obj =>
        let subdir := cfg.ifnameString
        let (dir, err) := pinMapsInBpfObject obj.maps subdir (s.pins subdir.name)
        let s := { s with pins := Function.update s.pins subdir.name dir }
        if err ≠ 0 then (s, err) else (s, exitOk)

def loaderMain (opts : List Opt) (s : Machine V) : Machine V × Nat :=
  match parseCmdlineArgs env.ifNametoindex env.malloc env.longOptions opts loaderParams with
  | .error code => (s, code)
  | .ok p => loaderRun env p.cfg s

end

/-! ### The statistics -/

structure BpfMapInfo where
  type : MapType
  keySize : BitVec 32
  valueSize : BitVec 32
  maxEntries : BitVec 32
deriving DecidableEq, Repr

/-- A zero in what is expected stands for anything. `info` is what the system call writes, unless
it fails. -/
def checkMapFdInfo (info : Option BpfMapInfo) (exp : BpfMapInfo) : Except Nat BpfMapInfo :=
  match info with
  | none => .error exitFailBpf
  | some info =>
    if exp.keySize ≠ 0 ∧ exp.keySize ≠ info.keySize then .error exitFail
    else if exp.valueSize ≠ 0 ∧ exp.valueSize ≠ info.valueSize then .error exitFail
    else if exp.maxEntries ≠ 0 ∧ exp.maxEntries ≠ info.maxEntries then .error exitFail
    else if exp.type ≠ .other 0 ∧ exp.type ≠ info.type then .error exitFail
    else .ok info

/-- What the statistics start from. -/
def statsParams : Params :=
  { loaderParams with cfg.xdpFlags := 0, cfg.filename := Vector.replicate 512 0 }

def statsMapExpect : BpfMapInfo := ⟨.other 0, 4, 16, BitVec.ofNat 32 xdpActionMax⟩

/-- `main` of `xdp_stats.c` up to `stats_poll`, with the map that is polled and its type. -/
def statsMain {V : Type} (env : LoaderEnv V) (getInfo : V → Option BpfMapInfo) (opts : List Opt)
    (s : Machine V) : Except Nat (V × MapType) :=
  match parseCmdlineArgs env.ifNametoindex env.malloc env.longOptions opts statsParams with
  | .error code => .error code
  | .ok p =>
    if p.cfg.ifindex = -1 then .error exitFailOption
    else
      -- `open_bpf_map_file`
      match s.pins p.cfg.ifnameString.name mapName with
      | none => .error exitFailBpf
      | some map =>
        match checkMapFdInfo (getInfo map) statsMapExpect with
        | .error err => .error err
        | .ok info => .ok (map, info.type)

end SyncookieXdp
