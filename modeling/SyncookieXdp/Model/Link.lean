import SyncookieXdp.Model.Defines

/-!
# Attaching to an interface

`xdp_link_attach` and `xdp_link_detach` of `common_user_bpf_xdp.c` on top of the two netlink
requests of libbpf. The kernel keeps one optional program for each mode of an interface. A
request fails with a negative error and changes nothing, or it succeeds.
-/

namespace SyncookieXdp

/-! ### The interface -/

inductive XdpMode where
  | native | generic | hardware
deriving DecidableEq, Repr

/-- A loaded program. Zero is not the number of a program. -/
structure XdpProg where
  id : BitVec 32
  id_ne_zero : id ≠ 0
deriving DecidableEq, Repr

abbrev Interface := XdpMode → Option XdpProg

/-- A request to the kernel as the two libbpf calls make it. -/
inductive LinkRequest where
  | getLink
  | setLink (fd : Int) (flags : BitVec 32)
deriving DecidableEq, Repr

/-- What the calls depend on: the programs behind the descriptors of the process, whether the
driver supports native mode, and the kernel's answer to each request, negative for a failure. -/
structure LinkEnv where
  progOf : Int → XdpProg
  driverXdp : Bool
  results : Nat → Int

structure LinkState where
  iface : Interface
  requests : List LinkRequest

abbrev LinkM := StateM LinkState

namespace LinkEnv

variable (env : LinkEnv)

/-- The slot that flags name. Without a mode bit it is the driver's if it has one, and more
than one mode bit is refused. -/
def slotOf (flags : BitVec 32) : Option XdpMode :=
  let modes := flags &&& xdpFlagsModes
  if modes = 0 then some (if env.driverXdp then .native else .generic)
  else if modes = xdpFlagsSkbMode then some .generic
  else if modes = xdpFlagsDrvMode then some .native
  else if modes = xdpFlagsHwMode then some .hardware
  else none

/-- The program a descriptor stands for; `-1` stands for none. -/
def progAt (fd : Int) : Option XdpProg := if fd < 0 then none else some (env.progOf fd)

end LinkEnv

/-- Sends a request and receives the kernel's answer to it. -/
def request (env : LinkEnv) (r : LinkRequest) : LinkM Int := do
  let s ← get
  set { s with requests := s.requests ++ [r] }
  return env.results s.requests.length

def bpfSetLinkXdpFd (env : LinkEnv) (fd : Int) (flags : BitVec 32) : LinkM Int := do
  let ret ← request env (.setLink fd flags)
  match env.slotOf flags with
  | none => return errInval
  | some mode =>
    if ret < 0 then
      return ret
    modify (fun s => { s with iface := Function.update s.iface mode (env.progAt fd) })
    return 0

/-! ### The query -/

/-- `IFLA_XDP_ATTACHED` as the kernel reports it. -/
inductive XdpAttached where
  | none | drv | skb | hw | multi
deriving DecidableEq, Repr

inductive XdpIdAttr where
  | unspec | progId | drvProgId | hwProgId | skbProgId
deriving DecidableEq, Repr

def xdpAttached (i : Interface) : XdpAttached :=
  match i .native, i .generic, i .hardware with
  | none, none, none => .none
  | some _, none, none => .drv
  | none, some _, none => .skb
  | none, none, some _ => .hw
  | _, _, _ => .multi

/-- The value of an attribute in the kernel's report. `IFLA_XDP_PROG_ID` is there only if
exactly one mode is in use. -/
def xdpIdValue (i : Interface) : XdpIdAttr → Option (BitVec 32)
  | .unspec => none
  | .progId =>
    if xdpAttached i = .multi then none
    else ((i .native).or ((i .generic).or (i .hardware))).map XdpProg.id
  | .drvProgId => (i .native).map XdpProg.id
  | .hwProgId => (i .hardware).map XdpProg.id
  | .skbProgId => (i .generic).map XdpProg.id

def getXdpIdAttr (mode : XdpAttached) (flags : BitVec 32) : XdpIdAttr :=
  if mode ≠ .multi then .progId
  else if flags &&& xdpFlagsDrvMode ≠ 0 then .drvProgId
  else if flags &&& xdpFlagsHwMode ≠ 0 then .hwProgId
  else if flags &&& xdpFlagsSkbMode ≠ 0 then .skbProgId
  else .unspec

def getXdpId (i : Interface) (flags : BitVec 32) : BitVec 32 :=
  let mode := xdpAttached i
  if mode = .none then 0
  else (xdpIdValue i (getXdpIdAttr mode flags)).getD 0

def bpfGetLinkXdpId (env : LinkEnv) (flags : BitVec 32) : LinkM (Except Int (BitVec 32)) := do
  if flags &&& ~~~xdpFlagsMask ≠ 0 then
    return .error errInval
  let flags := flags &&& (xdpFlagsSkbMode ||| xdpFlagsDrvMode ||| xdpFlagsHwMode)
  let mask := flags - 1
  if flags ≠ 0 ∧ flags &&& mask ≠ 0 then
    return .error errInval
  let ret ← request env .getLink
  if ret < 0 then
    return .error ret
  return .ok (getXdpId (← get).iface flags)

/-! ### Attach and detach -/

def xdpLinkAttach (env : LinkEnv) (xdpFlags : BitVec 32) (progFd : Int) : LinkM Nat := do
  let mut err ← bpfSetLinkXdpFd env progFd xdpFlags
  if err = errExist ∧ xdpFlags &&& xdpFlagsUpdateIfNoexist = 0 then
    let oldFlags := xdpFlags
    let xdpFlags := xdpFlags &&& ~~~xdpFlagsModes
    let xdpFlags := xdpFlags |||
      if oldFlags &&& xdpFlagsSkbMode ≠ 0 then xdpFlagsDrvMode else xdpFlagsSkbMode
    err ← bpfSetLinkXdpFd env (-1) xdpFlags
    if err = 0 then
      err ← bpfSetLinkXdpFd env progFd oldFlags
  if err < 0 then
    return exitFailXdp
  return exitOk

def xdpLinkDetach (env : LinkEnv) (xdpFlags : BitVec 32) (expectedProgId : BitVec 32) : LinkM Nat := do
  match ← bpfGetLinkXdpId env xdpFlags with
  | .error _ => return exitFailXdp
  | .ok currProgId =>
    if currProgId = 0 then
      return exitOk
    if expectedProgId ≠ 0 ∧ currProgId ≠ expectedProgId then
      return exitFail
    let err ← bpfSetLinkXdpFd env (-1) xdpFlags
    if err < 0 then
      return exitFailXdp
    return exitOk

end SyncookieXdp
