import SyncookieXdp.Lib.CString
import SyncookieXdp.Model.Defines

/-!
# The command line

`common_params.c`: the table of long options that is handed to `getopt_long`, and what each
option it delivers does to the configuration of the loader.
-/

namespace SyncookieXdp
open Lib

/-! ### The table of options -/

/-- `struct option`. The name of the entry that ends a table is null. -/
structure LongOption where
  name : Option CString
  hasArg : BitVec 32
  flag : BitVec 64
  val : BitVec 32
deriving DecidableEq

structure OptionWrapper where
  option : LongOption
  help : Option CString
  metavar : Option CString
  required : Bool

/-- A table of option wrappers has an entry without a name. -/
structure WrapperTable where
  entries : List OptionWrapper
  ends : ∃ w ∈ entries, w.option.name = none

/-- An allocated array of options. -/
structure OptionArray where
  size : Nat
  entry : Fin size → LongOption

def OptionArray.toList (a : OptionArray) : List LongOption := List.ofFn a.entry

/-- The loop that looks for the first entry without a name. -/
def numOptions : List OptionWrapper → Nat
  | [] => 0
  | w :: ws => if w.option.name.isSome then numOptions ws + 1 else 0

lemma numOptions_le (ws : List OptionWrapper) : numOptions ws ≤ ws.length := by
  induction ws with
  | nil => exact Nat.le_refl 0
  | cons w ws ih =>
    rw [numOptions, List.length_cons]
    split
    · exact Nat.succ_le_succ ih
    · exact Nat.zero_le _

/-- An array of fresh memory has some contents, if there is one. -/
abbrev Malloc := (n : Nat) → Option (Fin n → LongOption)

def optionWrappersToOptions (malloc : Malloc) (wrapper : WrapperTable) : Except Int OptionArray :=
  let num := numOptions wrapper.entries
  match malloc num with
  | none => .error (-1)
  | some new =>
    let copy (new : Fin num → LongOption) (i : Fin num) :=
      Function.update new i (wrapper.entries.get (i.castLE (numOptions_le _))).option
    .ok ⟨num, (List.finRange num).foldl copy new⟩

/-! ### The configuration -/

/-- The character arrays of `struct config`. -/
inductive Buffer where
  | ifnameBuf | redirectIfnameBuf | filename | progsec | srcMac | destMac
deriving DecidableEq, Repr

def Buffer.size : Buffer → Nat
  | .ifnameBuf | .redirectIfnameBuf => ifNamesize
  | .filename => 512
  | .progsec => 32
  | .srcMac | .destMac => 18

/-- The two pointers are null or point to an array of the record itself. -/
structure Config where
  xdpFlags : BitVec 32
  ifindex : BitVec 32
  ifname : Option Buffer
  ifnameBuf : Vector Byte ifNamesize
  redirectIfindex : BitVec 32
  redirectIfname : Option Buffer
  redirectIfnameBuf : Vector Byte ifNamesize
  doUnload : Bool
  filename : Vector Byte 512
  progsec : Vector Byte 32
  srcMac : Vector Byte 18
  destMac : Vector Byte 18

def Config.buffer (cfg : Config) : (b : Buffer) → Vector Byte b.size
  | .ifnameBuf => cfg.ifnameBuf
  | .redirectIfnameBuf => cfg.redirectIfnameBuf
  | .filename => cfg.filename
  | .progsec => cfg.progsec
  | .srcMac => cfg.srcMac
  | .destMac => cfg.destMac

/-- The configuration and the global `verbose`. -/
structure Params where
  cfg : Config
  verbose : Bool

def defaultFilename : CString := ⟨CString.ascii "syncookie.o", by decide⟩

/-- What the loader starts from. -/
def loaderParams : Params where
  cfg :=
    { xdpFlags := xdpFlagsUpdateIfNoexist ||| xdpFlagsDrvMode
      ifindex := -1
      ifname := none
      ifnameBuf := Vector.replicate ifNamesize 0
      redirectIfindex := 0
      redirectIfname := none
      redirectIfnameBuf := Vector.replicate ifNamesize 0
      doUnload := false
      filename := CString.strncpy 512 defaultFilename
      progsec := Vector.replicate 32 0
      srcMac := Vector.replicate 18 0
      destMac := Vector.replicate 18 0 }
  verbose := true

/-! ### The options -/

/-- What `getopt_long` delivers: a case of the switch with its `optarg`. -/
inductive Opt where
  | dev (arg : CString)
  | redirectDev (arg : CString)
  | autoMode
  | skbMode
  | nativeMode
  | offloadMode
  | force
  | unload
  | quiet
  | filename (arg : CString)
  | progsec (arg : CString)
  | srcMac (arg : CString)
  | destMac (arg : CString)
  | help
  | unknown
deriving DecidableEq

/-- `-A` only clears, the other modes set a flag after it. -/
def clearModes (flags : BitVec 32) : BitVec 32 := flags &&& ~~~xdpFlagsModes

section Parse

variable (ifNametoindex : List Byte → BitVec 32)

/-- The buffer and the index of an interface that is given by name. -/
def parseIfname (arg : CString) : Except Nat (Vector Byte ifNamesize × BitVec 32) :=
  if arg.length ≥ ifNamesize then .error exitFailOption
  else
    let buf := arg.strncpy ifNamesize
    let index := ifNametoindex (CString.read buf)
    if index = 0 then .error exitFailOption else .ok (buf, index)

def parseOption (p : Params) : Opt → Except Nat Params
  | .dev arg => do
    let (buf, index) ← parseIfname ifNametoindex arg
    .ok { p with cfg.ifname := some .ifnameBuf, cfg.ifnameBuf := buf, cfg.ifindex := index }
  | .redirectDev arg => do
    let (buf, index) ← parseIfname ifNametoindex arg
    .ok { p with
      cfg.redirectIfname := some .redirectIfnameBuf
      cfg.redirectIfnameBuf := buf
      cfg.redirectIfindex := index }
  | .autoMode => .ok { p with cfg.xdpFlags := clearModes p.cfg.xdpFlags }
  | .skbMode => .ok { p with cfg.xdpFlags := clearModes p.cfg.xdpFlags ||| xdpFlagsSkbMode }
  | .nativeMode => .ok { p with cfg.xdpFlags := clearModes p.cfg.xdpFlags ||| xdpFlagsDrvMode }
  | .offloadMode => .ok { p with cfg.xdpFlags := clearModes p.cfg.xdpFlags ||| xdpFlagsHwMode }
  | .force => .ok { p with cfg.xdpFlags := p.cfg.xdpFlags &&& ~~~xdpFlagsUpdateIfNoexist }
  | .unload => .ok { p with cfg.doUnload := true }
  | .quiet => .ok { p with verbose := false }
  -- no comparison with the length here, as there is for the two devices
  | .filename arg => .ok { p with cfg.filename := arg.strncpy 512 }
  | .progsec arg => .ok { p with cfg.progsec := arg.strncpy 32 }
  | .srcMac arg => .ok { p with cfg.srcMac := arg.strncpy 18 }
  | .destMac arg => .ok { p with cfg.destMac := arg.strncpy 18 }
  | .help | .unknown => .error exitFailOption

/-- The loop over the options that `getopt_long` delivers. An error is an exit of the process
with that code. -/
def parseCmdlineArgs (malloc : Malloc) (optionsWrapper : WrapperTable) (opts : List Opt)
    (p : Params) : Except Nat Params :=
  match optionWrappersToOptions malloc optionsWrapper with
  | .error _ => .error exitFailOption
  | .ok _ => opts.foldlM (parseOption ifNametoindex) p

end Parse

end SyncookieXdp
