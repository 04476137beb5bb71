import SyncookieXdp.Lib.Ownership
import SyncookieXdp.Model.Btf
import SyncookieXdp.Model.Loader

/-!
# Loading an object into the kernel

`bpf_prog_load_xattr` of libbpf from the path of a file to the object whose maps and programs are
in the kernel, with each call that opens or closes a descriptor. BTF is read and given to the kernel
as the file is opened. What is left out is its use for maps and programs, so that of what comes
after the opening only files without BTF are modelled in full.
-/

namespace SyncookieXdp.ObjectFile
open Lib

/-! ### Calls -/

/-- A call and its answer. A descriptor is a number that is not negative. -/
inductive Call where
  | openFile (fd : Int)
  | btfLoad (fd : Int)
  | mapCreate (name : Option CString) (definition : BpfMapDef) (fd : Int)
  | progLoad (type : Nat) (name : Option CString) (insns : List BpfInsn) (fd : Int)
  | malloc (granted : Bool)
  | close (fd : Int)
deriving DecidableEq

/-- What the kernel and the allocator answer, which may depend on all calls before. The second
part of the answer to `progLoad` is whether the verifier's log has any text. Error numbers are not
above `MAX_ERRNO`. -/
structure Host where
  openFile : List Call → Int
  openFile_errno : ∀ calls, -4095 ≤ openFile calls
  btfLoad : List Call → Int
  mapCreate : List Call → Int
  progLoad : List Call → Int × Bool
  malloc : List Call → Bool

abbrev LoadM := StateM (List Call)

/-- What `libelf` makes of the file at a path, unless `elf_begin` fails. -/
structure ElfFile where
  elf : Option Elf

def errNoMemory : Int := -12

def bpfProgTypeSocketFilter : Nat := 1
def bpfProgTypeKprobe : Nat := 2
def bpfProgTypeXdp : Nat := 6

def bpfMaxInsns : Nat := 4096

def close (fd : Int) : LoadM Unit := record (fun _ => ()) (fun _ => .close fd)

/-- The value that is left in the variable. -/
def zclose (fd : Int) : LoadM Int := do
  if fd ≥ 0 then
    close fd
  return -1

section

variable (host : Host)

def malloc : LoadM Bool := record host.malloc .malloc

def bpfCreateMapXattr (name : Option CString) (definition : BpfMapDef) : LoadM Int :=
  record host.mapCreate (.mapCreate name definition)

/-- With a buffer for the log but no length, or the other way around, there is no call at all. -/
def bpfLoadProgramXattr (type : Nat) (name : Option CString) (insns : List BpfInsn) (logBuf : Bool) (logBufSz : Nat) :
    LoadM (Int × Bool) :=
  if logBuf ≠ decide (logBufSz ≠ 0) then return (errInval, false)
  else record host.progLoad (fun answer => .progLoad type name insns answer.1)

/-! ### Maps -/

/-- Zero, or an error code, and what has become of the object. -/
def bpfObjectProbeName (obj : BpfObject) : LoadM (Int × BpfObject) := do
  let insns : List BpfInsn := [⟨0xb7, 0, 0, 0, 0⟩, ⟨0x95, 0, 0, 0, 0⟩]
  let (ret, _) ← bpfLoadProgramXattr host bpfProgTypeSocketFilter none insns false 0
  if ret < 0 then
    return (ret, obj)
  close ret
  let (ret, _) ← bpfLoadProgramXattr host bpfProgTypeSocketFilter (some ⟨CString.ascii "test", by decide⟩)
    insns false 0
  if ret ≥ 0 then
    close ret
    return (0, { obj with capsName := true })
  return (0, obj)

def zcloseMap (map : BpfMap) : LoadM BpfMap := do
  let fd ← zclose map.fd
  return { map with fd := fd }

/-- A map that has a descriptor already is left alone. `done` holds the maps before. -/
def createMapsFrom (capsName : Bool) (done : List BpfMap) : List BpfMap → LoadM (Int × List BpfMap)
  | [] => return (0, done)
  | map :: maps =>
    if map.fd ≥ 0 then createMapsFrom capsName (done ++ [map]) maps
    else do
      let fd ← bpfCreateMapXattr host (if capsName then some map.name else none) map.definition
      if fd < 0 then
        let done ← done.mapM zcloseMap
        return (fd, done ++ { map with fd := fd } :: maps)
      createMapsFrom capsName (done ++ [{ map with fd := fd }]) maps

def bpfObjectCreateMaps (obj : BpfObject) : LoadM (Int × BpfObject) := do
  let (err, maps) ← createMapsFrom host obj.capsName [] obj.maps
  return (err, { obj with maps := maps })

/-! ### Programs -/

/-- The descriptor, or an error code. -/
def loadProgram (name : Option CString) (insns : List BpfInsn) : LoadM (Except Int Int) := do
  if insns = [] then
    return .error errInval
  let logBuf ← malloc host
  -- the length is passed also without a buffer
  let (ret, logged) ← bpfLoadProgramXattr host bpfProgTypeXdp name insns logBuf (256 * 1024)
  if ret ≥ 0 then
    return .ok ret
  if logBuf && logged then
    return .error (-libbpfErrnoVerify)
  if insns.length ≥ bpfMaxInsns then
    return .error (-libbpfErrnoProg2big)
  -- it may be of the wrong type
  let (fd, _) ← bpfLoadProgramXattr host bpfProgTypeKprobe name insns false 0
  if fd ≥ 0 then
    close fd
    return .error (-libbpfErrnoProgtype)
  return .error (if logBuf then -libbpfErrnoKver else -libbpfErrnoLoad)

/-- The instructions are freed whatever comes of it. -/
def bpfProgramLoad (capsName : Bool) (prog : BpfProgram) : LoadM (Int × BpfProgram) := do
  if prog.fds = [] then
    let granted ← malloc host
    if !granted then
      return (errNoMemory, prog)
  let fds := if prog.fds = [] then [-1] else prog.fds
  match ← loadProgram host (if capsName then some prog.name else none) prog.insns with
  | .error err => return (err, { prog with fds := fds, insns := [] })
  | .ok fd => return (0, { prog with fds := fds.set 0 fd, insns := [] })

def bpfProgramIsFunctionStorage (obj : BpfObject) (prog : BpfProgram) : Bool :=
  decide (prog.idx = obj.textShndx) && obj.hasPseudoCalls

def loadProgsFrom (obj : BpfObject) (done : List BpfProgram) :
    List BpfProgram → LoadM (Int × List BpfProgram)
  | [] => return (0, done)
  | prog :: progs =>
    if bpfProgramIsFunctionStorage obj prog then loadProgsFrom obj (done ++ [prog]) progs
    else do
      let (err, prog) ← bpfProgramLoad host obj.capsName prog
      if err ≠ 0 then
        return (err, done ++ prog :: progs)
      loadProgsFrom obj (done ++ [prog]) progs

def bpfObjectLoadProgs (obj : BpfObject) : LoadM (Int × BpfObject) := do
  let (err, programs) ← loadProgsFrom host obj [] obj.programs
  return (err, { obj with programs := programs })

/-! ### Objects -/

/-- Without BTF a program has no `btf_fd`. -/
def bpfProgramUnload (prog : BpfProgram) : LoadM BpfProgram := do
  let _ ← prog.fds.mapM zclose
  return { prog with fds := [] }

def bpfObjectUnload (obj : BpfObject) : LoadM BpfObject := do
  let maps ← obj.maps.mapM zcloseMap
  let programs ← obj.programs.mapM bpfProgramUnload
  return { obj with maps := maps, programs := programs }

def btfFree : Option Int → LoadM Unit
  | none => return ()
  | some fd => close fd

/-- The file has been closed before. -/
def bpfObjectClose (obj : BpfObject) : LoadM Unit := do
  let obj ← bpfObjectUnload obj
  btfFree obj.btf

/-- The three steps of loading, each in what the one before has left. -/
def loadSteps (obj : BpfObject) : LoadM (Option Failure × BpfObject) := do
  let (err, obj) ← bpfObjectProbeName host obj
  if err ≠ 0 then
    return (some (.errno err), obj)
  let (err, obj) ← bpfObjectCreateMaps host obj
  if err ≠ 0 then
    return (some (.errno err), obj)
  match bpfObjectRelocate obj with
  | .error err => return (some err, obj)
  | .ok obj =>
    let (err, obj) ← bpfObjectLoadProgs host obj
    return (if err ≠ 0 then some (.errno err) else none, obj)

def bpfObjectLoad (obj : BpfObject) : LoadM (Option Failure × BpfObject) := do
  if obj.loaded then
    return (some (.errno errInval), obj)
  let (err, obj) ← loadSteps host { obj with loaded := true }
  match err with
  | some (.errno _) =>
    let obj ← bpfObjectUnload obj
    return (err, obj)
  | _ => return (err, obj)

/-! ### Opening -/

/-- The second call asks for a log. -/
def bpfLoadBtf : LoadM Int := do
  let fd ← record host.btfLoad .btfLoad
  if fd < 0 then record host.btfLoad .btfLoad else return fd

def btfLoad : LoadM (Option Int) := do
  let logBuf ← malloc host
  if !logBuf then
    return none
  let fd ← bpfLoadBtf host
  return if fd < 0 then none else some fd

/-- BTF that cannot be used is ignored. What an earlier section has left in `obj->btf` is lost. -/
def collectBtf (btf : Option Int) (scn : Scn) : LoadM (Except Failure (Option Int)) :=
  if scn.name = some btfElfSec then
    match scn.data.map btfNew with
    | some (.ok _) => .ok <$> btfLoad host
    | some (.error .fault) => return .error .fault
    | _ => return .ok none
  else return .ok btf

/-- The last section `.BTF.ext`, after all sections. -/
def checkBtfExt (elf : Elf) (efile : Efile) (btf : Option Int) : Except Failure Unit :=
  if efile.strtabidx = 0 ∨ efile.strtabidx ≥ elf.scns.length ∨ btf = none then .ok ()
  else
    match (elf.scns.filter (fun scn => scn.name = some btfExtElfSec)).getLast?.bind Scn.data with
    | none => .ok ()
    | some data =>
      match btfExtNew data with
      | .error .fault => .error .fault
      | _ => .ok ()

/-- The BTF of the sections that are read, which end at the first one that is refused. -/
def collectBtfs (elf : Elf) (idx : Nat) (st : BpfObject × Efile) (btf : Option Int) :
    List Scn → LoadM (Except Failure (Option Int))
  | [] => return (checkBtfExt elf st.2 btf).map (fun _ => btf)
  | scn :: scns =>
    match collectScn elf idx st scn with
    | .error _ => return .ok btf
    | .ok st => do
      match ← collectBtf host btf scn with
      | .error e => return .error e
      | .ok btf => collectBtfs elf (idx + 1) st btf scns

/-- BTF has no effect on what else is read of the file. -/
def readBtf (elf : Elf) : LoadM (Except Failure (Option Int)) :=
  match bpfObjectElfInit elf >>= bpfObjectCheckEndianness with
  | .error _ => return .ok none
  | .ok _ => if elf.rawNames then collectBtfs host elf 1 (newObject, ⟨none, 0, []⟩) none elf.scns else return .ok none

/-- Without `elf_begin` nothing closes the file again. -/
def bpfObjectOpen (file : ElfFile) : LoadM (Except Failure BpfObject) := do
  let fd ← record host.openFile .openFile
  if fd < 0 then
    return .error (.errno fd)
  match file.elf with
  | none => return .error (.errno (-libbpfErrnoLibelf))
  | some elf =>
    match ← readBtf host elf with
    | .error e => return .error e
    | .ok btf =>
      close fd
      match openElf elf with
      | .error e =>
        btfFree btf
        return .error e
      | .ok obj => return .ok { obj with btf := btf }

/-! ### From the path to the program -/

/-- `IS_ERR_OR_NULL` of the pointer made of an error code. -/
def isErrOrNull (code : Int) : Bool := decide (-4095 ≤ code ∧ code ≤ 0)

/-- The program that `bpf_program__next` begins with. -/
def firstProg (obj : BpfObject) : Option BpfProgram :=
  obj.programs.find? (fun prog => !bpfProgramIsFunctionStorage obj prog)

def bpfProgramFd (prog : BpfProgram) : Int :=
  match prog.fds with
  | [] => errInval
  | fd :: _ => if fd < 0 then errNoEntry else fd

/-- The object and the descriptor of its first program. -/
def bpfProgLoadXattr (file : ElfFile) : LoadM (Except Failure (BpfObject × Int)) := do
  match ← bpfObjectOpen host file with
  | .error .fault => return .error .fault
  | .error (.errno code) =>
    -- a code with the wrong sign is taken for the address of an object
    return .error (if isErrOrNull code then .errno errNoEntry else .fault)
  | .ok obj =>
    if (firstProg obj).isNone then
      bpfObjectClose obj
      return .error (.errno errNoEntry)
    let (err, obj) ← bpfObjectLoad host obj
    match err with
    | some .fault => return .error .fault
    | some (.errno _) =>
      bpfObjectClose obj
      return .error (.errno errInval)
    | none => return .ok (obj, ((firstProg obj).map bpfProgramFd).getD errInval)

end

/-! ### The loader -/

/-- The object as the commands see it. Its maps are known by their descriptors. -/
def BpfObject.handed (obj : BpfObject) : SyncookieXdp.BpfObject Int where
  programs := obj.programs.map (fun prog => ⟨some prog.sectionName, prog.idx.toNat, prog.fds⟩)
  textShndx := obj.textShndx.toNat
  hasPseudoCalls := obj.hasPseudoCalls
  maps := obj.maps.map (fun map => ⟨map.name, map.fd⟩)

/-- `load_bpf_object_file`, of a file that `libbpf` survives. -/
def loadBpfObjectFile (host : Host) (files : List Byte → ElfFile) (filename : List Byte) (_ifindex : BitVec 32) :
    Option (SyncookieXdp.BpfObject Int) :=
  match ((bpfProgLoadXattr host (files filename)).run []).1 with
  | .error _ => none
  | .ok (obj, _) => some obj.handed

end SyncookieXdp.ObjectFile
