import Mathlib.Data.List.Sort
import SyncookieXdp.Lib.Buffer
import SyncookieXdp.Model.Defines
import SyncookieXdp.Model.Relocation

/-!
# Reading an object file

`bpf_object__open_xattr` of libbpf from what `libelf` reads of a file to the object with its
programs, its maps and the collected relocations. What the `license` and the `version` say and
failures of the allocator are left out. The sections of BTF are passed over here.
-/

namespace SyncookieXdp.ObjectFile
open Lib

/-! ### What `libelf` reads -/

inductive ShType where
  | progbits | symtab | rel
  | other (type : Nat)
deriving DecidableEq, Repr

structure Shdr where
  type : ShType
  execinstr : Bool
  entsize : Nat
  link : Nat
  info : Int

/-- An entry of a section of relocations and the index of its symbol. -/
structure GElfRel where
  offset : BitVec 64
  sym : Nat

/-- The octets of a section, or the size of one that has none in the file (`SHT_NOBITS`): its
pointer to them is null. -/
inductive ElfData where
  | octets (buf : List Byte)
  | nobits (size : Nat)
deriving DecidableEq

def ElfData.size : ElfData → Nat
  | octets buf => buf.length
  | nobits size => size

/-- `memcpy` of octets of a section. -/
def ElfData.copy (data : ElfData) (off len : Nat) : Except Failure (List Byte) :=
  if len = 0 then .ok []
  else
    match data with
    | octets buf => if off + len ≤ buf.length then .ok ((buf.drop off).take len) else .error .fault
    | nobits _ => .error .fault

/-- A part is missing if `libelf` does not find it. The last two are the data as symbols and as
relocations. -/
structure Scn where
  hdr : Option Shdr
  name : Option CString
  data : Option ElfData
  syms : List (Option ElfSym)
  rels : List (Option GElfRel)

structure Ehdr where
  type : Nat
  machine : Nat
  encoding : Nat

/-- The sections are those after the first, which is empty. -/
structure Elf where
  ehdr : Option Ehdr
  rawNames : Bool
  scns : List Scn
  strptr : Nat → Nat → Option CString

/-- What is used of the file while the object is being read. -/
structure Efile where
  symbols : Option (List (Option ElfSym))
  strtabidx : Nat
  reloc : List (Shdr × List (Option GElfRel))

def licenseScn : CString := ⟨CString.ascii "license", by decide⟩

def versionScn : CString := ⟨CString.ascii "version", by decide⟩

def mapsScn : CString := ⟨CString.ascii "maps", by decide⟩

def btfElfSec : CString := ⟨CString.ascii ".BTF", by decide⟩

def btfExtElfSec : CString := ⟨CString.ascii ".BTF.ext", by decide⟩

def textScn : CString := ⟨CString.ascii ".text", by decide⟩

/-! ### Programs -/

def bpfInsnSize : Nat := 8

/-- The destination is in the lower half of its octet. -/
def insnAt (data : List Byte) (i : Nat) : BpfInsn where
  code := byteAt data i
  dstReg := bitsAt (byteAt data (i + 1)) 0 4
  srcReg := bitsAt (byteAt data (i + 1)) 4 4
  off := u16At data (i + 2)
  imm := u32At data (i + 4)

def bpfProgramInit (data : ElfData) (sectionName : CString) (idx : Int) : Except Failure BpfProgram :=
  if data.size < bpfInsnSize then .error (.errno errInval)
  else do
    let insnsCnt := data.size / bpfInsnSize
    let buf ← data.copy 0 (insnsCnt * bpfInsnSize)
    return {
      sectionName := sectionName
      idx := idx
      name := ⟨[], by simp⟩
      insns := (List.range insnsCnt).map (fun i => insnAt buf (bpfInsnSize * i))
      mainProgCnt := 0
      relocDesc := []
      fds := [] }

def bpfObjectAddProgram (obj : BpfObject) (data : ElfData) (sectionName : CString) (idx : Int) :
    Except Failure BpfObject := do
  let prog ← bpfProgramInit data sectionName idx
  return { obj with programs := obj.programs ++ [prog] }

/-- The name of the first global symbol in the section of the program. -/
def programName (elf : Elf) (symbols : List (Option ElfSym)) (strtabidx : Nat) (textShndx : Int)
    (prog : BpfProgram) : Except Failure CString :=
  match (symbols.filterMap id).find? (fun sym => sym.shndx = prog.idx ∧ sym.isGlobal = true) with
  | some sym =>
    match elf.strptr strtabidx sym.name with
    | none => .error (.errno (-libbpfErrnoLibelf))
    | some name => .ok name
  | none => if prog.idx = textShndx then .ok textScn else .error (.errno errInval)

def bpfObjectInitProgNames (elf : Elf) (efile : Efile) (obj : BpfObject) : Except Failure BpfObject := do
  let programs ← obj.programs.mapM (fun prog => do
    let name ← programName elf (efile.symbols.getD []) efile.strtabidx obj.textShndx prog
    return { prog with name := name })
  return { obj with programs := programs }

/-! ### Maps -/

def bpfMapDefSize : Nat := 20

/-- Fields beyond the octets are zero. -/
def mapDefOf (octets : List Byte) : BpfMapDef where
  type := u32At octets 0
  keySize := u32At octets 4
  valueSize := u32At octets 8
  maxEntries := u32At octets 12
  mapFlags := u32At octets 16

/-- The size of a definition is an `int`. -/
def initMap (data : ElfData) (mapDefSz : Int) (mapName : Option CString) (sym : ElfSym) : Except Failure BpfMap :=
  if (sym.value + BitVec.ofInt 64 mapDefSz).toNat > data.size then .error (.errno errInval)
  else
    match mapName with
    | none => .error .fault
    | some name => do
      -- a negative size counts as a big one that has nothing behind the known fields
      let octets ← data.copy sym.value.toNat (if mapDefSz < 0 then bpfMapDefSize else mapDefSz.toNat)
      if (octets.drop bpfMapDefSize).any (· ≠ 0) then
        throw (.errno errInval)
      return ⟨name, sym.value, mapDefOf (octets.take bpfMapDefSize), -1⟩

/-- The difference of the offsets as an `int`. -/
def compareBpfMap (a b : BpfMap) : Int := ((a.offset - b.offset).setWidth 32).toInt

def bpfObjectInitMaps (elf : Elf) (efile : Efile) (obj : BpfObject) : Except Failure BpfObject :=
  match efile.symbols, (elf.scns[obj.mapsShndx.toNat - 1]?).bind Scn.data with
  | some symbols, some data =>
    let syms := (symbols.filterMap id).filter (fun sym => sym.shndx = obj.mapsShndx)
    if syms = [] then .ok obj
    else if data.size = 0 ∨ data.size % syms.length ≠ 0 then .error (.errno errInval)
    else do
      let mapDefSz := (BitVec.ofNat 32 (data.size / syms.length)).toInt
      let maps ← syms.mapM (fun sym => initMap data mapDefSz (elf.strptr efile.strtabidx sym.name) sym)
      return { obj with maps := maps.mergeSort (fun a b => compareBpfMap a b ≤ 0) }
  | _, _ => .error (.errno errInval)

/-! ### Sections -/

def sectionHaveExecinstr (elf : Elf) (idx : Int) : Bool :=
  decide (idx ≥ 1) && ((elf.scns[idx.toNat - 1]?).bind Scn.hdr).any Shdr.execinstr

/-- One section; the object and the file so far. -/
def collectScn (elf : Elf) (idx : Nat) (st : BpfObject × Efile) (scn : Scn) : Except Failure (BpfObject × Efile) :=
  let (obj, efile) := st
  match scn.hdr, scn.name, scn.data with
  | some sh, some name, some data =>
    if name = licenseScn then do
      let _ ← data.copy 0 (min data.size 63)
      return (obj, efile)
    else if name = versionScn then
      if data.size ≠ 4 then .error (.errno (-libbpfErrnoFormat))
      else do
        let _ ← data.copy 0 4
        return (obj, efile)
    else if name = mapsScn then .ok ({ obj with mapsShndx := idx }, efile)
    else if name = btfElfSec ∨ name = btfExtElfSec then .ok (obj, efile)
    else if sh.type = .symtab then
      if efile.symbols.isSome then .error (.errno (-libbpfErrnoFormat))
      else .ok (obj, { efile with symbols := some scn.syms, strtabidx := sh.link })
    else if sh.type = .progbits ∧ sh.execinstr = true ∧ data.size > 0 then do
      let obj := if name = textScn then { obj with textShndx := idx } else obj
      let obj ← bpfObjectAddProgram obj data name idx
      return (obj, efile)
    else if sh.type = .rel then
      -- only for sections with instructions
      if !sectionHaveExecinstr elf sh.info then .ok (obj, efile)
      else .ok (obj, { efile with reloc := efile.reloc ++ [(sh, scn.rels)] })
    else .ok (obj, efile)
  | _, _, _ => .error (.errno (-libbpfErrnoFormat))

/-- The sections from the one with index `idx` on. -/
def collectScns (elf : Elf) (idx : Nat) (st : BpfObject × Efile) : List Scn → Except Failure (BpfObject × Efile)
  | [] => .ok st
  | scn :: scns => do
    let st ← collectScn elf idx st scn
    collectScns elf (idx + 1) st scns

def newObject : BpfObject := ⟨[], [], false, false, -1, 0, false, none⟩

def bpfObjectElfCollect (elf : Elf) : Except Failure (BpfObject × Efile) := do
  if !elf.rawNames then
    throw (.errno (-libbpfErrnoFormat))
  let (obj, efile) ← collectScns elf 1 (newObject, ⟨none, 0, []⟩) elf.scns
  if efile.strtabidx = 0 ∨ efile.strtabidx ≥ elf.scns.length then
    -- the sign is missing
    throw (.errno libbpfErrnoFormat)
  let obj ← if obj.mapsShndx ≥ 0 then bpfObjectInitMaps elf efile obj else pure obj
  let obj ← bpfObjectInitProgNames elf efile obj
  return (obj, efile)

/-! ### Opening -/

def emBpf : Nat := 247

def bpfObjectElfInit (elf : Elf) : Except Failure Ehdr :=
  match elf.ehdr with
  | none => .error (.errno (-libbpfErrnoFormat))
  | some ep =>
    -- `ET_REL`, and `EM_NONE` of old compilers
    if ep.type ≠ 1 ∨ (ep.machine ≠ 0 ∧ ep.machine ≠ emBpf) then .error (.errno (-libbpfErrnoFormat))
    else .ok ep

/-- On a machine that is little endian. -/
def bpfObjectCheckEndianness (ep : Ehdr) : Except Failure Unit :=
  if ep.encoding = 1 then .ok () else .error (.errno (-libbpfErrnoEndian))

/-- A section of relocations with its symbols looked up. -/
def relSectionOf (symbols : List (Option ElfSym)) (r : Shdr × List (Option GElfRel)) : RelSection where
  isRel := decide (r.1.type = .rel)
  entsize := r.1.entsize
  info := r.1.info
  entries := r.2.map (Option.map (fun rel => ⟨rel.offset, (symbols[rel.sym]?).join⟩))

/-- The object before its relocations are collected, and these. -/
def readElf (elf : Elf) : Except Failure (BpfObject × List RelSection) := do
  let ep ← bpfObjectElfInit elf
  bpfObjectCheckEndianness ep
  let (obj, efile) ← bpfObjectElfCollect elf
  return (obj, efile.reloc.map (relSectionOf (efile.symbols.getD [])))

/-- `__bpf_object__open` once the file is open. XDP programs need no version of the kernel. -/
def openElf (elf : Elf) : Except Failure BpfObject := do
  let (obj, sections) ← readElf elf
  bpfObjectCollectReloc obj sections

end SyncookieXdp.ObjectFile
