import Mathlib.Algebra.GroupWithZero.Nat
import Mathlib.Data.List.Basic
import SyncookieXdp.Lib.CString

/-!
# Objects and their relocations

What libbpf keeps of an object file, how it collects the relocations of its programs, and how it
applies them: each program gets the descriptors of its maps and a copy of the functions in `.text`
that it calls. What BTF says about maps and programs and failures of the allocator are left out.
-/

namespace SyncookieXdp.ObjectFile
open Lib

/-- `struct bpf_insn`. -/
structure BpfInsn where
  code : BitVec 8
  dstReg : BitVec 4
  srcReg : BitVec 4
  off : BitVec 16
  imm : BitVec 32
deriving DecidableEq, Repr

/-- `BPF_JMP | BPF_CALL`. -/
def bpfCall : BitVec 8 := 0x85

/-- `BPF_LD | BPF_IMM | BPF_DW`. -/
def bpfLdImm64 : BitVec 8 := 0x18

def bpfPseudoCall : BitVec 4 := 1
def bpfPseudoMapFd : BitVec 4 := 1

/-- `struct bpf_map_def`. -/
structure BpfMapDef where
  type : BitVec 32
  keySize : BitVec 32
  valueSize : BitVec 32
  maxEntries : BitVec 32
  mapFlags : BitVec 32
deriving DecidableEq, Repr

/-- The offset is that of the definition in the section of the maps. -/
structure BpfMap where
  name : CString
  offset : BitVec 64
  definition : BpfMapDef
  fd : Int
deriving DecidableEq

inductive RelocDesc where
  | ld64 (insnIdx mapIdx : Nat)
  | call (insnIdx : Nat) (textOff : BitVec 64)
deriving DecidableEq, Repr

def RelocDesc.isCall : RelocDesc → Bool
  | ld64 .. => false
  | call .. => true

/-- No `fds` stands for `instances.nr` of -1. No program of this repository sets a preprocessor. -/
structure BpfProgram where
  sectionName : CString
  idx : Int
  name : CString
  insns : List BpfInsn
  mainProgCnt : Nat
  relocDesc : List RelocDesc
  fds : List Int
deriving DecidableEq

/-- `capsName` is `caps.name`, and `btf` the descriptor of the BTF that the kernel has taken. -/
structure BpfObject where
  programs : List BpfProgram
  maps : List BpfMap
  loaded : Bool
  hasPseudoCalls : Bool
  mapsShndx : Int
  textShndx : Int
  capsName : Bool
  btf : Option Int
deriving DecidableEq

/-- An error code, or an access outside of an array or through a pointer that is not valid, or a
division by zero. -/
inductive Failure where
  | errno (code : Int)
  | fault
deriving DecidableEq, Repr

def libbpfErrnoLibelf : Int := 4000
def libbpfErrnoFormat : Int := 4001
def libbpfErrnoEndian : Int := 4003
def libbpfErrnoInternal : Int := 4004
def libbpfErrnoReloc : Int := 4005
def libbpfErrnoLoad : Int := 4006
def libbpfErrnoVerify : Int := 4007
def libbpfErrnoProg2big : Int := 4008
def libbpfErrnoKver : Int := 4009
def libbpfErrnoProgtype : Int := 4010

/-! ### Collecting the relocations -/

/-- The name is an index into the strings of the symbols. -/
structure ElfSym where
  shndx : Int
  value : BitVec 64
  isGlobal : Bool
  name : Nat

/-- `sym` is missing if `gelf_getsym` does not find it. -/
structure ElfRel where
  offset : BitVec 64
  sym : Option ElfSym

def ElfRel.insnIdx (rel : ElfRel) : Nat := rel.offset.toNat / 8 % 2 ^ 32

/-- A section of relocations; an entry is missing if `gelf_getrel` does not find it. -/
structure RelSection where
  isRel : Bool
  entsize : Nat
  info : Int
  entries : List (Option ElfRel)

def collectOne (obj : BpfObject) (prog : BpfProgram) : Option ElfRel → Except Failure RelocDesc
  | none => .error (.errno (-libbpfErrnoFormat))
  | some rel =>
    match rel.sym with
    | none => .error (.errno (-libbpfErrnoFormat))
    | some sym =>
      if sym.shndx ≠ obj.mapsShndx ∧ sym.shndx ≠ obj.textShndx then
        .error (.errno (-libbpfErrnoReloc))
      else
        -- the index is not compared with the number of instructions
        match prog.insns[rel.insnIdx]? with
        | none => .error .fault
        | some insn =>
          if insn.code = bpfCall then
            if insn.srcReg ≠ bpfPseudoCall then .error (.errno (-libbpfErrnoReloc))
            else .ok (.call rel.insnIdx sym.value)
          else if insn.code ≠ bpfLdImm64 then .error (.errno (-libbpfErrnoReloc))
          else
            match obj.maps.findIdx? (fun map => map.offset = sym.value) with
            | none => .error (.errno (-libbpfErrnoReloc))
            | some mapIdx => .ok (.ld64 rel.insnIdx mapIdx)

def bpfProgramCollectReloc (obj : BpfObject) (prog : BpfProgram) (entries : List (Option ElfRel)) :
    Except Failure BpfProgram := do
  let descs ← entries.mapM (collectOne obj prog)
  return { prog with relocDesc := descs }

/-- The position of the program, if there is one. -/
def bpfObjectFindProgByIdx (obj : BpfObject) (idx : Int) : Option Nat :=
  obj.programs.findIdx? (fun prog => prog.idx = idx)

def collectSection (obj : BpfObject) (sec : RelSection) : Except Failure BpfObject :=
  if !sec.isRel then .error (.errno (-libbpfErrnoInternal))
  else
    match bpfObjectFindProgByIdx obj sec.info with
    | none => .error (.errno (-libbpfErrnoReloc))
    | some k =>
      match obj.programs[k]? with
      | none => .error .fault
      | some prog =>
        -- the size of the section is divided by that of an entry
        if sec.entsize = 0 then .error .fault
        else do
          let prog ← bpfProgramCollectReloc obj prog sec.entries
          return { obj with
            programs := obj.programs.set k prog
            hasPseudoCalls := obj.hasPseudoCalls || prog.relocDesc.any RelocDesc.isCall }

def bpfObjectCollectReloc (obj : BpfObject) (sections : List RelSection) : Except Failure BpfObject :=
  sections.foldlM collectSection obj

/-! ### Relocating -/

/-- The first call brings the functions along. -/
def appendText (obj : BpfObject) (prog : BpfProgram) : Except Failure BpfProgram :=
  if prog.mainProgCnt = 0 then
    match (bpfObjectFindProgByIdx obj obj.textShndx).bind (fun t => obj.programs[t]?) with
    | none => .error (.errno (-libbpfErrnoReloc))
    | some text => .ok { prog with insns := prog.insns ++ text.insns, mainProgCnt := prog.insns.length }
  else .ok prog

def bpfProgramRelocText (obj : BpfObject) (prog : BpfProgram) (insnIdx : Nat) : Except Failure BpfProgram :=
  if prog.idx = obj.textShndx then .error (.errno (-libbpfErrnoReloc))
  else do
    let prog ← appendText obj prog
    if insnIdx ≥ prog.insns.length then .error .fault
    else
      .ok { prog with insns := prog.insns.modify insnIdx (fun insn =>
        { insn with imm := insn.imm + (BitVec.ofNat 32 prog.mainProgCnt - BitVec.ofNat 32 insnIdx) }) }

def relocateOne (obj : BpfObject) (prog : BpfProgram) : RelocDesc → Except Failure BpfProgram
  | .ld64 insnIdx mapIdx =>
    if insnIdx ≥ prog.insns.length then .error (.errno (-libbpfErrnoReloc))
    else
      match obj.maps[mapIdx]? with
      | none => .error .fault
      | some map => .ok { prog with insns := prog.insns.modify insnIdx (fun insn =>
          { insn with srcReg := bpfPseudoMapFd, imm := BitVec.ofInt 32 map.fd }) }
  | .call insnIdx _ => bpfProgramRelocText obj prog insnIdx

def bpfProgramRelocate (obj : BpfObject) (prog : BpfProgram) : Except Failure BpfProgram := do
  let prog ← prog.relocDesc.foldlM (relocateOne obj) prog
  return { prog with relocDesc := [] }

/-- The programs one after the other, each in the object as the ones before it left it. -/
def bpfObjectRelocate (obj : BpfObject) : Except Failure BpfObject :=
  (List.range obj.programs.length).foldlM (fun obj i =>
    match obj.programs[i]? with
    | none => .error .fault
    | some prog => do
      let prog ← bpfProgramRelocate obj prog
      return { obj with programs := obj.programs.set i prog }) obj

end SyncookieXdp.ObjectFile
