import SyncookieXdp.Lib.Flow
import SyncookieXdp.Model.Relocation

/-!
# What an object file means

The instructions of a program and of `.text` where the compiler put them, with references to maps
and functions through symbols, and the instructions of a loaded program, with descriptors and
relative calls only. The instructions of the machine that no relocation touches are a parameter.
-/

namespace SyncookieXdp.ObjectFile
open Lib

/-! ### Instructions -/

/-- What an instruction does on its own, with a jump relative to the next one. -/
inductive Effect (σ : Type) where
  | next (s : σ)
  | jump (off : BitVec 32) (s : σ)
  | exit (s : σ)

structure Isa (σ : Type) where
  exec : BpfInsn → σ → Option (Effect σ)
  loadMap : BitVec 4 → BitVec 32 → σ → σ

inductive Meaning (π : Type) where
  | loadMap (dst : BitVec 4) (fd : BitVec 32)
  | callTo (target : π)
  | plain (insn : BpfInsn)

namespace Meaning

variable {π κ σ : Type}

def map (e : π → κ) : Meaning π → Meaning κ
  | loadMap dst fd => .loadMap dst fd
  | callTo target => .callTo (e target)
  | plain insn => .plain insn

/-- The constant of a map takes two instructions. -/
def behave (isa : Isa σ) (shift : π → BitVec 32 → π) (p : π) : Meaning π → σ → Option (Flow π σ)
  | loadMap dst fd, s => some (.goto (shift p 2) (isa.loadMap dst fd s))
  | callTo target, s => some (.call target (shift p 1) s)
  | plain insn, s =>
    (isa.exec insn s).map (fun
      | .next s => .goto (shift p 1) s
      | .jump off s => .goto (shift p (1 + off)) s
      | .exit s => .ret s)

/-- The meaning of an instruction without a relocation. -/
def own (shift : π → BitVec 32 → π) (p : π) (insn : BpfInsn) : Meaning π :=
  if insn.code = bpfLdImm64 ∧ insn.srcReg = bpfPseudoMapFd then .loadMap insn.dstReg insn.imm
  else if insn.code = bpfCall ∧ insn.srcReg = bpfPseudoCall then .callTo (shift p (1 + insn.imm))
  else .plain insn

variable {shift : π → BitVec 32 → π} {shift' : κ → BitVec 32 → κ} {e : π → κ}

lemma map_own (he : ∀ p d, e (shift p d) = shift' (e p) d) (p : π) (insn : BpfInsn) :
    (own shift p insn).map e = own shift' (e p) insn := by
  unfold own
  split
  · rfl
  · split
    · rw [map, he]
    · rfl

lemma behave_map (isa : Isa σ) (he : ∀ p d, e (shift p d) = shift' (e p) d) (p : π) (m : Meaning π) (s : σ) :
    (m.map e).behave isa shift' (e p) s = (m.behave isa shift p s).map (Flow.map e) := by
  cases m with
  | loadMap dst fd => simp only [map, behave, Option.map_some, Flow.map, he]
  | callTo target => simp only [map, behave, Option.map_some, Flow.map, he]
  | plain insn =>
    rw [map, behave, behave, Option.map_map]
    congr 1
    funext eff
    cases eff <;> simp [Flow.map, he]

end Meaning

/-! ### Loaded programs -/

def loadedFetch {σ : Type} (isa : Isa σ) (insns : List BpfInsn) (i : BitVec 32) (s : σ) :
    Option (Flow (BitVec 32) σ) :=
  match insns[i.toNat]? with
  | none => none
  | some insn => (Meaning.own (· + ·) i insn).behave isa (· + ·) i s

/-! ### Object files -/

inductive Sec where
  | main | text
deriving DecidableEq, Repr

structure Place where
  sec : Sec
  index : BitVec 32

def Place.shift (p : Place) (d : BitVec 32) : Place := ⟨p.sec, p.index + d⟩

def relsOf (sections : List RelSection) (idx : Int) : List (Option ElfRel) :=
  ((sections.find? (fun sec => sec.info = idx)).map RelSection.entries).getD []

/-- A section with its relocations. -/
structure LinkedSec where
  insns : List BpfInsn
  rels : List (Option ElfRel)

def LinkedSec.relsAt (c : LinkedSec) (i : Nat) : List ElfRel :=
  (c.rels.filterMap id).filter (fun rel => rel.insnIdx = i)

/-- The instruction that a symbol and the number in the instruction name together. -/
def namedIndex (sym : ElfSym) (insn : BpfInsn) : BitVec 32 :=
  BitVec.ofNat 32 (sym.value.toNat / 8) + (1 + insn.imm)

/-- The meaning a relocation gives to an instruction: a call of a function, or a map. -/
def relocatedMeaning (obj : BpfObject) (sym : ElfSym) (insn : BpfInsn) : Option (Meaning Place) :=
  if insn.code = bpfCall ∧ insn.srcReg = bpfPseudoCall ∧ sym.shndx = obj.textShndx then
    some (.callTo ⟨.text, namedIndex sym insn⟩)
  else if insn.code = bpfLdImm64 ∧ sym.shndx = obj.mapsShndx then
    (obj.maps.find? (fun map => map.offset = sym.value)).map
      (fun map => .loadMap insn.dstReg (BitVec.ofInt 32 map.fd))
  else none

/-- Without a meaning are an instruction with two relocations and a reference of another kind. -/
def linkedMeaning (obj : BpfObject) (c : LinkedSec) (p : Place) (insn : BpfInsn) : Option (Meaning Place) :=
  match c.relsAt p.index.toNat with
  | [] => some (Meaning.own Place.shift p insn)
  | [rel] => rel.sym.bind (fun sym => relocatedMeaning obj sym insn)
  | _ :: _ :: _ => none

def linkedFetch {σ : Type} (isa : Isa σ) (obj : BpfObject) (code : Sec → LinkedSec) (p : Place) (s : σ) :
    Option (Flow Place σ) :=
  match (code p.sec).insns[p.index.toNat]? with
  | none => none
  | some insn => (linkedMeaning obj (code p.sec) p insn).bind (fun m => m.behave isa Place.shift p s)

/-- The program at a position of the object, and the functions it may call. -/
def codeOf (obj : BpfObject) (sections : List RelSection) (prog : BpfProgram) : Sec → LinkedSec
  | .main => ⟨prog.insns, relsOf sections prog.idx⟩
  | .text =>
    ⟨((obj.programs.find? (fun text => text.idx = obj.textShndx)).map BpfProgram.insns).getD [],
      relsOf sections obj.textShndx⟩

/-- Where a place of the object file is in the loaded program. -/
def Place.loadedAt (mainCnt : Nat) (p : Place) : BitVec 32 :=
  match p.sec with
  | .main => p.index
  | .text => BitVec.ofNat 32 mainCnt + p.index

end SyncookieXdp.ObjectFile
