import SyncookieXdp.Lib.Framing
import SyncookieXdp.Lib.Steps

/-!
# Netlink attributes

`nlattr.c` and `nlattr.h` of libbpf. A pointer to an attribute is its position in the buffer
that holds the message. Reads past the end of the buffer give zeros; the code makes such
reads, and nothing may follow from them.
-/

namespace SyncookieXdp.Netlink
open Lib

def nlaHdrlen : Nat := 4

def nlaFNested : BitVec 16 := 1 <<< 15

def nlaFNetByteorder : BitVec 16 := 1 <<< 14

def nlaTypeMask : BitVec 16 := ~~~(nlaFNested ||| nlaFNetByteorder)

section

variable (buf : List Byte) (nla : Nat)

/-- The field `nla_len`, which counts the header. -/
def nlaLen : Nat := (u16At buf nla).toNat

def nlaType : Nat := (u16At buf (nla + 2) &&& nlaTypeMask).toNat

def libbpfNlaData : Nat := nla + nlaHdrlen

def libbpfNlaLen : Int := nlaLen buf nla - nlaHdrlen

def libbpfNlaGetattrU8 : Byte := byteAt buf (libbpfNlaData nla)

def libbpfNlaGetattrU32 : BitVec 32 := u32At buf (libbpfNlaData nla)

/-- The first comparison is one of unsigned numbers, which a negative `remaining` passes. -/
def nlaOk (remaining : Int) : Prop :=
  (remaining < 0 ∨ nlaHdrlen ≤ remaining) ∧ nlaHdrlen ≤ nlaLen buf nla ∧ nlaLen buf nla ≤ remaining

instance (remaining : Int) : Decidable (nlaOk buf nla remaining) :=
  inferInstanceAs (Decidable ((_ ∨ _) ∧ _ ∧ _))

end

/-- The attributes that `libbpf_nla_for_each_attr` visits. -/
def libbpfNlaForEachAttr (buf : List Byte) (pos : Nat) (rem : Int) : List Nat :=
  if nlaOk buf pos rem then
    -- `nla_next`
    let totlen := alignUp (nlaLen buf pos)
    pos :: libbpfNlaForEachAttr buf (pos + totlen) (rem - totlen)
  else []
termination_by rem.toNat
decreasing_by
  rename_i h
  have := le_alignUp (nlaLen buf pos)
  simp only [nlaOk, nlaHdrlen] at h
  omega

/-! ### Validation -/

/-- The types an attribute can be declared with; a larger number is not a type. -/
inductive NlaAttrType where
  | unspec | u8 | u16 | u32 | u64 | string | flag | msecs | nested
  | beyond (n : BitVec 16)
deriving DecidableEq, Repr

def nlaAttrMinlen : NlaAttrType → Nat
  | .u8 => 1
  | .u16 => 2
  | .u32 => 4
  | .u64 => 8
  | .string => 1
  | _ => 0

structure LibbpfNlaPolicy where
  type : NlaAttrType
  minlen : BitVec 16
  maxlen : BitVec 16
deriving DecidableEq, Repr

namespace LibbpfNlaPolicy

variable (pt : LibbpfNlaPolicy)

def minimum : Nat :=
  if pt.minlen ≠ 0 then pt.minlen.toNat
  else if pt.type ≠ .unspec then nlaAttrMinlen pt.type
  else 0

end LibbpfNlaPolicy

def validateNla (buf : List Byte) (nla maxtype : Nat) (policy : Nat → LibbpfNlaPolicy) : Int :=
  let type := nlaType buf nla
  if type > maxtype then 0
  else
    let pt := policy type
    match pt.type with
    | .beyond _ => 0
    | _ =>
      let len := libbpfNlaLen buf nla
      -- compared as unsigned numbers
      if 0 ≤ len ∧ len < pt.minimum then -1
      else if pt.maxlen ≠ 0 ∧ len > pt.maxlen.toNat then -1
      else if pt.type = .string ∧ byteAt buf (libbpfNlaData nla + len - 1).toNat ≠ 0 then -1
      else 0

/-! ### The index of a stream -/

/-- The array `tb`; `none` stands for `NULL`. -/
abbrev NlaTable := Nat → Option Nat

section

variable (buf : List Byte) (maxtype : Nat) (policy : Option (Nat → LibbpfNlaPolicy))

/-- The body of the loop of `libbpf_nla_parse`. -/
def nlaIndexOne (tb : NlaTable) (nla : Nat) : NlaTable × Option Int :=
  let type := nlaType buf nla
  if type > maxtype then (tb, none)
  else
    let err :=
      match policy with
      | none => 0
      | some policy => validateNla buf nla maxtype policy
    if err < 0 then (tb, some err)
    else (Function.update tb type (some nla), none)

def libbpfNlaParse (head : Nat) (len : Int) : NlaTable × Int :=
  let (tb, err) :=
    untilStop (nlaIndexOne buf maxtype policy) (fun _ => none) (libbpfNlaForEachAttr buf head len)
  (tb, err.getD 0)

def libbpfNlaParseNested (nla : Nat) : NlaTable × Int :=
  libbpfNlaParse buf maxtype policy (libbpfNlaData nla) (libbpfNlaLen buf nla)

end

end SyncookieXdp.Netlink
