import SyncookieXdp.Model.ObjectFile

/-!
# BTF

What `btf.c` makes of the sections `.BTF` and `.BTF.ext`: whether it takes them, and whether it
reads beyond their octets. What they say about maps and programs is left out.
-/

namespace SyncookieXdp.ObjectFile
open Lib

def errNotSupported : Int := -95

def btfMagic : BitVec 16 := 0xeb9f
def btfVersion : Byte := 1

/-- A number in a copy of the section. -/
def btfU32 (buf : List Byte) (off : Nat) : Except Failure Nat :=
  if off + 4 ≤ buf.length then .ok (u32At buf off).toNat else .error .fault

/-- The length that the callee gets is one of 32 bits. -/
def ElfData.btfSize (data : ElfData) : Nat := data.size % 2 ^ 32

/-! ### Types -/

/-- The offsets are counted from the end of the header. -/
structure BtfHeader where
  typeOff : Nat
  strOff : Nat
  strLen : Nat

def btfHeaderSize : Nat := 24

def btfParseHdr (buf : List Byte) : Except Failure BtfHeader :=
  if buf.length < btfHeaderSize then .error (.errno errInval)
  else if u16At buf 0 ≠ btfMagic then .error (.errno errInval)
  else if byteAt buf 2 ≠ btfVersion then .error (.errno errNotSupported)
  else if byteAt buf 3 ≠ 0 then .error (.errno errNotSupported)
  else
    let metaLeft := buf.length - btfHeaderSize
    let hdr : BtfHeader := ⟨(u32At buf 8).toNat, (u32At buf 16).toNat, (u32At buf 20).toNat⟩
    if metaLeft = 0 ∨ metaLeft < hdr.typeOff ∨ metaLeft < hdr.strOff then .error (.errno errInval)
    else if hdr.typeOff ≥ hdr.strOff ∨ hdr.typeOff &&& 2 ≠ 0 then .error (.errno errInval)
    else .ok hdr

/-- The first and the last octet have to be zero. Nothing says that they are in the section. -/
def btfParseStrSec (buf : List Byte) (hdr : BtfHeader) : Except Failure Unit :=
  let start := btfHeaderSize + hdr.strOff
  if hdr.strLen = 0 ∨ hdr.strLen - 1 > 0x7fffffff then .error (.errno errInval)
  else
    match buf[start]? with
    | none => .error .fault
    | some first =>
      if first ≠ 0 then .error (.errno errInval)
      else
        match buf[start + hdr.strLen - 1]? with
        | none => .error .fault
        | some last => if last ≠ 0 then .error (.errno errInval) else .ok ()

/-- The size of a type is that of `struct btf_type` and of what comes after it. -/
def btfTypeExtra (info : Nat) : Option Nat :=
  let vlen := info % 2 ^ 16
  match info / 2 ^ 24 % 16 with
  -- pointers, forward declarations, modifiers and functions
  | 2 | 7 | 8 | 9 | 10 | 11 | 12 => some 0
  -- an integer
  | 1 => some 4
  -- an array
  | 3 => some 12
  -- structures and unions
  | 4 | 5 => some (vlen * 12)
  -- an enumeration, and a prototype
  | 6 | 13 => some (vlen * 8)
  | _ => none

def btfParseTypeSec (buf : List Byte) (nextType endType : Nat) : Except Failure Unit :=
  if nextType < endType then
    match btfU32 buf (nextType + 4) with
    | .error e => .error e
    | .ok info =>
      match btfTypeExtra info with
      | none => .error (.errno errInval)
      | some extra => btfParseTypeSec buf (nextType + (12 + extra)) endType
  else .ok ()
termination_by endType - nextType

def btfNew (data : ElfData) : Except Failure Unit := do
  let buf ← data.copy 0 data.btfSize
  let hdr ← btfParseHdr buf
  btfParseStrSec buf hdr
  btfParseTypeSec buf (btfHeaderSize + hdr.typeOff) (btfHeaderSize + hdr.strOff)

/-! ### Records about functions and lines -/

/-- The records of one section after the other, in the `infoLeft` octets from `sinfo` on. -/
def btfExtRecords (buf : List Byte) (recordSize sinfo infoLeft : Nat) : Except Failure Unit :=
  if infoLeft = 0 then .ok ()
  else if infoLeft < 8 then .error (.errno errInval)
  else
    match btfU32 buf (sinfo + 4) with
    | .error e => .error e
    | .ok numRecords =>
      let totalRecordSize := 8 + numRecords * recordSize
      if numRecords = 0 ∨ infoLeft < totalRecordSize then .error (.errno errInval)
      else btfExtRecords buf recordSize (sinfo + totalRecordSize) (infoLeft - totalRecordSize)
termination_by infoLeft
decreasing_by exact Nat.sub_lt (Nat.pos_of_ne_zero ‹_›) (Nat.add_pos_left (Nat.succ_pos 7) _)

/-- The offset and the length are in the header at `field`, which may be shorter than that. -/
def btfExtSetupInfo (buf : List Byte) (field minRecSize : Nat) : Except Failure Unit := do
  let off ← btfU32 buf field
  let len ← btfU32 buf (field + 4)
  if off % 4 ≠ 0 then
    throw (.errno errInval)
  let info := (u32At buf 4).toNat + off
  if buf.length < info + len ∨ len < 4 then
    throw (.errno errInval)
  let recordSize ← btfU32 buf info
  if recordSize < minRecSize ∨ recordSize % 4 ≠ 0 ∨ len = 4 then
    throw (.errno errInval)
  btfExtRecords buf recordSize (info + 4) (len - 4)

def btfExtParseHdr (data : ElfData) : Except Failure Unit :=
  if data.btfSize < 8 then .error (.errno errInval)
  else do
    let hdr ← data.copy 0 8
    let hdrLen := (u32At hdr 4).toNat
    if data.btfSize < hdrLen ∨ u16At hdr 0 ≠ btfMagic then
      throw (.errno errInval)
    if byteAt hdr 2 ≠ btfVersion ∨ byteAt hdr 3 ≠ 0 then
      throw (.errno errNotSupported)
    if data.btfSize = hdrLen then
      throw (.errno errInval)

def btfExtNew (data : ElfData) : Except Failure Unit := do
  btfExtParseHdr data
  let buf ← data.copy 0 data.btfSize
  -- `bpf_func_info_min` and `bpf_line_info_min`
  btfExtSetupInfo buf 8 8
  btfExtSetupInfo buf 16 16

end SyncookieXdp.ObjectFile
