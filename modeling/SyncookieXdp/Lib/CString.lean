import SyncookieXdp.Lib.Octets

/-!
# Strings and the buffers they are copied into

A C string is a list of octets without a zero octet. `strncpy` fills a buffer of fixed size
with as much of a string as fits and zeros after it.
-/

namespace SyncookieXdp.Lib

structure CString where
  bytes : List Byte
  noNul : ∀ b ∈ bytes, b ≠ 0
deriving DecidableEq

namespace CString

/-- The octets of a text in ASCII. -/
def ascii (text : String) : List Byte := text.toList.map (fun c => BitVec.ofNat 8 c.toNat)

/-- `strlen`. -/
def length (s : CString) : Nat := s.bytes.length

/-- The contents of a buffer of `n` octets after `strncpy(buffer, s, n)`. -/
def strncpy (n : Nat) (s : CString) : Vector Byte n := Vector.ofFn (fun i => s.bytes.getD i 0)

/-- The buffer holds the string with its terminating zero octet. -/
def HeldBy (s : CString) {n : Nat} (buffer : Vector Byte n) : Prop := s.bytes ++ [0] <+: buffer.toList

instance (s : CString) {n : Nat} (buffer : Vector Byte n) : Decidable (s.HeldBy buffer) :=
  inferInstanceAs (Decidable (_ <+: _))

/-- The string a program reads from a buffer. -/
def read {n : Nat} (buffer : Vector Byte n) : List Byte := buffer.toList.takeWhile (· ≠ 0)

lemma toList_strncpy {n : Nat} {s : CString} (h : s.length < n) :
    (strncpy n s).toList = s.bytes ++ 0 :: List.replicate (n - s.length - 1) 0 := by
  have hpad : 0 :: List.replicate (n - s.length - 1) (0 : Byte) = List.replicate (n - s.length) 0 := by
    rw [← List.replicate_succ, Nat.sub_add_cancel (by omega)]
  unfold length at h hpad ⊢
  rw [hpad]
  apply List.ext_getElem
  · simp
    omega
  · intro i h₁ h₂
    rw [List.getElem_append]
    by_cases hi : i < s.bytes.length
    · simp [strncpy, hi]
    · rw [dif_neg hi, List.getElem_replicate]
      simp [strncpy, List.getElem?_eq_none (by omega : s.bytes.length ≤ i)]

/-- A copied string is held by its buffer exactly when the buffer is larger than the string. -/
theorem heldBy_strncpy_iff (n : Nat) (s : CString) : s.HeldBy (strncpy n s) ↔ s.length < n := by
  constructor
  · intro h
    have hlen := h.length_le
    simp only [List.length_append, List.length_singleton, Vector.length_toList] at hlen
    exact hlen
  · intro h
    rw [HeldBy, toList_strncpy h]
    exact ⟨List.replicate (n - s.length - 1) 0, by simp⟩

lemma read_strncpy {n : Nat} {s : CString} (h : s.length < n) : read (strncpy n s) = s.bytes := by
  rw [read, toList_strncpy h, List.takeWhile_append_of_pos]
  · simp
  · intro b hb
    simpa using s.noNul b hb

end CString

end SyncookieXdp.Lib
