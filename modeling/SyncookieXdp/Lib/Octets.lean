import Mathlib.Tactic.Common

/-!
# Octet strings and the words laid over them

A buffer is a list of octets. Multi-octet words are read and written in little-endian
or big-endian order, and bit-fields are allocated from the least significant bit of
their octet. Reads are total, with zero outside the buffer; every write lemma states
the bound under which it lands inside.
-/

namespace SyncookieXdp.Lib

abbrev Byte := BitVec 8

/-- Octet `i` of a word, counted from the least significant one. -/
def octet {w : Nat} (x : BitVec w) (i : Nat) : Byte := x.extractLsb' (8 * i) 8

/-- The word a little-endian machine loads from two octets at increasing addresses. -/
def le16 (b₀ b₁ : Byte) : BitVec 16 := b₁ ++ b₀

def le32 (b₀ b₁ b₂ b₃ : Byte) : BitVec 32 := le16 b₂ b₃ ++ le16 b₀ b₁

/-- The number two octets spell in network order. -/
def be16 (b₀ b₁ : Byte) : BitVec 16 := le16 b₁ b₀

def be32 (b₀ b₁ b₂ b₃ : Byte) : BitVec 32 := le32 b₃ b₂ b₁ b₀

lemma getLsbD_octet {w : Nat} (x : BitVec w) (k i : Nat) :
    (octet x k).getLsbD i = (decide (i < 8) && x.getLsbD (8 * k + i)) :=
  BitVec.getLsbD_extractLsb' (8 * k) 8 x i

lemma getLsbD_le16 (b₀ b₁ : Byte) (i : Nat) :
    (le16 b₀ b₁).getLsbD i = if i < 8 then b₀.getLsbD i else b₁.getLsbD (i - 8) :=
  BitVec.getLsbD_append

lemma getLsbD_le32 (b₀ b₁ b₂ b₃ : Byte) (i : Nat) :
    (le32 b₀ b₁ b₂ b₃).getLsbD i =
      if i < 16 then (le16 b₀ b₁).getLsbD i else (le16 b₂ b₃).getLsbD (i - 16) :=
  BitVec.getLsbD_append

lemma octet_le16_zero (b₀ b₁ : Byte) : octet (le16 b₀ b₁) 0 = b₀ := by
  apply BitVec.eq_of_getLsbD_eq
  intro i hi
  rw [getLsbD_octet, getLsbD_le16]
  simp [hi]

lemma octet_le16_one (b₀ b₁ : Byte) : octet (le16 b₀ b₁) 1 = b₁ := by
  apply BitVec.eq_of_getLsbD_eq
  intro i hi
  rw [getLsbD_octet, getLsbD_le16]
  simp [hi]

@[simp] lemma le16_octet (x : BitVec 16) : le16 (octet x 0) (octet x 1) = x := by
  apply BitVec.eq_of_getLsbD_eq
  intro i hi
  simp only [getLsbD_le16, getLsbD_octet]
  split
  · simp [*]
  · simp [show i - 8 < 8 by omega, show 8 + (i - 8) = i by omega]

@[simp] lemma le32_octet (x : BitVec 32) :
    le32 (octet x 0) (octet x 1) (octet x 2) (octet x 3) = x := by
  apply BitVec.eq_of_getLsbD_eq
  intro i hi
  simp only [getLsbD_le32, getLsbD_le16, getLsbD_octet]
  split
  · split
    · simp [*]
    · simp [show i - 8 < 8 by omega, show 8 + (i - 8) = i by omega]
  · split
    · simp [show i - 16 < 8 by omega, show 16 + (i - 16) = i by omega]
    · simp [show i - 16 - 8 < 8 by omega, show 24 + (i - 16 - 8) = i by omega]

lemma le16_inj {a₀ a₁ b₀ b₁ : Byte} : le16 a₀ a₁ = le16 b₀ b₁ ↔ a₀ = b₀ ∧ a₁ = b₁ := by
  constructor
  · intro h
    exact ⟨by rw [← octet_le16_zero a₀ a₁, h, octet_le16_zero],
      by rw [← octet_le16_one a₀ a₁, h, octet_le16_one]⟩
  · rintro ⟨rfl, rfl⟩
    rfl

lemma le32_inj {a₀ a₁ a₂ a₃ b₀ b₁ b₂ b₃ : Byte} :
    le32 a₀ a₁ a₂ a₃ = le32 b₀ b₁ b₂ b₃ ↔ a₀ = b₀ ∧ a₁ = b₁ ∧ a₂ = b₂ ∧ a₃ = b₃ := by
  constructor
  · intro h
    have hlow := congrArg (BitVec.setWidth 16) h
    have hhigh := congrArg (BitVec.extractLsb' 16 16) h
    simp only [le32, BitVec.setWidth_append_eq_right, BitVec.extractLsb'_append_eq_left] at hlow hhigh
    obtain ⟨h₀, h₁⟩ := le16_inj.mp hlow
    obtain ⟨h₂, h₃⟩ := le16_inj.mp hhigh
    exact ⟨h₀, h₁, h₂, h₃⟩
  · rintro ⟨rfl, rfl, rfl, rfl⟩
    rfl

/-! ### Carries -/

lemma toNat_le16 (b₀ b₁ : Byte) : (le16 b₀ b₁).toNat = b₀.toNat + 256 * b₁.toNat := by
  have h := b₀.isLt
  rw [le16, BitVec.toNat_append, ← Nat.shiftLeft_add_eq_or_of_lt h, Nat.shiftLeft_eq]
  omega

lemma toNat_le32 (b₀ b₁ b₂ b₃ : Byte) :
    (le32 b₀ b₁ b₂ b₃).toNat =
      b₀.toNat + 256 * b₁.toNat + 65536 * b₂.toNat + 16777216 * b₃.toNat := by
  have h := (le16 b₀ b₁).isLt
  rw [le32, BitVec.toNat_append, ← Nat.shiftLeft_add_eq_or_of_lt h, Nat.shiftLeft_eq, toNat_le16,
    toNat_le16]
  omega

lemma succ_low_octet {x y X Y : Nat} (hx : x < 256) (hy : y < 256) (hX : X < 16777216)
    (hY : Y < 16777216) (h : x + 256 * X = (y + 256 * Y + 1) % 4294967296) :
    x = y + 1 ∧ X = Y ∨ x = 0 ∧ y = 255 := by
  omega

lemma succ_high_octet {x y X Y : Nat} (hX : X < 16777216) (hY : Y < 16777216)
    (h : X + 16777216 * x = (Y + 16777216 * y + 1) % 4294967296) (hx : x < 256) (hy : y < 256) :
    x = y ∨ X = 0 ∧ Y = 16777215 := by
  omega

lemma octets_of_le32_eq_ones {b₀ b₁ b₂ b₃ : Byte} (h : le32 b₀ b₁ b₂ b₃ = 0xffffffff) :
    b₀.toNat = 255 ∧ b₁.toNat = 255 ∧ b₂.toNat = 255 ∧ b₃.toNat = 255 := by
  have hall := congrArg BitVec.toNat h
  simp only [toNat_le32, BitVec.reduceToNat] at hall
  omega

/-- Incrementing the network-order reading of four octets increments their little-endian
reading only when the sum carries through all of them. -/
theorem le32_pred_eq_iff (a₀ a₁ a₂ a₃ b₀ b₁ b₂ b₃ : Byte)
    (h : be32 a₀ a₁ a₂ a₃ = be32 b₀ b₁ b₂ b₃ + 1) :
    le32 a₀ a₁ a₂ a₃ - 1 = le32 b₀ b₁ b₂ b₃ ↔ le32 b₀ b₁ b₂ b₃ = 0xffffffff := by
  have ha₀ := a₀.isLt
  have ha₁ := a₁.isLt
  have ha₂ := a₂.isLt
  have ha₃ := a₃.isLt
  have hb₀ := b₀.isLt
  have hb₁ := b₁.isLt
  have hb₂ := b₂.isLt
  have hb₃ := b₃.isLt
  have hbe : a₃.toNat + 256 * (a₂.toNat + 256 * a₁.toNat + 65536 * a₀.toNat) =
      (b₃.toNat + 256 * (b₂.toNat + 256 * b₁.toNat + 65536 * b₀.toNat) + 1) % 4294967296 := by
    have ht := congrArg BitVec.toNat h
    simp only [be32, BitVec.toNat_add, toNat_le32, BitVec.reduceToNat] at ht
    omega
  constructor
  · intro hl
    have hle : a₀.toNat + 256 * a₁.toNat + 65536 * a₂.toNat + 16777216 * a₃.toNat =
        (b₀.toNat + 256 * b₁.toNat + 65536 * b₂.toNat + 16777216 * b₃.toNat + 1) % 4294967296 := by
      have ht := congrArg BitVec.toNat (BitVec.sub_eq_iff_eq_add.mp hl)
      simpa only [BitVec.toNat_add, toNat_le32, BitVec.reduceToNat, Nat.reducePow] using ht
    have hlow := succ_low_octet ha₃ hb₃ (by omega) (by omega) hbe
    have hhigh := succ_high_octet (by omega) (by omega) hle ha₃ hb₃
    rw [← BitVec.toNat_inj, toNat_le32]
    simp only [BitVec.reduceToNat]
    clear h hl hbe hle
    -- the last octet always changes, so the little-endian sum carries into it
    obtain ⟨hX, hY⟩ : a₀.toNat + 256 * a₁.toNat + 65536 * a₂.toNat = 0 ∧
      b₀.toNat + 256 * b₁.toNat + 65536 * b₂.toNat = 16777215 := by omega
    omega
  · intro hall
    have hb := octets_of_le32_eq_ones hall
    rw [hb.1, hb.2.1, hb.2.2.1, hb.2.2.2] at hbe
    rw [BitVec.sub_eq_iff_eq_add, ← BitVec.toNat_inj]
    simp only [BitVec.toNat_add, toNat_le32, BitVec.reduceToNat, hb.1, hb.2.1, hb.2.2.1, hb.2.2.2]
    omega

/-! ### Flags of a word -/

lemma clear_and_self {w : Nat} (x m : BitVec w) : x &&& ~~~m &&& m = 0 := by
  rw [BitVec.and_assoc, BitVec.and_comm (~~~m), BitVec.and_not_self]
  simp

lemma clear_and_of_disjoint {w : Nat} (x : BitVec w) {m n : BitVec w} (h : ~~~m &&& n = n) :
    x &&& ~~~m &&& n = x &&& n := by
  rw [BitVec.and_assoc, h]

/-- Flags that were cleared before they are set are the ones that were set. -/
lemma clear_or_and_self {w : Nat} (x : BitVec w) {m b : BitVec w} (h : b &&& m = b) :
    (x &&& ~~~m ||| b) &&& m = b := by
  rw [BitVec.and_or_distrib_right, clear_and_self, h]
  simp

lemma clear_or_and_of_disjoint {w : Nat} (x : BitVec w) {m b n : BitVec w} (h : ~~~m &&& n = n)
    (hb : b &&& n = 0) : (x &&& ~~~m ||| b) &&& n = x &&& n := by
  rw [BitVec.and_or_distrib_right, clear_and_of_disjoint x h, hb]
  simp

end SyncookieXdp.Lib
