import SyncookieXdp.Lib.Buffer

/-!
# One's-complement sums

The checksum of the internet protocols adds the network-order words of an octet string with
end-around carry. The result depends only on the plain sum of the words: it is that sum
modulo `2 ^ 16 - 1`, with the multiple of the modulus represented by all ones unless every
word is zero.
-/

namespace SyncookieXdp.Lib

/-- Addition of 16-bit words with end-around carry. -/
def onesAdd (a b : Nat) : Nat := (a + b) % 65536 + (a + b) / 65536

/-- The one's-complement sum of the words of an octet string, an odd last octet padded with
zero. -/
def onesSum : List Byte → Nat
  | [] => 0
  | [b] => (be16 b 0).toNat
  | b₀ :: b₁ :: bs => onesAdd (be16 b₀ b₁).toNat (onesSum bs)

def sumWords : List Byte → Nat
  | [] => 0
  | [b] => (be16 b 0).toNat
  | b₀ :: b₁ :: bs => (be16 b₀ b₁).toNat + sumWords bs

/-- A plain sum with its carries brought around. -/
def endAround (n : Nat) : Nat := if n = 0 then 0 else (n - 1) % 65535 + 1

lemma endAround_of_lt {n : Nat} (h : n < 65536) : endAround n = n := by
  unfold endAround
  split
  · exact Eq.symm ‹_›
  · omega

lemma onesAdd_endAround {a : Nat} (h : a < 65536) (n : Nat) :
    onesAdd a (endAround n) = endAround (a + n) := by
  unfold onesAdd endAround
  by_cases hn : n = 0
  · by_cases ha : a = 0
    · simp [hn, ha]
    · simp only [hn, if_true, Nat.add_zero, ha, if_false]
      omega
  · simp only [hn, if_false, show a + n ≠ 0 by omega]
    omega

theorem onesSum_eq_endAround (bs : List Byte) : onesSum bs = endAround (sumWords bs) := by
  induction bs using onesSum.induct with
  | case1 => rfl
  | case2 b => exact (endAround_of_lt (be16 b 0).isLt).symm
  | case3 b₀ b₁ bs ih => rw [onesSum, sumWords, ih, onesAdd_endAround (be16 b₀ b₁).isLt]

/-- A sum is all ones exactly when the plain sum is a multiple of the modulus, but not zero. -/
lemma onesSum_eq_allOnes_iff (bs : List Byte) :
    onesSum bs = 0xffff ↔ sumWords bs ≠ 0 ∧ sumWords bs % 65535 = 0 := by
  rw [onesSum_eq_endAround, endAround]
  split
  · simp [*]
  · omega

lemma sumWords_append (as bs : List Byte) (h : as.length % 2 = 0) :
    sumWords (as ++ bs) = sumWords as + sumWords bs := by
  induction as using sumWords.induct with
  | case1 => simp [sumWords]
  | case2 b => simp at h
  | case3 b₀ b₁ as ih =>
    simp only [List.length_cons] at h
    rw [List.cons_append, List.cons_append, sumWords, sumWords, ih (by omega), Nat.add_assoc]

lemma bytesAt_add (f : List Byte) (i m n : Nat) :
    bytesAt f i (m + n) = bytesAt f i m ++ bytesAt f (i + m) n := by
  simp [bytesAt, List.range_add, Nat.add_assoc]

lemma bytesAt_eq_of_u16At {f g : List Byte} {i j : Nat} (h : u16At f i = u16At g j) :
    bytesAt f i 2 = bytesAt g j 2 := by
  obtain ⟨h₀, h₁⟩ := le16_inj.mp h
  apply bytesAt_congr
  intro k hk
  rcases (by omega : k = 0 ∨ k = 1) with rfl | rfl
  · exact h₀
  · exact h₁

lemma bytesAt_eq_of_u32At {f g : List Byte} {i j : Nat} (h : u32At f i = u32At g j) :
    bytesAt f i 4 = bytesAt g j 4 := by
  obtain ⟨h₀, h₁, h₂, h₃⟩ := le32_inj.mp h
  apply bytesAt_congr
  intro k hk
  rcases (by omega : k = 0 ∨ k = 1 ∨ k = 2 ∨ k = 3) with rfl | rfl | rfl | rfl
  · exact h₀
  · exact h₁
  · exact h₂
  · exact h₃

/-- The words of a slice that is cut at an even position. -/
lemma sumWords_bytesAt_add (f : List Byte) (i m n : Nat) (h : m % 2 = 0) :
    sumWords (bytesAt f i (m + n)) = sumWords (bytesAt f i m) + sumWords (bytesAt f (i + m) n) := by
  rw [bytesAt_add, sumWords_append _ _ (by simpa using h)]

lemma sumWords_bytesAt_two (f : List Byte) (i : Nat) :
    sumWords (bytesAt f i 2) = (byteAt f (i + 1)).toNat + 256 * (byteAt f i).toNat := by
  simp only [bytesAt, List.range_succ, List.range_zero, List.nil_append, List.cons_append, List.map_cons,
    List.map_nil, sumWords, be16, toNat_le16, Nat.add_zero]

/-- The two network-order words of a 32-bit number stored in little-endian order add up to
the number times 256, up to the modulus. -/
lemma sumWords_bytesAt_four (f : List Byte) (i : Nat) :
    sumWords (bytesAt f i 4) % 65535 = 256 * (u32At f i).toNat % 65535 := by
  rw [sumWords_bytesAt_add f i 2 2 rfl, sumWords_bytesAt_two, sumWords_bytesAt_two, u32At, toNat_le32,
    show i + 2 + 1 = i + 3 from rfl]
  omega

end SyncookieXdp.Lib
