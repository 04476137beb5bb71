import SyncookieXdp.Lib.Octets

/-!
# Fixed-offset accesses to an octet buffer

`byteAt`, `u16At` and `u32At` read a buffer at a fixed offset, `putBytes`, `put16` and
`put32` overwrite it in place, and `bitsAt` and `withBits` address a bit-field inside
one octet. The write lemmas are stated octet by octet, so that reading any word of a
buffer after any sequence of writes reduces to comparisons of offsets.
-/

namespace SyncookieXdp.Lib

def byteAt (f : List Byte) (i : Nat) : Byte := f.getD i 0

def u16At (f : List Byte) (i : Nat) : BitVec 16 := le16 (byteAt f i) (byteAt f (i + 1))

def u32At (f : List Byte) (i : Nat) : BitVec 32 :=
  le32 (byteAt f i) (byteAt f (i + 1)) (byteAt f (i + 2)) (byteAt f (i + 3))

def bytesAt (f : List Byte) (i n : Nat) : List Byte := (List.range n).map (fun k => byteAt f (i + k))

def putBytes (f : List Byte) (i : Nat) : List Byte → List Byte
  | [] => f
  | b :: bs => putBytes (f.set i b) (i + 1) bs

def put16 (f : List Byte) (i : Nat) (v : BitVec 16) : List Byte :=
  putBytes f i [octet v 0, octet v 1]

def put32 (f : List Byte) (i : Nat) (v : BitVec 32) : List Byte :=
  putBytes f i [octet v 0, octet v 1, octet v 2, octet v 3]

/-- The bit-field of width `w` whose least significant bit is bit `l` of the octet. -/
def bitsAt (b : Byte) (l w : Nat) : BitVec w := b.extractLsb' l w

/-- The octet with the bit-field of width `w` at bit `l` replaced by `v`. -/
def withBits (b : Byte) (l : Nat) {w : Nat} (v : BitVec w) : Byte :=
  (b &&& ~~~((BitVec.allOnes w).setWidth 8 <<< l)) ||| (v.setWidth 8 <<< l)

lemma byteAt_eq_getElem {f : List Byte} {i : Nat} (h : i < f.length) : byteAt f i = f[i] := by
  simp [byteAt, h]

lemma getElem?_eq_byteAt {f : List Byte} {i : Nat} (h : i < f.length) :
    f[i]? = some (byteAt f i) := by
  rw [byteAt_eq_getElem h, List.getElem?_eq_getElem h]

lemma getElem?_eq_of_byteAt {f f' : List Byte} (hlen : f'.length = f.length) {j : Nat}
    (h : byteAt f' j = byteAt f j) : f'[j]? = f[j]? := by
  by_cases hj : j < f.length
  · rw [getElem?_eq_byteAt hj, getElem?_eq_byteAt (hlen ▸ hj), h]
  · rw [List.getElem?_eq_none (by omega), List.getElem?_eq_none (by omega)]

lemma byteAt_set (f : List Byte) (i j : Nat) (b : Byte) :
    byteAt (f.set i b) j = if i = j ∧ j < f.length then b else byteAt f j := by
  simp only [byteAt, List.getD_eq_getElem?_getD, List.getElem?_set]
  split
  · subst i
    split <;> simp [*]
  · simp [*]

@[simp] lemma length_putBytes (f : List Byte) (i : Nat) (bs : List Byte) :
    (putBytes f i bs).length = f.length := by
  induction bs generalizing f i with
  | nil => rfl
  | cons b bs ih => rw [putBytes, ih, List.length_set]

@[simp] lemma length_put16 (f : List Byte) (i : Nat) (v : BitVec 16) :
    (put16 f i v).length = f.length := length_putBytes _ _ _

@[simp] lemma length_put32 (f : List Byte) (i : Nat) (v : BitVec 32) :
    (put32 f i v).length = f.length := length_putBytes _ _ _

lemma byteAt_putBytes (f : List Byte) (i j : Nat) (bs : List Byte) (h : i + bs.length ≤ f.length) :
    byteAt (putBytes f i bs) j =
      if i ≤ j ∧ j < i + bs.length then bs.getD (j - i) 0 else byteAt f j := by
  induction bs generalizing f i with
  | nil => simp [putBytes, show ¬(i ≤ j ∧ j < i) by omega]
  | cons b bs ih =>
    simp only [List.length_cons] at h ⊢
    rw [putBytes, ih (f.set i b) (i + 1) (by rw [List.length_set]; omega), byteAt_set]
    by_cases hj : i = j
    · subst j
      rw [if_neg (by omega), if_pos ⟨rfl, by omega⟩, if_pos (by omega), Nat.sub_self, List.getD_cons_zero]
    · by_cases hin : i + 1 ≤ j ∧ j < i + 1 + bs.length
      · rw [if_pos hin, if_pos (by omega), show j - i = j - (i + 1) + 1 by omega, List.getD_cons_succ]
      · rw [if_neg hin, if_neg (by omega), if_neg (by omega)]

lemma byteAt_put16 (f : List Byte) (i j : Nat) (v : BitVec 16) (h : i + 2 ≤ f.length) :
    byteAt (put16 f i v) j =
      if j = i then octet v 0 else if j = i + 1 then octet v 1 else byteAt f j := by
  rw [put16, byteAt_putBytes _ _ _ _ (by simpa using h)]
  simp only [List.length_cons, List.length_nil]
  split
  · rcases (by omega : j = i ∨ j = i + 1) with rfl | rfl <;> simp
  · rw [if_neg (by omega), if_neg (by omega)]

lemma byteAt_put32 (f : List Byte) (i j : Nat) (v : BitVec 32) (h : i + 4 ≤ f.length) :
    byteAt (put32 f i v) j =
      if j = i then octet v 0 else if j = i + 1 then octet v 1 else
        if j = i + 2 then octet v 2 else if j = i + 3 then octet v 3 else byteAt f j := by
  rw [put32, byteAt_putBytes _ _ _ _ (by simpa using h)]
  simp only [List.length_cons, List.length_nil]
  split
  · rcases (by omega : j = i ∨ j = i + 1 ∨ j = i + 2 ∨ j = i + 3) with rfl | rfl | rfl | rfl <;> simp
  · rw [if_neg (by omega), if_neg (by omega), if_neg (by omega), if_neg (by omega)]

lemma byteAt_putBytes_of_disjoint (f : List Byte) (i j : Nat) (bs : List Byte)
    (hj : j < i ∨ i + bs.length ≤ j) : byteAt (putBytes f i bs) j = byteAt f j := by
  induction bs generalizing f i with
  | nil => rfl
  | cons b bs ih =>
    simp only [List.length_cons] at hj
    rw [putBytes, ih (f.set i b) (i + 1) (by omega), byteAt_set, if_neg (by omega)]

@[simp] lemma length_bytesAt (f : List Byte) (i n : Nat) : (bytesAt f i n).length = n := by
  simp [bytesAt]

lemma bytesAt_congr {f g : List Byte} {i j n : Nat} (h : ∀ k < n, byteAt f (i + k) = byteAt g (j + k)) :
    bytesAt f i n = bytesAt g j n := by
  apply List.map_congr_left
  intro k hk
  exact h k (List.mem_range.mp hk)

lemma getLsbD_bitsAt (b : Byte) (l w i : Nat) :
    (bitsAt b l w).getLsbD i = (decide (i < w) && b.getLsbD (l + i)) :=
  BitVec.getLsbD_extractLsb' l w b i

lemma bitsAt_one_eq (b : Byte) (l : Nat) : bitsAt b l 1 = 1#1 ↔ b.getLsbD l = true := by
  have h : (bitsAt b l 1).getLsbD 0 = b.getLsbD l := by rw [getLsbD_bitsAt]; rfl
  rw [← h]
  generalize bitsAt b l 1 = x
  revert x
  decide

lemma getLsbD_withBits (b : Byte) (l i : Nat) {w : Nat} (v : BitVec w) (hi : i < 8) :
    (withBits b l v).getLsbD i =
      if l ≤ i ∧ i < l + w then v.getLsbD (i - l) else b.getLsbD i := by
  simp only [withBits, BitVec.getLsbD_or, BitVec.getLsbD_and, BitVec.getLsbD_not,
    BitVec.getLsbD_shiftLeft, BitVec.getLsbD_setWidth, BitVec.getLsbD_allOnes, hi,
    show i - l < 8 by omega, decide_true, Bool.true_and]
  by_cases hl : i < l
  · simp [hl, show ¬l ≤ i by omega]
  · by_cases hw : i - l < w
    · simp [hl, hw, show l ≤ i ∧ i < l + w by omega]
    · simp [hl, hw, show ¬(l ≤ i ∧ i < l + w) by omega, BitVec.getLsbD_of_ge v (i - l) (by omega)]

lemma getLsbD_withBits_of_ne (b : Byte) (l i : Nat) (v : BitVec 1) (h : i ≠ l) :
    (withBits b l v).getLsbD i = b.getLsbD i := by
  by_cases hi : i < 8
  · rw [getLsbD_withBits b l i v hi, if_neg (by omega)]
  · rw [BitVec.getLsbD_of_ge _ _ (by omega), BitVec.getLsbD_of_ge _ _ (by omega)]

end SyncookieXdp.Lib
