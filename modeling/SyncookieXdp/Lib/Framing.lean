import Mathlib.Data.List.Forall2
import Mathlib.Data.List.GetD
import SyncookieXdp.Lib.Buffer

/-!
# Streams of self-delimiting records

A record starts with a header that holds the size of the whole record, and the next record
starts at the next multiple of four. `walk` lists the positions at which a reader finds the
records of a stream; it stops where a header does not fit or announces an impossible size.
-/

namespace SyncookieXdp.Lib

def alignUp (n : Nat) : Nat := (n + 3) / 4 * 4

lemma le_alignUp (n : Nat) : n ≤ alignUp n := by
  unfold alignUp
  omega

/-- The same `n` octets stand in `f` from `i` on and in `g` from `j` on. -/
def SameOctets (f : List Byte) (i : Nat) (g : List Byte) (j n : Nat) : Prop :=
  ∀ k < n, byteAt f (i + k) = byteAt g (j + k)

namespace SameOctets

variable {f g : List Byte} {i j n : Nat}

lemma refl (f : List Byte) (i n : Nat) : SameOctets f i f i n := fun _ _ => rfl

lemma mono (h : SameOctets f i g j n) {m : Nat} (hm : m ≤ n) : SameOctets f i g j m :=
  fun k hk => h k (by omega)

lemma shift (h : SameOctets f i g j n) {d m : Nat} (hm : d + m ≤ n) :
    SameOctets f (i + d) g (j + d) m := by
  intro k hk
  rw [Nat.add_assoc, Nat.add_assoc]
  exact h (d + k) (by omega)

lemma byteAt_eq (h : SameOctets f i g j n) {k : Nat} (hk : k < n) :
    byteAt f (i + k) = byteAt g (j + k) := h k hk

lemma u16At_eq (h : SameOctets f i g j n) {k : Nat} (hk : k + 2 ≤ n) :
    u16At f (i + k) = u16At g (j + k) := by
  have h₀ := h k (by omega)
  have h₁ := h (k + 1) (by omega)
  simp only [u16At, Nat.add_assoc, h₀, h₁]

lemma u32At_eq (h : SameOctets f i g j n) {k : Nat} (hk : k + 4 ≤ n) :
    u32At f (i + k) = u32At g (j + k) := by
  have h₀ := h k (by omega)
  have h₁ := h (k + 1) (by omega)
  have h₂ := h (k + 2) (by omega)
  have h₃ := h (k + 3) (by omega)
  simp only [u32At, Nat.add_assoc, h₀, h₁, h₂, h₃]

end SameOctets

/-- The octets of `r` stand in the buffer from `pos` on. -/
def Holds (buf : List Byte) (pos : Nat) (r : List Byte) : Prop := SameOctets buf pos r 0 r.length

lemma byteAt_append_left {f g : List Byte} {i : Nat} (h : i < f.length) :
    byteAt (f ++ g) i = byteAt f i := List.getD_append f g 0 i h

lemma byteAt_append_right (f g : List Byte) (i : Nat) : byteAt (f ++ g) (f.length + i) = byteAt g i := by
  rw [byteAt, List.getD_append_right f g 0 _ (Nat.le_add_right ..), Nat.add_sub_cancel_left]
  rfl

namespace Holds

variable {buf f g : List Byte} {pos : Nat}

lemma left (h : Holds buf pos (f ++ g)) : Holds buf pos f := by
  intro k hk
  rw [h k (by rw [List.length_append]; omega), Nat.zero_add, byteAt_append_left hk]

lemma right (h : Holds buf pos (f ++ g)) : Holds buf (pos + f.length) g := by
  intro k hk
  rw [Nat.add_assoc, h (f.length + k) (by rw [List.length_append]; omega), Nat.zero_add,
    byteAt_append_right, Nat.zero_add]

lemma byteAt_eq (h : Holds buf pos f) {k : Nat} (hk : k < f.length) :
    byteAt buf (pos + k) = byteAt f k := by
  simpa using SameOctets.byteAt_eq h hk

lemma u16At_eq (h : Holds buf pos f) {k : Nat} (hk : k + 2 ≤ f.length) :
    u16At buf (pos + k) = u16At f k := by
  simpa using SameOctets.u16At_eq h hk

lemma u32At_eq (h : Holds buf pos f) {k : Nat} (hk : k + 4 ≤ f.length) :
    u32At buf (pos + k) = u32At f k := by
  simpa using SameOctets.u32At_eq h hk

end Holds

/-- A write of full length replaces one part of a buffer by another. -/
lemma putBytes_append {f old bs : List Byte} (h : bs.length = old.length) (g : List Byte) :
    putBytes (f ++ (old ++ g)) f.length bs = f ++ (bs ++ g) := by
  induction bs generalizing f old with
  | nil =>
    rw [List.length_eq_zero_iff.mp h.symm]
    rfl
  | cons b bs ih =>
    cases old with
    | nil => cases h
    | cons o old =>
      rw [putBytes, List.set_append_right _ _ (Nat.le_refl _), Nat.sub_self, List.cons_append,
        List.set_cons_zero]
      have hnext := ih (f := f ++ [b]) (Nat.succ.inj h)
      simpa using hnext

lemma holds_append_left (f g : List Byte) : Holds (f ++ g) 0 f := by
  intro k hk
  rw [Nat.zero_add, byteAt_append_left hk]

/-- How records are delimited: the octets of a header and the size that it announces. -/
structure Framing where
  header : Nat
  size : List Byte → Nat → Nat
  header_pos : 0 < header
  size_congr : ∀ {f g : List Byte} {i j : Nat}, SameOctets f i g j header → size f i = size g j

namespace Framing

variable (F : Framing)

def walk (buf : List Byte) (pos rem : Nat) : List Nat :=
  if F.header ≤ rem ∧ F.header ≤ F.size buf pos ∧ F.size buf pos ≤ rem then
    pos :: walk buf (pos + alignUp (F.size buf pos)) (rem - alignUp (F.size buf pos))
  else []
termination_by rem
decreasing_by
  have := F.header_pos
  have := le_alignUp (F.size buf pos)
  omega

variable {F}

/-- Every record that is found lies inside the stream. -/
theorem inside_of_mem_walk {buf : List Byte} {pos rem p : Nat} (h : p ∈ F.walk buf pos rem) :
    pos ≤ p ∧ F.header ≤ F.size buf p ∧ p + F.size buf p ≤ pos + rem := by
  fun_induction walk F buf pos rem with
  | case1 pos rem hok ih =>
    rcases List.mem_cons.mp h with rfl | h
    · omega
    · have := le_alignUp (F.size buf pos)
      have := ih h
      have := F.header_pos
      omega
  | case2 => cases h

/-- Nothing outside the stream decides which records are found. -/
theorem walk_congr {f g : List Byte} {pos rem : Nat} (h : SameOctets f pos g pos rem) :
    F.walk f pos rem = F.walk g pos rem := by
  fun_induction walk F f pos rem with
  | case1 pos rem hok ih =>
    have hsize : F.size f pos = F.size g pos := F.size_congr (h.mono hok.1)
    conv_rhs => rw [walk, ← hsize, if_pos hok]
    by_cases hlast : alignUp (F.size f pos) ≤ rem
    · rw [ih (h.shift (by omega))]
    · have hzero : rem - alignUp (F.size f pos) = 0 := by omega
      rw [ih (by rw [hzero]; intro k hk; omega)]
  | case2 pos rem hno =>
    rw [walk, if_neg]
    rintro ⟨hfits, hok⟩
    have hsize : F.size f pos = F.size g pos := F.size_congr (h.mono hfits)
    exact hno ⟨hfits, hsize ▸ hok⟩

/-- A record that announces its own size. -/
def Framed (F : Framing) (r : List Byte) : Prop := F.header ≤ r.length ∧ F.size r 0 = r.length

end Framing

/-- Records one after the other, each filled up to a multiple of four. -/
def stream : List (List Byte) → List Byte
  | [] => []
  | r :: rs => r ++ (List.replicate (alignUp r.length - r.length) 0 ++ stream rs)

lemma length_stream_cons (r : List Byte) (rs : List (List Byte)) :
    (stream (r :: rs)).length = alignUp r.length + (stream rs).length := by
  have := le_alignUp r.length
  simp only [stream, List.length_append, List.length_replicate]
  omega

lemma Holds.stream_tail {buf r : List Byte} {rs : List (List Byte)} {pos : Nat}
    (h : Holds buf pos (stream (r :: rs))) : Holds buf (pos + alignUp r.length) (stream rs) := by
  have htail := h.right.right
  rw [List.length_replicate, Nat.add_assoc, Nat.add_sub_cancel' (le_alignUp _)] at htail
  exact htail

/-- A reader finds in a stream just the records it was made of. -/
theorem Framing.walk_stream {F : Framing} {buf : List Byte} {pos : Nat} {rs : List (List Byte)}
    (hrs : ∀ r ∈ rs, F.Framed r) (h : Holds buf pos (stream rs)) :
    List.Forall₂ (fun p r => Holds buf p r) (F.walk buf pos (stream rs).length) rs := by
  induction rs generalizing pos with
  | nil =>
    rw [walk, if_neg]
    · exact .nil
    · have := F.header_pos
      simp only [stream, List.length_nil]
      omega
  | cons r rs ih =>
    obtain ⟨hlong, hsize⟩ := hrs r (List.mem_cons_self ..)
    have hr : Holds buf pos r := h.left
    have hat : F.size buf pos = r.length := (F.size_congr (hr.mono hlong)).trans hsize
    have := le_alignUp r.length
    rw [walk, hat, length_stream_cons, if_pos (by omega), Nat.add_sub_cancel_left]
    exact .cons hr (ih (fun r hr => hrs r (List.mem_cons_of_mem _ hr)) h.stream_tail)

end SyncookieXdp.Lib
