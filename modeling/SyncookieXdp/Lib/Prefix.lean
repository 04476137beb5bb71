import Mathlib.Tactic.Common

/-!
# Prefixes of bit strings

A prefix is a length together with a bit string of which only the first bits, most
significant first, count. Prefixes are ordered by covering.
-/

namespace SyncookieXdp.Lib

structure Prefix (w : Nat) where
  len : Nat
  data : BitVec w
deriving DecidableEq, Repr

namespace Prefix

variable {w : Nat}

/-- `p` covers `q`: `p` is no longer than `q` and agrees with it on the bits of `p`. -/
def Covers (p q : Prefix w) : Prop :=
  p.len ≤ q.len ∧ ∀ i < p.len, p.data.getMsbD i = q.data.getMsbD i

instance : DecidableRel (Covers : Prefix w → Prefix w → Prop) :=
  fun _ _ => inferInstanceAs (Decidable (_ ∧ _))

lemma covers_refl (p : Prefix w) : p.Covers p := ⟨Nat.le_refl _, fun _ _ => rfl⟩

lemma covers_trans (p q r : Prefix w) (hpq : p.Covers q) (hqr : q.Covers r) : p.Covers r := by
  refine ⟨Nat.le_trans hpq.1 hqr.1, ?_⟩
  intro i hi
  rw [hpq.2 i hi, hqr.2 i (Nat.lt_of_lt_of_le hi hpq.1)]

lemma not_covers_iff {p q : Prefix w} :
    ¬p.Covers q ↔ (p.len ≤ q.len → ∃ i < p.len, p.data.getMsbD i ≠ q.data.getMsbD i) := by
  simp only [Covers, not_and, not_forall, exists_prop, ne_eq]

end Prefix

end SyncookieXdp.Lib
