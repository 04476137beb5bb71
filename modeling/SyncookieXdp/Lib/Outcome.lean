import Mathlib.Tactic.Common

/-!
# Computations that may fail

Conditions on the result of a computation and on its error, and the rules for putting
computations together. Tests that leave the state as it is evaluate under the short-circuit
operators to the Boolean operator on their results.
-/

namespace SyncookieXdp.Lib

section

variable {ε α β σ : Type}

/-- The result meets `P`, and so does an error `Q`. -/
def Meets (P : α → Prop) (Q : ε → Prop) : Except ε α → Prop
  | .ok a => P a
  | .error e => Q e

end

namespace Meets

variable {ε α β σ : Type} {P : α → Prop} {Q : ε → Prop} {x : Except ε α}

lemma result (h : Meets P Q x) {a : α} (hx : x = .ok a) : P a := by
  rw [hx] at h
  exact h

lemma failure (h : Meets P Q x) {e : ε} (hx : x = .error e) : Q e := by
  rw [hx] at h
  exact h

lemma bind {R : β → Prop} {f : α → Except ε β} (hx : Meets P Q x) (hf : ∀ a, P a → Meets R Q (f a)) :
    Meets R Q (x >>= f) := by
  cases x with
  | error e => exact hx
  | ok a => exact hf a hx

lemma imp {P' : α → Prop} {Q' : ε → Prop} (hx : Meets P Q x) (hP : ∀ a, P a → P' a) (hQ : ∀ e, Q e → Q' e) :
    Meets P' Q' x := by
  cases x with
  | error e => exact hQ e hx
  | ok a => exact hP a hx

/-- A loop keeps what each of its steps keeps. -/
theorem loop {I : σ → Prop} {step : σ → α → Except ε σ} {as : List α}
    (hstep : ∀ s, I s → ∀ a ∈ as, Meets I Q (step s a)) {s : σ} (hs : I s) : Meets I Q (as.foldlM step s) := by
  induction as generalizing s with
  | nil => exact hs
  | cons a as ih =>
    rw [List.foldlM_cons]
    have htail : ∀ s, I s → ∀ a ∈ as, Meets I Q (step s a) :=
      fun s hs a ha => hstep s hs a (List.mem_cons_of_mem _ ha)
    exact (hstep s hs a List.mem_cons_self).bind (fun s' hs' => ih htail hs')

/-- Results that are computed one by one. -/
theorem each {R : β → Prop} {f : α → Except ε β} {as : List α} (hf : ∀ a ∈ as, Meets R Q (f a)) :
    Meets (fun bs => bs.length = as.length ∧ ∀ b ∈ bs, R b) Q (as.mapM f) := by
  induction as with
  | nil =>
    have hnil : ([] : List β).length = ([] : List α).length ∧ ∀ b ∈ ([] : List β), R b := ⟨rfl, by simp⟩
    exact hnil
  | cons a as ih =>
    rw [List.mapM_cons]
    refine (hf a List.mem_cons_self).bind (fun b hb => ?_)
    refine (ih (fun a' ha' => hf a' (List.mem_cons_of_mem a ha'))).bind (fun bs hbs => ?_)
    exact ⟨congrArg (· + 1) hbs.1, List.forall_mem_cons.mpr ⟨hb, hbs.2⟩⟩

end Meets

section Tests

variable {ε σ : Type} {s : σ} {a b : Bool}

lemma run_andM {x y : EStateM ε σ Bool} (hx : x.run s = .ok a s) (hy : y.run s = .ok b s) :
    (x <&&> y).run s = .ok (a && b) s := by
  cases a <;> simp [andM, toBool, hx, hy]

lemma run_orM {x y : EStateM ε σ Bool} (hx : x.run s = .ok a s) (hy : y.run s = .ok b s) :
    (x <||> y).run s = .ok (a || b) s := by
  cases a <;> simp [orM, toBool, hx, hy]

end Tests

end SyncookieXdp.Lib
