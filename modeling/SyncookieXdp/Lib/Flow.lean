import Mathlib.Tactic.Common

/-!
# Control flow over places

A machine whose instructions go from place to place, with calls and returns. What the
instructions do to the data is left open. Code that is moved, so that each place of one machine
has its image in another, runs as before.
-/

namespace SyncookieXdp.Lib

/-- Where an instruction goes on, and the data it leaves. A call also says where it returns to. -/
inductive Flow (π σ : Type) where
  | goto (p : π) (s : σ)
  | call (target back : π) (s : σ)
  | ret (s : σ)

namespace Flow

variable {π κ σ : Type}

def map (e : π → κ) : Flow π σ → Flow κ σ
  | goto p s => .goto (e p) s
  | call target back s => .call (e target) (e back) s
  | ret s => .ret s

/-- Every place the instruction names satisfies `P`. -/
def Within (P : π → Prop) : Flow π σ → Prop
  | goto p _ => P p
  | call target back _ => P target ∧ P back
  | ret _ => True

end Flow

structure Config (π σ : Type) where
  pc : π
  stack : List π
  data : σ

namespace Config

variable {π κ σ : Type}

def map (e : π → κ) (c : Config π σ) : Config κ σ := ⟨e c.pc, c.stack.map e, c.data⟩

/-- What follows an instruction: the next configuration, or the data at the end. -/
def after (c : Config π σ) : Flow π σ → Config π σ ⊕ σ
  | .goto p s => .inl ⟨p, c.stack, s⟩
  | .call target back s => .inl ⟨target, back :: c.stack, s⟩
  | .ret s =>
    match c.stack with
    | [] => .inr s
    | p :: ps => .inl ⟨p, ps, s⟩

/-- At most `n` instructions; `none` if a place has none. -/
def execute (fetch : π → σ → Option (Flow π σ)) : Nat → Config π σ → Option (Config π σ ⊕ σ)
  | 0, c => some (.inl c)
  | n + 1, c =>
    match fetch c.pc c.data with
    | none => none
    | some f =>
      match c.after f with
      | .inl c' => execute fetch n c'
      | .inr s => some (.inr s)

variable {fetch : π → σ → Option (Flow π σ)} {fetch' : κ → σ → Option (Flow κ σ)} {e : π → κ}

lemma after_map (c : Config π σ) (f : Flow π σ) :
    (c.map e).after (f.map e) = (c.after f).map (Config.map e) id := by
  obtain ⟨pc, stack, data⟩ := c
  cases f with
  | goto p s => rfl
  | call target back s => rfl
  | ret s => cases stack <;> rfl

/-- Places of a configuration. -/
def Within (P : π → Prop) (c : Config π σ) : Prop := P c.pc ∧ ∀ p ∈ c.stack, P p

lemma within_after {P : π → Prop} {c c' : Config π σ} {f : Flow π σ} (hc : c.Within P) (hf : f.Within P)
    (h : c.after f = .inl c') : c'.Within P := by
  obtain ⟨pc, stack, data⟩ := c
  cases f with
  | goto p s =>
    cases h
    exact ⟨hf, hc.2⟩
  | call target back s =>
    cases h
    exact ⟨hf.1, List.forall_mem_cons.mpr ⟨hf.2, hc.2⟩⟩
  | ret s =>
    cases stack with
    | nil => cases h
    | cons p ps =>
      cases h
      exact List.forall_mem_cons.mp hc.2

/-- Moved code runs as it did, as long as it stays within the places that were moved with it. -/
theorem execute_map {P : π → Prop}
    (hfetch : ∀ p s f, P p → fetch p s = some f → fetch' (e p) s = some (f.map e) ∧ f.Within P)
    {n : Nat} {c : Config π σ} (hc : c.Within P) {r : Config π σ ⊕ σ} (h : execute fetch n c = some r) :
    execute fetch' n (c.map e) = some (r.map (Config.map e) id) := by
  induction n generalizing c with
  | zero =>
    cases h
    rfl
  | succ n ih =>
    rw [execute] at h
    cases hf : fetch c.pc c.data with
    | none =>
      rw [hf] at h
      cases h
    | some f =>
      obtain ⟨hf', hwithin⟩ := hfetch c.pc c.data f hc.1 hf
      have hmoved : fetch' (c.map e).pc (c.map e).data = some (f.map e) := hf'
      rw [hf] at h
      rw [execute, hmoved]
      simp only [after_map]
      cases hafter : c.after f with
      | inl c' =>
        simp only [hafter] at h
        exact ih (within_after hc hwithin hafter) h
      | inr s =>
        simp only [hafter] at h
        cases h
        rfl

end Config

end SyncookieXdp.Lib
