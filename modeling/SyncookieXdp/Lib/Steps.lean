import Mathlib.Data.List.Forall2
import Mathlib.Tactic.Common

/-!
# Loops that stop at the first error

A loop over a list whose steps can fail. `untilError` keeps the state it has reached when a
step fails; `orUndo` first takes back the steps it has made, the last one first. In
`untilStop` the step that ends the loop changes the state as well.
-/

namespace SyncookieXdp.Lib

variable {σ α ε : Type} (step : σ → α → Except ε σ)

def untilError (s : σ) : List α → σ × Option ε
  | [] => (s, none)
  | a :: as =>
    match step s a with
    | .error e => (s, some e)
    | .ok s' => untilError s' as

/-- `done` holds the steps made so far, the last one first. -/
def orUndo (undo : σ → α → σ) (done : List α) (s : σ) : List α → σ × Option ε
  | [] => (s, none)
  | a :: as =>
    match step s a with
    | .error e => (done.foldl undo s, some e)
    | .ok s' => orUndo undo (a :: done) s' as

variable {step}

/-- If each step can be taken back, a loop that fails leaves no trace. -/
theorem orUndo_restores {undo : σ → α → σ} (hundo : ∀ s a s', step s a = .ok s' → undo s' a = s)
    {done as : List α} {s : σ} (h : (orUndo step undo done s as).2 ≠ none) :
    (orUndo step undo done s as).1 = done.foldl undo s := by
  induction as generalizing done s with
  | nil => exact absurd rfl h
  | cons a as ih =>
    cases hs : step s a with
    | error e => simp only [orUndo, hs]
    | ok s' =>
      simp only [orUndo, hs] at h ⊢
      rw [ih h, List.foldl_cons, hundo s a s' hs]

/-- Without an error the two loops do the same. -/
lemma orUndo_of_untilError {undo : σ → α → σ} (done : List α) {as : List α} {s : σ}
    (h : (untilError step s as).2 = none) :
    orUndo step undo done s as = untilError step s as := by
  induction as generalizing done s with
  | nil => rfl
  | cons a as ih =>
    cases hs : step s a with
    | error e =>
      rw [untilError, hs] at h
      cases h
    | ok s' =>
      simp only [untilError, orUndo, hs] at h ⊢
      exact ih (a :: done) h

lemma orUndo_snd {undo : σ → α → σ} (done as : List α) (s : σ) :
    (orUndo step undo done s as).2 = (untilError step s as).2 := by
  induction as generalizing done s with
  | nil => rfl
  | cons a as ih =>
    cases hs : step s a with
    | error e => simp only [untilError, orUndo, hs]
    | ok s' =>
      simp only [untilError, orUndo, hs]
      exact ih (a :: done) s'

/-! ### Steps that each claim a slot -/

/-- Each step needs its slot to satisfy `p` and puts a value there that does not. -/
structure Claims {κ β : Type} [DecidableEq κ] (claim : (κ → β) → α → Except ε (κ → β))
    (usable : α → Prop) (key : α → κ) (val : α → β) (p : β → Prop) : Prop where
  ok_iff : ∀ s a s', claim s a = .ok s' ↔
    usable a ∧ p (s (key a)) ∧ s' = Function.update s (key a) (val a)
  taken : ∀ a, ¬p (val a)

namespace Claims

variable {κ β : Type} [DecidableEq κ] {claim : (κ → β) → α → Except ε (κ → β)} {usable : α → Prop}
  {key : α → κ} {val : α → β} {p : β → Prop} (hc : Claims claim usable key val p)
include hc

/-- A slot that is taken is left alone. -/
lemma apply_of_taken {k : κ} {s : κ → β} (hk : ¬p (s k)) (as : List α) :
    (untilError claim s as).1 k = s k := by
  induction as generalizing s with
  | nil => rfl
  | cons a as ih =>
    cases hs : claim s a with
    | error e => rw [untilError, hs]
    | ok s' =>
      rw [untilError, hs]
      obtain ⟨-, hp, rfl⟩ := (hc.ok_iff s a s').mp hs
      have hne : k ≠ key a := by
        rintro rfl
        exact hk hp
      have hsame : Function.update s (key a) (val a) k = s k := Function.update_of_ne hne ..
      rw [← hsame] at hk
      exact (ih hk).trans hsame

/-- A slot holds what it held before, or what a step has put there. -/
lemma apply_cases (k : κ) (s : κ → β) (as : List α) :
    (untilError claim s as).1 k = s k ∨ ∃ a ∈ as, (untilError claim s as).1 k = val a := by
  induction as generalizing s with
  | nil => exact .inl rfl
  | cons a as ih =>
    cases hs : claim s a with
    | error e =>
      rw [untilError, hs]
      exact .inl rfl
    | ok s' =>
      rw [untilError, hs]
      obtain ⟨-, -, rfl⟩ := (hc.ok_iff s a s').mp hs
      rcases ih (Function.update s (key a) (val a)) with hsame | ⟨b, hb, hval⟩
      · by_cases hk : k = key a
        · rw [hk, Function.update_self] at hsame
          exact .inr ⟨a, List.mem_cons_self, hk ▸ hsame⟩
        · rw [Function.update_of_ne hk] at hsame
          exact .inl hsame
      · exact .inr ⟨b, List.mem_cons_of_mem a hb, hval⟩

/-- After one step the slots of the others are free exactly if they were and none of them is
the slot of that step. -/
lemma free_after_iff (s : κ → β) (a : α) (as : List α) :
    (∀ b ∈ as, usable b ∧ p (Function.update s (key a) (val a) (key b))) ↔
      key a ∉ as.map key ∧ ∀ b ∈ as, usable b ∧ p (s (key b)) := by
  constructor
  · intro hall
    have hne : ∀ b ∈ as, key b ≠ key a := by
      intro b hb heq
      have hpb := (hall b hb).2
      rw [heq, Function.update_self] at hpb
      exact hc.taken a hpb
    refine ⟨?_, ?_⟩
    · rw [List.mem_map]
      rintro ⟨b, hb, heq⟩
      exact hne b hb heq
    · intro b hb
      have hpb := hall b hb
      rw [Function.update_of_ne (hne b hb)] at hpb
      exact hpb
  · rintro ⟨hnew, hall⟩ b hb
    have hne : key b ≠ key a := fun heq => hnew (heq ▸ List.mem_map_of_mem hb)
    rw [Function.update_of_ne hne]
    exact hall b hb

/-- The loop succeeds exactly if the slots are distinct and all of them free. -/
theorem succeeds_iff (s : κ → β) (as : List α) :
    (untilError claim s as).2 = none ↔
      (as.map key).Nodup ∧ ∀ a ∈ as, usable a ∧ p (s (key a)) := by
  induction as generalizing s with
  | nil => simp [untilError]
  | cons a as ih =>
    cases hs : claim s a with
    | error e =>
      rw [untilError, hs]
      simp only [reduceCtorEq, false_iff]
      rintro ⟨-, hall⟩
      obtain ⟨hu, hp⟩ := hall a (List.mem_cons_self ..)
      rw [(hc.ok_iff s a _).mpr ⟨hu, hp, rfl⟩] at hs
      cases hs
    | ok s' =>
      obtain ⟨hu, hp, rfl⟩ := (hc.ok_iff s a s').mp hs
      rw [untilError, hs]
      refine (ih _).trans ?_
      rw [hc.free_after_iff, List.map_cons, List.nodup_cons, List.forall_mem_cons]
      constructor
      · rintro ⟨hnodup, hnew, hall⟩
        exact ⟨⟨hnew, hnodup⟩, ⟨hu, hp⟩, hall⟩
      · rintro ⟨⟨hnew, hnodup⟩, -, hall⟩
        exact ⟨hnodup, hnew, hall⟩

/-- A loop that succeeds has put every value in its slot. -/
theorem apply_of_succeeds {s : κ → β} {as : List α} (h : (untilError claim s as).2 = none)
    {a : α} (ha : a ∈ as) : (untilError claim s as).1 (key a) = val a := by
  induction as generalizing s with
  | nil => cases ha
  | cons b as ih =>
    cases hs : claim s b with
    | error e =>
      rw [untilError, hs] at h
      cases h
    | ok s' =>
      rw [untilError, hs] at h ⊢
      obtain ⟨-, -, rfl⟩ := (hc.ok_iff s b s').mp hs
      rcases List.mem_cons.mp ha with rfl | ha
      · have hset : Function.update s (key a) (val a) (key a) = val a := Function.update_self ..
        exact (hc.apply_of_taken (by rw [hset]; exact hc.taken a) as).trans hset
      · exact ih h ha

end Claims

/-! ### Steps that may end the loop -/

section UntilStop

def untilStop (step : σ → α → σ × Option ε) (s : σ) : List α → σ × Option ε
  | [] => (s, none)
  | a :: as =>
    match step s a with
    | (s', some e) => (s', some e)
    | (s', none) => untilStop step s' as

variable {step : σ → α → σ × Option ε}

lemma untilStop_append (s : σ) (as bs : List α) :
    untilStop step s (as ++ bs) =
      match untilStop step s as with
      | (s', some e) => (s', some e)
      | (s', none) => untilStop step s' bs := by
  induction as generalizing s with
  | nil => rfl
  | cons a as ih =>
    rcases hs : step s a with ⟨s', _ | e⟩
    · simp only [List.cons_append, untilStop, hs, ih]
    · simp only [List.cons_append, untilStop, hs]

theorem untilStop_invariant {P : σ → Prop} {as : List α}
    (hstep : ∀ s, ∀ a ∈ as, P s → P (step s a).1) {s : σ} (h : P s) : P (untilStop step s as).1 := by
  induction as generalizing s with
  | nil => exact h
  | cons a as ih =>
    have ha := hstep s a (List.mem_cons_self ..) h
    rcases hs : step s a with ⟨s', _ | e⟩
    · rw [hs] at ha
      simp only [untilStop, hs]
      exact ih (fun s a ha => hstep s a (List.mem_cons_of_mem _ ha)) ha
    · rw [hs] at ha
      simp only [untilStop, hs]
      exact ha

lemma untilStop_congr {other : σ → α → σ × Option ε} {as : List α}
    (h : ∀ s, ∀ a ∈ as, step s a = other s a) (s : σ) : untilStop step s as = untilStop other s as := by
  induction as generalizing s with
  | nil => rfl
  | cons a as ih =>
    have hrest := ih (fun s b hb => h s b (List.mem_cons_of_mem _ hb))
    simp only [untilStop, h s a (List.mem_cons_self ..), hrest]

end UntilStop

end SyncookieXdp.Lib
