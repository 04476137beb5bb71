import Mathlib.Data.List.Forall2
import Mathlib.Tactic.Common

/-!
# Loops over a list

A loop that visits each index once and rewrites its own slot, and a loop over options in
which a later option overrides an earlier one and some options end the loop.
-/

namespace SyncookieXdp.Lib

/-- A loop without repetitions rewrites each slot from the value it had before the loop. -/
lemma foldl_update_apply {κ β : Type} [DecidableEq κ] (g : κ → β → β) {l : List κ} (hl : l.Nodup)
    (r : κ → β) (k : κ) :
    l.foldl (fun r k => Function.update r k (g k (r k))) r k = if k ∈ l then g k (r k) else r k := by
  induction l generalizing r with
  | nil => rfl
  | cons a l ih =>
    rw [List.foldl_cons, ih hl.of_cons]
    by_cases hk : k = a
    · subst hk
      rw [if_neg (List.nodup_cons.mp hl).1, if_pos (List.mem_cons_self ..), Function.update_self]
    · rw [Function.update_of_ne hk]
      simp only [List.mem_cons, hk, false_or]

/-- What two lists have at the same place. -/
lemma getElem?_of_forall₂ {α β : Type} {R : α → β → Prop} {l : List α} {r : List β} (h : List.Forall₂ R l r)
    {k : Nat} {a : α} (ha : l[k]? = some a) : ∃ b, r[k]? = some b ∧ R a b := by
  induction h generalizing k with
  | nil => cases ha
  | cons hab _ ih =>
    cases k with
    | zero =>
      cases ha
      exact ⟨_, rfl, hab⟩
    | succ k => exact ih ha

section Options

variable {ε σ α : Type} {step : σ → α → Except ε σ}

lemma bind_eq_ok_iff {β : Type} {x : Except ε σ} {f : σ → Except ε β} {b : β} :
    x >>= f = .ok b ↔ ∃ s, x = .ok s ∧ f s = .ok b := by
  cases x with
  | error e => simp [bind, Except.bind]
  | ok s => simp [bind, Except.bind]

lemma forall₂_of_mapM {β : Type} {f : α → Except ε β} {l : List α} {r : List β} (h : l.mapM f = .ok r) :
    List.Forall₂ (fun a b => f a = .ok b) l r := by
  induction l generalizing r with
  | nil =>
    cases h
    exact .nil
  | cons a l ih =>
    rw [List.mapM_cons] at h
    obtain ⟨b, hb, h⟩ := bind_eq_ok_iff.mp h
    obtain ⟨bs, hbs, h⟩ := bind_eq_ok_iff.mp h
    cases h
    exact .cons hb (ih hbs)

lemma mapM_ok_iff {β : Type} {f : α → Except ε β} {l : List α} :
    (∃ r, l.mapM f = .ok r) ↔ ∀ a ∈ l, ∃ b, f a = .ok b := by
  induction l with
  | nil => exact iff_of_true ⟨[], rfl⟩ (by simp)
  | cons a l ih =>
    rw [List.forall_mem_cons, ← ih, List.mapM_cons]
    constructor
    · rintro ⟨r, h⟩
      obtain ⟨b, hb, h⟩ := bind_eq_ok_iff.mp h
      obtain ⟨bs, hbs, -⟩ := bind_eq_ok_iff.mp h
      exact ⟨⟨b, hb⟩, bs, hbs⟩
    · rintro ⟨⟨b, hb⟩, bs, hbs⟩
      exact ⟨b :: bs, bind_eq_ok_iff.mpr ⟨b, hb, bind_eq_ok_iff.mpr ⟨bs, hbs, rfl⟩⟩⟩

/-- If no step changes what the others need, a loop succeeds when each step can be the first. -/
theorem foldlM_ok_iff {can : σ → α → Prop} (hcan : ∀ s a, (∃ s', step s a = .ok s') ↔ can s a)
    (hkeep : ∀ s a s', step s a = .ok s' → ∀ b, can s' b ↔ can s b) {l : List α} {s : σ} :
    (∃ s', l.foldlM step s = .ok s') ↔ ∀ a ∈ l, can s a := by
  induction l generalizing s with
  | nil => exact iff_of_true ⟨s, rfl⟩ (by simp)
  | cons a l ih =>
    rw [List.forall_mem_cons, List.foldlM_cons]
    constructor
    · rintro ⟨s', h⟩
      obtain ⟨s₁, hfirst, hrest⟩ := bind_eq_ok_iff.mp h
      refine ⟨(hcan s a).mp ⟨s₁, hfirst⟩, fun b hb => ?_⟩
      exact (hkeep s a s₁ hfirst b).mp (ih.mp ⟨s', hrest⟩ b hb)
    · rintro ⟨ha, hl⟩
      obtain ⟨s₁, hfirst⟩ := (hcan s a).mpr ha
      obtain ⟨s', hrest⟩ := ih.mpr (fun b hb => (hkeep s a s₁ hfirst b).mpr (hl b hb))
      exact ⟨s', bind_eq_ok_iff.mpr ⟨s₁, hfirst, hrest⟩⟩

/-- What the steps leave unchanged, the whole loop does. -/
lemma map_of_mapM {β γ : Type} {f : α → Except ε β} {view : β → γ} {view' : α → γ}
    (hf : ∀ a b, f a = .ok b → view b = view' a) {l : List α} {r : List β} (h : l.mapM f = .ok r) :
    r.map view = l.map view' := by
  have hall := forall₂_of_mapM h
  clear h
  induction hall with
  | nil => rfl
  | cons hb _ ih => rw [List.map_cons, List.map_cons, hf _ _ hb, ih]

/-- The last option that sets a part of the state decides it. -/
theorem foldlM_last {β : Type} (view : σ → β) (sets : α → Option β)
    (hstep : ∀ s a s', step s a = .ok s' → view s' = (sets a).getD (view s)) {l : List α} {s s' : σ}
    (h : l.foldlM step s = .ok s') : view s' = ((l.filterMap sets).getLast?).getD (view s) := by
  induction l generalizing s with
  | nil =>
    cases h
    rfl
  | cons a l ih =>
    rw [List.foldlM_cons, bind_eq_ok_iff] at h
    obtain ⟨t, hs, ht⟩ := h
    rw [ih ht, hstep s a t hs]
    cases ha : sets a with
    | none => simp [ha]
    | some b => simp [ha, List.getLast?_cons]

/-- A part of the state that one option sets, and no option sets otherwise. -/
lemma foldlM_latch [DecidableEq α] {β : Type} (view : σ → β) (a : α) (c : β)
    (hstep : ∀ s o s', step s o = .ok s' → view s' = if o = a then c else view s) {l : List α}
    {s s' : σ} (h : l.foldlM step s = .ok s') : view s' = if a ∈ l then c else view s := by
  induction l generalizing s with
  | nil =>
    cases h
    rfl
  | cons o l ih =>
    rw [List.foldlM_cons, bind_eq_ok_iff] at h
    obtain ⟨t, hs, ht⟩ := h
    rw [ih ht, hstep s o t hs]
    by_cases ho : o = a
    · simp [ho]
    · simp only [List.mem_cons, ho, Ne.symm ho, if_false, false_or]

/-- A loop in which every error is the same one ends with it exactly when some option, in
whatever state it is met, is refused. -/
theorem foldlM_error_iff {e : ε} {refused : α → Prop}
    (hstep : ∀ s a, step s a = .error e ∧ refused a ∨ (∃ s', step s a = .ok s') ∧ ¬refused a)
    (l : List α) (s : σ) :
    l.foldlM step s = .error e ∧ (∃ a ∈ l, refused a) ∨
      (∃ s', l.foldlM step s = .ok s') ∧ ∀ a ∈ l, ¬refused a := by
  induction l generalizing s with
  | nil => exact .inr ⟨⟨s, rfl⟩, by simp⟩
  | cons a l ih =>
    rw [List.foldlM_cons]
    rcases hstep s a with ⟨hs, ha⟩ | ⟨⟨t, hs⟩, ha⟩
    · rw [hs]
      exact .inl ⟨rfl, a, List.mem_cons_self .., ha⟩
    · rw [hs]
      rcases ih t with ⟨ht, b, hb, hrb⟩ | ⟨⟨s', ht⟩, hall⟩
      · exact .inl ⟨ht, b, List.mem_cons_of_mem a hb, hrb⟩
      · refine .inr ⟨⟨s', ht⟩, ?_⟩
        intro b hb
        rcases List.mem_cons.mp hb with rfl | hb
        · exact ha
        · exact hall b hb

end Options

end SyncookieXdp.Lib
