import Mathlib.Tactic.Common
import Mathlib.Algebra.GroupWithZero.Nat

/-!
# Runs of a deterministic machine

A machine reads one input at a time. A run is the list of its transitions, so that a
statement about every input of a sequence can speak about the state it was processed in,
its output and everything that came earlier.
-/

namespace SyncookieXdp.Lib

structure Transition (σ ι ο : Type) where
  pre : σ
  input : ι
  out : ο
  post : σ

section Run

variable {σ ι ο : Type} (step : σ → ι → σ × ο)

def transition (s : σ) (i : ι) : Transition σ ι ο := ⟨s, i, (step s i).2, (step s i).1⟩

def run (s : σ) : List ι → List (Transition σ ι ο)
  | [] => []
  | i :: is => transition step s i :: run (step s i).1 is

def final (s : σ) : List ι → σ
  | [] => s
  | i :: is => final (step s i).1 is

lemma run_append (s : σ) (is js : List ι) :
    run step s (is ++ js) = run step s is ++ run step (final step s is) js := by
  induction is generalizing s with
  | nil => rfl
  | cons i is ih => simp only [List.cons_append, run, final, ih]

lemma final_append (s : σ) (is js : List ι) :
    final step s (is ++ js) = final step (final step s is) js := by
  induction is generalizing s with
  | nil => rfl
  | cons i is ih => simp only [List.cons_append, final, ih]

@[simp] lemma length_run (s : σ) (is : List ι) : (run step s is).length = is.length := by
  induction is generalizing s with
  | nil => rfl
  | cons i is ih => simp only [run, List.length_cons, ih]

lemma eq_transition_of_mem_run {s : σ} {is : List ι} {t : Transition σ ι ο}
    (h : t ∈ run step s is) : t = transition step t.pre t.input := by
  induction is generalizing s with
  | nil => cases h
  | cons i is ih =>
    rcases List.mem_cons.mp h with rfl | h
    · rfl
    · exact ih h

/-- Whatever a run establishes about a history and the state it leads to holds at every
transition, about the transitions before it and the state it starts from. -/
theorem run_invariant {Inv : List (Transition σ ι ο) → σ → Prop}
    (hstep : ∀ hist s i, Inv hist s → Inv (hist ++ [transition step s i]) (step s i).1)
    {hist : List (Transition σ ι ο)} {s : σ} (h₀ : Inv hist s) {is : List ι}
    {earlier later : List (Transition σ ι ο)} {t : Transition σ ι ο}
    (hrun : run step s is = earlier ++ t :: later) : Inv (hist ++ earlier) t.pre := by
  induction is generalizing s hist earlier with
  | nil => simp [run] at hrun
  | cons i is ih =>
    cases earlier with
    | nil =>
      simp only [run, List.nil_append, List.cons.injEq] at hrun
      obtain ⟨rfl, -⟩ := hrun
      rw [List.append_nil]
      exact h₀
    | cons e earlier =>
      simp only [run, List.cons_append, List.cons.injEq] at hrun
      obtain ⟨rfl, hrest⟩ := hrun
      simpa using ih (hstep hist s i h₀) hrest

theorem final_invariant {Inv : List (Transition σ ι ο) → σ → Prop}
    (hstep : ∀ hist s i, Inv hist s → Inv (hist ++ [transition step s i]) (step s i).1)
    {hist : List (Transition σ ι ο)} {s : σ} (h₀ : Inv hist s) (is : List ι) :
    Inv (hist ++ run step s is) (final step s is) := by
  induction is generalizing s hist with
  | nil => simpa [run, final] using h₀
  | cons i is ih => simpa [run, final] using ih (hstep hist s i h₀)

/-- If each step costs one exactly on the transitions in `P`, a run costs as many as it has
transitions in `P`. -/
theorem sum_run_eq_countP {cost : ο → Nat} {P : Transition σ ι ο → Prop} [DecidablePred P]
    (hcost : ∀ s i, cost (step s i).2 = if P (transition step s i) then 1 else 0)
    (s : σ) (is : List ι) :
    ((run step s is).map (fun u => cost u.out)).sum = (run step s is).countP P := by
  induction is generalizing s with
  | nil => rfl
  | cons i is ih =>
    rw [run, List.map_cons, List.sum_cons, List.countP_cons, ih]
    change cost (step s i).2 + _ = _
    rw [hcost]
    simp only [decide_eq_true_eq]
    omega

theorem final_eq_of_post_eq_pre {s : σ} {is : List ι} (h : ∀ u ∈ run step s is, u.post = u.pre) :
    final step s is = s := by
  induction is generalizing s with
  | nil => rfl
  | cons i is ih =>
    have h₀ : (step s i).1 = s := h (transition step s i) (List.mem_cons_self ..)
    rw [final, ih (fun u hu => h u (List.mem_cons_of_mem _ hu)), h₀]

/-- What every step keeps holds wherever a run passes. -/
theorem pre_invariant {Q : σ → Prop} (hstep : ∀ s i, Q s → Q (step s i).1) {s : σ} (h₀ : Q s)
    {is : List ι} {u : Transition σ ι ο} (hu : u ∈ run step s is) : Q u.pre := by
  induction is generalizing s with
  | nil => cases hu
  | cons i is ih =>
    rcases List.mem_cons.mp hu with rfl | hu
    · exact h₀
    · exact ih (hstep s i h₀) hu

/-- What every step keeps holds from a transition on. -/
theorem pre_of_later {Q : σ → Prop} (hstep : ∀ s i, Q s → Q (step s i).1) {s : σ} {is : List ι}
    {earlier between later : List (Transition σ ι ο)} {u v : Transition σ ι ο}
    (hrun : run step s is = (earlier ++ u :: between) ++ v :: later) (hu : Q u.pre) : Q v.pre := by
  have hinv : ∀ hist s i, (u ∈ hist → Q s) →
      u ∈ hist ++ [transition step s i] → Q (step s i).1 := by
    intro hist s i hs hmem
    rcases List.mem_append.mp hmem with hmem | hmem
    · exact hstep s i (hs hmem)
    · rw [List.mem_singleton] at hmem
      rw [hmem] at hu
      exact hstep s i hu
  have hstart : u ∈ ([] : List (Transition σ ι ο)) → Q s := fun h => absurd h List.not_mem_nil
  exact run_invariant step hinv hstart hrun (by simp)

/-- What every transition of a run keeps holds in the end. -/
theorem final_keeps {Q : σ → Prop} {P : Transition σ ι ο → Prop}
    (hstep : ∀ s i, P (transition step s i) → Q s → Q (step s i).1) {s : σ} {is : List ι}
    (hP : ∀ u ∈ run step s is, P u) (hs : Q s) : Q (final step s is) := by
  induction is generalizing s with
  | nil => exact hs
  | cons i is ih =>
    exact ih (fun u hu => hP u (List.mem_cons_of_mem _ hu)) (hstep s i (hP _ (List.mem_cons_self ..)) hs)

/-- What holds after a transition and is kept by all that follow holds in the end. -/
theorem final_of_later {Q : σ → Prop} {P : Transition σ ι ο → Prop}
    (hstep : ∀ s i, P (transition step s i) → Q s → Q (step s i).1) {s : σ} {is : List ι}
    {earlier later : List (Transition σ ι ο)} {t : Transition σ ι ο}
    (hrun : run step s is = earlier ++ t :: later) (hlater : ∀ u ∈ later, P u) (ht : Q t.post) :
    Q (final step s is) := by
  induction is generalizing s earlier with
  | nil => simp [run] at hrun
  | cons i is ih =>
    cases earlier with
    | nil =>
      simp only [run, List.nil_append, List.cons.injEq] at hrun
      obtain ⟨rfl, rfl⟩ := hrun
      rw [final]
      exact final_keeps step hstep hlater ht
    | cons e earlier =>
      simp only [run, List.cons_append, List.cons.injEq] at hrun
      exact ih hrun.2

/-- Replaying the inputs of some transitions gives just these transitions again and ends in the
same state, if all others leave the state alone. -/
theorem run_kept {s : σ} {is : List ι} {keep : Transition σ ι ο → Bool}
    (h : ∀ u ∈ run step s is, keep u = false → u.post = u.pre) :
    run step s (((run step s is).filter keep).map Transition.input) = (run step s is).filter keep ∧
      final step s (((run step s is).filter keep).map Transition.input) = final step s is := by
  induction is generalizing s with
  | nil => exact ⟨rfl, rfl⟩
  | cons i is ih =>
    rw [run] at h ⊢
    obtain ⟨hrun, hfinal⟩ := ih (fun u hu => h u (List.mem_cons_of_mem _ hu))
    cases hk : keep (transition step s i) with
    | true =>
      rw [List.filter_cons_of_pos hk, List.map_cons, run, final]
      exact ⟨congrArg _ hrun, hfinal⟩
    | false =>
      have hsame : (step s i).1 = s := h _ (List.mem_cons_self ..) hk
      rw [List.filter_cons_of_neg (by simp [hk]), final]
      rw [hsame] at hrun hfinal ⊢
      exact ⟨hrun, hfinal⟩

lemma input_mem_of_mem_run {s : σ} {is : List ι} {u : Transition σ ι ο} (h : u ∈ run step s is) :
    u.input ∈ is := by
  induction is generalizing s with
  | nil => cases h
  | cons i is ih =>
    rcases List.mem_cons.mp h with rfl | h
    · exact List.mem_cons_self ..
    · exact List.mem_cons_of_mem _ (ih h)

theorem pre_eq_of_post_eq_pre {s : σ} {is : List ι} (h : ∀ u ∈ run step s is, u.post = u.pre)
    {u : Transition σ ι ο} (hu : u ∈ run step s is) : u.pre = s := by
  induction is generalizing s with
  | nil => cases hu
  | cons i is ih =>
    have h₀ : (step s i).1 = s := h (transition step s i) (List.mem_cons_self ..)
    rcases List.mem_cons.mp hu with rfl | hu
    · rfl
    · exact (ih (fun v hv => h v (List.mem_cons_of_mem _ hv)) hu).trans h₀

/-- Two states are related in the eyes of some of the inputs: these have the same output in
both and keep them related, and all other inputs change neither side of that. -/
theorem run_project {R : σ → σ → Prop} {P : Transition σ ι ο → Prop} {sel : ι → Bool}
    (hsel : ∀ s t i, R s t → P (transition step s i) → sel i = true →
      (step s i).2 = (step t i).2 ∧ R (step s i).1 (step t i).1)
    (hother : ∀ s t i, R s t → P (transition step s i) → sel i = false → R (step s i).1 t)
    {is : List ι} {s t : σ} (hP : ∀ u ∈ run step s is, P u) (hR : R s t) :
    ((run step s is).filter (fun u => sel u.input)).map Transition.out =
      (run step t (is.filter sel)).map Transition.out := by
  induction is generalizing s t with
  | nil => rfl
  | cons i is ih =>
    rw [run] at hP ⊢
    have hi := hP _ (List.mem_cons_self ..)
    have hrest := fun u hu => hP u (List.mem_cons_of_mem _ hu)
    have hinput : (transition step s i).input = i := rfl
    cases hs : sel i with
    | true =>
      obtain ⟨hout, hnext⟩ := hsel s t i hR hi hs
      simp only [List.filter_cons, hinput, hs, if_true, run, List.map_cons, ih hrest hnext]
      exact congrArg (· :: _) hout
    | false =>
      simp only [List.filter_cons, hinput, hs, Bool.false_eq_true, if_false]
      exact ih hrest (hother s t i hR hi hs)

end Run

lemma exists_last {α : Type} {P : α → Prop} {l : List α} (h : ∃ x ∈ l, P x) :
    ∃ a x b, l = a ++ x :: b ∧ P x ∧ ∀ y ∈ b, ¬P y := by
  induction l with
  | nil => simp at h
  | cons z l ih =>
    by_cases hl : ∃ x ∈ l, P x
    · obtain ⟨a, x, b, rfl, hx, hb⟩ := ih hl
      exact ⟨z :: a, x, b, rfl, hx, hb⟩
    · obtain ⟨x, hx, hpx⟩ := h
      rcases List.mem_cons.mp hx with rfl | hx
      · exact ⟨[], x, l, rfl, hpx, fun y hy hpy => hl ⟨y, hy, hpy⟩⟩
      · exact absurd ⟨x, hx, hpx⟩ hl

end SyncookieXdp.Lib
