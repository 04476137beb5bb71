import Mathlib.Algebra.BigOperators.Group.List.Basic
import Mathlib.Algebra.Order.Group.Multiset
import Mathlib.Tactic.Common

/-!
# Recorded calls

A program whose calls are recorded, with the rules for what holds before and after its steps. Some
calls acquire resources and others give them back, so from the record one can tell what the program
owns. A step that needs some resources and leaves others runs the same whatever else is owned.
-/

namespace SyncookieXdp.Lib

/-- What a call does to the resources of its caller. -/
inductive Transfer (ρ : Type) where
  | keep
  | acquire (r : ρ)
  | release (r : ρ)

section

variable {ρ κ α β : Type} [DecidableEq ρ]

/-- What is owned after a call; nothing can be given back that is not owned. -/
def Transfer.settle (own : Multiset ρ) : Transfer ρ → Option (Multiset ρ)
  | keep => some own
  | acquire r => some (r ::ₘ own)
  | release r => if r ∈ own then some (own.erase r) else none

/-- What is owned after the calls by someone who owned nothing before them. -/
def owned (transfer : κ → Transfer ρ) (calls : List κ) : Option (Multiset ρ) :=
  calls.foldlM (fun own call => (transfer call).settle own) 0

/-- A call whose answer depends on all calls before it. -/
def record (answer : List κ → α) (call : α → κ) : StateM (List κ) α :=
  fun calls => (answer calls, calls ++ [call (answer calls)])

/-- After calls with `pre` the step has a result and calls with `post`. -/
def Ensures (pre : List κ → Prop) (x : StateM (List κ) α) (post : α → List κ → Prop) : Prop :=
  ∀ calls, pre calls → post (x.run calls).1 (x.run calls).2

/-- From `pre` the step makes what `post` says of its result, and it leaves the rest alone. -/
def Keeps (transfer : κ → Transfer ρ) (pre : Multiset ρ) (x : StateM (List κ) α) (post : α → Multiset ρ) : Prop :=
  ∀ rest, Ensures (fun calls => owned transfer calls = some (pre + rest)) x
    (fun a calls => owned transfer calls = some (post a + rest))

/-- A condition on the result, whatever the calls before. -/
def Returns (x : StateM (List κ) α) (P : α → Prop) : Prop := Ensures (fun _ => True) x (fun a _ => P a)

/-- No call is taken out of the record. -/
def Appends (x : StateM (List κ) α) : Prop := ∀ calls, calls <+: (x.run calls).2

end

namespace Ensures

variable {κ α β : Type} {pre : List κ → Prop} {x : StateM (List κ) α} {post : α → List κ → Prop}

lemma done {a : α} (h : ∀ calls, pre calls → post a calls) : Ensures pre (pure a) post := h

lemma bind {f : α → StateM (List κ) β} {last : β → List κ → Prop} (hx : Ensures pre x post)
    (hf : ∀ a, Ensures (post a) (f a) last) : Ensures pre (x >>= f) last :=
  fun calls hpre => hf _ _ (hx calls hpre)

lemma imp {pre' : List κ → Prop} {post' : α → List κ → Prop} (hx : Ensures pre x post)
    (hpre : ∀ calls, pre' calls → pre calls) (hpost : ∀ a calls, post a calls → post' a calls) :
    Ensures pre' x post' :=
  fun calls h => hpost _ _ (hx calls (hpre calls h))

lemma call {answer : List κ → α} {call : α → κ}
    (h : ∀ calls, pre calls → post (answer calls) (calls ++ [call (answer calls)])) :
    Ensures pre (record answer call) post := h

lemma any (x : StateM (List κ) α) : Ensures pre x (fun _ _ => True) := fun _ _ => trivial

/-- What follows from the condition before can be used in the step. -/
lemma assume {φ : Prop} (hφ : ∀ calls, pre calls → φ) (h : φ → Ensures pre x post) : Ensures pre x post :=
  fun calls hpre => h (hφ calls hpre) calls hpre

/-- What more calls do not change still holds after the step. -/
lemma and_later {stable : List κ → Prop} (hx : Ensures pre x post)
    (hstable : ∀ calls calls', calls <+: calls' → stable calls → stable calls') (happends : Appends x) :
    Ensures (fun calls => stable calls ∧ pre calls) x (fun a calls => stable calls ∧ post a calls) :=
  fun calls h => ⟨hstable _ _ (happends calls) h.1, hx calls h.2⟩

end Ensures

namespace Keeps

variable {ρ κ α β : Type} [DecidableEq ρ] {transfer : κ → Transfer ρ} {pre : Multiset ρ}
  {x : StateM (List κ) α} {post : α → Multiset ρ}

lemma done {a : α} (h : pre = post a) : Keeps transfer pre (pure a) post := by
  intro rest calls howned
  rw [h] at howned
  exact howned

lemma bind {f : α → StateM (List κ) β} {last : β → Multiset ρ} (hx : Keeps transfer pre x post)
    (hf : ∀ a, Keeps transfer (post a) (f a) last) : Keeps transfer pre (x >>= f) last :=
  fun rest => (hx rest).bind (fun a => hf a rest)

/-- The next step may rely on what is known of all results. -/
lemma bind_of {f : α → StateM (List κ) β} {last : β → Multiset ρ} {known : α → Prop}
    (hx : Keeps transfer pre x post) (hknown : Returns x known)
    (hf : ∀ a, known a → Keeps transfer (post a) (f a) last) : Keeps transfer pre (x >>= f) last := by
  intro rest calls howned
  exact hf _ (hknown calls trivial) rest _ (hx rest calls howned)

lemma frame (hx : Keeps transfer pre x post) (more : Multiset ρ) :
    Keeps transfer (pre + more) x (fun a => post a + more) := by
  intro rest calls howned
  rw [add_assoc] at howned ⊢
  exact hx (more + rest) calls howned

lemma of_eq {pre' : Multiset ρ} {post' : α → Multiset ρ} (hx : Keeps transfer pre x post) (hpre : pre' = pre)
    (hpost : ∀ a, post a = post' a) : Keeps transfer pre' x post' := by
  rw [hpre, ← funext hpost]
  exact hx

lemma of_result {post' : α → Multiset ρ} (hx : Keeps transfer pre x post)
    (h : Returns x (fun a => post a = post' a)) : Keeps transfer pre x post' := by
  intro rest calls howned
  rw [← h calls trivial]
  exact hx rest calls howned

lemma call {answer : List κ → α} {call : α → κ}
    (h : ∀ a rest, (transfer (call a)).settle (pre + rest) = some (post a + rest)) :
    Keeps transfer pre (record answer call) post := by
  intro rest calls howned
  have hsettle := h (answer calls) rest
  have hrun : (record answer call).run calls = (answer calls, calls ++ [call (answer calls)]) := rfl
  rw [owned] at howned
  rw [hrun, owned, List.foldlM_append, howned]
  simpa using hsettle

/-- A loop over things that each have something of their own. -/
lemma each {γ : Type} {f : γ → StateM (List κ) α} {before : γ → Multiset ρ} (as : List γ)
    (hf : ∀ a ∈ as, Keeps transfer (before a) (f a) post) :
    Keeps transfer (as.map before).sum (as.mapM f) (fun bs => (bs.map post).sum) := by
  induction as with
  | nil => exact done rfl
  | cons a as ih =>
    rw [List.mapM_cons, List.map_cons, List.sum_cons]
    refine bind ((hf a List.mem_cons_self).frame _) (fun b => ?_)
    have htail := (ih (fun a' ha' => hf a' (List.mem_cons_of_mem a ha'))).frame (post b)
    refine bind (htail.of_eq (add_comm _ _) (fun _ => rfl)) (fun bs => done ?_)
    rw [List.map_cons, List.sum_cons, add_comm]

end Keeps

namespace Returns

variable {κ α β : Type} {x : StateM (List κ) α} {P : α → Prop}

lemma done {a : α} (h : P a) : Returns (κ := κ) (pure a) P := fun _ _ => h

lemma bind {f : α → StateM (List κ) β} {Q : β → Prop} (hx : Returns x P) (hf : ∀ a, P a → Returns (f a) Q) :
    Returns (x >>= f) Q := fun calls h => hf _ (hx calls h) _ trivial

lemma any (x : StateM (List κ) α) : Returns x (fun _ => True) := fun _ _ => trivial

lemma each {γ : Type} {f : γ → StateM (List κ) α} (hf : ∀ a, Returns (f a) P) (as : List γ) :
    Returns (as.mapM f) (fun bs => ∀ b ∈ bs, P b) := by
  induction as with
  | nil => exact done (by simp)
  | cons a as ih =>
    rw [List.mapM_cons]
    exact (hf a).bind (fun b hb => ih.bind (fun bs hbs => done (List.forall_mem_cons.mpr ⟨hb, hbs⟩)))

end Returns

namespace Appends

variable {κ α β : Type} {x : StateM (List κ) α}

lemma done (a : α) : Appends (κ := κ) (pure a) := fun calls => List.prefix_refl calls

lemma bind {f : α → StateM (List κ) β} (hx : Appends x) (hf : ∀ a, Appends (f a)) : Appends (x >>= f) :=
  fun calls => (hx calls).trans (hf _ _)

lemma call {answer : List κ → α} {call : α → κ} : Appends (record answer call) :=
  fun calls => List.prefix_append calls _

lemma each {γ : Type} {f : γ → StateM (List κ) α} (hf : ∀ a, Appends (f a)) (as : List γ) :
    Appends (as.mapM f) := by
  induction as with
  | nil => exact done []
  | cons a as ih =>
    rw [List.mapM_cons]
    exact bind (hf a) (fun _ => bind ih (fun _ => done _))

end Appends

end SyncookieXdp.Lib
