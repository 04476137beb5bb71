import Mathlib.Tactic.Common

/-!
# Bounded tables looked up through a covering relation

A table stores at most `cap` entries. A stored key answers a looked-up key when it covers
it, and among several answers the one of highest rank is returned. Storing a key replaces
the entries that cover it and are covered by it. With equality as the relation this is an
exact-match table; with the prefix relation ranked by length it is a longest-prefix table.
-/

namespace SyncookieXdp.Lib

structure CoverTable (κ ν : Type) (cap : Nat) where
  entries : List (κ × ν)
  bounded : entries.length ≤ cap

namespace CoverTable

variable {κ ν : Type} {cap : Nat}

def empty : CoverTable κ ν cap := ⟨[], Nat.zero_le cap⟩

def size (t : CoverTable κ ν cap) : Nat := t.entries.length

section Relation

variable (R : κ → κ → Prop) [DecidableRel R] (rank : κ → Nat)

/-- The entry of highest rank that covers `k`; among equals, the one stored last. -/
def best (k : κ) : List (κ × ν) → Option (κ × ν)
  | [] => none
  | e :: es =>
    if R e.1 k then
      match best k es with
      | none => some e
      | some e' => if rank e.1 < rank e'.1 then some e' else some e
    else best k es

def find (t : CoverTable κ ν cap) (k : κ) : Option ν := (best R rank k t.entries).map Prod.snd

/-- The entries that a new entry at `k` leaves in place. -/
def others (t : CoverTable κ ν cap) (k : κ) : List (κ × ν) :=
  t.entries.filter (fun e => ¬(R k e.1 ∧ R e.1 k))

def store (t : CoverTable κ ν cap) (k : κ) (v : ν) : Option (CoverTable κ ν cap) :=
  if h : (t.others R k).length < cap then some ⟨(k, v) :: t.others R k, h⟩ else none

lemma isSome_best (k : κ) (es : List (κ × ν)) :
    (best R rank k es).isSome ↔ ∃ e ∈ es, R e.1 k := by
  induction es with
  | nil => simp [best]
  | cons e es ih =>
    simp only [best, List.mem_cons, exists_eq_or_imp]
    by_cases he : R e.1 k
    · cases hb : best R rank k es with
      | none => simp [he]
      | some e' => simp only [he, if_true]; split <;> simp
    · simp only [he, if_false, false_or, ih]

lemma isSome_find (t : CoverTable κ ν cap) (k : κ) :
    (t.find R rank k).isSome ↔ ∃ e ∈ t.entries, R e.1 k := by
  rw [find, Option.isSome_map, isSome_best]

lemma length_others_le (t : CoverTable κ ν cap) (k : κ) : (t.others R k).length ≤ t.size :=
  List.length_filter_le _ _

lemma store_of_room (t : CoverTable κ ν cap) (k : κ) (v : ν) (h : t.size < cap) :
    ∃ t', t.store R k v = some t' :=
  ⟨_, dif_pos (Nat.lt_of_le_of_lt (t.length_others_le R k) h)⟩

lemma entries_of_store {t t' : CoverTable κ ν cap} {k : κ} {v : ν} (h : t.store R k v = some t') :
    t'.entries = (k, v) :: t.others R k := by
  unfold store at h
  split at h
  · cases h
    rfl
  · cases h

lemma size_of_store {t t' : CoverTable κ ν cap} {k : κ} {v : ν} (h : t.store R k v = some t') :
    t'.size ≤ t.size + 1 := by
  rw [size, entries_of_store R h, List.length_cons]
  exact Nat.succ_le_succ (t.length_others_le R k)

/-- Storing `k` adds exactly the keys that `k` covers to those already answered. -/
theorem isSome_find_store (htrans : ∀ a b c, R a b → R b c → R a c)
    {t t' : CoverTable κ ν cap} {k : κ} {v : ν} (h : t.store R k v = some t') (k' : κ) :
    (t'.find R rank k').isSome ↔ R k k' ∨ (t.find R rank k').isSome := by
  rw [isSome_find, isSome_find, entries_of_store R h]
  simp only [List.mem_cons, exists_eq_or_imp, others, List.mem_filter, decide_eq_true_eq]
  constructor
  · rintro (hk | ⟨e, ⟨he, -⟩, hek⟩)
    · exact .inl hk
    · exact .inr ⟨e, he, hek⟩
  · rintro (hk | ⟨e, he, hek⟩)
    · exact .inl hk
    · by_cases hs : R k e.1 ∧ R e.1 k
      · exact .inl (htrans _ _ _ hs.1 hek)
      · exact .inr ⟨e, ⟨he, hs⟩, hek⟩

/-- No two entries cover each other. -/
def Distinct (t : CoverTable κ ν cap) : Prop := t.entries.Pairwise (fun a b => ¬(R a.1 b.1 ∧ R b.1 a.1))

omit [DecidableRel R] in
lemma distinct_empty : (empty : CoverTable κ ν cap).Distinct R := List.Pairwise.nil

lemma Distinct.store {t t' : CoverTable κ ν cap} (ht : t.Distinct R) {k : κ} {v : ν}
    (h : t.store R k v = some t') : t'.Distinct R := by
  rw [Distinct, entries_of_store R h, List.pairwise_cons]
  refine ⟨?_, List.Pairwise.filter _ ht⟩
  intro e he
  exact of_decide_eq_true (List.mem_filter.mp he).2

/-- An entry that a full table takes replaces one that covers the same keys. -/
theorem exists_replaced_of_full {t t' : CoverTable κ ν cap} (hfull : t.size = cap) {k : κ} {v : ν}
    (h : t.store R k v = some t') : ∃ e ∈ t.entries, R k e.1 ∧ R e.1 k := by
  by_contra hnone
  have hothers : t.others R k = t.entries := by
    apply List.filter_eq_self.mpr
    intro e he
    exact decide_eq_true (fun hrep => hnone ⟨e, he, hrep⟩)
  unfold CoverTable.store at h
  split at h
  · rename_i hlt
    rw [hothers] at hlt
    exact absurd hfull (Nat.ne_of_lt hlt)
  · cases h

/-- Among distinct entries a new one replaces at most one. -/
lemma length_others_of_distinct (htrans : ∀ a b c, R a b → R b c → R a c) (k : κ)
    {es : List (κ × ν)} (hes : es.Pairwise (fun a b => ¬(R a.1 b.1 ∧ R b.1 a.1))) :
    es.length ≤ (es.filter (fun e => ¬(R k e.1 ∧ R e.1 k))).length + 1 := by
  induction es with
  | nil => exact Nat.zero_le _
  | cons e es ih =>
    obtain ⟨hhead, htail⟩ := List.pairwise_cons.mp hes
    by_cases hrep : R k e.1 ∧ R e.1 k
    · have hkeep : es.filter (fun e => ¬(R k e.1 ∧ R e.1 k)) = es := by
        apply List.filter_eq_self.mpr
        intro e' he'
        refine decide_eq_true (fun hrep' => hhead e' he' ⟨?_, ?_⟩)
        · exact htrans _ _ _ hrep.2 hrep'.1
        · exact htrans _ _ _ hrep'.2 hrep.1
      exact Nat.le_of_eq (by rw [List.filter_cons_of_neg (by simp [hrep]), hkeep, List.length_cons])
    · rw [List.filter_cons, if_pos (decide_eq_true hrep), List.length_cons, List.length_cons]
      exact Nat.succ_le_succ (ih htail)

/-- A full table of distinct entries stays full and answers the same keys for ever. -/
theorem store_of_full (htrans : ∀ a b c, R a b → R b c → R a c) {t t' : CoverTable κ ν cap}
    (ht : t.Distinct R) (hfull : t.size = cap) {k : κ} {v : ν} (h : t.store R k v = some t') :
    t'.size = cap ∧ ∀ k', (t'.find R rank k').isSome ↔ (t.find R rank k').isSome := by
  constructor
  · have hgrown : t.size ≤ t'.size := by
      rw [size, size, entries_of_store R h]
      exact length_others_of_distinct R htrans k ht
    exact Nat.le_antisymm t'.bounded (Nat.le_trans (Nat.le_of_eq hfull.symm) hgrown)
  · intro k'
    rw [isSome_find_store R rank htrans h]
    refine or_iff_right_of_imp ?_
    intro hk
    obtain ⟨e, he, -, hek⟩ := exists_replaced_of_full R hfull h
    exact (t.isSome_find R rank k').mpr ⟨e, he, htrans _ _ _ hek hk⟩

end Relation

end CoverTable

end SyncookieXdp.Lib
