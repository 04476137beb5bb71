import SyncookieXdp.Lib.Folds
import SyncookieXdp.Model.Stats

/-!
# Collecting the counters

One call of `stats_collect` reads every key of the map. A lookup that fails is reported on
the terminal and then forgotten: the record receives what happens to be on the stack.
-/

namespace SyncookieXdp
open Lib

/-- The map types `map_collect` reads. -/
def MapType.Handled : MapType → Prop
  | .array | .percpuArray => True
  | .other _ => False

instance : (t : MapType) → Decidable t.Handled
  | .array | .percpuArray => .isTrue trivial
  | .other _ => .isFalse (fun h => h)

namespace Proofs

/-- What a map of a handled type holds for a key, given the records the lookup delivers. -/
def mapValue (nrCpus : Nat) : MapType → (Nat → Datarec) → Option Datarec
  | .array, values => some (values 0)
  | .percpuArray, values => some (sumValues values nrCpus)
  | .other _, _ => none

section Collect

variable (read : MapRead) (nrCpus : Nat) (mapType : MapType) (now : Fin xdpActionMax → BitVec 64)
  (statsRec : StatsRecord)

lemma statsCollect_apply (value : Fin xdpActionMax → Datarec) (key : Fin xdpActionMax) :
    statsCollect read nrCpus mapType now value statsRec key =
      (mapCollect read nrCpus mapType key (now key) (value key) (statsRec key)).1 := by
  have h := foldl_update_apply
    (fun key r => (mapCollect read nrCpus mapType key.val (now key) (value key) r).1)
    (List.nodup_finRange xdpActionMax) statsRec key
  rw [if_pos (List.mem_finRange key)] at h
  exact h

/-- A failed lookup leaves the total alone and makes `map_collect` return false, a successful
one gives the map's value, and no total depends on what the local variable held. -/
structure ReportsOnlyReads : Prop where
  failed : ∀ (value : Fin xdpActionMax → Datarec) (key : Fin xdpActionMax), read key = none →
    (statsCollect read nrCpus mapType now value statsRec key).total = (statsRec key).total ∧
      (mapCollect read nrCpus mapType key (now key) (value key) (statsRec key)).2 = false
  succeeded : ∀ (value : Fin xdpActionMax → Datarec) (key : Fin xdpActionMax) (values : Nat → Datarec)
    (v : Datarec), read key = some values → mapValue nrCpus mapType values = some v →
      (statsCollect read nrCpus mapType now value statsRec key).total = v
  independent : ∀ (value value' : Fin xdpActionMax → Datarec) (key : Fin xdpActionMax),
    (statsCollect read nrCpus mapType now value statsRec key).total =
      (statsCollect read nrCpus mapType now value' statsRec key).total

/-- What one call stores when its lookup succeeds. -/
lemma mapCollect_of_read {key : Nat} {values : Nat → Datarec} (h : read key = some values)
    (t : BitVec 64) (value : Datarec) (r : Record) :
    (mapCollect read nrCpus mapType key t value r).1.total =
      (mapValue nrCpus mapType values).getD r.total := by
  cases mapType with
  | array => simp [mapCollect, mapGetValueArray, mapValue, h]
  | percpuArray => simp [mapCollect, mapGetValuePercpuArray, mapValue, h]
  | other n => rfl

lemma mapCollect_snd (key : Nat) (t : BitVec 64) (value : Datarec) (r : Record) :
    (mapCollect read nrCpus mapType key t value r).2 = true ↔ mapType.Handled := by
  cases mapType <;> simp [mapCollect, MapType.Handled]

lemma mapCollect_of_not_handled (h : ¬mapType.Handled) (key : Nat) (t : BitVec 64)
    (value : Datarec) (r : Record) :
    (mapCollect read nrCpus mapType key t value r).1.total = r.total := by
  cases mapType with
  | array => exact absurd trivial h
  | percpuArray => exact absurd trivial h
  | other n => rfl

/-- Nothing is looked up in a map of another type, and nothing is stored. -/
lemma reportsOnlyReads_of_not_handled (h : ¬mapType.Handled) :
    ReportsOnlyReads read nrCpus mapType now statsRec := by
  have htotal (value : Fin xdpActionMax → Datarec) (key : Fin xdpActionMax) :
      (statsCollect read nrCpus mapType now value statsRec key).total = (statsRec key).total := by
    rw [statsCollect_apply, mapCollect_of_not_handled read nrCpus mapType h]
  refine ⟨?_, ?_, ?_⟩
  · intro value key _
    refine ⟨htotal value key, ?_⟩
    rw [← Bool.not_eq_true, mapCollect_snd]
    exact h
  · intro value key values v _ hv
    cases mapType with
    | array => exact absurd trivial h
    | percpuArray => exact absurd trivial h
    | other n => cases hv
  · intro value value' key
    rw [htotal, htotal]

lemma reportsOnlyReads_of_read (h : ∀ key : Fin xdpActionMax, (read key).isSome) :
    ReportsOnlyReads read nrCpus mapType now statsRec := by
  have htotal (value : Fin xdpActionMax → Datarec) {key : Fin xdpActionMax} {values : Nat → Datarec}
      (hread : read key = some values) :
      (statsCollect read nrCpus mapType now value statsRec key).total =
        (mapValue nrCpus mapType values).getD (statsRec key).total := by
    rw [statsCollect_apply, mapCollect_of_read read nrCpus mapType hread]
  refine ⟨?_, ?_, ?_⟩
  · intro value key hnone
    have hsome := h key
    rw [hnone] at hsome
    cases hsome
  · intro value key values v hread hv
    rw [htotal value hread, hv]
    rfl
  · intro value value' key
    obtain ⟨values, hread⟩ := Option.isSome_iff_exists.mp (h key)
    rw [htotal value hread, htotal value' hread]

/-- Only totals that were read are reported exactly when no lookup of the pass fails, or the map
is of a type that is not looked up at all. -/
theorem reports_only_reads_iff :
    ReportsOnlyReads read nrCpus mapType now statsRec ↔
      ¬mapType.Handled ∨ ∀ key : Fin xdpActionMax, (read key).isSome := by
  constructor
  · intro h
    by_cases hm : mapType.Handled
    · refine .inr ?_
      intro key
      by_contra hnone
      rw [Bool.not_eq_true, Option.isSome_eq_false_iff, Option.isNone_iff_eq_none] at hnone
      have hfalse := (h.failed (fun _ => ⟨0, 0⟩) key hnone).2
      rw [(mapCollect_snd read nrCpus mapType _ _ _ _).mpr hm] at hfalse
      cases hfalse
    · exact .inl hm
  · rintro (hm | hall)
    · exact reportsOnlyReads_of_not_handled read nrCpus mapType now statsRec hm
    · exact reportsOnlyReads_of_read read nrCpus mapType now statsRec hall

end Collect

/-- A per-CPU map on two CPUs whose lookup fails for `XDP_PASS` only. -/
def passUnread : MapRead := fun key => if key = XdpAction.pass.key then none else some (fun _ => ⟨7, 420⟩)

/-- The total of `XDP_PASS` turns into what the stack held. -/
theorem stack_reported_as_total :
    ¬ReportsOnlyReads passUnread 2 .percpuArray (fun _ => 0) (fun _ => ⟨0, ⟨5, 300⟩⟩) := by
  intro h
  have htotal := (h.failed (fun _ => ⟨0xdeadbeef, 0xffff⟩) ⟨2, by decide⟩ rfl).1
  revert htotal
  decide

end Proofs

end SyncookieXdp
