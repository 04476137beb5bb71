import SyncookieXdp.Model.Pinning

/-!
# What pinning leaves behind

Creating the files takes back what it did when it fails. Removing the files of an earlier
object does not, and it is only begun if one particular file is there.
-/

namespace SyncookieXdp.Proofs
open Lib

variable {V : Type}

/-! ### One file -/

section One

variable (dirLength : Nat)

/-- The path of the map's file is short enough. -/
def PathFits (m : BpfObjectMap V) : Prop := dirLength + 1 + m.name.length < pathMax

instance (m : BpfObjectMap V) : Decidable (PathFits dirLength m) := inferInstanceAs (Decidable (_ < _))

lemma pinPath_bind_eq_ok_iff (m : BpfObjectMap V) (f : CString → Except Int (PinDir V)) (d' : PinDir V) :
    pinPath dirLength m >>= f = .ok d' ↔ PathFits dirLength m ∧ f m.name = .ok d' := by
  unfold pinPath PathFits
  by_cases hfit : dirLength + 1 + m.name.length ≥ pathMax
  · rw [if_pos hfit]
    constructor
    · intro h
      cases h
    · intro h
      omega
  · rw [if_neg hfit]
    exact ⟨fun h => ⟨by omega, h⟩, fun h => h.2⟩

/-- Pinning needs a free name, unpinning one that is in use. -/
lemma claims_pinOne :
    Claims (pinOne (V := V) dirLength) (PathFits dirLength) BpfObjectMap.name (fun m => some m.map)
      (· = none) where
  ok_iff d m d' := by
    rw [pinOne, pinPath_bind_eq_ok_iff, bpfMapPin]
    apply and_congr_right
    intro _
    cases d m.name with
    | none => simp [eq_comm]
    | some v => simp
  taken m := by simp

lemma claims_unpinOne :
    Claims (unpinOne (V := V) dirLength) (PathFits dirLength) BpfObjectMap.name (fun _ => none)
      (fun v => v.isSome) where
  ok_iff d m d' := by
    rw [unpinOne, pinPath_bind_eq_ok_iff, bpfMapUnpin]
    apply and_congr_right
    intro _
    cases d m.name with
    | none => simp
    | some v => simp [eq_comm]
  taken m := by simp

end One

/-! ### All files of an object -/

section Object

variable (dirLength : Nat) (maps : List (BpfObjectMap V)) (d : PinDir V)

lemma unpinMaps_succeeds_iff :
    (bpfObjectUnpinMaps dirLength maps d).2 = none ↔
      (maps.map BpfObjectMap.name).Nodup ∧ ∀ m ∈ maps, PathFits dirLength m ∧ (d m.name).isSome :=
  (claims_unpinOne dirLength).succeeds_iff d maps

lemma unpinMaps_apply (h : (bpfObjectUnpinMaps dirLength maps d).2 = none) {m : BpfObjectMap V}
    (hm : m ∈ maps) : (bpfObjectUnpinMaps dirLength maps d).1 m.name = none :=
  (claims_unpinOne dirLength).apply_of_succeeds h hm

lemma pinMaps_succeeds_iff :
    (bpfObjectPinMaps dirLength maps d).2 = none ↔
      (maps.map BpfObjectMap.name).Nodup ∧ ∀ m ∈ maps, PathFits dirLength m ∧ d m.name = none := by
  rw [bpfObjectPinMaps, orUndo_snd]
  exact (claims_pinOne dirLength).succeeds_iff d maps

lemma pinMaps_apply (h : (bpfObjectPinMaps dirLength maps d).2 = none) {m : BpfObjectMap V}
    (hm : m ∈ maps) : (bpfObjectPinMaps dirLength maps d).1 m.name = some m.map := by
  rw [bpfObjectPinMaps, orUndo_snd] at h
  rw [bpfObjectPinMaps, orUndo_of_untilError [] h]
  exact (claims_pinOne dirLength).apply_of_succeeds h hm

/-- A failed `bpf_object__pin_maps` leaves the directory as it was. -/
lemma pinMaps_restores (h : (bpfObjectPinMaps dirLength maps d).2 ≠ none) :
    (bpfObjectPinMaps dirLength maps d).1 = d := by
  refine orUndo_restores ?_ h
  intro d m d' hpin
  obtain ⟨hfit, hnone, rfl⟩ := ((claims_pinOne dirLength).ok_iff d m d').mp hpin
  have hunpin : unpinOne dirLength (Function.update d m.name (some m.map)) m =
      .ok (Function.update (Function.update d m.name (some m.map)) m.name none) := by
    rw [(claims_unpinOne dirLength).ok_iff, Function.update_self]
    exact ⟨hfit, rfl, rfl⟩
  rw [hunpin]
  dsimp only
  rw [Function.update_idem, ← hnone, Function.update_eq_self]

/-- A failed `bpf_object__unpin_maps` leaves the directory as it was only if it failed at the
first map. -/
lemma unpinMaps_restores_iff (h : (bpfObjectUnpinMaps dirLength maps d).2 ≠ none) :
    (bpfObjectUnpinMaps dirLength maps d).1 = d ↔
      ∀ m, maps.head? = some m → ¬(PathFits dirLength m ∧ (d m.name).isSome) := by
  cases maps with
  | nil => exact absurd rfl h
  | cons m ms =>
    simp only [List.head?_cons, Option.some.injEq, forall_eq']
    cases hm : unpinOne dirLength d m with
    | error e =>
      rw [bpfObjectUnpinMaps, untilError, hm]
      refine iff_of_true rfl ?_
      rintro ⟨hfit, hsome⟩
      rw [((claims_unpinOne dirLength).ok_iff d m _).mpr ⟨hfit, hsome, rfl⟩] at hm
      cases hm
    | ok d' =>
      obtain ⟨hfit, hsome, rfl⟩ := ((claims_unpinOne dirLength).ok_iff d m d').mp hm
      rw [bpfObjectUnpinMaps, untilError, hm]
      refine iff_of_false ?_ (not_not.mpr ⟨hfit, hsome⟩)
      intro heq
      have hgone : Function.update d m.name none m.name = none := Function.update_self ..
      have htaken : ¬(Function.update d m.name none m.name).isSome := by
        rw [hgone]
        exact Bool.false_ne_true
      have hkept := (claims_unpinOne dirLength).apply_of_taken htaken ms
      have hname : d m.name = none := (congrFun heq m.name).symm.trans (hkept.trans hgone)
      rw [hname] at hsome
      cases hsome

end Object

/-! ### The loader -/

section Loader

variable (maps : List (BpfObjectMap V)) (subdir : IfName) (d : PinDir V)

/-- If the code is zero all maps are pinned, and otherwise the directory is unchanged. -/
def AllOrNothing (r : PinDir V × Nat) : Prop :=
  (r.2 = 0 → ∀ m ∈ maps, r.1 m.name = some m.map) ∧ (r.2 ≠ 0 → r.1 = d)

lemma pinMapsInBpfObject_of_absent (h : d mapName = none) :
    pinMapsInBpfObject maps subdir d =
      let (d', err) := bpfObjectPinMaps (pinDirLength subdir) maps d
      (d', if err.isSome then exitFailBpf else 0) := by
  unfold pinMapsInBpfObject
  simp only [h, Option.isSome_none, Bool.false_eq_true, if_false]
  split_ifs <;> rfl

lemma pinMapsInBpfObject_of_present (h : (d mapName).isSome)
    (hun : (bpfObjectUnpinMaps (pinDirLength subdir) maps d).2 = none) :
    pinMapsInBpfObject maps subdir d =
      let (d', err) := bpfObjectPinMaps (pinDirLength subdir) maps
        (bpfObjectUnpinMaps (pinDirLength subdir) maps d).1
      (d', if err.isSome then exitFailBpf else 0) := by
  unfold pinMapsInBpfObject
  simp only [h, if_true, hun, Option.isSome_none, Bool.false_eq_true, if_false]
  split_ifs <;> rfl

lemma pinMapsInBpfObject_of_refused (h : (d mapName).isSome)
    (hun : (bpfObjectUnpinMaps (pinDirLength subdir) maps d).2 ≠ none) :
    pinMapsInBpfObject maps subdir d =
      ((bpfObjectUnpinMaps (pinDirLength subdir) maps d).1, exitFailBpf) := by
  unfold pinMapsInBpfObject
  simp only [h, if_true, Option.isSome_iff_ne_none.mpr hun]

/-- However far unpinning gets, it puts no file in place. -/
lemma unpinMaps_le (dirLength : Nat) (name : CString) :
    (bpfObjectUnpinMaps dirLength maps d).1 name = none ∨ (bpfObjectUnpinMaps dirLength maps d).1 name = d name := by
  rcases (claims_unpinOne dirLength).apply_cases name d maps with hsame | ⟨m, -, hnone⟩
  · exact .inr hsame
  · exact .inl hnone

/-- Nothing to clean up: libbpf takes back what it did. -/
lemma allOrNothing_of_absent (h : d mapName = none) :
    AllOrNothing maps d (pinMapsInBpfObject maps subdir d) := by
  rw [pinMapsInBpfObject_of_absent maps subdir d h]
  cases hpin : (bpfObjectPinMaps (pinDirLength subdir) maps d).2 with
  | none =>
    refine ⟨?_, fun hcode => absurd (by simp [hpin]) hcode⟩
    intro _ m hm
    exact pinMaps_apply _ maps d hpin hm
  | some e =>
    refine ⟨fun hcode => absurd hcode (by simp [hpin, exitFailBpf]), ?_⟩
    intro _
    exact pinMaps_restores _ maps d (by simp [hpin])

/-- Once all files are gone there is nothing that could stop the maps from being pinned. -/
lemma allOrNothing_of_unpinned (h : (d mapName).isSome)
    (hun : (bpfObjectUnpinMaps (pinDirLength subdir) maps d).2 = none) :
    AllOrNothing maps d (pinMapsInBpfObject maps subdir d) := by
  obtain ⟨hnodup, hall⟩ := (unpinMaps_succeeds_iff _ maps d).mp hun
  have hpin := (pinMaps_succeeds_iff (pinDirLength subdir) maps
    (bpfObjectUnpinMaps (pinDirLength subdir) maps d).1).mpr
      ⟨hnodup, fun m hm => ⟨(hall m hm).1, unpinMaps_apply _ maps d hun hm⟩⟩
  rw [pinMapsInBpfObject_of_present maps subdir d h hun]
  refine ⟨?_, fun hcode => absurd (by simp [hpin]) hcode⟩
  intro _ m hm
  exact pinMaps_apply _ maps _ hpin hm

/-- A failure is one of some map, and it puts none of them in place. -/
lemma pinMapsInBpfObject_failed (h : (pinMapsInBpfObject maps subdir d).2 ≠ 0) :
    maps ≠ [] ∧ ∀ name, (pinMapsInBpfObject maps subdir d).1 name = none ∨
      (pinMapsInBpfObject maps subdir d).1 name = d name := by
  constructor
  · rintro rfl
    cases hstats : d mapName with
    | none =>
      rw [pinMapsInBpfObject_of_absent [] subdir d hstats] at h
      exact h rfl
    | some v =>
      rw [pinMapsInBpfObject_of_present [] subdir d (by rw [hstats]; rfl) rfl] at h
      exact h rfl
  · intro name
    cases hstats : d mapName with
    | none => exact .inr (congrFun ((allOrNothing_of_absent maps subdir d hstats).2 h) name)
    | some v =>
      have hpresent : (d mapName).isSome := by
        rw [hstats]
        rfl
      by_cases hun : (bpfObjectUnpinMaps (pinDirLength subdir) maps d).2 = none
      · exact .inr (congrFun ((allOrNothing_of_unpinned maps subdir d hpresent hun).2 h) name)
      · rw [pinMapsInBpfObject_of_refused maps subdir d hpresent hun]
        exact unpinMaps_le maps d _ name

lemma allOrNothing_of_refused_iff (h : (d mapName).isSome)
    (hun : (bpfObjectUnpinMaps (pinDirLength subdir) maps d).2 ≠ none) :
    AllOrNothing maps d (pinMapsInBpfObject maps subdir d) ↔
      ∀ m, maps.head? = some m → ¬(PathFits (pinDirLength subdir) m ∧ (d m.name).isSome) := by
  rw [pinMapsInBpfObject_of_refused maps subdir d h hun, ← unpinMaps_restores_iff _ maps d hun]
  unfold AllOrNothing exitFailBpf
  simp

/-- The three ways to keep it: no cleaning up, one that fails before it has removed a file, and
one that finds every file it looks for. -/
theorem pins_all_or_nothing_iff :
    AllOrNothing maps d (pinMapsInBpfObject maps subdir d) ↔
      d mapName = none ∨
        (∀ m, maps.head? = some m → ¬(PathFits (pinDirLength subdir) m ∧ (d m.name).isSome)) ∨
        ((maps.map BpfObjectMap.name).Nodup ∧
          ∀ m ∈ maps, PathFits (pinDirLength subdir) m ∧ (d m.name).isSome) := by
  cases h : d mapName with
  | none => exact iff_of_true (allOrNothing_of_absent maps subdir d h) (.inl rfl)
  | some v =>
    have hsome : (d mapName).isSome := by
      rw [h]
      rfl
    rw [← unpinMaps_succeeds_iff]
    by_cases hun : (bpfObjectUnpinMaps (pinDirLength subdir) maps d).2 = none
    · exact iff_of_true (allOrNothing_of_unpinned maps subdir d hsome hun) (.inr (.inr hun))
    · rw [allOrNothing_of_refused_iff maps subdir d hsome hun]
      simp only [reduceCtorEq, false_or, hun, or_false]

end Loader

/-- The object has got a new map since its maps were pinned. The old file is removed before the
new one is missed. -/
theorem extended_object_loses_pin :
    ¬AllOrNothing [⟨mapName, 7⟩, ⟨⟨CString.ascii "connections_table", by decide⟩, 8⟩]
      (fun name => if name = mapName then some 3 else none)
      (pinMapsInBpfObject [⟨mapName, 7⟩, ⟨⟨CString.ascii "connections_table", by decide⟩, 8⟩]
        ⟨⟨CString.ascii "eth0", by decide⟩, by decide⟩
        (fun name => if name = mapName then some 3 else none)) := by
  rintro ⟨-, hsame⟩
  have hkept := congrFun (hsame (by decide)) mapName
  exact absurd hkept (by decide)

end SyncookieXdp.Proofs
