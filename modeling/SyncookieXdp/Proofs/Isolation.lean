import Mathlib.Data.List.Perm.Subperm
import SyncookieXdp.Proofs.Tracking

/-!
# Connections that do not meet

Many clients share the table, in whatever order their packets come. A class of connections
sees nothing of the others as long as these do not store its keys and leave room: the answers
to its packets are those of a run without any other packet.
-/

namespace SyncookieXdp.Proofs
open Lib

lemma filter_out_of_lookup {T : Type} (M : BpfMap T) {maps maps' : Maps T} {p : Packet}
    (h : (M.lookup maps.connectionsTable (connectionAt p.frame).bytes).isSome =
      (M.lookup maps'.connectionsTable (connectionAt p.frame).bytes).isSome) :
    (filter M maps p).2 = (filter M maps' p).2 ∧
      branchAt M maps.connectionsTable p.frame = branchAt M maps'.connectionsTable p.frame := by
  have hb : branchAt M maps.connectionsTable p.frame = branchAt M maps'.connectionsTable p.frame := by
    rw [branchAt, branchAt, h]
  refine ⟨?_, hb⟩
  by_cases hd : Dispatched p.frame
  · rw [filter_dispatched M maps p hd, filter_dispatched M maps' p hd, control, control,
      invoke_controller M p.stack maps p.complete, invoke_controller M p.stack maps' p.complete, hb]
  · rw [filter_ignored M maps p hd, filter_ignored M maps' p hd]

/-! ### Exact tables -/

abbrev ExactTable := CoverTable Key Byte maxEntries

lemma size_le_of_lookup {t s : ExactTable} (ht : t.Distinct Eq)
    (hsub : ∀ k, (exactTable.lookup t k).isSome → (exactTable.lookup s k).isSome) : t.size ≤ s.size := by
  have hnodup : (t.entries.map Prod.fst).Nodup := by
    rw [List.Nodup, List.pairwise_map]
    exact List.Pairwise.imp (fun hne heq => hne ⟨heq, heq.symm⟩) ht
  have hsubset : t.entries.map Prod.fst ⊆ s.entries.map Prod.fst := by
    intro k hk
    obtain ⟨e, he, rfl⟩ := List.mem_map.mp hk
    have hfound := hsub e.1 ((CoverTable.isSome_find Eq (fun _ => 0) t e.1).mpr ⟨e, he, rfl⟩)
    obtain ⟨e', he', heq⟩ := (CoverTable.isSome_find Eq (fun _ => 0) s e.1).mp hfound
    exact List.mem_map.mpr ⟨e', he', heq⟩
  have hlen := (List.subperm_of_subset hnodup hsubset).length_le
  rw [List.length_map, List.length_map] at hlen
  exact hlen

lemma distinct_exactTable_update {t : ExactTable} (ht : t.Distinct Eq) (k : Key) (v : Byte) :
    (exactTable.update t k v).1.Distinct Eq := by
  rw [exactTable_update]
  cases hs : t.store Eq k v with
  | none => exact ht
  | some t' => exact CoverTable.Distinct.store Eq ht hs

/-- The same keys of the class are found in both tables, and the first holds all the second
does. -/
structure AgreeOn (C : Key → Bool) (s t : ExactTable) : Prop where
  same : ∀ k, C k = true → ((exactTable.lookup s k).isSome ↔ (exactTable.lookup t k).isSome)
  within : ∀ k, (exactTable.lookup t k).isSome → (exactTable.lookup s k).isSome
  distinct : t.Distinct Eq

namespace AgreeOn

variable {C : Key → Bool} {s t : ExactTable} (h : AgreeOn C s t) (hroom : s.size < maxEntries)
include h hroom

lemma update_both (k : Key) (v : Byte) :
    AgreeOn C (exactTable.update s k v).1 (exactTable.update t k v).1 := by
  have hroom' : t.size < maxEntries := Nat.lt_of_le_of_lt (size_le_of_lookup h.distinct h.within) hroom
  refine ⟨?_, ?_, distinct_exactTable_update h.distinct k v⟩
  · intro k' hk'
    rw [isSome_lookup_exactTable_update hroom, isSome_lookup_exactTable_update hroom', h.same k' hk']
  · intro k' hfound
    rw [isSome_lookup_exactTable_update hroom'] at hfound
    rw [isSome_lookup_exactTable_update hroom]
    exact hfound.imp_right (h.within k')

lemma update_other {k : Key} (hk : C k = false) (v : Byte) : AgreeOn C (exactTable.update s k v).1 t := by
  refine ⟨?_, ?_, h.distinct⟩
  · intro k' hk'
    have hne : k ≠ k' := by
      rintro rfl
      rw [hk] at hk'
      cases hk'
    rw [isSome_lookup_exactTable_update hroom, ← h.same k' hk']
    simp [hne]
  · intro k' hfound
    rw [isSome_lookup_exactTable_update hroom]
    exact .inr (h.within k' hfound)

end AgreeOn

/-! ### Runs -/

section Class

variable (C : Key → Bool)

/-- The packet belongs to a connection of the class. -/
def inClass (p : Packet) : Bool := C (connectionAt p.frame).bytes

/-- From whatever an earlier run has left, the packets of the class are answered in any
interleaving with packets of other connections as they are answered alone, as long as the table
has room and no valid ACK of another connection stores a key of the class. -/
theorem class_isolated (earlier ps : List Packet) :
    let maps := final (filter exactTable) emptyMaps earlier
    (∀ u ∈ run (filter exactTable) maps ps, u.pre.connectionsTable.size < maxEntries) →
    (∀ u ∈ run (filter exactTable) maps ps, ValidAck exactTable u → inClass C u.input = false →
      C u.input.stack.keyAtParameter = false) →
    ((run (filter exactTable) maps ps).filter (fun u => inClass C u.input)).map Transition.out =
      (run (filter exactTable) maps (ps.filter (inClass C))).map Transition.out := by
  intro maps hroom hforeign
  refine run_project (filter exactTable)
    (R := fun s t => AgreeOn C s.connectionsTable t.connectionsTable)
    (P := fun u => u.pre.connectionsTable.size < maxEntries ∧
      (ValidAck exactTable u → inClass C u.input = false → C u.input.stack.keyAtParameter = false)) ?_ ?_ ?_ ?_
  · rintro s t p hagree ⟨hfits, -⟩ hclass
    have hlookup : (exactTable.lookup s.connectionsTable (connectionAt p.frame).bytes).isSome =
        (exactTable.lookup t.connectionsTable (connectionAt p.frame).bytes).isSome :=
      Bool.eq_iff_iff.mpr (hagree.same _ hclass)
    obtain ⟨hout, hb⟩ := filter_out_of_lookup exactTable hlookup
    refine ⟨hout, ?_⟩
    rw [table_filter_eq, table_filter_eq, hb]
    split
    · exact hagree.update_both hfits _ _
    · exact hagree
  · rintro s t p hagree ⟨hfits, hkey⟩ hclass
    by_cases hvalid : ValidAck exactTable (transition (filter exactTable) s p)
    · have hack : Dispatched p.frame ∧ branchAt exactTable s.connectionsTable p.frame = .ack :=
        (validAck_transition exactTable s p).mp hvalid
      rw [table_filter_eq, if_pos hack]
      exact hagree.update_other hfits (hkey hvalid hclass) _
    · rw [maps_of_not_validAck exactTable s p hvalid]
      exact hagree
  · intro u hu
    exact ⟨hroom u hu, hforeign u hu⟩
  · exact ⟨fun _ _ => Iff.rfl, fun _ h => h, distinct_final storesIn_exactTable earlier⟩

end Class

/-- A packet of another client between those of 10.0.0.1, on a kernel stack. -/
def otherData : Packet :=
  ⟨kernelStack, sampleFrame [0x0a, 0x00, 0x00, 0x07, 0x0a, 0x00, 0x00, 0x02, 0x30, 0x39, 0x00, 0x50]
    [0, 0, 0, 2] [0, 0, 0, 0] 0x08, by decide⟩

theorem class_isolated_web :
    let C := fun k => decide (k = (connectionAt webData.frame).bytes)
    ((run (filter exactTable) emptyMaps [webSyn, otherData, webCookieAck luckyStack, otherData,
        webData]).filter (fun u => inClass C u.input)).map Transition.out =
      (run (filter exactTable) emptyMaps ([webSyn, otherData, webCookieAck luckyStack, otherData,
        webData].filter (inClass C))).map Transition.out :=
  class_isolated _ [] _ (by decide +kernel) (by decide +kernel)

end SyncookieXdp.Proofs
