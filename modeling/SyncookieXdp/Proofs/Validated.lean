import SyncookieXdp.Lib.Run
import SyncookieXdp.Proofs.Handshake

/-!
# Validated connections

Runs of the controller over an exact-match table that starts empty. A packet should be
passed exactly when an earlier ACK of its connection was accepted. The table holds the keys
that `handle_ack` stored, and these are the octets found at the address of its own pointer
parameter, so the law holds exactly as long as those octets happen to be the connection.
-/

namespace SyncookieXdp.Proofs
open Lib

lemma bytes_injective : Function.Injective ConnectionT.bytes := by
  intro c d h
  have hb (i : Nat) (hi : i < 12) : c.bytes[i] = d.bytes[i] := by rw [h]
  have hsrc : c.srcAddr = d.srcAddr := by
    rw [← le32_octet c.srcAddr, ← le32_octet d.srcAddr]
    congr 1
    exacts [hb 0 (by decide), hb 1 (by decide), hb 2 (by decide), hb 3 (by decide)]
  have hdst : c.dstAddr = d.dstAddr := by
    rw [← le32_octet c.dstAddr, ← le32_octet d.dstAddr]
    congr 1
    exacts [hb 4 (by decide), hb 5 (by decide), hb 6 (by decide), hb 7 (by decide)]
  have hsp : c.srcPort = d.srcPort := by
    rw [← le16_octet c.srcPort, ← le16_octet d.srcPort]
    congr 1
    exacts [hb 8 (by decide), hb 9 (by decide)]
  have hdp : c.dstPort = d.dstPort := by
    rw [← le16_octet c.dstPort, ← le16_octet d.dstPort]
    congr 1
    exacts [hb 10 (by decide), hb 11 (by decide)]
  cases c
  cases d
  simp_all

abbrev ControlStep := Transition (Maps (CoverTable Key Byte maxEntries)) Packet Outcome

def controlRun (ps : List Packet) : List ControlStep := run (control exactTable) emptyMaps ps

def Accepted (u : ControlStep) : Prop := Call.handleAck ∈ u.out.calls

instance : DecidablePred Accepted := fun u => inferInstanceAs (Decidable (Call.handleAck ∈ u.out.calls))

/-- Every packet of the run is passed exactly when an earlier packet of its connection took
the `handle_ack` branch. -/
def PassesValidated (steps : List ControlStep) : Prop :=
  ∀ earlier u later, steps = earlier ++ u :: later →
    (u.out.verdict = .ok .pass ↔
      ∃ v ∈ earlier, connectionAt v.input.frame = connectionAt u.input.frame ∧ Accepted v)

/-- If the step takes the `handle_ack` branch, the octets at the address of its pointer
parameter are those of the packet's connection. -/
def StoresOwnKey (u : ControlStep) : Prop :=
  branchOf exactTable u.pre u.input = .ack →
    u.input.stack.keyAtParameter = (connectionAt u.input.frame).bytes

instance : DecidablePred StoresOwnKey := fun _ => inferInstanceAs (Decidable (_ → _))

/-! ### One step -/

section Step

variable (maps : Maps (CoverTable Key Byte maxEntries)) (p : Packet)

lemma accepted_transition :
    Accepted (transition (control exactTable) maps p) ↔ branchOf exactTable maps p = .ack :=
  handleAck_mem_control exactTable maps p

lemma pass_transition :
    (transition (control exactTable) maps p).out.verdict = .ok .pass ↔
      (exactTable.lookup maps.connectionsTable (connectionAt p.frame).bytes).isSome := by
  rw [← Segment.branch_eq_tracked (g := segmentAt p.frame)]
  exact verdict_pass_iff exactTable maps p

end Step

/-! ### The table along a run -/

lemma size_exactTable_update (t : CoverTable Key Byte maxEntries) (k : Key) (v : Byte) :
    (exactTable.update t k v).1.size ≤ t.size + 1 := by
  rw [exactTable_update]
  cases hs : t.store Eq k v with
  | none => exact Nat.le_succ _
  | some t' => exact CoverTable.size_of_store Eq hs

lemma isSome_lookup_exactTable_update {t : CoverTable Key Byte maxEntries} (hroom : t.size < maxEntries)
    (k : Key) (v : Byte) (k' : Key) :
    (exactTable.lookup (exactTable.update t k v).1 k').isSome ↔
      k = k' ∨ (exactTable.lookup t k').isSome := by
  obtain ⟨t', hs⟩ := t.store_of_room Eq k v hroom
  rw [exactTable_update, hs]
  exact CoverTable.isSome_find_store Eq (fun _ => 0) (fun _ _ _ => Eq.trans) hs k'

/-- The table is no larger than the number of accepted ACKs and, as long as these fit, holds
exactly the keys they stored. -/
def HoldsStoredKeys (hist : List ControlStep) (maps : Maps (CoverTable Key Byte maxEntries)) : Prop :=
  maps.connectionsTable.size ≤ hist.countP Accepted ∧
    (hist.countP Accepted ≤ maxEntries → ∀ k,
      ((exactTable.lookup maps.connectionsTable k).isSome ↔
        ∃ v ∈ hist, Accepted v ∧ v.input.stack.keyAtParameter = k))

lemma holdsStoredKeys_empty : HoldsStoredKeys [] emptyMaps := by
  refine ⟨Nat.zero_le _, fun _ k => ?_⟩
  simp [exactTable, emptyMaps, CoverTable.isSome_find, CoverTable.empty]

lemma holdsStoredKeys_step (hist : List ControlStep) (maps : Maps (CoverTable Key Byte maxEntries))
    (p : Packet) (h : HoldsStoredKeys hist maps) :
    HoldsStoredKeys (hist ++ [transition (control exactTable) maps p]) (control exactTable maps p).1 := by
  obtain ⟨hsize, hkeys⟩ := h
  unfold HoldsStoredKeys
  rw [List.countP_append, List.countP_singleton, control_table]
  by_cases hb : branchOf exactTable maps p = .ack
  · have hacc := (accepted_transition maps p).mpr hb
    simp only [hb, tableAfter, hacc, decide_true, if_true]
    refine ⟨?_, fun hroom k => ?_⟩
    · exact Nat.le_trans (size_exactTable_update _ _ _) (Nat.add_le_add_right hsize 1)
    · have hfits : maps.connectionsTable.size < maxEntries := by omega
      rw [isSome_lookup_exactTable_update hfits, hkeys (by omega) k]
      constructor
      · rintro (rfl | ⟨v, hv, hav, hkv⟩)
        · exact ⟨_, List.mem_append_right _ (List.mem_singleton_self _), hacc, rfl⟩
        · exact ⟨v, List.mem_append_left _ hv, hav, hkv⟩
      · rintro ⟨v, hv, hav, hkv⟩
        rcases List.mem_append.mp hv with hv | hv
        · exact .inr ⟨v, hv, hav, hkv⟩
        · rw [List.mem_singleton.mp hv] at hkv
          exact .inl hkv
  · have hacc : ¬Accepted (transition (control exactTable) maps p) :=
      fun hacc => hb ((accepted_transition maps p).mp hacc)
    have htab : tableAfter exactTable p.stack maps.connectionsTable (branchOf exactTable maps p) =
        maps.connectionsTable := by
      cases hbr : branchOf exactTable maps p <;> first | rfl | exact absurd hbr hb
    rw [htab]
    simp only [hacc, decide_false, Bool.false_eq_true, if_false, Nat.add_zero]
    refine ⟨hsize, fun hroom k => ?_⟩
    rw [hkeys hroom k]
    simp [hacc]

/-- At every step of a run that fits into the table, a packet is passed exactly when the
octets of its connection were stored before. -/
lemma pass_iff_stored {ps : List Packet} (hfit : (controlRun ps).countP Accepted < maxEntries)
    {earlier later : List ControlStep} {u : ControlStep} (hrun : controlRun ps = earlier ++ u :: later) :
    u.out.verdict = .ok .pass ↔
      ∃ v ∈ earlier, Accepted v ∧
        v.input.stack.keyAtParameter = (connectionAt u.input.frame).bytes := by
  have hinv := run_invariant (control exactTable) holdsStoredKeys_step holdsStoredKeys_empty hrun
  have hu : u = transition (control exactTable) u.pre u.input :=
    eq_transition_of_mem_run (control exactTable) (by
      rw [show run (control exactTable) emptyMaps ps = earlier ++ u :: later from hrun]
      simp)
  have hle : earlier.countP Accepted ≤ maxEntries := by
    rw [hrun, List.countP_append] at hfit
    omega
  rw [List.nil_append] at hinv
  rw [← hinv.2 hle, hu]
  exact pass_transition u.pre u.input

lemma accepted_iff_of_mem {ps : List Packet} {u : ControlStep} (hu : u ∈ controlRun ps) :
    Accepted u ↔ branchOf exactTable u.pre u.input = .ack := by
  rw [eq_transition_of_mem_run (control exactTable) hu]
  exact accepted_transition u.pre u.input

lemma not_pass_of_accepted {ps : List Packet} {u : ControlStep} (hu : u ∈ controlRun ps)
    (h : Accepted u) : u.out.verdict ≠ .ok .pass := by
  have hb := (accepted_iff_of_mem hu).mp h
  rw [eq_transition_of_mem_run (control exactTable) hu]
  change (control exactTable u.pre u.input).2.verdict ≠ .ok .pass
  rw [control_verdict, hb]
  simp [actionOf]

lemma passesValidated_of_own_keys {ps : List Packet}
    (hfit : (controlRun ps).countP Accepted < maxEntries)
    (hown : ∀ u ∈ controlRun ps, StoresOwnKey u) : PassesValidated (controlRun ps) := by
  intro earlier u later hrun
  rw [pass_iff_stored hfit hrun]
  have hkey : ∀ v ∈ earlier, Accepted v →
      v.input.stack.keyAtParameter = (connectionAt v.input.frame).bytes := by
    intro v hv hacc
    have hmem : v ∈ controlRun ps := by rw [hrun]; exact List.mem_append_left _ hv
    exact hown v hmem ((accepted_iff_of_mem hmem).mp hacc)
  constructor
  · rintro ⟨v, hv, hacc, hk⟩
    exact ⟨v, hv, bytes_injective ((hkey v hv hacc).symm.trans hk), hacc⟩
  · rintro ⟨v, hv, hc, hacc⟩
    exact ⟨v, hv, hacc, by rw [hkey v hv hacc, hc]⟩

lemma not_passesValidated_of_foreign_key {ps : List Packet}
    (hfit : (controlRun ps).countP Accepted < maxEntries)
    (hforeign : ∃ u ∈ controlRun ps, ¬StoresOwnKey u) :
    ∃ p, ¬PassesValidated (controlRun (ps ++ [p])) := by
  -- the last step that stored a foreign key; its packet is sent once more
  obtain ⟨before, u, after, hrun, hu, hafter⟩ := exists_last hforeign
  simp only [StoresOwnKey, not_forall] at hu
  obtain ⟨hack, hne⟩ := hu
  refine ⟨u.input, fun hpass => ?_⟩
  set w := transition (control exactTable) (final (control exactTable) emptyMaps ps) u.input with hw
  have hrun' : controlRun (ps ++ [u.input]) = controlRun ps ++ [w] := run_append _ _ _ _
  have hacc : Accepted u := (accepted_iff_of_mem (by rw [hrun]; simp)).mpr hack
  have hwpass : w.out.verdict = .ok .pass :=
    (hpass (controlRun ps) w [] hrun').mpr ⟨u, by rw [hrun]; simp, rfl, hacc⟩
  have hinv := final_invariant (control exactTable) holdsStoredKeys_step holdsStoredKeys_empty ps
  rw [List.nil_append] at hinv
  obtain ⟨v, hv, hvacc, hvkey⟩ :=
    (hinv.2 (Nat.le_of_lt hfit) _).mp ((pass_transition _ _).mp hwpass)
  rw [show run (control exactTable) emptyMaps ps = before ++ u :: after from hrun] at hv
  rcases List.mem_append.mp hv with hv | hv
  · have hupass := (pass_iff_stored hfit hrun).mpr ⟨v, hv, hvacc, hvkey⟩
    exact not_pass_of_accepted (by rw [hrun]; simp) hacc hupass
  · rcases List.mem_cons.mp hv with rfl | hv
    · exact hne hvkey
    · obtain ⟨a₁, a₂, rfl⟩ := List.append_of_mem hv
      have hmem : v ∈ controlRun ps := by rw [hrun]; simp
      have hown := not_not.mp (hafter v hv) ((accepted_iff_of_mem hmem).mp hvacc)
      have hconn : connectionAt u.input.frame = connectionAt v.input.frame :=
        bytes_injective (hvkey.symm.trans hown)
      refine not_pass_of_accepted hmem hvacc ?_
      refine (hpass (before ++ u :: a₁) v (a₂ ++ [w]) ?_).mpr ⟨u, by simp, hconn, hacc⟩
      rw [hrun', hrun]
      simp

/-- In every run from an empty table that leaves room, the packets passed are exactly those
of validated connections if every accepted ACK finds the octets of its own connection at the
address of the pointer parameter, and some further packet is judged wrongly otherwise. -/
theorem validated_connections_pass (ps : List Packet)
    (hfit : (controlRun ps).countP Accepted < maxEntries) :
    ((∀ u ∈ controlRun ps, StoresOwnKey u) → PassesValidated (controlRun ps)) ∧
      ((∃ u ∈ controlRun ps, ¬StoresOwnKey u) → ∃ p, ¬PassesValidated (controlRun (ps ++ [p]))) :=
  ⟨passesValidated_of_own_keys hfit, not_passesValidated_of_foreign_key hfit⟩

def webCookieAck (stack : StackImage) : Packet :=
  ⟨stack, sampleFrame webClient [0, 0, 0, 2] [0x01, 0x50, 0x30, 0x3a] 0x08, by decide⟩

def webData : Packet := ⟨⟨0, 0⟩, sampleFrame webClient [0, 0, 0, 2] [0, 0, 0, 0] 0x08, by decide⟩

def luckyStack : StackImage := ⟨0x0200000a0100000a, 0x50003930⟩

theorem validated_connections_pass_lucky :
    PassesValidated (controlRun [webSyn, webCookieAck luckyStack, webData]) :=
  (validated_connections_pass [webSyn, webCookieAck luckyStack, webData] (by decide +kernel)).1
    (by decide +kernel)

def kernelStack : StackImage := ⟨0xffffc90000a3fdc8, 0⟩

/-- On a kernel stack the accepted connection is forgotten: its next segment is dropped. -/
theorem accepted_connection_forgotten :
    ¬PassesValidated (controlRun [webSyn, webCookieAck kernelStack, webData]) := by
  intro h
  let m₁ := (control exactTable emptyMaps webSyn).1
  let m₂ := (control exactTable m₁ (webCookieAck kernelStack)).1
  let ack := transition (control exactTable) m₁ (webCookieAck kernelStack)
  have hacc : Accepted ack := by decide +kernel
  have hpass := (h [transition (control exactTable) emptyMaps webSyn, ack]
    (transition (control exactTable) m₂ webData) [] rfl).mpr ⟨ack, by simp, by decide +kernel, hacc⟩
  have hmiss : ¬(exactTable.lookup m₂.connectionsTable (connectionAt webData.frame).bytes).isSome := by
    decide +kernel
  exact hmiss ((pass_transition m₂ webData).mp hpass)

end SyncookieXdp.Proofs
