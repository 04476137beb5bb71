import SyncookieXdp.Lib.Run
import SyncookieXdp.Proofs.Handshake

/-!
# State under a flood

Runs of the entry point over packets with complete headers, for any map and any initial
table. Table updates are counted call by call and matched with the packets that passed the
cookie check when they were processed; everything else leaves the table alone.
-/

namespace SyncookieXdp.Proofs
open Lib

variable {T : Type} (M : BpfMap T)

def filter (maps : Maps T) (p : Packet) : Maps T × Outcome :=
  invoke (syncookieFn M p.stack) maps p.frame

lemma filter_dispatched (maps : Maps T) (p : Packet) (h : Dispatched p.frame) :
    filter M maps p = control M maps p :=
  invoke_complete M p.stack maps h p.complete

lemma filter_ignored (maps : Maps T) (p : Packet) (h : ¬Dispatched p.frame) :
    filter M maps p = (maps, ⟨.ok .pass, p.frame, []⟩) :=
  invoke_ignored M p.stack maps h

def isUpdate : Call → Bool
  | .mapUpdate _ => true
  | _ => false

def updateCalls (o : Outcome) : Nat := o.calls.countP isUpdate

/-- The packet reached the controller, missed in the table it met, carried ACK and no other
control flag, had reserved bits other than 1 and acknowledged the cookie. -/
def ValidAck (u : Transition (Maps T) Packet Outcome) : Prop :=
  let g := segmentAt u.input.frame
  CallsController u.out ∧
    M.lookup u.pre.connectionsTable g.connection.bytes = none ∧
    g.ack = true ∧ g.syn = false ∧ g.cwr = false ∧ g.ece = false ∧ g.urg = false ∧ g.psh = false ∧
    g.rst = false ∧ g.fin = false ∧ g.res ≠ 1 ∧ g.ackNo - 1 = g.connection.cookie

instance : DecidablePred (ValidAck M) := fun u =>
  inferInstanceAs (Decidable (CallsController u.out ∧ _ ∧ _))

lemma validAck_transition (maps : Maps T) (p : Packet) :
    ValidAck M (transition (filter M) maps p) ↔
      Dispatched p.frame ∧ branchOf M maps p = .ack := by
  have hcall : CallsController (filter M maps p).2 ↔ Dispatched p.frame :=
    callsController_iff M p.stack maps p.frame
  simp only [ValidAck, transition, hcall, branchOf, branchAt, Segment.branch_eq_ack_iff,
    Segment.OnlyAck, Option.isSome_eq_false_iff, Option.isNone_iff_eq_none, and_assoc]
  rfl

/-- One invocation makes one update call if the packet is a valid ACK and none otherwise. -/
lemma updateCalls_transition (maps : Maps T) (p : Packet) :
    updateCalls (filter M maps p).2 =
      if ValidAck M (transition (filter M) maps p) then 1 else 0 := by
  simp only [validAck_transition]
  by_cases hd : Dispatched p.frame
  · rw [filter_dispatched M maps p hd, updateCalls, control_calls]
    cases branchOf M maps p <;> simp [hd, callsOf, isUpdate]
  · rw [filter_ignored M maps p hd]
    simp [hd, updateCalls]

lemma maps_of_not_validAck (maps : Maps T) (p : Packet)
    (h : ¬ValidAck M (transition (filter M) maps p)) : (filter M maps p).1 = maps := by
  rw [validAck_transition] at h
  by_cases hd : Dispatched p.frame
  · rw [filter_dispatched M maps p hd, control, invoke_controller M p.stack maps p.complete]
    have hb : branchOf M maps p ≠ .ack := fun hb => h ⟨hd, hb⟩
    change branchAt M maps.connectionsTable p.frame ≠ .ack at hb
    cases hbr : branchAt M maps.connectionsTable p.frame <;> first | rfl | exact absurd hbr hb
  · rw [filter_ignored M maps p hd]

lemma filter_outcome_of_miss (maps₁ maps₂ : Maps T) (p q : Packet) (hpq : p.frame = q.frame)
    (h₁ : M.lookup maps₁.connectionsTable (connectionAt p.frame).bytes = none)
    (h₂ : M.lookup maps₂.connectionsTable (connectionAt p.frame).bytes = none) :
    (filter M maps₁ p).2.verdict = (filter M maps₂ q).2.verdict ∧
      (filter M maps₁ p).2.frame = (filter M maps₂ q).2.frame := by
  by_cases hd : Dispatched p.frame
  · rw [filter_dispatched M maps₁ p hd, filter_dispatched M maps₂ q (hpq ▸ hd)]
    simp only [control_verdict, control_frame, branchOf_of_miss M maps₁ p h₁,
      branchOf_of_miss M maps₂ q (hpq ▸ h₂), hpq, and_self]
  · rw [filter_ignored M maps₁ p hd, filter_ignored M maps₂ q (hpq ▸ hd)]
    exact ⟨rfl, hpq⟩

/-- The number of table updates of a run is the number of its valid ACKs; a run without one
leaves the maps as they were; and a pure SYN whose connection misses is answered by the same
verdict and the same octets after any two histories. -/
theorem syn_flood_costs_no_state (maps : Maps T) (ps : List Packet) :
    ((run (filter M) maps ps).map (fun u => updateCalls u.out)).sum =
        (run (filter M) maps ps).countP (ValidAck M) ∧
      ((∀ u ∈ run (filter M) maps ps, ¬ValidAck M u) → final (filter M) maps ps = maps) ∧
      ∀ (maps' : Maps T) (ps' : List Packet) (p q : Packet), p.frame = q.frame →
        (segmentAt p.frame).PureSyn →
        M.lookup (final (filter M) maps ps).connectionsTable (connectionAt p.frame).bytes = none →
        M.lookup (final (filter M) maps' ps').connectionsTable (connectionAt p.frame).bytes = none →
        (filter M (final (filter M) maps ps) p).2.verdict =
            (filter M (final (filter M) maps' ps') q).2.verdict ∧
          (filter M (final (filter M) maps ps) p).2.frame =
            (filter M (final (filter M) maps' ps') q).2.frame := by
  refine ⟨sum_run_eq_countP (filter M) (updateCalls_transition M) maps ps, ?_, ?_⟩
  · intro hnone
    apply final_eq_of_post_eq_pre
    intro u hu
    have hu' := hnone u hu
    rw [eq_transition_of_mem_run (filter M) hu] at hu' ⊢
    exact maps_of_not_validAck M u.pre u.input hu'
  · intro maps' ps' p q hpq _ h₁ h₂
    exact filter_outcome_of_miss M _ _ p q hpq h₁ h₂

theorem syn_flood_costs_no_state_web :
    final (filter lpmTrie) emptyMaps [webSyn, webAck, webSyn] = emptyMaps :=
  (syn_flood_costs_no_state lpmTrie emptyMaps [webSyn, webAck, webSyn]).2.1 (by decide +kernel)

end SyncookieXdp.Proofs
