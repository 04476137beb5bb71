import SyncookieXdp.Proofs.Validated

/-!
# Confirmations and the table

An accepted ACK is confirmed to the client. The update that should record its connection
can fail, and its result is not looked at.
-/

namespace SyncookieXdp.Proofs
open Lib

/-- A successful update adds the keys that its key covers to those found before, and no other. -/
structure StoresCovered {T : Type} (M : BpfMap T) (covers : Key → Key → Prop) : Prop where
  stores : ∀ t k v, (M.update t k v).2 = 0 → ∀ k',
    ((M.lookup (M.update t k v).1 k').isSome ↔ covers k k' ∨ (M.lookup t k').isSome)

/-- The map keeps its entries in a cover table, under a key of its own. -/
structure StoresIn {κ : Type} (M : BpfMap (CoverTable κ Byte maxEntries)) (R : κ → κ → Prop)
    [DecidableRel R] (rank : κ → Nat) (key : Key → κ) : Prop where
  lookup : ∀ t k, M.lookup t k = t.find R rank (key k)
  update : ∀ t k v, (M.update t k v).2 = 0 → t.store R (key k) v = some (M.update t k v).1

lemma updateResult_ok {T : Type} {t : T} {err : Int} (herr : err ≠ 0) {o : Option T}
    (h : (updateResult t err o).2 = 0) : o = some (updateResult t err o).1 := by
  cases o with
  | none => exact absurd h herr
  | some t' => rfl

lemma storesIn_lpmTrie : StoresIn lpmTrie Prefix.Covers Prefix.len lpmKey where
  lookup _ _ := rfl
  update t k v hok := by
    rw [lpmTrie_update] at hok ⊢
    by_cases hlen : (lpmKey k).len > 64
    · rw [if_pos hlen] at hok
      exact absurd hok (show errInval ≠ 0 by decide)
    · rw [if_neg hlen] at hok ⊢
      exact updateResult_ok (by decide) hok

lemma storesIn_exactTable : StoresIn exactTable Eq (fun _ => 0) id where
  lookup _ _ := rfl
  update _ _ _ hok := updateResult_ok (by decide) hok

lemma StoresIn.storesCovered {κ : Type} {M : BpfMap (CoverTable κ Byte maxEntries)} {R : κ → κ → Prop}
    [DecidableRel R] {rank : κ → Nat} {key : Key → κ} (hM : StoresIn M R rank key)
    (htrans : ∀ a b c, R a b → R b c → R a c) : StoresCovered M (fun k k' => R (key k) (key k')) where
  stores t k v hok k' := by
    rw [hM.lookup, hM.lookup]
    exact CoverTable.isSome_find_store R rank htrans (hM.update t k v hok) (key k')

lemma storesCovered_exactTable : StoresCovered exactTable Eq :=
  storesIn_exactTable.storesCovered (fun _ _ _ => Eq.trans)

lemma storesCovered_lpmTrie : StoresCovered lpmTrie (fun k k' => (lpmKey k).Covers (lpmKey k')) :=
  storesIn_lpmTrie.storesCovered Prefix.covers_trans

section Absent

variable {t : CoverTable Key Byte maxEntries} {k : Key} (habsent : ∀ e ∈ t.entries, e.1 ≠ k)
include habsent

lemma exactTable_lookup_of_absent : exactTable.lookup t k = none := by
  rw [← Option.not_isSome_iff_eq_none]
  intro hfound
  obtain ⟨e, he, heq⟩ := (CoverTable.isSome_find Eq (fun _ => 0) t k).mp hfound
  exact habsent e he heq

/-- A full table refuses a key it does not hold. -/
lemma exactTable_update_of_full (hfull : t.size = maxEntries) (v : Byte) :
    (exactTable.update t k v).2 = errTooBig := by
  have hothers : t.others Eq k = t.entries := by
    apply List.filter_eq_self.mpr
    intro e he
    simp [habsent e he]
  have hstore : t.store Eq k v = none := by
    apply dif_neg
    rw [hothers]
    exact Nat.not_lt.mpr (Nat.le_of_eq hfull.symm)
  rw [exactTable_update, hstore]
  rfl

end Absent

section Confirms

variable {T : Type} (M : BpfMap T) (maps : Maps T) (p : Packet)

/-- The update `handle_ack` makes for the packet. -/
def ackUpdate : T × Int := M.update maps.connectionsTable p.stack.keyAtParameter insert

/-- A confirmation is sent only if the connection can be looked up afterwards, and after a
failed update the packet is neither rewritten nor sent back. -/
def ConfirmsRecorded : Prop :=
  let r := control M maps p
  (r.2.verdict = .ok .tx →
      (M.lookup r.1.connectionsTable (connectionAt p.frame).bytes).isSome) ∧
    ((ackUpdate M maps p).2 ≠ 0 → r.2.frame = p.frame ∧ r.2.verdict ≠ .ok .tx)

lemma confirmsRecorded_iff_update (hb : branchOf M maps p = .ack) :
    ConfirmsRecorded M maps p ↔
      (ackUpdate M maps p).2 = 0 ∧
        (M.lookup (ackUpdate M maps p).1 (connectionAt p.frame).bytes).isSome := by
  have hverdict : (control M maps p).2.verdict = .ok .tx := by
    rw [control_verdict, hb]
    rfl
  have htable : (control M maps p).1.connectionsTable = (ackUpdate M maps p).1 := by
    rw [control_table, hb]
    rfl
  simp only [ConfirmsRecorded, hverdict, htable, true_implies, ne_eq, not_true_eq_false, and_false]
  constructor
  · rintro ⟨hfound, hok⟩
    exact ⟨not_not.mp hok, hfound⟩
  · rintro ⟨hok, hfound⟩
    exact ⟨hfound, fun hfail => hfail hok⟩

lemma confirmsRecorded_iff_covers {covers : Key → Key → Prop} (hM : StoresCovered M covers)
    (hb : branchOf M maps p = .ack) :
    ConfirmsRecorded M maps p ↔
      (ackUpdate M maps p).2 = 0 ∧ covers p.stack.keyAtParameter (connectionAt p.frame).bytes := by
  have hmiss : (M.lookup maps.connectionsTable (connectionAt p.frame).bytes).isSome = false :=
    (Segment.branch_eq_ack.mp hb).1
  rw [confirmsRecorded_iff_update M maps p hb]
  apply and_congr_right
  intro hok
  rw [ackUpdate, hM.stores _ _ _ hok, hmiss]
  simp

/-- For a packet that passed the cookie check the confirmation goes out whatever the update
returned. So the connection is recorded exactly when the update succeeds and its key, the
octets at the address of the pointer parameter, answers for the connection. -/
theorem confirms_recorded_iff (hack : Call.handleAck ∈ (control M maps p).2.calls) :
    (ConfirmsRecorded M maps p ↔
        (ackUpdate M maps p).2 = 0 ∧
          (M.lookup (ackUpdate M maps p).1 (connectionAt p.frame).bytes).isSome) ∧
      ∀ covers, StoresCovered M covers →
        (ConfirmsRecorded M maps p ↔
          (ackUpdate M maps p).2 = 0 ∧
            covers p.stack.keyAtParameter (connectionAt p.frame).bytes) := by
  have hb := (handleAck_mem_control M maps p).mp hack
  refine ⟨confirmsRecorded_iff_update M maps p hb, ?_⟩
  intro covers hM
  exact confirmsRecorded_iff_covers M maps p hM hb

end Confirms

/-- In the trie with room left, what is recorded is a prefix whose length the first four octets
of the key give. -/
theorem confirms_recorded_trie_iff (maps : Maps (CoverTable (Prefix 64) Byte maxEntries)) (p : Packet)
    (hroom : maps.connectionsTable.size < maxEntries)
    (hb : branchOf lpmTrie maps p = .ack) :
    ConfirmsRecorded lpmTrie maps p ↔
      (lpmKey p.stack.keyAtParameter).len ≤ 64 ∧
        (lpmKey p.stack.keyAtParameter).Covers (lpmKey (connectionAt p.frame).bytes) := by
  rw [confirmsRecorded_iff_covers lpmTrie maps p storesCovered_lpmTrie hb]
  apply and_congr_left'
  obtain ⟨t', ht⟩ := maps.connectionsTable.store_of_room Prefix.Covers
    (lpmKey p.stack.keyAtParameter) insert hroom
  rw [ackUpdate, lpmTrie_update, ht]
  by_cases hlen : (lpmKey p.stack.keyAtParameter).len > 64
  · rw [if_pos hlen]
    exact iff_of_false (show errInval ≠ 0 by decide) (by omega)
  · rw [if_neg hlen]
    exact iff_of_true rfl (by omega)

theorem confirms_recorded_lucky : ConfirmsRecorded exactTable emptyMaps (webCookieAck luckyStack) :=
  ((confirms_recorded_iff exactTable emptyMaps (webCookieAck luckyStack) (by decide +kernel)).2
    Eq storesCovered_exactTable).mpr (by decide +kernel)

/-- A table that holds `max_entries` connections, none of them of 10.0.0.1. -/
def fullMaps : Maps (CoverTable Key Byte maxEntries) :=
  ⟨⟨(List.range maxEntries).map (fun i => (ConnectionT.bytes ⟨BitVec.ofNat 32 i, 0, 0, 0⟩, insert)),
    by simp⟩, fun _ _ => ⟨0, 0⟩⟩

lemma ne_of_mem_fullMaps {k : Key} (hk : byteAt k.toList 11 ≠ 0) :
    ∀ e ∈ fullMaps.connectionsTable.entries, e.1 ≠ k := by
  intro e he
  simp only [fullMaps, List.mem_map] at he
  obtain ⟨i, -, rfl⟩ := he
  intro h
  apply hk
  rw [← h]
  change octet (0 : BitVec 16) 1 = 0
  decide

/-- A full table does not store even the right key. -/
lemma not_confirmsRecorded_fullMaps :
    Call.handleAck ∈ (control exactTable fullMaps (webCookieAck luckyStack)).2.calls ∧
      ¬ConfirmsRecorded exactTable fullMaps (webCookieAck luckyStack) := by
  have hb : branchOf exactTable fullMaps (webCookieAck luckyStack) = .ack := by
    rw [branchOf_of_miss exactTable fullMaps _
      (exactTable_lookup_of_absent (ne_of_mem_fullMaps (by decide)))]
    decide
  have hfail : (ackUpdate exactTable fullMaps (webCookieAck luckyStack)).2 ≠ 0 := by
    rw [ackUpdate, exactTable_update_of_full (ne_of_mem_fullMaps (by decide))
      (by simp [CoverTable.size, fullMaps])]
    decide
  refine ⟨(handleAck_mem_control _ _ _).mpr hb, ?_⟩
  intro h
  exact hfail ((confirmsRecorded_iff_update _ _ _ hb).mp h).1

/-- On a kernel stack the empty trie refuses the key, and a full table refuses any new one. The
client is told that the connection is established in both cases. -/
theorem confirmed_without_record :
    (Call.handleAck ∈ (control lpmTrie emptyMaps (webCookieAck kernelStack)).2.calls ∧
      ¬ConfirmsRecorded lpmTrie emptyMaps (webCookieAck kernelStack)) ∧
    Call.handleAck ∈ (control exactTable fullMaps (webCookieAck luckyStack)).2.calls ∧
      ¬ConfirmsRecorded exactTable fullMaps (webCookieAck luckyStack) := by
  have hb : branchOf lpmTrie emptyMaps (webCookieAck kernelStack) = .ack := by decide +kernel
  refine ⟨⟨(handleAck_mem_control _ _ _).mpr hb, ?_⟩, not_confirmsRecorded_fullMaps⟩
  intro h
  have hok := ((confirmsRecorded_iff_update _ _ _ hb).mp h).1
  revert hok
  decide +kernel

end SyncookieXdp.Proofs
