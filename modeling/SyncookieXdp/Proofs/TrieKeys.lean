import SyncookieXdp.Model.Controller
import SyncookieXdp.Model.Tables

/-!
# Connections as trie keys

`connections_table` is a longest-prefix trie, but its keys are plain `connection_t`
records: the source address is read as the prefix length. This file states exactly when
storing a connection acts as adding one element to a set.
-/

namespace SyncookieXdp.Proofs
open Lib

lemma lpmKey_len (c : ConnectionT) : (lpmKey c.bytes).len = c.srcAddr.toNat := by
  simp [lpmKey, ConnectionT.bytes]

def trieInsert (t : CoverTable (Prefix 64) Byte maxEntries) (c : ConnectionT) :
    CoverTable (Prefix 64) Byte maxEntries :=
  (lpmTrie.update t c.bytes insert).1

def InTrie (t : CoverTable (Prefix 64) Byte maxEntries) (c : ConnectionT) : Prop :=
  (lpmTrie.lookup t c.bytes).isSome

/-- Storing `k₁` makes `k₁` found and leaves another connection `k₂` not found. -/
def ActsAsSet (t : CoverTable (Prefix 64) Byte maxEntries) (k₁ k₂ : ConnectionT) : Prop :=
  InTrie (trieInsert t k₁) k₁ ∧ (k₂ ≠ k₁ → ¬InTrie t k₂ → ¬InTrie (trieInsert t k₁) k₂)

lemma trieInsert_of_long (t : CoverTable (Prefix 64) Byte maxEntries) {k : ConnectionT}
    (h : 64 < k.srcAddr.toNat) : trieInsert t k = t := by
  rw [trieInsert, lpmTrie_update, if_pos (by rw [lpmKey_len]; exact h)]

/-- Otherwise the connections found afterwards are those found before and all connections
the stored prefix covers. -/
lemma inTrie_trieInsert {t : CoverTable (Prefix 64) Byte maxEntries} (hroom : t.size < maxEntries)
    {k : ConnectionT} (h : k.srcAddr.toNat ≤ 64) (k' : ConnectionT) :
    InTrie (trieInsert t k) k' ↔ (lpmKey k.bytes).Covers (lpmKey k'.bytes) ∨ InTrie t k' := by
  obtain ⟨t', ht⟩ := t.store_of_room Prefix.Covers (lpmKey k.bytes) insert hroom
  have hins : trieInsert t k = t' := by
    rw [trieInsert, lpmTrie_update, if_neg (by rw [lpmKey_len]; omega), ht]
    rfl
  rw [hins]
  exact CoverTable.isSome_find_store Prefix.Covers Prefix.len Prefix.covers_trans ht _

/-- The trie acts as a set of connections exactly when the source address of the stored
connection is a possible prefix length, or the connection was found already, and no other
connection, not found before, shares the prefix that address cuts off. -/
theorem acts_as_set_iff (t : CoverTable (Prefix 64) Byte maxEntries) (hroom : t.size < maxEntries)
    (k₁ k₂ : ConnectionT) :
    ActsAsSet t k₁ k₂ ↔
      (k₁.srcAddr.toNat ≤ 64 ∨ InTrie t k₁) ∧
        (k₁.srcAddr.toNat ≤ 64 → k₂ ≠ k₁ → ¬InTrie t k₂ →
          k₁.srcAddr.toNat ≤ k₂.srcAddr.toNat →
            ∃ i < k₁.srcAddr.toNat,
              (lpmKey k₁.bytes).data.getMsbD i ≠ (lpmKey k₂.bytes).data.getMsbD i) := by
  have hbits : ¬(lpmKey k₁.bytes).Covers (lpmKey k₂.bytes) ↔
      (k₁.srcAddr.toNat ≤ k₂.srcAddr.toNat → ∃ i < k₁.srcAddr.toNat,
        (lpmKey k₁.bytes).data.getMsbD i ≠ (lpmKey k₂.bytes).data.getMsbD i) := by
    rw [Prefix.not_covers_iff, lpmKey_len, lpmKey_len]
  rw [ActsAsSet, ← hbits]
  by_cases h : k₁.srcAddr.toNat ≤ 64
  · rw [inTrie_trieInsert hroom h, inTrie_trieInsert hroom h]
    simp only [h, true_or, true_and, true_implies, Prefix.covers_refl, not_or]
    exact ⟨fun hset hne hmiss => (hset hne hmiss).1, fun hdiff hne hmiss => ⟨hdiff hne hmiss, hmiss⟩⟩
  · rw [trieInsert_of_long t (by omega)]
    simp only [h, false_or, false_implies, and_true]
    exact ⟨fun hset => hset.1, fun hfound => ⟨hfound, fun _ hmiss => hmiss⟩⟩

theorem acts_as_set_for_short_source :
    ActsAsSet CoverTable.empty ⟨0x00000020, 0x0200000a, 0x3930, 0x5000⟩
      ⟨0x00000020, 0x0300000a, 0x3930, 0x5000⟩ :=
  (acts_as_set_iff CoverTable.empty (by decide) _ _).mpr
    ⟨.inl (by decide), fun _ _ _ _ => ⟨31, by decide, by decide⟩⟩

theorem ordinary_source_not_stored :
    ¬ActsAsSet CoverTable.empty ⟨0x0100000a, 0x0200000a, 0x3930, 0x5000⟩
      ⟨0x0300000a, 0x0200000a, 0x3930, 0x5000⟩ := by
  rintro ⟨hfound, -⟩
  rw [trieInsert_of_long _ (by decide)] at hfound
  cases hfound

end SyncookieXdp.Proofs
