import SyncookieXdp.Lib.CoverTable
import SyncookieXdp.Lib.Prefix
import SyncookieXdp.Model.Defines
import SyncookieXdp.Model.Kernel

/-!
# The connections table

`connections_table` is declared with type `BPF_MAP_TYPE_LPM_TRIE`. The kernel reads the
first four octets of such a map's key as a native-endian prefix length and the remaining
octets as the data the prefix is taken from. `lpmTrie` is that map; `exactTable` is a map
that compares whole keys, which is how the program uses it.
-/

namespace SyncookieXdp
open Lib

def maxEntries : Nat := 1000

/-- `bpf_lpm_trie_key` laid over the octets of a key. -/
def lpmKey (k : Key) : Prefix 64 where
  len := (le32 k[0] k[1] k[2] k[3]).toNat
  data := be32 k[4] k[5] k[6] k[7] ++ be32 k[8] k[9] k[10] k[11]

def updateResult {T : Type} (t : T) (err : Int) : Option T → T × Int
  | some t' => (t', 0)
  | none => (t, err)

lemma updateResult_refused {T : Type} (t : T) (err : Int) (o : Option T)
    (h : (updateResult t err o).2 ≠ 0) : (updateResult t err o).1 = t := by
  cases o with
  | none => rfl
  | some t' => exact absurd rfl h

/-- A longest-prefix-match trie with 64 data bits. -/
def lpmTrie : BpfMap (CoverTable (Prefix 64) Byte maxEntries) where
  lookup t k := t.find Prefix.Covers Prefix.len (lpmKey k)
  update t k v :=
    if (lpmKey k).len > 64 then (t, errInval)
    else updateResult t errNoSpace (t.store Prefix.Covers (lpmKey k) v)
  refused t k v h := by
    split
    · rfl
    · rw [if_neg ‹_›] at h
      exact updateResult_refused t errNoSpace _ h

lemma lpmTrie_update (t : CoverTable (Prefix 64) Byte maxEntries) (k : Key) (v : Byte) :
    lpmTrie.update t k v =
      if (lpmKey k).len > 64 then (t, errInval)
      else updateResult t errNoSpace (t.store Prefix.Covers (lpmKey k) v) := rfl

def exactTable : BpfMap (CoverTable Key Byte maxEntries) where
  lookup t k := t.find Eq (fun _ => 0) k
  update t k v := updateResult t errTooBig (t.store Eq k v)
  refused t _ _ h := updateResult_refused t errTooBig _ h

lemma exactTable_update (t : CoverTable Key Byte maxEntries) (k : Key) (v : Byte) :
    exactTable.update t k v = updateResult t errTooBig (t.store Eq k v) := rfl

end SyncookieXdp
