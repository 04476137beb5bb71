import SyncookieXdp.Model.Kernel

/-!
# Accesses that stay inside the frame

Exact execution of every load and store whose octets lie before `data_end`: a load
returns the octets of the frame and changes nothing, a store changes only the frame.
-/

namespace SyncookieXdp.Proofs
open Lib

variable {T : Type} {f : List Byte} {t : T} {m : StatsMap} {c : List Call}

lemma logCall_run (x : Call) :
    (logCall x).run (⟨f, t, m, c⟩ : XdpState T) = .ok () ⟨f, t, m, c ++ [x]⟩ := rfl

lemma bpfMapLookupElem_run (M : BpfMap T) (k : Key) :
    (bpfMapLookupElem M k).run ⟨f, t, m, c⟩ = .ok (M.lookup t k) ⟨f, t, m, c ++ [.mapLookup k]⟩ := rfl

lemma bpfMapUpdateElem_run (M : BpfMap T) (k : Key) (v : Byte) :
    (bpfMapUpdateElem M k v).run ⟨f, t, m, c⟩ =
      .ok (M.update t k v).2 ⟨f, (M.update t k v).1, m, c ++ [.mapUpdate k]⟩ := rfl

lemma readByte_run (a o : Nat) (h : a + o < f.length) :
    (readByte (some a) o).run (⟨f, t, m, c⟩ : XdpState T) =
      .ok (byteAt f (a + o)) ⟨f, t, m, c⟩ := by
  simp [readByte, EStateM.run, getElem?_eq_byteAt h]

lemma writeByte_run (a o : Nat) (b : Byte) (h : a + o < f.length) :
    (writeByte (some a) o b).run (⟨f, t, m, c⟩ : XdpState T) =
      .ok () ⟨f.set (a + o) b, t, m, c⟩ := by
  simp [writeByte, EStateM.run, h]

lemma readBytes_run (a o n : Nat) (h : a + o + n ≤ f.length) :
    (readBytes (some a) o n).run (⟨f, t, m, c⟩ : XdpState T) =
      .ok (bytesAt f (a + o) n) ⟨f, t, m, c⟩ := by
  induction n generalizing o with
  | zero => rfl
  | succ n ih =>
    rw [readBytes, EStateM.run_bind, readByte_run a o (by omega)]
    simp only [EStateM.run_bind, ih (o + 1) (by omega), EStateM.run_pure]
    simp only [bytesAt, List.range_succ_eq_map, List.map_cons, List.map_map, Function.comp_def,
      Nat.add_zero, Nat.add_assoc, Nat.succ_eq_add_one, Nat.add_comm 1]

lemma writeBytes_run (a o : Nat) (bs : List Byte) (h : a + o + bs.length ≤ f.length) :
    (writeBytes (some a) o bs).run (⟨f, t, m, c⟩ : XdpState T) =
      .ok () ⟨putBytes f (a + o) bs, t, m, c⟩ := by
  induction bs generalizing f o with
  | nil => rfl
  | cons b bs ih =>
    simp only [List.length_cons] at h
    rw [writeBytes, EStateM.run_bind, writeByte_run a o b (by omega)]
    simp only [ih (o + 1) (show a + (o + 1) + bs.length ≤ (f.set (a + o) b).length by
      rw [List.length_set]; omega), putBytes, Nat.add_assoc]

lemma load16_run (a : Nat) (x : Member 16) (h : a + x.offset + 2 ≤ f.length) :
    (load16 (some a) x).run (⟨f, t, m, c⟩ : XdpState T) =
      .ok (u16At f (a + x.offset)) ⟨f, t, m, c⟩ := by
  simp (disch := omega) only [load16, EStateM.run_bind, readByte_run, EStateM.run_pure, u16At,
    Nat.add_assoc]

lemma load32_run (a : Nat) (x : Member 32) (h : a + x.offset + 4 ≤ f.length) :
    (load32 (some a) x).run (⟨f, t, m, c⟩ : XdpState T) =
      .ok (u32At f (a + x.offset)) ⟨f, t, m, c⟩ := by
  simp (disch := omega) only [load32, EStateM.run_bind, readByte_run, EStateM.run_pure, u32At,
    Nat.add_assoc]

lemma store16_run (a : Nat) (x : Member 16) (v : BitVec 16) (h : a + x.offset + 2 ≤ f.length) :
    (store16 (some a) x v).run (⟨f, t, m, c⟩ : XdpState T) =
      .ok () ⟨put16 f (a + x.offset) v, t, m, c⟩ :=
  writeBytes_run a x.offset _ (by simpa using h)

lemma store32_run (a : Nat) (x : Member 32) (v : BitVec 32) (h : a + x.offset + 4 ≤ f.length) :
    (store32 (some a) x v).run (⟨f, t, m, c⟩ : XdpState T) =
      .ok () ⟨put32 f (a + x.offset) v, t, m, c⟩ :=
  writeBytes_run a x.offset _ (by simpa using h)

lemma loadBits_run {w : Nat} (a : Nat) (x : BitMember w) (h : a + x.octet < f.length) :
    (loadBits (some a) x).run (⟨f, t, m, c⟩ : XdpState T) =
      .ok (bitsAt (byteAt f (a + x.octet)) x.lsb w) ⟨f, t, m, c⟩ := by
  simp only [loadBits, EStateM.run_bind, readByte_run a x.octet h, EStateM.run_pure]

lemma storeBits_run {w : Nat} (a : Nat) (x : BitMember w) (v : BitVec w) (h : a + x.octet < f.length) :
    (storeBits (some a) x v).run (⟨f, t, m, c⟩ : XdpState T) =
      .ok () ⟨f.set (a + x.octet) (withBits (byteAt f (a + x.octet)) x.lsb v), t, m, c⟩ := by
  simp only [storeBits, EStateM.run_bind, readByte_run a x.octet h, writeByte_run a x.octet _ h]

end SyncookieXdp.Proofs
