import SyncookieXdp.Proofs.Dispatch

/-!
# The TCP control bits

`tcp_t` lists its bit-fields in the order of a figure in a protocol document, most
significant first, while the target allocates them from the least significant bit. The
fields are therefore read and written mirrored inside octets 12 and 13 of the header.
-/

namespace SyncookieXdp.Proofs
open Lib

def ReadsField (f : List Byte) {w : Nat} (x : BitMember w) (v : BitVec w) : Prop :=
  ∀ m c, (loadBits parsedHeaders.tcp x).run (⟨f, (), m, c⟩ : XdpState Unit) = .ok v ⟨f, (), m, c⟩

lemma readsField_iff {f : List Byte} {w : Nat} (x : BitMember w) (v : BitVec w)
    (h : 34 + x.octet < f.length) :
    ReadsField f x v ↔ bitsAt (byteAt f (34 + x.octet)) x.lsb w = v := by
  simp only [ReadsField, parsedHeaders, loadBits_run 34 x h, EStateM.Result.ok.injEq, and_true]
  exact ⟨fun hv => hv (fun _ _ => ⟨0, 0⟩) [], fun hv _ _ => hv⟩

/-- The control bits, the data offset and the reserved bits are read where TCP puts them,
and the answers of the two handlers carry exactly SYN and ACK, and exactly ACK. -/
def ControlBitsOnWire {T : Type} (M : BpfMap T) (maps : Maps T) (p : Packet) : Prop :=
  let b₁₂ := byteAt p.frame 46
  let b₁₃ := byteAt p.frame 47
  let o := (control M maps p).2
  (ReadsField p.frame TcpT.cwr (bitsAt b₁₃ 7 1) ∧ ReadsField p.frame TcpT.ece (bitsAt b₁₃ 6 1) ∧
    ReadsField p.frame TcpT.urg (bitsAt b₁₃ 5 1) ∧ ReadsField p.frame TcpT.ack (bitsAt b₁₃ 4 1) ∧
    ReadsField p.frame TcpT.psh (bitsAt b₁₃ 3 1) ∧ ReadsField p.frame TcpT.rst (bitsAt b₁₃ 2 1) ∧
    ReadsField p.frame TcpT.syn (bitsAt b₁₃ 1 1) ∧ ReadsField p.frame TcpT.fin (bitsAt b₁₃ 0 1) ∧
    ReadsField p.frame TcpT.dataOffset (bitsAt b₁₂ 4 4) ∧ ReadsField p.frame TcpT.res (bitsAt b₁₂ 0 4)) ∧
  (Call.handleSyn ∈ o.calls → byteAt o.frame 47 = 0x12) ∧
  (Call.handleAck ∈ o.calls → byteAt o.frame 47 = 0x10)

lemma flags_mirrored_iff (b : Byte) :
    (bitsAt b 0 1 = bitsAt b 7 1 ∧ bitsAt b 1 1 = bitsAt b 6 1 ∧ bitsAt b 2 1 = bitsAt b 5 1 ∧
      bitsAt b 3 1 = bitsAt b 4 1 ∧ bitsAt b 4 1 = bitsAt b 3 1 ∧ bitsAt b 5 1 = bitsAt b 2 1 ∧
      bitsAt b 6 1 = bitsAt b 1 1 ∧ bitsAt b 7 1 = bitsAt b 0 1) ↔ b.reverse = b := by
  revert b
  decide +kernel

lemma palindrome_bits {b : Byte} (h : b.reverse = b) :
    b.getLsbD 6 = b.getLsbD 1 ∧ b.getLsbD 3 = b.getLsbD 4 := by
  revert b
  decide +kernel

/-- A frame the controller answers has a control octet that is not a palindrome. -/
lemma reverse_ne_of_answered {f : List Byte} {tracked : Bool}
    (h : (segmentAt f).branch tracked = .syn ∨ (segmentAt f).branch tracked = .ack) :
    (byteAt f 47).reverse ≠ byteAt f 47 := by
  intro hr
  obtain ⟨h61, h34⟩ := palindrome_bits hr
  rcases h with h | h
  · obtain ⟨-, href, hsyn⟩ := Segment.branch_eq_syn.mp h
    have hece : (segmentAt f).ece = true := h61.symm.trans hsyn
    simp [Segment.refused, hece] at href
  · obtain ⟨-, href, -, hack, -⟩ := Segment.branch_eq_ack.mp h
    have hpsh : (segmentAt f).psh = true := h34.symm.trans hack
    simp [Segment.refused, hpsh] at href

/-- The layout of `tcp_t` agrees with the wire exactly on headers whose octets 12 and 13 read
the same mirrored, and no packet the controller answers is among them. -/
theorem control_bits_on_wire_iff {T : Type} (M : BpfMap T) (maps : Maps T) (p : Packet) :
    ControlBitsOnWire M maps p ↔
      bitsAt (byteAt p.frame 46) 0 4 = bitsAt (byteAt p.frame 46) 4 4 ∧
        (byteAt p.frame 47).reverse = byteAt p.frame 47 := by
  have hl : 54 ≤ p.frame.length := p.complete
  simp only [ControlBitsOnWire]
  rw [readsField_iff, readsField_iff, readsField_iff, readsField_iff, readsField_iff, readsField_iff,
    readsField_iff, readsField_iff, readsField_iff, readsField_iff] <;> try (simp; omega)
  simp only [TcpT.cwr, TcpT.ece, TcpT.urg, TcpT.ack, TcpT.psh, TcpT.rst, TcpT.syn, TcpT.fin,
    TcpT.dataOffset, TcpT.res, Nat.reduceAdd, handleSyn_mem_control, handleAck_mem_control]
  constructor
  · rintro ⟨⟨h7, h6, h5, h4, h3, h2, h1, h0, hoff, -⟩, -, -⟩
    exact ⟨hoff, (flags_mirrored_iff _).mp ⟨h7, h6, h5, h4, h3, h2, h1, h0⟩⟩
  · rintro ⟨hnib, hrev⟩
    obtain ⟨h7, h6, h5, h4, h3, h2, h1, h0⟩ := (flags_mirrored_iff _).mpr hrev
    refine ⟨⟨h7, h6, h5, h4, h3, h2, h1, h0, hnib, hnib.symm⟩, ?_, ?_⟩
    · exact fun hb => absurd hrev (reverse_ne_of_answered (.inl hb))
    · exact fun hb => absurd hrev (reverse_ne_of_answered (.inr hb))

theorem wire_syn_misread :
    ¬ControlBitsOnWire lpmTrie emptyMaps ⟨⟨0, 0⟩, wireSynFrame, by decide⟩ := by
  intro h
  have hsyn := h.1.2.2.2.2.2.2.1
  rw [readsField_iff TcpT.syn _ (by decide)] at hsyn
  revert hsyn
  decide

end SyncookieXdp.Proofs
