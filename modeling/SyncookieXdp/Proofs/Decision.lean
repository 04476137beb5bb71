import SyncookieXdp.Proofs.Handshake

/-!
# The decision on an untracked packet

Which packets the controller answers, by flags and numbers, and what an acknowledged cookie
proves about the packet that carries it.
-/

namespace SyncookieXdp.Proofs
open Lib

/-! ### Which packets are answered -/

section Answered

variable {T : Type} (M : BpfMap T) (maps : Maps T) (p : Packet)

/-- A SYN without any other flag or reserved bit is answered through `handle_syn`, an ACK
without any and with the number that follows the cookie through `handle_ack`; every other
packet is dropped. -/
def AnswersAsSpecified : Prop :=
  let o := (control M maps p).2
  let g := segmentAt p.frame
  (o.verdict = .ok .tx ∧ Call.handleSyn ∈ o.calls ↔ g.PureSyn) ∧
    (o.verdict = .ok .tx ∧ Call.handleAck ∈ o.calls ↔
      g.PureAck ∧ g.ackNo = g.connection.cookie + 1) ∧
    (¬g.PureSyn → ¬(g.PureAck ∧ g.ackNo = g.connection.cookie + 1) → o.verdict = .ok .drop) ∧
    o.verdict ≠ .ok .pass

lemma tx_handleSyn_iff :
    (control M maps p).2.verdict = .ok .tx ∧ Call.handleSyn ∈ (control M maps p).2.calls ↔
      branchOf M maps p = .syn := by
  rw [handleSyn_mem_control, control_verdict]
  cases branchOf M maps p <;> simp [actionOf]

lemma tx_handleAck_iff :
    (control M maps p).2.verdict = .ok .tx ∧ Call.handleAck ∈ (control M maps p).2.calls ↔
      branchOf M maps p = .ack := by
  rw [handleAck_mem_control, control_verdict]
  cases branchOf M maps p <;> simp [actionOf]

lemma verdict_drop_iff : (control M maps p).2.verdict = .ok .drop ↔ branchOf M maps p = .refused := by
  rw [control_verdict]
  cases branchOf M maps p <;> simp [actionOf]

/-- For an untracked packet the specification is about the two answering branches: a packet
that takes neither is dropped. -/
lemma answersAsSpecified_iff_branch
    (hmiss : M.lookup maps.connectionsTable (connectionAt p.frame).bytes = none) :
    AnswersAsSpecified M maps p ↔
      ((segmentAt p.frame).branch false = .syn ↔ (segmentAt p.frame).PureSyn) ∧
        ((segmentAt p.frame).branch false = .ack ↔
          (segmentAt p.frame).PureAck ∧ (segmentAt p.frame).ackNo = (connectionAt p.frame).cookie + 1) := by
  have hbr := branchOf_of_miss M maps p hmiss
  have htracked : (segmentAt p.frame).branch false ≠ .tracked := by simp [Segment.branch_eq_tracked]
  simp only [AnswersAsSpecified, tx_handleSyn_iff, tx_handleAck_iff, verdict_drop_iff,
    ne_eq, verdict_pass_iff, hbr]
  constructor
  · rintro ⟨hsyn, hack, -, -⟩
    exact ⟨hsyn, hack⟩
  · rintro ⟨hsyn, hack⟩
    refine ⟨hsyn, hack, ?_, htracked⟩
    intro hns hna
    cases hb : (segmentAt p.frame).branch false with
    | tracked => exact absurd hb htracked
    | refused => rfl
    | syn => exact absurd (hsyn.mp hb) hns
    | ack => exact absurd (hack.mp hb) hna

/-- On an untracked packet the specification fails exactly when the reserved bits hold a
number above one in a packet that would otherwise be answered: the test compares the four
bits with one instead of asking whether any of them is set. -/
theorem answers_as_specified_iff
    (hmiss : M.lookup maps.connectionsTable (connectionAt p.frame).bytes = none) :
    AnswersAsSpecified M maps p ↔
      (segmentAt p.frame).res = 0 ∨ (segmentAt p.frame).res = 1 ∨
        ¬(segmentAt p.frame).OnlySyn ∧
          ¬((segmentAt p.frame).OnlyAck ∧
            (segmentAt p.frame).ackNo = (connectionAt p.frame).cookie + 1) := by
  rw [answersAsSpecified_iff_branch M maps p hmiss]
  exact Segment.branch_pure_iff (segmentAt p.frame)

end Answered

theorem answers_as_specified_webSyn : AnswersAsSpecified lpmTrie emptyMaps webSyn :=
  (answers_as_specified_iff lpmTrie emptyMaps webSyn rfl).mpr (.inl (by decide))

/-- The SYN of 10.0.0.1:12345 with reserved bits `0010`. -/
def reservedSyn : Packet := ⟨⟨0, 0⟩, webSyn.frame.set 46 0x25, by decide⟩

/-- It is answered. -/
theorem reserved_bits_answered : ¬AnswersAsSpecified lpmTrie emptyMaps reservedSyn := by
  intro h
  have htx : (control lpmTrie emptyMaps reservedSyn).2.verdict = .ok .tx ∧
      Call.handleSyn ∈ (control lpmTrie emptyMaps reservedSyn).2.calls := by decide +kernel
  have hpure := h.1.mp htx
  revert hpure
  decide

/-! ### What a cookie is worth -/

/-- An ACK of any connection that acknowledges the sequence number the filter put into its
answer to a SYN of any connection, both untracked. Numbers are as the program loads them. -/
structure EchoesCookie {T : Type} (M : BpfMap T) (maps maps' : Maps T) (s a : Packet) : Prop where
  syn_pure : (segmentAt s.frame).PureSyn
  syn_untracked : M.lookup maps.connectionsTable (connectionAt s.frame).bytes = none
  ack_pure : (segmentAt a.frame).PureAck
  ack_untracked : M.lookup maps'.connectionsTable (connectionAt a.frame).bytes = none
  echoes : u32At a.frame 42 = u32At (control M maps s).2.frame 38 + 1

def Packet.withAckNo (p : Packet) (n : BitVec 32) : Packet :=
  ⟨p.stack, put32 p.frame 42 n, by simpa using p.complete⟩

lemma segmentAt_withAckNo (p : Packet) (n : BitVec 32) :
    segmentAt (p.withAckNo n).frame = { segmentAt p.frame with ackNo := n } := by
  have hl : 54 ≤ p.frame.length := p.complete
  simp (disch := simp <;> omega) [segmentAt, connectionAt, Packet.withAckNo, u32At, u16At, byteAt_put32]

section Cookie

variable {T : Type} (M : BpfMap T) {maps maps' : Maps T}

lemma accepted_iff_of_pureAck {a : Packet} (hpure : (segmentAt a.frame).PureAck)
    (hmiss : M.lookup maps'.connectionsTable (connectionAt a.frame).bytes = none) :
    Call.handleAck ∈ (control M maps' a).2.calls ↔ u32At a.frame 42 = (connectionAt a.frame).cookie + 1 := by
  rw [handleAck_mem_control, branchOf_of_miss M maps' a hmiss, hpure.branch_eq_ack,
    BitVec.sub_eq_iff_eq_add]
  rfl

lemma accepted_iff_of_echoes {s a : Packet} (h : EchoesCookie M maps maps' s a) :
    Call.handleAck ∈ (control M maps' a).2.calls ↔
      (connectionAt s.frame).cookie = (connectionAt a.frame).cookie := by
  have hseq := reply_seqNo M maps s h.syn_pure h.syn_untracked
  rw [accepted_iff_of_pureAck M h.ack_pure h.ack_untracked, h.echoes, hseq]
  exact BitVec.add_left_inj 1

lemma existsUnique_ackNo {a : Packet} (hpure : (segmentAt a.frame).PureAck)
    (hmiss : M.lookup maps'.connectionsTable (connectionAt a.frame).bytes = none) :
    ∃! n : BitVec 32, Call.handleAck ∈ (control M maps' (a.withAckNo n)).2.calls := by
  have hacc (n : BitVec 32) : Call.handleAck ∈ (control M maps' (a.withAckNo n)).2.calls ↔
      n = (connectionAt a.frame).cookie + 1 := by
    have hseg := segmentAt_withAckNo a n
    have hconn : connectionAt (a.withAckNo n).frame = connectionAt a.frame :=
      congrArg Segment.connection hseg
    have hno : u32At (a.withAckNo n).frame 42 = n := congrArg Segment.ackNo hseg
    rw [accepted_iff_of_pureAck M (by rw [hseg]; exact hpure) (by rw [hconn]; exact hmiss), hconn, hno]
  refine ⟨(connectionAt a.frame).cookie + 1, (hacc _).mpr rfl, ?_⟩
  intro n hn
  exact (hacc n).mp hn

/-- An ACK that echoes the cookie of another SYN is accepted exactly when the two connections
collide, which two connections that differ in one field never do. Of all acknowledgment
numbers a packet could carry, one is accepted. -/
theorem cookie_worth (maps maps' : Maps T) :
    (∀ s a : Packet, EchoesCookie M maps maps' s a →
      let c := connectionAt s.frame
      let d := connectionAt a.frame
      (Call.handleAck ∈ (control M maps' a).2.calls ↔
        (c.srcPort.setWidth 32 <<< 16 ||| c.dstPort.setWidth 32) ^^^ c.srcAddr ^^^ c.dstAddr =
          (d.srcPort.setWidth 32 <<< 16 ||| d.dstPort.setWidth 32) ^^^ d.srcAddr ^^^ d.dstAddr) ∧
      (c = d → Call.handleAck ∈ (control M maps' a).2.calls) ∧
      (c.DiffersInOne d → Call.handleAck ∉ (control M maps' a).2.calls) ∧
      (c.dstAddr = d.dstAddr → c.dstPort = d.dstPort →
        (Call.handleAck ∈ (control M maps' a).2.calls ↔
          c.srcAddr ^^^ d.srcAddr = (c.srcPort ^^^ d.srcPort).setWidth 32 <<< 16) ∧
        (c.srcAddr.setWidth 16 ≠ d.srcAddr.setWidth 16 →
          Call.handleAck ∉ (control M maps' a).2.calls))) ∧
      ∀ a : Packet, (segmentAt a.frame).PureAck →
        M.lookup maps'.connectionsTable (connectionAt a.frame).bytes = none →
        ∃! n : BitVec 32, Call.handleAck ∈ (control M maps' (a.withAckNo n)).2.calls := by
  refine ⟨?_, fun a hpure hmiss => existsUnique_ackNo M hpure hmiss⟩
  intro s a h c d
  have hacc := accepted_iff_of_echoes M h
  refine ⟨hacc, ?_, ?_, ?_⟩
  · intro heq
    exact hacc.mpr (congrArg ConnectionT.cookie heq)
  · intro hone hmem
    exact ConnectionT.cookie_ne_of_differsInOne hone (hacc.mp hmem)
  · intro haddr hport
    refine ⟨hacc.trans (ConnectionT.cookie_eq_iff_of_same_server haddr hport), ?_⟩
    intro hlow hmem
    exact ConnectionT.cookie_ne_of_low_bits haddr hport hlow (hacc.mp hmem)

end Cookie

/-- 10.0.48.56:0 collides with 10.0.0.1:12345 at 10.0.0.2:80. -/
def collidingClient : List Byte :=
  [0x0a, 0x00, 0x30, 0x38, 0x0a, 0x00, 0x00, 0x02, 0x00, 0x00, 0x00, 0x50]

theorem cookie_worth_colliding :
    let a : Packet := ⟨⟨0, 0⟩, sampleFrame collidingClient [0, 0, 0, 2] [0x01, 0x50, 0x30, 0x3a] 0x08, by decide⟩
    Call.handleAck ∈ (control lpmTrie emptyMaps a).2.calls :=
  (((cookie_worth lpmTrie emptyMaps emptyMaps).1 webSyn _
    ⟨by decide, rfl, by decide, rfl, by decide +kernel⟩).1).mpr (by decide)

end SyncookieXdp.Proofs
