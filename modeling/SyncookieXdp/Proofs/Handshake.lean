import SyncookieXdp.Proofs.Dispatch

/-!
# The cookie handshake

The cookie goes out in the sequence field of the answer to a SYN and comes back, one
larger, in the acknowledgment field of the client's ACK. The client counts in network
order and the filter in the order of its loads.
-/

namespace SyncookieXdp.Proofs
open Lib

def networkU32At (f : List Byte) (i : Nat) : BitVec 32 :=
  be32 (byteAt f i) (byteAt f (i + 1)) (byteAt f (i + 2)) (byteAt f (i + 3))

/-- `a` is the ACK of a client that received the answer to its SYN `s`: the filter answers
`s` against `maps`, and `a`, of the same connection, acknowledges the sequence number of
that answer plus one, and meets a table that does not hold the connection either. -/
structure ClientAck {T : Type} (M : BpfMap T) (maps maps' : Maps T) (s a : Packet) : Prop where
  syn_pure : (segmentAt s.frame).PureSyn
  syn_untracked : M.lookup maps.connectionsTable (connectionAt s.frame).bytes = none
  same_connection : connectionAt a.frame = connectionAt s.frame
  ack_pure : (segmentAt a.frame).PureAck
  ack_untracked : M.lookup maps'.connectionsTable (connectionAt a.frame).bytes = none
  acknowledges : networkU32At a.frame 42 = networkU32At (control M maps s).2.frame 38 + 1

lemma reply_seqNo {T : Type} (M : BpfMap T) (maps : Maps T) (s : Packet)
    (hpure : (segmentAt s.frame).PureSyn)
    (hmiss : M.lookup maps.connectionsTable (connectionAt s.frame).bytes = none) :
    u32At (control M maps s).2.frame 38 = (connectionAt s.frame).cookie := by
  rw [control_frame, branchOf_of_miss M maps s hmiss, hpure.branch_eq, frameAfter]
  exact (numbers_synRewrite s.complete _).1

/-- A standard client gets through exactly when all four octets of the cookie are `ff`: only
then does the network-order increment agree with the filter's. -/
theorem handshake_completes_iff {T : Type} (M : BpfMap T) (maps maps' : Maps T) (s a : Packet)
    (h : ClientAck M maps maps' s a) :
    Call.handleAck ∈ (control M maps' a).2.calls ↔ (connectionAt s.frame).cookie = 0xffffffff := by
  have hseq := reply_seqNo M maps s h.syn_pure h.syn_untracked
  have hinc : u32At a.frame 42 - 1 = u32At (control M maps s).2.frame 38 ↔
      u32At (control M maps s).2.frame 38 = 0xffffffff :=
    le32_pred_eq_iff _ _ _ _ _ _ _ _ h.acknowledges
  calc Call.handleAck ∈ (control M maps' a).2.calls
      ↔ (segmentAt a.frame).branch false = .ack := by
        rw [handleAck_mem_control, branchOf_of_miss M maps' a h.ack_untracked]
    _ ↔ u32At a.frame 42 - 1 = (connectionAt a.frame).cookie := h.ack_pure.branch_eq_ack
    _ ↔ (connectionAt s.frame).cookie = 0xffffffff := by
        rw [h.same_connection, ← hseq, hinc]

/-- A frame the entry point dispatches, with the twelve octets of addresses and ports, the
two numbers and the control octet given. -/
def sampleFrame (connection seqNo ackNo : List Byte) (flags : Byte) : List Byte :=
  [0x02, 0x00, 0x00, 0x00, 0x00, 0x01, 0x02, 0x00, 0x00, 0x00, 0x00, 0x02, 0x00, 0x08] ++
    [0x45, 0x00, 0x00, 0x28, 0x00, 0x00, 0x00, 0x00, 0x40, 0x06, 0x00, 0x00] ++
    connection ++ seqNo ++ ackNo ++ [0x05, flags, 0xff, 0xff, 0x00, 0x00, 0x00, 0x00]

def webClient : List Byte := [0x0a, 0x00, 0x00, 0x01, 0x0a, 0x00, 0x00, 0x02, 0x30, 0x39, 0x00, 0x50]

/-- The SYN of 10.0.0.1:12345, with the flag where the program looks for it. -/
def webSyn : Packet := ⟨⟨0, 0⟩, sampleFrame webClient [0, 0, 0, 1] [0, 0, 0, 0] 0x40, by decide⟩

def webAck : Packet :=
  ⟨⟨0, 0⟩, sampleFrame webClient [0, 0, 0, 2] [0x00, 0x50, 0x30, 0x3b] 0x08, by decide⟩

theorem standard_client_refused :
    ClientAck lpmTrie emptyMaps emptyMaps webSyn webAck ∧
      Call.handleAck ∉ (control lpmTrie emptyMaps webAck).2.calls := by
  refine ⟨⟨by decide, rfl, by decide, by decide, rfl, by decide +kernel⟩, ?_⟩
  rw [handleAck_mem_control]
  decide

def onesClient : List Byte := [0x0a, 0x00, 0x00, 0x01, 0x0a, 0x00, 0x00, 0x02, 0xff, 0xfc, 0xff, 0xff]

def onesSyn : Packet := ⟨⟨0, 0⟩, sampleFrame onesClient [0, 0, 0, 1] [0, 0, 0, 0] 0x40, by decide⟩

def onesAck : Packet := ⟨⟨0, 0⟩, sampleFrame onesClient [0, 0, 0, 2] [0, 0, 0, 0] 0x08, by decide⟩

theorem handshake_completes_for_ones :
    Call.handleAck ∈ (control lpmTrie emptyMaps onesAck).2.calls :=
  (handshake_completes_iff lpmTrie emptyMaps emptyMaps onesSyn onesAck
    ⟨by decide, rfl, by decide, by decide, rfl, by decide +kernel⟩).mpr (by decide)

/-! ### The numbers of the answers -/

/-- The answer to a SYN acknowledges it, as a client counts, only if the sequence number is
the largest one: the filter adds one at the wrong end of the field. -/
theorem syn_ack_number_iff {T : Type} (M : BpfMap T) (maps : Maps T) (p : Packet)
    (h : Call.handleSyn ∈ (control M maps p).2.calls) :
    networkU32At (control M maps p).2.frame 42 = networkU32At p.frame 38 + 1 ↔
      networkU32At p.frame 38 = 0xffffffff := by
  have hb := (handleSyn_mem_control M maps p).mp h
  have hf : (control M maps p).2.frame = synRewrite p.frame (connectionAt p.frame).cookie := by
    rw [control_frame, hb, frameAfter]
  have hinc : u32At (control M maps p).2.frame 42 = u32At p.frame 38 + 1 := by
    rw [hf]
    exact (numbers_synRewrite p.complete _).2
  rw [← BitVec.sub_eq_iff_eq_add]
  -- the two byte orders change roles
  exact le32_pred_eq_iff _ _ _ _ _ _ _ _ hinc

theorem syn_ack_number_wraps :
    networkU32At (control lpmTrie emptyMaps
      ⟨⟨0, 0⟩, sampleFrame webClient [0xff, 0xff, 0xff, 0xff] [0, 0, 0, 0] 0x40, by decide⟩).2.frame 42 = 0 :=
  (syn_ack_number_iff lpmTrie emptyMaps _ (by decide +kernel)).mpr (by decide +kernel)

/-- Sequence number 1 is acknowledged as `0x01000001`. -/
theorem syn_ack_number_swapped :
    Call.handleSyn ∈ (control lpmTrie emptyMaps webSyn).2.calls ∧
      networkU32At (control lpmTrie emptyMaps webSyn).2.frame 42 ≠ networkU32At webSyn.frame 38 + 1 := by
  decide +kernel

/-- A SYN answered by the filter, followed by the ACK of the same connection that carries the
next sequence number and is accepted. Numbers are as the program loads them. -/
structure CompletedHandshake {T : Type} (M : BpfMap T) (maps maps' : Maps T) (s a : Packet) : Prop where
  syn_pure : (segmentAt s.frame).PureSyn
  syn_answered : Call.handleSyn ∈ (control M maps s).2.calls
  same_connection : connectionAt a.frame = connectionAt s.frame
  ack_pure : (segmentAt a.frame).PureAck
  next_number : u32At a.frame 38 = u32At s.frame 38 + 1
  ack_accepted : Call.handleAck ∈ (control M maps' a).2.calls

/-- The final ACK continues the numbers of the handshake: it takes up the acknowledged number
and acknowledges the SYN and nothing after it. -/
def FinalAckInSequence {T : Type} (M : BpfMap T) (maps' : Maps T) (s a : Packet) : Prop :=
  u32At (control M maps' a).2.frame 38 = u32At a.frame 42 ∧
    u32At (control M maps' a).2.frame 42 = u32At s.frame 38 + 1

/-- The final ACK always acknowledges one number the client has not used. -/
theorem final_ack_never_in_sequence {T : Type} (M : BpfMap T) (maps maps' : Maps T) (s a : Packet)
    (h : CompletedHandshake M maps maps' s a) :
    (u32At (control M maps' a).2.frame 38 = u32At a.frame 42 ∧
      u32At (control M maps' a).2.frame 42 = u32At s.frame 38 + 2) ∧
      ¬FinalAckInSequence M maps' s a := by
  have hb := (handleAck_mem_control M maps' a).mp h.ack_accepted
  have hf : (control M maps' a).2.frame = ackRewrite a.frame := by
    rw [control_frame, hb, frameAfter]
  obtain ⟨hseq, hack⟩ := numbers_ackRewrite a.complete
  have htwo : u32At (control M maps' a).2.frame 42 = u32At s.frame 38 + 2 := by
    rw [hf, hack, h.next_number]
    bv_omega
  refine ⟨⟨by rw [hf, hseq], htwo⟩, ?_⟩
  rintro ⟨-, hone⟩
  rw [htwo] at hone
  bv_omega

/-- The SYN of 10.0.0.1:12345 with sequence number 0, as the filter loads it. -/
def freshSyn : Packet := ⟨⟨0, 0⟩, sampleFrame webClient [0, 0, 0, 0] [0, 0, 0, 0] 0x40, by decide⟩

/-- The ACK that follows it and acknowledges the cookie the way the filter counts. -/
def freshAck : Packet :=
  ⟨⟨0, 0⟩, sampleFrame webClient [1, 0, 0, 0] [0x01, 0x50, 0x30, 0x3a] 0x08, by decide⟩

theorem final_ack_never_in_sequence_fresh :
    ¬FinalAckInSequence lpmTrie emptyMaps freshSyn freshAck :=
  (final_ack_never_in_sequence lpmTrie emptyMaps emptyMaps freshSyn freshAck
    ⟨by decide, by decide +kernel, by decide, by decide, by decide, by decide +kernel⟩).2

/-- The filter acknowledges number 2 of a client that has sent a SYN with number 0 and no data. -/
theorem final_ack_one_ahead :
    CompletedHandshake lpmTrie emptyMaps emptyMaps freshSyn freshAck ∧
      ¬FinalAckInSequence lpmTrie emptyMaps freshSyn freshAck := by
  refine ⟨⟨by decide, by decide +kernel, by decide, by decide, by decide, by decide +kernel⟩, ?_⟩
  rintro ⟨-, hone⟩
  revert hone
  decide +kernel

end SyncookieXdp.Proofs
