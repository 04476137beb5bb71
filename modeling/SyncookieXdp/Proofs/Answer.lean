import SyncookieXdp.Proofs.Handshake

/-!
# The transmitted frame

Both handlers rewrite the received frame in place. This file says once which octets of a
transmitted frame come from where, for either handler, and derives what happens to the
six addresses and to everything the rewrite is not about.
-/

namespace SyncookieXdp.Proofs
open Lib

/-! ### One description for both handlers -/

/-- `f'` is `f` with the addresses and ports rewritten by a handler. The octets 38 to 45 and
47, where the handlers differ, are left open. -/
structure Readdressed (f f' : List Byte) : Prop where
  length_eq : f'.length = f.length
  ether_dst : ∀ i < 6, byteAt f' i = byteAt f (6 + i)
  ipv4_src : u32At f' 26 = u32At f 30
  ipv4_dst : u32At f' 30 = u32At f 26
  tcp_src : u16At f' 34 = u16At f 36
  tcp_dst : u16At f' 36 = u16At f 34
  others : ∀ j, 6 ≤ j ∧ j < 26 ∨ j = 46 ∨ 48 ≤ j → byteAt f' j = byteAt f j

section Readdressed

variable {f : List Byte} (h : headersLen ≤ f.length)
include h

lemma byteAt_readdress_ether (i : Nat) (hi : i < 6) : byteAt (readdress f) i = byteAt f (6 + i) := by
  unfold headersLen at h
  rw [readdress, put32, put32, byteAt_putBytes_of_disjoint _ _ _ _ (.inl (by omega)),
    byteAt_putBytes_of_disjoint _ _ _ _ (.inl (by omega)), byteAt_putBytes _ _ _ _ (by simp; omega),
    if_pos (by simp; omega)]
  simp [bytesAt, hi]

lemma readdressed_synRewrite (k : BitVec 32) : Readdressed f (synRewrite f k) := by
  have hconn := connectionAt_synRewrite h k
  simp only [connectionAt, ConnectionT.swap, ConnectionT.mk.injEq] at hconn
  obtain ⟨hsrc, hdst, hsport, hdport⟩ := hconn
  refine ⟨length_synRewrite f k, ?_, hsrc, hdst, hsport, hdport, byteAt_synRewrite k⟩
  intro i hi
  rw [byteAt_synRewrite_readdress k i (by omega), byteAt_readdress_ether h i hi]

lemma readdressed_ackRewrite : Readdressed f (ackRewrite f) := by
  have hconn := connectionAt_ackRewrite h
  simp only [connectionAt, ConnectionT.swap, ConnectionT.mk.injEq] at hconn
  obtain ⟨hsrc, hdst, hsport, hdport⟩ := hconn
  refine ⟨length_ackRewrite f, ?_, hsrc, hdst, hsport, hdport, byteAt_ackRewrite⟩
  intro i hi
  rw [byteAt_ackRewrite_readdress i (by omega), byteAt_readdress_ether h i hi]

end Readdressed

section Transmitted

variable {T : Type} {M : BpfMap T} {stack : StackImage} {maps : Maps T} {f : List Byte}

/-- What the entry point did if it transmitted: the frame has complete headers and one of the
two handlers rewrote it. -/
theorem transmitted_cases (h : (invoke (syncookieFn M stack) maps f).2.verdict = .ok .tx) :
    headersLen ≤ f.length ∧ Dispatched f ∧
      (((segmentAt f).branch false = .syn ∧
          Call.handleSyn ∈ (invoke (syncookieFn M stack) maps f).2.calls ∧
          (invoke (syncookieFn M stack) maps f).2.frame = synRewrite f (connectionAt f).cookie) ∨
        ((segmentAt f).branch false = .ack ∧
          Call.handleAck ∈ (invoke (syncookieFn M stack) maps f).2.calls ∧
          (invoke (syncookieFn M stack) maps f).2.frame = ackRewrite f)) := by
  by_cases hd : Dispatched f
  · by_cases hl : headersLen ≤ f.length
    · refine ⟨hl, hd, ?_⟩
      have hc : invoke (syncookieFn M stack) maps f = control M maps ⟨stack, f, hl⟩ :=
        invoke_complete M stack maps hd hl
      rw [hc, control_verdict] at h
      rw [hc, control_frame, control_calls]
      cases hb : branchOf M maps ⟨stack, f, hl⟩ with
      | tracked => simp [hb, actionOf] at h
      | refused => simp [hb, actionOf] at h
      | syn =>
        have hmiss := (Segment.branch_eq_syn.mp hb).1
        rw [branchOf, branchAt, hmiss] at hb
        exact .inl ⟨hb, by simp [callsOf], rfl⟩
      | ack =>
        have hmiss := (Segment.branch_eq_ack.mp hb).1
        rw [branchOf, branchAt, hmiss] at hb
        exact .inr ⟨hb, by simp [callsOf], rfl⟩
    · rw [invoke_truncated M stack maps hd (by omega)] at h
      cases h
  · rw [invoke_ignored M stack maps hd] at h
    cases h

/-- A frame that is not transmitted is left as it was. -/
lemma frame_eq_of_not_tx (h : headersLen ≤ f.length)
    (hv : (invoke (syncookieFn M stack) maps f).2.verdict ≠ .ok .tx) :
    (invoke (syncookieFn M stack) maps f).2.frame = f := by
  by_cases hd : Dispatched f
  · have hc : invoke (syncookieFn M stack) maps f = control M maps ⟨stack, f, h⟩ :=
      invoke_complete M stack maps hd h
    rw [hc, control_verdict] at hv
    rw [hc, control_frame]
    cases hb : branchOf M maps ⟨stack, f, h⟩ with
    | tracked => rfl
    | refused => rfl
    | syn => simp [hb, actionOf] at hv
    | ack => simp [hb, actionOf] at hv
  · rw [invoke_ignored M stack maps hd]

lemma readdressed_of_tx (h : (invoke (syncookieFn M stack) maps f).2.verdict = .ok .tx) :
    Readdressed f (invoke (syncookieFn M stack) maps f).2.frame := by
  obtain ⟨hl, -, ⟨-, -, hf⟩ | ⟨-, -, hf⟩⟩ := transmitted_cases h
  · rw [hf]
    exact readdressed_synRewrite hl _
  · rw [hf]
    exact readdressed_ackRewrite hl

end Transmitted

/-! ### The six addresses -/

/-- The addresses of a frame at the three layers, as the program's fields hold them. -/
structure Addresses where
  etherDst : List Byte
  etherSrc : List Byte
  ipv4Dst : BitVec 32
  ipv4Src : BitVec 32
  tcpDst : BitVec 16
  tcpSrc : BitVec 16
deriving DecidableEq, Repr

def Addresses.exchange (a : Addresses) : Addresses :=
  ⟨a.etherSrc, a.etherDst, a.ipv4Src, a.ipv4Dst, a.tcpSrc, a.tcpDst⟩

def addressesAt (f : List Byte) : Addresses :=
  ⟨bytesAt f 0 6, bytesAt f 6 6, u32At f 30, u32At f 26, u16At f 36, u16At f 34⟩

/-- The frame `f'` goes back to the sender of `f`: each pair of addresses is exchanged, and
exchanging them once more gives the received ones. -/
def GoesBack (f f' : List Byte) : Prop :=
  addressesAt f' = (addressesAt f).exchange ∧ (addressesAt f').exchange = addressesAt f

instance (f f' : List Byte) : Decidable (GoesBack f f') := inferInstanceAs (Decidable (_ ∧ _))

/-- Both handlers leave the Ethernet source address in place. -/
lemma addressesAt_of_readdressed {f f' : List Byte} (h : Readdressed f f') :
    addressesAt f' = { (addressesAt f).exchange with etherSrc := (addressesAt f).etherSrc } := by
  have hdst : bytesAt f' 0 6 = bytesAt f 6 6 := by
    apply bytesAt_congr
    intro k hk
    rw [Nat.zero_add]
    exact h.ether_dst k hk
  have hsrc : bytesAt f' 6 6 = bytesAt f 6 6 := by
    apply bytesAt_congr
    intro k hk
    exact h.others (6 + k) (.inl (by omega))
  simp only [addressesAt, Addresses.exchange, hdst, hsrc, h.ipv4_src, h.ipv4_dst, h.tcp_src, h.tcp_dst]

/-- A transmitted frame goes back to its sender exactly when the received frame had the same
Ethernet address at both ends: the destination is overwritten before it is saved. -/
theorem goes_back_iff {T : Type} (M : BpfMap T) (stack : StackImage) (maps : Maps T) (f : List Byte)
    (htx : (invoke (syncookieFn M stack) maps f).2.verdict = .ok .tx) :
    GoesBack f (invoke (syncookieFn M stack) maps f).2.frame ↔ bytesAt f 0 6 = bytesAt f 6 6 := by
  rw [GoesBack, addressesAt_of_readdressed (readdressed_of_tx htx)]
  constructor
  · rintro ⟨hex, -⟩
    have hsrc := congrArg Addresses.etherSrc hex
    exact hsrc.symm
  · intro heq
    have hsrc : (addressesAt f).etherSrc = (addressesAt f).etherDst := heq.symm
    constructor
    · rw [hsrc]
      rfl
    · change Addresses.mk _ _ _ _ _ _ = addressesAt f
      rw [hsrc]
      rfl

/-- The SYN of 10.0.0.1:12345 between two stations with the same Ethernet address. -/
def loopSyn : List Byte := putBytes webSyn.frame 0 [0x02, 0x00, 0x00, 0x00, 0x00, 0x02]

theorem goes_back_loopSyn :
    GoesBack loopSyn (invoke (syncookieFn lpmTrie ⟨0, 0⟩) emptyMaps loopSyn).2.frame :=
  (goes_back_iff lpmTrie ⟨0, 0⟩ emptyMaps loopSyn (by decide +kernel)).mpr (by decide +kernel)

/-- The answer to a SYN keeps the sender's own address as its Ethernet source. -/
theorem ether_src_not_exchanged :
    (invoke (syncookieFn lpmTrie ⟨0, 0⟩) emptyMaps webSyn.frame).2.verdict = .ok .tx ∧
      ¬GoesBack webSyn.frame (invoke (syncookieFn lpmTrie ⟨0, 0⟩) emptyMaps webSyn.frame).2.frame := by
  decide +kernel

/-! ### Everything else -/

/-- A frame that is passed or dropped is unchanged, and a transmitted one differs at most in
the addresses, the ports, the two numbers and the flags the handler sets. -/
theorem rewrite_touches_nothing_else {T : Type} (M : BpfMap T) (stack : StackImage) (maps : Maps T)
    (f : List Byte) (h : headersLen ≤ f.length) :
    let o := (invoke (syncookieFn M stack) maps f).2
    (o.verdict = .ok .pass ∨ o.verdict = .ok .drop → o.frame = f) ∧
      (o.verdict = .ok .tx →
        o.frame.length = f.length ∧
          (∀ j, ¬(j ≤ 11 ∨ 26 ≤ j ∧ j ≤ 33 ∨ 34 ≤ j ∧ j ≤ 45 ∨ j = 47) → o.frame[j]? = f[j]?) ∧
          (Call.handleSyn ∈ o.calls ∧
              (∀ i, i ≠ TcpT.ack.lsb → (byteAt o.frame 47).getLsbD i = (byteAt f 47).getLsbD i) ∨
            Call.handleAck ∈ o.calls ∧
              ∀ i, i ≠ TcpT.ack.lsb → i ≠ TcpT.syn.lsb →
                (byteAt o.frame 47).getLsbD i = (byteAt f 47).getLsbD i)) := by
  refine ⟨?_, ?_⟩
  · intro hv
    apply frame_eq_of_not_tx h
    rcases hv with hv | hv <;> simp [hv]
  · intro htx
    have hread := readdressed_of_tx htx
    refine ⟨hread.length_eq, ?_, ?_⟩
    · intro j hj
      exact getElem?_eq_of_byteAt hread.length_eq (hread.others j (by omega))
    · obtain ⟨-, -, ⟨-, hcall, hf⟩ | ⟨-, hcall, hf⟩⟩ := transmitted_cases htx
      · refine .inl ⟨hcall, ?_⟩
        intro i hi
        rw [hf, flags_synRewrite h]
        exact getLsbD_withBits_of_ne _ 3 i 1#1 hi
      · refine .inr ⟨hcall, ?_⟩
        intro i hack hsyn
        rw [hf, flags_ackRewrite h, getLsbD_withBits_of_ne _ 6 i 0#1 hsyn]
        exact getLsbD_withBits_of_ne _ 3 i 1#1 hack

theorem rewrite_touches_nothing_else_webSyn :
    let o := (invoke (syncookieFn lpmTrie ⟨0, 0⟩) emptyMaps webSyn.frame).2
    o.verdict = .ok .tx ∧ o.frame.length = webSyn.frame.length :=
  ⟨by decide +kernel, ((rewrite_touches_nothing_else lpmTrie ⟨0, 0⟩ emptyMaps webSyn.frame
    webSyn.complete).2 (by decide +kernel)).1⟩

end SyncookieXdp.Proofs
