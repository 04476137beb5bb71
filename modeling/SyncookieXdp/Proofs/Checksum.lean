import SyncookieXdp.Lib.Checksum
import SyncookieXdp.Proofs.Answer

/-!
# The checksums of the transmitted frame

Neither handler writes a checksum field. The exchanges of addresses and ports leave both
sums alone, so the IPv4 checksum stays right. The TCP sum also covers the two numbers and
the flags, which do change.
-/

namespace SyncookieXdp.Proofs
open Lib

/-! ### The IPv4 header -/

def Ipv4ChecksumValid (f : List Byte) : Prop := onesSum (bytesAt f 14 20) = 0xffff

instance (f : List Byte) : Decidable (Ipv4ChecksumValid f) := inferInstanceAs (Decidable (_ = _))

section Readdressed

variable {f f' : List Byte} (h : Readdressed f f')
include h

lemma Readdressed.bytesAt_ipv4_src : bytesAt f' 26 4 = bytesAt f 30 4 :=
  bytesAt_eq_of_u32At h.ipv4_src

lemma Readdressed.bytesAt_ipv4_dst : bytesAt f' 30 4 = bytesAt f 26 4 :=
  bytesAt_eq_of_u32At h.ipv4_dst

/-- The two addresses, exchanged, contribute the same words. -/
lemma Readdressed.sumWords_addresses :
    sumWords (bytesAt f' 26 8) = sumWords (bytesAt f 26 8) := by
  rw [sumWords_bytesAt_add f' 26 4 4 rfl, sumWords_bytesAt_add f 26 4 4 rfl, h.bytesAt_ipv4_src,
    h.bytesAt_ipv4_dst, Nat.add_comm]

lemma Readdressed.sumWords_ports :
    sumWords (bytesAt f' 34 4) = sumWords (bytesAt f 34 4) := by
  rw [sumWords_bytesAt_add f' 34 2 2 rfl, sumWords_bytesAt_add f 34 2 2 rfl,
    bytesAt_eq_of_u16At h.tcp_src, bytesAt_eq_of_u16At h.tcp_dst, Nat.add_comm]

lemma Readdressed.sumWords_connection :
    sumWords (bytesAt f' 26 12) = sumWords (bytesAt f 26 12) := by
  rw [sumWords_bytesAt_add f' 26 8 4 rfl, sumWords_bytesAt_add f 26 8 4 rfl, h.sumWords_addresses,
    h.sumWords_ports]

lemma Readdressed.bytesAt_eq {i n : Nat} (hi : 6 ≤ i ∧ i + n ≤ 26 ∨ 48 ≤ i) :
    bytesAt f' i n = bytesAt f i n := by
  apply bytesAt_congr
  intro k hk
  exact h.others (i + k) (by omega)

lemma Readdressed.onesSum_ipv4 : onesSum (bytesAt f' 14 20) = onesSum (bytesAt f 14 20) := by
  have hsum : sumWords (bytesAt f' 14 20) = sumWords (bytesAt f 14 20) := by
    rw [sumWords_bytesAt_add f' 14 12 8 rfl, sumWords_bytesAt_add f 14 12 8 rfl, h.sumWords_addresses,
      h.bytesAt_eq (.inl (by omega))]
  rw [onesSum_eq_endAround, onesSum_eq_endAround, hsum]

end Readdressed

/-- The IPv4 header of a transmitted frame has the sum it was received with, and the addresses
and ports contribute to the TCP sum what they contributed before. -/
theorem ipv4_checksum_survives {T : Type} (M : BpfMap T) (stack : StackImage) (maps : Maps T)
    (f : List Byte) (htx : (invoke (syncookieFn M stack) maps f).2.verdict = .ok .tx) :
    let f' := (invoke (syncookieFn M stack) maps f).2.frame
    onesSum (bytesAt f' 14 20) = onesSum (bytesAt f 14 20) ∧
      (Ipv4ChecksumValid f → Ipv4ChecksumValid f') ∧
      sumWords (bytesAt f' 26 12) = sumWords (bytesAt f 26 12) ∧
      onesSum (bytesAt f' 26 12) = onesSum (bytesAt f 26 12) := by
  have hread := readdressed_of_tx htx
  refine ⟨hread.onesSum_ipv4, ?_, hread.sumWords_connection, ?_⟩
  · intro hvalid
    rw [Ipv4ChecksumValid, hread.onesSum_ipv4]
    exact hvalid
  · rw [onesSum_eq_endAround, onesSum_eq_endAround, hread.sumWords_connection]

/-- A frame with its two checksum fields filled in. -/
def withChecksums (f ipv4 tcp : List Byte) : List Byte := putBytes (putBytes f 24 ipv4) 50 tcp

/-- The SYN of 10.0.0.1:12345 with valid checksums. -/
def checkedSyn : List Byte := withChecksums webSyn.frame [0x66, 0xce] [0xb6, 0x18]

theorem ipv4_checksum_survives_checkedSyn :
    Ipv4ChecksumValid (invoke (syncookieFn lpmTrie ⟨0, 0⟩) emptyMaps checkedSyn).2.frame :=
  (ipv4_checksum_survives lpmTrie ⟨0, 0⟩ emptyMaps checkedSyn (by decide +kernel)).2.1 (by decide +kernel)

/-! ### The TCP segment -/

def ipv4TotalLen (f : List Byte) : Nat := (be16 (byteAt f 16) (byteAt f 17)).toNat

def tcpOffset (f : List Byte) : Nat := 14 + 4 * ipv4Ihl f

def tcpLen (f : List Byte) : Nat := ipv4TotalLen f - 4 * ipv4Ihl f

/-- The two addresses, the protocol and the length of the segment, as the checksum covers them. -/
def pseudoHeader (f : List Byte) : List Byte :=
  let len := BitVec.ofNat 16 (tcpLen f)
  bytesAt f 26 8 ++ [0, byteAt f 23, octet len 1, octet len 0]

def checksummed (f : List Byte) : List Byte := pseudoHeader f ++ bytesAt f (tcpOffset f) (tcpLen f)

/-- The frame holds the whole TCP segment, and pseudo-header and segment sum up to all ones. -/
def TcpChecksumValid (f : List Byte) : Prop :=
  20 ≤ tcpLen f ∧ tcpOffset f + tcpLen f ≤ f.length ∧ onesSum (checksummed f) = 0xffff

instance (f : List Byte) : Decidable (TcpChecksumValid f) := inferInstanceAs (Decidable (_ ∧ _))

/-- The part of the sum no handler changes. -/
def fixedSum (f : List Byte) : Nat :=
  let len := BitVec.ofNat 16 (tcpLen f)
  sumWords (bytesAt f 26 12) + sumWords [0, byteAt f 23, octet len 1, octet len 0] +
    sumWords (bytesAt f 48 (tcpLen f - 14))

lemma sumWords_checksummed {f : List Byte} (hihl : ipv4Ihl f = 5) (hlen : 20 ≤ tcpLen f) :
    sumWords (checksummed f) = fixedSum f + sumWords (bytesAt f 38 10) := by
  have hoff : tcpOffset f = 34 := by rw [tcpOffset, hihl]
  have hconn : sumWords (bytesAt f 26 12) = sumWords (bytesAt f 26 8) + sumWords (bytesAt f 34 4) :=
    sumWords_bytesAt_add f 26 8 4 rfl
  have hseg : sumWords (bytesAt f 34 (tcpLen f)) = sumWords (bytesAt f 34 4) +
      (sumWords (bytesAt f 38 10) + sumWords (bytesAt f 48 (tcpLen f - 14))) := by
    rw [← sumWords_bytesAt_add f 38 10 _ rfl, ← sumWords_bytesAt_add f 34 4 _ rfl,
      show 4 + (10 + (tcpLen f - 14)) = tcpLen f by omega]
  rw [checksummed, pseudoHeader, hoff, sumWords_append _ _ (by simp), sumWords_append _ _ (by simp),
    hseg, fixedSum, hconn]
  omega

/-- The words of the two numbers and of the flags. -/
lemma sumWords_numbers (f : List Byte) :
    sumWords (bytesAt f 38 10) % 65535 =
      (256 * (byteAt f 46).toNat + (256 * (u32At f 38).toNat + 256 * (u32At f 42).toNat +
        (byteAt f 47).toNat)) % 65535 := by
  have hseq := sumWords_bytesAt_four f 38
  have hack := sumWords_bytesAt_four f 42
  have hflags : sumWords (bytesAt f 46 2) = (byteAt f 47).toNat + 256 * (byteAt f 46).toNat :=
    sumWords_bytesAt_two f 46
  have hsplit : sumWords (bytesAt f 38 10) =
      sumWords (bytesAt f 38 4) + (sumWords (bytesAt f 42 4) + sumWords (bytesAt f 46 2)) := by
    rw [← sumWords_bytesAt_add f 42 4 2 rfl, ← sumWords_bytesAt_add f 38 4 6 rfl]
  rw [hsplit, hflags]
  omega

section Readdressed

variable {f f' : List Byte} (h : Readdressed f f')
include h

lemma Readdressed.tcpLen_eq : tcpLen f' = tcpLen f := by
  rw [tcpLen, tcpLen, ipv4TotalLen, ipv4TotalLen, ipv4Ihl, ipv4Ihl, h.others 14 (by omega),
    h.others 16 (by omega), h.others 17 (by omega)]

lemma Readdressed.ipv4Ihl_eq : ipv4Ihl f' = ipv4Ihl f := by
  rw [ipv4Ihl, ipv4Ihl, h.others 14 (by omega)]

lemma Readdressed.fixedSum_eq : fixedSum f' = fixedSum f := by
  rw [fixedSum, fixedSum, h.tcpLen_eq, h.sumWords_connection, h.others 23 (by omega),
    h.bytesAt_eq (.inr (by omega))]

/-- A valid segment stays valid exactly when the words of the two numbers and of the flags
keep their sum modulo `2 ^ 16 - 1`. -/
lemma Readdressed.tcpChecksumValid_iff (hihl : ipv4Ihl f = 5) (hproto : byteAt f 23 = 0x06)
    (hvalid : TcpChecksumValid f) :
    TcpChecksumValid f' ↔
      (256 * (u32At f' 38).toNat + 256 * (u32At f' 42).toNat + (byteAt f' 47).toNat) % 65535 =
        (256 * (u32At f 38).toNat + 256 * (u32At f 42).toNat + (byteAt f 47).toNat) % 65535 := by
  obtain ⟨hlen, hin, hsum⟩ := hvalid
  have hlen' : 20 ≤ tcpLen f' := by rwa [h.tcpLen_eq]
  have hihl' : ipv4Ihl f' = 5 := by rw [h.ipv4Ihl_eq, hihl]
  have hin' : tcpOffset f' + tcpLen f' ≤ f'.length := by
    rw [tcpOffset, h.ipv4Ihl_eq, h.tcpLen_eq, h.length_eq]
    exact hin
  -- the protocol octet keeps the sum away from zero
  have hpos : 0 < fixedSum f := by
    simp only [fixedSum, sumWords, be16, toNat_le16, hproto, BitVec.reduceToNat]
    omega
  have hnum := sumWords_numbers f
  have hnum' := sumWords_numbers f'
  rw [h.others 46 (by omega)] at hnum'
  rw [onesSum_eq_allOnes_iff, sumWords_checksummed hihl hlen] at hsum
  rw [TcpChecksumValid, onesSum_eq_allOnes_iff, sumWords_checksummed hihl' hlen', h.fixedSum_eq]
  constructor
  · rintro ⟨-, -, -, hsum'⟩
    omega
  · intro heq
    exact ⟨hlen', hin', by omega, by omega⟩

end Readdressed

/-- The answer happens to need the checksum of the received segment. For a SYN the cookie, the
increment and the new flag have to make up for the lost acknowledgment number; for an ACK the
increment has to vanish. -/
def ChecksumSurvives (g : Segment) : Prop :=
  if g.syn then
    (g.connection.cookie.toNat + 2048 + if g.seqNo = 0xffffffff then 0 else 1) % 65535 =
      g.ackNo.toNat % 65535
  else g.seqNo = 0xffffffff

instance (g : Segment) : Decidable (ChecksumSurvives g) := inferInstanceAs (Decidable (ite ..))

lemma toNat_add_one_of_ne {x : BitVec 32} (h : x ≠ 0xffffffff) : (x + 1).toNat = x.toNat + 1 := by
  bv_omega

lemma toNat_withBits_three {b : Byte} (h : b.getLsbD 3 = false) :
    (withBits b 3 1#1).toNat = b.toNat + 8 := by
  revert b
  decide

lemma withBits_ack {b : Byte} (hack : b.getLsbD 3 = true) (hsyn : b.getLsbD 6 = false) :
    withBits (withBits b 3 1#1) 6 0#1 = b := by
  revert b
  decide

lemma tcpChecksumValid_synRewrite {f : List Byte} (hl : headersLen ≤ f.length) (hihl : ipv4Ihl f = 5)
    (hproto : byteAt f 23 = 0x06) (hvalid : TcpChecksumValid f)
    (hb : (segmentAt f).branch false = .syn) :
    TcpChecksumValid (synRewrite f (connectionAt f).cookie) ↔ ChecksumSurvives (segmentAt f) := by
  obtain ⟨-, honly, -⟩ := (Segment.branch_eq_syn_iff false (segmentAt f)).mp hb
  obtain ⟨hseq, hack⟩ := numbers_synRewrite hl (connectionAt f).cookie
  rw [(readdressed_synRewrite hl _).tcpChecksumValid_iff hihl hproto hvalid, hseq, hack,
    flags_synRewrite hl, toNat_withBits_three honly.2.1, ChecksumSurvives, if_pos honly.1]
  have hcookie : (segmentAt f).connection.cookie = (connectionAt f).cookie := rfl
  have hackNo : (segmentAt f).ackNo = u32At f 42 := rfl
  rw [hcookie, hackNo]
  by_cases hmax : u32At f 38 = 0xffffffff
  · rw [if_pos (show (segmentAt f).seqNo = 0xffffffff from hmax), hmax]
    simp only [BitVec.reduceAdd, BitVec.reduceToNat]
    omega
  · rw [if_neg (show (segmentAt f).seqNo ≠ 0xffffffff from hmax), toNat_add_one_of_ne hmax]
    omega

lemma tcpChecksumValid_ackRewrite {f : List Byte} (hl : headersLen ≤ f.length) (hihl : ipv4Ihl f = 5)
    (hproto : byteAt f 23 = 0x06) (hvalid : TcpChecksumValid f)
    (hb : (segmentAt f).branch false = .ack) :
    TcpChecksumValid (ackRewrite f) ↔ ChecksumSurvives (segmentAt f) := by
  obtain ⟨-, honly, -⟩ := (Segment.branch_eq_ack_iff false (segmentAt f)).mp hb
  obtain ⟨hseq, hack⟩ := numbers_ackRewrite hl
  have hsyn : (segmentAt f).syn = false := honly.2.1
  rw [(readdressed_ackRewrite hl).tcpChecksumValid_iff hihl hproto hvalid, hseq, hack,
    flags_ackRewrite hl, withBits_ack honly.1 honly.2.1, ChecksumSurvives, hsyn, if_neg (by decide)]
  have hseqNo : (segmentAt f).seqNo = u32At f 38 := rfl
  rw [hseqNo]
  by_cases hmax : u32At f 38 = 0xffffffff
  · rw [hmax]
    simp only [BitVec.reduceAdd, BitVec.reduceToNat, iff_true]
    omega
  · rw [toNat_add_one_of_ne hmax]
    simp only [hmax, iff_false]
    omega

/-- The transmitted segment has a valid checksum only by coincidence: the field is sent back
as it came. -/
theorem tcp_checksum_survives_iff {T : Type} (M : BpfMap T) (stack : StackImage) (maps : Maps T)
    (f : List Byte) (htx : (invoke (syncookieFn M stack) maps f).2.verdict = .ok .tx)
    (hihl : ipv4Ihl f = 5) (hvalid : TcpChecksumValid f) :
    TcpChecksumValid (invoke (syncookieFn M stack) maps f).2.frame ↔
      ChecksumSurvives (segmentAt f) := by
  obtain ⟨hl, hd, ⟨hb, -, hf⟩ | ⟨hb, -, hf⟩⟩ := transmitted_cases htx
  · rw [hf]
    exact tcpChecksumValid_synRewrite hl hihl hd.2.2.2 hvalid hb
  · rw [hf]
    exact tcpChecksumValid_ackRewrite hl hihl hd.2.2.2 hvalid hb

/-- An ACK that acknowledges the cookie, carries the largest sequence number and has valid
checksums. -/
def checkedAck : List Byte :=
  withChecksums (sampleFrame webClient [0xff, 0xff, 0xff, 0xff] [0x01, 0x50, 0x30, 0x3a] 0x08)
    [0x66, 0xce] [0x84, 0xc7]

theorem tcp_checksum_survives_checkedAck :
    TcpChecksumValid (invoke (syncookieFn lpmTrie ⟨0, 0⟩) emptyMaps checkedAck).2.frame :=
  (tcp_checksum_survives_iff lpmTrie ⟨0, 0⟩ emptyMaps checkedAck (by decide +kernel) (by decide +kernel)
    (by decide +kernel)).mpr (by decide +kernel)

/-- The answer to a SYN with a valid checksum has an invalid one. -/
theorem tcp_checksum_stale :
    (invoke (syncookieFn lpmTrie ⟨0, 0⟩) emptyMaps checkedSyn).2.verdict = .ok .tx ∧
      ipv4Ihl checkedSyn = 5 ∧ TcpChecksumValid checkedSyn ∧
      ¬TcpChecksumValid (invoke (syncookieFn lpmTrie ⟨0, 0⟩) emptyMaps checkedSyn).2.frame := by
  decide +kernel

end SyncookieXdp.Proofs
