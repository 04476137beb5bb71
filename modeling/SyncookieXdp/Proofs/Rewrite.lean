import SyncookieXdp.Spec.Segment
import SyncookieXdp.Model.Controller
import SyncookieXdp.Proofs.Access

/-!
# The two rewrites on a complete frame

For a frame that holds the three headers completely, both handlers are total functions of
the frame: `synRewrite` and `ackRewrite` are the frames they leave. `segmentAt` reads a
segment from the octets, and each rewrite commutes with the abstract reply.
-/

namespace SyncookieXdp.Proofs
open Lib

def headersLen : Nat := 54

def parsedHeaders : HeadersT := ⟨some 0, some 14, some 34⟩

def connectionAt (f : List Byte) : ConnectionT := ⟨u32At f 26, u32At f 30, u16At f 34, u16At f 36⟩

/-- The segment the controller reads from a frame. -/
def segmentAt (f : List Byte) : Segment where
  connection := connectionAt f
  seqNo := u32At f 38
  ackNo := u32At f 42
  res := bitsAt (byteAt f 46) 4 4
  cwr := (byteAt f 47).getLsbD 0
  ece := (byteAt f 47).getLsbD 1
  urg := (byteAt f 47).getLsbD 2
  ack := (byteAt f 47).getLsbD 3
  psh := (byteAt f 47).getLsbD 4
  rst := (byteAt f 47).getLsbD 5
  syn := (byteAt f 47).getLsbD 6
  fin := (byteAt f 47).getLsbD 7

def readdress (f : List Byte) : List Byte :=
  let f₁ := putBytes f 0 (bytesAt f 6 6)
  put32 (put32 f₁ 26 (u32At f₁ 30)) 30 (u32At f₁ 26)

def swapPorts (f : List Byte) : List Byte := put16 (put16 f 34 (u16At f 36)) 36 (u16At f 34)

def setBit (f : List Byte) (l : Nat) (v : BitVec 1) : List Byte :=
  f.set 47 (withBits (byteAt f 47) l v)

/-- The frame `handle_syn` transmits. -/
def synRewrite (f : List Byte) (cookie : BitVec 32) : List Byte :=
  let f₁ := readdress f
  swapPorts (setBit (put32 (put32 f₁ 42 (u32At f₁ 38 + 1)) 38 cookie) 3 1#1)

def ackRewrite (f : List Byte) : List Byte :=
  let f₁ := readdress f
  swapPorts (setBit (setBit (put32 (put32 f₁ 38 (u32At f₁ 42)) 42 (u32At f₁ 38 + 1)) 3 1#1) 6 0#1)

@[simp] lemma length_readdress (f : List Byte) : (readdress f).length = f.length := by
  simp [readdress]

@[simp] lemma length_swapPorts (f : List Byte) : (swapPorts f).length = f.length := by
  simp [swapPorts]

@[simp] lemma length_setBit (f : List Byte) (l : Nat) (v : BitVec 1) :
    (setBit f l v).length = f.length := by
  simp [setBit]

@[simp] lemma length_synRewrite (f : List Byte) (k : BitVec 32) :
    (synRewrite f k).length = f.length := by
  simp [synRewrite]

@[simp] lemma length_ackRewrite (f : List Byte) : (ackRewrite f).length = f.length := by
  simp [ackRewrite]

/-! ### Exact execution of the handlers -/

section Execution

variable {T : Type} {f : List Byte} {t : T} {m : StatsMap} {c : List Call}

lemma computeConnection_run (h : headersLen ≤ f.length) :
    (computeConnection parsedHeaders).run (⟨f, t, m, c⟩ : XdpState T) =
      .ok (connectionAt f) ⟨f, t, m, c⟩ := by
  unfold headersLen at h
  simp (disch := simp <;> omega) only [computeConnection, parsedHeaders, EStateM.run_bind, load32_run,
    load16_run, EStateM.run_pure]
  rfl

lemma computeCookie_run (h : headersLen ≤ f.length) :
    (computeCookie parsedHeaders).run (⟨f, t, m, c⟩ : XdpState T) =
      .ok (connectionAt f).cookie ⟨f, t, m, c⟩ := by
  unfold headersLen at h
  simp (disch := simp <;> omega) only [computeCookie, parsedHeaders, EStateM.run_bind, load32_run,
    load16_run, EStateM.run_pure]
  rfl

lemma copyMacAddr_run (h : headersLen ≤ f.length) :
    (copyMacAddr parsedHeaders).run (⟨f, t, m, c⟩ : XdpState T) =
      .ok () ⟨putBytes f 0 (bytesAt f 6 6), t, m, c⟩ := by
  unfold headersLen at h
  simp (disch := simp <;> omega) only [copyMacAddr, parsedHeaders, EStateM.run_bind, readBytes_run,
    writeBytes_run, EStateM.run_pure]
  rfl

lemma swapIpAddr_run (h : headersLen ≤ f.length) :
    (swapIpAddr parsedHeaders).run (⟨f, t, m, c⟩ : XdpState T) =
      .ok () ⟨put32 (put32 f 26 (u32At f 30)) 30 (u32At f 26), t, m, c⟩ := by
  unfold headersLen at h
  simp (disch := simp <;> omega) only [swapIpAddr, parsedHeaders, EStateM.run_bind, load32_run,
    store32_run]
  rfl

theorem handleSyn_run (h : headersLen ≤ f.length) (cookie : BitVec 32) :
    (handleSyn parsedHeaders cookie).run (⟨f, t, m, c⟩ : XdpState T) =
      .ok .tx ⟨synRewrite f cookie, t, m, c ++ [.handleSyn]⟩ := by
  unfold headersLen at h
  simp (disch := simp [headersLen] <;> omega) only [handleSyn, EStateM.run_bind, logCall_run,
    copyMacAddr_run, swapIpAddr_run]
  simp (disch := simp <;> omega) only [parsedHeaders, load32_run, store32_run, load16_run,
    store16_run, storeBits_run, EStateM.run_pure, BitVec.setWidth_setWidth_of_le, BitVec.setWidth_eq]
  rfl

theorem handleAck_run (h : headersLen ≤ f.length) (M : BpfMap T) (stack : StackImage) :
    (handleAck M parsedHeaders stack).run ⟨f, t, m, c⟩ =
      .ok .tx ⟨ackRewrite f, (M.update t stack.keyAtParameter insert).1, m,
        c ++ [.handleAck] ++ [.mapUpdate stack.keyAtParameter]⟩ := by
  unfold headersLen at h
  simp (disch := simp [headersLen] <;> omega) only [handleAck, EStateM.run_bind, logCall_run,
    bpfMapUpdateElem_run, copyMacAddr_run, swapIpAddr_run]
  simp (disch := simp <;> omega) only [parsedHeaders, load32_run, store32_run, load16_run,
    store16_run, storeBits_run, EStateM.run_pure]
  rfl

lemma isOne_run (h : headersLen ≤ f.length) {w : Nat} (x : BitMember w) (hx : x.octet < TcpT.size) :
    (isOne parsedHeaders x).run (⟨f, t, m, c⟩ : XdpState T) =
      .ok (bitsAt (byteAt f (34 + x.octet)) x.lsb w == 1#w) ⟨f, t, m, c⟩ := by
  unfold headersLen at h
  simp only [TcpT.size] at hx
  simp (disch := omega) only [isOne, parsedHeaders, EStateM.run_bind, loadBits_run, EStateM.run_pure]

lemma acksCookie_run (h : headersLen ≤ f.length) (cookie : BitVec 32) :
    (acksCookie parsedHeaders cookie).run (⟨f, t, m, c⟩ : XdpState T) =
      .ok (u32At f 42 - 1 == cookie) ⟨f, t, m, c⟩ := by
  unfold headersLen at h
  simp (disch := simp <;> omega) only [acksCookie, parsedHeaders, EStateM.run_bind, load32_run,
    EStateM.run_pure]
  rfl

end Execution

/-! ### What the rewrites change -/

section Octets

variable {f : List Byte} (h : headersLen ≤ f.length)
include h

omit h in
lemma byteAt_readdress (j : Nat) (hj : 6 ≤ j ∧ j < 26 ∨ 34 ≤ j) :
    byteAt (readdress f) j = byteAt f j := by
  simp (disch := simp <;> omega) only [readdress, put32, byteAt_putBytes_of_disjoint]

omit h in
lemma byteAt_synRewrite_readdress (k : BitVec 32) (j : Nat) (hj : j < 34 ∨ j = 46 ∨ 48 ≤ j) :
    byteAt (synRewrite f k) j = byteAt (readdress f) j := by
  simp (disch := simp <;> omega) only [synRewrite, swapPorts, setBit, put16, put32,
    byteAt_putBytes_of_disjoint]
  rw [byteAt_set, if_neg (by omega)]
  simp (disch := simp <;> omega) only [byteAt_putBytes_of_disjoint]

omit h in
lemma byteAt_ackRewrite_readdress (j : Nat) (hj : j < 34 ∨ j = 46 ∨ 48 ≤ j) :
    byteAt (ackRewrite f) j = byteAt (readdress f) j := by
  simp (disch := simp <;> omega) only [ackRewrite, swapPorts, setBit, put16, put32,
    byteAt_putBytes_of_disjoint]
  rw [byteAt_set, if_neg (by omega), byteAt_set, if_neg (by omega)]
  simp (disch := simp <;> omega) only [byteAt_putBytes_of_disjoint]

omit h in
lemma byteAt_synRewrite (k : BitVec 32) (j : Nat) (hj : 6 ≤ j ∧ j < 26 ∨ j = 46 ∨ 48 ≤ j) :
    byteAt (synRewrite f k) j = byteAt f j := by
  rw [byteAt_synRewrite_readdress k j (by omega), byteAt_readdress j (by omega)]

omit h in
lemma byteAt_ackRewrite (j : Nat) (hj : 6 ≤ j ∧ j < 26 ∨ j = 46 ∨ 48 ≤ j) :
    byteAt (ackRewrite f) j = byteAt f j := by
  rw [byteAt_ackRewrite_readdress j (by omega), byteAt_readdress j (by omega)]

lemma connectionAt_synRewrite (k : BitVec 32) :
    connectionAt (synRewrite f k) = (connectionAt f).swap := by
  unfold headersLen at h
  simp (disch := simp <;> omega) [connectionAt, ConnectionT.swap, synRewrite, swapPorts, setBit,
    readdress, u32At, u16At, byteAt_put16, byteAt_put32, byteAt_set, byteAt_putBytes]

lemma connectionAt_ackRewrite : connectionAt (ackRewrite f) = (connectionAt f).swap := by
  unfold headersLen at h
  simp (disch := simp <;> omega) [connectionAt, ConnectionT.swap, ackRewrite, swapPorts, setBit,
    readdress, u32At, u16At, byteAt_put16, byteAt_put32, byteAt_set, byteAt_putBytes]

lemma numbers_synRewrite (k : BitVec 32) :
    u32At (synRewrite f k) 38 = k ∧ u32At (synRewrite f k) 42 = u32At f 38 + 1 := by
  unfold headersLen at h
  simp (disch := simp <;> omega) [synRewrite, swapPorts, setBit, readdress, u32At, byteAt_put16,
    byteAt_put32, byteAt_set, byteAt_putBytes]

lemma numbers_ackRewrite :
    u32At (ackRewrite f) 38 = u32At f 42 ∧ u32At (ackRewrite f) 42 = u32At f 38 + 1 := by
  unfold headersLen at h
  simp (disch := simp <;> omega) [ackRewrite, swapPorts, setBit, readdress, u32At, byteAt_put16,
    byteAt_put32, byteAt_set, byteAt_putBytes]

lemma flags_synRewrite (k : BitVec 32) :
    byteAt (synRewrite f k) 47 = withBits (byteAt f 47) 3 1#1 := by
  unfold headersLen at h
  simp (disch := simp <;> omega) [synRewrite, swapPorts, setBit, readdress, byteAt_put16,
    byteAt_put32, byteAt_set, byteAt_putBytes, show 47 < f.length by omega]

lemma flags_ackRewrite :
    byteAt (ackRewrite f) 47 = withBits (withBits (byteAt f 47) 3 1#1) 6 0#1 := by
  unfold headersLen at h
  simp (disch := simp <;> omega) [ackRewrite, swapPorts, setBit, readdress, byteAt_put16,
    byteAt_put32, byteAt_set, byteAt_putBytes, show 47 < f.length by omega]

/-- The segment transmitted by `handle_syn` is the abstract answer to the one received. -/
theorem segmentAt_synRewrite :
    segmentAt (synRewrite f (connectionAt f).cookie) = (segmentAt f).synReply := by
  obtain ⟨hseq, hack⟩ := numbers_synRewrite h (connectionAt f).cookie
  have hres := byteAt_synRewrite (f := f) (connectionAt f).cookie 46 (by omega)
  simp only [segmentAt, Segment.synReply, connectionAt_synRewrite h, hseq, hack, hres,
    flags_synRewrite h, getLsbD_withBits, Nat.reduceLT]
  simp

theorem segmentAt_ackRewrite : segmentAt (ackRewrite f) = (segmentAt f).ackReply := by
  obtain ⟨hseq, hack⟩ := numbers_ackRewrite h
  have hres := byteAt_ackRewrite (f := f) 46 (by omega)
  simp only [segmentAt, Segment.ackReply, connectionAt_ackRewrite h, hseq, hack, hres,
    flags_ackRewrite h, getLsbD_withBits, Nat.reduceLT]
  simp

end Octets

end SyncookieXdp.Proofs
