import SyncookieXdp.Model.Headers

/-!
# Segments and the decision taken for them

The abstract side of the filter. A segment is what the filter reads of a TCP packet: the
connection, the two numbers, the reserved bits and the eight control flags, each as the
program's fields see them. A decision depends on the segment and on whether its connection
is in the table; a reply is again a segment. No octets and no memory appear here.
-/

namespace SyncookieXdp
open Lib

namespace ConnectionT

def swap (c : ConnectionT) : ConnectionT := ⟨c.dstAddr, c.srcAddr, c.dstPort, c.srcPort⟩

def cookie (c : ConnectionT) : BitVec 32 :=
  (c.srcPort.setWidth 32 <<< 16 ||| c.dstPort.setWidth 32) ^^^ c.srcAddr ^^^ c.dstAddr

@[simp] lemma swap_swap (c : ConnectionT) : c.swap.swap = c := rfl

/-! ### Colliding cookies -/

lemma ports_eq_append (p q : BitVec 16) : p.setWidth 32 <<< 16 ||| q.setWidth 32 = p ++ q := by
  apply BitVec.eq_of_getLsbD_eq
  intro i hi
  rw [BitVec.getLsbD_append]
  by_cases h : i < 16
  · simp [h, hi]
  · simp [h, hi, BitVec.getLsbD_of_ge q i (by omega)]

lemma append_xor_append (p p' q : BitVec 16) :
    (p ++ q) ^^^ (p' ++ q) = (p ^^^ p').setWidth 32 <<< 16 := by
  rw [BitVec.xor_append, BitVec.xor_self, ← ports_eq_append]
  simp

lemma xor_eq_xor_iff {w : Nat} {a b c d : BitVec w} : a ^^^ b = c ^^^ d ↔ b ^^^ d = a ^^^ c := by
  constructor
  · intro h
    calc b ^^^ d = a ^^^ (a ^^^ b) ^^^ d := by rw [← BitVec.xor_assoc, BitVec.xor_self, BitVec.zero_xor]
      _ = a ^^^ (c ^^^ d) ^^^ d := by rw [h]
      _ = a ^^^ c := by rw [BitVec.xor_assoc, BitVec.xor_assoc, BitVec.xor_self, BitVec.xor_zero]
  · intro h
    calc a ^^^ b = a ^^^ (b ^^^ d) ^^^ d := by
          rw [BitVec.xor_assoc, BitVec.xor_assoc, BitVec.xor_self, BitVec.xor_zero]
      _ = a ^^^ (a ^^^ c) ^^^ d := by rw [h]
      _ = c ^^^ d := by rw [← BitVec.xor_assoc, BitVec.xor_self, BitVec.zero_xor]

/-- Two connections to one server collide exactly when their addresses differ by what their
ports differ by, sixteen bits up. -/
lemma cookie_eq_iff_of_same_server {c d : ConnectionT} (haddr : c.dstAddr = d.dstAddr)
    (hport : c.dstPort = d.dstPort) :
    c.cookie = d.cookie ↔
      c.srcAddr ^^^ d.srcAddr = (c.srcPort ^^^ d.srcPort).setWidth 32 <<< 16 := by
  rw [← append_xor_append c.srcPort d.srcPort d.dstPort]
  simp only [cookie, ports_eq_append, haddr, hport, BitVec.xor_left_inj]
  exact xor_eq_xor_iff

/-- A collision leaves the low sixteen bits of the address alone. -/
lemma cookie_ne_of_low_bits {c d : ConnectionT} (haddr : c.dstAddr = d.dstAddr)
    (hport : c.dstPort = d.dstPort) (hlow : c.srcAddr.setWidth 16 ≠ d.srcAddr.setWidth 16) :
    c.cookie ≠ d.cookie := by
  intro h
  rw [cookie_eq_iff_of_same_server haddr hport] at h
  apply hlow
  apply BitVec.eq_of_getLsbD_eq
  intro i hi
  have hbit := congrArg (fun x => x.getLsbD i) h
  simpa [hi, show i < 32 by omega] using hbit

/-- The two connections differ in exactly one of their four fields. -/
def DiffersInOne (c d : ConnectionT) : Prop :=
  c.srcAddr ≠ d.srcAddr ∧ c.dstAddr = d.dstAddr ∧ c.srcPort = d.srcPort ∧ c.dstPort = d.dstPort ∨
    c.srcAddr = d.srcAddr ∧ c.dstAddr ≠ d.dstAddr ∧ c.srcPort = d.srcPort ∧ c.dstPort = d.dstPort ∨
    c.srcAddr = d.srcAddr ∧ c.dstAddr = d.dstAddr ∧ c.srcPort ≠ d.srcPort ∧ c.dstPort = d.dstPort ∨
    c.srcAddr = d.srcAddr ∧ c.dstAddr = d.dstAddr ∧ c.srcPort = d.srcPort ∧ c.dstPort ≠ d.dstPort

instance (c d : ConnectionT) : Decidable (DiffersInOne c d) := inferInstanceAs (Decidable (_ ∨ _))

lemma cookie_ne_of_differsInOne {c d : ConnectionT} (h : DiffersInOne c d) : c.cookie ≠ d.cookie := by
  intro hc
  simp only [cookie, ports_eq_append] at hc
  rcases h with ⟨hne, hda, hsp, hdp⟩ | ⟨hsa, hne, hsp, hdp⟩ | ⟨hsa, hda, hne, hdp⟩ | ⟨hsa, hda, hsp, hne⟩
  · rw [hda, hsp, hdp, BitVec.xor_left_inj, BitVec.xor_right_inj] at hc
    exact hne hc
  · rw [hsa, hsp, hdp, BitVec.xor_right_inj] at hc
    exact hne hc
  · rw [hsa, hda, hdp, BitVec.xor_left_inj, BitVec.xor_left_inj, BitVec.append_left_inj] at hc
    exact hne hc
  · rw [hsa, hda, hsp, BitVec.xor_left_inj, BitVec.xor_left_inj, BitVec.append_right_inj] at hc
    exact hne hc

end ConnectionT

/-- What the filter reads of a TCP packet. -/
structure Segment where
  connection : ConnectionT
  seqNo : BitVec 32
  ackNo : BitVec 32
  res : BitVec 4
  cwr : Bool
  ece : Bool
  urg : Bool
  ack : Bool
  psh : Bool
  rst : Bool
  syn : Bool
  fin : Bool
deriving DecidableEq, Repr

inductive Branch where
  | tracked | refused | syn | ack
deriving DecidableEq, Repr

namespace Segment

def refused (g : Segment) : Bool :=
  g.syn && g.ack || (g.res == 1 || (g.cwr || (g.ece || (g.urg || (g.psh || (g.rst || g.fin))))))

def acksCookie (g : Segment) : Bool := g.ackNo - 1 == g.connection.cookie

/-- The decision for a segment, given whether its connection is in the table. -/
def branch (tracked : Bool) (g : Segment) : Branch :=
  if tracked then .tracked
  else if g.refused then .refused
  else if g.syn then .syn
  else if g.ack && g.acksCookie then .ack
  else .refused

def synReply (g : Segment) : Segment :=
  { g with connection := g.connection.swap, seqNo := g.connection.cookie, ackNo := g.seqNo + 1,
           ack := true }

def ackReply (g : Segment) : Segment :=
  { g with connection := g.connection.swap, seqNo := g.ackNo, ackNo := g.seqNo + 1,
           ack := true, syn := false }

def PureSyn (g : Segment) : Prop :=
  g.syn = true ∧ g.ack = false ∧ g.res = 0 ∧ g.cwr = false ∧ g.ece = false ∧ g.urg = false ∧
    g.psh = false ∧ g.rst = false ∧ g.fin = false

def PureAck (g : Segment) : Prop :=
  g.ack = true ∧ g.syn = false ∧ g.res = 0 ∧ g.cwr = false ∧ g.ece = false ∧ g.urg = false ∧
    g.psh = false ∧ g.rst = false ∧ g.fin = false

instance (g : Segment) : Decidable g.PureSyn := inferInstanceAs (Decidable (_ ∧ _))

instance (g : Segment) : Decidable g.PureAck := inferInstanceAs (Decidable (_ ∧ _))

lemma branch_eq_tracked {tracked : Bool} {g : Segment} :
    g.branch tracked = .tracked ↔ tracked = true := by
  unfold branch
  cases tracked <;> cases g.refused <;> cases g.syn <;> cases g.ack && g.acksCookie <;> simp

lemma branch_eq_syn {tracked : Bool} {g : Segment} :
    g.branch tracked = .syn ↔ tracked = false ∧ g.refused = false ∧ g.syn = true := by
  unfold branch
  cases tracked <;> cases g.refused <;> cases g.syn <;> cases g.ack && g.acksCookie <;> simp

lemma branch_eq_ack {tracked : Bool} {g : Segment} :
    g.branch tracked = .ack ↔ tracked = false ∧ g.refused = false ∧ g.syn = false ∧ g.ack = true ∧
      g.acksCookie = true := by
  unfold branch
  cases tracked <;> cases g.refused <;> cases g.syn <;> cases g.ack <;> cases g.acksCookie <;> simp

/-- SYN is set and no other control flag; the reserved bits are arbitrary. -/
def OnlySyn (g : Segment) : Prop :=
  g.syn = true ∧ g.ack = false ∧ g.cwr = false ∧ g.ece = false ∧ g.urg = false ∧ g.psh = false ∧
    g.rst = false ∧ g.fin = false

def OnlyAck (g : Segment) : Prop :=
  g.ack = true ∧ g.syn = false ∧ g.cwr = false ∧ g.ece = false ∧ g.urg = false ∧ g.psh = false ∧
    g.rst = false ∧ g.fin = false

instance (g : Segment) : Decidable g.OnlySyn := inferInstanceAs (Decidable (_ ∧ _))

instance (g : Segment) : Decidable g.OnlyAck := inferInstanceAs (Decidable (_ ∧ _))

lemma pureSyn_iff (g : Segment) : g.PureSyn ↔ g.OnlySyn ∧ g.res = 0 := by
  unfold PureSyn OnlySyn
  tauto

lemma pureAck_iff (g : Segment) : g.PureAck ↔ g.OnlyAck ∧ g.res = 0 := by
  unfold PureAck OnlyAck
  tauto

/-- The decision spelled out by flag: the reserved bits matter only when they are 1. -/
lemma branch_eq_syn_iff (tracked : Bool) (g : Segment) :
    g.branch tracked = .syn ↔ tracked = false ∧ g.OnlySyn ∧ g.res ≠ 1 := by
  rw [branch_eq_syn]
  simp only [refused, OnlySyn, Bool.or_eq_false_iff, Bool.and_eq_false_iff, beq_eq_false_iff_ne]
  constructor
  · rintro ⟨ht, ⟨hsa, hres, hcwr, hece, hurg, hpsh, hrst, hfin⟩, hsyn⟩
    have hack : g.ack = false := hsa.resolve_left (by simp [hsyn])
    exact ⟨ht, ⟨hsyn, hack, hcwr, hece, hurg, hpsh, hrst, hfin⟩, hres⟩
  · rintro ⟨ht, ⟨hsyn, hack, hcwr, hece, hurg, hpsh, hrst, hfin⟩, hres⟩
    exact ⟨ht, ⟨.inr hack, hres, hcwr, hece, hurg, hpsh, hrst, hfin⟩, hsyn⟩

lemma branch_eq_ack_iff (tracked : Bool) (g : Segment) :
    g.branch tracked = .ack ↔
      tracked = false ∧ g.OnlyAck ∧ g.res ≠ 1 ∧ g.ackNo - 1 = g.connection.cookie := by
  rw [branch_eq_ack]
  simp only [refused, acksCookie, OnlyAck, Bool.or_eq_false_iff, Bool.and_eq_false_iff,
    beq_eq_false_iff_ne, beq_iff_eq]
  constructor
  · rintro ⟨ht, ⟨-, hres, hcwr, hece, hurg, hpsh, hrst, hfin⟩, hsyn, hack, hno⟩
    exact ⟨ht, ⟨hack, hsyn, hcwr, hece, hurg, hpsh, hrst, hfin⟩, hres, hno⟩
  · rintro ⟨ht, ⟨hack, hsyn, hcwr, hece, hurg, hpsh, hrst, hfin⟩, hres, hno⟩
    exact ⟨ht, ⟨.inl hsyn, hres, hcwr, hece, hurg, hpsh, hrst, hfin⟩, hsyn, hack, hno⟩

/-- The two answering branches are taken by pure packets only, except that reserved bits above
one pass for none. -/
theorem branch_pure_iff (g : Segment) :
    ((g.branch false = .syn ↔ g.PureSyn) ∧
        (g.branch false = .ack ↔ g.PureAck ∧ g.ackNo = g.connection.cookie + 1)) ↔
      g.res = 0 ∨ g.res = 1 ∨ ¬g.OnlySyn ∧ ¬(g.OnlyAck ∧ g.ackNo = g.connection.cookie + 1) := by
  have h01 : g.res = 0 → g.res ≠ 1 := by
    intro h
    rw [h]
    decide
  simp only [branch_eq_syn_iff, branch_eq_ack_iff, pureSyn_iff, pureAck_iff, true_and,
    BitVec.sub_eq_iff_eq_add]
  constructor
  · rintro ⟨hsyn, hack⟩
    by_cases h0 : g.res = 0
    · exact .inl h0
    by_cases h1 : g.res = 1
    · exact .inr (.inl h1)
    refine .inr (.inr ⟨?_, ?_⟩)
    · intro honly
      exact h0 (hsyn.mp ⟨honly, h1⟩).2
    · rintro ⟨honly, hno⟩
      exact h0 (hack.mp ⟨honly, h1, hno⟩).1.2
  · intro hcond
    refine ⟨⟨?_, ?_⟩, ⟨?_, ?_⟩⟩
    · rintro ⟨honly, h1⟩
      rcases hcond with h0 | h | ⟨hn, -⟩
      · exact ⟨honly, h0⟩
      · exact absurd h h1
      · exact absurd honly hn
    · rintro ⟨honly, h0⟩
      exact ⟨honly, h01 h0⟩
    · rintro ⟨honly, h1, hno⟩
      rcases hcond with h0 | h | ⟨-, hn⟩
      · exact ⟨⟨honly, h0⟩, hno⟩
      · exact absurd h h1
      · exact absurd ⟨honly, hno⟩ hn
    · rintro ⟨⟨honly, h0⟩, hno⟩
      exact ⟨honly, h01 h0, hno⟩

lemma PureSyn.branch_eq {g : Segment} (h : g.PureSyn) : g.branch false = .syn := by
  obtain ⟨hsyn, hack, hres, hcwr, hece, hurg, hpsh, hrst, hfin⟩ := h
  simp [branch, refused, *]

lemma PureAck.branch_eq_ack {g : Segment} (h : g.PureAck) :
    g.branch false = .ack ↔ g.ackNo - 1 = g.connection.cookie := by
  obtain ⟨hack, hsyn, hres, hcwr, hece, hurg, hpsh, hrst, hfin⟩ := h
  simp [Segment.branch_eq_ack, refused, acksCookie, *]

/-- The filter transmits `g'` in answer to `g` when the connection is not in its table. -/
def Answers (g g' : Segment) : Prop :=
  g.branch false = .syn ∧ g' = g.synReply ∨ g.branch false = .ack ∧ g' = g.ackReply

lemma not_answers_synReply {g g' : Segment} (h : g.branch false = .syn) : ¬Answers g.synReply g' := by
  have hsyn : g.syn = true := (branch_eq_syn.mp h).2.2
  have href : g.synReply.refused = true := by simp [refused, synReply, hsyn]
  rintro (⟨hb, -⟩ | ⟨hb, -⟩)
  · rw [(branch_eq_syn.mp hb).2.1] at href
    cases href
  · rw [(branch_eq_ack.mp hb).2.1] at href
    cases href

/-- Whatever is answered twice in a row was an ACK, and so was the first answer. -/
lemma Answers.ack_ack {g g₁ g₂ : Segment} (h₁ : Answers g g₁) (h₂ : Answers g₁ g₂) :
    g.branch false = .ack ∧ g₁ = g.ackReply ∧ g₁.branch false = .ack ∧ g₂ = g₁.ackReply := by
  obtain ⟨hb, rfl⟩ | ⟨hb, rfl⟩ := h₁
  · exact absurd h₂ (not_answers_synReply hb)
  · obtain ⟨hb₂, -⟩ | ⟨hb₂, rfl⟩ := h₂
    · have hsyn : g.ackReply.syn = true := (branch_eq_syn.mp hb₂).2.2
      cases hsyn
    · exact ⟨hb, rfl, hb₂, rfl⟩

/-- No three answers follow one another. The third would go to the end that sent the first,
which sees an acknowledgment number one larger than the one it accepted. -/
theorem Answers.not_answers {g g₁ g₂ g₃ : Segment} (h₁ : Answers g g₁) (h₂ : Answers g₁ g₂) :
    ¬Answers g₂ g₃ := by
  intro h₃
  obtain ⟨hb, rfl, -, rfl⟩ := h₁.ack_ack h₂
  obtain ⟨-, -, hb₂, -⟩ := h₂.ack_ack h₃
  have hcookie : g.ackNo - 1 = g.connection.cookie := by
    simpa [acksCookie] using (branch_eq_ack.mp hb).2.2.2.2
  have hagain : g.ackNo + 1 - 1 = g.connection.cookie := by
    simpa [acksCookie, ackReply] using (branch_eq_ack.mp hb₂).2.2.2.2
  rw [← hcookie, BitVec.add_sub_cancel] at hagain
  bv_omega

end Segment

end SyncookieXdp
