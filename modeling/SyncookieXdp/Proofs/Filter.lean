import SyncookieXdp.Lib.Outcome
import SyncookieXdp.Model.Syncookie
import SyncookieXdp.Proofs.Rewrite

/-!
# What the program does with a frame

The controller on parsed headers takes exactly the branch of the abstract decision, and
the entry point does one of three things, decided by the length of the frame and three of
its octets. Everything later is derived from these equations.
-/

namespace SyncookieXdp.Proofs
open Lib

/-! ### The controller -/

/-- The branch the controller takes for a frame against a table. -/
def branchAt {T : Type} (M : BpfMap T) (t : T) (f : List Byte) : Branch :=
  (segmentAt f).branch (M.lookup t (connectionAt f).bytes).isSome

def actionOf : Branch → XdpAction
  | .tracked => .pass
  | .refused => .drop
  | .syn => .tx
  | .ack => .tx

def frameAfter (f : List Byte) : Branch → List Byte
  | .syn => synRewrite f (connectionAt f).cookie
  | .ack => ackRewrite f
  | _ => f

/-- The table a branch leaves. Only an accepted ACK touches it, at the key found on the
stack. -/
def tableAfter {T : Type} (M : BpfMap T) (stack : StackImage) (t : T) : Branch → T
  | .ack => (M.update t stack.keyAtParameter insert).1
  | _ => t

def callsOf (stack : StackImage) : Branch → List Call
  | .syn => [.handleSyn]
  | .ack => [.handleAck, .mapUpdate stack.keyAtParameter]
  | _ => []

section Controller

variable {T : Type} (M : BpfMap T) (stack : StackImage) {f : List Byte} {t : T} {m : StatsMap}
  {c : List Call}

lemma isOne_flag_run (h : headersLen ≤ f.length) (x : BitMember 1) (hx : x.octet = 13) :
    (isOne parsedHeaders x).run (⟨f, t, m, c⟩ : XdpState T) =
      .ok ((byteAt f 47).getLsbD x.lsb) ⟨f, t, m, c⟩ := by
  rw [isOne_run h x (by simp [hx]), hx]
  congr 1
  rw [Bool.eq_iff_iff, beq_iff_eq, bitsAt_one_eq]

lemma refused_run (h : headersLen ≤ f.length) :
    ((isOne parsedHeaders TcpT.syn <&&> isOne parsedHeaders TcpT.ack) <||>
      isOne parsedHeaders TcpT.res <||> isOne parsedHeaders TcpT.cwr <||>
      isOne parsedHeaders TcpT.ece <||> isOne parsedHeaders TcpT.urg <||>
      isOne parsedHeaders TcpT.psh <||> isOne parsedHeaders TcpT.rst <||>
      isOne parsedHeaders TcpT.fin).run (⟨f, t, m, c⟩ : XdpState T) =
      .ok (segmentAt f).refused ⟨f, t, m, c⟩ :=
  run_orM (run_andM (isOne_flag_run h _ rfl) (isOne_flag_run h _ rfl))
    (run_orM (isOne_run h _ (by simp)) (run_orM (isOne_flag_run h _ rfl)
      (run_orM (isOne_flag_run h _ rfl) (run_orM (isOne_flag_run h _ rfl)
        (run_orM (isOne_flag_run h _ rfl) (run_orM (isOne_flag_run h _ rfl)
          (isOne_flag_run h _ rfl)))))))

/-- The controller takes the branch of the abstract decision, with that branch's effects. -/
theorem controller_run (h : headersLen ≤ f.length) :
    (controller M stack parsedHeaders).run ⟨f, t, m, c⟩ =
      .ok (actionOf (branchAt M t f))
        ⟨frameAfter f (branchAt M t f), tableAfter M stack t (branchAt M t f), m,
          c ++ [.controller parsedHeaders] ++ [.mapLookup (connectionAt f).bytes] ++
            callsOf stack (branchAt M t f)⟩ := by
  have hack : (isOne parsedHeaders TcpT.ack <&&> acksCookie parsedHeaders (connectionAt f).cookie).run
      (⟨f, t, m, c ++ [.controller parsedHeaders] ++ [.mapLookup (connectionAt f).bytes]⟩ : XdpState T) =
      .ok ((segmentAt f).ack && (segmentAt f).acksCookie) _ :=
    run_andM (isOne_flag_run h _ rfl) (acksCookie_run h _)
  have hsyn : (isOne parsedHeaders TcpT.syn).run
      (⟨f, t, m, c ++ [.controller parsedHeaders] ++ [.mapLookup (connectionAt f).bytes]⟩ : XdpState T) =
      .ok (segmentAt f).syn _ := isOne_flag_run h _ rfl
  simp only [controller, EStateM.run_bind, logCall_run, computeConnection_run h, bpfMapLookupElem_run]
  unfold branchAt Segment.branch
  cases (M.lookup t (connectionAt f).bytes).isSome with
  | true => simp [actionOf, frameAfter, tableAfter, callsOf]
  | false =>
    simp only [EStateM.run_bind, computeCookie_run h, refused_run h, Bool.false_eq_true, ite_false]
    cases (segmentAt f).refused with
    | true => simp [actionOf, frameAfter, tableAfter, callsOf]
    | false =>
      simp only [EStateM.run_bind, hsyn, Bool.false_eq_true, ite_false]
      cases (segmentAt f).syn with
      | true => simp [handleSyn_run h, actionOf, frameAfter, tableAfter, callsOf]
      | false =>
        simp only [EStateM.run_bind, hack, Bool.false_eq_true, ite_false]
        cases (segmentAt f).ack && (segmentAt f).acksCookie with
        | true => simp [handleAck_run h, actionOf, frameAfter, tableAfter, callsOf]
        | false => simp [actionOf, frameAfter, tableAfter, callsOf]

theorem controller_null_run (h : 34 ≤ f.length) :
    (controller M stack ⟨some 0, some 14, none⟩).run ⟨f, t, m, c⟩ =
      .error .null ⟨f, t, m, c ++ [.controller ⟨some 0, some 14, none⟩]⟩ := by
  have hnull : (load16 none TcpT.srcPort).run
      (⟨f, t, m, c ++ [.controller ⟨some 0, some 14, none⟩]⟩ : XdpState T) = .error .null _ := rfl
  simp (disch := simp <;> omega) only [controller, computeConnection, EStateM.run_bind, logCall_run,
    load32_run, hnull]

end Controller

/-! ### The entry point -/

/-- The frames the entry point hands to the controller: both outer headers fit, and the
octets at the EtherType and protocol positions are the ones the program compares with. -/
def Dispatched (f : List Byte) : Prop :=
  34 ≤ f.length ∧ byteAt f 12 = 0x00 ∧ byteAt f 13 = 0x08 ∧ byteAt f 23 = 0x06

instance (f : List Byte) : Decidable (Dispatched f) := inferInstanceAs (Decidable (_ ∧ _))

section Entry

variable {T : Type} (M : BpfMap T) (stack : StackImage) {f : List Byte} {t : T} {m : StatsMap}
  {c : List Call}

lemma parseHdr_short {size : Nat} {next : HdrPtr → XdpM T Int} {nh : HdrCursor} {dataEnd : Nat}
    {out : Option HdrPtr} {s : XdpState T} (h : dataEnd < nh.pos + size) :
    (parseHdr size next nh dataEnd out).run s = .ok (-1, nh, out) s := by
  rw [parseHdr, if_pos (show nh.pos + size > dataEnd from h)]
  rfl

lemma parseHdr_fits {size : Nat} {next : HdrPtr → XdpM T Int} {nh : HdrCursor} {dataEnd : Nat}
    {out : HdrPtr} {s : XdpState T} {r : Int} (h : nh.pos + size ≤ dataEnd)
    (hr : (next (some nh.pos)).run s = .ok r s) :
    (parseHdr size next nh dataEnd (some out)).run s =
      .ok (r, ⟨nh.pos + size⟩, some (some nh.pos)) s := by
  rw [parseHdr, if_neg (show ¬nh.pos + size > dataEnd by omega)]
  simp only [EStateM.run_bind, hr, EStateM.run_pure, Option.map_some]

/-- The little-endian load of the EtherType equals `ETH_P_IP` exactly when the two octets
are `00 08` in wire order. -/
lemma etherType_eq_ethPIp (b₀ b₁ : Byte) :
    ((le16 b₀ b₁).toNat : Int) = ethPIp ↔ b₀ = 0x00 ∧ b₁ = 0x08 := by
  have hc : (le16 0x00 0x08).toNat = 0x0800 := by decide
  rw [← le16_inj, ← BitVec.toNat_inj, hc]
  simp only [ethPIp]
  omega

lemma protocol_eq_ipprotoTcp (b : Byte) : (b.toNat : Int) = ipprotoTcp ↔ b = 0x06 := by
  rw [← BitVec.toNat_inj]
  simp only [ipprotoTcp, BitVec.reduceToNat]
  omega

lemma parseEther_run (h : 14 ≤ f.length) :
    (parseEther ⟨0⟩ f.length (some none)).run (⟨f, t, m, c⟩ : XdpState T) =
      .ok ((u16At f 12).toNat, ⟨14⟩, some (some 0)) ⟨f, t, m, c⟩ := by
  apply parseHdr_fits (by simpa using h)
  simp (disch := simp <;> omega) only [EStateM.run_bind, load16_run, EStateM.run_pure]
  rfl

lemma parseIpv4_run (h : 34 ≤ f.length) :
    (parseIpv4 ⟨14⟩ f.length (some none)).run (⟨f, t, m, c⟩ : XdpState T) =
      .ok ((byteAt f 23).toNat, ⟨34⟩, some (some 14)) ⟨f, t, m, c⟩ := by
  apply parseHdr_fits (by simpa using h)
  simp (disch := simp <;> omega) only [EStateM.run_bind, readByte_run, EStateM.run_pure]
  rfl

def tcpPtr (f : List Byte) : HdrPtr := if headersLen ≤ f.length then some 34 else none

lemma parseTcphdr_run :
    ∃ r nh, (parseTcphdr ⟨34⟩ f.length (some none)).run (⟨f, t, m, c⟩ : XdpState T) =
      .ok (r, nh, some (tcpPtr f)) ⟨f, t, m, c⟩ := by
  by_cases h : headersLen ≤ f.length
  · refine ⟨0, ⟨54⟩, ?_⟩
    rw [tcpPtr, if_pos h]
    exact parseHdr_fits (by simpa [headersLen] using h) rfl
  · refine ⟨-1, ⟨34⟩, ?_⟩
    rw [tcpPtr, if_neg h]
    exact parseHdr_short (by simpa [headersLen] using h)

/-- The controller is called for the dispatched frames and no others, whether or not the
TCP header fits. -/
theorem syncookieFn_run :
    (syncookieFn M stack).run ⟨f, t, m, c⟩ =
      if Dispatched f then (controller M stack ⟨some 0, some 14, tcpPtr f⟩).run ⟨f, t, m, c⟩
      else .ok .pass ⟨f, t, m, c⟩ := by
  rw [syncookieFn]
  simp only [EStateM.run_bind, EStateM.run_get]
  by_cases h₁ : 14 ≤ f.length
  · simp only [parseEther_run h₁, u16At, etherType_eq_ethPIp]
    by_cases h₂ : byteAt f 12 = 0x00 ∧ byteAt f 13 = 0x08
    · rw [if_pos h₂]
      by_cases h₃ : 34 ≤ f.length
      · simp only [EStateM.run_bind, parseIpv4_run h₃, protocol_eq_ipprotoTcp]
        by_cases h₄ : byteAt f 23 = 0x06
        · have hd : Dispatched f := ⟨h₃, h₂.1, h₂.2, h₄⟩
          obtain ⟨r, nh, hr⟩ := parseTcphdr_run (T := T) (f := f) (t := t) (m := m) (c := c)
          rw [if_pos h₄, if_pos hd]
          simp only [EStateM.run_bind, hr, Option.join_some]
        · have hd : ¬Dispatched f := fun hd => h₄ hd.2.2.2
          rw [if_neg h₄, if_neg hd]
          rfl
      · have hd : ¬Dispatched f := fun hd => h₃ hd.1
        rw [if_neg hd, parseIpv4, EStateM.run_bind, parseHdr_short (by simp; omega)]
        rfl
    · have hd : ¬Dispatched f := fun hd => h₂ ⟨hd.2.1, hd.2.2.1⟩
      rw [if_neg h₂, if_neg hd]
      rfl
  · have hd : ¬Dispatched f := fun hd => h₁ (by have := hd.1; omega)
    rw [if_neg hd, parseEther, parseHdr_short (by simp; omega)]
    rfl

end Entry

/-! ### Invocations -/

section Invoke

variable {T : Type} (M : BpfMap T) (stack : StackImage) (maps : Maps T) {f : List Byte}

theorem invoke_controller (h : headersLen ≤ f.length) :
    invoke (controller M stack parsedHeaders) maps f =
      let b := branchAt M maps.connectionsTable f
      (⟨tableAfter M stack maps.connectionsTable b, maps.xdpStatsMap⟩,
        ⟨.ok (actionOf b), frameAfter f b,
          [.controller parsedHeaders, .mapLookup (connectionAt f).bytes] ++ callsOf stack b⟩) := by
  rw [invoke, controller_run M stack h]
  rfl

theorem invoke_ignored (h : ¬Dispatched f) :
    invoke (syncookieFn M stack) maps f = (maps, ⟨.ok .pass, f, []⟩) := by
  rw [invoke, syncookieFn_run, if_neg h]

theorem invoke_complete (h : Dispatched f) (hl : headersLen ≤ f.length) :
    invoke (syncookieFn M stack) maps f = invoke (controller M stack parsedHeaders) maps f := by
  rw [invoke, syncookieFn_run, if_pos h, tcpPtr, if_pos hl]
  rfl

theorem invoke_truncated (h : Dispatched f) (hl : f.length < headersLen) :
    invoke (syncookieFn M stack) maps f =
      (maps, ⟨.error .null, f, [.controller ⟨some 0, some 14, none⟩]⟩) := by
  rw [invoke, syncookieFn_run, if_pos h, tcpPtr, if_neg (by omega), controller_null_run M stack h.1]
  rfl

end Invoke

/-- A frame that holds the three headers completely, with the stack the program runs on. -/
structure Packet where
  stack : StackImage
  frame : List Byte
  complete : headersLen ≤ frame.length

def control {T : Type} (M : BpfMap T) (maps : Maps T) (p : Packet) : Maps T × Outcome :=
  invoke (controller M p.stack parsedHeaders) maps p.frame

section Control

variable {T : Type} (M : BpfMap T) (maps : Maps T) (p : Packet)

def branchOf : Branch := branchAt M maps.connectionsTable p.frame

@[simp] lemma control_verdict : (control M maps p).2.verdict = .ok (actionOf (branchOf M maps p)) := by
  rw [control, invoke_controller M p.stack maps p.complete]
  rfl

@[simp] lemma control_frame : (control M maps p).2.frame = frameAfter p.frame (branchOf M maps p) := by
  rw [control, invoke_controller M p.stack maps p.complete]
  rfl

@[simp] lemma control_calls :
    (control M maps p).2.calls =
      [.controller parsedHeaders, .mapLookup (connectionAt p.frame).bytes] ++
        callsOf p.stack (branchOf M maps p) := by
  rw [control, invoke_controller M p.stack maps p.complete]
  rfl

@[simp] lemma control_table :
    (control M maps p).1.connectionsTable =
      tableAfter M p.stack maps.connectionsTable (branchOf M maps p) := by
  rw [control, invoke_controller M p.stack maps p.complete]
  rfl

lemma handleSyn_mem_control :
    Call.handleSyn ∈ (control M maps p).2.calls ↔ branchOf M maps p = .syn := by
  rw [control_calls]
  cases branchOf M maps p <;> simp [callsOf]

lemma handleAck_mem_control :
    Call.handleAck ∈ (control M maps p).2.calls ↔ branchOf M maps p = .ack := by
  rw [control_calls]
  cases branchOf M maps p <;> simp [callsOf]

lemma verdict_pass_iff : (control M maps p).2.verdict = .ok .pass ↔ branchOf M maps p = .tracked := by
  rw [control_verdict]
  cases branchOf M maps p <;> simp [actionOf]

lemma branchOf_of_miss (h : M.lookup maps.connectionsTable (connectionAt p.frame).bytes = none) :
    branchOf M maps p = (segmentAt p.frame).branch false := by
  rw [branchOf, branchAt, h]
  rfl

end Control

end SyncookieXdp.Proofs
