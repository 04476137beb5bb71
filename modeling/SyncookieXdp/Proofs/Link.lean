import SyncookieXdp.Lib.Octets
import SyncookieXdp.Model.Link

/-!
# Programs on an interface

What `xdp_link_attach` and `xdp_link_detach` leave on an interface, for every answer the
kernel can give to each of their requests.
-/

namespace SyncookieXdp.Proofs

/-! ### One request -/

section SetLink

variable (env : LinkEnv)

/-- The slot changed by the request with number `n`, if it succeeds. -/
def granted (n : Nat) (flags : BitVec 32) : Option XdpMode :=
  if env.results n < 0 then none else env.slotOf flags

/-- The error of the request with number `n`, if it fails. -/
def refusal (n : Nat) (flags : BitVec 32) : Int :=
  if (env.slotOf flags).isNone then errInval else env.results n

lemma refusal_neg {n : Nat} {flags : BitVec 32} (h : granted env n flags = none) :
    refusal env n flags < 0 := by
  unfold refusal
  split
  · decide
  · rename_i hslot
    unfold granted at h
    split at h
    · assumption
    · exact absurd (Option.isNone_iff_eq_none.mpr h) hslot

lemma setLink_granted {s : LinkState} {fd : Int} {flags : BitVec 32} {mode : XdpMode}
    (h : granted env s.requests.length flags = some mode) :
    (bpfSetLinkXdpFd env fd flags).run s =
      (0, ⟨Function.update s.iface mode (env.progAt fd), s.requests ++ [.setLink fd flags]⟩) := by
  unfold granted at h
  split at h
  · cases h
  · rename_i hok
    simp [bpfSetLinkXdpFd, request, h, hok]
    rfl

lemma setLink_refused {s : LinkState} {fd : Int} {flags : BitVec 32}
    (h : granted env s.requests.length flags = none) :
    (bpfSetLinkXdpFd env fd flags).run s =
      (refusal env s.requests.length flags, ⟨s.iface, s.requests ++ [.setLink fd flags]⟩) := by
  unfold granted at h
  cases hslot : env.slotOf flags with
  | none =>
    simp [bpfSetLinkXdpFd, request, refusal, hslot]
    rfl
  | some mode =>
    rw [hslot] at h
    have hneg : env.results s.requests.length < 0 := by
      by_contra hpos
      rw [if_neg hpos] at h
      cases h
    simp [bpfSetLinkXdpFd, request, refusal, hslot, hneg]
    rfl

end SetLink

/-! ### Attach -/

/-- The flags under which the force path detaches, and the slot they name. -/
def oppositeFlags (flags : BitVec 32) : BitVec 32 :=
  flags &&& ~~~xdpFlagsModes |||
    if flags &&& xdpFlagsSkbMode ≠ 0 then xdpFlagsDrvMode else xdpFlagsSkbMode

def oppositeMode (flags : BitVec 32) : XdpMode :=
  if flags &&& xdpFlagsSkbMode ≠ 0 then .native else .generic

section Attach

variable (env : LinkEnv)

lemma slotOf_oppositeFlags (flags : BitVec 32) :
    env.slotOf (oppositeFlags flags) = some (oppositeMode flags) := by
  unfold oppositeFlags oppositeMode LinkEnv.slotOf
  split
  · rw [Lib.clear_or_and_self flags (by decide)]
    rfl
  · rw [Lib.clear_or_and_self flags (by decide)]
    rfl

/-- The forced replacement detached the program of the opposite mode and then failed. -/
def HalfReplaced (flags : BitVec 32) : Prop :=
  flags &&& xdpFlagsUpdateIfNoexist = 0 ∧ env.slotOf flags ≠ none ∧ env.results 0 = errExist ∧
    0 ≤ env.results 1 ∧ env.results 2 < 0

instance (flags : BitVec 32) : Decidable (HalfReplaced env flags) := inferInstanceAs (Decidable (_ ∧ _))

variable (iface : Interface) (flags : BitVec 32) (progFd : Int)

def attach : Nat × LinkState := (xdpLinkAttach env flags progFd).run ⟨iface, []⟩

/-- The first answer sends `xdp_link_attach` into the force path. -/
def Forces : Prop := refusal env 0 flags = errExist ∧ flags &&& xdpFlagsUpdateIfNoexist = 0

lemma attach_granted {m : XdpMode} (h₀ : granted env 0 flags = some m) :
    attach env iface flags progFd =
      (exitOk, ⟨Function.update iface m (env.progAt progFd), [.setLink progFd flags]⟩) := by
  unfold attach xdpLinkAttach
  rw [StateT.run_bind, setLink_granted env (s := ⟨iface, []⟩) h₀]
  rfl

lemma attach_refused (h₀ : granted env 0 flags = none) (hf : ¬Forces env flags) :
    attach env iface flags progFd = (exitFailXdp, ⟨iface, [.setLink progFd flags]⟩) := by
  have hneg := refusal_neg env h₀
  unfold Forces at hf
  unfold attach xdpLinkAttach
  rw [StateT.run_bind, setLink_refused env (s := ⟨iface, []⟩) h₀]
  change StateT.run (if refusal env 0 flags = errExist ∧ _ then _ else _) _ = _
  rw [if_neg hf]
  change StateT.run (if refusal env 0 flags < 0 then _ else _) _ = _
  rw [if_pos hneg]
  rfl

section Forced

variable {flags} (h₀ : granted env 0 flags = none) (hf : Forces env flags)
include h₀ hf

lemma attach_forced :
    attach env iface flags progFd =
      StateT.run (do
        let err ← bpfSetLinkXdpFd env (-1) (oppositeFlags flags)
        if err = 0 then
          let err ← bpfSetLinkXdpFd env progFd flags
          if err < 0 then pure exitFailXdp else pure exitOk
        else if err < 0 then pure exitFailXdp else pure exitOk)
      ⟨iface, [.setLink progFd flags]⟩ := by
  unfold Forces at hf
  unfold attach xdpLinkAttach
  rw [StateT.run_bind, setLink_refused env (s := ⟨iface, []⟩) h₀]
  change StateT.run (if refusal env 0 flags = errExist ∧ _ then _ else _) _ = _
  rw [if_pos hf]
  rfl

lemma attach_detach_refused (h₁ : env.results 1 < 0) :
    attach env iface flags progFd =
      (exitFailXdp, ⟨iface, [.setLink progFd flags, .setLink (-1) (oppositeFlags flags)]⟩) := by
  have hnone : granted env 1 (oppositeFlags flags) = none := if_pos h₁
  have hneg := refusal_neg env hnone
  rw [attach_forced env iface progFd h₀ hf, StateT.run_bind,
    setLink_refused env (s := ⟨iface, [.setLink progFd flags]⟩) hnone]
  change StateT.run (if refusal env 1 (oppositeFlags flags) = 0 then _ else _) _ = _
  rw [if_neg (by omega)]
  change StateT.run (if refusal env 1 (oppositeFlags flags) < 0 then _ else _) _ = _
  rw [if_pos hneg]
  rfl

lemma attach_retry (h₁ : 0 ≤ env.results 1) :
    attach env iface flags progFd =
      StateT.run (do
        let err ← bpfSetLinkXdpFd env progFd flags
        if err < 0 then pure exitFailXdp else pure exitOk)
      ⟨Function.update iface (oppositeMode flags) none,
        [.setLink progFd flags, .setLink (-1) (oppositeFlags flags)]⟩ := by
  have hsome : granted env 1 (oppositeFlags flags) = some (oppositeMode flags) := by
    rw [granted, if_neg (by omega), slotOf_oppositeFlags]
  rw [attach_forced env iface progFd h₀ hf, StateT.run_bind,
    setLink_granted env (s := ⟨iface, [.setLink progFd flags]⟩) hsome]
  rfl

lemma attach_retry_granted (h₁ : 0 ≤ env.results 1) {m : XdpMode} (h₂ : granted env 2 flags = some m) :
    attach env iface flags progFd =
      (exitOk, ⟨Function.update (Function.update iface (oppositeMode flags) none) m (env.progAt progFd),
        [.setLink progFd flags, .setLink (-1) (oppositeFlags flags), .setLink progFd flags]⟩) := by
  rw [attach_retry env iface progFd h₀ hf h₁, StateT.run_bind,
    setLink_granted env (s := ⟨_, [.setLink progFd flags, .setLink (-1) (oppositeFlags flags)]⟩) h₂]
  rfl

lemma attach_retry_refused (h₁ : 0 ≤ env.results 1) (h₂ : granted env 2 flags = none) :
    attach env iface flags progFd =
      (exitFailXdp, ⟨Function.update iface (oppositeMode flags) none,
        [.setLink progFd flags, .setLink (-1) (oppositeFlags flags), .setLink progFd flags]⟩) := by
  have hneg := refusal_neg env h₂
  rw [attach_retry env iface progFd h₀ hf h₁, StateT.run_bind,
    setLink_refused env (s := ⟨_, [.setLink progFd flags, .setLink (-1) (oppositeFlags flags)]⟩) h₂]
  change StateT.run (if refusal env 2 flags < 0 then _ else _) _ = _
  rw [if_pos hneg]
  rfl

end Forced

lemma refusal_eq_errExist_iff (n : Nat) :
    refusal env n flags = errExist ↔ env.slotOf flags ≠ none ∧ env.results n = errExist := by
  unfold refusal
  cases env.slotOf flags with
  | none => simp [errInval, errExist]
  | some m => simp

lemma slotOf_of_granted {n : Nat} {m : XdpMode} (h : granted env n flags = some m) :
    env.slotOf flags = some m := by
  unfold granted at h
  split at h
  · cases h
  · exact h

lemma granted_eq_none_iff {n : Nat} (hslot : env.slotOf flags ≠ none) :
    granted env n flags = none ↔ env.results n < 0 := by
  unfold granted
  split <;> simp [*]

/-- An attach that reports success has put the program in place, one that reports failure has
changed nothing, and without permission to replace nothing is ever detached. -/
def AttachAtomic : Prop :=
  let r := attach env iface flags progFd
  (r.1 = exitOk → ∃ m, env.slotOf flags = some m ∧ r.2.iface m = some (env.progOf progFd)) ∧
    (r.1 = exitFailXdp → r.2.iface = iface) ∧
    (flags &&& xdpFlagsUpdateIfNoexist ≠ 0 → ∀ fl, .setLink (-1) fl ∉ r.2.requests)

/-- The same of the result of an attach, except that a forced replacement gives up the program
of the opposite mode before it knows that the new one is accepted. -/
structure AttachOutcome (r : Nat × LinkState) : Prop where
  attached : r.1 = exitOk → ∃ m, env.slotOf flags = some m ∧ r.2.iface m = env.progAt progFd
  restored : r.1 = exitFailXdp → r.2.iface =
    if HalfReplaced env flags then Function.update iface (oppositeMode flags) none else iface
  requests : flags &&& xdpFlagsUpdateIfNoexist ≠ 0 → r.2.requests = [.setLink progFd flags]

/-- Every way through an attach ends with one of two codes. -/
lemma attach_cases : (flags &&& xdpFlagsUpdateIfNoexist ≠ 0 →
      (attach env iface flags progFd).2.requests = [.setLink progFd flags]) ∧
    ((attach env iface flags progFd).1 = exitOk ∧
        (∃ m, env.slotOf flags = some m ∧ (attach env iface flags progFd).2.iface m = env.progAt progFd) ∨
      (attach env iface flags progFd).1 = exitFailXdp ∧ (attach env iface flags progFd).2.iface =
        if HalfReplaced env flags then Function.update iface (oppositeMode flags) none else iface) := by
  cases h₀ : granted env 0 flags with
  | some m =>
    rw [attach_granted env iface flags progFd h₀]
    exact ⟨fun _ => rfl, .inl ⟨rfl, m, slotOf_of_granted env flags h₀, Function.update_self ..⟩⟩
  | none =>
    by_cases hf : Forces env flags
    · obtain ⟨hslot, hexist⟩ := (refusal_eq_errExist_iff env flags 0).mp hf.1
      by_cases h₁ : env.results 1 < 0
      · have hhalf : ¬HalfReplaced env flags := fun h => absurd h.2.2.2.1 (by omega)
        rw [attach_detach_refused env iface progFd h₀ hf h₁]
        exact ⟨fun h => absurd hf.2 h, .inr ⟨rfl, (if_neg hhalf).symm⟩⟩
      · cases h₂ : granted env 2 flags with
        | some m =>
          rw [attach_retry_granted env iface progFd h₀ hf (by omega) h₂]
          exact ⟨fun h => absurd hf.2 h, .inl ⟨rfl, m, slotOf_of_granted env flags h₂, Function.update_self ..⟩⟩
        | none =>
          have hhalf : HalfReplaced env flags :=
            ⟨hf.2, hslot, hexist, by omega, (granted_eq_none_iff env flags hslot).mp h₂⟩
          rw [attach_retry_refused env iface progFd h₀ hf (by omega) h₂]
          exact ⟨fun h => absurd hf.2 h, .inr ⟨rfl, (if_pos hhalf).symm⟩⟩
    · have hhalf : ¬HalfReplaced env flags := by
        rintro ⟨hno, hslot, hexist, -⟩
        exact hf ⟨(refusal_eq_errExist_iff env flags 0).mpr ⟨hslot, hexist⟩, hno⟩
      rw [attach_refused env iface flags progFd h₀ hf]
      exact ⟨fun _ => rfl, .inr ⟨rfl, (if_neg hhalf).symm⟩⟩

theorem attach_outcome :
    AttachOutcome env iface flags progFd (attach env iface flags progFd) := by
  have hcodes : exitOk ≠ exitFailXdp := by decide
  obtain ⟨hrequests, ⟨hcode, hslot⟩ | ⟨hcode, hiface⟩⟩ := attach_cases env iface flags progFd
  · exact ⟨fun _ => hslot, fun h => absurd (hcode.symm.trans h) hcodes, hrequests⟩
  · exact ⟨fun h => absurd (h.symm.trans hcode) hcodes, fun _ => hiface, hrequests⟩

end Attach

/-- A host whose driver supports native mode, with program 7 behind every descriptor. -/
def sampleEnv (results : Nat → Int) : LinkEnv := ⟨fun _ => ⟨7, by decide⟩, true, results⟩

/-- An interface with one program. -/
def attachedAs (mode : XdpMode) (prog : XdpProg) : Interface := Function.update (fun _ => none) mode (some prog)

/-- The generic program is detached to make room, then the driver refuses the new program, and
the interface is left without any. -/
theorem forced_replacement_loses_program :
    ¬AttachAtomic (sampleEnv (fun n => if n = 0 then errExist else if n = 1 then 0 else errInval))
      (attachedAs .generic ⟨3, by decide⟩) xdpFlagsDrvMode 5 := by
  rintro ⟨-, hfail, -⟩
  have hgeneric := congrFun (hfail rfl) .generic
  cases hgeneric

/-! ### Detach -/

/-- An interface with at most one program. -/
def ifaceWith : Option (XdpMode × XdpProg) → Interface
  | none => fun _ => none
  | some (mode, prog) => attachedAs mode prog

/-- A detach never ends with the code of a failed load. -/
lemma xdpLinkDetach_code (env : LinkEnv) (flags expected : BitVec 32) (s : LinkState) :
    ((xdpLinkDetach env flags expected).run s).1 ≠ exitFailBpf := by
  have hok : exitOk ≠ exitFailBpf := by decide
  have hfail : exitFail ≠ exitFailBpf := by decide
  have hxdp : exitFailXdp ≠ exitFailBpf := by decide
  unfold xdpLinkDetach
  rw [StateT.run_bind]
  rcases (bpfGetLinkXdpId env flags).run s with ⟨_ | id, s'⟩
  · exact hxdp
  · change (StateT.run (if id = 0 then _ else _ : LinkM Nat) s').1 ≠ _
    by_cases hid : id = 0
    · rw [if_pos hid]
      exact hok
    rw [if_neg hid]
    by_cases hexpected : expected ≠ 0 ∧ id ≠ expected
    · rw [if_pos hexpected]
      exact hfail
    rw [if_neg hexpected, StateT.run_bind]
    rcases (bpfSetLinkXdpFd env (-1) flags).run s' with ⟨err, s''⟩
    change (StateT.run (if err < 0 then _ else _ : LinkM Nat) s'').1 ≠ _
    by_cases herr : err < 0
    · rw [if_pos herr]
      exact hxdp
    · rw [if_neg herr]
      exact hok

/-- With one mode in use the query finds the program whatever mode the flags name. -/
lemma getXdpId_ifaceWith (a : Option (XdpMode × XdpProg)) (flags : BitVec 32) :
    getXdpId (ifaceWith a) flags = (a.map (fun a => a.2.id)).getD 0 := by
  match a with
  | none => rfl
  | some (.native, prog) => rfl
  | some (.generic, prog) => rfl
  | some (.hardware, prog) => rfl

/-- The mode bits lie in the lowest four. -/
lemma and_modes_eq (flags : BitVec 32) :
    flags &&& xdpFlagsModes = (flags.setWidth 4 &&& 14#4).setWidth 32 := by
  have hbits : ∀ i < 32, xdpFlagsModes.getLsbD i = (decide (i < 4) && (14#4).getLsbD i) := by decide
  apply BitVec.eq_of_getLsbD_eq
  intro i hi
  rw [BitVec.getLsbD_and, BitVec.getLsbD_setWidth, BitVec.getLsbD_and, BitVec.getLsbD_setWidth, hbits i hi]
  by_cases h : i < 4
  · simp [hi, h]
  · simp [h]

/-- The test for more than one mode bit in the query refuses the flags that name no slot. -/
lemma slotOf_eq_none_iff (env : LinkEnv) (flags : BitVec 32) :
    env.slotOf flags = none ↔
      flags &&& xdpFlagsModes ≠ 0 ∧
        flags &&& xdpFlagsModes &&& ((flags &&& xdpFlagsModes) - 1) ≠ 0 := by
  rw [LinkEnv.slotOf, and_modes_eq]
  generalize flags.setWidth 4 = x
  cases env.driverXdp <;> revert x <;> decide

section Detach

variable (env : LinkEnv) (flags : BitVec 32)

/-- Flags the query accepts. -/
def FlagsValid : Prop := flags &&& ~~~xdpFlagsMask = 0 ∧ env.slotOf flags ≠ none

instance : Decidable (FlagsValid env flags) := inferInstanceAs (Decidable (_ ∧ _))

lemma getLink_invalid (i : Interface) (h : ¬FlagsValid env flags) :
    (bpfGetLinkXdpId env flags).run ⟨i, []⟩ = (.error errInval, ⟨i, []⟩) := by
  unfold bpfGetLinkXdpId
  by_cases hmask : flags &&& ~~~xdpFlagsMask = 0
  · have hslot : env.slotOf flags = none := by
      by_contra hslot
      exact h ⟨hmask, hslot⟩
    rw [if_neg (not_not.mpr hmask)]
    have hmodes := (slotOf_eq_none_iff env flags).mp hslot
    exact congrFun (if_pos hmodes) _
  · rw [if_pos hmask]
    rfl

lemma getLink_valid (i : Interface) (h : FlagsValid env flags) :
    (bpfGetLinkXdpId env flags).run ⟨i, []⟩ =
      (if env.results 0 < 0 then .error (env.results 0)
        else .ok (getXdpId i (flags &&& xdpFlagsModes)), ⟨i, [.getLink]⟩) := by
  have hmodes : ¬(flags &&& xdpFlagsModes ≠ 0 ∧
      flags &&& xdpFlagsModes &&& ((flags &&& xdpFlagsModes) - 1) ≠ 0) := by
    rw [← slotOf_eq_none_iff env flags]
    exact h.2
  unfold bpfGetLinkXdpId
  rw [if_neg (not_not.mpr h.1)]
  change StateT.run (if flags &&& xdpFlagsModes ≠ 0 ∧
    flags &&& xdpFlagsModes &&& ((flags &&& xdpFlagsModes) - 1) ≠ 0 then _ else _) _ = _
  rw [if_neg hmodes]
  by_cases hneg : env.results 0 < 0
  · simp [request, hneg]
    rfl
  · simp [request, hneg]
    rfl

variable (a : Option (XdpMode × XdpProg)) (expected : BitVec 32)

def detach : Nat × LinkState := (xdpLinkDetach env flags expected).run ⟨ifaceWith a, []⟩

lemma detach_of_query_failed (h : ¬FlagsValid env flags ∨ env.results 0 < 0) :
    ∃ rs, detach env flags a expected = (exitFailXdp, ⟨ifaceWith a, rs⟩) := by
  unfold detach xdpLinkDetach
  rw [StateT.run_bind]
  by_cases hvalid : FlagsValid env flags
  · rw [getLink_valid env flags _ hvalid, if_pos (h.resolve_left (not_not.mpr hvalid))]
    exact ⟨[.getLink], rfl⟩
  · rw [getLink_invalid env flags _ hvalid]
    exact ⟨[], rfl⟩

section Answered

variable {flags} (hvalid : FlagsValid env flags) (h₀ : ¬env.results 0 < 0)
include hvalid h₀

lemma detach_none : detach env flags none expected = (exitOk, ⟨ifaceWith none, [.getLink]⟩) := by
  unfold detach xdpLinkDetach
  rw [StateT.run_bind, getLink_valid env flags _ hvalid, if_neg h₀, getXdpId_ifaceWith]
  rfl

variable (mode : XdpMode) {prog : XdpProg}

lemma detach_unexpected (hid : expected ≠ 0 ∧ prog.id ≠ expected) :
    detach env flags (some (mode, prog)) expected =
      (exitFail, ⟨attachedAs mode prog, [.getLink]⟩) := by
  unfold detach xdpLinkDetach
  rw [StateT.run_bind, getLink_valid env flags _ hvalid, if_neg h₀, getXdpId_ifaceWith]
  change StateT.run (if prog.id = 0 then _ else if expected ≠ 0 ∧ prog.id ≠ expected then _ else _) _ = _
  rw [if_neg prog.id_ne_zero, if_pos hid]
  rfl

/-- A program that may be removed is removed under the flags of the call. -/
lemma detach_expected (hid : ¬(expected ≠ 0 ∧ prog.id ≠ expected)) :
    detach env flags (some (mode, prog)) expected =
      StateT.run (do
        let err ← bpfSetLinkXdpFd env (-1) flags
        if err < 0 then pure exitFailXdp else pure exitOk)
      ⟨attachedAs mode prog, [.getLink]⟩ := by
  unfold detach xdpLinkDetach
  rw [StateT.run_bind, getLink_valid env flags _ hvalid, if_neg h₀, getXdpId_ifaceWith]
  change StateT.run (if prog.id = 0 then _ else if expected ≠ 0 ∧ prog.id ≠ expected then _ else _) _ = _
  rw [if_neg prog.id_ne_zero, if_neg hid]
  rfl

lemma detach_refused (hid : ¬(expected ≠ 0 ∧ prog.id ≠ expected)) (h₁ : env.results 1 < 0) :
    detach env flags (some (mode, prog)) expected =
      (exitFailXdp, ⟨attachedAs mode prog, [.getLink, .setLink (-1) flags]⟩) := by
  have hnone : granted env 1 flags = none := if_pos h₁
  have hneg := refusal_neg env hnone
  rw [detach_expected env expected hvalid h₀ mode hid, StateT.run_bind,
    setLink_refused env (s := ⟨attachedAs mode prog, [.getLink]⟩) hnone]
  change StateT.run (if refusal env 1 flags < 0 then _ else _) _ = _
  rw [if_pos hneg]
  rfl

lemma detach_removed (hid : ¬(expected ≠ 0 ∧ prog.id ≠ expected)) (h₁ : ¬env.results 1 < 0)
    {slot : XdpMode} (hslot : env.slotOf flags = some slot) :
    detach env flags (some (mode, prog)) expected =
      (exitOk, ⟨Function.update (attachedAs mode prog) slot none, [.getLink, .setLink (-1) flags]⟩) := by
  have hsome : granted env 1 flags = some slot := by rw [granted, if_neg h₁, hslot]
  rw [detach_expected env expected hvalid h₀ mode hid, StateT.run_bind,
    setLink_granted env (s := ⟨attachedAs mode prog, [.getLink]⟩) hsome]
  rfl

end Answered

/-- A detach that reports success leaves no program, any other leaves the interface alone, and
a program other than the expected one stays. -/
def Unloads : Prop :=
  let r := detach env flags a expected
  (r.1 = exitOk → r.2.iface = fun _ => none) ∧
    (r.1 ≠ exitOk → r.2.iface = ifaceWith a) ∧
    (expected ≠ 0 → ∀ mode prog, a = some (mode, prog) → prog.id ≠ expected → r.2.iface mode = some prog)

/-- The request of the detach goes to another slot than the one the program is in. -/
def MissesSlot : Prop :=
  ∃ mode prog slot, a = some (mode, prog) ∧ (expected = 0 ∨ prog.id = expected) ∧
    flags &&& ~~~xdpFlagsMask = 0 ∧ env.slotOf flags = some slot ∧ slot ≠ mode ∧
    0 ≤ env.results 0 ∧ 0 ≤ env.results 1

lemma unloads_of_unchanged {code : Nat} {rs : List LinkRequest} (hcode : code ≠ exitOk)
    (h : detach env flags a expected = (code, ⟨ifaceWith a, rs⟩)) : Unloads env flags a expected := by
  rw [Unloads, h]
  refine ⟨fun hok => absurd hok hcode, fun _ => rfl, ?_⟩
  rintro - mode prog rfl -
  exact Function.update_self (f := fun _ => none) mode (some prog)

/-- Removing a slot empties an interface with one program exactly when it is the slot of the
program. -/
lemma update_attachedAs_eq_none_iff (mode slot : XdpMode) (prog : XdpProg) :
    (Function.update (attachedAs mode prog) slot none = fun _ => none) ↔ slot = mode := by
  constructor
  · intro h
    by_contra hne
    have hmode := congrFun h mode
    rw [Function.update_of_ne (Ne.symm hne), attachedAs, Function.update_self] at hmode
    cases hmode
  · rintro rfl
    rw [attachedAs, Function.update_idem]
    exact Function.update_eq_self slot _

section Removed

variable {mode slot : XdpMode} {prog : XdpProg} (hvalid : FlagsValid env flags)
  (h₀ : ¬env.results 0 < 0) (hid : ¬(expected ≠ 0 ∧ prog.id ≠ expected)) (h₁ : ¬env.results 1 < 0)
  (hslot : env.slotOf flags = some slot)
include hvalid h₀ hid h₁ hslot

/-- When both requests succeed the program that may be removed is missed if it is in another
slot. -/
lemma missesSlot_iff :
    MissesSlot env flags (some (mode, prog)) expected ↔ slot ≠ mode := by
  constructor
  · rintro ⟨mode', prog', slot', hsome, -, -, hslot', hne, -⟩
    cases hsome
    rw [hslot] at hslot'
    cases hslot'
    exact hne
  · intro hne
    have hexp : expected = 0 ∨ prog.id = expected := by
      by_contra hneither
      exact hid (not_or.mp hneither)
    exact ⟨mode, prog, slot, rfl, hexp, hvalid.1, hslot, hne, by omega, by omega⟩

/-- In that case a detach unloads if the slot of its flags is the program's. -/
lemma unloads_removed_iff :
    Unloads env flags (some (mode, prog)) expected ↔ slot = mode := by
  rw [Unloads, detach_removed env expected hvalid h₀ mode hid h₁ hslot,
    ← update_attachedAs_eq_none_iff mode slot prog]
  constructor
  · intro h
    exact h.1 rfl
  · intro h
    refine ⟨fun _ => h, fun hne => absurd rfl hne, ?_⟩
    intro hzero _ _ hsome hother
    cases hsome
    exact absurd ⟨hzero, hother⟩ hid

end Removed

/-- A detach keeps its word exactly when it does not look for the program in the wrong slot:
the query finds a program in any mode, the removal only in the mode that the flags name. -/
theorem unloads_iff : Unloads env flags a expected ↔ ¬MissesSlot env flags a expected := by
  by_cases hfail : ¬FlagsValid env flags ∨ env.results 0 < 0
  · obtain ⟨rs, hdetach⟩ := detach_of_query_failed env flags a expected hfail
    refine iff_of_true (unloads_of_unchanged env flags a expected (by decide) hdetach) ?_
    rintro ⟨_, _, slot, -, -, hmask, hslot, -, h₀, -⟩
    exact hfail.elim (fun h => h ⟨hmask, by rw [hslot]; simp⟩) (by omega)
  · obtain ⟨hvalid, h₀⟩ := not_or.mp hfail
    rw [not_not] at hvalid
    match a with
    | none =>
      refine iff_of_true ?_ ?_
      · rw [Unloads, detach_none env expected hvalid h₀]
        exact ⟨fun _ => rfl, fun h => absurd rfl h, by simp⟩
      · rintro ⟨_, _, _, hnone, -⟩
        cases hnone
    | some (mode, prog) =>
      by_cases hid : expected ≠ 0 ∧ prog.id ≠ expected
      · have hdetach := detach_unexpected env expected hvalid h₀ mode hid
        refine iff_of_true (unloads_of_unchanged env flags _ expected (by decide) hdetach) ?_
        rintro ⟨_, _, _, hsome, hexp, -⟩
        cases hsome
        exact hexp.elim hid.1 hid.2
      · by_cases h₁ : env.results 1 < 0
        · have hdetach := detach_refused env expected hvalid h₀ mode hid h₁
          refine iff_of_true (unloads_of_unchanged env flags _ expected (by decide) hdetach) ?_
          rintro ⟨_, _, _, -, -, -, -, -, -, hok⟩
          omega
        · obtain ⟨slot, hslot⟩ := Option.ne_none_iff_exists'.mp hvalid.2
          rw [missesSlot_iff env flags expected hvalid h₀ hid h₁ hslot, not_not]
          exact unloads_removed_iff env flags expected hvalid h₀ hid h₁ hslot

end Detach

/-- A program loaded in generic mode is still there after an unload with the default flags. -/
theorem generic_program_stays :
    ¬Unloads (sampleEnv (fun _ => 0)) (xdpFlagsUpdateIfNoexist ||| xdpFlagsDrvMode)
      (some (.generic, ⟨3, by decide⟩)) 0 := by
  intro h
  have hnone := congrFun (h.1 rfl) .generic
  cases hnone

end SyncookieXdp.Proofs
