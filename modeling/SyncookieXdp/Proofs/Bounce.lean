import SyncookieXdp.Proofs.Handshake

/-!
# Two hosts that both filter

A transmitted frame is delivered to the peer, whose filter may transmit an answer in turn.
Each delivery that transmits is one abstract answer, and no three answers follow one
another, whatever the tables hold at each delivery.
-/

namespace SyncookieXdp.Proofs
open Lib

variable {T : Type} (M : BpfMap T)

structure Hop (T : Type) where
  maps : Maps T
  stack : StackImage

def deliver (hop : Hop T) (f : List Byte) : Outcome :=
  (invoke (syncookieFn M hop.stack) hop.maps f).2

/-- The verdicts of successive deliveries. The rewritten frame goes to the next hop as long
as the verdict is `XDP_TX`. -/
def bounce : List (Hop T) → List Byte → List (Except Fault XdpAction)
  | [], _ => []
  | hop :: hops, f =>
    let o := deliver M hop f
    match o.verdict with
    | .ok .tx => .ok .tx :: bounce hops o.frame
    | v => [v]

/-- A delivery of a complete frame settles it or transmits an answer, complete again. -/
lemma deliver_cases (hop : Hop T) {f : List Byte} (h : headersLen ≤ f.length) :
    (∃ a, (a = .pass ∨ a = .drop) ∧ (deliver M hop f).verdict = .ok a) ∨
      (deliver M hop f).verdict = .ok .tx ∧ headersLen ≤ (deliver M hop f).frame.length ∧
        (segmentAt f).Answers (segmentAt (deliver M hop f).frame) := by
  by_cases hd : Dispatched f
  · rw [deliver, invoke_complete M hop.stack hop.maps hd h, invoke_controller M hop.stack hop.maps h]
    cases hb : branchAt M hop.maps.connectionsTable f with
    | tracked => exact .inl ⟨.pass, .inl rfl, rfl⟩
    | refused => exact .inl ⟨.drop, .inr rfl, rfl⟩
    | syn =>
      have hmiss := (Segment.branch_eq_syn.mp hb).1
      rw [branchAt, hmiss] at hb
      simp only [frameAfter, length_synRewrite, segmentAt_synRewrite h]
      exact .inr ⟨rfl, h, .inl ⟨hb, rfl⟩⟩
    | ack =>
      have hmiss := (Segment.branch_eq_ack.mp hb).1
      rw [branchAt, hmiss] at hb
      simp only [frameAfter, length_ackRewrite, segmentAt_ackRewrite h]
      exact .inr ⟨rfl, h, .inr ⟨hb, rfl⟩⟩
  · rw [deliver, invoke_ignored M hop.stack hop.maps hd]
    exact .inl ⟨.pass, .inl rfl, rfl⟩

lemma bounce_of_settled {hop : Hop T} {hops : List (Hop T)} {f : List Byte} {a : XdpAction}
    (ha : a = .pass ∨ a = .drop) (hv : (deliver M hop f).verdict = .ok a) :
    bounce M (hop :: hops) f = [.ok a] := by
  obtain rfl | rfl := ha <;> simp only [bounce, hv]

lemma bounce_of_tx {hop : Hop T} {hops : List (Hop T)} {f : List Byte}
    (hv : (deliver M hop f).verdict = .ok .tx) :
    bounce M (hop :: hops) f = .ok .tx :: bounce M hops (deliver M hop f).frame := by
  simp only [bounce, hv]

/-- Whatever the frame and the tables, at most two deliveries in a row transmit, and the next
one passes or drops the frame. -/
theorem bounce_settles {hops : List (Hop T)} {f : List Byte} (h : headersLen ≤ f.length)
    (hhops : 3 ≤ hops.length) :
    ∃ n a, n ≤ 2 ∧ (a = .pass ∨ a = .drop) ∧
      bounce M hops f = List.replicate n (.ok .tx) ++ [.ok a] := by
  obtain ⟨hop₁, hops, rfl⟩ := List.exists_cons_of_length_pos (show 0 < hops.length by omega)
  simp only [List.length_cons] at hhops
  obtain ⟨hop₂, hops, rfl⟩ := List.exists_cons_of_length_pos (show 0 < hops.length by omega)
  simp only [List.length_cons] at hhops
  obtain ⟨hop₃, hops, rfl⟩ := List.exists_cons_of_length_pos (show 0 < hops.length by omega)
  obtain ⟨a, ha, hv⟩ | ⟨hv₁, h₁, hans₁⟩ := deliver_cases M hop₁ h
  · exact ⟨0, a, by omega, ha, bounce_of_settled M ha hv⟩
  rw [bounce_of_tx M hv₁]
  obtain ⟨a, ha, hv⟩ | ⟨hv₂, h₂, hans₂⟩ := deliver_cases M hop₂ h₁
  · exact ⟨1, a, by omega, ha, by rw [bounce_of_settled M ha hv]; rfl⟩
  rw [bounce_of_tx M hv₂]
  obtain ⟨a, ha, hv⟩ | ⟨-, -, hans₃⟩ := deliver_cases M hop₃ h₂
  · exact ⟨2, a, by omega, ha, by rw [bounce_of_settled M ha hv]; rfl⟩
  · exact absurd hans₃ (hans₁.not_answers hans₂)

def doubleAck : List Byte :=
  sampleFrame webClient [0x30, 0x39, 0x00, 0x53] [0x01, 0x50, 0x30, 0x3a] 0x08

theorem bounce_settles_doubleAck :
    let hops : List (Hop _) := List.replicate 3 ⟨emptyMaps, ⟨0, 0⟩⟩
    bounce lpmTrie hops doubleAck = [.ok .tx, .ok .tx, .ok .drop] ∧
      ∃ n a, n ≤ 2 ∧ (a = .pass ∨ a = .drop) ∧
        bounce lpmTrie hops doubleAck = List.replicate n (.ok .tx) ++ [.ok a] :=
  ⟨by decide +kernel, bounce_settles lpmTrie (by decide) (by decide)⟩

end SyncookieXdp.Proofs
