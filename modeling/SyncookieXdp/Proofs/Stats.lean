import SyncookieXdp.Proofs.Accounting
import SyncookieXdp.Proofs.Dispatch

/-!
# What the statistics tool reports about the filter

Runs of the entry point over any frames on any CPUs. The entry point returns its verdict
without the accounting call, so `xdp_stats_map` keeps its contents and the totals read from
a zeroed map are zero, whatever was passed, dropped or transmitted.
-/

namespace SyncookieXdp.Proofs
open Lib

variable {T : Type} (M : BpfMap T)

def serve (maps : Maps T) (d : Delivery) : Maps T × Outcome :=
  invoke (syncookieFn M d.stack) maps d.frame

def returned (a : XdpAction) (us : List (Transition (Maps T) Delivery Outcome)) : List (List Byte) :=
  (us.filter (fun u => u.out.verdict = .ok a)).map (fun u => u.input.frame)

/-- After the deliveries `ds`, the totals collected for each action are the number of frames
it was returned for and their octets. -/
def StatsExact (nrCpus : Nat) (maps : Maps T) (ds : List Delivery) : Prop :=
  ∀ (a : XdpAction) (now : BitVec 64) (value : Datarec) (r : Record),
    let fs := returned a (run (serve M) maps ds)
    mapCollect (final (serve M) maps ds).xdpStatsMap.read nrCpus .percpuArray a.key now value r =
      (⟨now, ⟨BitVec.ofNat 64 fs.length, BitVec.ofNat 64 (fs.map List.length).sum⟩⟩, true)

/-- A dispatched frame that ends inside the TCP header, on which no verdict is reached. -/
def CutInTcp (f : List Byte) : Prop := Dispatched f ∧ f.length < headersLen

instance (f : List Byte) : Decidable (CutInTcp f) := inferInstanceAs (Decidable (_ ∧ _))

/-! ### The map is never written -/

lemma serve_xdpStatsMap (maps : Maps T) (d : Delivery) :
    (serve M maps d).1.xdpStatsMap = maps.xdpStatsMap := by
  rw [serve]
  by_cases hd : Dispatched d.frame
  · by_cases hl : headersLen ≤ d.frame.length
    · rw [invoke_complete M d.stack maps hd hl, invoke_controller M d.stack maps hl]
    · rw [invoke_truncated M d.stack maps hd (by omega)]
  · rw [invoke_ignored M d.stack maps hd]

lemma final_xdpStatsMap (maps : Maps T) (ds : List Delivery) :
    (final (serve M) maps ds).xdpStatsMap = maps.xdpStatsMap := by
  induction ds generalizing maps with
  | nil => rfl
  | cons d ds ih => rw [final, ih, serve_xdpStatsMap]

lemma sumValues_zero {values : Nat → Datarec} (h : ∀ i, values i = ⟨0, 0⟩) (n : Nat) :
    sumValues values n = ⟨0, 0⟩ := by
  induction n with
  | zero => rfl
  | succ n ih => simp [sumValues_succ, ih, h]

section Zeroed

variable {maps : Maps T} (hzero : ∀ cpu key, maps.xdpStatsMap cpu key = ⟨0, 0⟩) (nrCpus : Nat)
include hzero

lemma mapCollect_zero (ds : List Delivery) (a : XdpAction) (now : BitVec 64) (value : Datarec)
    (r : Record) :
    mapCollect (final (serve M) maps ds).xdpStatsMap.read nrCpus .percpuArray a.key now value r =
      (⟨now, ⟨0, 0⟩⟩, true) := by
  have hkey : a.key < xdpActionMax := by cases a <;> decide
  have hread : maps.xdpStatsMap.read a.key = some (fun cpu => maps.xdpStatsMap cpu a.key) := if_pos hkey
  rw [mapCollect, mapGetValuePercpuArray, final_xdpStatsMap, hread]
  simp only [sumValues_zero (fun cpu => hzero cpu a.key)]

lemma statsExact_iff_zero (ds : List Delivery) :
    StatsExact M nrCpus maps ds ↔
      ∀ a, BitVec.ofNat 64 (returned a (run (serve M) maps ds)).length = 0 ∧
        BitVec.ofNat 64 ((returned a (run (serve M) maps ds)).map List.length).sum = 0 := by
  simp only [StatsExact, mapCollect_zero M hzero]
  constructor
  · intro h a
    have ha := h a 0 ⟨0, 0⟩ ⟨0, ⟨0, 0⟩⟩
    simp only [Prod.mk.injEq, Record.mk.injEq, Datarec.mk.injEq] at ha
    exact ⟨ha.1.2.1.symm, ha.1.2.2.symm⟩
  · intro h a now value r
    rw [(h a).1, (h a).2]

end Zeroed

/-! ### Frames without a verdict -/

lemma returned_run_cons (maps : Maps T) (d : Delivery) (ds : List Delivery) (a : XdpAction) :
    returned a (run (serve M) maps (d :: ds)) =
      if (serve M maps d).2.verdict = .ok a then
        d.frame :: returned a (run (serve M) (serve M maps d).1 ds)
      else returned a (run (serve M) (serve M maps d).1 ds) := by
  unfold returned
  by_cases h : (serve M maps d).2.verdict = .ok a <;> simp [run, transition, h]

lemma serve_verdict_ok_iff (maps : Maps T) (d : Delivery) :
    (∃ a, (serve M maps d).2.verdict = .ok a) ↔ ¬CutInTcp d.frame :=
  verdict_ok_iff M d.stack maps d.frame

lemma returned_run_of_cut (maps : Maps T) (d : Delivery) (ds : List Delivery) (h : CutInTcp d.frame)
    (a : XdpAction) :
    returned a (run (serve M) maps (d :: ds)) = returned a (run (serve M) (serve M maps d).1 ds) := by
  rw [returned_run_cons]
  exact if_neg (fun ha => (serve_verdict_ok_iff M maps d).mp ⟨a, ha⟩ h)

lemma returned_eq_nil_iff (maps : Maps T) (ds : List Delivery) :
    (∀ a, returned a (run (serve M) maps ds) = []) ↔ ∀ d ∈ ds, CutInTcp d.frame := by
  induction ds generalizing maps with
  | nil => simp [run, returned]
  | cons d ds ih =>
    by_cases hd : CutInTcp d.frame
    · simp only [returned_run_of_cut M maps d ds hd, ih, List.forall_mem_cons, hd, true_and]
    · obtain ⟨a, ha⟩ := (serve_verdict_ok_iff M maps d).mpr hd
      refine iff_of_false (fun h => ?_) (fun h => hd (h d (List.mem_cons_self ..)))
      have hnil := h a
      rw [returned_run_cons, if_pos ha] at hnil
      cases hnil

/-- If the number of frames each action was returned for vanishes modulo `2 ^ 64` after every
part of a run, every frame was cut: the first one that was not would count one. -/
lemma cutInTcp_of_prefixes (maps : Maps T) (ds : List Delivery)
    (h : ∀ earlier, earlier <+: ds → ∀ a,
      BitVec.ofNat 64 (returned a (run (serve M) maps earlier)).length = 0) :
    ∀ d ∈ ds, CutInTcp d.frame := by
  induction ds generalizing maps with
  | nil => simp
  | cons d ds ih =>
    have hd : CutInTcp d.frame := by
      by_contra hcut
      obtain ⟨a, ha⟩ := (serve_verdict_ok_iff M maps d).mpr hcut
      have hone := h [d] ⟨ds, rfl⟩ a
      rw [returned_run_cons, if_pos ha] at hone
      exact absurd (show BitVec.ofNat 64 1 = 0 from hone) (by decide)
    refine List.forall_mem_cons.mpr ⟨hd, ih (serve M maps d).1 ?_⟩
    intro earlier hearlier a
    rw [← returned_run_of_cut M maps d earlier hd a]
    exact h (d :: earlier) (List.cons_prefix_cons.mpr ⟨rfl, hearlier⟩) a

lemma length_returned_le (maps : Maps T) (ds : List Delivery) (a : XdpAction) :
    (returned a (run (serve M) maps ds)).length ≤ ds.length := by
  rw [returned, List.length_map, ← length_run (serve M) maps ds]
  exact List.length_filter_le _ _

/-- The tool reports the real verdicts all through a run exactly when there are none: every
frame is cut inside the TCP header. In a run of fewer than `2 ^ 64` frames it does so at the
end only under the same condition. -/
theorem stats_exact_iff {maps : Maps T} (hzero : ∀ cpu key, maps.xdpStatsMap cpu key = ⟨0, 0⟩)
    (nrCpus : Nat) (ds : List Delivery) :
    ((∀ earlier, earlier <+: ds → StatsExact M nrCpus maps earlier) ↔ ∀ d ∈ ds, CutInTcp d.frame) ∧
      (ds.length < 2 ^ 64 → (StatsExact M nrCpus maps ds ↔ ∀ d ∈ ds, CutInTcp d.frame)) := by
  have hcut : ∀ ds : List Delivery, (∀ d ∈ ds, CutInTcp d.frame) → StatsExact M nrCpus maps ds := by
    intro ds h
    have hnil := (returned_eq_nil_iff M maps ds).mpr h
    rw [statsExact_iff_zero M hzero]
    intro a
    rw [hnil a]
    exact ⟨rfl, rfl⟩
  refine ⟨⟨fun h => ?_, fun h earlier hearlier => ?_⟩, fun hlen => ⟨fun h => ?_, hcut ds⟩⟩
  · apply cutInTcp_of_prefixes M maps ds
    intro earlier hearlier a
    exact ((statsExact_iff_zero M hzero nrCpus earlier).mp (h earlier hearlier) a).1
  · exact hcut earlier (fun d hd => h d (hearlier.subset hd))
  · rw [← returned_eq_nil_iff M maps]
    intro a
    have hle := length_returned_le M maps ds a
    have hzero64 := ((statsExact_iff_zero M hzero nrCpus ds).mp h a).1
    rw [← List.length_eq_zero_iff]
    have hmod := congrArg BitVec.toNat hzero64
    simp only [BitVec.toNat_ofNat] at hmod
    rwa [Nat.mod_eq_of_lt (by omega)] at hmod

theorem stats_exact_for_cut :
    StatsExact lpmTrie 4 emptyMaps [⟨0, ⟨0, 0⟩, cutTcpFrame⟩, ⟨3, ⟨0, 0⟩, cutTcpFrame⟩] :=
  ((stats_exact_iff lpmTrie (fun _ _ => rfl) 4 _).2 (by decide)).mpr (by decide)

theorem passed_frame_not_reported :
    ¬StatsExact lpmTrie 1 emptyMaps [⟨0, ⟨0, 0⟩, wireSynFrame⟩] := by
  intro h
  have hd : ¬Dispatched wireSynFrame := by decide
  have hpass := ((statsExact_iff_zero lpmTrie (fun _ _ => rfl) 1 _).mp h .pass).1
  rw [returned_run_cons, if_pos (by rw [serve, invoke_ignored lpmTrie _ _ hd])] at hpass
  exact absurd hpass (by decide)

end SyncookieXdp.Proofs
