import Mathlib.Data.List.Range
import Mathlib.Data.List.TakeWhile
import Mathlib.Data.List.Induction
import Mathlib.Order.Monotone.Basic
import Mathlib.Data.BitVec
import Mathlib.Data.Rat.Defs
import Mathlib.Algebra.Order.Field.Rat
import SyncookieXdp.Model.Polling
import SyncookieXdp.Proofs.Accounting
import SyncookieXdp.Proofs.Collect

/-!
# Polling while packets are counted

User space copies the records one by one while all CPUs go on counting. A schedule says how
many calls of `xdp_stats_record_action` came before each copy. Every line that is printed
accounts for exactly the calls between two copies of the same record, and the lines of one
action add up.
-/

namespace SyncookieXdp.Proofs
open Lib

/-! ### The records of one CPU -/

lemma added_append (key : Nat) (cs ds : List (BitVec 32 × Nat)) :
    added key (cs ++ ds) = addRecords (added key cs) (added key ds) := by
  induction cs with
  | nil => simp [added, addRecords]
  | cons c cs ih => rw [List.cons_append, added_cons, ih, ← addRecords_assoc, ← added_cons]

section Copies

variable {nrCpus : Nat} {key : Nat}

lemma account_apply (m : StatsMap) (c : StatsCall nrCpus) (hkey : key < xdpActionMax) (cpu : Nat) :
    (account xdpStatsRecordAction m c).1 cpu key =
      if cpu = c.cpu then addRecords (m cpu key) (added key [c.packet]) else m cpu key := by
  by_cases haction : c.action.toNat < xdpActionMax
  · have hrec : (account xdpStatsRecordAction m c).1 =
        m.store c.cpu c.action.toNat ⟨(m c.cpu c.action.toNat).rxPackets + 1,
          (m c.cpu c.action.toNat).rxBytes + BitVec.ofNat 64 c.bytes⟩ := by
      rw [account, xdpStatsRecordAction, if_neg (by omega), StatsMap.lookup, if_pos haction, c.setWidth_sub]
    rw [hrec, StatsMap.store]
    by_cases hcpu : cpu = c.cpu
    · subst hcpu
      by_cases hown : c.action.toNat = key
      · subst hown
        simp [addRecords, added, StatsCall.packet]
      · simp [addRecords, added, StatsCall.packet, hown, Ne.symm hown]
    · simp [hcpu]
  · have hne : c.action.toNat ≠ key := by omega
    rw [account, record_of_invalid (by omega)]
    simp [addRecords, added, StatsCall.packet, hne]

/-- The calls that are counted in a copy, if the record of each CPU is copied after so many. -/
def seen (calls : List (StatsCall nrCpus)) (upto : Nat → Nat) : List (StatsCall nrCpus × Nat) :=
  calls.zipIdx.filter (fun p => p.2 < upto p.1.cpu)

/-- The calls between two copies. -/
def between (calls : List (StatsCall nrCpus)) (since upto : Nat → Nat) : List (StatsCall nrCpus × Nat) :=
  (seen calls upto).filter (fun p => since p.1.cpu ≤ p.2)

def packetsOf (ps : List (StatsCall nrCpus × Nat)) : List (BitVec 32 × Nat) := ps.map (fun p => p.1.packet)

lemma seen_append (calls : List (StatsCall nrCpus)) (c : StatsCall nrCpus) (upto : Nat → Nat) :
    seen (calls ++ [c]) upto =
      seen calls upto ++ if calls.length < upto c.cpu then [(c, calls.length)] else [] := by
  rw [seen, seen, List.zipIdx_append, List.filter_append]
  simp [List.filter_cons]

/-- One more call is counted where the record is copied after it. -/
lemma copy_append (m : StatsMap) (calls : List (StatsCall nrCpus)) (c : StatsCall nrCpus) (upto : Nat → Nat)
    (hkey : key < xdpActionMax) (cpu : Nat) :
    final (account xdpStatsRecordAction) m ((calls ++ [c]).take (upto cpu)) cpu key =
      if cpu = c.cpu ∧ calls.length < upto cpu then
        addRecords (final (account xdpStatsRecordAction) m (calls.take (upto cpu)) cpu key)
          (added key [c.packet])
      else final (account xdpStatsRecordAction) m (calls.take (upto cpu)) cpu key := by
  by_cases hlate : calls.length < upto cpu
  · have htake : (calls ++ [c]).take (upto cpu) = calls ++ [c] :=
      List.take_of_length_le (by simp; omega)
    rw [htake, List.take_of_length_le (Nat.le_of_lt hlate), final_append, final, final,
      account_apply _ c hkey]
    simp only [hlate, and_true]
  · rw [List.take_append_of_le_length (by omega), if_neg (fun h => hlate h.2)]

/-- The sum over the CPUs, each copied at its own time. -/
lemma sumValues_copies (m : StatsMap) (calls : List (StatsCall nrCpus)) (upto : Nat → Nat)
    (hkey : key < xdpActionMax) :
    sumValues (fun cpu => final (account xdpStatsRecordAction) m (calls.take (upto cpu)) cpu key) nrCpus =
      addRecords (sumValues (fun cpu => m cpu key) nrCpus) (added key (packetsOf (seen calls upto))) := by
  induction calls using List.reverseRecOn with
  | nil => simp [final, seen, packetsOf, added, addRecords]
  | append_singleton calls c ih =>
    rw [seen_append]
    by_cases hlate : calls.length < upto c.cpu
    · rw [if_pos hlate, packetsOf, List.map_append, added_append, ← addRecords_assoc, ← packetsOf, ← ih]
      apply sumValues_add c.cpu.isLt
      · rw [copy_append m calls c upto hkey, if_pos ⟨rfl, hlate⟩]
        rfl
      · intro cpu hcpu
        rw [copy_append m calls c upto hkey, if_neg (fun h => hcpu h.1)]
    · rw [if_neg hlate, List.append_nil, ← ih]
      apply sumValues_congr
      intro cpu _
      rw [copy_append m calls c upto hkey, if_neg]
      rintro ⟨rfl, h⟩
      exact hlate h

/-- What is counted later and was not counted before lies between the two copies. -/
lemma added_between (calls : List (StatsCall nrCpus)) {since upto : Nat → Nat} (h : ∀ cpu, since cpu ≤ upto cpu) :
    added key (packetsOf (seen calls upto)) =
      addRecords (added key (packetsOf (seen calls since))) (added key (packetsOf (between calls since upto))) := by
  have hbefore : (seen calls upto).filter (fun p => p.2 < since p.1.cpu) = seen calls since := by
    rw [seen, seen, List.filter_filter]
    apply List.filter_congr
    intro p _
    have hle := h p.1.cpu
    simp only [← Bool.decide_and, decide_eq_decide]
    omega
  have hafter : (seen calls upto).filter (fun p => !decide (p.2 < since p.1.cpu)) = between calls since upto := by
    rw [between]
    apply List.filter_congr
    intro p _
    simp only [← decide_not, decide_eq_decide]
    omega
  have hperm := (List.filter_append_perm (fun p => decide (p.2 < since p.1.cpu)) (seen calls upto)).symm
  rw [hbefore, hafter] at hperm
  rw [← added_append, packetsOf, packetsOf, packetsOf, ← List.map_append]
  exact added_perm key (hperm.map _)

end Copies

/-! ### Rounds -/

/-- When the records are copied: for each round, key and CPU the number of calls before it. -/
structure Schedule where
  copiedAt : Nat → Fin xdpActionMax → Nat → Nat
  mono : ∀ r key cpu, copiedAt r key cpu ≤ copiedAt (r + 1) key cpu

section Rounds

variable {nrCpus : Nat} (m : StatsMap) (calls : List (StatsCall nrCpus)) (sched : Schedule)
  (now : Nat → Fin xdpActionMax → BitVec 64) (value : Nat → Fin xdpActionMax → Datarec)

/-- What `stats_collect` meets in a round. -/
def readingAt (r : Nat) : Reading where
  read := fun key =>
    if h : key < xdpActionMax then
      some (fun cpu =>
        final (account xdpStatsRecordAction) m (calls.take (sched.copiedAt r ⟨key, h⟩ cpu)) cpu key)
    else none
  now := now r
  value := value r

def counted (r : Nat) (key : Fin xdpActionMax) : List (BitVec 32 × Nat) :=
  packetsOf (seen calls (sched.copiedAt r key))

/-- The total that a round finds for a key. -/
def totalAt (r : Nat) (key : Fin xdpActionMax) : Datarec :=
  addRecords (sumValues (fun cpu => m cpu key) nrCpus) (added key (counted calls sched r key))

lemma collect_readingAt (r : Nat) (statsRec : StatsRecord) :
    (readingAt m calls sched now value r).collect nrCpus .percpuArray statsRec =
      fun key => ⟨now r key, totalAt m calls sched r key⟩ := by
  funext key
  have hread : (readingAt m calls sched now value r).read key = some (fun cpu =>
      final (account xdpStatsRecordAction) m (calls.take (sched.copiedAt r key cpu)) cpu key) :=
    dif_pos key.isLt
  rw [Reading.collect, statsCollect_apply]
  simp only [mapCollect, mapGetValuePercpuArray, hread, sumValues_copies m calls _ key.isLt]
  rfl

/-- The calls for a key between its copies in two rounds, and their octets. -/
def callsBetween (since upto : Nat) (key : Fin xdpActionMax) : List (StatsCall nrCpus) :=
  ((between calls (sched.copiedAt since key) (sched.copiedAt upto key)).map Prod.fst).filter
    (fun c => c.action.toNat = key)

def bytesBetween (since upto : Nat) (key : Fin xdpActionMax) : Nat :=
  ((callsBetween calls sched since upto key).map StatsCall.bytes).sum

/-- Both as the machine adds them up. -/
def recordBetween (since upto : Nat) (key : Fin xdpActionMax) : Datarec :=
  ⟨BitVec.ofNat 64 (callsBetween calls sched since upto key).length,
    BitVec.ofNat 64 (bytesBetween calls sched since upto key)⟩

lemma added_callsBetween (since upto : Nat) (key : Fin xdpActionMax) :
    added key (packetsOf (between calls (sched.copiedAt since key) (sched.copiedAt upto key))) =
      recordBetween calls sched since upto key := by
  have hthose : (packetsOf (between calls (sched.copiedAt since key) (sched.copiedAt upto key))).filter
      (fun c => c.1.toNat = key.val) = (callsBetween calls sched since upto key).map StatsCall.packet := by
    rw [packetsOf, callsBetween, List.filter_map, List.filter_map, List.map_map]
    rfl
  rw [added, hthose, List.length_map, List.map_map]
  rfl

lemma totalAt_of_le {since upto : Nat} (h : since ≤ upto) (key : Fin xdpActionMax) :
    totalAt m calls sched upto key =
      addRecords (totalAt m calls sched since key) (recordBetween calls sched since upto key) := by
  have hmono (cpu : Nat) : sched.copiedAt since key cpu ≤ sched.copiedAt upto key cpu :=
    monotone_nat_of_le_succ (fun r => sched.mono r key cpu) h
  rw [totalAt, totalAt, counted, added_between calls hmono, added_callsBetween, addRecords_assoc]
  rfl

lemma between_perm {since mid upto : Nat → Nat} (hsince : ∀ cpu, since cpu ≤ mid cpu) (hmid : ∀ cpu, mid cpu ≤ upto cpu) :
    (between calls since upto).Perm (between calls since mid ++ between calls mid upto) := by
  have hbefore : (between calls since upto).filter (fun p => p.2 < mid p.1.cpu) = between calls since mid := by
    rw [between, between, seen, seen, List.filter_filter, List.filter_filter, List.filter_filter]
    apply List.filter_congr
    intro p _
    have hle := hmid p.1.cpu
    simp only [← Bool.decide_and, decide_eq_decide]
    omega
  have hafter : (between calls since upto).filter (fun p => !decide (p.2 < mid p.1.cpu)) = between calls mid upto := by
    rw [between, between, seen, List.filter_filter, List.filter_filter, List.filter_filter]
    apply List.filter_congr
    intro p _
    have hle := hsince p.1.cpu
    simp only [← decide_not, ← Bool.decide_and, decide_eq_decide]
    omega
  have hperm := (List.filter_append_perm (fun p => decide (p.2 < mid p.1.cpu)) (between calls since upto)).symm
  rw [hbefore, hafter] at hperm
  exact hperm

/-- The calls between two copies are those of the rounds between, each in one of them. -/
lemma callsBetween_perm (n : Nat) (key : Fin xdpActionMax) :
    ((List.range n).flatMap (fun r => callsBetween calls sched r (r + 1) key)).Perm
      (callsBetween calls sched 0 n key) := by
  induction n with
  | zero =>
    have hnone : between calls (sched.copiedAt 0 key) (sched.copiedAt 0 key) = [] := by
      rw [between, seen, List.filter_filter, List.filter_eq_nil_iff]
      intro p _
      simp
    rw [callsBetween, hnone]
    exact .refl _
  | succ n ih =>
    have hmono (cpu : Nat) : sched.copiedAt 0 key cpu ≤ sched.copiedAt n key cpu :=
      monotone_nat_of_le_succ (fun r => sched.mono r key cpu) (Nat.zero_le n)
    have hsplit := ((between_perm calls hmono (fun cpu => sched.mono n key cpu)).map Prod.fst).filter
      (fun c => decide (c.action.toNat = key.val))
    rw [List.map_append, List.filter_append] at hsplit
    rw [List.range_succ, List.flatMap_append]
    refine (ih.append ?_).trans hsplit.symm
    simp [callsBetween]

variable {D : Type} (d : Doubles D)

/-- The seconds between the readings of a key in a round and the one before. -/
def secondsAt (r : Nat) (key : Fin xdpActionMax) : D :=
  d.div (d.ofU64 (now (r + 1) key - now r key)) (d.ofU64 nanosecPerSec)

/-- The line of a key in a round. -/
def lineAt (r : Nat) (key : Fin xdpActionMax) : StatsLine D where
  action := action2str key
  rxPackets := (totalAt m calls sched (r + 1) key).rxPackets
  pps := d.div (d.ofU64 (BitVec.ofNat 64 (callsBetween calls sched r (r + 1) key).length)) (secondsAt now d r key)
  rxKbytes := (totalAt m calls sched (r + 1) key).rxBytes / 1000
  bps := d.div (d.div (d.ofU64 (BitVec.ofNat 64 (8 * bytesBetween calls sched r (r + 1) key))) (secondsAt now d r key))
    (d.ofU64 1000000)
  period := secondsAt now d r key

def printoutAt (r : Nat) : Printout D where
  lines := ((List.finRange xdpActionMax).takeWhile (fun key => now (r + 1) key ≠ now r key)).map
    (lineAt m calls sched now d r)
  complete := decide (∀ key, now (r + 1) key ≠ now r key)

omit m calls sched now value in
lemma calcPeriod_of_ne {rec prev : Record} (h : rec.timestamp ≠ prev.timestamp) :
    calcPeriod d rec prev = d.div (d.ofU64 (rec.timestamp - prev.timestamp)) (d.ofU64 nanosecPerSec) := by
  have hpos : rec.timestamp - prev.timestamp > 0 := by bv_omega
  rw [calcPeriod]
  exact if_pos hpos

omit m calls sched now value in
lemma isZero_calcPeriod (rec prev : Record) :
    d.isZero (calcPeriod d rec prev) = decide (rec.timestamp = prev.timestamp) := by
  by_cases h : rec.timestamp = prev.timestamp
  · have hzero : ¬(rec.timestamp - prev.timestamp > 0) := by
      rw [h]
      bv_omega
    rw [decide_eq_true h, calcPeriod]
    simp only [if_neg hzero, d.isZero_zero]
  · have hne : rec.timestamp - prev.timestamp ≠ 0 := by bv_omega
    rw [decide_eq_false h, calcPeriod_of_ne d h, d.isZero_seconds _ hne]

lemma statsPrintLoop_eq (statsRec statsPrev : StatsRecord) (keys : List (Fin xdpActionMax)) :
    statsPrintLoop d statsRec statsPrev keys =
      ⟨(keys.takeWhile (fun key => (statsRec key).timestamp ≠ (statsPrev key).timestamp)).map
          (fun key : Fin xdpActionMax => statsLine d key (statsRec key) (statsPrev key)),
        decide (∀ key ∈ keys, (statsRec key).timestamp ≠ (statsPrev key).timestamp)⟩ := by
  induction keys with
  | nil => simp [statsPrintLoop]
  | cons key keys ih =>
    rw [statsPrintLoop, isZero_calcPeriod]
    by_cases h : (statsRec key).timestamp = (statsPrev key).timestamp
    · simp [h]
    · rw [decide_eq_false h, if_neg Bool.false_ne_true, ih]
      simp only [List.takeWhile_cons, ne_eq, h, not_false_eq_true, decide_true, if_true, List.map_cons,
        List.forall_mem_cons, true_and]

lemma statsLine_eq {r : Nat} {key : Fin xdpActionMax} (h : now (r + 1) key ≠ now r key) :
    statsLine d key ⟨now (r + 1) key, totalAt m calls sched (r + 1) key⟩
        ⟨now r key, totalAt m calls sched r key⟩ = lineAt m calls sched now d r key := by
  have hcancel (x y : BitVec 64) : x + y - x = y := by rw [BitVec.add_comm, BitVec.add_sub_cancel]
  have hbits (n : Nat) : BitVec.ofNat 64 n * 8 = BitVec.ofNat 64 (8 * n) := by
    rw [Nat.mul_comm, BitVec.ofNat_mul]
    rfl
  have hperiod : calcPeriod d ⟨now (r + 1) key, totalAt m calls sched (r + 1) key⟩
      ⟨now r key, totalAt m calls sched r key⟩ = secondsAt now d r key := calcPeriod_of_ne d h
  simp only [statsLine, lineAt, hperiod]
  simp only [totalAt_of_le m calls sched (Nat.le_succ r) key, addRecords, recordBetween, hcancel, hbits]

lemma statsPrint_eq (r : Nat) :
    statsPrint d (fun key => ⟨now (r + 1) key, totalAt m calls sched (r + 1) key⟩)
        (fun key => ⟨now r key, totalAt m calls sched r key⟩) = printoutAt m calls sched now d r := by
  rw [statsPrint, statsPrintLoop_eq, printoutAt]
  simp only [List.mem_finRange, true_imp_iff, Printout.mk.injEq, and_true]
  apply List.map_congr_left
  intro key hkey
  have hne := List.mem_takeWhile_imp hkey
  exact statsLine_eq m calls sched now d (of_decide_eq_true hne)

lemma statsPollLoop_eq (n r : Nat) :
    statsPollLoop d nrCpus .percpuArray (fun key => ⟨now r key, totalAt m calls sched r key⟩)
        ((List.range' r n).map (fun r => readingAt m calls sched now value (r + 1))) =
      (List.range' r n).map (printoutAt m calls sched now d) := by
  induction n generalizing r with
  | zero => rfl
  | succ n ih =>
    rw [List.range'_succ, List.map_cons, List.map_cons, statsPollLoop]
    simp only [collect_readingAt, statsPrint_eq, ih]

/-- The readings of the rounds, after the one before the first. -/
def readings (n : Nat) : List Reading := (List.range n).map (fun r => readingAt m calls sched now value (r + 1))

theorem poll_exact (n : Nat) :
    statsPoll d nrCpus .percpuArray (readingAt m calls sched now value 0) (readings m calls sched now value n) =
      (List.range n).map (printoutAt m calls sched now d) := by
  rw [statsPoll, collect_readingAt, readings, List.range_eq_range']
  exact statsPollLoop_eq m calls sched now value d n 0

/-! ### All rounds together -/

variable {now}

lemma line_printoutAt {r : Nat} {key : Fin xdpActionMax} (h : ∀ k ≤ key, now (r + 1) k ≠ now r k) :
    (printoutAt m calls sched now d r).lines[key.val]? = some (lineAt m calls sched now d r key) := by
  have hlen : key.val < ((List.finRange xdpActionMax).take (key.val + 1)).length := by
    have hkey := key.isLt
    rw [List.length_take, List.length_finRange]
    omega
  have hupto : ∀ k ∈ (List.finRange xdpActionMax).take (key.val + 1), decide (now (r + 1) k ≠ now r k) = true := by
    intro k hk
    obtain ⟨i, hi, rfl⟩ := List.mem_iff_getElem.mp hk
    apply decide_eq_true
    apply h
    rw [List.length_take] at hi
    rw [Fin.le_def, List.getElem_take, List.getElem_finRange]
    simp only [Fin.val_cast]
    omega
  have hline : ((List.finRange xdpActionMax).takeWhile (fun k => now (r + 1) k ≠ now r k))[key.val]? = some key := by
    rw [← List.take_append_drop (key.val + 1) (List.finRange xdpActionMax),
      List.takeWhile_append_of_pos hupto, List.getElem?_append_left hlen, List.getElem?_take_of_lt (by omega),
      List.getElem?_eq_getElem (by simp), List.getElem_finRange]
    rfl
  rw [printoutAt, List.getElem?_map, hline]
  rfl

/-- The total and the rates printed for a key in a round are those of the calls since the first
copy and since the copy before, and each call belongs to one round. -/
theorem poll_adds_up (n : Nat) (key : Fin xdpActionMax)
    (hclock : ∀ r < n, ∀ k ≤ key, now (r + 1) k ≠ now r k) :
    let outs := statsPoll d nrCpus .percpuArray (readingAt m calls sched now value 0) (readings m calls sched now value n)
    (∀ r < n, ∃ line, outs[r]?.bind (fun out => out.lines[key.val]?) = some line ∧
      line.rxPackets = (totalAt m calls sched 0 key).rxPackets +
        BitVec.ofNat 64 (callsBetween calls sched 0 (r + 1) key).length ∧
      line.pps = d.div (d.ofU64 (BitVec.ofNat 64 (callsBetween calls sched r (r + 1) key).length)) line.period ∧
      line.bps = d.div (d.div (d.ofU64 (BitVec.ofNat 64 (8 * bytesBetween calls sched r (r + 1) key))) line.period)
        (d.ofU64 1000000)) ∧
    ((List.range n).flatMap (fun r => callsBetween calls sched r (r + 1) key)).Perm
      (callsBetween calls sched 0 n key) := by
  intro outs
  have houts : outs = (List.range n).map (printoutAt m calls sched now d) := by
    simp only [outs, statsPoll, collect_readingAt, readings, List.range_eq_range', statsPollLoop_eq]
  refine ⟨fun r hr => ⟨lineAt m calls sched now d r key, ?_, ?_, rfl, rfl⟩, callsBetween_perm calls sched n key⟩
  · have hout : outs[r]? = some (printoutAt m calls sched now d r) := by
      rw [houts, List.getElem?_map, List.getElem?_range hr, Option.map_some]
    rw [hout, Option.bind_some, line_printoutAt m calls sched d (hclock r hr)]
  · rw [lineAt, totalAt_of_le m calls sched (Nat.zero_le (r + 1)) key]
    rfl

end Rounds

/-- Three calls on two CPUs, with packets of 60 octets. -/
def sampleCalls : List (StatsCall 2) :=
  [⟨0, ⟨100, 160⟩, 2, by decide⟩, ⟨1, ⟨100, 160⟩, 1, by decide⟩, ⟨1, ⟨100, 160⟩, 2, by decide⟩]

/-- The second CPU is copied later than the first, with a call in between. -/
def sampleSchedule : Schedule := ⟨fun r _ cpu => r + cpu, fun r _ cpu => by omega⟩

def passKey : Fin xdpActionMax := ⟨XdpAction.pass.key, by decide⟩

/-- Quotients without rounding, which are those of `double` for rounds of a second. -/
def exactQuotients : Doubles ℚ where
  ofU64 v := v.toNat
  div := (· / ·)
  isZero q := decide (q = 0)
  isZero_zero := rfl
  isZero_seconds := by
    intro period hperiod
    have hne : period.toNat ≠ 0 := fun h => hperiod (BitVec.eq_of_toNat_eq h)
    simp [nanosecPerSec, hne]

def everySecond (r : Nat) (_ : Fin xdpActionMax) : BitVec 64 := BitVec.ofNat 64 r * nanosecPerSec

theorem poll_adds_up_pass :
    ∃ line : StatsLine ℚ, (statsPoll exactQuotients 2 .percpuArray
        (readingAt (fun _ _ => ⟨0, 0⟩) sampleCalls sampleSchedule everySecond (fun _ _ => ⟨7, 7⟩) 0)
        (readings (fun _ _ => ⟨0, 0⟩) sampleCalls sampleSchedule everySecond (fun _ _ => ⟨7, 7⟩) 2))[1]?.bind
          (fun out => out.lines[passKey.val]?) = some line ∧
      line.rxPackets = 2 ∧ line.pps = exactQuotients.div (exactQuotients.ofU64 1) line.period := by
  have hclock : ∀ r < 2, ∀ k ≤ passKey, everySecond (r + 1) k ≠ everySecond r k := by decide
  obtain ⟨line, hline, htotal, hpps, -⟩ :=
    (poll_adds_up _ sampleCalls sampleSchedule (fun _ _ => ⟨7, 7⟩) exactQuotients 2 passKey hclock).1 1 (by decide)
  exact ⟨line, hline, htotal, hpps⟩

end SyncookieXdp.Proofs
