import SyncookieXdp.Lib.Run
import SyncookieXdp.Model.Stats

/-!
# Per-CPU accounting

Every call of `xdp_stats_record_action` changes one record of one CPU, and user space reads
the sum over the CPUs. The sum counts the calls and their octets, wherever and in whatever
order they were made.
-/

namespace SyncookieXdp.Proofs
open Lib

/-! ### One call -/

lemma sumValues_succ (values : Nat → Datarec) (n : Nat) :
    sumValues values (n + 1) =
      ⟨(sumValues values n).rxPackets + (values n).rxPackets,
        (sumValues values n).rxBytes + (values n).rxBytes⟩ := by
  simp [sumValues, List.range_succ]

lemma sumValues_congr {values values' : Nat → Datarec} {n : Nat} (h : ∀ i < n, values i = values' i) :
    sumValues values n = sumValues values' n := by
  induction n with
  | zero => rfl
  | succ n ih =>
    rw [sumValues_succ, sumValues_succ, ih (fun i hi => h i (by omega)), h n (by omega)]

lemma sumValues_add {values values' : Nat → Datarec} {cpu n : Nat} (hcpu : cpu < n) (p b : BitVec 64)
    (hown : values' cpu = ⟨(values cpu).rxPackets + p, (values cpu).rxBytes + b⟩)
    (hother : ∀ i, i ≠ cpu → values' i = values i) :
    sumValues values' n = ⟨(sumValues values n).rxPackets + p, (sumValues values n).rxBytes + b⟩ := by
  induction n with
  | zero => omega
  | succ n ih =>
    rw [sumValues_succ, sumValues_succ]
    by_cases hn : cpu = n
    · subst hn
      rw [sumValues_congr (fun i hi => hother i (by omega)), hown]
      simp only [BitVec.add_assoc]
    · rw [ih (by omega), hother n (by omega)]
      simp only [Datarec.mk.injEq]
      constructor <;> ac_rfl

/-- A call of `xdp_stats_record_action` with a valid action, on any CPU user space reads, adds
one packet and its octets to the total of that action and leaves the other totals alone. -/
theorem sumValues_record {cpu nrCpus : Nat} (hcpu : cpu < nrCpus) {action : BitVec 32}
    (haction : action.toNat < xdpActionMax) (ctx : XdpMd) (m : StatsMap) (key : Nat) :
    sumValues (fun c => (xdpStatsRecordAction cpu ctx action m).1 c key) nrCpus =
      let sum := sumValues (fun c => m c key) nrCpus
      if key = action.toNat then
        ⟨sum.rxPackets + 1, sum.rxBytes + (ctx.dataEnd - ctx.data).setWidth 64⟩
      else sum := by
  have hrec : (xdpStatsRecordAction cpu ctx action m).1 =
      m.store cpu action.toNat ⟨(m cpu action.toNat).rxPackets + 1,
        (m cpu action.toNat).rxBytes + (ctx.dataEnd - ctx.data).setWidth 64⟩ := by
    rw [xdpStatsRecordAction, if_neg (by omega), StatsMap.lookup, if_pos haction]
  rw [hrec]
  by_cases hkey : key = action.toNat
  · subst hkey
    rw [if_pos rfl]
    apply sumValues_add hcpu
    · simp [StatsMap.store]
    · intro i hi
      simp [StatsMap.store, hi]
  · rw [if_neg hkey]
    simp [StatsMap.store, hkey]

lemma record_of_invalid {action : BitVec 32} (haction : xdpActionMax ≤ action.toNat) (cpu : Nat)
    (ctx : XdpMd) (m : StatsMap) :
    xdpStatsRecordAction cpu ctx action m = (m, BitVec.ofNat 32 XdpAction.aborted.key) := by
  rw [xdpStatsRecordAction, if_pos haction]

lemma record_returns {action : BitVec 32} (haction : action.toNat < xdpActionMax) (cpu : Nat)
    (ctx : XdpMd) (m : StatsMap) : (xdpStatsRecordAction cpu ctx action m).2 = action := by
  rw [xdpStatsRecordAction, if_neg (by omega), StatsMap.lookup, if_pos haction]

/-! ### Runs of calls -/

/-- A call on one of the CPUs, for a packet whose end does not lie before its start. -/
structure StatsCall (nrCpus : Nat) where
  cpu : Fin nrCpus
  ctx : XdpMd
  action : BitVec 32
  ordered : ctx.data ≤ ctx.dataEnd

namespace StatsCall

variable {nrCpus : Nat}

def bytes (c : StatsCall nrCpus) : Nat := c.ctx.dataEnd.toNat - c.ctx.data.toNat

/-- The call without its CPU. -/
def packet (c : StatsCall nrCpus) : BitVec 32 × Nat := (c.action, c.bytes)

lemma setWidth_sub (c : StatsCall nrCpus) :
    (c.ctx.dataEnd - c.ctx.data).setWidth 64 = BitVec.ofNat 64 c.bytes := by
  apply BitVec.eq_of_toNat_eq
  rw [BitVec.toNat_setWidth, BitVec.toNat_sub_of_le c.ordered, BitVec.toNat_ofNat]
  rfl

end StatsCall

/-- The type of both versions of the accounting call. -/
abbrev RecordAction := Nat → XdpMd → BitVec 32 → StatsMap → StatsMap × BitVec 32

def account (record : RecordAction) {nrCpus : Nat} (m : StatsMap) (c : StatsCall nrCpus) :
    StatsMap × BitVec 32 :=
  record c.cpu c.ctx c.action m

/-- From any contents of the map, the total read for a key grows by the number of calls with
that action and by their octets. A call with an invalid action changes no record and returns
`XDP_ABORTED`, any other returns its action, and the totals depend neither on the order of
the calls nor on their CPUs. -/
def AccountsExactly (record : RecordAction) : Prop :=
  ∀ (nrCpus : Nat) (m : StatsMap) (calls : List (StatsCall nrCpus)),
    (∀ key < xdpActionMax, ∀ value value',
      let before := mapGetValuePercpuArray m.read nrCpus key value
      let after := mapGetValuePercpuArray (final (account record) m calls).read nrCpus key value'
      let those := calls.filter (fun c => c.action.toNat = key)
      after.rxPackets - before.rxPackets = BitVec.ofNat 64 those.length ∧
        after.rxBytes - before.rxBytes = BitVec.ofNat 64 (those.map StatsCall.bytes).sum) ∧
    (∀ u ∈ run (account record) m calls,
      (xdpActionMax ≤ u.input.action.toNat →
        u.post = u.pre ∧ u.out = BitVec.ofNat 32 XdpAction.aborted.key) ∧
      (u.input.action.toNat < xdpActionMax → u.out = u.input.action)) ∧
    ∀ calls' : List (StatsCall nrCpus),
      (calls'.map StatsCall.packet).Perm (calls.map StatsCall.packet) →
      ∀ key < xdpActionMax, ∀ value value',
        mapGetValuePercpuArray (final (account record) m calls').read nrCpus key value' =
          mapGetValuePercpuArray (final (account record) m calls).read nrCpus key value

lemma mapGetValuePercpuArray_read (m : StatsMap) (nrCpus : Nat) {key : Nat} (hkey : key < xdpActionMax)
    (value : Datarec) :
    mapGetValuePercpuArray m.read nrCpus key value = sumValues (fun cpu => m cpu key) nrCpus := by
  have hread : m.read key = some (fun cpu => m cpu key) := if_pos hkey
  rw [mapGetValuePercpuArray, hread]

def addRecords (a b : Datarec) : Datarec := ⟨a.rxPackets + b.rxPackets, a.rxBytes + b.rxBytes⟩

lemma addRecords_assoc (a b c : Datarec) : addRecords (addRecords a b) c = addRecords a (addRecords b c) := by
  simp only [addRecords, BitVec.add_assoc]

/-- What a list of calls adds to the total of a key. -/
def added (key : Nat) (packets : List (BitVec 32 × Nat)) : Datarec :=
  let those := packets.filter (fun c => c.1.toNat = key)
  ⟨BitVec.ofNat 64 those.length, BitVec.ofNat 64 (those.map Prod.snd).sum⟩

lemma added_cons (key : Nat) (c : BitVec 32 × Nat) (cs : List (BitVec 32 × Nat)) :
    added key (c :: cs) = addRecords (added key [c]) (added key cs) := by
  by_cases h : c.1.toNat = key
  · simp [added, addRecords, h, BitVec.ofNat_add, BitVec.add_comm]
  · simp [added, addRecords, h]

lemma added_perm (key : Nat) {cs ds : List (BitVec 32 × Nat)} (h : cs.Perm ds) :
    added key cs = added key ds := by
  have hthose := h.filter (fun c => c.1.toNat = key)
  simp only [added, hthose.length_eq, (hthose.map Prod.snd).sum_nat]

section Runs

variable {nrCpus : Nat}

/-- One call adds its own share to the total of every key. -/
lemma sumValues_account (m : StatsMap) (c : StatsCall nrCpus) {key : Nat} (hkey : key < xdpActionMax) :
    sumValues (fun cpu => (account xdpStatsRecordAction m c).1 cpu key) nrCpus =
      addRecords (sumValues (fun cpu => m cpu key) nrCpus) (added key [c.packet]) := by
  by_cases haction : c.action.toNat < xdpActionMax
  · rw [account, sumValues_record c.cpu.isLt haction, c.setWidth_sub]
    by_cases heq : c.action.toNat = key
    · simp [addRecords, added, StatsCall.packet, heq]
    · simp [addRecords, added, StatsCall.packet, heq, Ne.symm heq]
  · have hne : c.action.toNat ≠ key := by omega
    rw [account, record_of_invalid (by omega)]
    simp [addRecords, added, StatsCall.packet, hne]

/-- A run of calls adds the shares of all of them. -/
lemma sumValues_final (m : StatsMap) (calls : List (StatsCall nrCpus)) {key : Nat}
    (hkey : key < xdpActionMax) :
    sumValues (fun cpu => final (account xdpStatsRecordAction) m calls cpu key) nrCpus =
      addRecords (sumValues (fun cpu => m cpu key) nrCpus) (added key (calls.map StatsCall.packet)) := by
  induction calls generalizing m with
  | nil => simp [final, added, addRecords]
  | cons c cs ih =>
    rw [final, ih, sumValues_account m c hkey, addRecords_assoc, List.map_cons,
      added_cons key c.packet (cs.map StatsCall.packet)]

lemma account_progKern :
    (account XdpProgKern.xdpStatsRecordAction : StatsMap → StatsCall nrCpus → StatsMap × BitVec 32) =
      account xdpStatsRecordAction := by
  funext m c
  have hbytes : c.ctx.dataEnd.setWidth 64 - c.ctx.data.setWidth 64 =
      (c.ctx.dataEnd - c.ctx.data).setWidth 64 := by
    have hle := BitVec.le_def.mp c.ordered
    have hend := c.ctx.dataEnd.isLt
    rw [c.setWidth_sub]
    apply BitVec.eq_of_toNat_eq
    simp only [BitVec.toNat_sub, BitVec.toNat_setWidth, BitVec.toNat_ofNat, StatsCall.bytes]
    omega
  simp only [account, XdpProgKern.xdpStatsRecordAction, xdpStatsRecordAction, hbytes]

end Runs

lemma accountsExactly_record : AccountsExactly xdpStatsRecordAction := by
  intro nrCpus m calls
  refine ⟨?_, ?_, ?_⟩
  · intro key hkey value value'
    simp only [mapGetValuePercpuArray_read _ nrCpus hkey, sumValues_final m calls hkey, addRecords]
    have hthose : (calls.map StatsCall.packet).filter (fun c => c.1.toNat = key) =
        (calls.filter (fun c => c.action.toNat = key)).map StatsCall.packet := by
      rw [List.filter_map]
      rfl
    have hcancel (x y : BitVec 64) : x + y - x = y := by rw [BitVec.add_comm, BitVec.add_sub_cancel]
    simp only [hcancel, added, hthose, List.length_map, List.map_map]
    exact ⟨trivial, rfl⟩
  · intro u hu
    rw [eq_transition_of_mem_run _ hu]
    constructor
    · intro hinvalid
      have hrec := record_of_invalid hinvalid u.input.cpu u.input.ctx u.pre
      exact ⟨congrArg Prod.fst hrec, congrArg Prod.snd hrec⟩
    · intro hvalid
      exact record_returns hvalid u.input.cpu u.input.ctx u.pre
  · intro calls' hperm key hkey value value'
    simp only [mapGetValuePercpuArray_read _ nrCpus hkey, sumValues_final m _ hkey, added_perm key hperm]

/-- Both versions of the accounting call lose and duplicate nothing. -/
theorem accounting_exact :
    AccountsExactly xdpStatsRecordAction ∧ AccountsExactly XdpProgKern.xdpStatsRecordAction := by
  refine ⟨accountsExactly_record, ?_⟩
  intro nrCpus m calls
  rw [account_progKern]
  exact accountsExactly_record nrCpus m calls

end SyncookieXdp.Proofs
