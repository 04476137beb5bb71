import SyncookieXdp.Proofs.Confirmation
import SyncookieXdp.Proofs.SynFlood

/-!
# Tracked connections along a run

The table only grows in what it answers. So a connection that is passed once is passed for
ever, a full table admits nobody else, and packets that store nothing could as well not have
come.
-/

namespace SyncookieXdp.Proofs
open Lib

section Filter

variable {T : Type} (M : BpfMap T)

/-- The connection of the packet is in the table. -/
def Tracked (maps : Maps T) (p : Packet) : Prop :=
  (M.lookup maps.connectionsTable (connectionAt p.frame).bytes).isSome

/-- Only an accepted ACK touches the table. -/
lemma table_filter_eq (maps : Maps T) (p : Packet) :
    (filter M maps p).1.connectionsTable =
      if Dispatched p.frame ∧ branchAt M maps.connectionsTable p.frame = .ack then
        (M.update maps.connectionsTable p.stack.keyAtParameter insert).1
      else maps.connectionsTable := by
  by_cases hd : Dispatched p.frame
  · rw [filter_dispatched M maps p hd, control_table, branchOf]
    cases hb : branchAt M maps.connectionsTable p.frame <;> simp [hd, tableAfter]
  · rw [filter_ignored M maps p hd]
    simp [hd]

/-- What every successful update keeps is kept by every packet. -/
lemma table_filter_keeps {Q : T → Prop}
    (hupdate : ∀ t k, (M.update t k insert).2 = 0 → Q t → Q (M.update t k insert).1) (maps : Maps T)
    (p : Packet) (h : Q maps.connectionsTable) : Q (filter M maps p).1.connectionsTable := by
  rw [table_filter_eq]
  split
  · by_cases hok : (M.update maps.connectionsTable p.stack.keyAtParameter insert).2 = 0
    · exact hupdate _ _ hok h
    · rw [M.refused _ _ _ hok]
      exact h
  · exact h

lemma filter_of_tracked {maps : Maps T} {p : Packet} (h : Tracked M maps p) :
    (filter M maps p).2.verdict = .ok .pass ∧ (filter M maps p).2.frame = p.frame ∧
      (filter M maps p).1 = maps := by
  by_cases hd : Dispatched p.frame
  · have hb : branchAt M maps.connectionsTable p.frame = .tracked := Segment.branch_eq_tracked.mpr h
    rw [filter_dispatched M maps p hd, control, invoke_controller M p.stack maps p.complete, hb]
    exact ⟨rfl, rfl, rfl⟩
  · rw [filter_ignored M maps p hd]
    exact ⟨rfl, rfl, rfl⟩

lemma tracked_of_pass {maps : Maps T} {p : Packet} (hd : Dispatched p.frame)
    (h : (filter M maps p).2.verdict = .ok .pass) : Tracked M maps p := by
  rw [filter_dispatched M maps p hd, verdict_pass_iff] at h
  exact Segment.branch_eq_tracked.mp h

end Filter

/-! ### Once passed, always passed -/

section Forever

variable {T : Type} {M : BpfMap T} {covers : Key → Key → Prop} (hM : StoresCovered M covers)
include hM

lemma isSome_lookup_filter (maps : Maps T) (p : Packet) {k : Key}
    (h : (M.lookup maps.connectionsTable k).isSome) :
    (M.lookup (filter M maps p).1.connectionsTable k).isSome := by
  refine table_filter_keeps M (Q := fun t => (M.lookup t k).isSome) ?_ maps p h
  intro t k' hok hfound
  exact (hM.stores t k' insert hok k).mpr (.inr hfound)

/-- After one packet of a connection has been passed by the controller, every later packet of
that connection is passed as it came, and changes nothing. -/
theorem passed_for_ever (maps : Maps T) (ps : List Packet)
    (earlier between later : List (Transition (Maps T) Packet Outcome))
    (u v : Transition (Maps T) Packet Outcome)
    (hrun : run (filter M) maps ps = (earlier ++ u :: between) ++ v :: later)
    (hcall : CallsController u.out) (hpass : u.out.verdict = .ok .pass)
    (hsame : connectionAt u.input.frame = connectionAt v.input.frame) :
    v.out.verdict = .ok .pass ∧ v.out.frame = v.input.frame ∧ v.post = v.pre := by
  have hu : u = transition (filter M) u.pre u.input :=
    eq_transition_of_mem_run (filter M) (by rw [hrun]; simp)
  have hv : v = transition (filter M) v.pre v.input :=
    eq_transition_of_mem_run (filter M) (by rw [hrun]; simp)
  rw [hu] at hcall hpass
  have hd : Dispatched u.input.frame := (callsController_iff M u.input.stack u.pre _).mp hcall
  have htracked : Tracked M u.pre u.input := tracked_of_pass M hd hpass
  rw [Tracked, hsame] at htracked
  have hlater := pre_of_later (filter M)
    (Q := fun maps => (M.lookup maps.connectionsTable (connectionAt v.input.frame).bytes).isSome)
    (fun maps p => isSome_lookup_filter hM maps p) hrun htracked
  rw [hv]
  exact filter_of_tracked M hlater

end Forever

/-- The client of 10.0.0.1 has been validated. -/
def webMaps : Maps (CoverTable Key Byte maxEntries) :=
  final (filter exactTable) emptyMaps [webSyn, webCookieAck luckyStack]

theorem passed_for_ever_web :
    (transition (filter exactTable) (filter exactTable webMaps webData).1 webData).out.verdict =
      .ok .pass :=
  (passed_for_ever storesCovered_exactTable webMaps [webData, webData] [] [] []
    (transition (filter exactTable) webMaps webData)
    (transition (filter exactTable) (filter exactTable webMaps webData).1 webData)
    rfl (by decide +kernel) (by decide +kernel)
    (show connectionAt webData.frame = connectionAt webData.frame from rfl)).1

/-! ### Packets that store nothing -/

/-- Leave out any packets that were not valid ACKs when they were processed: the others meet the
same maps, get the same verdicts and the same answers, and the run ends in the same maps. -/
theorem replay_without_others {T : Type} (M : BpfMap T) (maps : Maps T) (ps : List Packet)
    (keep : Transition (Maps T) Packet Outcome → Bool)
    (hkeep : ∀ u ∈ run (filter M) maps ps, ValidAck M u → keep u = true) :
    let kept := (run (filter M) maps ps).filter keep
    run (filter M) maps (kept.map Transition.input) = kept ∧
      final (filter M) maps (kept.map Transition.input) = final (filter M) maps ps := by
  apply run_kept
  intro u hu hdropped
  have hnot : ¬ValidAck M u := by
    intro hvalid
    rw [hkeep u hu hvalid] at hdropped
    cases hdropped
  rw [eq_transition_of_mem_run (filter M) hu] at hnot ⊢
  exact maps_of_not_validAck M u.pre u.input hnot

def webExchange : List Packet := [webSyn, webCookieAck luckyStack, webData]

/-- Of the three packets only the ACK has to be replayed. -/
theorem replay_without_others_web :
    let kept := (run (filter exactTable) emptyMaps webExchange).filter
      (fun u => decide (ValidAck exactTable u))
    kept.length = 1 ∧
      final (filter exactTable) emptyMaps (kept.map Transition.input) =
        final (filter exactTable) emptyMaps webExchange :=
  ⟨by decide +kernel, (replay_without_others exactTable emptyMaps webExchange
    (fun u => decide (ValidAck exactTable u)) (fun _ _ h => decide_eq_true h)).2⟩

/-! ### A full table -/

section Full

variable {κ : Type} {M : BpfMap (CoverTable κ Byte maxEntries)} {R : κ → κ → Prop} [DecidableRel R]
  {rank : κ → Nat} {key : Key → κ} (hM : StoresIn M R rank key)
include hM

lemma distinct_filter (maps : Maps (CoverTable κ Byte maxEntries)) (p : Packet)
    (h : maps.connectionsTable.Distinct R) : (filter M maps p).1.connectionsTable.Distinct R :=
  table_filter_keeps M (fun t k hok ht => CoverTable.Distinct.store R ht (hM.update t k insert hok)) maps p h

/-- Every table that a run builds has distinct entries. -/
theorem distinct_final (ps : List Packet) :
    (final (filter M) emptyMaps ps).connectionsTable.Distinct R :=
  final_keeps (filter M) (fun maps p _ h => distinct_filter hM maps p h) (fun _ _ => trivial)
    (CoverTable.distinct_empty R)

variable (htrans : ∀ a b c, R a b → R b c → R a c)
include htrans

/-- The table is full, has no two entries of one key and answers the same keys as `t₀`. -/
def FullLike (R : κ → κ → Prop) [DecidableRel R] (rank : κ → Nat) (t₀ t : CoverTable κ Byte maxEntries) :
    Prop :=
  t.Distinct R ∧ t.size = maxEntries ∧ ∀ k, (t.find R rank k).isSome ↔ (t₀.find R rank k).isSome

lemma fullLike_filter {t₀ : CoverTable κ Byte maxEntries} (maps : Maps (CoverTable κ Byte maxEntries))
    (p : Packet) (h : FullLike R rank t₀ maps.connectionsTable) :
    FullLike R rank t₀ (filter M maps p).1.connectionsTable := by
  refine table_filter_keeps M ?_ maps p h
  rintro t k hok ⟨hdistinct, hfull, hsame⟩
  have hstore := hM.update t k insert hok
  obtain ⟨hsize, hfind⟩ := CoverTable.store_of_full R rank htrans hdistinct hfull hstore
  exact ⟨CoverTable.Distinct.store R hdistinct hstore, hsize, fun k' => (hfind k').trans (hsame k')⟩

end Full

/-- Once the trie is full, a packet is passed exactly if its connection was tracked at that
moment: no ACK that is accepted afterwards lets anyone else in. -/
theorem full_table_admits_nobody (maps : Maps (CoverTable (Prefix 64) Byte maxEntries))
    (hdistinct : maps.connectionsTable.Distinct Prefix.Covers)
    (hfull : maps.connectionsTable.size = maxEntries) (ps : List Packet) :
    ∀ u ∈ run (filter lpmTrie) maps ps, CallsController u.out →
      (u.out.verdict = .ok .pass ↔ Tracked lpmTrie maps u.input) := by
  intro u hu hcall
  have hpre : FullLike Prefix.Covers Prefix.len maps.connectionsTable u.pre.connectionsTable :=
    pre_invariant (filter lpmTrie) (fun m p h => fullLike_filter storesIn_lpmTrie Prefix.covers_trans m p h)
      ⟨hdistinct, hfull, fun _ => Iff.rfl⟩ hu
  have htracked : Tracked lpmTrie maps u.input ↔ Tracked lpmTrie u.pre u.input := (hpre.2.2 _).symm
  rw [eq_transition_of_mem_run (filter lpmTrie) hu] at hcall
  have hd : Dispatched u.input.frame := (callsController_iff lpmTrie u.input.stack u.pre _).mp hcall
  rw [htracked, eq_transition_of_mem_run (filter lpmTrie) hu]
  exact ⟨tracked_of_pass lpmTrie hd, fun h => (filter_of_tracked lpmTrie h).1⟩

/-- A trie with a thousand prefixes of full length. -/
def fullTrie : Maps (CoverTable (Prefix 64) Byte maxEntries) :=
  ⟨⟨(List.range maxEntries).map (fun i => (⟨64, BitVec.ofNat 64 i⟩, insert)), by simp⟩, fun _ _ => ⟨0, 0⟩⟩

lemma distinct_fullTrie : fullTrie.connectionsTable.Distinct Prefix.Covers := by
  rw [CoverTable.Distinct, fullTrie, List.pairwise_map, List.pairwise_iff_getElem]
  intro i j hi hj hij hcovers
  simp only [List.getElem_range, List.length_range] at hcovers hi hj
  have hdata : BitVec.ofNat 64 i = BitVec.ofNat 64 j := BitVec.eq_of_getMsbD_eq hcovers.1.2
  have heq := congrArg BitVec.toNat hdata
  simp only [BitVec.toNat_ofNat, maxEntries] at heq hi hj
  omega

lemma callsController_of_dispatched {T : Type} (M : BpfMap T) (maps : Maps T) {p : Packet}
    (h : Dispatched p.frame) : CallsController (transition (filter M) maps p).out :=
  (callsController_iff M p.stack maps p.frame).mpr h

lemma lookup_fullTrie {k : Key} (hk : maxEntries ≤ (lpmKey k).data.toNat) :
    lpmTrie.lookup fullTrie.connectionsTable k = none := by
  rw [← Option.not_isSome_iff_eq_none, storesIn_lpmTrie.lookup, CoverTable.isSome_find]
  rintro ⟨e, he, hcovers⟩
  simp only [fullTrie, List.mem_map, List.mem_range] at he
  obtain ⟨i, hi, rfl⟩ := he
  have hdata : BitVec.ofNat 64 i = (lpmKey k).data := BitVec.eq_of_getMsbD_eq hcovers.2
  rw [← hdata, BitVec.toNat_ofNat] at hk
  have hle := Nat.mod_le i (2 ^ 64)
  omega

/-- The key is a prefix of length zero, which covers every connection. -/
def lavishStack : StackImage := ⟨0, 0⟩

/-- The ACK is accepted and confirmed, and yet the data that follows is not passed. -/
theorem full_table_admits_nobody_web :
    (filter lpmTrie fullTrie (webCookieAck lavishStack)).2.verdict = .ok .tx ∧
      (filter lpmTrie (filter lpmTrie fullTrie (webCookieAck lavishStack)).1 webData).2.verdict ≠ .ok .pass := by
  have hall : ∀ maps : Maps (CoverTable (Prefix 64) Byte maxEntries),
      maps.connectionsTable.Distinct Prefix.Covers → maps.connectionsTable.size = maxEntries →
      lpmTrie.lookup maps.connectionsTable (connectionAt webData.frame).bytes = none →
      (filter lpmTrie maps (webCookieAck lavishStack)).2.verdict = .ok .tx ∧
        (filter lpmTrie (filter lpmTrie maps (webCookieAck lavishStack)).1 webData).2.verdict ≠ .ok .pass := by
    intro maps hdistinct hfull hmiss
    constructor
    · rw [filter_dispatched lpmTrie maps _ (by decide +kernel), control_verdict,
        branchOf_of_miss lpmTrie maps (webCookieAck lavishStack) hmiss]
      decide
    · intro hpass
      have htracked := (full_table_admits_nobody maps hdistinct hfull [webCookieAck lavishStack, webData]
        (transition (filter lpmTrie) (filter lpmTrie maps (webCookieAck lavishStack)).1 webData)
        (List.mem_cons_of_mem _ (List.mem_singleton_self _))
        (callsController_of_dispatched lpmTrie _ (by decide +kernel))).mp hpass
      exact absurd htracked (by simpa [Tracked, Transition.input, transition] using hmiss)
  exact hall fullTrie distinct_fullTrie (by simp [CoverTable.size, fullTrie]) (lookup_fullTrie (by decide))

/-! ### The table as declared -/

lemma le32_octets (x : BitVec 64) :
    le32 (octet x 0) (octet x 1) (octet x 2) (octet x 3) = x.setWidth 32 := by
  apply BitVec.eq_of_getLsbD_eq
  intro i hi
  simp only [getLsbD_le32, getLsbD_le16, getLsbD_octet, BitVec.getLsbD_setWidth]
  split
  · split
    · simp [*]
    · simp [hi, show i - 8 < 8 by omega, show 8 + (i - 8) = i by omega]
  · split
    · simp [hi, show i - 16 < 8 by omega, show 16 + (i - 16) = i by omega]
    · simp [hi, show i - 16 - 8 < 8 by omega, show 24 + (i - 16 - 8) = i by omega]

lemma lpmKey_keyAtParameter_len (s : StackImage) :
    (lpmKey s.keyAtParameter).len = (s.connection.setWidth 32).toNat := by
  rw [← le32_octets]
  rfl

lemma filter_lpmTrie_of_high_stack (maps : Maps (CoverTable (Prefix 64) Byte maxEntries)) (p : Packet)
    (h : 64 < (p.stack.connection.setWidth 32).toNat) : (filter lpmTrie maps p).1 = maps := by
  have hrefused : (lpmTrie.update maps.connectionsTable p.stack.keyAtParameter insert).1 =
      maps.connectionsTable := by
    rw [lpmTrie_update, if_pos (by rw [lpmKey_keyAtParameter_len]; exact h)]
  by_cases hd : Dispatched p.frame
  · rw [filter_dispatched lpmTrie maps p hd, control, invoke_controller lpmTrie p.stack maps p.complete]
    cases branchAt lpmTrie maps.connectionsTable p.frame with
    | ack =>
      change Maps.mk _ _ = maps
      rw [tableAfter, hrefused]
    | _ => rfl
  · rw [filter_ignored lpmTrie maps p hd]

/-- With the map as it is declared and a stack whose addresses are above 64 in their lower half,
no connection is ever entered, and nothing the controller sees is ever passed. -/
theorem declared_table_stays_empty (ps : List Packet)
    (hstack : ∀ p ∈ ps, 64 < (p.stack.connection.setWidth 32).toNat) :
    final (filter lpmTrie) emptyMaps ps = emptyMaps ∧
      ∀ u ∈ run (filter lpmTrie) emptyMaps ps, CallsController u.out → u.out.verdict ≠ .ok .pass := by
  have hidle : ∀ u ∈ run (filter lpmTrie) emptyMaps ps, u.post = u.pre := by
    intro u hu
    rw [eq_transition_of_mem_run (filter lpmTrie) hu]
    exact filter_lpmTrie_of_high_stack u.pre u.input (hstack _ (input_mem_of_mem_run _ hu))
  refine ⟨final_eq_of_post_eq_pre (filter lpmTrie) hidle, ?_⟩
  intro u hu hcall hpass
  have hpre := pre_eq_of_post_eq_pre (filter lpmTrie) hidle hu
  rw [eq_transition_of_mem_run (filter lpmTrie) hu, hpre] at hcall hpass
  have hd : Dispatched u.input.frame := (callsController_iff lpmTrie u.input.stack emptyMaps _).mp hcall
  have htracked := tracked_of_pass lpmTrie hd hpass
  cases htracked

theorem declared_table_stays_empty_web :
    final (filter lpmTrie) emptyMaps [webCookieAck kernelStack] = emptyMaps :=
  (declared_table_stays_empty [webCookieAck kernelStack] (by
    intro p hp
    rw [List.mem_singleton.mp hp]
    decide)).1

end SyncookieXdp.Proofs
