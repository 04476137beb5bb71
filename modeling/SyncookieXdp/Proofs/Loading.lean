import SyncookieXdp.Proofs.Descriptors

/-!
# What is loaded

If an object file is loaded, its maps are those of the file, and under the descriptor of each of
its programs the kernel has instructions that run as the file says.
-/

namespace SyncookieXdp.ObjectFile
open Lib

/-! ### Calls stay recorded -/

section

variable (host : Host)

lemma appends_createMap (name : Option CString) (definition : BpfMapDef) :
    Appends (bpfCreateMapXattr host name definition) := .call

lemma appends_loadProgramXattr (type : Nat) (name : Option CString) (insns : List BpfInsn) (logBuf : Bool)
    (logBufSz : Nat) : Appends (bpfLoadProgramXattr host type name insns logBuf logBufSz) := by
  unfold bpfLoadProgramXattr
  split
  · exact .done _
  · exact .call

lemma appends_zcloseMap (map : BpfMap) : Appends (zcloseMap map) := by
  have hclose : Appends (zclose map.fd) := by
    unfold zclose
    split
    · exact Appends.call.bind (fun _ => .done _)
    · exact .done _
  exact hclose.bind (fun _ => .done _)

lemma appends_createMapsFrom (capsName : Bool) (done maps : List BpfMap) :
    Appends (createMapsFrom host capsName done maps) := by
  induction maps generalizing done with
  | nil => exact .done _
  | cons map maps ih =>
    unfold createMapsFrom
    by_cases h : map.fd ≥ 0
    · rw [if_pos h]
      exact ih _
    · rw [if_neg h]
      refine (appends_createMap host _ _).bind (fun fd => ?_)
      by_cases hfd : fd < 0
      · simp only [if_pos hfd]
        exact (Appends.each appends_zcloseMap done).bind (fun _ => .done _)
      · simp only [if_neg hfd]
        exact ih _

lemma appends_loadProgram (name : Option CString) (insns : List BpfInsn) : Appends (loadProgram host name insns) := by
  unfold loadProgram
  split
  · exact .done _
  refine Appends.call.bind (fun logBuf => (appends_loadProgramXattr host _ _ _ _ _).bind ?_)
  rintro ⟨ret, logged⟩
  dsimp only
  split
  · exact .done _
  split
  · exact .done _
  split
  · exact .done _
  refine (appends_loadProgramXattr host _ _ _ _ _).bind ?_
  rintro ⟨fd, _⟩
  dsimp only
  split
  · exact Appends.call.bind (fun _ => .done _)
  · exact .done _

lemma appends_programLoad (capsName : Bool) {prog : BpfProgram} (h : prog.fds = []) :
    Appends (bpfProgramLoad host capsName prog) := by
  unfold bpfProgramLoad
  simp only [h, if_true]
  refine Appends.call.bind (fun granted => ?_)
  cases granted with
  | false => exact .done _
  | true =>
    refine (appends_loadProgram host _ _).bind (fun r => ?_)
    cases r with
    | error err => exact .done _
    | ok fd => exact .done _

lemma appends_loadProgsFrom (obj : BpfObject) (done : List BpfProgram) {progs : List BpfProgram}
    (h : ∀ prog ∈ progs, prog.fds = []) : Appends (loadProgsFrom host obj done progs) := by
  induction progs generalizing done with
  | nil => exact .done _
  | cons prog progs ih =>
    rw [List.forall_mem_cons] at h
    unfold loadProgsFrom
    split
    · exact ih _ h.2
    · refine (appends_programLoad host _ h.1).bind ?_
      rintro ⟨err, prog'⟩
      dsimp only
      split
      · exact .done _
      · exact ih _ h.2

end

/-! ### Maps -/

/-- A map of the file and the same map with the descriptor that the kernel gave for its definition. -/
structure MadeFrom (capsName : Bool) (calls : List Call) (map map' : BpfMap) : Prop where
  same : map' = { map with fd := map'.fd }
  isOpen : 0 ≤ map'.fd
  made : .mapCreate (if capsName then some map.name else none) map.definition map'.fd ∈ calls

lemma MadeFrom.later {capsName : Bool} {calls calls' : List Call} {map map' : BpfMap}
    (h : MadeFrom capsName calls map map') (hcalls : calls <+: calls') : MadeFrom capsName calls' map map' :=
  ⟨h.same, h.isOpen, hcalls.subset h.made⟩

lemma offsets_of_made {capsName : Bool} {calls : List Call} {maps maps' : List BpfMap}
    (h : List.Forall₂ (MadeFrom capsName calls) maps maps') :
    maps'.map BpfMap.offset = maps.map BpfMap.offset := by
  induction h with
  | nil => rfl
  | cons hmap _ ih => rw [List.map_cons, List.map_cons, ih, hmap.same]

/-! ### Programs -/

/-- A program after relocation and what has become of it. -/
def LoadedAs (obj : BpfObject) (calls : List Call) (prog prog' : BpfProgram) : Prop :=
  if bpfProgramIsFunctionStorage obj prog then prog' = prog
  else
    ∃ fd, 0 ≤ fd ∧ prog' = { prog with fds := [fd], insns := [] } ∧
      .progLoad bpfProgTypeXdp (if obj.capsName then some prog.name else none) prog.insns fd ∈ calls

section

variable (host : Host)

lemma ensures_createMapsFrom (capsName : Bool) (done : List BpfMap) {maps : List BpfMap}
    (h : ∀ map ∈ maps, map.fd = -1) :
    Ensures (fun _ => True) (createMapsFrom host capsName done maps) (fun r calls =>
      r.1 = 0 → ∃ created, r.2 = done ++ created ∧ List.Forall₂ (MadeFrom capsName calls) maps created) := by
  induction maps generalizing done with
  | nil => exact .done (fun _ _ _ => ⟨[], (List.append_nil _).symm, .nil⟩)
  | cons map maps ih =>
    rw [List.forall_mem_cons] at h
    have hnone : ¬map.fd ≥ 0 := by omega
    unfold createMapsFrom
    rw [if_neg hnone]
    have hcall : Ensures (fun _ => True)
        (bpfCreateMapXattr host (if capsName then some map.name else none) map.definition)
        (fun fd calls => .mapCreate (if capsName then some map.name else none) map.definition fd ∈ calls) :=
      .call (fun _ _ => by simp)
    refine hcall.bind (fun fd => ?_)
    by_cases hfd : fd < 0
    · simp only [if_pos hfd]
      intro calls _ herr
      have hneg : fd = 0 := herr
      omega
    · simp only [if_neg hfd]
      have htail := (ih (done ++ [{ map with fd := fd }]) h.2).and_later
        (fun _ _ hcalls (hmem : Call.mapCreate (if capsName then some map.name else none) map.definition fd ∈ _) =>
          hcalls.subset hmem) (appends_createMapsFrom host capsName _ maps)
      refine htail.imp (fun _ h => ⟨h, trivial⟩) ?_
      rintro r calls ⟨hmem, hr⟩ herr
      obtain ⟨created, hcreated, hall⟩ := hr herr
      refine ⟨{ map with fd := fd } :: created,
        by rw [hcreated, List.append_assoc, List.singleton_append], .cons ?_ hall⟩
      exact ⟨rfl, Int.not_lt.mp hfd, hmem⟩

/-- A descriptor is one of an XDP program with these instructions. -/
def Gives (name : Option CString) (insns : List BpfInsn) (calls : List Call) : Except Int Int → Prop
  | .ok fd => 0 ≤ fd ∧ .progLoad bpfProgTypeXdp name insns fd ∈ calls
  | .error err => err ≠ 0

lemma ensures_loadProgramXattr (type : Nat) (name : Option CString) (insns : List BpfInsn) (logBuf : Bool)
    (logBufSz : Nat) :
    Ensures (fun _ => True) (bpfLoadProgramXattr host type name insns logBuf logBufSz) (fun answer calls =>
      answer.1 ≥ 0 → .progLoad type name insns answer.1 ∈ calls) := by
  unfold bpfLoadProgramXattr
  split
  · exact .done (fun _ _ h => absurd h (by decide))
  · exact .call (fun _ _ _ => by simp)

lemma ensures_loadProgram (name : Option CString) (insns : List BpfInsn) :
    Ensures (fun _ => True) (loadProgram host name insns) (fun r calls => Gives name insns calls r) := by
  unfold loadProgram
  by_cases h : insns = []
  · rw [if_pos h]
    exact .done (fun _ _ => (by decide : errInval ≠ 0))
  rw [if_neg h]
  refine (Ensures.any _).bind (fun logBuf => (ensures_loadProgramXattr host _ _ _ _ _).bind (fun first => ?_))
  by_cases hfirst : first.1 ≥ 0
  · simp only [if_pos hfirst]
    exact .done (fun calls hmem => ⟨hfirst, hmem hfirst⟩)
  simp only [if_neg hfirst]
  split
  · exact .done (fun _ _ => (by decide : -libbpfErrnoVerify ≠ 0))
  split
  · exact .done (fun _ _ => (by decide : -libbpfErrnoProg2big ≠ 0))
  refine ((ensures_loadProgramXattr host _ _ _ _ _).imp (fun _ _ => trivial) (fun _ _ h => h)).bind (fun second => ?_)
  by_cases hsecond : second.1 ≥ 0
  · simp only [if_pos hsecond]
    exact (Ensures.any _).bind (fun _ => .done (fun _ _ => (by decide : -libbpfErrnoProgtype ≠ 0)))
  · simp only [if_neg hsecond]
    refine .done (fun _ _ => ?_)
    cases logBuf with
    | false => exact (by decide : -libbpfErrnoLoad ≠ 0)
    | true => exact (by decide : -libbpfErrnoKver ≠ 0)

lemma ensures_programLoad {prog : BpfProgram} (h : prog.fds = []) (capsName : Bool) :
    Ensures (fun _ => True) (bpfProgramLoad host capsName prog) (fun r calls => r.1 = 0 →
      ∃ fd, 0 ≤ fd ∧ r.2 = { prog with fds := [fd], insns := [] } ∧
        .progLoad bpfProgTypeXdp (if capsName then some prog.name else none) prog.insns fd ∈ calls) := by
  unfold bpfProgramLoad
  simp only [h, if_true]
  refine (Ensures.any _).bind (fun granted => ?_)
  cases granted with
  | false => exact .done (fun _ _ herr => absurd herr (by decide : errNoMemory ≠ 0))
  | true =>
    refine (ensures_loadProgram host _ _).bind (fun r => ?_)
    cases r with
    | error err => exact .done (fun _ hne herr => absurd herr hne)
    | ok fd => exact .done (fun _ hfd _ => ⟨fd, hfd.1, rfl, hfd.2⟩)

lemma ensures_loadProgsFrom (obj : BpfObject) (done : List BpfProgram) {progs : List BpfProgram}
    (h : ∀ prog ∈ progs, prog.fds = []) :
    Ensures (fun _ => True) (loadProgsFrom host obj done progs) (fun r calls => r.1 = 0 →
      ∃ loaded, r.2 = done ++ loaded ∧ List.Forall₂ (LoadedAs obj calls) progs loaded) := by
  induction progs generalizing done with
  | nil => exact .done (fun _ _ _ => ⟨[], (List.append_nil _).symm, .nil⟩)
  | cons prog progs ih =>
    rw [List.forall_mem_cons] at h
    unfold loadProgsFrom
    by_cases hstorage : bpfProgramIsFunctionStorage obj prog = true
    · rw [if_pos hstorage]
      refine (ih (done ++ [prog]) h.2).imp (fun _ h => h) (fun r calls hr herr => ?_)
      obtain ⟨loaded, hloaded, hall⟩ := hr herr
      refine ⟨prog :: loaded, by rw [hloaded, List.append_assoc, List.singleton_append], .cons ?_ hall⟩
      rw [LoadedAs, if_pos hstorage]
    · rw [if_neg hstorage]
      refine (ensures_programLoad host h.1 obj.capsName).bind ?_
      rintro ⟨err, prog'⟩
      by_cases herr : err ≠ 0
      · simp only [if_pos herr]
        exact .done (fun _ _ h => absurd h herr)
      · simp only [if_neg herr]
        intro calls hprog
        obtain ⟨fd, hfd, rfl, hmem⟩ := hprog (not_not.mp herr)
        intro hzero
        obtain ⟨loaded, hloaded, hall⟩ := ih (done ++ [{ prog with fds := [fd], insns := [] }]) h.2 calls trivial hzero
        refine ⟨{ prog with fds := [fd], insns := [] } :: loaded,
          by rw [hloaded, List.append_assoc, List.singleton_append], .cons ?_ hall⟩
        rw [LoadedAs, if_neg hstorage]
        exact ⟨fd, hfd, rfl, (appends_loadProgsFrom host obj _ h.2 calls).subset hmem⟩

/-! ### Objects -/

/-- How an object that has been opened comes to be loaded. -/
def LoadedFrom (obj obj' : BpfObject) (calls : List Call) : Prop :=
  ∃ objm objr, objm = { obj with maps := objm.maps, capsName := objm.capsName } ∧
    List.Forall₂ (MadeFrom objm.capsName calls) obj.maps objm.maps ∧ bpfObjectRelocate objm = .ok objr ∧
    List.Forall₂ (LoadedAs objr calls) objr.programs obj'.programs ∧ obj' = { objr with programs := obj'.programs }

lemma ensures_createMaps {obj : BpfObject} (h : ∀ map ∈ obj.maps, map.fd = -1) :
    Ensures (fun _ => True) (bpfObjectCreateMaps host obj) (fun r calls => r.2 = { obj with maps := r.2.maps } ∧
      (r.1 = 0 → List.Forall₂ (MadeFrom obj.capsName calls) obj.maps r.2.maps)) := by
  refine (ensures_createMapsFrom host obj.capsName [] h).bind (fun r => .done (fun calls hr => ⟨rfl, ?_⟩))
  intro herr
  obtain ⟨created, hcreated, hall⟩ := hr herr
  rw [List.nil_append] at hcreated
  exact hcreated ▸ hall

lemma ensures_loadProgs {obj : BpfObject} (h : ∀ prog ∈ obj.programs, prog.fds = []) :
    Ensures (fun _ => True) (bpfObjectLoadProgs host obj) (fun r calls => r.2 = { obj with programs := r.2.programs } ∧
      (r.1 = 0 → List.Forall₂ (LoadedAs obj calls) obj.programs r.2.programs)) := by
  refine (ensures_loadProgsFrom host obj [] h).bind (fun r => .done (fun calls hr => ⟨rfl, ?_⟩))
  intro herr
  obtain ⟨loaded, hloaded, hall⟩ := hr herr
  rw [List.nil_append] at hloaded
  exact hloaded ▸ hall

lemma appends_loadProgs {obj : BpfObject} (h : ∀ prog ∈ obj.programs, prog.fds = []) :
    Appends (bpfObjectLoadProgs host obj) :=
  (appends_loadProgsFrom host obj [] h).bind (fun _ => .done _)

lemma ensures_loadSteps {obj : BpfObject} (h : Ready obj) (hmaps : ∀ map ∈ obj.maps, map.fd = -1) :
    Ensures (fun _ => True) (loadSteps host obj) (fun r calls => r.1 = none → LoadedFrom obj r.2 calls) := by
  unfold loadSteps
  refine Ensures.bind (returns_probeName host obj) ?_
  rintro ⟨err, obj₁⟩
  refine .assume (fun _ h => h) ?_
  rintro ⟨caps, rfl⟩
  by_cases herr : err ≠ 0
  · simp only [if_pos herr]
    exact .done (fun _ _ h => by cases h)
  simp only [if_neg herr]
  have hmake : Ensures _ (bpfObjectCreateMaps host { obj with capsName := caps }) _ := ensures_createMaps host hmaps
  refine (hmake.imp (fun _ _ => trivial) (fun _ _ h => h)).bind ?_
  rintro ⟨err, objm⟩
  by_cases herr : err ≠ 0
  · simp only [if_pos herr]
    exact .done (fun _ _ h => by cases h)
  simp only [if_neg herr]
  refine .assume (φ := Ready objm ∧ objm = { obj with maps := objm.maps, capsName := caps }) ?_ ?_
  · rintro calls ⟨hobjm, hcreated⟩
    refine ⟨h.of_same ?_ (hcreated (not_not.mp herr)).length_eq.symm, hobjm⟩
    rw [hobjm]
  rintro ⟨hready, hobjm⟩
  cases hrel : bpfObjectRelocate objm with
  | error err => exact .done (fun _ _ h => by cases h)
  | ok objr =>
    have hfds := ((objectRelocate_meets hready).result hrel).1.fds
    have hload := (ensures_loadProgs host hfds).and_later
      (fun _ _ hcalls (hall : List.Forall₂ (MadeFrom caps _) obj.maps objm.maps) =>
        hall.imp (fun _ _ hmap => hmap.later hcalls)) (appends_loadProgs host hfds)
    refine (hload.imp (fun calls hpre => ⟨hpre.2 (not_not.mp herr), trivial⟩) (fun _ _ h => h)).bind ?_
    rintro ⟨err, obj'⟩
    refine .done ?_
    rintro calls ⟨hcreated, hobj', hloaded⟩ hnone
    have hzero : err = 0 := by
      by_contra hne
      rw [if_pos hne] at hnone
      cases hnone
    have hcaps : objm.capsName = caps := by rw [hobjm]
    exact ⟨objm, objr, hcaps ▸ hobjm, hcaps ▸ hcreated, hrel, hloaded hzero, hobj'⟩

lemma ensures_objectLoad {obj : BpfObject} (h : Ready obj) (hmaps : ∀ map ∈ obj.maps, map.fd = -1) :
    Ensures (fun _ => True) (bpfObjectLoad host obj) (fun r calls =>
      r.1 = none → LoadedFrom { obj with loaded := true } r.2 calls) := by
  unfold bpfObjectLoad
  by_cases hloaded : obj.loaded = true
  · simp only [if_pos hloaded]
    exact .done (fun _ _ h => by cases h)
  simp only [if_neg hloaded]
  have hready : Ready { obj with loaded := true } := h.of_same rfl rfl
  refine (ensures_loadSteps host hready hmaps).bind ?_
  rintro ⟨err, obj'⟩
  match err with
  | some (.errno _) => exact (Ensures.any _).bind (fun _ => .done (fun _ _ h => by cases h))
  | some .fault => exact .done (fun _ _ h => by cases h)
  | none => exact .done (fun _ hfrom _ => hfrom rfl)

/-- An object that has been opened is the one that has been read, with the BTF that the kernel
has taken. -/
lemma returns_open_any (elf : Elf) : Returns (bpfObjectOpen host ⟨some elf⟩) (fun r => ∀ obj, r = .ok obj →
    ∃ obj₀ btf, openElf elf = .ok obj₀ ∧ obj = { obj₀ with btf := btf }) := by
  unfold bpfObjectOpen
  refine (Returns.any _).bind (fun fd _ => ?_)
  by_cases h : fd < 0
  · simp only [if_pos h]
    exact .done (fun obj hobj => by cases hobj)
  simp only [if_neg h]
  refine (Returns.any _).bind (fun r _ => ?_)
  cases r with
  | error e => exact .done (fun obj hobj => by cases hobj)
  | ok btf =>
    refine (Returns.any _).bind (fun _ _ => ?_)
    cases openElf elf with
    | error e => exact (Returns.any _).bind (fun _ _ => .done (fun obj hobj => by cases hobj))
    | ok obj₀ =>
      refine .done (fun obj hobj => ?_)
      cases hobj
      exact ⟨obj₀, btf, rfl, rfl⟩

/-- A file that is loaded has been opened, and its object has been loaded. -/
lemma ensures_progLoadXattr (elf : Elf) :
    Ensures (fun _ => True) (bpfProgLoadXattr host ⟨some elf⟩) (fun r calls => ∀ obj' fd, r = .ok (obj', fd) →
      ∃ obj btf, openElf elf = .ok obj ∧ LoadedFrom { obj with loaded := true, btf := btf } obj' calls) := by
  unfold bpfProgLoadXattr
  refine Ensures.bind (returns_open_any host elf) (fun r => ?_)
  refine .assume (fun _ h => h) (fun hr => ?_)
  match r with
  | .error .fault => exact .done (fun _ _ obj' fd h => by cases h)
  | .error (.errno code) => exact .done (fun _ _ obj' fd h => by cases h)
  | .ok obj =>
    obtain ⟨obj₀, btf, helf, hobj⟩ := hr obj rfl
    have hready : Ready obj := ((ready_openElf elf).result helf).1.of_same (by rw [hobj]) (by rw [hobj])
    have hmaps : ∀ map ∈ obj.maps, map.fd = -1 := by
      have hread := (maps_openElf elf).result helf
      rwa [hobj]
    dsimp only
    by_cases hfirst : (firstProg obj).isNone = true
    · rw [if_pos hfirst]
      exact (Ensures.any _).bind (fun _ => .done (fun _ _ obj' fd h => by cases h))
    · rw [if_neg hfirst]
      refine ((ensures_objectLoad host hready hmaps).imp (fun _ _ => trivial) (fun _ _ h => h)).bind ?_
      rintro ⟨err, obj'⟩
      match err with
      | some .fault => exact .done (fun _ _ obj' fd h => by cases h)
      | some (.errno _) => exact (Ensures.any _).bind (fun _ => .done (fun _ _ obj' fd h => by cases h))
      | none =>
        refine .done (fun calls hfrom obj'' fd h => ?_)
        cases h
        refine ⟨obj₀, btf, helf, ?_⟩
        rw [hobj] at hfrom
        exact hfrom rfl

end

/-! ### Runs -/

lemma given_of_load {obj' : BpfObject} {calls : List Call} {k : Nat} {prog progr : BpfProgram} {objr : BpfObject}
    (hloaded : List.Forall₂ (LoadedAs objr calls) objr.programs obj'.programs)
    (hobj' : obj' = { objr with programs := obj'.programs }) (hprogr : objr.programs[k]? = some progr)
    (hidx : progr.idx = prog.idx) (hstorage : bpfProgramIsFunctionStorage obj' prog = false) :
    ∃ loaded progFd name, obj'.programs[k]? = some loaded ∧ loaded.fds = [progFd] ∧
      .progLoad bpfProgTypeXdp name progr.insns progFd ∈ calls := by
  obtain ⟨loaded, hat, hbecome⟩ := getElem?_of_forall₂ hloaded hprogr
  have hnot : bpfProgramIsFunctionStorage objr progr = false := by
    rw [hobj'] at hstorage
    rw [bpfProgramIsFunctionStorage] at hstorage ⊢
    rw [hidx]
    exact hstorage
  rw [LoadedAs, hnot, if_neg Bool.false_ne_true] at hbecome
  obtain ⟨progFd, -, rfl, hmem⟩ := hbecome
  exact ⟨_, progFd, _, hat, rfl, hmem⟩

section Runs

variable {host : Host} {elf : Elf} {obj : BpfObject} {sections : List RelSection} {obj' : BpfObject} {fd : Int}
  {calls : List Call} (hread : readElf elf = .ok (obj, sections)) (hinfo : (sections.map RelSection.info).Nodup)
  (hsmall : ∀ p ∈ obj.programs, ∀ q ∈ obj.programs, p.insns.length + q.insns.length ≤ 2 ^ 32)
  (hload : (bpfProgLoadXattr host ⟨some elf⟩).run [] = (.ok (obj', fd), calls))
include hread hload

lemma opened_of_load :
    ∃ obj₁ objm objr, bpfObjectCollectReloc obj sections = .ok obj₁ ∧ Equipped obj₁ objm ∧
      List.Forall₂ (MadeFrom objm.capsName calls) obj.maps objm.maps ∧ bpfObjectRelocate objm = .ok objr ∧
      List.Forall₂ (LoadedAs objr calls) objr.programs obj'.programs ∧
      obj' = { objr with programs := obj'.programs } ∧ objr.maps = objm.maps := by
  have hends := ensures_progLoadXattr host elf [] trivial
  rw [hload] at hends
  obtain ⟨obj₁, btf, hopen, objm, objr, hobjm, hcreated, hrel, hloaded, hobj'⟩ := hends obj' fd rfl
  rw [openElf, hread] at hopen
  have hcollect : bpfObjectCollectReloc obj sections = .ok obj₁ := hopen
  have hmaps := ((ready_collectReloc ((fresh_readElf elf).result hread).ready sections).result hcollect).2.1
  have hmade : List.Forall₂ (MadeFrom objm.capsName calls) obj₁.maps objm.maps := hcreated
  refine ⟨obj₁, objm, objr, hcollect, ⟨?_, ?_, offsets_of_made hmade⟩, hmaps ▸ hmade, hrel, hloaded, hobj',
    (relocate_parts hrel).1⟩
  · rw [hobjm]
  · rw [hobjm]

include hinfo hsmall

omit hload in
lemma compiled_of_read : Compiled obj sections := by
  have hfresh := (fresh_readElf elf).result hread
  exact ⟨hfresh.idx, hinfo, fun prog hprog => ⟨(hfresh.programs prog hprog).1, (hfresh.programs prog hprog).2.1⟩, hsmall⟩

/-- The offset of the function that a symbol names is not used, so the kernel gets a call that
leads there only if the function is the first one of `.text`. -/
theorem call_lands_iff {k : Nat} {prog : BpfProgram} (hprog : obj.programs[k]? = some prog)
    (hstorage : bpfProgramIsFunctionStorage obj' prog = false) {i : BitVec 32} {insn : BpfInsn}
    (hinsn : prog.insns[i.toNat]? = some insn) (hcode : insn.code = bpfCall) {rel : ElfRel} {sym : ElfSym}
    (hrel : (codeOf obj sections prog .main).relsAt i.toNat = [rel]) (hsym : rel.sym = some sym) :
    ∃ loaded progFd name insns given, obj'.programs[k]? = some loaded ∧ loaded.fds = [progFd] ∧
      .progLoad bpfProgTypeXdp name insns progFd ∈ calls ∧ insns[i.toNat]? = some given ∧
      (Meaning.own (· + ·) i given =
          .callTo (Place.loadedAt prog.insns.length ⟨.text, namedIndex sym insn⟩) ↔
        BitVec.ofNat 32 (sym.value.toNat / 8) = 0) := by
  obtain ⟨obj₁, objm, objr, hcollect, hequipped, -, hrelocate, hloaded, hobj', -⟩ := opened_of_load hread hload
  have hc := compiled_of_read hread hinfo hsmall
  obtain ⟨progr, descs, hprogr, -, hpatched, -⟩ := loaded_program hc hcollect hequipped hrelocate hprog
  obtain ⟨given, hgiven, hlands⟩ :=
    target_of_relocated hc hcollect hequipped hrelocate hprog hprogr hinsn hcode hrel hsym
  obtain ⟨loaded, progFd, name, hat, hfds, hmem⟩ := given_of_load hloaded hobj' hprogr hpatched.idx hstorage
  exact ⟨loaded, progFd, name, progr.insns, given, hat, hfds, hmem, hgiven, hlands⟩

end Runs

/-! ### One file -/

/-- Adds up the constants and the descriptors. -/
def addingIsa : Isa Nat where
  exec insn s := if insn.code = 0x95 then some (.exit s) else some (.next (s + insn.imm.toNat))
  loadMap _ fd s := s + fd.toNat

def smallDef : BpfMapDef := ⟨6, 4, 8, 5, 0⟩

def smallObject : BpfObject where
  programs := [⟨textScn, 2, textScn, [⟨0x07, 0, 0, 0, 5⟩, ⟨0x95, 0, 0, 0, 0⟩], 0, [], []⟩,
    ⟨xdpScn, 3, xdpScn, [⟨0x18, 1, 0, 0, 0⟩, ⟨0, 0, 0, 0, 0⟩, ⟨0x85, 0, 1, 0, 0xffffffff⟩, ⟨0x95, 0, 0, 0, 0⟩],
      0, [], []⟩]
  maps := [⟨statsMapName, 0, smallDef, -1⟩]
  loaded := false
  hasPseudoCalls := false
  mapsShndx := 5
  textShndx := 2
  capsName := false
  btf := none

def smallSymbols : List (Option ElfSym) :=
  [some ⟨5, 0, true, 0⟩, some ⟨3, 0, true, 1⟩, some ⟨2, 0, false, 2⟩, some ⟨7, 0, true, 3⟩]

def smallRelocations (rels : List (Option GElfRel)) : List RelSection :=
  [relSectionOf smallSymbols (⟨.rel, false, 16, 6, 3⟩, rels)]

/-- The constant is the map and the call goes to the function. -/
def mapAndCall : List (Option GElfRel) := [some ⟨0, 0⟩, some ⟨16, 2⟩]

def smallEfile (rels : List (Option GElfRel)) : Efile :=
  ⟨some smallSymbols, 1, [(⟨.rel, false, 16, 6, 3⟩, rels)]⟩

lemma noNul_nil : ∀ b ∈ ([] : List Byte), b ≠ 0 := by simp

def smallSections : BpfObject :=
  { smallObject with
    programs := smallObject.programs.map (fun prog => { prog with name := ⟨[], noNul_nil⟩ })
    maps := [] }

lemma small_collect (debug : Bool) (rels : List (Option GElfRel)) :
    collectScns (smallElf debug rels) 1 (newObject, ⟨none, 0, []⟩) (smallElf debug rels).scns =
      .ok (smallSections, smallEfile rels) := by
  cases debug <;> rfl

lemma small_maps (debug : Bool) (rels : List (Option GElfRel)) :
    bpfObjectInitMaps (smallElf debug rels) (smallEfile rels) smallSections =
      .ok { smallSections with maps := smallObject.maps } := by
  have hsorted : bpfObjectInitMaps (smallElf debug rels) (smallEfile rels) smallSections =
      .ok { smallSections with maps := smallObject.maps.mergeSort (fun a b => compareBpfMap a b ≤ 0) } := by
    cases debug <;> rfl
  rw [hsorted, smallObject, List.mergeSort_singleton]

lemma small_elfCollect (debug : Bool) (rels : List (Option GElfRel)) :
    bpfObjectElfCollect (smallElf debug rels) = .ok (smallObject, smallEfile rels) := by
  have hnames : bpfObjectElfCollect (smallElf debug rels) =
      (bpfObjectInitMaps (smallElf debug rels) (smallEfile rels) smallSections >>= fun obj => do
        let obj ← bpfObjectInitProgNames (smallElf debug rels) (smallEfile rels) obj
        return (obj, smallEfile rels)) := by
    unfold bpfObjectElfCollect
    rw [small_collect]
    cases debug <;> rfl
  rw [hnames, small_maps]
  rfl

lemma small_read (debug : Bool) (rels : List (Option GElfRel)) :
    readElf (smallElf debug rels) = .ok (smallObject, smallRelocations rels) := by
  unfold readElf
  rw [small_elfCollect]
  rfl

def smallCollected : BpfObject :=
  { smallObject with
    programs := smallObject.programs.modify 1 (fun prog => { prog with relocDesc := [.ld64 0 0, .call 2 0] })
    hasPseudoCalls := true }

def smallLoaded : BpfObject :=
  { smallCollected with
    loaded := true
    capsName := true
    programs := smallObject.programs.modify 1 (fun prog =>
      { prog with insns := [], mainProgCnt := 4, fds := [9] })
    maps := [⟨statsMapName, 0, smallDef, 6⟩] }

def smallInsns : List BpfInsn :=
  [⟨0x18, 1, 1, 0, 6⟩, ⟨0, 0, 0, 0, 0⟩, ⟨0x85, 0, 1, 0, 1⟩, ⟨0x95, 0, 0, 0, 0⟩, ⟨0x07, 0, 0, 0, 5⟩, ⟨0x95, 0, 0, 0, 0⟩]

lemma noNul_test : ∀ b ∈ CString.ascii "test", b ≠ 0 := by decide

def smallCalls : List Call :=
  let probe : List BpfInsn := [⟨0xb7, 0, 0, 0, 0⟩, ⟨0x95, 0, 0, 0, 0⟩]
  [.openFile 0, .close 0, .progLoad bpfProgTypeSocketFilter none probe 2, .close 2,
    .progLoad bpfProgTypeSocketFilter (some ⟨CString.ascii "test", noNul_test⟩) probe 4, .close 4,
    .mapCreate (some statsMapName) smallDef 6, .malloc true, .malloc true,
    .progLoad bpfProgTypeXdp (some xdpScn) smallInsns 9]

lemma small_open : openElf (smallElf false mapAndCall) = .ok smallCollected := by
  rw [openElf, small_read]
  rfl

lemma small_load :
    (bpfProgLoadXattr grantingHost ⟨some (smallElf false mapAndCall)⟩).run [] = (.ok (smallLoaded, 9), smallCalls) := by
  have hopen : (bpfObjectOpen grantingHost ⟨some (smallElf false mapAndCall)⟩).run [] =
      (.ok smallCollected, [.openFile 0, .close 0]) := by
    rw [run_open_some grantingHost (small_noBtf mapAndCall), small_open]
    rfl
  unfold bpfProgLoadXattr
  rw [StateT.run_bind, hopen]
  rfl

lemma small_through : ThroughSection smallObject ((relsOf (smallRelocations mapAndCall) 3).filterMap id) := by
  intro rel hrel sym hsym htext
  have hrels : rel ∈ [⟨0, some ⟨5, 0, true, 0⟩⟩, (⟨16, some ⟨2, 0, false, 2⟩⟩ : ElfRel)] := hrel
  rw [List.mem_pair] at hrels
  rcases hrels with rfl | rfl
  · cases hsym
    exact absurd htext (by decide)
  · cases hsym
    rfl

theorem call_lands_iff_small : ∃ name insns given, .progLoad bpfProgTypeXdp name insns 9 ∈ smallCalls ∧
    insns[2]? = some given ∧ Meaning.own (· + ·) 2 given = .callTo (4 : BitVec 32) := by
  obtain ⟨loaded, progFd, name, insns, given, hloaded, hfds, hmem, hgiven, hlands⟩ :=
    call_lands_iff (small_read false mapAndCall) (by decide) (by decide) small_load (k := 1) rfl rfl (i := 2) rfl rfl rfl rfl
  cases hloaded
  cases hfds
  exact ⟨name, insns, given, hmem, hgiven, hlands.mpr rfl⟩

end SyncookieXdp.ObjectFile
