import SyncookieXdp.Proofs.Lifecycle
import SyncookieXdp.Proofs.Loading

/-!
# Files that are not loaded

An object is read exactly if each of its relocations refers to a map or is a call of a function.
Any other reference keeps the maps and the programs of the file away from the kernel, and some files
crash the loader.
-/

namespace SyncookieXdp.ObjectFile
open Lib

/-! ### References -/

/-- A relocation that libbpf can keep: it refers to a map, or from a call to the functions of
`.text`. -/
def Resolves (obj : BpfObject) (insns : List BpfInsn) (entry : Option ElfRel) : Prop :=
  ∃ rel sym insn, entry = some rel ∧ rel.sym = some sym ∧ insns[rel.insnIdx]? = some insn ∧
    (sym.shndx = obj.mapsShndx ∨ sym.shndx = obj.textShndx) ∧
    (insn.code = bpfCall ∧ insn.srcReg = bpfPseudoCall ∨
      insn.code = bpfLdImm64 ∧ ∃ map ∈ obj.maps, map.offset = sym.value)

def insnsOf (obj : BpfObject) (idx : Int) : Option (List BpfInsn) :=
  (obj.programs.find? (fun prog => prog.idx = idx)).map BpfProgram.insns

/-- A section of relocations that are all of one program and can all be kept. -/
structure Resolved (obj : BpfObject) (sec : RelSection) : Prop where
  isRel : sec.isRel = true
  entsize : sec.entsize ≠ 0
  entries : ∃ insns, insnsOf obj sec.info = some insns ∧ ∀ entry ∈ sec.entries, Resolves obj insns entry

lemma section_of_collectOne {obj : BpfObject} {prog : BpfProgram} {rel : ElfRel} {sym : ElfSym} {d : RelocDesc}
    (h : collectOne obj prog (some rel) = .ok d) (hsym : rel.sym = some sym) :
    sym.shndx = obj.mapsShndx ∨ sym.shndx = obj.textShndx := by
  rw [collectOne] at h
  simp only [hsym] at h
  by_cases hforeign : sym.shndx ≠ obj.mapsShndx ∧ sym.shndx ≠ obj.textShndx
  · rw [if_pos hforeign] at h
    cases h
  · tauto

lemma collectOne_ok_iff {obj : BpfObject} {prog : BpfProgram} {entry : Option ElfRel} :
    (∃ d, collectOne obj prog entry = .ok d) ↔ Resolves obj prog.insns entry := by
  constructor
  · rintro ⟨d, h⟩
    cases entry with
    | none => cases h
    | some rel =>
      obtain ⟨sym, insn, hsym, hinsn, hkind⟩ := collectOne_ok h
      refine ⟨rel, sym, insn, rfl, hsym, hinsn, section_of_collectOne h hsym, ?_⟩
      rcases hkind with ⟨hcode, hsrc, -⟩ | ⟨hcode, mapIdx, hfind, -⟩
      · exact .inl ⟨hcode, hsrc⟩
      · obtain ⟨hlt, hoffset, -⟩ := List.findIdx?_eq_some_iff_getElem.mp hfind
        exact .inr ⟨hcode, _, List.getElem_mem hlt, of_decide_eq_true hoffset⟩
  · rintro ⟨rel, sym, insn, rfl, hsym, hinsn, hsec, hkind⟩
    have hnear : ¬(sym.shndx ≠ obj.mapsShndx ∧ sym.shndx ≠ obj.textShndx) := by tauto
    rw [collectOne]
    simp only [hsym, hinsn, if_neg hnear]
    rcases hkind with ⟨hcode, hsrc⟩ | ⟨hcode, map, hmap, hoffset⟩
    · rw [if_pos hcode, if_neg (not_not.mpr hsrc)]
      exact ⟨_, rfl⟩
    · rw [if_neg (by rw [hcode]; decide), if_neg (not_not.mpr hcode)]
      cases hfind : obj.maps.findIdx? (fun map => map.offset = sym.value) with
      | none => exact absurd (decide_eq_true hoffset) (by simp [List.findIdx?_eq_none_iff.mp hfind map hmap])
      | some mapIdx => exact ⟨_, rfl⟩

/-! ### Sections -/

def codeOfProgram (prog : BpfProgram) : Int × List BpfInsn := (prog.idx, prog.insns)

lemma insnsOf_eq (obj : BpfObject) (idx : Int) :
    insnsOf obj idx = ((obj.programs.map codeOfProgram).find? (fun c => c.1 = idx)).map Prod.snd := by
  rw [List.find?_map, Option.map_map]
  rfl

lemma insnsOf_of_find {obj : BpfObject} {idx : Int} {k : Nat} {prog : BpfProgram}
    (hfind : bpfObjectFindProgByIdx obj idx = some k) (hprog : obj.programs[k]? = some prog) :
    insnsOf obj idx = some prog.insns := by
  have hk : obj.programs.findIdx? (fun prog => prog.idx = idx) = some k := hfind
  rw [insnsOf, List.find?_eq_bind_findIdx?_getElem?, hk, Option.bind_some, hprog, Option.map_some]

lemma collectSection_ok_iff {obj : BpfObject} {sec : RelSection} :
    (∃ obj', collectSection obj sec = .ok obj') ↔ Resolved obj sec := by
  constructor
  · rintro ⟨obj', h⟩
    obtain ⟨hrel, hsize, k, prog, descs, hfind, hprog, hdescs, -⟩ := collectSection_cases h
    refine ⟨hrel, hsize, prog.insns, insnsOf_of_find hfind hprog, fun entry hentry => ?_⟩
    exact collectOne_ok_iff.mp (mapM_ok_iff.mp ⟨descs, hdescs⟩ entry hentry)
  · rintro ⟨hrel, hsize, insns, hinsns, hall⟩
    rw [insnsOf, List.find?_eq_bind_findIdx?_getElem?, Option.map_eq_some_iff] at hinsns
    obtain ⟨prog, hbind, rfl⟩ := hinsns
    obtain ⟨k, hk, hprog⟩ := Option.bind_eq_some_iff.mp hbind
    obtain ⟨descs, hdescs⟩ := mapM_ok_iff.mpr (fun entry hentry => collectOne_ok_iff.mpr (hall entry hentry))
    have hfind : bpfObjectFindProgByIdx obj sec.info = some k := hk
    rw [collectSection, hrel, Bool.not_true, if_neg Bool.false_ne_true, hfind]
    simp only [hprog, if_neg hsize, bpfProgramCollectReloc, hdescs]
    exact ⟨_, rfl⟩

lemma insnsOf_of_collected {obj obj' : BpfObject} {sec : RelSection} (h : collectSection obj sec = .ok obj')
    (idx : Int) : insnsOf obj' idx = insnsOf obj idx := by
  obtain ⟨-, k, prog, descs, hprog, -, -, hset⟩ := collectSection_ok h
  have hself : (obj.programs.map codeOfProgram).set k (codeOfProgram prog) = obj.programs.map codeOfProgram := by
    obtain ⟨hlt, rfl⟩ := List.getElem?_eq_some_iff.mp hprog
    have hlt' : k < (obj.programs.map codeOfProgram).length := by simpa using hlt
    have hget : codeOfProgram obj.programs[k] = (obj.programs.map codeOfProgram)[k] := by simp
    rw [hget, List.set_getElem_self]
  rw [insnsOf_eq, insnsOf_eq, hset, List.map_set]
  exact congrArg (fun l => (l.find? (fun c => c.1 = idx)).map Prod.snd) hself

lemma resolves_congr {obj obj' : BpfObject} (h : SameCode obj obj') (insns : List BpfInsn) (entry : Option ElfRel) :
    Resolves obj' insns entry ↔ Resolves obj insns entry := by
  rw [Resolves, Resolves, h.maps, h.mapsShndx, h.textShndx]

lemma resolved_of_collected {obj obj' : BpfObject} {sec : RelSection} (h : collectSection obj sec = .ok obj')
    (sec' : RelSection) : Resolved obj' sec' ↔ Resolved obj sec' := by
  have hsame := (collectSection_ok h).1
  constructor
  · rintro ⟨hrel, hsize, insns, hinsns, hall⟩
    exact ⟨hrel, hsize, insns, insnsOf_of_collected h _ ▸ hinsns,
      fun entry hentry => (resolves_congr hsame insns entry).mp (hall entry hentry)⟩
  · rintro ⟨hrel, hsize, insns, hinsns, hall⟩
    exact ⟨hrel, hsize, insns, (insnsOf_of_collected h _).trans hinsns,
      fun entry hentry => (resolves_congr hsame insns entry).mpr (hall entry hentry)⟩

lemma opens_iff {elf : Elf} {obj : BpfObject} {sections : List RelSection}
    (hread : readElf elf = .ok (obj, sections)) :
    (∃ obj', openElf elf = .ok obj') ↔ ∀ sec ∈ sections, Resolved obj sec := by
  have hkeep : ∀ obj sec obj', collectSection obj sec = .ok obj' → ∀ sec', Resolved obj' sec' ↔ Resolved obj sec' :=
    fun _ _ _ h => resolved_of_collected h
  rw [openElf, hread]
  exact foldlM_ok_iff (fun _ _ => collectSection_ok_iff) hkeep

/-! ### Failures -/

/-- A fault only under a condition, and else a code that the caller recognises. -/
def Fails (outside : Prop) : Failure → Prop
  | .fault => outside
  | .errno code => isErrOrNull code = true

lemma Fails.imp {outside outside' : Prop} (h : outside → outside') {e : Failure} (he : Fails outside e) :
    Fails outside' e := by
  cases e with
  | fault => exact h he
  | errno code => exact he

/-- The condition covers every way in which something ends in a fault. -/
abbrev MayFail {α : Type} (outside : Prop) (x : Except Failure α) : Prop := Meets (fun _ => True) (Fails outside) x

lemma mayFail_errno {α : Type} {outside : Prop} {code : Int} (h : isErrOrNull code = true) :
    MayFail (α := α) outside (.error (.errno code)) := h

lemma MayFail.weaken {α : Type} {outside outside' : Prop} {x : Except Failure α} (hx : MayFail outside x)
    (h : outside → outside') : MayFail outside' x := hx.imp (fun _ _ => trivial) (fun _ he => he.imp h)

lemma mayFail_mapM {α β : Type} {outside : Prop} {f : α → Except Failure β} {as : List α}
    (hf : ∀ a ∈ as, MayFail outside (f a)) : MayFail outside (as.mapM f) :=
  (Meets.each (R := fun _ => True) hf).imp (fun _ _ => trivial) (fun _ h => h)

lemma mayFail_collectOne (obj : BpfObject) (prog : BpfProgram) (entry : Option ElfRel) :
    MayFail (∃ rel, entry = some rel ∧ prog.insns.length ≤ rel.insnIdx) (collectOne obj prog entry) := by
  unfold collectOne
  split
  · exact mayFail_errno rfl
  next rel =>
    split
    · exact mayFail_errno rfl
    split
    · exact mayFail_errno rfl
    split
    next hnone => exact ⟨rel, rfl, List.getElem?_eq_none_iff.mp hnone⟩
    split
    · split
      · exact mayFail_errno rfl
      · trivial
    split
    · exact mayFail_errno rfl
    split
    · exact mayFail_errno rfl
    · trivial

/-- The relocations lie in the program and have a size. libbpf does not look. -/
def Inside (obj : BpfObject) (sec : RelSection) : Prop :=
  sec.entsize ≠ 0 ∧ ∀ insns, insnsOf obj sec.info = some insns →
    ∀ rel, some rel ∈ sec.entries → rel.insnIdx < insns.length

lemma mayFail_collectSection (obj : BpfObject) (sec : RelSection) :
    MayFail (¬Inside obj sec) (collectSection obj sec) := by
  unfold collectSection
  split
  · exact mayFail_errno rfl
  split
  · exact mayFail_errno rfl
  next k hfind =>
    split
    next hnone =>
      have hlt := (List.findIdx?_eq_some_iff_getElem.mp hfind).1
      have hge := List.getElem?_eq_none_iff.mp hnone
      omega
    next prog hprog =>
      split
      next hsize => exact fun h => h.1 hsize
      have hinsns := insnsOf_of_find hfind hprog
      have hone : ∀ entry ∈ sec.entries, MayFail (¬Inside obj sec) (collectOne obj prog entry) := by
        intro entry hentry
        refine (mayFail_collectOne obj prog entry).weaken ?_
        rintro ⟨rel, rfl, hge⟩ h
        have hlt := h.2 prog.insns hinsns rel hentry
        omega
      have hprog : MayFail (¬Inside obj sec) (bpfProgramCollectReloc obj prog sec.entries) :=
        Meets.bind (mayFail_mapM hone) (fun _ _ => trivial)
      exact hprog.bind (fun _ _ => trivial)

lemma inside_of_collected {obj obj' : BpfObject} {sec : RelSection} (h : collectSection obj sec = .ok obj')
    (sec' : RelSection) : Inside obj' sec' ↔ Inside obj sec' := by
  rw [Inside, Inside, insnsOf_of_collected h]

lemma mayFail_collectReloc (obj : BpfObject) (sections : List RelSection) :
    MayFail (∃ sec ∈ sections, ¬Inside obj sec) (bpfObjectCollectReloc obj sections) := by
  have hstep : ∀ obj', (∀ sec, Inside obj' sec ↔ Inside obj sec) → ∀ sec ∈ sections,
      Meets (fun obj₁ => ∀ sec, Inside obj₁ sec ↔ Inside obj sec) (Fails (∃ sec ∈ sections, ¬Inside obj sec))
        (collectSection obj' sec) := by
    intro obj' hsame sec hsec
    cases hcollect : collectSection obj' sec with
    | ok obj₁ => exact fun sec' => (inside_of_collected hcollect sec').trans (hsame sec')
    | error e =>
      refine ((mayFail_collectSection obj' sec).failure hcollect).imp (fun h => ?_)
      exact ⟨sec, hsec, fun hinside => h ((hsame sec).mpr hinside)⟩
  exact (Meets.loop hstep (fun _ => Iff.rfl)).imp (fun _ _ => trivial) (fun _ h => h)

/-! ### Refused files -/

/-- The calls that opening takes: the file is opened and closed, and so is its BTF. -/
def Call.ofOpening : Call → Bool
  | .openFile _ | .btfLoad _ | .malloc _ | .close _ => true
  | _ => false

abbrev OnlyOpens {α : Type} (x : LoadM α) : Prop :=
  Ensures (fun calls => ∀ call ∈ calls, Call.ofOpening call = true) x
    (fun _ calls => ∀ call ∈ calls, Call.ofOpening call = true)

lemma onlyOpens_record {α : Type} {answer : List Call → α} {call : α → Call} (h : ∀ a, (call a).ofOpening = true) :
    OnlyOpens (record answer call) := by
  refine .call (fun calls hcalls => ?_)
  rw [List.forall_mem_append]
  exact ⟨hcalls, by simp [h]⟩

lemma onlyOpens_done {α : Type} (a : α) : OnlyOpens (pure a) := .done (fun _ h => h)

/-- Nothing of the BTF lies outside of its section, so that it can be read. -/
def Elf.BtfInside (elf : Elf) : Prop :=
  ∀ scn ∈ elf.scns, ∀ data ∈ scn.data, (scn.name = some btfElfSec → btfNew data ≠ .error .fault) ∧
    (scn.name = some btfExtElfSec → btfExtNew data ≠ .error .fault)

section Open

variable (host : Host) {elf : Elf}

lemma onlyOpens_btfLoad : OnlyOpens (btfLoad host) := by
  unfold btfLoad
  refine (onlyOpens_record (fun _ => rfl)).bind (fun logBuf => ?_)
  cases logBuf with
  | false => exact onlyOpens_done none
  | true =>
    refine (?_ : OnlyOpens (bpfLoadBtf host)).bind (fun fd => onlyOpens_done _)
    unfold bpfLoadBtf
    refine (onlyOpens_record (fun _ => rfl)).bind (fun fd => ?_)
    split
    · exact onlyOpens_record (fun _ => rfl)
    · exact onlyOpens_done fd

lemma onlyOpens_collectBtf (btf : Option Int) (scn : Scn) : OnlyOpens (collectBtf host btf scn) := by
  unfold collectBtf
  split
  · split
    · exact (onlyOpens_btfLoad host).bind (fun _ => onlyOpens_done _)
    · exact onlyOpens_done _
    · exact onlyOpens_done _
  · exact onlyOpens_done _

lemma onlyOpens_collectBtfs (elf : Elf) (idx : Nat) (st : BpfObject × Efile) (btf : Option Int) (scns : List Scn) :
    OnlyOpens (collectBtfs host elf idx st btf scns) := by
  induction scns generalizing idx st btf with
  | nil => exact onlyOpens_done _
  | cons scn scns ih =>
    rw [collectBtfs]
    cases collectScn elf idx st scn with
    | error e => exact onlyOpens_done _
    | ok st' =>
      refine (onlyOpens_collectBtf host btf scn).bind (fun r => ?_)
      cases r with
      | error e => exact onlyOpens_done _
      | ok btf' => exact ih (idx + 1) st' btf'

lemma onlyOpens_readBtf (elf : Elf) : OnlyOpens (readBtf host elf) := by
  unfold readBtf
  split
  · exact onlyOpens_done _
  split
  · exact onlyOpens_collectBtfs host elf 1 _ none elf.scns
  · exact onlyOpens_done _

lemma onlyOpens_close (fd : Int) : OnlyOpens (close fd) := onlyOpens_record (fun _ => rfl)

lemma onlyOpens_open (elf : Elf) : OnlyOpens (bpfObjectOpen host ⟨some elf⟩) := by
  unfold bpfObjectOpen
  refine (onlyOpens_record (fun _ => rfl)).bind (fun fd => ?_)
  by_cases h : fd < 0
  · simp only [if_pos h]
    exact onlyOpens_done _
  simp only [if_neg h]
  refine (onlyOpens_readBtf host elf).bind (fun r => ?_)
  cases r with
  | error e => exact onlyOpens_done _
  | ok btf =>
    refine (onlyOpens_close fd).bind (fun _ => ?_)
    cases openElf elf with
    | ok obj => exact onlyOpens_done _
    | error e =>
      refine (?_ : OnlyOpens (btfFree btf)).bind (fun _ => onlyOpens_done _)
      cases btf with
      | none => exact onlyOpens_done ()
      | some fd => exact onlyOpens_close fd

variable (hbtf : elf.BtfInside)
include hbtf

lemma checkBtfExt_ok (efile : Efile) (btf : Option Int) : checkBtfExt elf efile btf = .ok () := by
  unfold checkBtfExt
  split
  · rfl
  split
  · rfl
  next data hdata =>
    obtain ⟨scn, hlast, hscn⟩ := Option.bind_eq_some_iff.mp hdata
    have hmem := List.mem_filter.mp (List.mem_of_getLast? hlast)
    have hne := (hbtf scn hmem.1 data hscn).2 (of_decide_eq_true hmem.2)
    split
    next hfault => exact absurd hfault hne
    next => rfl

lemma returns_collectBtf {scn : Scn} (hscn : scn ∈ elf.scns) (btf : Option Int) :
    Returns (collectBtf host btf scn) (fun r => ∃ btf, r = .ok btf) := by
  unfold collectBtf
  split
  next hname =>
    split
    · exact (Returns.any _).bind (fun btf _ => .done ⟨btf, rfl⟩)
    next hfault =>
      obtain ⟨data, hdata, hnew⟩ := Option.map_eq_some_iff.mp hfault
      exact absurd hnew ((hbtf scn hscn data hdata).1 hname)
    · exact .done ⟨none, rfl⟩
  · exact .done ⟨btf, rfl⟩

lemma returns_collectBtfs (idx : Nat) (st : BpfObject × Efile) (btf : Option Int) {scns : List Scn}
    (hscns : scns ⊆ elf.scns) :
    Returns (collectBtfs host elf idx st btf scns) (fun r => ∃ btf, r = .ok btf) := by
  induction scns generalizing idx st btf with
  | nil =>
    rw [collectBtfs, checkBtfExt_ok hbtf]
    exact .done ⟨btf, rfl⟩
  | cons scn scns ih =>
    rw [List.cons_subset] at hscns
    rw [collectBtfs]
    cases collectScn elf idx st scn with
    | error e => exact .done ⟨btf, rfl⟩
    | ok st' =>
      refine (returns_collectBtf host hbtf hscns.1 btf).bind ?_
      rintro _ ⟨btf', rfl⟩
      exact ih (idx + 1) st' btf' hscns.2

lemma returns_readBtf : Returns (readBtf host elf) (fun r => ∃ btf, r = .ok btf) := by
  unfold readBtf
  split
  · exact .done ⟨none, rfl⟩
  split
  · exact returns_collectBtfs host hbtf 1 _ none (List.Subset.refl _)
  · exact .done ⟨none, rfl⟩

end Open

lemma recognised_openFile {fd : Int} (hbound : -4095 ≤ fd) (h : fd < 0) : isErrOrNull fd = true := by
  rw [isErrOrNull, decide_eq_true_eq]
  omega

/-- A file that cannot be read is refused with a code that the caller recognises. -/
lemma returns_open_refused (host : Host) {elf : Elf} (hbtf : elf.BtfInside) {code : Int}
    (helf : openElf elf = .error (.errno code)) (hcode : isErrOrNull code = true) :
    Returns (bpfObjectOpen host ⟨some elf⟩) (fun r => ∃ code, r = .error (.errno code) ∧ isErrOrNull code = true) := by
  unfold bpfObjectOpen
  have hopen : Returns (record host.openFile Call.openFile) (fun fd => -4095 ≤ fd) :=
    fun calls _ => host.openFile_errno calls
  refine hopen.bind (fun fd hbound => ?_)
  by_cases h : fd < 0
  · simp only [if_pos h]
    exact .done ⟨fd, rfl, recognised_openFile hbound h⟩
  simp only [if_neg h]
  refine (returns_readBtf host hbtf).bind ?_
  rintro _ ⟨btf, rfl⟩
  simp only [helf]
  exact (Returns.any _).bind (fun _ _ => (Returns.any _).bind (fun _ _ => .done ⟨code, rfl, hcode⟩))

/-- The constant is the address of the variable. -/
def dataReference : List (Option GElfRel) := [some ⟨0, 3⟩]

lemma btfNew_btfOctets : btfNew (.octets btfOctets) = .ok () := by
  have htypes : btfParseTypeSec btfOctets 24 40 = .ok () := by
    rw [btfParseTypeSec, if_pos (by decide)]
    change btfParseTypeSec btfOctets 40 40 = .ok ()
    rw [btfParseTypeSec, if_neg (by decide)]
  exact htypes

lemma btfInside_dataReference : (smallElf true dataReference).BtfInside := by
  have hscns : ∀ scn ∈ (smallElf true dataReference).scns,
      scn.name ≠ some btfExtElfSec ∧ (scn.name = some btfElfSec → scn.data = some (.octets btfOctets)) := by
    simp only [smallElf, if_true, List.cons_append, List.nil_append, List.forall_mem_cons]
    decide
  intro scn hscn data hdata
  obtain ⟨hext, hbtf⟩ := hscns scn hscn
  refine ⟨fun hname => ?_, fun hname => absurd hname hext⟩
  rw [hbtf hname] at hdata
  cases hdata
  rw [btfNew_btfOctets]
  exact fun h => by cases h

def refusingLoader : LoaderEnv Int where
  ifNametoindex := (Proofs.sampleLoader 0).ifNametoindex
  malloc := (Proofs.sampleLoader 0).malloc
  longOptions := (Proofs.sampleLoader 0).longOptions
  link := (Proofs.sampleLoader 0).link
  bpfProgLoadXattr := loadBpfObjectFile grantingHost (fun _ => ⟨some (smallElf true dataReference)⟩)

def onInterface : Config := { loaderParams.cfg with ifindex := 2 }

def emptyMachine : Machine Int := ⟨fun _ _ => none, fun _ _ => none⟩

lemma mayFail_copy (data : ElfData) (off len : Nat) : MayFail True (data.copy off len) := by
  unfold ElfData.copy
  split
  · trivial
  split
  · split <;> trivial
  · trivial

lemma mayFail_initMap (data : ElfData) (mapDefSz : Int) (mapName : Option CString) (sym : ElfSym) :
    MayFail True (initMap data mapDefSz mapName sym) := by
  unfold initMap
  split
  · exact mayFail_errno rfl
  split
  · trivial
  · refine (mayFail_copy _ _ _).bind (fun octets _ => ?_)
    split
    · exact mayFail_errno rfl
    · trivial

lemma mayFail_initMaps (elf : Elf) (efile : Efile) (obj : BpfObject) :
    MayFail True (bpfObjectInitMaps elf efile obj) := by
  unfold bpfObjectInitMaps
  split
  · dsimp only
    split
    · trivial
    split
    · exact mayFail_errno rfl
    · exact Meets.bind (mayFail_mapM (fun sym _ => mayFail_initMap _ _ _ sym)) (fun _ _ => trivial)
  · exact mayFail_errno rfl

lemma mayFail_programName (elf : Elf) (symbols : List (Option ElfSym)) (strtabidx : Nat) (textShndx : Int)
    (prog : BpfProgram) : MayFail True (programName elf symbols strtabidx textShndx prog) := by
  unfold programName
  split
  · split
    · exact mayFail_errno rfl
    · trivial
  · split
    · trivial
    · exact mayFail_errno rfl

lemma mayFail_initProgNames (elf : Elf) (efile : Efile) (obj : BpfObject) :
    MayFail True (bpfObjectInitProgNames elf efile obj) := by
  refine Meets.bind (mayFail_mapM (fun prog _ => ?_)) (fun _ _ => trivial)
  exact (mayFail_programName elf _ _ _ prog).bind (fun _ _ => trivial)

lemma mayFail_addProgram (obj : BpfObject) (data : ElfData) (sectionName : CString) (idx : Int) :
    MayFail True (bpfObjectAddProgram obj data sectionName idx) := by
  have hinit : MayFail True (bpfProgramInit data sectionName idx) := by
    unfold bpfProgramInit
    split
    · exact mayFail_errno rfl
    · exact (mayFail_copy _ _ _).bind (fun _ _ => trivial)
  exact hinit.bind (fun _ _ => trivial)

lemma mayFail_collectScn (elf : Elf) (idx : Nat) (st : BpfObject × Efile) (scn : Scn) :
    MayFail True (collectScn elf idx st scn) := by
  unfold collectScn
  dsimp only
  split
  next sh name data _ _ _ =>
    split
    · exact (mayFail_copy _ _ _).bind (fun _ _ => trivial)
    split
    · split
      · exact mayFail_errno rfl
      · exact (mayFail_copy _ _ _).bind (fun _ _ => trivial)
    split
    · trivial
    split
    · trivial
    split
    · split
      · exact mayFail_errno rfl
      · trivial
    split
    · exact (mayFail_addProgram _ data name idx).bind (fun _ _ => trivial)
    split
    · split <;> trivial
    · trivial
  next => exact mayFail_errno rfl

lemma mayFail_collectScns (elf : Elf) (idx : Nat) (st : BpfObject × Efile) (scns : List Scn) :
    MayFail True (collectScns elf idx st scns) := by
  induction scns generalizing idx st with
  | nil => trivial
  | cons scn scns ih => exact (mayFail_collectScn elf idx st scn).bind (fun st' _ => ih (idx + 1) st')

/-- All sections can be read, and there are no strings for the symbols. -/
def NoStrtab (elf : Elf) : Prop :=
  ∃ ep st, bpfObjectElfInit elf = .ok ep ∧ bpfObjectCheckEndianness ep = .ok () ∧ elf.rawNames = true ∧
    collectScns elf 1 (newObject, ⟨none, 0, []⟩) elf.scns = .ok st ∧
    (st.2.strtabidx = 0 ∨ st.2.strtabidx ≥ elf.scns.length)

lemma elfCollect_of_noStrtab {elf : Elf} {st : BpfObject × Efile} (hraw : elf.rawNames = true)
    (hscns : collectScns elf 1 (newObject, ⟨none, 0, []⟩) elf.scns = .ok st)
    (hstr : st.2.strtabidx = 0 ∨ st.2.strtabidx ≥ elf.scns.length) :
    bpfObjectElfCollect elf = .error (.errno libbpfErrnoFormat) := by
  unfold bpfObjectElfCollect
  rw [hraw, Bool.not_true, if_neg Bool.false_ne_true, hscns]
  exact if_pos hstr

lemma mayFail_elfCollect {elf : Elf} (h : ∀ st, elf.rawNames = true →
    collectScns elf 1 (newObject, ⟨none, 0, []⟩) elf.scns = .ok st →
    ¬(st.2.strtabidx = 0 ∨ st.2.strtabidx ≥ elf.scns.length)) : MayFail True (bpfObjectElfCollect elf) := by
  unfold bpfObjectElfCollect
  by_cases hraw : elf.rawNames = true
  · rw [hraw, Bool.not_true, if_neg Bool.false_ne_true]
    cases hscns : collectScns elf 1 (newObject, ⟨none, 0, []⟩) elf.scns with
    | error e => exact (mayFail_collectScns elf 1 _ _).failure hscns
    | ok st =>
      obtain ⟨obj, efile⟩ := st
      change MayFail True (if _ then _ else _)
      rw [if_neg (h _ hraw hscns)]
      have hnames : ∀ obj, MayFail True (do
          let obj ← bpfObjectInitProgNames elf efile obj
          pure (obj, efile)) :=
        fun obj => (mayFail_initProgNames elf efile obj).bind (fun _ _ => trivial)
      split
      · exact (mayFail_initMaps elf efile obj).bind (fun obj _ => hnames obj)
      · exact hnames obj
  · rw [if_pos (by simpa using hraw)]
    exact mayFail_errno rfl

lemma open_of_noStrtab {elf : Elf} (h : NoStrtab elf) : openElf elf = .error (.errno libbpfErrnoFormat) := by
  obtain ⟨ep, st, hinit, hendian, hraw, hscns, hstr⟩ := h
  have hcollect := elfCollect_of_noStrtab hraw hscns hstr
  have hread : readElf elf = .error (.errno libbpfErrnoFormat) := by
    rw [readElf, hinit]
    dsimp only [bind, Except.bind]
    rw [hendian, hcollect]
  rw [openElf, hread]
  rfl

lemma mayFail_elfInit (elf : Elf) : MayFail True (bpfObjectElfInit elf) := by
  unfold bpfObjectElfInit
  split
  · exact mayFail_errno rfl
  split
  · exact mayFail_errno rfl
  · trivial

lemma mayFail_endianness (ep : Ehdr) : MayFail True (bpfObjectCheckEndianness ep) := by
  unfold bpfObjectCheckEndianness
  split
  · trivial
  · exact mayFail_errno rfl

/-- The code whose sign is missing is the one error that the caller does not recognise. -/
lemma mayFail_openElf {elf : Elf} (h : ¬NoStrtab elf) : MayFail True (openElf elf) := by
  refine Meets.bind (P := fun _ => True) ?_ (fun r _ => (mayFail_collectReloc r.1 r.2).weaken (fun _ => trivial))
  unfold readElf
  cases hinit : bpfObjectElfInit elf with
  | error e => exact (mayFail_elfInit elf).failure hinit
  | ok ep =>
    cases hendian : bpfObjectCheckEndianness ep with
    | error e =>
      dsimp only [bind, Except.bind]
      rw [hendian]
      exact (mayFail_endianness ep).failure hendian
    | ok _ =>
      dsimp only [bind, Except.bind]
      rw [hendian]
      exact (mayFail_elfCollect (fun st hraw hscns hstr => h ⟨ep, st, hinit, hendian, hraw, hscns, hstr⟩)).bind
        (fun _ _ => trivial)

lemma survives_of_open {host : Host} {file : ElfFile} {obj : BpfObject} {calls : List Call}
    (h : (bpfObjectOpen host file).run [] = (.ok obj, calls)) (hready : Ready obj) :
    ((bpfProgLoadXattr host file).run []).1 ≠ .error .fault := by
  unfold bpfProgLoadXattr
  rw [StateT.run_bind, h]
  refine (?_ : Returns _ (fun r : Except Failure (BpfObject × Int) => r ≠ .error .fault)) calls trivial
  dsimp only
  by_cases hfirst : (firstProg obj).isNone = true
  · rw [if_pos hfirst]
    exact (Returns.any _).bind (fun _ _ => .done (fun h => by cases h))
  · rw [if_neg hfirst]
    refine (returns_objectLoad host hready).bind ?_
    rintro ⟨err, obj'⟩ herr
    match err with
    | some .fault => exact absurd rfl herr
    | some (.errno _) => exact (Returns.any _).bind (fun _ _ => .done (fun h => by cases h))
    | none => exact .done (fun h => by cases h)

end SyncookieXdp.ObjectFile
