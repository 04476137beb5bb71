import SyncookieXdp.Lib.Folds
import SyncookieXdp.Lib.Outcome
import SyncookieXdp.Model.Loading
import SyncookieXdp.Proofs.Relocation

/-!
# Descriptors

Which descriptors a process owns while an object is loaded. Each function takes the ones its
arguments hold and leaves those of its results, and nothing else is opened or closed for good. The
main result is about files without BTF.
-/

namespace SyncookieXdp.ObjectFile
open Lib

/-! ### What is held -/

def Call.transfer : Call → Transfer Int
  | openFile fd => if fd ≥ 0 then .acquire fd else .keep
  | btfLoad fd => if fd ≥ 0 then .acquire fd else .keep
  | mapCreate _ _ fd => if fd ≥ 0 then .acquire fd else .keep
  | progLoad _ _ _ fd => if fd ≥ 0 then .acquire fd else .keep
  | malloc _ => .keep
  | close fd => .release fd

/-- What a variable for a descriptor holds. -/
def heldBy (fd : Int) : Multiset Int := if fd ≥ 0 then {fd} else 0

def heldMaps (maps : List BpfMap) : Multiset Int := (maps.map (fun map => heldBy map.fd)).sum

def BpfProgram.held (prog : BpfProgram) : Multiset Int := (prog.fds.map heldBy).sum

def heldPrograms (programs : List BpfProgram) : Multiset Int := (programs.map BpfProgram.held).sum

def heldBtf (btf : Option Int) : Multiset Int := (btf.map ({·})).getD 0

/-- The descriptors of the maps, of the programs and of BTF. -/
def BpfObject.held (obj : BpfObject) : Multiset Int :=
  heldMaps obj.maps + (heldPrograms obj.programs + heldBtf obj.btf)

@[simp] lemma heldMaps_nil : heldMaps [] = 0 := rfl

@[simp] lemma heldPrograms_nil : heldPrograms [] = 0 := rfl

lemma heldMaps_append (maps maps' : List BpfMap) : heldMaps (maps ++ maps') = heldMaps maps + heldMaps maps' := by
  rw [heldMaps, List.map_append, List.sum_append]
  rfl

lemma heldMaps_cons (map : BpfMap) (maps : List BpfMap) : heldMaps (map :: maps) = heldBy map.fd + heldMaps maps := by
  rw [heldMaps, List.map_cons, List.sum_cons]
  rfl

lemma heldPrograms_append (programs programs' : List BpfProgram) :
    heldPrograms (programs ++ programs') = heldPrograms programs + heldPrograms programs' := by
  rw [heldPrograms, List.map_append, List.sum_append]
  rfl

lemma heldPrograms_cons (prog : BpfProgram) (programs : List BpfProgram) :
    heldPrograms (prog :: programs) = prog.held + heldPrograms programs := by
  rw [heldPrograms, List.map_cons, List.sum_cons]
  rfl

lemma held_of_none {prog : BpfProgram} (h : prog.fds = []) : prog.held = 0 := by
  rw [BpfProgram.held, h]
  rfl

lemma heldPrograms_of_none {programs : List BpfProgram} (h : ∀ prog ∈ programs, prog.fds = []) :
    heldPrograms programs = 0 := by
  induction programs with
  | nil => rfl
  | cons prog programs ih =>
    rw [List.forall_mem_cons] at h
    rw [heldPrograms_cons, held_of_none h.1, ih h.2, add_zero]

lemma heldMaps_of_none {maps : List BpfMap} (h : ∀ map ∈ maps, map.fd = -1) : heldMaps maps = 0 := by
  induction maps with
  | nil => rfl
  | cons map maps ih =>
    rw [List.forall_mem_cons] at h
    rw [heldMaps_cons, h.1, ih h.2]
    rfl

/-! ### Single calls -/

lemma settle_opened (fd : Int) (rest : Multiset Int) :
    (if fd ≥ 0 then Transfer.acquire fd else .keep).settle (0 + rest) = some (heldBy fd + rest) := by
  rw [zero_add, heldBy]
  by_cases h : fd ≥ 0
  · rw [if_pos h, if_pos h, Multiset.singleton_add]
    rfl
  · rw [if_neg h, if_neg h, zero_add]
    rfl

abbrev Leaves {α : Type} (pre : Multiset Int) (x : LoadM α) (post : α → Multiset Int) : Prop :=
  Keeps Call.transfer pre x post

lemma leaves_close (fd : Int) : Leaves {fd} (close fd) (fun _ => 0) := by
  refine Keeps.call (fun _ rest => ?_)
  rw [zero_add, Multiset.singleton_add, Call.transfer, Transfer.settle, if_pos (Multiset.mem_cons_self fd rest),
    Multiset.erase_cons_head]

lemma leaves_close_of_open {fd : Int} (h : fd ≥ 0) : Leaves (heldBy fd) (close fd) (fun _ => 0) := by
  rw [heldBy, if_pos h]
  exact leaves_close fd

lemma leaves_zclose (fd : Int) : Leaves (heldBy fd) (zclose fd) (fun _ => 0) := by
  unfold zclose
  by_cases h : fd ≥ 0
  · rw [if_pos h]
    exact (leaves_close_of_open h).bind (fun _ => .done rfl)
  · rw [if_neg h, heldBy, if_neg h]
    exact .done rfl

lemma returns_zclose (fd : Int) : Returns (zclose fd) (· = -1) := by
  unfold zclose
  by_cases h : fd ≥ 0
  · rw [if_pos h]
    exact (Returns.any _).bind (fun _ _ => .done rfl)
  · rw [if_neg h]
    exact .done rfl

lemma returns_zcloseMap (map : BpfMap) : Returns (zcloseMap map) (fun map => map.fd = -1) :=
  (returns_zclose map.fd).bind (fun _ hfd => .done hfd)

lemma leaves_zcloseMap (map : BpfMap) : Leaves (heldBy map.fd) (zcloseMap map) (fun map => heldBy map.fd) := by
  have hclose : Leaves (heldBy map.fd) (zcloseMap map) (fun _ => 0) :=
    (leaves_zclose map.fd).bind (fun _ => .done rfl)
  refine hclose.of_result (fun calls _ => ?_)
  have hfd := returns_zcloseMap map calls trivial
  simp only [hfd]
  rfl

section

variable (host : Host)

lemma leaves_malloc : Leaves 0 (malloc host) (fun _ => 0) := .call (fun _ _ => rfl)

lemma leaves_createMap (name : Option CString) (definition : BpfMapDef) :
    Leaves 0 (bpfCreateMapXattr host name definition) heldBy := .call settle_opened

lemma leaves_loadProgramXattr (type : Nat) (name : Option CString) (insns : List BpfInsn) (logBuf : Bool)
    (logBufSz : Nat) :
    Leaves 0 (bpfLoadProgramXattr host type name insns logBuf logBufSz) (fun answer => heldBy answer.1) := by
  unfold bpfLoadProgramXattr
  split
  · exact .done rfl
  · exact .call (fun answer rest => settle_opened answer.1 rest)

/-! ### Maps -/

lemma heldBy_of_neg {fd : Int} (h : ¬fd ≥ 0) : heldBy fd = 0 := if_neg h

lemma leaves_probeName (obj : BpfObject) : Leaves obj.held (bpfObjectProbeName host obj) (fun r => r.2.held) := by
  unfold bpfObjectProbeName
  have hload (name : Option CString) (insns : List BpfInsn) :=
    ((leaves_loadProgramXattr host bpfProgTypeSocketFilter name insns false 0).frame obj.held).of_eq
      (zero_add _).symm (fun _ => rfl)
  refine (hload _ _).bind (fun first => ?_)
  by_cases h : first.1 < 0
  · simp only [h, if_true]
    refine .done ?_
    rw [heldBy_of_neg (by omega), zero_add]
  simp only [h, if_false]
  refine (((leaves_close_of_open (by omega)).frame obj.held).of_eq rfl (fun _ => zero_add _)).bind (fun _ => ?_)
  refine (hload _ _).bind (fun second => ?_)
  by_cases h' : second.1 ≥ 0
  · simp only [h', if_true]
    refine (((leaves_close_of_open h').frame obj.held).of_eq rfl (fun _ => zero_add _)).bind (fun _ => .done rfl)
  · simp only [h', if_false]
    refine .done ?_
    rw [heldBy_of_neg h', zero_add]

/-- After a failure the maps before are closed, and the variable of the failed one holds nothing. -/
lemma leaves_createMapsFrom (capsName : Bool) (done maps : List BpfMap) :
    Leaves (heldMaps done + heldMaps maps) (createMapsFrom host capsName done maps) (fun r => heldMaps r.2) := by
  induction maps generalizing done with
  | nil => exact .done (add_zero _)
  | cons map maps ih =>
    unfold createMapsFrom
    by_cases h : map.fd ≥ 0
    · rw [if_pos h]
      refine (ih (done ++ [map])).of_eq ?_ (fun _ => rfl)
      rw [heldMaps_append, heldMaps_cons, heldMaps_cons, heldMaps_nil, add_zero, add_assoc]
    · rw [if_neg h]
      have hpre : heldMaps done + heldMaps (map :: maps) = 0 + (heldMaps done + heldMaps maps) := by
        rw [heldMaps_cons, heldBy_of_neg h, zero_add, zero_add]
      refine ((((leaves_createMap host _ _).frame (heldMaps done + heldMaps maps)).of_eq hpre
        (fun _ => rfl))).bind (fun fd => ?_)
      by_cases hfd : fd < 0
      · simp only [hfd, if_true]
        have hnone : heldBy fd = 0 := heldBy_of_neg (by omega)
        have hclose := (Keeps.each done (fun map _ => leaves_zcloseMap map)).frame (heldMaps maps)
        refine (hclose.of_eq ?_ (fun _ => rfl)).bind (fun closed => .done ?_)
        · rw [hnone, zero_add]
          rfl
        · rw [heldMaps_append, heldMaps_cons, hnone, zero_add]
          rfl
      · simp only [hfd, if_false]
        refine (ih (done ++ [{ map with fd := fd }])).of_eq ?_ (fun _ => rfl)
        rw [heldMaps_append, heldMaps_cons, heldMaps_nil, add_zero, add_left_comm, ← add_assoc]

lemma leaves_createMaps (obj : BpfObject) : Leaves obj.held (bpfObjectCreateMaps host obj) (fun r => r.2.held) := by
  have hmaps := (leaves_createMapsFrom host obj.capsName [] obj.maps).frame (heldPrograms obj.programs + heldBtf obj.btf)
  refine (hmaps.of_eq ?_ (fun _ => rfl)).bind (fun r => .done rfl)
  rw [BpfObject.held, heldMaps_nil, zero_add]

/-! ### Programs -/

lemma leaves_loadProgram (name : Option CString) (insns : List BpfInsn) :
    Leaves 0 (loadProgram host name insns) (fun r =>
      match r with
      | .ok fd => heldBy fd
      | .error _ => 0) := by
  unfold loadProgram
  by_cases h : insns = []
  · simp only [h, if_true]
    exact .done rfl
  simp only [h, if_false]
  refine (leaves_malloc host).bind (fun logBuf => ?_)
  refine (leaves_loadProgramXattr host _ _ _ _ _).bind (fun first => ?_)
  by_cases hfirst : first.1 ≥ 0
  · simp only [hfirst, if_true]
    exact .done rfl
  simp only [hfirst, if_false, heldBy_of_neg hfirst]
  split
  · exact .done rfl
  split
  · exact .done rfl
  refine (leaves_loadProgramXattr host _ _ _ _ _).bind (fun second => ?_)
  by_cases hsecond : second.1 ≥ 0
  · simp only [hsecond, if_true]
    exact (leaves_close_of_open hsecond).bind (fun _ => .done rfl)
  · simp only [hsecond, if_false, heldBy_of_neg hsecond]
    exact .done rfl

lemma leaves_programLoad {prog : BpfProgram} (h : prog.fds = []) (capsName : Bool) :
    Leaves 0 (bpfProgramLoad host capsName prog) (fun r => r.2.held) := by
  unfold bpfProgramLoad
  simp only [h, if_true]
  refine (leaves_malloc host).bind (fun granted => ?_)
  cases granted with
  | false => exact .done (held_of_none h).symm
  | true =>
    refine (leaves_loadProgram host _ _).bind (fun r => ?_)
    cases r with
    | error err => exact .done rfl
    | ok fd => exact .done (add_zero _).symm

lemma leaves_loadProgsFrom (obj : BpfObject) (done : List BpfProgram) {progs : List BpfProgram}
    (h : ∀ prog ∈ progs, prog.fds = []) :
    Leaves (heldPrograms done) (loadProgsFrom host obj done progs) (fun r => heldPrograms r.2) := by
  induction progs generalizing done with
  | nil => exact .done rfl
  | cons prog progs ih =>
    rw [List.forall_mem_cons] at h
    unfold loadProgsFrom
    by_cases hstorage : bpfProgramIsFunctionStorage obj prog = true
    · rw [if_pos hstorage]
      refine (ih (done ++ [prog]) h.2).of_eq ?_ (fun _ => rfl)
      rw [heldPrograms_append, heldPrograms_cons, held_of_none h.1, heldPrograms_nil, add_zero, add_zero]
    · rw [if_neg hstorage]
      have hload := (leaves_programLoad host h.1 obj.capsName).frame (heldPrograms done)
      refine (hload.of_eq (zero_add _).symm (fun _ => rfl)).bind ?_
      rintro ⟨err, prog'⟩
      by_cases herr : err ≠ 0
      · simp only [if_pos herr]
        refine .done ?_
        rw [heldPrograms_append, heldPrograms_cons, heldPrograms_of_none h.2, add_zero, add_comm]
      · simp only [if_neg herr]
        refine (ih (done ++ [prog']) h.2).of_eq ?_ (fun _ => rfl)
        rw [heldPrograms_append, heldPrograms_cons, heldPrograms_nil, add_zero, add_comm]

lemma leaves_loadProgs {obj : BpfObject} (h : ∀ prog ∈ obj.programs, prog.fds = []) :
    Leaves obj.held (bpfObjectLoadProgs host obj) (fun r => r.2.held) := by
  have hload := (leaves_loadProgsFrom host obj [] h).frame (heldMaps obj.maps + heldBtf obj.btf)
  refine (hload.of_eq ?_ (fun _ => rfl)).bind (fun r => .done (add_left_comm _ _ _))
  rw [BpfObject.held, heldPrograms_of_none h, heldPrograms_nil, zero_add, zero_add]

end

/-! ### Unloading -/

lemma leaves_programUnload (prog : BpfProgram) : Leaves prog.held (bpfProgramUnload prog) BpfProgram.held := by
  have hclose := Keeps.each prog.fds (fun fd _ => leaves_zclose fd)
  refine hclose.bind (fun fds => .done ?_)
  rw [List.map_const', List.sum_replicate, nsmul_zero]
  rfl

lemma returns_programUnload (prog : BpfProgram) : Returns (bpfProgramUnload prog) (fun prog => prog.fds = []) :=
  (Returns.any _).bind (fun _ _ => .done rfl)

lemma leaves_unload (obj : BpfObject) : Leaves obj.held (bpfObjectUnload obj) BpfObject.held := by
  have hmaps := (Keeps.each obj.maps (fun map _ => leaves_zcloseMap map)).frame
    (heldPrograms obj.programs + heldBtf obj.btf)
  refine hmaps.bind (fun maps => ?_)
  have hprograms := (Keeps.each obj.programs (fun prog _ => leaves_programUnload prog)).frame
    (heldMaps maps + heldBtf obj.btf)
  exact (hprograms.of_eq (add_left_comm _ _ _) (fun _ => rfl)).bind (fun programs => .done (add_left_comm _ _ _))

/-- An object that has been unloaded holds nothing but its BTF. -/
lemma returns_unload (obj : BpfObject) : Returns (bpfObjectUnload obj) (fun obj => obj.held = heldBtf obj.btf) := by
  refine (Returns.each returns_zcloseMap obj.maps).bind (fun maps hmaps => ?_)
  refine (Returns.each returns_programUnload obj.programs).bind (fun programs hprograms => .done ?_)
  rw [BpfObject.held, heldMaps_of_none hmaps, heldPrograms_of_none hprograms, zero_add, zero_add]

lemma leaves_btfFree (btf : Option Int) : Leaves (heldBtf btf) (btfFree btf) (fun _ => 0) := by
  cases btf with
  | none => exact .done rfl
  | some fd => exact leaves_close fd

lemma leaves_close_object (obj : BpfObject) : Leaves obj.held (bpfObjectClose obj) (fun _ => 0) :=
  (leaves_unload obj).bind_of (returns_unload obj) (fun obj' h => (leaves_btfFree obj'.btf).of_eq h (fun _ => rfl))

/-! ### Objects that have been opened -/

/-- A relocation lies in its program and refers to a map that exists. -/
def RelocDesc.Inside (insnsCnt nrMaps : Nat) : RelocDesc → Prop
  | ld64 insnIdx mapIdx => insnIdx < insnsCnt ∧ mapIdx < nrMaps
  | call insnIdx _ => insnIdx < insnsCnt

/-- An object with nothing loaded and relocations that can be applied. -/
structure Ready (obj : BpfObject) : Prop where
  fds : ∀ prog ∈ obj.programs, prog.fds = []
  inside : ∀ prog ∈ obj.programs, ∀ d ∈ prog.relocDesc, d.Inside prog.insns.length obj.maps.length

lemma forall_mem_set {α : Type} {P : α → Prop} {l : List α} {i : Nat} {a : α} (h : ∀ b ∈ l, P b) (ha : P a) :
    ∀ b ∈ l.set i a, P b := by
  intro b hb
  rcases List.mem_or_eq_of_mem_set hb with hb | rfl
  · exact h b hb
  · exact ha

lemma collectOne_inside (obj : BpfObject) (prog : BpfProgram) (entry : Option ElfRel) :
    Meets (RelocDesc.Inside prog.insns.length obj.maps.length) (fun _ => True) (collectOne obj prog entry) := by
  cases h : collectOne obj prog entry with
  | error e => trivial
  | ok d =>
    cases entry with
    | none => cases h
    | some rel =>
      obtain ⟨sym, insn, -, hinsn, hkind⟩ := collectOne_ok h
      have hlt := (List.getElem?_eq_some_iff.mp hinsn).1
      rcases hkind with ⟨-, -, rfl⟩ | ⟨-, mapIdx, hmap, rfl⟩
      · exact hlt
      · exact ⟨hlt, (List.findIdx?_eq_some_iff_getElem.mp hmap).1⟩

lemma ready_collectSection {obj : BpfObject} (h : Ready obj) (sec : RelSection) :
    Meets (fun obj' => Ready obj' ∧ obj'.maps = obj.maps ∧ obj'.btf = obj.btf) (fun _ => True)
      (collectSection obj sec) := by
  cases hsec : collectSection obj sec with
  | error e => trivial
  | ok obj' =>
    obtain ⟨hsame, k, prog, descs, hprog, -, hdescs, hset⟩ := collectSection_ok hsec
    have hmem := List.mem_of_getElem? hprog
    have hinside := (Meets.each (fun entry _ => collectOne_inside obj prog entry)).result hdescs
    refine ⟨⟨?_, ?_⟩, hsame.maps, hsame.btf⟩
    · rw [hset]
      exact forall_mem_set h.fds (h.fds prog hmem)
    · rw [hset, hsame.maps]
      exact forall_mem_set h.inside hinside.2

lemma ready_collectReloc {obj : BpfObject} (h : Ready obj) (sections : List RelSection) :
    Meets (fun obj' => Ready obj' ∧ obj'.maps = obj.maps ∧ obj'.btf = obj.btf) (fun _ => True)
      (bpfObjectCollectReloc obj sections) := by
  refine Meets.loop ?_ ⟨h, rfl, rfl⟩
  rintro obj' ⟨hready, hmaps, hbtf⟩ sec -
  exact (ready_collectSection hready sec).imp
    (fun _ hobj => ⟨hobj.1, hobj.2.1.trans hmaps, hobj.2.2.trans hbtf⟩) (fun _ _ => trivial)

/-- A relocation that lies in its program is applied or refused. -/
lemma relocateOne_meets {obj : BpfObject} {prog : BpfProgram} {d : RelocDesc}
    (hd : d.Inside prog.insns.length obj.maps.length) :
    Meets (fun prog' => prog'.fds = prog.fds ∧ prog.insns.length ≤ prog'.insns.length) (· ≠ .fault)
      (relocateOne obj prog d) := by
  cases d with
  | ld64 insnIdx mapIdx =>
    obtain ⟨hinsn, hmap⟩ := hd
    rw [relocateOne, if_neg (by omega), List.getElem?_eq_getElem hmap]
    exact ⟨rfl, by simp⟩
  | call insnIdx textOff =>
    have hinsn : insnIdx < prog.insns.length := hd
    rw [relocateOne, bpfProgramRelocText]
    split
    · exact fun h => by cases h
    · refine Meets.bind (P := fun prog' => prog'.fds = prog.fds ∧ prog.insns.length ≤ prog'.insns.length) ?_ ?_
      · rw [appendText]
        split
        · cases (bpfObjectFindProgByIdx obj obj.textShndx).bind (fun t => obj.programs[t]?) with
          | none => exact fun h => by cases h
          | some text => exact ⟨rfl, by simp⟩
        · exact ⟨rfl, Nat.le_refl _⟩
      · rintro prog' ⟨hfds, hlen⟩
        rw [if_neg (by omega)]
        exact ⟨hfds, by simpa using hlen⟩

lemma relocate_meets {obj : BpfObject} {prog : BpfProgram}
    (h : ∀ d ∈ prog.relocDesc, d.Inside prog.insns.length obj.maps.length) :
    Meets (fun prog' => prog'.fds = prog.fds ∧ prog'.relocDesc = []) (· ≠ .fault) (bpfProgramRelocate obj prog) := by
  have hloop : Meets (fun st => st.fds = prog.fds ∧ prog.insns.length ≤ st.insns.length) (· ≠ .fault)
      (prog.relocDesc.foldlM (relocateOne obj) prog) := by
    refine Meets.loop ?_ ⟨rfl, Nat.le_refl _⟩
    rintro st ⟨hfds, hlen⟩ d hd
    have hinside : d.Inside st.insns.length obj.maps.length := by
      have hd' := h d hd
      cases d with
      | ld64 insnIdx mapIdx => exact ⟨Nat.lt_of_lt_of_le hd'.1 hlen, hd'.2⟩
      | call insnIdx textOff => exact Nat.lt_of_lt_of_le hd' hlen
    exact (relocateOne_meets hinside).imp (fun st' hst' => ⟨hst'.1.trans hfds, hlen.trans hst'.2⟩) (fun _ he => he)
  exact hloop.bind (fun st hst => ⟨hst.1, rfl⟩)

/-- Relocating an object opens and closes nothing and stays inside its arrays. -/
lemma objectRelocate_meets {obj : BpfObject} (h : Ready obj) :
    Meets (fun obj' => Ready obj' ∧ obj'.maps = obj.maps ∧ obj'.btf = obj.btf) (· ≠ .fault)
      (bpfObjectRelocate obj) := by
  have hloop : Meets (fun st : BpfObject => (Ready st ∧ st.maps = obj.maps ∧ st.btf = obj.btf) ∧
        st.programs.length = obj.programs.length)
      (· ≠ .fault) ((List.range obj.programs.length).foldlM relocateAt obj) := by
    refine Meets.loop ?_ ⟨⟨h, rfl, rfl⟩, rfl⟩
    rintro st ⟨⟨hready, hsame⟩, hlen⟩ i hi
    rw [List.mem_range] at hi
    rw [relocateAt, List.getElem?_eq_getElem (by omega)]
    have hmem := List.getElem_mem (l := st.programs) (n := i) (by omega)
    refine (relocate_meets (hready.inside _ hmem)).bind (fun prog' hprog' => ?_)
    refine ⟨⟨⟨forall_mem_set hready.fds (hprog'.1.trans (hready.fds _ hmem)), ?_⟩, hsame⟩, by simpa using hlen⟩
    refine forall_mem_set hready.inside ?_
    rw [hprog'.2]
    simp
  exact hloop.imp (fun _ hst => hst.1) (fun _ he => he)

/-! ### Loading -/

section

variable (host : Host)

lemma Ready.of_same {obj obj' : BpfObject} (h : Ready obj) (hprogs : obj'.programs = obj.programs)
    (hmaps : obj'.maps.length = obj.maps.length) : Ready obj' :=
  ⟨hprogs ▸ h.fds, hprogs ▸ hmaps ▸ h.inside⟩

lemma returns_probeName (obj : BpfObject) :
    Returns (bpfObjectProbeName host obj) (fun r => ∃ caps, r.2 = { obj with capsName := caps }) := by
  unfold bpfObjectProbeName
  refine (Returns.any _).bind (fun first _ => ?_)
  by_cases h : first.1 < 0
  · simp only [if_pos h]
    exact .done ⟨obj.capsName, rfl⟩
  simp only [if_neg h]
  refine (Returns.any _).bind (fun _ _ => (Returns.any _).bind (fun second _ => ?_))
  by_cases h' : second.1 ≥ 0
  · simp only [if_pos h']
    exact (Returns.any _).bind (fun _ _ => .done ⟨true, rfl⟩)
  · simp only [if_neg h']
    exact .done ⟨obj.capsName, rfl⟩

lemma ready_probeName {obj : BpfObject} (h : Ready obj) :
    Returns (bpfObjectProbeName host obj) (fun r => Ready r.2) := by
  intro calls _
  obtain ⟨caps, hobj⟩ := returns_probeName host obj calls trivial
  exact hobj ▸ h.of_same rfl rfl

lemma returns_mapM_length {α β : Type} (f : α → LoadM β) (as : List α) :
    Returns (as.mapM f) (fun bs => bs.length = as.length) := by
  induction as with
  | nil => exact .done rfl
  | cons a as ih =>
    rw [List.mapM_cons]
    refine (Returns.any _).bind (fun b _ => ih.bind (fun bs hbs => .done ?_))
    rw [List.length_cons, List.length_cons, hbs]

lemma returns_createMapsFrom (capsName : Bool) (done maps : List BpfMap) :
    Returns (createMapsFrom host capsName done maps) (fun r => r.2.length = done.length + maps.length) := by
  induction maps generalizing done with
  | nil => exact .done rfl
  | cons map maps ih =>
    have hlen (map' : BpfMap) : (done ++ [map']).length + maps.length = done.length + (map :: maps).length := by
      simp only [List.length_append, List.length_cons, List.length_nil]
      omega
    unfold createMapsFrom
    by_cases h : map.fd ≥ 0
    · rw [if_pos h, ← hlen map]
      exact ih _
    · rw [if_neg h]
      refine (Returns.any _).bind (fun fd _ => ?_)
      by_cases hfd : fd < 0
      · simp only [if_pos hfd]
        refine (returns_mapM_length zcloseMap done).bind (fun closed hclosed => .done ?_)
        rw [List.length_append, hclosed]
        rfl
      · simp only [if_neg hfd]
        rw [← hlen { map with fd := fd }]
        exact ih _

lemma ready_createMaps {obj : BpfObject} (h : Ready obj) :
    Returns (bpfObjectCreateMaps host obj) (fun r => Ready r.2) := by
  refine (returns_createMapsFrom host obj.capsName [] obj.maps).bind (fun r hr => .done (h.of_same rfl ?_))
  rw [List.length_nil, Nat.zero_add] at hr
  exact hr

lemma leaves_loadSteps {obj : BpfObject} (h : Ready obj) :
    Leaves obj.held (loadSteps host obj) (fun r => r.2.held) := by
  unfold loadSteps
  refine (leaves_probeName host obj).bind_of (ready_probeName host h) ?_
  rintro ⟨err, obj₁⟩ hready₁
  by_cases herr : err ≠ 0
  · simp only [if_pos herr]
    exact .done rfl
  simp only [if_neg herr]
  refine (leaves_createMaps host obj₁).bind_of (ready_createMaps host hready₁) ?_
  rintro ⟨err, obj₂⟩ hready₂
  by_cases herr : err ≠ 0
  · simp only [if_pos herr]
    exact .done rfl
  simp only [if_neg herr]
  cases hrel : bpfObjectRelocate obj₂ with
  | error err => exact .done rfl
  | ok obj₃ =>
    obtain ⟨hready₃, hmaps, hbtf⟩ := (objectRelocate_meets hready₂).result hrel
    have hheld : obj₂.held = obj₃.held := by
      rw [BpfObject.held, BpfObject.held, hmaps, hbtf, heldPrograms_of_none hready₂.fds,
        heldPrograms_of_none hready₃.fds]
    refine ((leaves_loadProgs host hready₃.fds).of_eq hheld (fun _ => rfl)).bind (fun r => .done rfl)

/-- An object that has been opened is loaded without leaving its arrays. -/
lemma returns_loadSteps {obj : BpfObject} (h : Ready obj) :
    Returns (loadSteps host obj) (fun r => r.1 ≠ some .fault) := by
  unfold loadSteps
  refine (ready_probeName host h).bind ?_
  rintro ⟨err, obj₁⟩ hready₁
  by_cases herr : err ≠ 0
  · simp only [if_pos herr]
    exact .done (fun h => by cases h)
  simp only [if_neg herr]
  refine (ready_createMaps host hready₁).bind ?_
  rintro ⟨err, obj₂⟩ hready₂
  by_cases herr : err ≠ 0
  · simp only [if_pos herr]
    exact .done (fun h => by cases h)
  simp only [if_neg herr]
  cases hrel : bpfObjectRelocate obj₂ with
  | error err =>
    have hne := (objectRelocate_meets hready₂).failure hrel
    exact .done (fun h => hne (Option.some.inj h))
  | ok obj₃ =>
    refine (Returns.any _).bind (fun r _ => .done ?_)
    split
    · exact fun h => by cases h
    · exact fun h => by cases h

lemma leaves_objectLoad {obj : BpfObject} (h : Ready obj) :
    Leaves obj.held (bpfObjectLoad host obj) (fun r => r.2.held) := by
  unfold bpfObjectLoad
  by_cases hloaded : obj.loaded = true
  · simp only [if_pos hloaded]
    exact .done rfl
  simp only [if_neg hloaded]
  have hready : Ready { obj with loaded := true } := h.of_same rfl rfl
  refine (leaves_loadSteps host hready).bind ?_
  rintro ⟨err, obj'⟩
  match err with
  | some (.errno _) => exact (leaves_unload obj').bind (fun _ => .done rfl)
  | some .fault => exact .done rfl
  | none => exact .done rfl

lemma returns_objectLoad {obj : BpfObject} (h : Ready obj) :
    Returns (bpfObjectLoad host obj) (fun r => r.1 ≠ some .fault) := by
  unfold bpfObjectLoad
  by_cases hloaded : obj.loaded = true
  · simp only [if_pos hloaded]
    exact .done (fun h => by cases h)
  simp only [if_neg hloaded]
  have hready : Ready { obj with loaded := true } := h.of_same rfl rfl
  refine (returns_loadSteps host hready).bind ?_
  rintro ⟨err, obj'⟩ herr
  match err with
  | some (.errno _) => exact (Returns.any _).bind (fun _ _ => .done (fun h => by cases h))
  | some .fault => exact absurd rfl herr
  | none => exact .done herr

end

/-! ### Objects that have been read -/

/-- An object as it is read, before its relocations are collected. -/
structure Fresh (obj : BpfObject) : Prop where
  programs : ∀ prog ∈ obj.programs, prog.mainProgCnt = 0 ∧ prog.relocDesc = [] ∧ prog.fds = []
  idx : (obj.programs.map BpfProgram.idx).Nodup
  maps : ∀ map ∈ obj.maps, map.fd = -1
  loaded : obj.loaded = false
  btf : obj.btf = none

/-- The sections before `limit` have given the object its programs. -/
structure ReadUpTo (limit : Nat) (obj : BpfObject) : Prop extends Fresh obj where
  before : ∀ prog ∈ obj.programs, prog.idx < limit
  noMaps : obj.maps = []

lemma ReadUpTo.later {idx : Nat} {obj obj' : BpfObject} (h : ReadUpTo idx obj)
    (hprogs : obj'.programs = obj.programs) (hmaps : obj'.maps = obj.maps) (hloaded : obj'.loaded = obj.loaded)
    (hbtf : obj'.btf = obj.btf) : ReadUpTo (idx + 1) obj' where
  programs := hprogs ▸ h.programs
  idx := hprogs ▸ h.idx
  maps := hmaps ▸ h.maps
  loaded := hloaded.trans h.loaded
  btf := hbtf.trans h.btf
  before := by
    intro prog hprog
    have hlt := h.before prog (hprogs ▸ hprog)
    omega
  noMaps := hmaps.trans h.noMaps

lemma meets_copy (data : ElfData) (off len : Nat) : Meets (fun _ => True) (fun _ => True) (data.copy off len) := by
  cases data.copy off len <;> trivial

/-- A new program has its index and nothing else yet. -/
lemma new_programInit (data : ElfData) (name : CString) (idx : Int) :
    Meets (fun prog => prog.idx = idx ∧ prog.mainProgCnt = 0 ∧ prog.relocDesc = [] ∧ prog.fds = []) (fun _ => True)
      (bpfProgramInit data name idx) := by
  unfold bpfProgramInit
  split
  · trivial
  · exact (meets_copy _ _ _).bind (fun _ _ => ⟨rfl, rfl, rfl, rfl⟩)

lemma readUpTo_addProgram {idx : Nat} {obj : BpfObject} (h : ReadUpTo idx obj) (data : ElfData) (name : CString) :
    Meets (ReadUpTo (idx + 1)) (fun _ => True) (bpfObjectAddProgram obj data name idx) := by
  refine (new_programInit data name idx).bind ?_
  rintro new ⟨hidx, hnew⟩
  refine ⟨⟨?_, ?_, h.maps, h.loaded, h.btf⟩, ?_, h.noMaps⟩
  · intro prog hprog
    rcases List.mem_append.mp hprog with hold | hlast
    · exact h.programs prog hold
    · rw [List.mem_singleton.mp hlast]
      exact hnew
  · rw [List.map_append, List.nodup_append]
    refine ⟨h.idx, by simp, ?_⟩
    intro i hi j hj heq
    obtain ⟨prog, hprog, rfl⟩ := List.mem_map.mp hi
    have hlast : j = new.idx := List.mem_singleton.mp hj
    have hlt := h.before prog hprog
    omega
  · intro prog hprog
    rcases List.mem_append.mp hprog with hold | hlast
    · have hlt := h.before prog hold
      omega
    · rw [List.mem_singleton.mp hlast, hidx]
      exact Int.lt_succ _

lemma readUpTo_collectScn (elf : Elf) {idx : Nat} {st : BpfObject × Efile} (h : ReadUpTo idx st.1) (scn : Scn) :
    Meets (fun st => ReadUpTo (idx + 1) st.1) (fun _ => True) (collectScn elf idx st scn) := by
  obtain ⟨obj, efile⟩ := st
  have hsame : ReadUpTo (idx + 1) obj := h.later rfl rfl rfl rfl
  unfold collectScn
  dsimp only
  split
  next sh name data _ _ _ =>
    split
    · exact (meets_copy _ _ _).bind (fun _ _ => hsame)
    split
    · split
      · trivial
      · exact (meets_copy _ _ _).bind (fun _ _ => hsame)
    split
    · exact h.later rfl rfl rfl rfl
    split
    · exact hsame
    split
    · split
      · trivial
      · exact hsame
    split
    · have htext : ReadUpTo idx (if name = textScn then { obj with textShndx := idx } else obj) := by
        split
        · exact ⟨⟨h.programs, h.idx, h.maps, h.loaded, h.btf⟩, h.before, h.noMaps⟩
        · exact h
      exact (readUpTo_addProgram htext data name).bind (fun _ hobj => hobj)
    split
    · split
      · exact hsame
      · exact hsame
    · exact hsame
  next => trivial

lemma readUpTo_collectScns (elf : Elf) {idx : Nat} {st : BpfObject × Efile} (h : ReadUpTo idx st.1)
    (scns : List Scn) :
    Meets (fun st => ReadUpTo (idx + scns.length) st.1) (fun _ => True) (collectScns elf idx st scns) := by
  induction scns generalizing idx st with
  | nil => exact h
  | cons scn scns ih =>
    rw [collectScns]
    refine (readUpTo_collectScn elf h scn).bind (fun st' hst' => ?_)
    have htail := ih hst'
    rw [List.length_cons, Nat.add_comm scns.length 1, ← Nat.add_assoc]
    exact htail

lemma fd_of_initMap (data : ElfData) (mapDefSz : Int) (name : Option CString) (sym : ElfSym) :
    Meets (fun map => map.fd = -1) (fun _ => True) (initMap data mapDefSz name sym) := by
  unfold initMap
  split
  · trivial
  split
  · trivial
  · refine (meets_copy _ _ _).bind (fun octets _ => ?_)
    split
    · trivial
    · exact rfl

lemma fresh_initMaps (elf : Elf) (efile : Efile) {obj : BpfObject} (h : Fresh obj) :
    Meets Fresh (fun _ => True) (bpfObjectInitMaps elf efile obj) := by
  unfold bpfObjectInitMaps
  split
  · dsimp only
    split
    · exact h
    split
    · trivial
    · refine (Meets.each (fun sym _ => fd_of_initMap _ _ _ sym)).bind (fun maps hmaps => ?_)
      exact ⟨h.programs, h.idx, fun map hmap => hmaps.2 map (List.mem_mergeSort.mp hmap), h.loaded, h.btf⟩
  · trivial

lemma fresh_initProgNames (elf : Elf) (efile : Efile) {obj : BpfObject} (h : Fresh obj) :
    Meets Fresh (fun _ => True) (bpfObjectInitProgNames elf efile obj) := by
  cases hnames : bpfObjectInitProgNames elf efile obj with
  | error e => trivial
  | ok obj' =>
    rw [bpfObjectInitProgNames] at hnames
    obtain ⟨programs, hprograms, hobj'⟩ := bind_eq_ok_iff.mp hnames
    cases hobj'
    have hviews : programs.map (fun prog => (prog.idx, prog.mainProgCnt, prog.relocDesc, prog.fds)) =
        obj.programs.map (fun prog => (prog.idx, prog.mainProgCnt, prog.relocDesc, prog.fds)) := by
      refine map_of_mapM ?_ hprograms
      intro prog prog' hprog
      obtain ⟨name, -, hname⟩ := bind_eq_ok_iff.mp hprog
      cases hname
      rfl
    refine ⟨?_, ?_, h.maps, h.loaded, h.btf⟩
    · intro prog' hprog'
      have hmem := List.mem_map_of_mem (f := fun prog : BpfProgram =>
        (prog.idx, prog.mainProgCnt, prog.relocDesc, prog.fds)) hprog'
      rw [hviews] at hmem
      obtain ⟨prog, hprog, heq⟩ := List.mem_map.mp hmem
      simp only [Prod.mk.injEq] at heq
      obtain ⟨hcnt, hdesc, hfds⟩ := h.programs prog hprog
      exact ⟨heq.2.1 ▸ hcnt, heq.2.2.1 ▸ hdesc, heq.2.2.2 ▸ hfds⟩
    · have hidx := congrArg (List.map Prod.fst) hviews
      rw [List.map_map, List.map_map] at hidx
      exact hidx ▸ h.idx

/-- What `libelf` reads becomes an object that holds no descriptor. -/
theorem fresh_readElf (elf : Elf) : Meets (fun r => Fresh r.1) (fun _ => True) (readElf elf) := by
  unfold readElf
  refine Meets.bind (P := fun _ => True) ?_ (fun ep _ => ?_)
  · cases bpfObjectElfInit elf <;> trivial
  refine Meets.bind (P := fun _ => True) ?_ (fun _ _ => ?_)
  · cases bpfObjectCheckEndianness ep <;> trivial
  refine Meets.bind (P := fun st : BpfObject × Efile => Fresh st.1) ?_ (fun _ hst => hst)
  unfold bpfObjectElfCollect
  split
  · trivial
  have hstart : ReadUpTo 1 ((newObject, ⟨none, 0, []⟩) : BpfObject × Efile).1 := ⟨⟨by simp [newObject], by simp [newObject],
    by simp [newObject], rfl, rfl⟩, by simp [newObject], rfl⟩
  refine (readUpTo_collectScns elf hstart elf.scns).bind (fun st hst => ?_)
  obtain ⟨obj, efile⟩ := st
  have hfresh : Fresh obj := hst.toFresh
  dsimp only
  split
  · trivial
  have hnames {obj : BpfObject} (h : Fresh obj) :
      Meets (fun st : BpfObject × Efile => Fresh st.1) (fun _ => True)
        (bpfObjectInitProgNames elf efile obj >>= fun obj => pure (obj, efile)) :=
    (fresh_initProgNames elf efile h).bind (fun _ h => h)
  split
  · exact (fresh_initMaps elf efile hfresh).bind (fun _ h => hnames h)
  · exact hnames hfresh

/-! ### From the path of the file -/

lemma Fresh.ready {obj : BpfObject} (h : Fresh obj) : Ready obj where
  fds prog hprog := (h.programs prog hprog).2.2
  inside prog hprog d hd := by
    rw [(h.programs prog hprog).2.1] at hd
    cases hd

lemma ready_openElf (elf : Elf) : Meets (fun obj => Ready obj ∧ obj.held = 0 ∧ obj.btf = none) (fun _ => True)
    (openElf elf) := by
  refine (fresh_readElf elf).bind (fun r hr => ?_)
  refine (ready_collectReloc hr.ready r.2).imp ?_ (fun _ _ => trivial)
  rintro obj ⟨hready, hmaps, hbtf⟩
  refine ⟨hready, ?_, hbtf.trans hr.btf⟩
  rw [BpfObject.held, hmaps, hbtf, hr.btf, heldMaps_of_none hr.maps, heldPrograms_of_none hready.fds]
  rfl

/-- A map that has been read has no descriptor yet. -/
lemma maps_openElf (elf : Elf) : Meets (fun obj => ∀ map ∈ obj.maps, map.fd = -1) (fun _ => True) (openElf elf) := by
  refine (fresh_readElf elf).bind (fun r hr => ?_)
  refine (ready_collectReloc hr.ready r.2).imp ?_ (fun _ _ => trivial)
  rintro obj ⟨-, hmaps, -⟩
  rw [hmaps]
  exact hr.maps

/-! ### Files without BTF -/

def Elf.NoBtf (elf : Elf) : Prop := ∀ scn ∈ elf.scns, scn.name ≠ some btfElfSec

lemma collectBtfs_of_noBtf (host : Host) (elf : Elf) (idx : Nat) (st : BpfObject × Efile) {scns : List Scn}
    (h : ∀ scn ∈ scns, scn.name ≠ some btfElfSec) :
    collectBtfs host elf idx st none scns = pure (.ok none) := by
  induction scns generalizing idx st with
  | nil =>
    rw [collectBtfs, checkBtfExt, if_pos (.inr (.inr rfl))]
    rfl
  | cons scn scns ih =>
    rw [List.forall_mem_cons] at h
    rw [collectBtfs]
    cases collectScn elf idx st scn with
    | error e => rfl
    | ok st' =>
      dsimp only
      rw [collectBtf, if_neg h.1, pure_bind]
      exact ih (idx + 1) st' h.2

lemma readBtf_of_noBtf (host : Host) {elf : Elf} (h : elf.NoBtf) : readBtf host elf = pure (.ok none) := by
  unfold readBtf
  split
  · rfl
  split
  · exact collectBtfs_of_noBtf host elf 1 _ h
  · rfl

/-- Without BTF opening is reading. -/
lemma open_of_noBtf (host : Host) {elf : Elf} (h : elf.NoBtf) : bpfObjectOpen host ⟨some elf⟩ = (do
    let fd ← record host.openFile .openFile
    if fd < 0 then
      return .error (.errno fd)
    close fd
    return openElf elf) := by
  unfold bpfObjectOpen
  refine congrArg (record host.openFile Call.openFile >>= ·) (funext (fun fd => ?_))
  split
  · rfl
  · simp only [readBtf_of_noBtf host h, pure_bind]
    refine congrArg (close fd >>= ·) (funext (fun _ => ?_))
    cases helf : openElf elf with
    | error e => rfl
    | ok obj =>
      have hbtf := ((ready_openElf elf).result helf).2.2
      dsimp only
      rw [← hbtf]

/-- What the caller gets to hold. -/
def heldIn : Except Failure (BpfObject × Int) → Multiset Int
  | .ok (obj, _) => obj.held
  | .error _ => 0

section

variable (host : Host) {elf : Elf} (hbtf : elf.NoBtf)
include hbtf

lemma leaves_open : Leaves 0 (bpfObjectOpen host ⟨some elf⟩) (fun _ => 0) := by
  rw [open_of_noBtf host hbtf]
  refine (Keeps.call settle_opened).bind (fun fd => ?_)
  by_cases h : fd < 0
  · simp only [if_pos h]
    exact .done (heldBy_of_neg (by omega))
  · simp only [if_neg h]
    exact (leaves_close_of_open (by omega)).bind (fun _ => .done rfl)

lemma returns_open : Returns (bpfObjectOpen host ⟨some elf⟩)
    (fun r => ∀ obj, r = .ok obj → Ready obj ∧ obj.held = 0) := by
  rw [open_of_noBtf host hbtf]
  refine (Returns.any _).bind (fun fd _ => ?_)
  by_cases h : fd < 0
  · simp only [if_pos h]
    exact .done (fun obj hobj => by cases hobj)
  · simp only [if_neg h]
    refine (Returns.any _).bind (fun _ _ => .done (fun obj hobj => ?_))
    obtain ⟨hready, hheld, -⟩ := (ready_openElf elf).result hobj
    exact ⟨hready, hheld⟩

lemma leaves_progLoadXattr : Leaves 0 (bpfProgLoadXattr host ⟨some elf⟩) heldIn := by
  unfold bpfProgLoadXattr
  refine (leaves_open host hbtf).bind_of (returns_open host hbtf) (fun r hr => ?_)
  match r with
  | .error .fault => exact .done rfl
  | .error (.errno code) => exact .done rfl
  | .ok obj =>
    obtain ⟨hready, hheld⟩ := hr obj rfl
    dsimp only
    by_cases hfirst : (firstProg obj).isNone = true
    · rw [if_pos hfirst]
      exact ((leaves_close_object obj).of_eq hheld.symm (fun _ => rfl)).bind (fun _ => .done rfl)
    · rw [if_neg hfirst]
      have hload := (leaves_objectLoad host hready).of_eq hheld.symm (fun _ => rfl)
      refine hload.bind_of (returns_objectLoad host hready) ?_
      rintro ⟨err, obj'⟩ herr
      match err with
      | some .fault => exact absurd rfl herr
      | some (.errno _) => exact (leaves_close_object obj').bind (fun _ => .done rfl)
      | none => exact .done rfl

end

/-- What becomes of a file that is not opened. -/
def givenUp : Failure → Failure
  | .errno code => if isErrOrNull code then .errno errNoEntry else .fault
  | .fault => .fault

lemma run_of_open_error {host : Host} {file : ElfFile} {e : Failure} {calls : List Call}
    (h : (bpfObjectOpen host file).run [] = (.error e, calls)) :
    (bpfProgLoadXattr host file).run [] = (.error (givenUp e), calls) := by
  unfold bpfProgLoadXattr
  rw [StateT.run_bind, h]
  cases e <;> rfl

lemma run_open_none (host : Host) :
    ∃ code, (bpfObjectOpen host ⟨none⟩).run [] = (.error (.errno code), [.openFile (host.openFile [])]) := by
  unfold bpfObjectOpen
  rw [StateT.run_bind]
  by_cases h : host.openFile [] < 0
  · exact ⟨host.openFile [], congrArg (fun x : LoadM _ => x.run [.openFile (host.openFile [])]) (if_pos h)⟩
  · exact ⟨-libbpfErrnoLibelf, congrArg (fun x : LoadM _ => x.run [.openFile (host.openFile [])]) (if_neg h)⟩

lemma run_open_some (host : Host) {elf : Elf} (hbtf : elf.NoBtf) : (bpfObjectOpen host ⟨some elf⟩).run [] =
    if host.openFile [] < 0 then (.error (.errno (host.openFile [])), [.openFile (host.openFile [])])
    else (openElf elf, [.openFile (host.openFile []), .close (host.openFile [])]) := by
  rw [open_of_noBtf host hbtf, StateT.run_bind]
  by_cases h : host.openFile [] < 0
  · rw [if_pos h]
    exact congrArg (fun x : LoadM _ => x.run [.openFile (host.openFile [])]) (if_pos h)
  · rw [if_neg h]
    exact congrArg (fun x : LoadM _ => x.run [.openFile (host.openFile [])]) (if_neg h)

def mapDefOctets : List Byte := [6, 0, 0, 0, 4, 0, 0, 0, 8, 0, 0, 0, 5, 0, 0, 0, 0, 0, 0, 0]

def statsMapName : CString := ⟨CString.ascii "stats", by decide⟩
def xdpScn : CString := ⟨CString.ascii "xdp", by decide⟩
def dataScn : CString := ⟨CString.ascii ".data", by decide⟩

def progbits (execinstr : Bool) : Shdr := ⟨.progbits, execinstr, 0, 0, 0⟩

/-- One type, an integer, and one string, which is empty. -/
def btfOctets : List Byte :=
  [0x9f, 0xeb, 1, 0, 24, 0, 0, 0, 0, 0, 0, 0, 16, 0, 0, 0, 16, 0, 0, 0, 1, 0, 0, 0] ++
    [0, 0, 0, 0, 0, 0, 0, 1, 4, 0, 0, 0, 32, 0, 0, 0] ++ [0]

/-- `.text` with one function, a program with room for a constant and a call, a map and data. The
file may have been compiled for debugging. -/
def smallElf (debug : Bool) (rels : List (Option GElfRel)) : Elf where
  ehdr := some ⟨1, emBpf, 1⟩
  rawNames := true
  scns := [
    ⟨some ⟨.other 3, false, 0, 0, 0⟩, some xdpScn, some (.octets []), [], []⟩,
    ⟨some (progbits true), some textScn, some (.octets [0x07, 0, 0, 0, 5, 0, 0, 0, 0x95, 0, 0, 0, 0, 0, 0, 0]), [], []⟩,
    ⟨some (progbits true), some xdpScn, some (.octets [0x18, 0x01, 0, 0, 0, 0, 0, 0, 0, 0, 0, 0, 0, 0, 0, 0,
      0x85, 0x10, 0, 0, 0xff, 0xff, 0xff, 0xff, 0x95, 0, 0, 0, 0, 0, 0, 0]), [], []⟩,
    ⟨some ⟨.rel, false, 16, 6, 3⟩, some xdpScn, some (.octets []), [], rels⟩,
    ⟨some (progbits false), some mapsScn, some (.octets mapDefOctets), [], []⟩,
    ⟨some ⟨.symtab, false, 24, 1, 0⟩, some xdpScn, some (.octets []),
      [some ⟨5, 0, true, 0⟩, some ⟨3, 0, true, 1⟩, some ⟨2, 0, false, 2⟩, some ⟨7, 0, true, 3⟩], []⟩,
    ⟨some (progbits false), some dataScn, some (.octets [97]), [], []⟩] ++
      if debug then [⟨some (progbits false), some btfElfSec, some (.octets btfOctets), [], []⟩] else []
  strptr _ i := if i = 0 then some statsMapName else some xdpScn

/-- Every call succeeds, with as many descriptors as there have been calls. -/
def grantingHost : Host where
  openFile calls := calls.length
  openFile_errno calls := by omega
  btfLoad calls := calls.length
  mapCreate calls := calls.length
  progLoad calls := (calls.length, false)
  malloc _ := true

lemma small_noBtf (rels : List (Option GElfRel)) : (smallElf false rels).NoBtf := by
  have hnames : ∀ name ∈ [some xdpScn, some textScn, some xdpScn, some xdpScn, some mapsScn, some xdpScn, some dataScn],
      name ≠ some btfElfSec := by decide
  intro scn hscn
  exact hnames scn.name (List.mem_map_of_mem (f := Scn.name) hscn)

end SyncookieXdp.ObjectFile
