import SyncookieXdp.Lib.Folds
import SyncookieXdp.Spec.Linking

/-!
# Linking keeps what a program means

What the collected relocations do to the instructions of one program, what the object looks like
when all programs have been relocated, and that a loaded program then runs as its object file
says.
-/

namespace SyncookieXdp.ObjectFile
open Lib

/-! ### One program -/

namespace RelocDesc

def insnIdx : RelocDesc → Nat
  | ld64 insnIdx _ => insnIdx
  | call insnIdx _ => insnIdx

/-- What a relocation does to its instruction in a program of this length. -/
def patch (maps : List BpfMap) (mainCnt : Nat) (insn : BpfInsn) : RelocDesc → BpfInsn
  | ld64 _ mapIdx =>
    { insn with srcReg := bpfPseudoMapFd, imm := BitVec.ofInt 32 ((maps[mapIdx]?.map BpfMap.fd).getD 0) }
  | call insnIdx _ =>
    { insn with imm := insn.imm + (BitVec.ofNat 32 mainCnt - BitVec.ofNat 32 insnIdx) }

end RelocDesc

/-- The functions an object has, which a program with calls gets a copy of. -/
def textInsns (obj : BpfObject) : List BpfInsn :=
  (((bpfObjectFindProgByIdx obj obj.textShndx).bind (fun t => obj.programs[t]?)).map BpfProgram.insns).getD []

section Program

variable {obj : BpfObject} {prog : BpfProgram}

/-- A program after some of its relocations. -/
structure Patched (obj : BpfObject) (prog : BpfProgram) (descs : List RelocDesc) (st : BpfProgram) : Prop where
  idx : st.idx = prog.idx
  mainCnt : st.mainProgCnt = if descs.any RelocDesc.isCall then prog.insns.length else 0
  get : ∀ i, st.insns[i]? =
    ((prog.insns ++ if descs.any RelocDesc.isCall then textInsns obj else [])[i]?).map (fun insn =>
      (descs.filter (fun d => d.insnIdx = i)).foldl (RelocDesc.patch obj.maps prog.insns.length) insn)

lemma Patched.length {descs : List RelocDesc} {st : BpfProgram} (h : Patched obj prog descs st) :
    st.insns.length =
      (prog.insns ++ if descs.any RelocDesc.isCall then textInsns obj else []).length := by
  apply Nat.le_antisymm
  · rw [← List.getElem?_eq_none_iff]
    rw [h.get]
    simp
  · rw [← List.getElem?_eq_none_iff]
    have hget := h.get st.insns.length
    rw [List.getElem?_eq_none (Nat.le_refl _)] at hget
    exact Option.map_eq_none_iff.mp hget.symm

lemma Patched.modify {descs : List RelocDesc} {st : BpfProgram} (h : Patched obj prog descs st)
    {d : RelocDesc} (hcall : d.isCall = true → descs.any RelocDesc.isCall = true) :
    Patched obj prog (descs ++ [d]) { st with
      insns := st.insns.modify d.insnIdx (fun insn => d.patch obj.maps prog.insns.length insn) } := by
  have hany : (descs ++ [d]).any RelocDesc.isCall = descs.any RelocDesc.isCall := by
    rw [List.any_append]
    cases hd : d.isCall with
    | false => simp [hd]
    | true => simp [hd, hcall hd]
  refine ⟨h.idx, ?_, fun i => ?_⟩
  · rw [hany]
    exact h.mainCnt
  · rw [hany, List.getElem?_modify, h.get i, List.filter_append, Option.map_eq_map, Option.map_map]
    congr 1
    funext insn
    by_cases hi : d.insnIdx = i
    · simp [hi]
    · simp [hi]

/-- The functions are appended behind all the instructions that have relocations. -/
lemma Patched.append {descs : List RelocDesc} {st : BpfProgram} (h : Patched obj prog descs st)
    (hinside : ∀ d ∈ descs, d.insnIdx < prog.insns.length) (hno : descs.any RelocDesc.isCall = false)
    {d : RelocDesc} (hd : d.isCall = true) :
    Patched obj prog (descs ++ [d]) { st with
      insns := (st.insns ++ textInsns obj).modify d.insnIdx (fun insn => d.patch obj.maps prog.insns.length insn)
      mainProgCnt := st.insns.length } := by
  have hany : (descs ++ [d]).any RelocDesc.isCall = true := by simp [hd]
  have hlen : st.insns.length = prog.insns.length := by
    rw [h.length, hno]
    simp
  refine ⟨h.idx, ?_, fun i => ?_⟩
  · rw [hany]
    exact hlen
  · have hgot : (st.insns ++ textInsns obj)[i]? = ((prog.insns ++ textInsns obj)[i]?).map (fun insn =>
        (descs.filter (fun d => d.insnIdx = i)).foldl (fun insn d => d.patch obj.maps prog.insns.length insn) insn) := by
      by_cases hi : i < prog.insns.length
      · rw [List.getElem?_append_left (by omega), List.getElem?_append_left hi, h.get i, hno]
        simp
      · have hnone : descs.filter (fun d => d.insnIdx = i) = [] := by
          rw [List.filter_eq_nil_iff]
          intro d' hd' heq
          have hlt := hinside d' hd'
          rw [of_decide_eq_true heq] at hlt
          exact hi hlt
        rw [List.getElem?_append_right (by omega), List.getElem?_append_right (by omega), hnone, hlen]
        simp
    rw [hany, List.getElem?_modify, hgot, List.filter_append, Option.map_eq_map, Option.map_map]
    congr 1
    funext insn
    by_cases hi : d.insnIdx = i
    · simp [hi]
    · simp [hi]

lemma Patched.step {descs : List RelocDesc} {st st' : BpfProgram} (h : Patched obj prog descs st)
    (hinside : ∀ d ∈ descs, d.insnIdx < prog.insns.length) {d : RelocDesc}
    (hd : d.insnIdx < prog.insns.length) (hok : relocateOne obj st d = .ok st') :
    Patched obj prog (descs ++ [d]) st' ∧ (d.isCall = true → prog.idx ≠ obj.textShndx) := by
  cases d with
  | ld64 insnIdx mapIdx =>
    have hno : (RelocDesc.ld64 insnIdx mapIdx).isCall = true → False := fun h => by cases h
    rw [relocateOne] at hok
    by_cases hrange : insnIdx ≥ st.insns.length
    · rw [if_pos hrange] at hok
      cases hok
    · rw [if_neg hrange] at hok
      cases hmap : obj.maps[mapIdx]? with
      | none =>
        rw [hmap] at hok
        cases hok
      | some map =>
        rw [hmap] at hok
        cases hok
        have hnext := h.modify (fun hcall => (hno hcall).elim)
        simp only [RelocDesc.patch, hmap, Option.map_some, Option.getD_some] at hnext
        exact ⟨hnext, fun hcall => (hno hcall).elim⟩
  | call insnIdx textOff =>
    have hcall : (RelocDesc.call insnIdx textOff).isCall = true := rfl
    rw [relocateOne, bpfProgramRelocText] at hok
    by_cases htext : st.idx = obj.textShndx
    · rw [if_pos htext] at hok
      cases hok
    · rw [if_neg htext] at hok
      refine ⟨?_, fun _ => h.idx ▸ htext⟩
      obtain ⟨st₁, happend, hok⟩ := bind_eq_ok_iff.mp hok
      by_cases hrange : insnIdx ≥ st₁.insns.length
      · rw [if_pos hrange] at hok
        cases hok
      · rw [if_neg hrange] at hok
        cases hok
        rw [appendText] at happend
        by_cases hzero : st.mainProgCnt = 0
        · rw [if_pos hzero] at happend
          cases hfound : (bpfObjectFindProgByIdx obj obj.textShndx).bind (fun t => obj.programs[t]?) with
          | none =>
            rw [hfound] at happend
            cases happend
          | some text =>
            rw [hfound] at happend
            cases happend
            have hno : descs.any RelocDesc.isCall = false := by
              by_contra hany
              rw [Bool.not_eq_false] at hany
              have hcnt := h.mainCnt
              rw [hany, if_pos rfl, hzero] at hcnt
              omega
            have hnext := h.append hinside hno hcall
            have hlen : st.insns.length = prog.insns.length := by
              rw [h.length, hno]
              simp
            have htexts : textInsns obj = text.insns := by
              rw [textInsns, hfound]
              rfl
            rw [htexts] at hnext
            simp only [RelocDesc.patch, ← hlen] at hnext
            exact hnext
        · rw [if_neg hzero] at happend
          cases happend
          have hany : descs.any RelocDesc.isCall = true := by
            by_contra hno
            have hcnt := h.mainCnt
            rw [if_neg hno] at hcnt
            exact hzero hcnt
          have hnext := h.modify (fun _ => hany) (d := .call insnIdx textOff)
          have hcnt := h.mainCnt
          rw [hany, if_pos rfl] at hcnt
          simp only [RelocDesc.patch, ← hcnt] at hnext
          exact hnext

lemma Patched.fold {descs ds : List RelocDesc} {st st' : BpfProgram} (h : Patched obj prog descs st)
    (hinside : ∀ d ∈ descs ++ ds, d.insnIdx < prog.insns.length)
    (hno : descs.any RelocDesc.isCall = true → prog.idx ≠ obj.textShndx)
    (hok : ds.foldlM (relocateOne obj) st = .ok st') :
    Patched obj prog (descs ++ ds) st' ∧
      ((descs ++ ds).any RelocDesc.isCall = true → prog.idx ≠ obj.textShndx) := by
  induction ds generalizing descs st with
  | nil =>
    cases hok
    rw [List.append_nil]
    exact ⟨h, hno⟩
  | cons d ds ih =>
    rw [List.foldlM_cons] at hok
    obtain ⟨st₁, hstep, hrest⟩ := bind_eq_ok_iff.mp hok
    have hd : d.insnIdx < prog.insns.length := hinside d (by simp)
    obtain ⟨hnext, htext⟩ := h.step (fun d' hd' => hinside d' (List.mem_append_left _ hd')) hd hstep
    have hsplit : descs ++ d :: ds = (descs ++ [d]) ++ ds := by simp
    rw [hsplit] at hinside ⊢
    refine ih hnext hinside ?_ hrest
    rw [List.any_append, Bool.or_eq_true]
    rintro (hany | hany)
    · exact hno hany
    · exact htext (by simpa using hany)

/-- All relocations of a program, of which `.text` has none that is a call. -/
theorem patched_of_relocate {prog' : BpfProgram} (hfresh : prog.mainProgCnt = 0)
    (hinside : ∀ d ∈ prog.relocDesc, d.insnIdx < prog.insns.length)
    (hok : bpfProgramRelocate obj prog = .ok prog') :
    Patched obj prog prog.relocDesc prog' ∧
      (prog.relocDesc.any RelocDesc.isCall = true → prog.idx ≠ obj.textShndx) := by
  rw [bpfProgramRelocate] at hok
  obtain ⟨st, hfold, hst⟩ := bind_eq_ok_iff.mp hok
  cases hst
  have hstart : Patched obj prog [] prog := ⟨rfl, hfresh, fun i => by simp⟩
  obtain ⟨hpatched, htext⟩ := hstart.fold hinside (fun h => by cases h) hfold
  exact ⟨⟨hpatched.idx, hpatched.mainCnt, hpatched.get⟩, htext⟩

end Program

/-! ### All programs -/

/-- The object in which the program at a position is relocated. -/
def objectAt (obj obj' : BpfObject) (j : Nat) : BpfObject :=
  { obj with programs := obj'.programs.take j ++ obj.programs.drop j }

def relocateAt (obj : BpfObject) (i : Nat) : Except Failure BpfObject :=
  match obj.programs[i]? with
  | none => .error .fault
  | some prog => do
    let prog ← bpfProgramRelocate obj prog
    return { obj with programs := obj.programs.set i prog }

lemma relocated_prefix {obj obj' : BpfObject} {n : Nat} (h : (List.range n).foldlM relocateAt obj = .ok obj') :
    obj' = objectAt obj obj' n ∧ obj'.programs.length = obj.programs.length ∧
      ∀ j < n, ∀ prog, obj.programs[j]? = some prog → ∃ prog', obj'.programs[j]? = some prog' ∧
        bpfProgramRelocate (objectAt obj obj' j) prog = .ok prog' := by
  induction n generalizing obj' with
  | zero =>
    cases h
    exact ⟨by simp [objectAt], rfl, fun j hj => absurd hj (Nat.not_lt_zero j)⟩
  | succ n ih =>
    rw [List.range_succ, List.foldlM_append] at h
    obtain ⟨obj₁, hfirst, hlast⟩ := bind_eq_ok_iff.mp h
    obtain ⟨hobj, hlen, hall⟩ := ih hfirst
    rw [List.foldlM_cons] at hlast
    obtain ⟨obj₂, hstep, hdone⟩ := bind_eq_ok_iff.mp hlast
    cases hdone
    rw [relocateAt] at hstep
    cases hprog : obj₁.programs[n]? with
    | none =>
      rw [hprog] at hstep
      cases hstep
    | some prog =>
      rw [hprog] at hstep
      obtain ⟨prog', hok, hset⟩ := bind_eq_ok_iff.mp hstep
      cases hset
      have hlt : n < obj₁.programs.length := (List.getElem?_eq_some_iff.mp hprog).1
      have hrest (i : Nat) (hi : n ≤ i) : obj₁.programs[i]? = obj.programs[i]? := by
        have hget := congrArg (fun o => o.programs[i]?) hobj
        simp only [objectAt] at hget
        rw [hget, List.getElem?_append_right (by simp; omega), List.getElem?_drop, List.length_take]
        congr 1
        omega
      have hsame (j : Nat) (hj : j ≤ n) :
          objectAt obj { obj₁ with programs := obj₁.programs.set n prog' } j = objectAt obj obj₁ j := by
        simp only [objectAt, List.take_set_of_le hj]
      refine ⟨?_, by simpa using hlen, ?_⟩
      · have hfields : { obj₁ with programs := obj₁.programs.set n prog' } =
            { obj with programs := obj₁.programs.set n prog' } :=
          congrArg (fun o => { o with programs := obj₁.programs.set n prog' }) hobj
        have hprogs : obj₁.programs.set n prog' =
            (obj₁.programs.set n prog').take (n + 1) ++ obj.programs.drop (n + 1) := by
          have hdrop : (obj₁.programs.set n prog').drop (n + 1) = obj.programs.drop (n + 1) := by
            apply List.ext_getElem?
            intro i
            rw [List.getElem?_drop, List.getElem?_drop, List.getElem?_set_ne (by omega), hrest _ (by omega)]
          rw [← hdrop, List.take_append_drop]
        rw [objectAt, ← hprogs]
        exact hfields
      · intro j hj p hp
        by_cases hjn : j = n
        · subst hjn
          rw [hrest j (Nat.le_refl j), hp] at hprog
          cases hprog
          refine ⟨prog', List.getElem?_set_self hlt, ?_⟩
          rw [hsame j (Nat.le_refl j), ← hobj]
          exact hok
        · obtain ⟨p', hp', hokp⟩ := hall j (by omega) p hp
          refine ⟨p', ?_, ?_⟩
          · rw [List.getElem?_set_ne (by omega)]
            exact hp'
          · rw [hsame j (by omega)]
            exact hokp

/-! ### The collected relocations -/

/-- The same programs with other collected relocations. -/
structure SameCode (obj obj' : BpfObject) : Prop where
  maps : obj'.maps = obj.maps
  mapsShndx : obj'.mapsShndx = obj.mapsShndx
  textShndx : obj'.textShndx = obj.textShndx
  idx : obj'.programs.map BpfProgram.idx = obj.programs.map BpfProgram.idx
  btf : obj'.btf = obj.btf

lemma collectOne_congr {obj obj' : BpfObject} (h : SameCode obj obj') (prog : BpfProgram) (descs : List RelocDesc) :
    collectOne obj' { prog with relocDesc := descs } = collectOne obj prog := by
  funext entry
  unfold collectOne
  rw [h.maps, h.mapsShndx, h.textShndx]

lemma idx_eq_of_find {obj : BpfObject} {idx : Int} {k : Nat} (h : bpfObjectFindProgByIdx obj idx = some k)
    {prog : BpfProgram} (hprog : obj.programs[k]? = some prog) : prog.idx = idx := by
  obtain ⟨hlt, hidx, -⟩ := List.findIdx?_eq_some_iff_getElem.mp h
  obtain ⟨_, rfl⟩ := List.getElem?_eq_some_iff.mp hprog
  exact of_decide_eq_true hidx

lemma position_unique {obj : BpfObject} (h : (obj.programs.map BpfProgram.idx).Nodup) {i j : Nat}
    {p q : BpfProgram} (hp : obj.programs[i]? = some p) (hq : obj.programs[j]? = some q)
    (hidx : p.idx = q.idx) : i = j := by
  obtain ⟨hi, rfl⟩ := List.getElem?_eq_some_iff.mp hp
  obtain ⟨hj, rfl⟩ := List.getElem?_eq_some_iff.mp hq
  have hsame : (obj.programs.map BpfProgram.idx)[i]? = (obj.programs.map BpfProgram.idx)[j]? := by
    simp [hi, hj, hidx]
  exact (List.getElem?_inj (by simpa using hi) h).mp hsame

/-- What a section of relocations that is read has and leaves. -/
lemma collectSection_cases {obj obj' : BpfObject} {sec : RelSection} (h : collectSection obj sec = .ok obj') :
    sec.isRel = true ∧ sec.entsize ≠ 0 ∧ ∃ k prog descs, bpfObjectFindProgByIdx obj sec.info = some k ∧
      obj.programs[k]? = some prog ∧ sec.entries.mapM (collectOne obj prog) = .ok descs ∧
      obj' = { obj with
        programs := obj.programs.set k { prog with relocDesc := descs }
        hasPseudoCalls := obj.hasPseudoCalls || descs.any RelocDesc.isCall } := by
  rw [collectSection] at h
  by_cases hrel : (!sec.isRel) = true
  · rw [if_pos hrel] at h
    cases h
  · rw [if_neg hrel] at h
    cases hfind : bpfObjectFindProgByIdx obj sec.info with
    | none =>
      rw [hfind] at h
      cases h
    | some k =>
      rw [hfind] at h
      cases hprog : obj.programs[k]? with
      | none =>
        simp only [hprog] at h
        cases h
      | some prog =>
        simp only [hprog] at h
        by_cases hsize : sec.entsize = 0
        · rw [if_pos hsize] at h
          cases h
        rw [if_neg hsize] at h
        obtain ⟨prog', hcollect, hset⟩ := bind_eq_ok_iff.mp h
        cases hset
        obtain ⟨descs, hdescs, hdone⟩ := bind_eq_ok_iff.mp hcollect
        cases hdone
        exact ⟨by simpa using hrel, hsize, k, prog, descs, rfl, hprog, hdescs, rfl⟩

lemma collectSection_ok {obj obj' : BpfObject} {sec : RelSection} (h : collectSection obj sec = .ok obj') :
    SameCode obj obj' ∧ ∃ k prog descs, obj.programs[k]? = some prog ∧ prog.idx = sec.info ∧
      sec.entries.mapM (collectOne obj prog) = .ok descs ∧
      obj'.programs = obj.programs.set k { prog with relocDesc := descs } := by
  obtain ⟨-, -, k, prog, descs, hfind, hprog, hdescs, rfl⟩ := collectSection_cases h
  refine ⟨⟨rfl, rfl, rfl, ?_, rfl⟩, k, prog, descs, hprog, idx_eq_of_find hfind hprog, hdescs, rfl⟩
  obtain ⟨hlt, hget⟩ := List.getElem?_eq_some_iff.mp hprog
  have hself : (obj.programs.map BpfProgram.idx).set k prog.idx = obj.programs.map BpfProgram.idx := by
    have hlt' : k < (obj.programs.map BpfProgram.idx).length := by simpa using hlt
    have hidx : prog.idx = (obj.programs.map BpfProgram.idx)[k] := by simp [hget]
    rw [hidx, List.set_getElem_self]
  rw [List.map_set]
  exact hself

/-- What has been collected for each program when all sections have been read. -/
theorem collected {obj obj' : BpfObject} {sections : List RelSection}
    (hidx : (obj.programs.map BpfProgram.idx).Nodup) (hinfo : (sections.map RelSection.info).Nodup)
    (h : bpfObjectCollectReloc obj sections = .ok obj') :
    SameCode obj obj' ∧ ∀ (j : Nat) prog, obj.programs[j]? = some prog →
      ∃ descs, obj'.programs[j]? = some { prog with relocDesc := descs } ∧
        match sections.find? (fun sec => sec.info = prog.idx) with
        | none => descs = prog.relocDesc
        | some sec => sec.entries.mapM (collectOne obj prog) = .ok descs := by
  rw [bpfObjectCollectReloc] at h
  induction sections generalizing obj with
  | nil =>
    cases h
    exact ⟨⟨rfl, rfl, rfl, rfl, rfl⟩, fun j prog hprog => ⟨prog.relocDesc, hprog, rfl⟩⟩
  | cons sec sections ih =>
    rw [List.foldlM_cons] at h
    obtain ⟨obj₁, hsec, hrest⟩ := bind_eq_ok_iff.mp h
    obtain ⟨hsame, k, progk, descsk, hk, hkinfo, hcollect, hset⟩ := collectSection_ok hsec
    rw [List.map_cons, List.nodup_cons] at hinfo
    obtain ⟨hsame', hall⟩ := ih (hsame.idx ▸ hidx) hinfo.2 hrest
    refine ⟨⟨hsame'.maps.trans hsame.maps, hsame'.mapsShndx.trans hsame.mapsShndx,
      hsame'.textShndx.trans hsame.textShndx, hsame'.idx.trans hsame.idx, hsame'.btf.trans hsame.btf⟩, ?_⟩
    intro j prog hprog
    by_cases hjk : k = j
    · subst hjk
      rw [hk] at hprog
      cases hprog
      have hlt := (List.getElem?_eq_some_iff.mp hk).1
      obtain ⟨descs, hdescs, hfound⟩ := hall k { progk with relocDesc := descsk }
        (by rw [hset, List.getElem?_set_self hlt])
      have hnone : sections.find? (fun s => s.info = progk.idx) = none := by
        rw [List.find?_eq_none]
        intro s hs hinfo'
        rw [hkinfo] at hinfo'
        exact hinfo.1 (List.mem_map.mpr ⟨s, hs, of_decide_eq_true hinfo'⟩)
      simp only [hnone] at hfound
      subst hfound
      refine ⟨descs, hdescs, ?_⟩
      rw [List.find?_cons_of_pos (by simp [hkinfo])]
      exact hcollect
    · have hne : sec.info ≠ prog.idx := by
        intro heq
        exact hjk (position_unique hidx hk hprog (hkinfo.trans heq))
      obtain ⟨descs, hdescs, hfound⟩ := hall j prog (by rw [hset, List.getElem?_set_ne hjk, hprog])
      refine ⟨descs, hdescs, ?_⟩
      rw [List.find?_cons_of_neg (by simpa using hne)]
      have hone : collectOne obj₁ prog = collectOne obj prog := collectOne_congr hsame prog prog.relocDesc
      rw [hone] at hfound
      exact hfound

/-! ### References -/

/-- The relocations of a program and what was collected from them. -/
abbrev CollectedFrom (obj : BpfObject) (prog : BpfProgram) : List ElfRel → List RelocDesc → Prop :=
  List.Forall₂ (fun rel d => collectOne obj prog (some rel) = .ok d)

lemma collectedFrom_of_entries {obj : BpfObject} {prog : BpfProgram} {entries : List (Option ElfRel)}
    {descs : List RelocDesc} (h : List.Forall₂ (fun entry d => collectOne obj prog entry = .ok d) entries descs) :
    CollectedFrom obj prog (entries.filterMap id) descs := by
  induction h with
  | nil => exact .nil
  | @cons entry d entries descs hd _ ih =>
    cases entry with
    | none => cases hd
    | some rel => exact .cons hd ih

/-- What one relocation is collected as: a call through a symbol, or a map by its offset. -/
lemma collectOne_ok {obj : BpfObject} {prog : BpfProgram} {rel : ElfRel} {d : RelocDesc}
    (h : collectOne obj prog (some rel) = .ok d) :
    ∃ sym insn, rel.sym = some sym ∧ prog.insns[rel.insnIdx]? = some insn ∧
      (insn.code = bpfCall ∧ insn.srcReg = bpfPseudoCall ∧ d = .call rel.insnIdx sym.value ∨
        insn.code = bpfLdImm64 ∧ ∃ mapIdx, obj.maps.findIdx? (fun map => map.offset = sym.value) = some mapIdx ∧
          d = .ld64 rel.insnIdx mapIdx) := by
  rw [collectOne] at h
  cases hsym : rel.sym with
  | none =>
    rw [hsym] at h
    cases h
  | some sym =>
    simp only [hsym] at h
    split at h
    · cases h
    · cases hinsn : prog.insns[rel.insnIdx]? with
      | none =>
        simp only [hinsn] at h
        cases h
      | some insn =>
        simp only [hinsn] at h
        refine ⟨sym, insn, rfl, rfl, ?_⟩
        by_cases hcall : insn.code = bpfCall
        · rw [if_pos hcall] at h
          by_cases hsrc : insn.srcReg = bpfPseudoCall
          · rw [if_neg (not_not.mpr hsrc)] at h
            cases h
            exact .inl ⟨hcall, hsrc, rfl⟩
          · rw [if_pos hsrc] at h
            cases h
        · rw [if_neg hcall] at h
          by_cases hld : insn.code = bpfLdImm64
          · rw [if_neg (not_not.mpr hld)] at h
            cases hmap : obj.maps.findIdx? (fun map => map.offset = sym.value) with
            | none =>
              rw [hmap] at h
              cases h
            | some mapIdx =>
              rw [hmap] at h
              cases h
              exact .inr ⟨hld, mapIdx, rfl, rfl⟩
          · rw [if_pos hld] at h
            cases h

lemma insnIdx_of_collectOne {obj : BpfObject} {prog : BpfProgram} {rel : ElfRel} {d : RelocDesc}
    (h : collectOne obj prog (some rel) = .ok d) : d.insnIdx = rel.insnIdx := by
  obtain ⟨sym, insn, -, -, ⟨-, -, rfl⟩ | ⟨-, mapIdx, -, rfl⟩⟩ := collectOne_ok h <;> rfl

lemma collectedFrom_filter {obj : BpfObject} {prog : BpfProgram} {rels : List ElfRel} {descs : List RelocDesc}
    (h : CollectedFrom obj prog rels descs) (i : Nat) :
    CollectedFrom obj prog (rels.filter (fun rel => rel.insnIdx = i)) (descs.filter (fun d => d.insnIdx = i)) := by
  refine List.rel_filter ?_ h
  intro rel d hrel
  simp only [decide_eq_true_eq, insnIdx_of_collectOne hrel]

lemma inside_of_collectedFrom {obj : BpfObject} {prog : BpfProgram} {rels : List ElfRel} {descs : List RelocDesc}
    (h : CollectedFrom obj prog rels descs) : ∀ d ∈ descs, d.insnIdx < prog.insns.length := by
  induction h with
  | nil => simp
  | cons hd _ ih =>
    refine List.forall_mem_cons.mpr ⟨?_, ih⟩
    obtain ⟨sym, insn, -, hinsn, -⟩ := collectOne_ok hd
    rw [insnIdx_of_collectOne hd]
    exact (List.getElem?_eq_some_iff.mp hinsn).1

/-! ### Meanings -/

/-- How the meaning of an instruction of the object file shows in the loaded instruction. -/
inductive Shows (obj : BpfObject) (descs : List RelocDesc) (rels : List ElfRel) (mainCnt : Nat) (p : Place)
    (insn loaded : BpfInsn) : Meaning Place → Prop where
  | own : loaded = insn → Shows obj descs rels mainCnt p insn loaded (Meaning.own Place.shift p insn)
  | loadMap (fd : BitVec 32) : insn.code = bpfLdImm64 →
      loaded = { insn with srcReg := bpfPseudoMapFd, imm := fd } →
      Shows obj descs rels mainCnt p insn loaded (.loadMap insn.dstReg fd)
  | callTo (rel : ElfRel) (sym : ElfSym) : rel ∈ rels → rel.sym = some sym → sym.shndx = obj.textShndx →
      insn.code = bpfCall → insn.srcReg = bpfPseudoCall → descs.any RelocDesc.isCall = true →
      loaded = { insn with imm := insn.imm + (BitVec.ofNat 32 mainCnt - p.index) } →
      Shows obj descs rels mainCnt p insn loaded (.callTo ⟨.text, namedIndex sym insn⟩)

lemma find_of_findIdx {maps maps' : List BpfMap} (hoffset : maps'.map BpfMap.offset = maps.map BpfMap.offset)
    {value : BitVec 64} {k : Nat} (h : maps.findIdx? (fun map => map.offset = value) = some k) :
    maps'.find? (fun map => map.offset = value) = maps'[k]? := by
  have hidx : maps'.findIdx? (fun map => map.offset = value) = some k := by
    have hmap (l : List BpfMap) : l.findIdx? (fun map => map.offset = value) =
        (l.map BpfMap.offset).findIdx? (fun o => o = value) := by
      rw [List.findIdx?_map]
      rfl
    rw [hmap, hoffset, ← hmap, h]
  rw [List.find?_eq_bind_findIdx?_getElem?, hidx]
  rfl

/-- What the collected relocations make of one instruction is what the file says about it. -/
lemma shows_of_linked {obj : BpfObject} {maps : List BpfMap} {prog : BpfProgram} {c : LinkedSec}
    {descs : List RelocDesc} (hcol : CollectedFrom obj prog (c.rels.filterMap id) descs)
    (hoffset : maps.map BpfMap.offset = obj.maps.map BpfMap.offset) (mainCnt : Nat) {p : Place} {insn : BpfInsn}
    (hinsn : prog.insns[p.index.toNat]? = some insn) {m : Meaning Place}
    (hm : linkedMeaning { obj with maps := maps } c p insn = some m) :
    Shows obj descs (c.rels.filterMap id) mainCnt p insn
      ((descs.filter (fun d => d.insnIdx = p.index.toNat)).foldl (RelocDesc.patch maps mainCnt) insn) m := by
  have hfilter := collectedFrom_filter hcol p.index.toNat
  rw [linkedMeaning, LinkedSec.relsAt] at hm
  cases hrels : (c.rels.filterMap id).filter (fun rel => rel.insnIdx = p.index.toNat) with
  | nil =>
    rw [hrels] at hm hfilter
    cases hm
    rw [List.forall₂_nil_left_iff.mp hfilter]
    exact .own rfl
  | cons rel rest =>
    rw [hrels] at hm hfilter
    cases rest with
    | cons => cases hm
    | nil =>
      obtain ⟨d, ds, hd, hds, hdescs⟩ := List.forall₂_cons_left_iff.mp hfilter
      rw [List.forall₂_nil_left_iff.mp hds] at hdescs
      have hin : rel ∈ (c.rels.filterMap id).filter (fun rel => rel.insnIdx = p.index.toNat) := by
        rw [hrels]
        exact List.mem_singleton.mpr rfl
      have hdin : d ∈ descs.filter (fun d => d.insnIdx = p.index.toNat) := by
        rw [hdescs]
        exact List.mem_singleton.mpr rfl
      obtain ⟨hmem, hidx⟩ := List.mem_filter.mp hin
      have hindex : rel.insnIdx = p.index.toNat := of_decide_eq_true hidx
      obtain ⟨sym, insn', hsym, hinsn', hkind⟩ := collectOne_ok hd
      rw [hindex, hinsn] at hinsn'
      cases hinsn'
      simp only [hsym, Option.bind_some, relocatedMeaning] at hm
      rw [hdescs, List.foldl_cons, List.foldl_nil]
      rcases hkind with ⟨hcode, hsrc, rfl⟩ | ⟨hcode, mapIdx, hfound, rfl⟩
      · have hne : bpfCall ≠ bpfLdImm64 := by decide
        by_cases htext : sym.shndx = obj.textShndx
        · rw [if_pos ⟨hcode, hsrc, htext⟩] at hm
          cases hm
          have hany : descs.any RelocDesc.isCall = true :=
            List.any_eq_true.mpr ⟨_, List.mem_of_mem_filter hdin, rfl⟩
          refine .callTo rel sym hmem hsym htext hcode hsrc hany ?_
          rw [RelocDesc.patch, hindex, BitVec.ofNat_toNat, BitVec.setWidth_eq]
        · rw [if_neg (fun h => htext h.2.2), if_neg (fun h => hne (hcode.symm.trans h.1))] at hm
          cases hm
      · have hne : bpfLdImm64 ≠ bpfCall := by decide
        rw [if_neg (fun h => hne (hcode.symm.trans h.1))] at hm
        by_cases hmaps : sym.shndx = obj.mapsShndx
        · rw [if_pos ⟨hcode, hmaps⟩, find_of_findIdx hoffset hfound] at hm
          obtain ⟨map, hmap, rfl⟩ := Option.map_eq_some_iff.mp hm
          refine .loadMap _ hcode ?_
          rw [RelocDesc.patch, hmap]
          rfl
        · rw [if_neg (fun h => hmaps h.2)] at hm
          cases hm

/-- A call names a function of `.text` by its offset alone, which the compiler does for functions
that are local to the file: the symbol is that of the section. -/
def ThroughSection (obj : BpfObject) (rels : List ElfRel) : Prop :=
  ∀ rel ∈ rels, ∀ sym, rel.sym = some sym → sym.shndx = obj.textShndx →
    BitVec.ofNat 32 (sym.value.toNat / 8) = 0

lemma loadedAt_shift (mainCnt : Nat) (p : Place) (d : BitVec 32) :
    (p.shift d).loadedAt mainCnt = p.loadedAt mainCnt + d := by
  obtain ⟨sec, index⟩ := p
  cases sec with
  | main => rfl
  | text => exact (BitVec.add_assoc ..).symm

section Shows

variable {obj : BpfObject} {descs : List RelocDesc} {rels : List ElfRel} {mainCnt : Nat} {p : Place}
  {insn loaded : BpfInsn}

/-- A call that is relocated leads to the number in the instruction, counted from the functions. -/
lemma own_relocated {i cnt : BitVec 32} (hcode : insn.code = bpfCall) (hsrc : insn.srcReg = bpfPseudoCall)
    (h : loaded = { insn with imm := insn.imm + (cnt - i) }) :
    Meaning.own (· + ·) i loaded = .callTo (cnt + (1 + insn.imm)) := by
  have hcode' : loaded.code = bpfCall := h ▸ hcode
  have hsrc' : loaded.srcReg = bpfPseudoCall := h ▸ hsrc
  have hne : loaded.code ≠ bpfLdImm64 := by
    rw [hcode']
    decide
  have himm : loaded.imm = insn.imm + (cnt - i) := by rw [h]
  rw [Meaning.own, if_neg (fun h => hne h.1), if_pos ⟨hcode', hsrc'⟩, himm]
  congr 1
  bv_omega

lemma own_of_shows {m : Meaning Place} {cnt : Nat} (h : Shows obj descs rels cnt p insn loaded m)
    (hcalls : descs.any RelocDesc.isCall = true → p.sec = .main ∧ cnt = mainCnt ∧ ThroughSection obj rels) :
    Meaning.own (· + ·) (p.loadedAt mainCnt) loaded = m.map (Place.loadedAt mainCnt) := by
  cases h with
  | own heq =>
    rw [heq]
    exact (Meaning.map_own (loadedAt_shift mainCnt) p insn).symm
  | loadMap fd hcode heq =>
    rw [heq, Meaning.own, if_pos ⟨hcode, rfl⟩]
    rfl
  | callTo rel sym hmem hsym htext hcode hsrc hany heq =>
    obtain ⟨hmain, rfl, hthrough⟩ := hcalls hany
    have hat : p.loadedAt cnt = p.index := by rw [Place.loadedAt, hmain]
    have hzero : BitVec.ofNat 32 (sym.value.toNat / 8) = 0 := hthrough rel hmem sym hsym htext
    rw [hat, own_relocated hcode hsrc heq, Meaning.map, Place.loadedAt, namedIndex, hzero]
    simp

end Shows

/-! ### Loaded objects -/

/-- What holds of the sections of an object file when it has just been read. -/
structure Compiled (obj : BpfObject) (sections : List RelSection) : Prop where
  idx : (obj.programs.map BpfProgram.idx).Nodup
  info : (sections.map RelSection.info).Nodup
  fresh : ∀ prog ∈ obj.programs, prog.mainProgCnt = 0 ∧ prog.relocDesc = []
  small : ∀ p ∈ obj.programs, ∀ q ∈ obj.programs, p.insns.length + q.insns.length ≤ 2 ^ 32

lemma textInsns_of_position {obj : BpfObject} (h : (obj.programs.map BpfProgram.idx).Nodup) {t : Nat}
    {text : BpfProgram} (ht : obj.programs[t]? = some text) (hidx : text.idx = obj.textShndx) :
    textInsns obj = text.insns := by
  have hfind : bpfObjectFindProgByIdx obj obj.textShndx = some t := by
    cases hf : bpfObjectFindProgByIdx obj obj.textShndx with
    | none =>
      have hall := List.findIdx?_eq_none_iff.mp hf text (List.mem_of_getElem? ht)
      rw [decide_eq_false_iff_not] at hall
      exact absurd hidx hall
    | some t' =>
      obtain ⟨hlt, -⟩ := List.findIdx?_eq_some_iff_getElem.mp hf
      have hget : obj.programs[t']? = some obj.programs[t'] := List.getElem?_eq_getElem hlt
      rw [position_unique h ht hget (hidx.trans (idx_eq_of_find hf hget).symm)]
  rw [textInsns, hfind, Option.bind_some, ht]
  rfl

lemma collectedFrom_of_match {obj : BpfObject} {sections : List RelSection} (hc : Compiled obj sections)
    {j : Nat} {prog : BpfProgram} (hprog : obj.programs[j]? = some prog) {descs : List RelocDesc}
    (h : match sections.find? (fun sec => sec.info = prog.idx) with
      | none => descs = prog.relocDesc
      | some sec => sec.entries.mapM (collectOne obj prog) = .ok descs) :
    CollectedFrom obj prog ((relsOf sections prog.idx).filterMap id) descs := by
  rw [relsOf]
  cases hfind : sections.find? (fun sec => sec.info = prog.idx) with
  | none =>
    simp only [hfind] at h
    rw [h, (hc.fresh prog (List.mem_of_getElem? hprog)).2]
    exact .nil
  | some sec =>
    simp only [hfind] at h
    exact collectedFrom_of_entries (forall₂_of_mapM h)

/-- The same object with descriptors of its maps. -/
structure Equipped (obj obj' : BpfObject) : Prop where
  programs : obj'.programs = obj.programs
  textShndx : obj'.textShndx = obj.textShndx
  offset : obj'.maps.map BpfMap.offset = obj.maps.map BpfMap.offset

lemma relocate_parts {obj obj' : BpfObject} (h : bpfObjectRelocate obj = .ok obj') :
    obj'.maps = obj.maps ∧ obj'.programs.length = obj.programs.length ∧
      ∀ (j : Nat) prog, obj.programs[j]? = some prog → ∃ prog', obj'.programs[j]? = some prog' ∧
        bpfProgramRelocate (objectAt obj obj' j) prog = .ok prog' := by
  have hfold : (List.range obj.programs.length).foldlM relocateAt obj = .ok obj' := h
  obtain ⟨hobj', hlen, hrelocated⟩ := relocated_prefix hfold
  refine ⟨?_, hlen, fun j prog hprog => hrelocated j (List.getElem?_eq_some_iff.mp hprog).1 prog hprog⟩
  rw [hobj']
  rfl

lemma capsName_of_relocate {obj obj' : BpfObject} (h : bpfObjectRelocate obj = .ok obj') :
    obj'.capsName = obj.capsName := by
  have hfold : (List.range obj.programs.length).foldlM relocateAt obj = .ok obj' := h
  obtain ⟨hobj', -, -⟩ := relocated_prefix hfold
  rw [hobj']
  rfl

lemma maps_objectAt {obj obj' : BpfObject} (h : bpfObjectRelocate obj = .ok obj') (j : Nat) :
    (objectAt obj obj' j).maps = obj'.maps := (relocate_parts h).1.symm

section Load

variable {obj obj₁ objm obj₂ : BpfObject} {sections : List RelSection}
  (hc : Compiled obj sections) (hcollect : bpfObjectCollectReloc obj sections = .ok obj₁)
  (hmaps : Equipped obj₁ objm) (hload : bpfObjectRelocate objm = .ok obj₂)
include hc hcollect hmaps hload

/-- Each program is relocated in an object with the maps of the end, after the ones before it. -/
theorem loaded_program {k : Nat} {prog : BpfProgram} (hprog : obj.programs[k]? = some prog) :
    ∃ loaded descs, obj₂.programs[k]? = some loaded ∧
      CollectedFrom obj prog ((relsOf sections prog.idx).filterMap id) descs ∧
      Patched (objectAt objm obj₂ k) prog descs loaded ∧
      (descs.any RelocDesc.isCall = true → prog.idx ≠ obj.textShndx) ∧
      obj₂.maps.map BpfMap.offset = obj.maps.map BpfMap.offset := by
  obtain ⟨hsame, hall⟩ := collected hc.idx hc.info hcollect
  obtain ⟨hsamemaps, -, hrelocated⟩ := relocate_parts hload
  obtain ⟨descs, hdescs, hfound⟩ := hall k prog hprog
  rw [← hmaps.programs] at hdescs
  obtain ⟨loaded, hloaded, hok⟩ := hrelocated k _ hdescs
  have hcol := collectedFrom_of_match hc hprog hfound
  have hfresh := (hc.fresh prog (List.mem_of_getElem? hprog)).1
  have hfresh' : ({ prog with relocDesc := descs } : BpfProgram).mainProgCnt = 0 := hfresh
  obtain ⟨hpatched, htext⟩ := patched_of_relocate hfresh' (inside_of_collectedFrom hcol) hok
  refine ⟨loaded, descs, hloaded, hcol, ⟨hpatched.idx, hpatched.mainCnt, hpatched.get⟩, ?_, ?_⟩
  · intro hany
    exact fun heq => htext hany (heq.trans (hmaps.textShndx.trans hsame.textShndx).symm)
  · rw [hsamemaps, hmaps.offset, hsame.maps]

/-- The functions a program gets are those of the end. -/
lemma textInsns_at {k t : Nat} {text lt : BpfProgram} (ht : obj.programs[t]? = some text)
    (hidx : text.idx = obj.textShndx) (hlt : obj₂.programs[t]? = some lt)
    (hk : k < obj.programs.length) (horder : t < k ∨ lt.insns = text.insns) :
    textInsns (objectAt objm obj₂ k) = lt.insns := by
  obtain ⟨hsame, hall⟩ := collected hc.idx hc.info hcollect
  obtain ⟨-, hlen₂, -⟩ := relocate_parts hload
  have hlen₁ : obj₁.programs.length = obj.programs.length := by
    rw [← List.length_map BpfProgram.idx, hsame.idx, List.length_map]
  have hat (i : Nat) : (objectAt objm obj₂ k).programs[i]? =
      if i < k then obj₂.programs[i]? else obj₁.programs[i]? := by
    rw [objectAt, hmaps.programs]
    rw [hmaps.programs] at hlen₂
    by_cases hi : i < k
    · rw [if_pos hi, List.getElem?_append_left (by simp; omega), List.getElem?_take_of_lt hi]
    · rw [if_neg hi, List.getElem?_append_right (by simp; omega), List.getElem?_drop, List.length_take]
      congr 1
      omega
  have hidxs : (objectAt objm obj₂ k).programs.map BpfProgram.idx =
      obj.programs.map BpfProgram.idx := by
    apply List.ext_getElem?
    intro i
    rw [List.getElem?_map, List.getElem?_map, hat]
    cases hi : obj.programs[i]? with
    | none =>
      have hle := List.getElem?_eq_none_iff.mp hi
      rw [hmaps.programs] at hlen₂
      rw [List.getElem?_eq_none (by omega), List.getElem?_eq_none (by omega), ite_self]
    | some prog =>
      obtain ⟨loaded, descs, hloaded, -, hpatched, -⟩ := loaded_program hc hcollect hmaps hload hi
      obtain ⟨descs', hdescs', -⟩ := hall i prog hi
      rw [hloaded, hdescs']
      split
      · exact congrArg some hpatched.idx
      · rfl
  have hshndx : (objectAt objm obj₂ k).textShndx = obj.textShndx := hmaps.textShndx.trans hsame.textShndx
  have hnodup := hidxs ▸ hc.idx
  by_cases hlate : t < k
  · have hget : (objectAt objm obj₂ k).programs[t]? = some lt := by
      rw [hat, if_pos hlate, hlt]
    obtain ⟨lt', descs, hlt', -, hpatched, -⟩ := loaded_program hc hcollect hmaps hload ht
    rw [hlt] at hlt'
    cases hlt'
    exact textInsns_of_position hnodup hget (hpatched.idx.trans (hidx.trans hshndx.symm))
  · obtain ⟨descs, hdescs, -⟩ := hall t text ht
    have hget : (objectAt objm obj₂ k).programs[t]? =
        some { text with relocDesc := descs } := by
      rw [hat, if_neg hlate, hdescs]
    rw [textInsns_of_position hnodup hget (hidx.trans hshndx.symm)]
    exact (horder.resolve_left hlate).symm

/-- The functions where they are in the loaded program. -/
lemma loaded_text {k t : Nat} {prog text : BpfProgram} (hprog : obj.programs[k]? = some prog)
    (ht : obj.programs[t]? = some text) (hidx : text.idx = obj.textShndx)
    (horder : t < k ∨ relsOf sections text.idx = []) :
    ∃ lt descs, obj₂.programs[t]? = some lt ∧
      CollectedFrom obj text ((relsOf sections text.idx).filterMap id) descs ∧
      descs.any RelocDesc.isCall = false ∧
      textInsns (objectAt objm obj₂ k) = lt.insns ∧
      ∀ i, lt.insns[i]? = (text.insns[i]?).map (fun insn =>
        (descs.filter (fun d => d.insnIdx = i)).foldl (RelocDesc.patch obj₂.maps text.insns.length) insn) := by
  obtain ⟨lt, descs, hlt, hcol, hpatched, htext, -⟩ := loaded_program hc hcollect hmaps hload ht
  have hno : descs.any RelocDesc.isCall = false := by
    by_contra hany
    exact htext (Bool.not_eq_false _ ▸ hany) hidx
  have hget (i : Nat) : lt.insns[i]? = (text.insns[i]?).map (fun insn =>
      (descs.filter (fun d => d.insnIdx = i)).foldl (RelocDesc.patch obj₂.maps text.insns.length) insn) := by
    rw [hpatched.get i, hno, if_neg Bool.false_ne_true, List.append_nil, maps_objectAt hload]
  refine ⟨lt, descs, hlt, hcol, hno, ?_, hget⟩
  apply textInsns_at hc hcollect hmaps hload ht hidx hlt (List.getElem?_eq_some_iff.mp hprog).1
  apply horder.imp_right
  intro hrels
  rw [hrels] at hcol
  rw [List.forall₂_nil_left_iff.mp hcol] at hget
  apply List.ext_getElem?
  intro i
  rw [hget i]
  simp

end Load

/-- Calls and jumps stay among the places that are loaded. -/
lemma within_of_behave {σ : Type} {isa : Isa σ} {P : Place → Prop} (hshift : ∀ p d, P p → P (p.shift d))
    {p : Place} (hp : P p) {m : Meaning Place} (hm : ∀ target, m = .callTo target → P target) {s : σ}
    {f : Flow Place σ} (hf : m.behave isa Place.shift p s = some f) : f.Within P := by
  cases m with
  | loadMap dst fd =>
    cases hf
    exact hshift p 2 hp
  | callTo target =>
    cases hf
    exact ⟨hm target rfl, hshift p 1 hp⟩
  | plain insn =>
    obtain ⟨eff, -, rfl⟩ := Option.map_eq_some_iff.mp hf
    cases eff with
    | next s => exact hshift p 1 hp
    | jump off s => exact hshift p _ hp
    | exit s => trivial

lemma Shows.callTo_cases {obj : BpfObject} {descs : List RelocDesc} {rels : List ElfRel} {mainCnt : Nat}
    {p : Place} {insn loaded : BpfInsn} {m : Meaning Place} (h : Shows obj descs rels mainCnt p insn loaded m)
    {target : Place} (hm : m = .callTo target) :
    target.sec = p.sec ∨ descs.any RelocDesc.isCall = true := by
  cases h with
  | own _ =>
    unfold Meaning.own at hm
    split at hm
    · cases hm
    · split at hm
      · cases hm
        exact .inl rfl
      · cases hm
  | loadMap => cases hm
  | callTo rel sym _ _ _ _ _ hany _ => exact .inr hany

lemma loadedFetch_of_own {σ : Type} {isa : Isa σ} {insns : List BpfInsn} {mainCnt : Nat} {p : Place}
    {loaded : BpfInsn} {m : Meaning Place} (hat : insns[(p.loadedAt mainCnt).toNat]? = some loaded)
    (hown : Meaning.own (· + ·) (p.loadedAt mainCnt) loaded = m.map (Place.loadedAt mainCnt)) (s : σ) :
    loadedFetch isa insns (p.loadedAt mainCnt) s =
      (m.behave isa Place.shift p s).map (Flow.map (Place.loadedAt mainCnt)) := by
  rw [loadedFetch, hat]
  simp only [hown]
  exact Meaning.behave_map isa (loadedAt_shift mainCnt) p m s

/-- A call with one relocation. -/
lemma call_collected {obj : BpfObject} {prog : BpfProgram} {rels : List ElfRel} {descs : List RelocDesc}
    (hcol : CollectedFrom obj prog rels descs) {i : Nat} {insn : BpfInsn} (hinsn : prog.insns[i]? = some insn)
    (hcode : insn.code = bpfCall) {rel : ElfRel} {sym : ElfSym}
    (hrel : rels.filter (fun rel => rel.insnIdx = i) = [rel]) (hsym : rel.sym = some sym) :
    descs.filter (fun d => d.insnIdx = i) = [.call i sym.value] ∧ insn.srcReg = bpfPseudoCall := by
  have hfilter := collectedFrom_filter hcol i
  rw [hrel] at hfilter
  obtain ⟨d, ds, hd, hds, hdescs⟩ := List.forall₂_cons_left_iff.mp hfilter
  rw [List.forall₂_nil_left_iff.mp hds] at hdescs
  have hin : rel ∈ rels.filter (fun rel => rel.insnIdx = i) := by
    rw [hrel]
    exact List.mem_singleton.mpr rfl
  have hindex : rel.insnIdx = i := of_decide_eq_true (List.mem_filter.mp hin).2
  obtain ⟨sym', insn', hsym', hinsn', hkind⟩ := collectOne_ok hd
  rw [hindex, hinsn] at hinsn'
  rw [hsym] at hsym'
  cases hinsn'
  cases hsym'
  rcases hkind with ⟨-, hsrc, rfl⟩ | ⟨hld, -⟩
  · rw [hdescs, hindex]
    exact ⟨rfl, hsrc⟩
  · rw [hcode] at hld
    exact absurd hld (by decide)

/-! ### Runs -/

section Runs

variable {obj obj₁ objm obj₂ : BpfObject} {sections : List RelSection}
  (hc : Compiled obj sections) (hcollect : bpfObjectCollectReloc obj sections = .ok obj₁)
  (hmaps : Equipped obj₁ objm) (hload : bpfObjectRelocate objm = .ok obj₂)
include hc hcollect hmaps hload

/-- The instruction at a place of the object file and the one that is loaded for it. -/
lemma shows_of_load {k : Nat} {prog loaded : BpfProgram} {descs : List RelocDesc}
    (hprog : obj.programs[k]? = some prog)
    (hcol : CollectedFrom obj prog ((relsOf sections prog.idx).filterMap id) descs)
    (hpatched : Patched (objectAt objm obj₂ k) prog descs loaded)
    (hoffset : obj₂.maps.map BpfMap.offset = obj.maps.map BpfMap.offset)
    (horder : ∀ t text, obj.programs[t]? = some text → text.idx = obj.textShndx →
      t < k ∨ relsOf sections text.idx = [])
    {p : Place} (hp : p.sec = .main ∨ descs.any RelocDesc.isCall = true) {insn : BpfInsn}
    (hinsn : (codeOf obj sections prog p.sec).insns[p.index.toNat]? = some insn) {m : Meaning Place}
    (hm : linkedMeaning { obj with maps := obj₂.maps } (codeOf obj sections prog p.sec) p insn = some m) :
    ∃ li descs' cnt, loaded.insns[(p.loadedAt prog.insns.length).toNat]? = some li ∧
      Shows obj descs' ((codeOf obj sections prog p.sec).rels.filterMap id) cnt p insn li m ∧
      (p.sec = .main → descs' = descs ∧ cnt = prog.insns.length) ∧
      (p.sec = .text → descs'.any RelocDesc.isCall = false) := by
  obtain ⟨sec, index⟩ := p
  cases sec with
  | main =>
    have hat : loaded.insns[index.toNat]? = some ((descs.filter (fun d => d.insnIdx = index.toNat)).foldl
        (RelocDesc.patch obj₂.maps prog.insns.length) insn) := by
      have hget : prog.insns[index.toNat]? = some insn := hinsn
      have hlt := (List.getElem?_eq_some_iff.mp hget).1
      rw [hpatched.get, List.getElem?_append_left hlt, hget, maps_objectAt hload, Option.map_some]
    have hshows := shows_of_linked hcol hoffset prog.insns.length hinsn hm
    exact ⟨_, descs, prog.insns.length, hat, hshows, fun _ => ⟨rfl, rfl⟩, fun h => by cases h⟩
  | text =>
    have hany : descs.any RelocDesc.isCall = true := hp.resolve_left (fun h => by cases h)
    cases hfind : obj.programs.find? (fun text => text.idx = obj.textShndx) with
    | none =>
      simp [codeOf, hfind] at hinsn
    | some text =>
      have hidx : text.idx = obj.textShndx := by simpa using List.find?_some hfind
      obtain ⟨t, ht⟩ := List.getElem?_of_mem (List.mem_of_find?_eq_some hfind)
      obtain ⟨lt, descs', hlt, hcol', hno, htexts, hget⟩ :=
        loaded_text hc hcollect hmaps hload hprog ht hidx (horder t text ht hidx)
      have hcode : codeOf obj sections prog .text = ⟨text.insns, relsOf sections text.idx⟩ := by
        rw [codeOf, hfind, hidx]
        rfl
      rw [hcode] at hinsn hm ⊢
      have hgot : text.insns[index.toNat]? = some insn := hinsn
      have hsmall := hc.small prog (List.mem_of_getElem? hprog) text (List.mem_of_getElem? ht)
      have hlen := (List.getElem?_eq_some_iff.mp hgot).1
      have hindex : (Place.loadedAt prog.insns.length ⟨.text, index⟩).toNat = prog.insns.length + index.toNat := by
        have hadd : (BitVec.ofNat 32 prog.insns.length + index).toNat = prog.insns.length + index.toNat := by
          rw [BitVec.toNat_add, BitVec.toNat_ofNat]
          omega
        exact hadd
      have hnone : descs.filter (fun d => d.insnIdx = prog.insns.length + index.toNat) = [] := by
        rw [List.filter_eq_nil_iff]
        intro d hd heq
        have hlt := inside_of_collectedFrom hcol d hd
        rw [of_decide_eq_true heq] at hlt
        omega
      have hat : loaded.insns[prog.insns.length + index.toNat]? = lt.insns[index.toNat]? := by
        rw [hpatched.get, hany, if_pos rfl, htexts, List.getElem?_append_right (by omega), hnone,
          Nat.add_sub_cancel_left]
        simp
      rw [hget, hgot] at hat
      have hshows := shows_of_linked hcol' hoffset text.insns.length hinsn hm
      refine ⟨_, descs', text.insns.length, ?_, hshows, (fun h => by cases h), fun _ => hno⟩
      rw [hindex, hat]
      rfl

/-- Whatever the machine does with the other instructions: if the functions of `.text` have no
relocations or come before the program, and calls name them through the section, the program that
is loaded runs as its object file says. -/
theorem runs_of_relocated {σ : Type} (isa : Isa σ) {k : Nat} {prog : BpfProgram}
    (hprog : obj.programs[k]? = some prog)
    (hcalls : ThroughSection obj ((relsOf sections prog.idx).filterMap id))
    (horder : ∀ t text, obj.programs[t]? = some text → text.idx = obj.textShndx →
      t < k ∨ relsOf sections text.idx = []) :
    ∃ loaded, obj₂.programs[k]? = some loaded ∧ loaded.idx = prog.idx ∧ ∀ n s r,
      Config.execute (linkedFetch isa { obj with maps := obj₂.maps } (codeOf obj sections prog)) n
          ⟨⟨.main, 0⟩, [], s⟩ = some r →
        Config.execute (loadedFetch isa loaded.insns) n ⟨0, [], s⟩ =
          some (r.map (Config.map (Place.loadedAt prog.insns.length)) id) := by
  obtain ⟨loaded, descs, hloaded, hcol, hpatched, -, hoffset⟩ := loaded_program hc hcollect hmaps hload hprog
  refine ⟨loaded, hloaded, hpatched.idx, fun n s r hrun => ?_⟩
  have hstart : Config.Within (σ := σ) (fun p : Place => p.sec = .main ∨ descs.any RelocDesc.isCall = true)
      ⟨⟨.main, 0⟩, [], s⟩ := ⟨.inl rfl, by simp⟩
  refine Config.execute_map (e := Place.loadedAt prog.insns.length) ?_ hstart hrun
  intro p s f hp hf
  rw [linkedFetch] at hf
  cases hinsn : (codeOf obj sections prog p.sec).insns[p.index.toNat]? with
  | none =>
    simp only [hinsn] at hf
    cases hf
  | some insn =>
    simp only [hinsn] at hf
    obtain ⟨m, hm, hbehave⟩ := Option.bind_eq_some_iff.mp hf
    obtain ⟨li, descs', cnt, hat, hshows, hmains, htexts⟩ :=
      shows_of_load hc hcollect hmaps hload hprog hcol hpatched hoffset horder hp hinsn hm
    have hcase : descs'.any RelocDesc.isCall = true → p.sec = .main := by
      intro hany
      cases hsec : p.sec with
      | main => rfl
      | text =>
        rw [htexts hsec] at hany
        cases hany
    have hown : Meaning.own (· + ·) (p.loadedAt prog.insns.length) li =
        m.map (Place.loadedAt prog.insns.length) := by
      refine own_of_shows hshows (fun hany => ⟨hcase hany, (hmains (hcase hany)).2, ?_⟩)
      rw [hcase hany]
      exact hcalls
    refine ⟨?_, ?_⟩
    · rw [loadedFetch_of_own hat hown, hbehave]
      rfl
    · refine within_of_behave (fun p d hp => hp) hp ?_ hbehave
      intro target htarget
      rcases hshows.callTo_cases htarget with hsec | hany
      · exact hp.imp_left (fun h => hsec.trans h)
      · rw [(hmains (hcase hany)).1] at hany
        exact .inr hany

/-- The offset of the function that a symbol names is collected and then not used, so a call
through the symbol of a function lands where it should only if that is the first one. -/
theorem target_of_relocated {k : Nat} {prog loaded : BpfProgram} (hprog : obj.programs[k]? = some prog)
    (hloaded : obj₂.programs[k]? = some loaded) {i : BitVec 32} {insn : BpfInsn}
    (hinsn : prog.insns[i.toNat]? = some insn) (hcode : insn.code = bpfCall) {rel : ElfRel} {sym : ElfSym}
    (hrel : (codeOf obj sections prog .main).relsAt i.toNat = [rel]) (hsym : rel.sym = some sym) :
    ∃ li, loaded.insns[i.toNat]? = some li ∧
      (Meaning.own (· + ·) i li =
          .callTo (Place.loadedAt prog.insns.length ⟨.text, namedIndex sym insn⟩) ↔
        BitVec.ofNat 32 (sym.value.toNat / 8) = 0) := by
  obtain ⟨loaded', descs, hloaded', hcol, hpatched, -, -⟩ := loaded_program hc hcollect hmaps hload hprog
  rw [hloaded] at hloaded'
  cases hloaded'
  obtain ⟨hdescs, hsrc⟩ := call_collected hcol hinsn hcode hrel hsym
  have hlt := (List.getElem?_eq_some_iff.mp hinsn).1
  have hget := hpatched.get i.toNat
  rw [List.getElem?_append_left hlt, hinsn, hdescs, Option.map_some, List.foldl_cons, List.foldl_nil,
    RelocDesc.patch, BitVec.ofNat_toNat, BitVec.setWidth_eq] at hget
  refine ⟨_, hget, ?_⟩
  rw [own_relocated hcode hsrc rfl, Meaning.callTo.injEq, Place.loadedAt, namedIndex]
  constructor
  · intro h
    have hzero := BitVec.add_right_inj _ |>.mp h
    bv_omega
  · intro h
    rw [h]
    bv_omega

end Runs

end SyncookieXdp.ObjectFile
