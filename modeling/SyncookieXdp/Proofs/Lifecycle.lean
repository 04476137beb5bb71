import SyncookieXdp.Lib.Run
import SyncookieXdp.Model.Loader
import SyncookieXdp.Proofs.Link
import SyncookieXdp.Proofs.Params
import SyncookieXdp.Proofs.Pinning

/-!
# Loading again and again

Any number of loader processes, one after the other, on any interfaces and with any outcome of
each of their calls. What is pinned for an interface is what the last successful load put
there, and that is what the statistics are read from.
-/

namespace SyncookieXdp.Proofs
open Lib

variable {V : Type}

/-! ### One load -/

def offloadIfindex (cfg : Config) : BitVec 32 :=
  if cfg.xdpFlags &&& xdpFlagsHwMode ≠ 0 then cfg.ifindex else 0

/-- The interface runs the program the configuration selects from the object. -/
def Runs (env : LoaderEnv V) (cfg : Config) (obj : BpfObject V) (iface : Interface) : Prop :=
  ∃ prog mode, selectProgram cfg obj = some prog ∧ 0 < bpfProgramFd prog ∧
    env.link.slotOf cfg.xdpFlags = some mode ∧ iface mode = some (env.link.progOf (bpfProgramFd prog))

/-- A load attaches a program of the object, or it ends the process with a code that tells
whether the interface was asked. -/
lemma load_cases (env : LoaderEnv V) (cfg : Config) (iface : Interface) :
    (∃ link, (loadBpfAndXdpAttach env cfg).run ⟨iface, []⟩ = (.error exitFailBpf, link) ∧ link.iface = iface) ∨
      (∃ link, (loadBpfAndXdpAttach env cfg).run ⟨iface, []⟩ = (.error exitFailXdp, link)) ∨
      ∃ obj link, (loadBpfAndXdpAttach env cfg).run ⟨iface, []⟩ = (.ok obj, link) ∧
        env.bpfProgLoadXattr cfg.filenameString (offloadIfindex cfg) = some obj ∧
        Runs env cfg obj link.iface := by
  have hindex : (if cfg.xdpFlags &&& xdpFlagsHwMode ≠ 0 then cfg.ifindex else 0) = offloadIfindex cfg := rfl
  unfold loadBpfAndXdpAttach
  simp only [hindex]
  cases hobj : env.bpfProgLoadXattr cfg.filenameString (offloadIfindex cfg) with
  | none => exact .inl ⟨_, rfl, rfl⟩
  | some obj =>
    dsimp only
    cases hprog : selectProgram cfg obj with
    | none => exact .inl ⟨_, rfl, rfl⟩
    | some prog =>
      dsimp only
      by_cases hfd : bpfProgramFd prog ≤ 0
      · rw [if_pos hfd]
        exact .inl ⟨_, rfl, rfl⟩
      · rw [if_neg hfd, StateT.run_bind]
        have hcases := (attach_cases env.link iface cfg.xdpFlags (bpfProgramFd prog)).2
        rw [LinkEnv.progAt, if_neg (by omega), attach] at hcases
        rcases hrun : (xdpLinkAttach env.link cfg.xdpFlags (bpfProgramFd prog)).run ⟨iface, []⟩ with ⟨code, link⟩
        rw [hrun] at hcases
        rcases hcases with ⟨rfl, mode, hslot, hmode⟩ | ⟨rfl, -⟩
        · exact .inr (.inr ⟨obj, link, rfl, rfl, prog, mode, hprog, Int.not_le.mp hfd, hslot, hmode⟩)
        · exact .inr (.inl ⟨link, rfl⟩)

/-! ### One process -/

/-- The object whose program a run of the loader attaches. -/
def attachedObject (env : LoaderEnv V) (cfg : Config) (s : Machine V) : Option (BpfObject V) :=
  if cfg.ifindex = -1 ∨ cfg.doUnload = true then none
  else ((loadBpfAndXdpAttach env cfg).run ⟨s.ifaces cfg.ifindex, []⟩).1.toOption

section Run

variable {env : LoaderEnv V} {cfg : Config} {s : Machine V}

/-- A program that is attached comes from the file, and the interface runs it from then on. -/
lemma attachedObject_eq_some {obj : BpfObject V} (h : attachedObject env cfg s = some obj) :
    cfg.doUnload = false ∧ env.bpfProgLoadXattr cfg.filenameString (offloadIfindex cfg) = some obj ∧
      Runs env cfg obj ((loaderRun env cfg s).1.ifaces cfg.ifindex) ∧
      (loaderRun env cfg s).1.pins = Function.update s.pins cfg.ifnameString.name
        (pinMapsInBpfObject obj.maps cfg.ifnameString (s.pins cfg.ifnameString.name)).1 ∧
      (loaderRun env cfg s).2 =
        (pinMapsInBpfObject obj.maps cfg.ifnameString (s.pins cfg.ifnameString.name)).2 := by
  unfold attachedObject at h
  by_cases hskip : cfg.ifindex = -1 ∨ cfg.doUnload = true
  · rw [if_pos hskip] at h
    cases h
  · rw [if_neg hskip] at h
    obtain ⟨hdev, hunload⟩ := not_or.mp hskip
    unfold loaderRun
    rw [if_neg hdev, if_neg hunload]
    rcases load_cases env cfg (s.ifaces cfg.ifindex) with
      ⟨link, hload, -⟩ | ⟨link, hload⟩ | ⟨obj', link, hload, hobj, hruns⟩
    · rw [hload] at h
      cases h
    · rw [hload] at h
      cases h
    · rw [hload] at h ⊢
      cases h
      have hiface : Runs env cfg obj (Function.update s.ifaces cfg.ifindex link.iface cfg.ifindex) := by
        rwa [Function.update_self]
      refine ⟨Bool.eq_false_iff.mpr hunload, hobj, ?_⟩
      dsimp only
      split
      · exact ⟨hiface, rfl, rfl⟩
      · rename_i hzero
        exact ⟨hiface, rfl, (not_not.mp hzero).symm⟩

/-- A process that attaches nothing leaves every pin alone, and it does not say that it loaded
anything. -/
lemma loaderRun_of_none (h : attachedObject env cfg s = none) :
    (loaderRun env cfg s).1.pins = s.pins ∧
      (cfg.ifindex ≠ -1 → cfg.doUnload = false → (loaderRun env cfg s).2 ≠ exitOk) ∧
      ((loaderRun env cfg s).2 = exitFailBpf → (loaderRun env cfg s).1 = s) := by
  have hbpf : exitFailBpf ≠ exitOk := by decide
  have hxdp : exitFailXdp ≠ exitOk := by decide
  have hother : exitFailXdp ≠ exitFailBpf := by decide
  unfold attachedObject at h
  unfold loaderRun
  by_cases hdev : cfg.ifindex = -1
  · rw [if_pos hdev]
    exact ⟨rfl, fun h => absurd hdev h, fun _ => rfl⟩
  · rw [if_neg hdev]
    by_cases hunload : cfg.doUnload = true
    · rw [if_pos hunload]
      exact ⟨rfl, fun _ hno => absurd (hunload.symm.trans hno) (by decide),
        fun hcode => absurd hcode (xdpLinkDetach_code env.link cfg.xdpFlags 0 ⟨s.ifaces cfg.ifindex, []⟩)⟩
    · rw [if_neg (not_or.mpr ⟨hdev, hunload⟩)] at h
      rw [if_neg hunload]
      rcases load_cases env cfg (s.ifaces cfg.ifindex) with
        ⟨link, hload, hsame⟩ | ⟨link, hload⟩ | ⟨obj, link, hload, -⟩
      · rw [hload]
        refine ⟨rfl, fun _ _ => hbpf, fun _ => ?_⟩
        dsimp only
        rw [hsame, Function.update_eq_self]
      · rw [hload]
        exact ⟨rfl, fun _ _ => hxdp, fun hcode => absurd hcode hother⟩
      · rw [hload] at h
        cases h

end Run

/-- What a maintainer may conclude from the exit code of a process. -/
structure LoaderOutcome (env : LoaderEnv V) (cfg : Config) (s : Machine V) (r : Machine V × Nat) : Prop where
  otherIfaces : ∀ i, i ≠ cfg.ifindex → r.1.ifaces i = s.ifaces i
  otherPins : ∀ dev, dev ≠ cfg.ifnameString.name → r.1.pins dev = s.pins dev
  loaded : cfg.ifindex ≠ -1 → cfg.doUnload = false → r.2 = exitOk →
    ∃ obj, env.bpfProgLoadXattr cfg.filenameString (offloadIfindex cfg) = some obj ∧
      Runs env cfg obj (r.1.ifaces cfg.ifindex) ∧
      ∀ m ∈ obj.maps, r.1.pins cfg.ifnameString.name m.name = some m.map
  pinned : r.1.pins ≠ s.pins → cfg.doUnload = false ∧
    ∃ obj, env.bpfProgLoadXattr cfg.filenameString (offloadIfindex cfg) = some obj ∧
      Runs env cfg obj (r.1.ifaces cfg.ifindex)
  failed : r.2 = exitFailBpf → r.1 = s ∨
    ∃ obj, env.bpfProgLoadXattr cfg.filenameString (offloadIfindex cfg) = some obj ∧
      Runs env cfg obj (r.1.ifaces cfg.ifindex) ∧ obj.maps ≠ [] ∧
      ∀ name, r.1.pins cfg.ifnameString.name name = none ∨
        r.1.pins cfg.ifnameString.name name = s.pins cfg.ifnameString.name name

lemma pinMapsInBpfObject_ok {maps : List (BpfObjectMap V)} {subdir : IfName} {d : PinDir V}
    (h : (pinMapsInBpfObject maps subdir d).2 = 0) :
    ∀ m ∈ maps, (pinMapsInBpfObject maps subdir d).1 m.name = some m.map := by
  cases hstats : d mapName with
  | none => exact (allOrNothing_of_absent maps subdir d hstats).1 h
  | some v =>
    have hpresent : (d mapName).isSome := by rw [hstats, Option.isSome_some]
    by_cases hun : (bpfObjectUnpinMaps (pinDirLength subdir) maps d).2 = none
    · exact (allOrNothing_of_unpinned maps subdir d hpresent hun).1 h
    · rw [pinMapsInBpfObject_of_refused maps subdir d hpresent hun] at h
      cases h

lemma loaderRun_ifaces_of_ne (env : LoaderEnv V) (cfg : Config) (s : Machine V) {i : BitVec 32}
    (h : i ≠ cfg.ifindex) : (loaderRun env cfg s).1.ifaces i = s.ifaces i := by
  unfold loaderRun
  dsimp only
  split
  · rfl
  · split
    · exact Function.update_of_ne h ..
    · rcases (loadBpfAndXdpAttach env cfg).run ⟨s.ifaces cfg.ifindex, []⟩ with ⟨code | obj, link⟩
      · exact Function.update_of_ne h ..
      · dsimp only
        split <;> exact Function.update_of_ne h ..

theorem loader_outcome (env : LoaderEnv V) (cfg : Config) (s : Machine V) :
    LoaderOutcome env cfg s (loaderRun env cfg s) := by
  cases h : attachedObject env cfg s with
  | none =>
    obtain ⟨hpins, hok, hbpf⟩ := loaderRun_of_none h
    refine ⟨fun i => loaderRun_ifaces_of_ne env cfg s, fun dev _ => congrFun hpins dev, ?_, ?_, ?_⟩
    · exact fun hdev hload hcode => absurd hcode (hok hdev hload)
    · exact fun hne => absurd hpins hne
    · exact fun hcode => .inl (hbpf hcode)
  | some obj =>
    obtain ⟨hload, hfile, hruns, hpins, hcode⟩ := attachedObject_eq_some h
    refine ⟨fun i => loaderRun_ifaces_of_ne env cfg s, ?_, ?_, ?_, ?_⟩
    · intro dev hne
      rw [hpins, Function.update_of_ne hne]
    · intro _ _ hok
      refine ⟨obj, hfile, hruns, fun m hm => ?_⟩
      rw [hpins, Function.update_self]
      exact pinMapsInBpfObject_ok (hcode.symm.trans hok) m hm
    · exact fun _ => ⟨hload, obj, hfile, hruns⟩
    · intro hbpf
      have hne : exitFailBpf ≠ 0 := by decide
      have hfailed := pinMapsInBpfObject_failed obj.maps cfg.ifnameString (s.pins cfg.ifnameString.name)
        ((hcode.symm.trans hbpf).trans_ne hne)
      refine .inr ⟨obj, hfile, hruns, hfailed.1, fun name => ?_⟩
      rw [hpins, Function.update_self]
      exact hfailed.2 name

/-! ### Objects with the same maps -/

/-- The names of the maps of every object that is loaded: the ones of one source file. -/
structure MapNames where
  names : List CString
  nodup : names.Nodup
  stats : mapName ∈ names
  short : ∀ n ∈ names, n.length < 4000

/-- The files of these maps are all there or none of them is. -/
def Whole (N : MapNames) (d : PinDir V) : Prop :=
  (∀ n ∈ N.names, (d n).isSome) ∨ ∀ n ∈ N.names, d n = none

lemma pathFits_of_short (subdir : IfName) {m : BpfObjectMap V} (h : m.name.length < 4000) :
    PathFits (pinDirLength subdir) m := by
  have hsubdir := subdir.short
  have hbase : pinBasedir.length = 11 := by decide
  unfold PathFits pinDirLength pathMax
  unfold ifNamesize at hsubdir
  omega

/-- The maps of an object take the place of the maps of the object before it. -/
lemma repin {N : MapNames} {maps : List (BpfObjectMap V)} (hmaps : maps.map BpfObjectMap.name = N.names)
    (subdir : IfName) {d : PinDir V} (hd : Whole N d) :
    (pinMapsInBpfObject maps subdir d).2 = 0 ∧
      ∀ m ∈ maps, (pinMapsInBpfObject maps subdir d).1 m.name = some m.map := by
  have hname : ∀ m ∈ maps, m.name ∈ N.names := by
    intro m hm
    rw [← hmaps]
    exact List.mem_map_of_mem hm
  have hfits : ∀ m ∈ maps, PathFits (pinDirLength subdir) m :=
    fun m hm => pathFits_of_short subdir (N.short _ (hname m hm))
  have hnodup : (maps.map BpfObjectMap.name).Nodup := hmaps ▸ N.nodup
  rcases hd with hall | hnone
  · have hun := (unpinMaps_succeeds_iff (pinDirLength subdir) maps d).mpr
      ⟨hnodup, fun m hm => ⟨hfits m hm, hall _ (hname m hm)⟩⟩
    have hpin := (pinMaps_succeeds_iff (pinDirLength subdir) maps
      (bpfObjectUnpinMaps (pinDirLength subdir) maps d).1).mpr
        ⟨hnodup, fun m hm => ⟨hfits m hm, unpinMaps_apply _ maps d hun hm⟩⟩
    have hcode : (pinMapsInBpfObject maps subdir d).2 = 0 := by
      rw [pinMapsInBpfObject_of_present maps subdir d (hall _ N.stats) hun]
      simp [hpin]
    exact ⟨hcode, (allOrNothing_of_unpinned maps subdir d (hall _ N.stats) hun).1 hcode⟩
  · have hpin := (pinMaps_succeeds_iff (pinDirLength subdir) maps d).mpr
      ⟨hnodup, fun m hm => ⟨hfits m hm, hnone _ (hname m hm)⟩⟩
    have hcode : (pinMapsInBpfObject maps subdir d).2 = 0 := by
      rw [pinMapsInBpfObject_of_absent maps subdir d (hnone _ N.stats)]
      simp [hpin]
    exact ⟨hcode, (allOrNothing_of_absent maps subdir d (hnone _ N.stats)).1 hcode⟩

/-! ### Many processes -/

/-- A process of the loader: what it meets and its command line. The objects it may find are
compiled from one source file. -/
structure Invocation (N : MapNames) (V : Type) where
  env : LoaderEnv V
  opts : List Opt
  uses : ∀ file ifindex obj, env.bpfProgLoadXattr file ifindex = some obj →
    obj.maps.map BpfObjectMap.name = N.names

variable {N : MapNames}

def loaderStep (s : Machine V) (i : Invocation N V) : Machine V × Nat := loaderMain i.env i.opts s

/-- The interface and the object of a process that attaches a program. -/
def loads (s : Machine V) (i : Invocation N V) : Option (CString × BpfObject V) :=
  match parseCmdlineArgs i.env.ifNametoindex i.env.malloc i.env.longOptions i.opts loaderParams with
  | .error _ => none
  | .ok p => (attachedObject i.env p.cfg s).map (fun obj => (p.cfg.ifnameString.name, obj))

section Step

variable {s : Machine V} {i : Invocation N V}

lemma loaderStep_of_none (h : loads s i = none) : (loaderStep s i).1.pins = s.pins := by
  unfold loads at h
  unfold loaderStep loaderMain
  cases hparse : parseCmdlineArgs i.env.ifNametoindex i.env.malloc i.env.longOptions i.opts loaderParams with
  | error code => rfl
  | ok p =>
    rw [hparse] at h
    exact (loaderRun_of_none (Option.map_eq_none_iff.mp h)).1

lemma loaderStep_of_some {dev : CString} {obj : BpfObject V} (h : loads s i = some (dev, obj)) :
    ∃ subdir : IfName, subdir.name = dev ∧ (∃ file ifindex, i.env.bpfProgLoadXattr file ifindex = some obj) ∧
      (loaderStep s i).1.pins =
        Function.update s.pins dev (pinMapsInBpfObject obj.maps subdir (s.pins dev)).1 ∧
      (loaderStep s i).2 = (pinMapsInBpfObject obj.maps subdir (s.pins dev)).2 := by
  unfold loads at h
  unfold loaderStep loaderMain
  cases hparse : parseCmdlineArgs i.env.ifNametoindex i.env.malloc i.env.longOptions i.opts loaderParams with
  | error code =>
    rw [hparse] at h
    cases h
  | ok p =>
    rw [hparse] at h
    obtain ⟨obj', hobj, heq⟩ := Option.map_eq_some_iff.mp h
    cases heq
    obtain ⟨-, hfile, -, hpins, hcode⟩ := attachedObject_eq_some hobj
    exact ⟨p.cfg.ifnameString, rfl, ⟨_, _, hfile⟩, hpins, hcode⟩

end Step

theorem pins_whole (s : Machine V) (i : Invocation N V) (h : ∀ dev, Whole N (s.pins dev)) :
    ∀ dev, Whole N ((loaderStep s i).1.pins dev) := by
  cases hl : loads s i with
  | none => rwa [loaderStep_of_none hl]
  | some l =>
    obtain ⟨dev, obj⟩ := l
    obtain ⟨subdir, -, ⟨file, ifindex, hfile⟩, hpins, -⟩ := loaderStep_of_some hl
    have hmaps := i.uses file ifindex obj hfile
    rw [hpins]
    intro dev'
    by_cases hdev : dev' = dev
    · subst hdev
      rw [Function.update_self]
      refine .inl (fun n hn => ?_)
      rw [← hmaps] at hn
      obtain ⟨m, hm, rfl⟩ := List.mem_map.mp hn
      rw [(repin hmaps subdir (h dev')).2 m hm, Option.isSome_some]
    · rw [Function.update_of_ne hdev]
      exact h dev'

lemma pins_of_other_load {s : Machine V} {i : Invocation N V} {dev : CString}
    (h : ∀ obj, loads s i ≠ some (dev, obj)) : (loaderStep s i).1.pins dev = s.pins dev := by
  cases hl : loads s i with
  | none => rw [loaderStep_of_none hl]
  | some l =>
    obtain ⟨dev', obj⟩ := l
    obtain ⟨subdir, -, -, hpins, -⟩ := loaderStep_of_some hl
    have hne : dev ≠ dev' := by
      rintro rfl
      exact h obj hl
    rw [hpins, Function.update_of_ne hne]

/-- A load that attaches its program never fails later on. -/
lemma pinned_of_load {s : Machine V} {i : Invocation N V} (hs : ∀ dev, Whole N (s.pins dev))
    {dev : CString} {obj : BpfObject V} (h : loads s i = some (dev, obj)) :
    obj.maps.map BpfObjectMap.name = N.names ∧ (loaderStep s i).2 = exitOk ∧
      ∀ m ∈ obj.maps, (loaderStep s i).1.pins dev m.name = some m.map := by
  obtain ⟨subdir, -, ⟨file, ifindex, hfile⟩, hpins, hcode⟩ := loaderStep_of_some h
  have hmaps := i.uses file ifindex obj hfile
  obtain ⟨hok, hpinned⟩ := repin hmaps subdir (hs dev)
  refine ⟨hmaps, hcode.trans hok, fun m hm => ?_⟩
  rw [hpins, Function.update_self]
  exact hpinned m hm

/-- The process of the statistics, on the interface of this name. -/
structure StatsProcess (V : Type) (dev : CString) where
  env : LoaderEnv V
  getInfo : V → Option BpfMapInfo
  opts : List Opt
  p : Params
  parses : parseCmdlineArgs env.ifNametoindex env.malloc env.longOptions opts statsParams = .ok p
  index : p.cfg.ifindex ≠ -1
  name : p.cfg.ifnameString.name = dev

def StatsProcess.polls {dev : CString} (q : StatsProcess V dev) (s : Machine V) : Except Nat (V × MapType) :=
  statsMain q.env q.getInfo q.opts s

lemma checkMapFdInfo_eq_ok_iff (info : Option BpfMapInfo) (r : BpfMapInfo) :
    checkMapFdInfo info statsMapExpect = .ok r ↔
      info = some r ∧ r.keySize = 4 ∧ r.valueSize = 16 ∧ r.maxEntries = BitVec.ofNat 32 xdpActionMax := by
  cases info with
  | none => simp [checkMapFdInfo]
  | some info =>
    have hkey : statsMapExpect.keySize ≠ 0 := by decide
    have hvalue : statsMapExpect.valueSize ≠ 0 := by decide
    have hmax : statsMapExpect.maxEntries ≠ 0 := by decide
    have htype : statsMapExpect.type = .other 0 := rfl
    simp only [checkMapFdInfo, ne_eq, hkey, hvalue, hmax, htype, not_true_eq_false, not_false_eq_true,
      true_and, false_and, if_false]
    constructor
    · intro h
      split at h
      · cases h
      · split at h
        · cases h
        · split at h
          · cases h
          · rename_i h₁ h₂ h₃
            cases h
            exact ⟨rfl, (not_not.mp h₁).symm, (not_not.mp h₂).symm, (not_not.mp h₃).symm⟩
    · rintro ⟨hinfo, h₁, h₂, h₃⟩
      cases hinfo
      rw [if_neg (not_not.mpr (show statsMapExpect.keySize = _ from h₁.symm)),
        if_neg (not_not.mpr (show statsMapExpect.valueSize = _ from h₂.symm)),
        if_neg (not_not.mpr (show statsMapExpect.maxEntries = _ from h₃.symm))]

/-- A map is polled if it has the sizes the records need. -/
lemma polls_eq_ok_iff {dev : CString} (q : StatsProcess V dev) {s : Machine V} {map : V}
    (hpin : s.pins dev mapName = some map) (type : MapType) :
    q.polls s = .ok (map, type) ↔ q.getInfo map = some ⟨type, 4, 16, BitVec.ofNat 32 xdpActionMax⟩ := by
  have hstart : q.polls s =
      (checkMapFdInfo (q.getInfo map) statsMapExpect).map (fun info => (map, info.type)) := by
    unfold StatsProcess.polls statsMain
    rw [q.parses]
    simp only [if_neg q.index, q.name, hpin]
    cases checkMapFdInfo (q.getInfo map) statsMapExpect <;> rfl
  rw [hstart]
  cases hcheck : checkMapFdInfo (q.getInfo map) statsMapExpect with
  | error err =>
    constructor
    · intro h
      cases h
    · intro h
      have hok := (checkMapFdInfo_eq_ok_iff (q.getInfo map) _).mpr ⟨h, rfl, rfl, rfl⟩
      rw [hcheck] at hok
      cases hok
  | ok info =>
    obtain ⟨ty, keySize, valueSize, maxEntries⟩ := info
    obtain ⟨hinfo, rfl, rfl, rfl⟩ := (checkMapFdInfo_eq_ok_iff _ _).mp hcheck
    rw [hinfo]
    constructor
    · intro h
      cases h
      rfl
    · intro h
      cases h
      rfl

def connectionsTableName : CString := ⟨CString.ascii "connections_table", by decide⟩

def eth0 : CString := ⟨CString.ascii "eth0", by decide⟩

def syncookieMaps : MapNames where
  names := [mapName, connectionsTableName]
  nodup := by decide
  stats := by decide
  short := by decide

/-- The object of a load, whose maps the kernel numbers from here. -/
def syncookieObject (id : Nat) : BpfObject Nat where
  programs := [⟨some ⟨CString.ascii "syncookie", by decide⟩, 3, [5]⟩]
  textShndx := 0
  hasPseudoCalls := false
  maps := [⟨mapName, id⟩, ⟨connectionsTableName, id + 1⟩]

def sampleLoader (id : Nat) : LoaderEnv Nat where
  ifNametoindex := fun _ => 2
  malloc := fun _ => some (fun _ => ⟨none, 0, 0, 0⟩)
  longOptions := helpTable
  link := sampleEnv (fun _ => 0)
  bpfProgLoadXattr := fun _ _ => some (syncookieObject id)

def sampleInvocation (id : Nat) (opts : List Opt) : Invocation syncookieMaps Nat where
  env := sampleLoader id
  opts := opts
  uses := by
    intro file ifindex obj h
    cases h
    rfl

def freshMachine : Machine Nat := ⟨fun _ _ => none, fun _ _ => none⟩

end SyncookieXdp.Proofs
