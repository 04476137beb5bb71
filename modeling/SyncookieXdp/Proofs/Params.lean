import Mathlib.Data.List.TakeWhile
import SyncookieXdp.Lib.Folds
import SyncookieXdp.Model.Params

/-!
# What the command line leaves in the configuration

The table that `getopt_long` scans has no end, because the entry that ends the wrappers is
not copied. A later option overrides an earlier one, and a text is checked against the size
of its array only if it names an interface.
-/

namespace SyncookieXdp.Proofs
open Lib

/-! ### The table of options -/

/-- The options in front of the first entry without a name. -/
def namedOptions (ws : List OptionWrapper) : List LongOption :=
  (ws.takeWhile (fun w => w.option.name.isSome)).map OptionWrapper.option

/-- The options seen by a scan up to the first entry without a name, or nothing if the scan
reads behind the array. -/
def scan : List LongOption → Option (List LongOption)
  | [] => none
  | o :: os => if o.name.isSome then (scan os).map (o :: ·) else some []

lemma isSome_of_mem_namedOptions {ws : List OptionWrapper} {o : LongOption} (h : o ∈ namedOptions ws) :
    o.name.isSome := by
  obtain ⟨w, hw, rfl⟩ := List.mem_map.mp h
  have hnamed := List.mem_takeWhile_imp hw
  exact hnamed

lemma take_numOptions (ws : List OptionWrapper) :
    ws.take (numOptions ws) = ws.takeWhile (fun w => w.option.name.isSome) := by
  induction ws with
  | nil => rfl
  | cons w ws ih =>
    rw [numOptions, List.takeWhile_cons]
    split
    · rw [List.take_succ_cons, ih]
    · rfl

lemma scan_of_named {os : List LongOption} (h : ∀ o ∈ os, o.name.isSome) : scan os = none := by
  induction os with
  | nil => rfl
  | cons o os ih =>
    rw [scan, if_pos (h o (List.mem_cons_self ..)), ih (fun o ho => h o (List.mem_cons_of_mem _ ho))]
    rfl

section Table

variable (malloc : Malloc) (wrapper : WrapperTable)

lemma converted_of_none (h : malloc (numOptions wrapper.entries) = none) :
    optionWrappersToOptions malloc wrapper = .error (-1) := by
  simp only [optionWrappersToOptions, h]

/-- What is stored: the options, and nothing behind them. -/
lemma converted_of_some {new : Fin (numOptions wrapper.entries) → LongOption}
    (h : malloc (numOptions wrapper.entries) = some new) :
    ∃ a, optionWrappersToOptions malloc wrapper = .ok a ∧ a.toList = namedOptions wrapper.entries := by
  simp only [optionWrappersToOptions, h]
  refine ⟨_, rfl, ?_⟩
  rw [OptionArray.toList, namedOptions, ← take_numOptions, List.map_take]
  apply List.ext_getElem
  · have hle := numOptions_le wrapper.entries
    simp [hle]
  · intro i h₁ h₂
    rw [List.getElem_ofFn]
    dsimp only
    rw [foldl_update_apply
      (fun i _ => (wrapper.entries.get (i.castLE (numOptions_le wrapper.entries))).option)
      (List.nodup_finRange _), if_pos (List.mem_finRange _)]
    simp

/-- If the table is converted, the array is the named options and one more entry that ends
them, and a scan of it finds just these options. -/
def Scannable : Prop :=
  ∀ a, optionWrappersToOptions malloc wrapper = .ok a →
    (∃ e : LongOption, e.name = none ∧ a.toList = namedOptions wrapper.entries ++ [e]) ∧
      scan a.toList = some (namedOptions wrapper.entries)

/-- A converted table never ends: only a table that was not allocated is not scanned. -/
theorem scannable_iff : Scannable malloc wrapper ↔ malloc (numOptions wrapper.entries) = none := by
  cases hnew : malloc (numOptions wrapper.entries) with
  | none =>
    refine iff_of_true ?_ rfl
    intro a ha
    rw [converted_of_none malloc wrapper hnew] at ha
    cases ha
  | some new =>
    refine iff_of_false ?_ (Option.some_ne_none new)
    intro h
    obtain ⟨a, ha, hlist⟩ := converted_of_some malloc wrapper hnew
    have hscan := (h a ha).2
    rw [hlist, scan_of_named (fun _ => isSome_of_mem_namedOptions)] at hscan
    cases hscan

end Table

/-- `--help` and the entry that ends the wrappers. -/
def helpTable : WrapperTable where
  entries :=
    [⟨⟨some ⟨CString.ascii "help", by decide⟩, 0, 0, 104⟩, none, none, false⟩,
      ⟨⟨none, 0, 0, 0⟩, none, none, false⟩]
  ends := ⟨_, List.mem_cons_of_mem _ (List.mem_cons_self ..), rfl⟩

/-- Even in memory full of zeros the scan runs behind the array. -/
theorem help_table_not_scannable : ¬Scannable (fun _ => some (fun _ => ⟨none, 0, 0, 0⟩)) helpTable := by
  intro h
  have hscan := (h _ rfl).2
  cases hscan

/-! ### One option -/

/-- The mode flag an option asks for. -/
def modeBits : Opt → Option (BitVec 32)
  | .autoMode => some 0
  | .skbMode => some xdpFlagsSkbMode
  | .nativeMode => some xdpFlagsDrvMode
  | .offloadMode => some xdpFlagsHwMode
  | _ => none

/-- The text an option gives for an array of the configuration. -/
def argFor : Buffer → Opt → Option CString
  | .ifnameBuf, .dev arg => some arg
  | .redirectIfnameBuf, .redirectDev arg => some arg
  | .filename, .filename arg => some arg
  | .progsec, .progsec arg => some arg
  | .srcMac, .srcMac arg => some arg
  | .destMac, .destMac arg => some arg
  | _, _ => none

/-- Where the program looks for the text: the interface names are read through a pointer. -/
def pointer (cfg : Config) : Buffer → Option Buffer
  | .ifnameBuf => cfg.ifname
  | .redirectIfnameBuf => cfg.redirectIfname
  | b => some b

/-- The option has no argument, or one that its array can hold. -/
def Fits (o : Opt) : Prop := ∀ b arg, argFor b o = some arg → arg.length < b.size

section Step

variable (ifNametoindex : List Byte → BitVec 32)

/-- The option ends the program. -/
def Refused : Opt → Prop
  | .dev arg | .redirectDev arg => ifNamesize ≤ arg.length ∨ ifNametoindex arg.bytes = 0
  | .help | .unknown => True
  | _ => False

lemma parseIfname_eq (arg : CString) :
    parseIfname ifNametoindex arg =
      if ifNamesize ≤ arg.length ∨ ifNametoindex arg.bytes = 0 then .error exitFailOption
      else .ok (arg.strncpy ifNamesize, ifNametoindex arg.bytes) := by
  unfold parseIfname
  by_cases hlong : ifNamesize ≤ arg.length
  · rw [if_pos hlong, if_pos (.inl hlong)]
  · have hread : CString.read (arg.strncpy ifNamesize) = arg.bytes := CString.read_strncpy (by omega)
    rw [if_neg hlong]
    simp only [hread, hlong, false_or]

lemma parseOption_outcome (p : Params) (o : Opt) :
    parseOption ifNametoindex p o = .error exitFailOption ∧ Refused ifNametoindex o ∨
      (∃ p', parseOption ifNametoindex p o = .ok p') ∧ ¬Refused ifNametoindex o := by
  cases o with
  | dev arg | redirectDev arg =>
    rw [parseOption, parseIfname_eq, Refused]
    split
    · exact .inl ⟨rfl, ‹_›⟩
    · exact .inr ⟨⟨_, rfl⟩, ‹_›⟩
  | help | unknown => exact .inl ⟨rfl, trivial⟩
  | _ => exact .inr ⟨⟨_, rfl⟩, not_false⟩

variable {p p' : Params} {o : Opt}

lemma parseOption_modes (h : parseOption ifNametoindex p o = .ok p') :
    p'.cfg.xdpFlags &&& xdpFlagsModes = (modeBits o).getD (p.cfg.xdpFlags &&& xdpFlagsModes) := by
  cases o with
  | dev arg | redirectDev arg =>
    rw [parseOption, bind_eq_ok_iff] at h
    obtain ⟨_, -, h⟩ := h
    cases h
    rfl
  | help | unknown => cases h
  | autoMode =>
    cases h
    exact clear_and_self _ _
  | skbMode | nativeMode | offloadMode =>
    cases h
    exact clear_or_and_self _ (by decide)
  | force =>
    cases h
    exact clear_and_of_disjoint _ (by decide)
  | _ =>
    cases h
    rfl

lemma parseOption_noexist (h : parseOption ifNametoindex p o = .ok p') :
    p'.cfg.xdpFlags &&& xdpFlagsUpdateIfNoexist =
      if o = .force then 0 else p.cfg.xdpFlags &&& xdpFlagsUpdateIfNoexist := by
  cases o with
  | dev arg | redirectDev arg =>
    rw [parseOption, bind_eq_ok_iff] at h
    obtain ⟨_, -, h⟩ := h
    cases h
    rfl
  | help | unknown => cases h
  | autoMode =>
    cases h
    exact clear_and_of_disjoint _ (by decide)
  | skbMode | nativeMode | offloadMode =>
    cases h
    exact clear_or_and_of_disjoint _ (by decide) (by decide)
  | force =>
    cases h
    exact clear_and_self _ _
  | _ =>
    cases h
    rfl

lemma parseOption_text (b : Buffer) (h : parseOption ifNametoindex p o = .ok p') :
    (pointer p'.cfg b, p'.cfg.buffer b) =
      ((argFor b o).map (fun arg => (some b, arg.strncpy b.size))).getD
        (pointer p.cfg b, p.cfg.buffer b) := by
  cases o with
  | dev arg | redirectDev arg =>
    rw [parseOption, parseIfname_eq] at h
    split at h
    · cases h
    · cases h
      cases b <;> simp [argFor, pointer, Config.buffer, Buffer.size]
  | help | unknown => cases h
  | _ =>
    cases h
    cases b <;> simp [argFor, pointer, Config.buffer, Buffer.size]

end Step

/-! ### All options -/

/-- The configuration is the one the options ask for. -/
structure Consistent (opts : List Opt) (cfg : Config) : Prop where
  one_mode : cfg.xdpFlags &&& xdpFlagsModes ∈ [0, xdpFlagsSkbMode, xdpFlagsDrvMode, xdpFlagsHwMode]
  last_mode : cfg.xdpFlags &&& xdpFlagsModes =
    ((opts.filterMap modeBits).getLast?).getD xdpFlagsDrvMode
  noexist : cfg.xdpFlags &&& xdpFlagsUpdateIfNoexist ≠ 0 ↔ .force ∉ opts
  text : ∀ b arg, (opts.filterMap (argFor b)).getLast? = some arg →
    pointer cfg b = some b ∧ arg.HeldBy (cfg.buffer b)

lemma modeBits_mem {opts : List Opt} {m : BitVec 32} (h : (opts.filterMap modeBits).getLast? = some m) :
    m ∈ [0, xdpFlagsSkbMode, xdpFlagsDrvMode, xdpFlagsHwMode] := by
  obtain ⟨o, -, ho⟩ := List.mem_filterMap.mp (List.mem_of_getLast? h)
  cases o <;> cases ho <;> decide

section Run

variable (ifNametoindex : List Byte → BitVec 32) {opts : List Opt} {p : Params}
  (h : opts.foldlM (parseOption ifNametoindex) loaderParams = .ok p)
include h

lemma last_mode_of_parsed : p.cfg.xdpFlags &&& xdpFlagsModes =
    ((opts.filterMap modeBits).getLast?).getD xdpFlagsDrvMode :=
  foldlM_last (fun p : Params => p.cfg.xdpFlags &&& xdpFlagsModes) modeBits
    (fun _ _ _ => parseOption_modes ifNametoindex) h

lemma one_mode_of_parsed : p.cfg.xdpFlags &&& xdpFlagsModes ∈
    [0, xdpFlagsSkbMode, xdpFlagsDrvMode, xdpFlagsHwMode] := by
  rw [last_mode_of_parsed ifNametoindex h]
  cases hlast : (opts.filterMap modeBits).getLast? with
  | none => decide
  | some m => exact modeBits_mem hlast

lemma noexist_of_parsed : p.cfg.xdpFlags &&& xdpFlagsUpdateIfNoexist ≠ 0 ↔ .force ∉ opts := by
  rw [foldlM_latch (fun p : Params => p.cfg.xdpFlags &&& xdpFlagsUpdateIfNoexist) .force 0
    (fun _ _ _ => parseOption_noexist ifNametoindex) h]
  by_cases hforce : .force ∈ opts
  · simp [hforce]
  · rw [if_neg hforce]
    exact iff_of_true (by decide) hforce

lemma text_of_parsed (hfits : ∀ o ∈ opts, Fits o) {b : Buffer} {arg : CString}
    (harg : (opts.filterMap (argFor b)).getLast? = some arg) :
    pointer p.cfg b = some b ∧ arg.HeldBy (p.cfg.buffer b) := by
  have hlast := foldlM_last (fun p : Params => (pointer p.cfg b, p.cfg.buffer b))
    (fun o => (argFor b o).map (fun arg => (some b, arg.strncpy b.size)))
    (fun _ _ _ => parseOption_text ifNametoindex b) h
  rw [← List.map_filterMap, List.getLast?_map, harg] at hlast
  obtain ⟨hpointer, hbuffer⟩ := Prod.ext_iff.mp hlast
  obtain ⟨o, ho, hoarg⟩ := List.mem_filterMap.mp (List.mem_of_getLast? harg)
  refine ⟨hpointer, ?_⟩
  rw [show p.cfg.buffer b = arg.strncpy b.size from hbuffer, CString.heldBy_strncpy_iff]
  exact hfits o ho b arg hoarg

lemma consistent_of_parsed (hfits : ∀ o ∈ opts, Fits o) : Consistent opts p.cfg where
  one_mode := one_mode_of_parsed ifNametoindex h
  last_mode := last_mode_of_parsed ifNametoindex h
  noexist := noexist_of_parsed ifNametoindex h
  text _ _ := text_of_parsed ifNametoindex h hfits

end Run

section Parse

variable (ifNametoindex : List Byte → BitVec 32) (malloc : Malloc) (wrapper : WrapperTable)
  (opts : List Opt)

lemma parseCmdlineArgs_of_none (p : Params) (h : malloc (numOptions wrapper.entries) = none) :
    parseCmdlineArgs ifNametoindex malloc wrapper opts p = .error exitFailOption := by
  rw [parseCmdlineArgs, converted_of_none malloc wrapper h]

lemma parseCmdlineArgs_of_some (p : Params) {new : Fin (numOptions wrapper.entries) → LongOption}
    (h : malloc (numOptions wrapper.entries) = some new) :
    parseCmdlineArgs ifNametoindex malloc wrapper opts p =
      opts.foldlM (parseOption ifNametoindex) p := by
  obtain ⟨a, ha, -⟩ := converted_of_some malloc wrapper h
  rw [parseCmdlineArgs, ha]

/-- If the command line is accepted the configuration is the one it asks for, and a text that
its array cannot hold is not accepted. -/
def ParsesFaithfully : Prop :=
  (∀ p, parseCmdlineArgs ifNametoindex malloc wrapper opts loaderParams = .ok p →
    Consistent opts p.cfg) ∧
    ((∃ o ∈ opts, ¬Fits o) →
      parseCmdlineArgs ifNametoindex malloc wrapper opts loaderParams = .error exitFailOption)

lemma parsesFaithfully_of_error
    (h : parseCmdlineArgs ifNametoindex malloc wrapper opts loaderParams = .error exitFailOption) :
    ParsesFaithfully ifNametoindex malloc wrapper opts := by
  rw [ParsesFaithfully, h]
  refine ⟨?_, fun _ => rfl⟩
  intro p hp
  cases hp

/-- A text that does not fit is only kept out by luck: if the program ends anyway. -/
theorem parses_faithfully_iff :
    ParsesFaithfully ifNametoindex malloc wrapper opts ↔
      malloc (numOptions wrapper.entries) = none ∨ (∃ o ∈ opts, Refused ifNametoindex o) ∨
        ∀ o ∈ opts, Fits o := by
  cases hnew : malloc (numOptions wrapper.entries) with
  | none =>
    refine iff_of_true (parsesFaithfully_of_error _ _ _ _ ?_) (.inl rfl)
    exact parseCmdlineArgs_of_none ifNametoindex malloc wrapper opts _ hnew
  | some new =>
    have hloop := parseCmdlineArgs_of_some ifNametoindex malloc wrapper opts loaderParams hnew
    rcases foldlM_error_iff (parseOption_outcome ifNametoindex) opts loaderParams with
      ⟨herror, hrefused⟩ | ⟨⟨p, hok⟩, hall⟩
    · exact iff_of_true (parsesFaithfully_of_error _ _ _ _ (hloop.trans herror)) (.inr (.inl hrefused))
    · rw [ParsesFaithfully, hloop]
      constructor
      · rintro ⟨-, hexit⟩
        refine .inr (.inr ?_)
        by_contra hfits
        rw [not_forall₂] at hfits
        obtain ⟨o, ho, hlong⟩ := hfits
        have herror := hexit ⟨o, ho, hlong⟩
        rw [hok] at herror
        cases herror
      · rintro (hnone | ⟨o, ho, hrefused⟩ | hfits)
        · cases hnone
        · exact absurd hrefused (hall o ho)
        · refine ⟨fun _ h => consistent_of_parsed ifNametoindex h hfits, ?_⟩
          rintro ⟨o, ho, hlong⟩
          exact absurd (hfits o ho) hlong

end Parse

/-- The name of a section that is as long as its array. -/
def longSection : CString := ⟨List.replicate 32 97, by decide⟩

/-- It is accepted, and there is no room for the octet that ends it. -/
theorem long_progsec_accepted :
    ¬ParsesFaithfully (fun _ => 1) (fun _ => some (fun _ => ⟨none, 0, 0, 0⟩)) helpTable
      [.progsec longSection] := by
  rintro ⟨-, hexit⟩
  have hlong : ¬Fits (.progsec longSection) := by
    intro hfits
    have hlt := hfits .progsec longSection rfl
    exact absurd hlt (by decide)
  cases hexit ⟨_, List.mem_singleton_self _, hlong⟩

end SyncookieXdp.Proofs
