import SyncookieXdp.Model.Tables
import SyncookieXdp.Proofs.Filter

/-!
# Which frames reach the controller

Three laws about the parsing front end, each with the exact set of frames on which it
holds: the frames filtered are the IPv4/TCP frames of the wire, no access leaves the
packet, and the octets taken for the TCP header are the packet's TCP header.
-/

namespace SyncookieXdp.Proofs
open Lib

def isController : Call → Bool
  | .controller _ => true
  | _ => false

def CallsController (o : Outcome) : Prop := o.calls.any isController = true

instance : DecidablePred CallsController := fun o =>
  inferInstanceAs (Decidable (o.calls.any isController = true))

lemma callsController_iff_exists (o : Outcome) :
    CallsController o ↔ ∃ hdr, Call.controller hdr ∈ o.calls := by
  rw [CallsController, List.any_eq_true]
  constructor
  · rintro ⟨x, hx, hc⟩
    cases x with
    | controller hdr => exact ⟨hdr, hx⟩
    | _ => cases hc
  · rintro ⟨hdr, h⟩
    exact ⟨_, h, rfl⟩

section Cases

variable {T : Type} (M : BpfMap T) (stack : StackImage) (maps : Maps T) (f : List Byte)

/-- The controller is called at most once, with the pointers the parsers produced, and it
is called exactly for the dispatched frames. -/
theorem controller_mem_calls_iff (hdr : HeadersT) :
    Call.controller hdr ∈ (invoke (syncookieFn M stack) maps f).2.calls ↔
      Dispatched f ∧ hdr = ⟨some 0, some 14, tcpPtr f⟩ := by
  by_cases hd : Dispatched f
  · by_cases hl : headersLen ≤ f.length
    · rw [invoke_complete M stack maps hd hl, invoke_controller M stack maps hl, tcpPtr, if_pos hl]
      have hno : Call.controller hdr ∉ callsOf stack (branchAt M maps.connectionsTable f) := by
        cases branchAt M maps.connectionsTable f <;> simp [callsOf]
      simp [hd, hno, parsedHeaders]
    · rw [invoke_truncated M stack maps hd (by omega), tcpPtr, if_neg hl]
      simp [hd]
  · rw [invoke_ignored M stack maps hd]
    simp [hd]

theorem callsController_iff :
    CallsController (invoke (syncookieFn M stack) maps f).2 ↔ Dispatched f := by
  simp only [callsController_iff_exists, controller_mem_calls_iff]
  exact ⟨fun ⟨_, hd, _⟩ => hd, fun hd => ⟨_, hd, rfl⟩⟩

theorem verdict_ok_iff :
    (∃ a, (invoke (syncookieFn M stack) maps f).2.verdict = .ok a) ↔
      ¬(Dispatched f ∧ f.length < headersLen) := by
  by_cases hd : Dispatched f
  · by_cases hl : headersLen ≤ f.length
    · rw [invoke_complete M stack maps hd hl, invoke_controller M stack maps hl]
      simp [hl]
    · rw [invoke_truncated M stack maps hd (by omega)]
      simp [hd]
      omega
  · rw [invoke_ignored M stack maps hd]
    simp [hd]

end Cases

/-! ### The filter and the wire -/

/-- An IPv4/TCP frame as it stands on the wire, with room for the three headers. -/
def WireTcp (f : List Byte) : Prop :=
  headersLen ≤ f.length ∧ byteAt f 12 = 0x08 ∧ byteAt f 13 = 0x00 ∧ byteAt f 23 = 0x06

instance (f : List Byte) : Decidable (WireTcp f) := inferInstanceAs (Decidable (_ ∧ _))

/-- On this frame the controller is called exactly for IPv4/TCP, any other frame is passed
unchanged, and an IPv4/TCP frame of a connection not in the table is not passed. -/
def FiltersWireTcp {T : Type} (M : BpfMap T) (stack : StackImage) (maps : Maps T)
    (f : List Byte) : Prop :=
  let o := (invoke (syncookieFn M stack) maps f).2
  (CallsController o ↔ WireTcp f) ∧
    (¬WireTcp f → o.verdict = .ok .pass ∧ o.frame = f) ∧
    (WireTcp f → M.lookup maps.connectionsTable (connectionAt f).bytes = none → o.verdict ≠ .ok .pass)

lemma not_dispatched_of_wireTcp {f : List Byte} (h : WireTcp f) : ¬Dispatched f := by
  intro hd
  have h12 := h.2.1
  rw [hd.2.1] at h12
  exact absurd h12 (by decide)

/-- The filter and the wire agree only on frames that are of no interest to either: the
EtherType is compared in the wrong byte order, so neither an IPv4/TCP frame nor a frame
with EtherType octets `00 08` in its place is treated as it should be. -/
theorem filters_wire_tcp_iff {T : Type} (M : BpfMap T) (stack : StackImage) (maps : Maps T)
    (f : List Byte) : FiltersWireTcp M stack maps f ↔ ¬WireTcp f ∧ ¬Dispatched f := by
  simp only [FiltersWireTcp, callsController_iff]
  constructor
  · rintro ⟨hcall, -, -⟩
    have hw : ¬WireTcp f := fun hw => not_dispatched_of_wireTcp hw (hcall.mpr hw)
    exact ⟨hw, fun hd => hw (hcall.mp hd)⟩
  · rintro ⟨hw, hd⟩
    rw [invoke_ignored M stack maps hd]
    exact ⟨iff_of_false hd hw, fun _ => ⟨rfl, rfl⟩, fun h => absurd h hw⟩

/-- A TCP SYN from 10.0.0.1:12345 to 10.0.0.2:80, as it stands on the wire. -/
def wireSynFrame : List Byte :=
  [0x02, 0x00, 0x00, 0x00, 0x00, 0x01, 0x02, 0x00, 0x00, 0x00, 0x00, 0x02, 0x08, 0x00,
    0x45, 0x00, 0x00, 0x28, 0x00, 0x00, 0x00, 0x00, 0x40, 0x06, 0x00, 0x00,
    0x0a, 0x00, 0x00, 0x01, 0x0a, 0x00, 0x00, 0x02,
    0x30, 0x39, 0x00, 0x50, 0x00, 0x00, 0x00, 0x01, 0x00, 0x00, 0x00, 0x00,
    0x50, 0x02, 0xff, 0xff, 0x00, 0x00, 0x00, 0x00]

def emptyMaps {κ : Type} {cap : Nat} : Maps (CoverTable κ Byte cap) :=
  ⟨CoverTable.empty, fun _ _ => ⟨0, 0⟩⟩

theorem wire_syn_escapes_filter :
    ¬FiltersWireTcp lpmTrie ⟨0, 0⟩ emptyMaps wireSynFrame := by
  intro h
  have hw : WireTcp wireSynFrame := by decide
  have hcall := h.1.mpr hw
  rw [callsController_iff] at hcall
  exact not_dispatched_of_wireTcp hw hcall

/-! ### Accesses stay inside the packet -/

def HeaderInside (f : List Byte) (p : HdrPtr) (size : Nat) : Prop := ∃ a, p = some a ∧ a + size ≤ f.length

/-- No access of the invocation faulted, and the controller was called only with three
headers that lie inside the frame. -/
def AccessesInside {T : Type} (M : BpfMap T) (stack : StackImage) (maps : Maps T)
    (f : List Byte) : Prop :=
  let o := (invoke (syncookieFn M stack) maps f).2
  (∃ a, o.verdict = .ok a) ∧
    ∀ hdr, Call.controller hdr ∈ o.calls →
      HeaderInside f hdr.ether EthernetT.size ∧ HeaderInside f hdr.ipv4 Ipv4T.size ∧
        HeaderInside f hdr.tcp TcpT.size

/-- Every access stays inside the packet, except on a dispatched frame that ends inside the
TCP header: there the controller runs with a `NULL` TCP pointer. -/
theorem accesses_inside_iff {T : Type} (M : BpfMap T) (stack : StackImage) (maps : Maps T)
    (f : List Byte) :
    AccessesInside M stack maps f ↔ ¬(Dispatched f ∧ f.length < headersLen) := by
  simp only [AccessesInside, verdict_ok_iff]
  constructor
  · exact fun h => h.1
  · intro hok
    refine ⟨hok, ?_⟩
    intro hdr hmem
    obtain ⟨hd, rfl⟩ := (controller_mem_calls_iff M stack maps f hdr).mp hmem
    have hl : headersLen ≤ f.length := by
      by_contra hlt
      exact hok ⟨hd, by omega⟩
    have hlen : 54 ≤ f.length := hl
    refine ⟨⟨0, rfl, ?_⟩, ⟨14, rfl, ?_⟩, ⟨34, ?_, ?_⟩⟩
    · simp only [EthernetT.size]; omega
    · simp only [Ipv4T.size]; omega
    · simp only [tcpPtr, if_pos hl]
    · simp only [TcpT.size]; omega

def cutTcpFrame : List Byte :=
  [0x02, 0x00, 0x00, 0x00, 0x00, 0x01, 0x02, 0x00, 0x00, 0x00, 0x00, 0x02, 0x00, 0x08,
    0x45, 0x00, 0x00, 0x1a, 0x00, 0x00, 0x00, 0x00, 0x40, 0x06, 0x00, 0x00,
    0x0a, 0x00, 0x00, 0x01, 0x0a, 0x00, 0x00, 0x02,
    0x30, 0x39, 0x00, 0x50, 0x00, 0x00]

theorem cut_tcp_header_faults : ¬AccessesInside lpmTrie ⟨0, 0⟩ emptyMaps cutTcpFrame := by
  intro h
  have hd : Dispatched cutTcpFrame := by decide
  have hv := h.1
  rw [invoke_truncated lpmTrie ⟨0, 0⟩ emptyMaps hd (by decide)] at hv
  obtain ⟨a, ha⟩ := hv
  cases ha

/-! ### The TCP header is where the IPv4 header ends -/

/-- The IPv4 header length in 32-bit words, the low nibble of the first IPv4 octet. -/
def ipv4Ihl (f : List Byte) : Nat := (bitsAt (byteAt f 14) 0 4).toNat

def ipv4FragOffset (f : List Byte) : BitVec 13 := (be16 (byteAt f 20) (byteAt f 21)).setWidth 13

/-- Whenever the controller is called, its TCP pointer is the end of the IPv4 header, twenty
octets are left there, and the packet is not a later fragment. -/
def TcpHeaderLocated {T : Type} (M : BpfMap T) (stack : StackImage) (maps : Maps T)
    (f : List Byte) : Prop :=
  ∀ hdr, Call.controller hdr ∈ (invoke (syncookieFn M stack) maps f).2.calls →
    hdr.tcp = some (14 + 4 * ipv4Ihl f) ∧ 14 + 4 * ipv4Ihl f + TcpT.size ≤ f.length ∧
      ipv4FragOffset f = 0

/-- The IPv4 header is taken to be twenty octets long and unfragmented without looking. -/
theorem tcp_header_located_iff {T : Type} (M : BpfMap T) (stack : StackImage) (maps : Maps T)
    (f : List Byte) :
    TcpHeaderLocated M stack maps f ↔
      (Dispatched f → headersLen ≤ f.length ∧ ipv4Ihl f = 5 ∧ ipv4FragOffset f = 0) := by
  simp only [TcpHeaderLocated, controller_mem_calls_iff, TcpT.size]
  constructor
  · intro h hd
    obtain ⟨htcp, hfit, hfrag⟩ := h _ ⟨hd, rfl⟩
    have hl : headersLen ≤ f.length := by
      by_contra hl
      simp [tcpPtr, hl] at htcp
    rw [tcpPtr, if_pos hl, Option.some.injEq] at htcp
    exact ⟨hl, by omega, hfrag⟩
  · rintro h hdr ⟨hd, rfl⟩
    obtain ⟨hl, hihl, hfrag⟩ := h hd
    have hlen : 54 ≤ f.length := hl
    simp only [tcpPtr, if_pos hl, hihl]
    exact ⟨trivial, by omega, hfrag⟩

def optionsFrame : List Byte :=
  [0x02, 0x00, 0x00, 0x00, 0x00, 0x01, 0x02, 0x00, 0x00, 0x00, 0x00, 0x02, 0x00, 0x08,
    0x46, 0x00, 0x00, 0x2c, 0x00, 0x00, 0x00, 0x00, 0x40, 0x06, 0x00, 0x00,
    0x0a, 0x00, 0x00, 0x01, 0x0a, 0x00, 0x00, 0x02, 0x94, 0x04, 0x00, 0x00,
    0x30, 0x39, 0x00, 0x50, 0x00, 0x00, 0x00, 0x01, 0x00, 0x00, 0x00, 0x00,
    0x50, 0x02, 0xff, 0xff, 0x00, 0x00, 0x00, 0x00]

theorem options_taken_for_tcp_header : ¬TcpHeaderLocated lpmTrie ⟨0, 0⟩ emptyMaps optionsFrame := by
  intro h
  have hd : Dispatched optionsFrame := by decide
  have hmem := (controller_mem_calls_iff lpmTrie ⟨0, 0⟩ emptyMaps optionsFrame _).mpr ⟨hd, rfl⟩
  have htcp := (h _ hmem).1
  revert htcp
  decide

end SyncookieXdp.Proofs
