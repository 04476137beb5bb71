import SyncookieXdp.Model.Stats

/-!
# Printing the counters

The loop of `xdp_stats.c` that reads the counters again and again and prints what has changed
since the round before.
-/

namespace SyncookieXdp

def xdpActionNames : List String :=
  ["XDP_ABORTED", "XDP_DROP", "XDP_PASS", "XDP_TX", "XDP_REDIRECT", "XDP_UNKNOWN"]

def action2str (action : Nat) : Option String := xdpActionNames[action]?

def nanosecPerSec : BitVec 64 := 1000000000

/-- What the rates use of `double`. No number of nanoseconds but zero has a quotient that is zero. -/
structure Doubles (D : Type) where
  ofU64 : BitVec 64 → D
  div : D → D → D
  isZero : D → Bool
  isZero_zero : isZero (ofU64 0) = true
  isZero_seconds : ∀ period, period ≠ 0 → isZero (div (ofU64 period) (ofU64 nanosecPerSec)) = false

/-- The arguments of `printf` for one action. -/
structure StatsLine (D : Type) where
  action : Option String
  rxPackets : BitVec 64
  pps : D
  rxKbytes : BitVec 64
  bps : D
  period : D

/-- The lines under the header, and whether the empty line after them is reached. -/
structure Printout (D : Type) where
  lines : List (StatsLine D)
  complete : Bool

section Print

variable {D : Type} (d : Doubles D)

def calcPeriod (r p : Record) : D :=
  let period := r.timestamp - p.timestamp
  if period > 0 then d.div (d.ofU64 period) (d.ofU64 nanosecPerSec) else d.ofU64 0

def statsLine (i : Nat) (r prev : Record) : StatsLine D :=
  let period := calcPeriod d r prev
  let packets := r.total.rxPackets - prev.total.rxPackets
  let bytes := r.total.rxBytes - prev.total.rxBytes
  { action := action2str i
    rxPackets := r.total.rxPackets
    pps := d.div (d.ofU64 packets) period
    rxKbytes := r.total.rxBytes / 1000
    bps := d.div (d.div (d.ofU64 (bytes * 8)) period) (d.ofU64 1000000)
    period := period }

/-- The loop of `stats_print`, which returns at the first action without a period. -/
def statsPrintLoop (statsRec statsPrev : StatsRecord) : List (Fin xdpActionMax) → Printout D
  | [] => ⟨[], true⟩
  | i :: is =>
    if d.isZero (calcPeriod d (statsRec i) (statsPrev i)) then ⟨[], false⟩
    else
      let rest := statsPrintLoop statsRec statsPrev is
      { rest with lines := statsLine d i (statsRec i) (statsPrev i) :: rest.lines }

def statsPrint (statsRec statsPrev : StatsRecord) : Printout D :=
  statsPrintLoop d statsRec statsPrev (List.finRange xdpActionMax)

end Print

/-- What one call of `stats_collect` meets. -/
structure Reading where
  read : MapRead
  now : Fin xdpActionMax → BitVec 64
  value : Fin xdpActionMax → Datarec

section Poll

variable {D : Type} (d : Doubles D) (nrCpus : Nat) (mapType : MapType)

def Reading.collect (r : Reading) (statsRec : StatsRecord) : StatsRecord :=
  statsCollect r.read nrCpus mapType r.now r.value statsRec

/-- The rounds of the endless loop, as many as there are readings. -/
def statsPollLoop (record : StatsRecord) : List Reading → List (Printout D)
  | [] => []
  | r :: rs =>
    let prev := record
    let record := r.collect nrCpus mapType record
    statsPrint d record prev :: statsPollLoop record rs

def statsPoll (initial : Reading) (rounds : List Reading) : List (Printout D) :=
  statsPollLoop d nrCpus mapType (initial.collect nrCpus mapType (fun _ => ⟨0, ⟨0, 0⟩⟩)) rounds

end Poll

end SyncookieXdp
