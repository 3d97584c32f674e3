import MeshTelemetry.Decimal.Places
import MeshTelemetry.Source
import MeshTelemetry.Stats.Running

/-!
# MeshTelemetry.Stats.Summary

What a run did: how many records were dispatched, which sources they gave rise to, how the
reported call latencies are spread, and the report on it.

* `Dispatched` — the counts, updated by `recordSuccess` and `recordFailure`.
* `Dispatched.report` — the report text.
-/

namespace MeshTelemetry
namespace Stats

/-- Figures of a stream of numbers. -/
structure Figures where
  count : Nat
  least : Float
  greatest : Float
  mean : Float
  deviation : Float

def Figures.ofRunning (s : Running Float) : Figures :=
  ⟨s.count, s.least, s.greatest, s.mean, s.deviation⟩

def Figures.report (f : Figures) : String :=
  if f.count = 0 then "N/A"
  else
    let shown := Decimal.withPlaces 3
    "min=" ++ shown f.least ++ ", max=" ++ shown f.greatest ++ ", mean=" ++ shown f.mean
      ++ ", std=" ++ shown f.deviation ++ " (n=" ++ toString f.count ++ ")"

/-- How often each kind of source was counted. -/
abbrev KindCounts := List (SourceKind × Nat)

namespace KindCounts

def count (counts : KindCounts) (kind : SourceKind) : Nat := (counts.lookup kind).getD 0

def bump (kind : SourceKind) : KindCounts → KindCounts
  | [] => [(kind, 1)]
  | (k, n) :: rest => if k = kind then (k, n + 1) :: rest else (k, n) :: bump kind rest

/-- The counted kinds in the order of reports. -/
def ordered (counts : KindCounts) : KindCounts :=
  SourceKind.every.filterMap fun k => (counts.lookup k).map (k, ·)

def total (counts : KindCounts) : Nat := counts.foldr (fun (_, n) sum => n + sum) 0

end KindCounts

/-- What was dispatched so far. -/
structure Dispatched where
  processed : Nat
  failed : Nat
  renamed : Nat
  sources : KindCounts
  latency : Running Float

namespace Dispatched

def none : Dispatched := ⟨0, 0, 0, [], .empty⟩

def recordSuccess (d : Dispatched) (latency : Int32) (emitted : List SourceKind) (renamed : Bool) :
    Dispatched where
  processed := d.processed + 1
  failed := d.failed
  renamed := if renamed then d.renamed + 1 else d.renamed
  sources := emitted.foldl (fun counts kind => KindCounts.bump kind counts) d.sources
  latency := d.latency.push (Float.ofInt latency.toInt)

/-- A record could not be dispatched. -/
def recordFailure (d : Dispatched) : Dispatched := { d with failed := d.failed + 1 }

def totalSources (d : Dispatched) : Nat := KindCounts.total d.sources

/-- The share of records that failed, in percent. -/
def failureRate (d : Dispatched) : Float :=
  let total := d.processed + d.failed
  if total > 0 then Float.ofNat d.failed / Float.ofNat total * 100.0 else 0.0

def report (d : Dispatched) : String :=
  "=== Mesh Analysis Summary ===\n" ++
  "Metrics processed: " ++ toString d.processed ++ "\n" ++
  "Metrics failed: " ++ toString d.failed ++ " (" ++ Decimal.withPlaces 2 d.failureRate ++ "%)\n" ++
  "Endpoints renamed: " ++ toString d.renamed ++ "\n" ++
  "Call latency (ms): " ++ (Figures.ofRunning d.latency).report ++ "\n" ++
  "Sources emitted: " ++ toString d.totalSources ++ "\n" ++
  String.join ((KindCounts.ordered d.sources).map fun (k, n) =>
    "  " ++ k.name ++ ": " ++ toString n ++ "\n")

end Dispatched

end Stats
end MeshTelemetry
