import MeshTelemetry.Stats.Summary

/-!
# MeshTelemetry.Replay.Report

What a replay reports at its end.

* `ReplayReport.throughput` — records by second; `ReplayReport.shown` — the text of the report.
-/

namespace MeshTelemetry

/-- How many records were read, how many lines were none, whether the replay was interrupted, how
often each receiver took or refused a source, and what was dispatched. -/
structure ReplayReport where
  recordsRead : Nat
  malformed : Nat
  interrupted : Bool
  activeReceivers : Nat
  receivers : List (String × Nat × Nat)
  dispatched : Stats.Dispatched

namespace ReplayReport

/-- A time in seconds: the whole ones and the part of one below them. -/
def seconds (nanos : Nat) : Float :=
  Float.ofNat (nanos / 1000000000) + Float.ofNat (nanos % 1000000000) / 1000000000.0

/-- Records by second; zero, if no time has passed. -/
def throughput (r : ReplayReport) (nanos : Nat) : Float :=
  if seconds nanos > 0.0 then Float.ofNat r.recordsRead / seconds nanos else 0.0

/-- An entry of the overview, with its line break. -/
def entry (label value : String) : String := "   ├─ " ++ label ++ ": " ++ value ++ "\n"

def receiverEntry : String × Nat × Nat → String
  | (name, received, failures) =>
    entry name ("received=" ++ toString received ++ " failures=" ++ toString failures)

def shown (r : ReplayReport) (nanos : Nat) : String :=
  "\n=== Processing Statistics ===\n\n" ++
  "Overview\n" ++
  entry "Duration" (Decimal.withPlaces 2 (seconds nanos) ++ "s") ++
  entry "Records read" (toString r.recordsRead) ++
  entry "Malformed lines" (toString r.malformed) ++
  entry "Records/s" (Decimal.withPlaces 2 (r.throughput nanos)) ++
  (if r.interrupted then entry "Interrupted" "yes" else "") ++
  "   └─ Active receivers: " ++ toString r.activeReceivers ++ "\n" ++
  "\n" ++ r.dispatched.report ++ "\n" ++
  (if r.receivers.isEmpty then ""
    else "\nReceivers\n" ++ String.join (r.receivers.map receiverEntry)) ++
  "\n"

end ReplayReport

end MeshTelemetry
