import MeshTelemetry.Feed
import MeshTelemetry.Proofs.Receiver.File
import MeshTelemetry.Proofs.Source.Codec
import MeshTelemetry.Proofs.Text.Lines

/-!
# MeshTelemetry.Proofs.Source.Lines

The lines of a file of sources.

* `Source.IsLine`: one whole JSON object that is read as a source, and a line break.
* `Source.linesOf_bytes`: what is written for sources has one such line for each.
-/

namespace MeshTelemetry

/-- One whole JSON object that is read as a source, with nothing but a line break behind it. -/
def Source.IsLine (line : Bytes) : Prop :=
  ∃ text members source, line = Text.encode (text ++ "\n") ∧
    Json.read text = (.map members true, true) ∧ Source.decode text = .ok source

/-- The lines of a file. -/
abbrev Store.linesOf (content : Bytes) : List Bytes := Text.linesBy Feed.lineBreak content

/-- What is written twice behind a line is a line of its own the second time. -/
theorem Store.mem_linesOf_twice (before : Bytes) {line : Bytes} (hline : Feed.lineBreak ∉ line) :
    line ++ [Feed.lineBreak] ∈
      Store.linesOf (before ++ (line ++ [Feed.lineBreak]) ++ (line ++ [Feed.lineBreak])) := by
  have hended : Text.Ended Feed.lineBreak (before ++ (line ++ [Feed.lineBreak])) := by
    right
    simp
  rw [Store.linesOf, Text.linesBy_append hended, Text.linesBy_line hline, List.mem_append]
  exact .inr List.mem_cons_self

namespace Source

theorem isLine_bytes (source : Source) : IsLine source.bytes :=
  ⟨source.line, _, source, rfl, source.read_line, source.decode_line⟩

theorem linesOf_bytes (sources : List Source) :
    Store.linesOf (sources.flatMap Source.bytes) = sources.map Source.bytes := by
  have hbytes : Source.bytes = fun source => Text.encode source.line ++ [Feed.lineBreak] := by
    funext source
    rw [Source.bytes, Text.encode_append]
    rfl
  rw [hbytes]
  exact Text.linesBy_flatMap
    (fun source => Text.lineBreak_notMem_encode source.lineBreak_notMem_line) sources

end Source

end MeshTelemetry
