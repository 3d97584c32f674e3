import Mathlib.Tactic.MkIffOfInductiveProp
import MeshTelemetry.Proofs.Document.Members
import MeshTelemetry.Proofs.Json.Values
import MeshTelemetry.Proofs.Metric.Codec

/-!
# MeshTelemetry.Proofs.Metric.Members

Which objects are read as metric records, and as which ones. A record is decided by the values of
the members that have a field's name. The order of the members does not matter, and of the other
members only that their names are texts.

* `Metric.Described`: the record that the members of an object describe.
* `Metric.Acceptable`: members that describe some record, if their names are texts.
* `Metric.decode_object`: objects are read as the records that their members describe.
-/

namespace MeshTelemetry

open Json (Blanks Glyph Item Tree)

namespace Protocol

/-- The protocol that a name stands for. -/
def ofName : String → Protocol
  | "HTTP" | "http" => .http
  | "gRPC" | "grpc" | "GRPC" => .grpc
  | _ => .unrecognized

theorem find_names (s : String) : names.find s = .ok (ofName s) := by
  unfold ofName
  split
  case h_6 _ h₁ h₂ h₃ h₄ h₅ =>
    refine Decoder.Names.find_other rfl ?_
    simpa [names, List.lookup_eq_none_iff] using ⟨h₁, h₂, h₃, h₄, h₅⟩
  all_goals rfl

end Protocol

namespace ReportSide

/-- The side that a name stands for. -/
def ofName : String → ReportSide
  | "client" => .client
  | "server" => .server
  | "proxy" => .proxy
  | _ => .unrecognized

theorem find_names (s : String) : names.find s = .ok (ofName s) := by
  unfold ofName
  split
  case h_4 _ h₁ h₂ h₃ =>
    refine Decoder.Names.find_other rfl ?_
    simpa [names, List.lookup_eq_none_iff] using ⟨h₁, h₂, h₃⟩
  all_goals rfl

end ReportSide

namespace Metric

/-- The record whose fields are what the members of their names hold, or else their defaults. -/
@[mk_iff]
structure Described (members : List (Option String × Tree)) (m : Metric) : Prop where
  startTime : Given Tree.int64? none (valuesOf "start_time" members) m.startTime
  sourceService : Given Tree.text? (some "") (valuesOf "source_service_name" members) m.sourceService
  sourceInstance : Given Tree.text? (some "") (valuesOf "source_service_instance" members)
    m.sourceInstance
  destService : Given Tree.text? (some "") (valuesOf "dest_service_name" members) m.destService
  destInstance : Given Tree.text? (some "") (valuesOf "dest_service_instance" members) m.destInstance
  endpoint : Given Tree.text? (some "") (valuesOf "endpoint" members) m.endpoint
  latency : Given Tree.int32? (some 0) (valuesOf "latency" members) m.latency
  status : Given Tree.flag? (some false) (valuesOf "status" members) m.status
  responseCode : Given Tree.int32? (some 0) (valuesOf "response_code" members) m.responseCode
  protocol : Given (·.name?.map Protocol.ofName) (some .unrecognized) (valuesOf "protocol" members)
    m.protocol
  side : Given (·.name?.map ReportSide.ofName) (some .unrecognized) (valuesOf "detect_point" members)
    m.side

/-- The names of the fields, each with the values that fit it. -/
def fitting : List (String × (Tree → Bool)) :=
  [ ("start_time", fun t => t.int64?.isSome),
    ("source_service_name", fun t => t.text?.isSome),
    ("source_service_instance", fun t => t.text?.isSome),
    ("dest_service_name", fun t => t.text?.isSome),
    ("dest_service_instance", fun t => t.text?.isSome),
    ("endpoint", fun t => t.text?.isSome),
    ("latency", fun t => t.int32?.isSome),
    ("status", fun t => t.flag?.isSome),
    ("response_code", fun t => t.int32?.isSome),
    ("protocol", fun t => t.name?.isSome),
    ("detect_point", fun t => t.name?.isSome) ]

/-- The start time is there, no field is there twice, and the value of each fits. -/
@[mk_iff]
structure Acceptable (members : List (Option String × Tree)) : Prop where
  started : some "start_time" ∈ members.map (·.1)
  once : ∀ field ∈ fitting, (members.map (·.1)).count (some field.1) ≤ 1
  fits : ∀ field ∈ fitting, ∀ member ∈ members, member.1 = some field.1 → field.2 member.2 = true

instance (members : List (Option String × Tree)) :
    Decidable (Acceptable members) :=
  decidable_of_iff' _ (acceptable_iff members)

/-- Every name stands for a text. -/
def Legible (members : List (Option String × Tree)) : Prop := ∀ member ∈ members, member.1 ≠ none

instance (members : List (Option String × Tree)) : Decidable (Legible members) :=
  inferInstanceAs (Decidable (∀ member ∈ members, member.1 ≠ none))

/-- Whether a member has the name of a field. -/
def known (member : Option String × Tree) : Bool :=
  member.1 ∈ fitting.map (some ·.1)

section Reading

variable {members : List (Option String × Tree)} {m : Metric}

theorem passed_iff : Record.Passed fields (Tree.found members) ↔ Legible members := by
  rw [Record.Passed, Legible, Tree.found, List.forall_mem_map]
  refine forall₂_congr fun member _ => and_iff_left_of_imp fun _ => ?_
  exact fun _ => member.2.isWhole_document

section Field

variable {f : Field} {read : Tree → Option f.Value}
  (hread : ∀ {t : Tree} {v : f.Value}, f.decoder t.document = .ok v ↔ read t = some v)
include hread

theorem reads_document (t : Tree) : f.reads t.document = read t :=
  Option.ext fun _ => Field.reads_eq_some.trans hread

theorem given_iff {v : f.Value} :
    Given f.reads f.absent (valuesOf f.name (Tree.found members)) v ↔
      Given read f.absent (valuesOf f.name members) v := by
  have hreads : f.reads ∘ Tree.document = read := funext (reads_document hread)
  rw [Tree.found, valuesOf_map, given_map, hreads]

theorem isSome_reads : (fun t => (f.reads t.document).isSome) = fun t => (read t).isSome :=
  funext fun t => congrArg Option.isSome (reads_document hread t)

end Field

theorem isSome_reads_name {f : Field} {meant : String → f.Value}
    (hread : ∀ {t : Tree} {v : f.Value},
      f.decoder t.document = .ok v ↔ t.name?.map meant = some v) :
    (fun t : Tree => (f.reads t.document).isSome) = fun t => t.name?.isSome := by
  simpa only [Option.isSome_map] using isSome_reads hread

theorem holds_iff :
    Record.Holds (Tree.found members) fields m.values ↔
      Described members m := by
  rw [described_iff]
  refine and_congr (given_iff Decoder.int64_document) ?_
  refine and_congr (given_iff Decoder.text_document) ?_
  refine and_congr (given_iff Decoder.text_document) ?_
  refine and_congr (given_iff Decoder.text_document) ?_
  refine and_congr (given_iff Decoder.text_document) ?_
  refine and_congr (given_iff Decoder.text_document) ?_
  refine and_congr (given_iff Decoder.int32_document) ?_
  refine and_congr (given_iff Decoder.flag_document) ?_
  refine and_congr (given_iff Decoder.int32_document) ?_
  refine and_congr (given_iff (Decoder.named_document Protocol.find_names)) ?_
  exact (iff_of_eq (and_true _)).trans (given_iff (Decoder.named_document ReportSide.find_names))

theorem map_fields_eq_fitting :
    (fields.map fun f => (f.name, fun t => (f.reads t.document).isSome)) = fitting := by
  simp only [fields, fitting, List.map_cons, List.map_nil, List.cons.injEq, Prod.mk.injEq, true_and,
    and_true]
  exact ⟨isSome_reads Decoder.int64_document, isSome_reads Decoder.text_document,
    isSome_reads Decoder.text_document, isSome_reads Decoder.text_document,
    isSome_reads Decoder.text_document, isSome_reads Decoder.text_document,
    isSome_reads Decoder.int32_document, isSome_reads Decoder.flag_document,
    isSome_reads Decoder.int32_document,
    isSome_reads_name (Decoder.named_document Protocol.find_names),
    isSome_reads_name (Decoder.named_document ReportSide.find_names)⟩

/-- Only the start time has no default. -/
theorem started_iff :
    (∀ f ∈ fields, f.absent = none → valuesOf f.name members ≠ []) ↔
      some "start_time" ∈ members.map (·.1) := by
  simp [fields, ← valuesOf_ne_nil]

theorem exists_described : (∃ m, Described members m) ↔ Acceptable members := by
  have hvalues : (∃ m, Described members m) ↔
      ∃ vs, Record.Holds (Tree.found members) fields vs := by
    simp only [← holds_iff]
    exact ⟨fun ⟨m, h⟩ => ⟨m.values, h⟩, fun ⟨vs, h⟩ => ⟨ofValues vs, ofValues_eq_iff.mp rfl ▸ h⟩⟩
  -- each field by itself: it is there or has a default, at most once, and what it holds fits
  rw [hvalues, Record.exists_holds, acceptable_iff, ← map_fields_eq_fitting, List.forall_mem_map,
    List.forall_mem_map, ← started_iff]
  simp only [exists_given, Tree.found, valuesOf_map, ne_eq, List.map_eq_nil_iff, List.length_map,
    List.forall_mem_map, length_valuesOf, forall_valuesOf, forall_and]

theorem valuesOf_known {f : Field} (hf : f ∈ fields) :
    valuesOf f.name (members.filter known) = valuesOf f.name members := by
  refine valuesOf_filter fun t => ?_
  rw [known, ← map_fields_eq_fitting, List.map_map]
  exact decide_eq_true (List.mem_map.mpr ⟨f, hf, rfl⟩)

theorem described_perm {members' : List (Option String × Tree)}
    (h : (members.filter known).Perm (members'.filter known)) :
    Described members m ↔ Described members' m := by
  rw [← holds_iff, ← holds_iff]
  refine Record.holds_perm fun f hf => ?_
  have hvalues : (valuesOf f.name (members.filter known)).Perm
      (valuesOf f.name (members'.filter known)) := valuesOf_perm h
  rw [valuesOf_known hf, valuesOf_known hf] at hvalues
  rw [Tree.found, Tree.found, valuesOf_map, valuesOf_map]
  exact hvalues.map _

end Reading

section Objects

variable {before inner after : Blanks} {members : List (Item (List Glyph) × Item Tree)} {m : Metric}

theorem decode_objectText :
    decode (Json.objectText before inner members after) = .ok m ↔
      Legible (Tree.named members) ∧ Described (Tree.named members) m := by
  rw [decode, Json.objectText, Json.decode_text, decoder, Decoder.map_eq_ok, Tree.document,
    Tree.memberDocuments_eq]
  simp only [ofValues_eq_iff, exists_eq_right, Record.decode,
    Record.decodeMembers_iff fields_distinct, passed_iff, holds_iff]

theorem exists_decode_objectText :
    (∃ m, decode (Json.objectText before inner members after) = .ok m) ↔
      Legible (Tree.named members) ∧ Acceptable (Tree.named members) := by
  simp only [decode_objectText, exists_and_left, exists_described]

end Objects

/-- An object is read as a record if the names of its members are texts and the known members are
acceptable, and only then. The record is the one that they describe, in whatever order they stand
and whatever other members there are. -/
theorem decode_object (before inner after : Blanks)
    (members : List (Item (List Glyph) × Item Tree)) :
    ((∃ m, decode (Json.objectText before inner members after) = .ok m) ↔
      Legible (Tree.named members) ∧ Acceptable (Tree.named members)) ∧
    (∀ m, decode (Json.objectText before inner members after) = .ok m ↔
      Legible (Tree.named members) ∧ Described (Tree.named members) m) ∧
    ∀ (before' inner' after' : Blanks) (members' : List (Item (List Glyph) × Item Tree)),
      (Legible (Tree.named members') ↔ Legible (Tree.named members)) →
      ((Tree.named members').filter known).Perm ((Tree.named members).filter known) →
        (decode (Json.objectText before' inner' members' after')).toOption =
          (decode (Json.objectText before inner members after)).toOption := by
  refine ⟨exists_decode_objectText, fun m => decode_objectText, ?_⟩
  intro before' inner' after' members' hlegible hperm
  refine Option.ext fun m => ?_
  rw [Decoder.toOption_eq_some, Decoder.toOption_eq_some, decode_objectText, decode_objectText,
    hlegible, described_perm hperm]

/-- The members of a record as they are written, less those that have their default. -/
def ordered : List (Item (List Glyph) × Item Tree) :=
  [ Json.bare (Json.plain "start_time") (.number ⟨false, 1, none, none⟩),
    Json.bare (Json.plain "protocol") (.text (Json.plain "GRPC")) ]

/-- The same members in another order, one with an escape in its name, and one that is not known. -/
def scattered : List (Item (List Glyph) × Item Tree) :=
  [ (⟨[.space], Json.plain "more", []⟩, ⟨[], .list [] [⟨[], .null, [.lineFeed]⟩], []⟩),
    Json.bare (Json.plain "protocol") (.text (Json.plain "GRPC")),
    Json.bare (.unit ⟨0, false⟩ ⟨0, false⟩ ⟨7, false⟩ ⟨3, false⟩ :: Json.plain "tart_time")
      (.number ⟨false, 1, none, none⟩) ]

theorem decode_object_scattered :
    Json.objectText [] [] scattered [] =
      "\x7b \"more\":[null\n],\"protocol\":\"GRPC\",\"\\u0073tart_time\":1\x7d" ∧
    Legible (Tree.named scattered) ∧
    ((Tree.named scattered).filter known).Perm ((Tree.named ordered).filter known) ∧
    Described (Tree.named scattered) ⟨1, "", "", "", "", "", 0, false, 0, .grpc, .unrecognized⟩ ∧
    (decode (Json.objectText [] [] scattered [])).toOption =
      (decode (Json.objectText [] [] ordered [])).toOption := by
  have hlegible : Legible (Tree.named scattered) := by decide +kernel
  have hperm : ((Tree.named scattered).filter known).Perm ((Tree.named ordered).filter known) :=
    .swap _ _ _
  obtain ⟨-, hdecode, -⟩ := decode_object [] [] [] scattered
  obtain ⟨-, -, hsame⟩ := decode_object [] [] [] ordered
  refine ⟨by decide +kernel, hlegible, hperm, ((hdecode _).mp ?_).2,
    hsame [] [] [] scattered (iff_of_true hlegible (by decide +kernel)) hperm⟩
  exact Decoder.toOption_eq_some.mp (by decide +kernel)

/-- Half of a surrogate pair as the name of a member that is not known. -/
def halfNamed : List (Item (List Glyph) × Item Tree) :=
  [ Json.bare (Json.plain "start_time") (.number ⟨false, 1, none, none⟩),
    Json.bare [.unit ⟨13, false⟩ ⟨8, false⟩ ⟨0, false⟩ ⟨0, false⟩] (.number ⟨false, 2, none, none⟩) ]

/-- Such a name stands for no text, so a record with this member is refused. -/
theorem decode_halfNamed :
    Json.objectText [] [] halfNamed [] = "\x7b\"start_time\":1,\"\\ud800\":2\x7d" ∧
      Acceptable (Tree.named halfNamed) ∧
      ¬ ∃ m, decode (Json.objectText [] [] halfNamed []) = .ok m := by
  refine ⟨by decide +kernel, by decide +kernel, ?_⟩
  rw [exists_decode_objectText]
  exact fun h => absurd h.1 (by decide +kernel)

end Metric
end MeshTelemetry
