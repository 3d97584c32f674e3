import MeshTelemetry.Proofs.Receiver.Agreement
import MeshTelemetry.Proofs.Receiver.Opening

/-!
# MeshTelemetry.Proofs.Receiver.Outputs

What a relation between hosts needs to be kept by the receivers of the program: whatever is written
to their files on both hosts keeps it.

* `Device.Respects`: what is asked of a file; `Buffered.write_agree`, `Buffered.flush_agree`: a
  buffer in front of it.
* `Output.respects`: the receivers.
-/

namespace MeshTelemetry

variable {R : Host → Host → Prop}

/-- The device gives the same answer on related hosts, and leaves them related. -/
def Device.Respects {ε : Type} (R : Host → Host → Prop) (device : Device Host ε) : Prop :=
  ∀ {h h' : Host} (bytes : Bytes), R h h' → ∃ answer h1 h1',
    device bytes h = (answer, h1) ∧ device bytes h' = (answer, h1') ∧ R h1 h1'

namespace Buffered

variable {ε : Type} {device : Device Host ε}

theorem flush_agree (hd : Device.Respects R device) (b : Buffered) {h h' : Host} (hh : R h h') :
    Agree R (fun _ => True) (b.flush device h) (b.flush device h') := by
  unfold flush
  split
  · exact ⟨_, b, h, h', rfl, rfl, trivial, hh⟩
  · obtain ⟨answer, h1, h1', hr, hr', hh1⟩ := hd b.pending.toList hh
    rw [hr, hr']
    cases answer with
    | error e => exact ⟨_, _, h1, h1', rfl, rfl, trivial, hh1⟩
    | ok u => exact ⟨_, empty, h1, h1', rfl, rfl, trivial, hh1⟩

theorem place_agree (hd : Device.Respects R device) (bytes : Bytes) (b : Buffered) {h h' : Host}
    (hh : R h h') : Agree R (fun _ => True) (b.place device bytes h) (b.place device bytes h') := by
  unfold place
  split
  · obtain ⟨answer, h1, h1', hr, hr', hh1⟩ := hd bytes hh
    rw [hr, hr']
    cases answer <;> exact ⟨_, b, h1, h1', rfl, rfl, trivial, hh1⟩
  · exact ⟨_, b.keep bytes, h, h', rfl, rfl, trivial, hh⟩

theorem write_agree (hd : Device.Respects R device) (bytes : Bytes) (b : Buffered) {h h' : Host}
    (hh : R h h') : Agree R (fun _ => True) (b.write device bytes h) (b.write device bytes h') := by
  unfold write
  split
  · exact ⟨_, b.keep bytes, h, h', rfl, rfl, trivial, hh⟩
  · split
    · obtain ⟨answer, b1, h1, h1', hr, hr', -, hh1⟩ := flush_agree hd b hh
      rw [hr, hr']
      cases answer with
      | error e => exact ⟨_, b1, h1, h1', rfl, rfl, trivial, hh1⟩
      | ok u => exact place_agree hd bytes b1 hh1
    · exact place_agree hd bytes b hh

theorem writeAll_agree (hd : Device.Respects R device) (pieces : List Bytes) :
    ∀ (b : Buffered) {h h' : Host}, R h h' →
      Agree R (fun _ => True) (b.writeAll device pieces h) (b.writeAll device pieces h') := by
  induction pieces with
  | nil => exact fun b h h' hh => ⟨_, b, h, h', rfl, rfl, trivial, hh⟩
  | cons bytes pieces ih =>
    intro b h h' hh
    obtain ⟨answer, b1, h1, h1', hr, hr', -, hh1⟩ := write_agree hd bytes b hh
    rw [writeAll, writeAll, hr, hr']
    cases answer with
    | error e => exact ⟨_, b1, h1, h1', rfl, rfl, trivial, hh1⟩
    | ok u => exact ih b1 hh1

end Buffered

namespace Output

/-- The receiver writes to no file but such ones. -/
def WritesTo (p : Location → Prop) (o : Output) : Prop := ∀ loc, o.location? = some loc → p loc

variable {p : Location → Prop}

theorem writesTo_file (f : FileOutput) : WritesTo p (.file f) ↔ p f.location := by
  simp [WritesTo, location?]

theorem writesTo_log (name : String) : WritesTo p (.log name) := by
  rintro loc ⟨⟩

theorem writesTo_memory (name : String) (sources : List Source) :
    WritesTo p (.memory name sources) := by
  rintro loc ⟨⟩

theorem respects (hR : Host.Similarity R)
    (hp : ∀ loc, p loc → Device.Respects R (FileOutput.device loc)) :
    Sink.Respects R (WritesTo p) where
  receive := by
    intro o h h' source ho hh
    cases o with
    | log name => exact ⟨_, .log name, _, _, rfl, rfl, writesTo_log name, hR.log _ _ _ _ hh⟩
    | memory name sources => exact ⟨_, .memory name _, h, h', rfl, rfl, writesTo_memory name _, hh⟩
    | file f =>
      have hloc := (writesTo_file f).mp ho
      obtain ⟨answer, b1, h1, h1', hr, hr', -, hh1⟩ :=
        Buffered.writeAll_agree (hp _ hloc) (source.toJson.pieces.map Text.encode) f.buffer hh
      obtain ⟨answer2, b2, h2, h2', hr2, hr2', -, hh2⟩ :=
        Buffered.write_agree (hp _ hloc) (Text.encode "\n") b1 hh1
      simp only [Sink.receive, Output.receive, FileOutput.receive, hr, hr']
      cases answer with
      | error e =>
        exact ⟨_, .file { f with buffer := b1 }, h1, h1', rfl, rfl, (writesTo_file _).mpr hloc, hh1⟩
      | ok u =>
        simp only [hr2, hr2']
        cases answer2 <;>
          exact ⟨_, .file { f with buffer := b2 }, h2, h2', rfl, rfl, (writesTo_file _).mpr hloc,
            hh2⟩
  flush := by
    intro o h h' ho hh
    cases o with
    | log name => exact ⟨_, .log name, h, h', rfl, rfl, writesTo_log name, hh⟩
    | memory name sources =>
      exact ⟨_, .memory name sources, h, h', rfl, rfl, writesTo_memory name _, hh⟩
    | file f =>
      have hloc := (writesTo_file f).mp ho
      obtain ⟨answer, b1, h1, h1', hr, hr', -, hh1⟩ := Buffered.flush_agree (hp _ hloc) f.buffer hh
      simp only [Sink.flush, Output.flush, FileOutput.flush, hr, hr']
      cases answer with
      | error e =>
        exact ⟨_, .file { f with buffer := b1 }, h1, h1', rfl, rfl, (writesTo_file _).mpr hloc, hh1⟩
      | ok u =>
        exact ⟨_, .file { f with buffer := b1 }, _, _, rfl, rfl, (writesTo_file _).mpr hloc,
          hR.log _ _ _ _ hh1⟩
  close := by
    intro o h h' ho hh
    cases o with
    | log name => exact hh
    | memory name sources => exact hh
    | file f =>
      obtain ⟨answer, b1, h1, h1', hr, hr', -, hh1⟩ :=
        Buffered.flush_agree (hp _ ((writesTo_file f).mp ho)) f.buffer hh
      simpa only [Sink.close, Output.close, FileOutput.close, hr, hr'] using hh1

theorem all_setOf {outputs : List Output} (h : ∀ loc ∈ locations outputs, p loc) :
    (setOf outputs).All (WritesTo p) :=
  Members.all_ofList fun o ho loc hloc => h loc (List.mem_filterMap.mpr ⟨o, ho, hloc⟩)

end Output
end MeshTelemetry
