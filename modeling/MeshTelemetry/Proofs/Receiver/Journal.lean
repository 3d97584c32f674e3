import MeshTelemetry.Proofs.Receiver.Appending

/-!
# MeshTelemetry.Proofs.Receiver.Journal

A file that one member of a set writes to, whatever the others do. Sources may be refused in front
of it or behind it, and still the file holds whole lines of sources once everything is written, if
there is room for everything.

* `Members.Journal`: the file and the buffer in front of it hold whole lines.
* `Members.receive_journal`, `Members.flush_journal`, `Members.close_journal`: this is kept.
-/

namespace MeshTelemetry

variable {loc : Location}

namespace Output

/-- The receiver writes to files elsewhere only. -/
abbrev Avoids (loc : Location) : Output → Prop := WritesTo (· ≠ loc)

theorem lasts_avoids (loc : Location) (node : Option Node) :
    Store.Lasts (· ≠ loc) fun s => s.node? loc = node ∧ s.shortages = [] :=
  (Store.lasts_node fun _ hother _ _ => hother).and Store.lasts_room

end Output

namespace Members

/-- One member writes to the file, which holds with what is pending `before` and whole lines of
sources behind it; the others write to files elsewhere. -/
inductive Journal (s : Store) (loc : Location) (before : Bytes) : Members Output → Prop
  | here {f : FileOutput} {rest : Members Output} (received failures : Nat)
      (sources : List Source) :
      f.location = loc → f.Holds s (before ++ sources.flatMap Source.bytes) →
      rest.All (Output.Avoids loc) →
      Journal s loc before (.more (.sink (.file f)) received failures rest)
  | there {output : Output} {rest : Members Output} (received failures : Nat) :
      output.Avoids loc → Journal s loc before rest →
      Journal s loc before (.more (.sink output) received failures rest)

variable {before : Bytes}

theorem Journal.congr {s s' : Store} {members : Members Output}
    (hj : Journal s loc before members) (heq : s'.node? loc = s.node? loc) :
    Journal s' loc before members := by
  induction hj with
  | here received failures sources hloc hholds hrest =>
    exact .here received failures sources hloc (hholds.congr (by rw [hloc]; exact heq)) hrest
  | there received failures houtput _ ih => exact .there received failures houtput ih

/-- The step of the invariant: the member that writes to the file is not reached, or it accepts the
source and its line is written as a whole. -/
theorem receive_journal (source : Source) (members : Members Output) :
    ∀ {h : Host}, Journal h.store loc before members → h.store.shortages = [] →
      Journal (members.receive source h).2.2.store loc before (members.receive source h).2.1 := by
  induction members using Members.induct with
  | none =>
    intro h hj
    cases hj
  | more receiver received failures rest ih =>
    intro h hj hroom
    cases hj with
    | @here f _ _ _ sources hloc hholds hrest =>
      obtain ⟨f', h1, hr, hsame, hholds', hroom1, -⟩ := FileOutput.receive_done hholds hroom source
      have hlines : before ++ sources.flatMap Source.bytes ++ source.bytes =
          before ++ (sources ++ [source]).flatMap Source.bytes := by
        rw [List.flatMap_append, List.flatMap_singleton, List.append_assoc]
      rw [hlines] at hholds'
      obtain ⟨hrest', hnode, -⟩ :=
        receive_lasting (Output.lasts_avoids loc _) hrest source ⟨rfl, hroom1⟩
      rw [← hloc, ← hsame] at hnode
      simp only [Members.receive, Receiver.receive, Sink.receive, Output.receive, hr]
      exact .here _ _ (sources ++ [source]) (hsame.trans hloc) (hholds'.congr hnode) hrest'
    | @there output _ _ _ houtput hrest =>
      obtain ⟨houtput', hnode, hroom1⟩ :=
        Output.receive_lasting (Output.lasts_avoids loc _) houtput source ⟨rfl, hroom⟩
      simp only [Members.receive, Receiver.receive]
      rcases hr : Sink.receive output source h with ⟨o, output', h1⟩
      rw [hr] at houtput' hnode hroom1
      have hrest1 := hrest.congr hnode
      cases o with
      | failed e => exact .there _ _ houtput' hrest1
      | crashed message => exact .there _ _ houtput' hrest1
      | done u => exact .there _ _ houtput' (ih hrest1 hroom1)

theorem flush_journal (members : Members Output) :
    ∀ {h : Host}, Journal h.store loc before members → h.store.shortages = [] →
      Journal (members.flush h).2.2.store loc before (members.flush h).2.1 := by
  induction members using Members.induct with
  | none =>
    intro h hj
    cases hj
  | more receiver received failures rest ih =>
    intro h hj hroom
    cases hj with
    | @here f _ _ _ sources hloc hholds hrest =>
      obtain ⟨f', h1, hr, hsame, -, hholds', hroom1, -⟩ := FileOutput.flush_done hholds hroom
      obtain ⟨hrest', hnode, -⟩ := flush_lasting (Output.lasts_avoids loc _) hrest ⟨rfl, hroom1⟩
      rw [← hloc, ← hsame] at hnode
      simp only [Members.flush, Receiver.flush, Sink.flush, Output.flush, hr]
      exact .here _ _ sources (hsame.trans hloc) (hholds'.congr hnode) hrest'
    | @there output _ _ _ houtput hrest =>
      obtain ⟨houtput', hnode, hroom1⟩ :=
        Output.flush_lasting (Output.lasts_avoids loc _) houtput ⟨rfl, hroom⟩
      simp only [Members.flush, Receiver.flush]
      rcases hr : Sink.flush output h with ⟨o, output', h1⟩
      rw [hr] at houtput' hnode hroom1
      have hrest1 := hrest.congr hnode
      cases o with
      | crashed message => exact .there _ _ houtput' hrest1
      | done u => exact .there _ _ houtput' (ih hrest1 hroom1)
      | failed e =>
        have hrest2 := ih (h := logFlushFailure (.sink output') e h1) hrest1 hroom1
        simp only
        rcases hr2 : rest.flush (logFlushFailure (.sink output') e h1) with ⟨o, rest', h2⟩
        rw [hr2] at hrest2
        cases o <;> exact .there _ _ houtput' hrest2

/-- Closing writes what is pending: whole lines of sources are behind what was there before. -/
theorem close_journal (members : Members Output) :
    ∀ {h : Host}, Journal h.store loc before members → h.store.shortages = [] →
      ∃ sources : List Source, (members.close h).store.content loc =
        .ok (before ++ sources.flatMap Source.bytes) := by
  induction members using Members.induct with
  | none =>
    intro h hj
    cases hj
  | more receiver received failures rest ih =>
    intro h hj hroom
    cases hj with
    | @here f _ _ _ sources hloc hholds hrest =>
      refine ⟨sources, ?_⟩
      obtain ⟨f', h1, hr, hsame, hempty, ⟨c, hc, hbytes⟩, hroom1, -⟩ :=
        FileOutput.flush_done hholds hroom
      have hstore : (f.close h).store = h1.store := by rw [FileOutput.close_store, hr]
      obtain ⟨hnode, -⟩ := close_lasting (h := f.close h) (Output.lasts_avoids loc _) hrest
        ⟨rfl, by rw [hstore, hroom1]⟩
      rw [hstore, ← hloc, ← hsame, hc] at hnode
      have hbytes' : c.bytes = before ++ sources.flatMap Source.bytes := by
        rw [← hbytes, hempty]
        simp [Buffered.empty]
      rw [← hloc, ← hsame, ← hbytes']
      exact Store.content_file hnode
    | @there output _ _ _ houtput hrest =>
      obtain ⟨hnode, hroom1⟩ :=
        Output.close_lasting (Output.lasts_avoids loc _) houtput ⟨rfl, hroom⟩
      exact ih (hrest.congr hnode) hroom1

theorem journal_ofList {s : Store} {c : Content} {outputs : List Output}
    (hfile : s.node? loc = some (.file c)) (hfresh : ∀ output ∈ outputs, output.Fresh)
    (hone : (Output.locations outputs).count loc = 1) :
    Journal s loc c.bytes (.ofList (outputs.map .sink)) := by
  induction outputs with
  | nil => cases hone
  | cons output outputs ih =>
    rw [List.forall_mem_cons] at hfresh
    obtain ⟨hfirst, hrest⟩ := hfresh
    cases hfirst with
    | log name => exact .there 0 0 (Output.writesTo_log name) (ih hrest hone)
    | file name location =>
      have hcons : Output.locations (.file ⟨name, location, .empty⟩ :: outputs) =
          location :: Output.locations outputs := rfl
      rw [hcons, List.count_cons] at hone
      by_cases hloc : location = loc
      · subst hloc
        have hnone : location ∉ Output.locations outputs := by
          rw [← List.count_eq_zero]
          simpa using hone
        refine .here (f := ⟨name, location, .empty⟩) 0 0 [] rfl ⟨c, hfile, ?_⟩ ?_
        · simp [Buffered.empty]
        · refine all_ofList fun o ho other hother heq => hnone ?_
          rw [← heq]
          exact List.mem_filterMap.mpr ⟨o, ho, hother⟩
      · refine .there 0 0 ((Output.writesTo_file _).mpr hloc) (ih hrest ?_)
        simpa [hloc] using hone

end Members
end MeshTelemetry
