import MeshTelemetry.Dispatcher
import MeshTelemetry.Proofs.Receiver.Agreement
import MeshTelemetry.Proofs.Receiver.File

/-!
# MeshTelemetry.Proofs.Receiver.Files

A set of receivers that write to the log and to distinct regular files. Every member accepts every
source, and all files get the same bytes.

* `Members.Holds`: what each file has got since the set was opened.
* `Members.receive_done`, `Members.flush_done`: one call on the set.
* `Dispatcher.offer_done`: a list of sources offered to the set.
-/

namespace MeshTelemetry

/-- `Holds s before bytes members locs`: the members are receivers that write to the log and to the
files at `locs`, and each file, with what its receiver holds back, has `bytes` behind the bytes
`before`. -/
inductive Members.Holds (s : Store) (before : Location → Bytes) (bytes : Bytes) :
    Members Output → List Location → Prop
  | none : Holds s before bytes .none []
  | log {rest : Members Output} {locs : List Location} (name : String) (received failures : Nat) :
      Holds s before bytes rest locs →
      Holds s before bytes (.more (.sink (.log name)) received failures rest) locs
  | file {f : FileOutput} {rest : Members Output} {locs : List Location} (received failures : Nat) :
      f.Holds s (before f.location ++ bytes) → f.location ∉ locs →
      Holds s before bytes rest locs →
      Holds s before bytes (.more (.sink (.file f)) received failures rest) (f.location :: locs)

namespace Members

variable {before : Location → Bytes}

theorem Holds.congr {s s' : Store} {bytes : Bytes} {members : Members Output}
    {locs : List Location} (h : Holds s before bytes members locs)
    (heq : ∀ loc ∈ locs, s'.node? loc = s.node? loc) : Holds s' before bytes members locs := by
  induction h with
  | none => exact .none
  | log name received failures _ ih => exact .log name received failures (ih heq)
  | file received failures hf hloc _ ih =>
    exact .file received failures (hf.congr (heq _ List.mem_cons_self)) hloc
      (ih fun loc hmem => heq loc (List.mem_cons_of_mem _ hmem))

theorem Holds.elsewhere {s s' : Store} {bytes : Bytes} {members : Members Output}
    {locs : List Location} {other : Location} (h : Holds s before bytes members locs)
    (hother : other ∉ locs) (hoff : Store.AgreeOff [other] s s') :
    Holds s' before bytes members locs := by
  refine h.congr fun loc hmem => hoff loc fun hin => hother ?_
  rwa [← List.mem_singleton.mp hin]

/-- The step of the invariant: every member accepts a source, and every file gets its line. -/
theorem receive_done (source : Source) (members : Members Output) :
    ∀ {h : Host} {bytes : Bytes} {locs : List Location}, Holds h.store before bytes members locs →
      h.store.shortages = [] → ∃ members' h', members.receive source h = (.done (), members', h') ∧
        Holds h'.store before (bytes ++ source.bytes) members' locs ∧ h'.store.shortages = [] ∧
        Store.AgreeOff locs h.store h'.store := by
  induction members using Members.induct with
  | none =>
    intro h bytes locs hm hroom
    cases hm
    exact ⟨.none, h, rfl, .none, hroom, fun _ _ => rfl⟩
  | more receiver received failures rest ih =>
    intro h bytes locs hm hroom
    cases hm with
    | log name _ _ hrest =>
      obtain ⟨rest', h', hr, hholds, hroom', hoff⟩ :=
        ih (h := Output.logSource name source h) hrest hroom
      refine ⟨.more (.sink (.log name)) (received + 1) failures rest', h', ?_,
        .log name _ _ hholds, hroom', hoff⟩
      simp only [Members.receive, Receiver.receive, Sink.receive, Output.receive, hr]
    | file _ _ hf hloc hrest =>
      obtain ⟨f', h1, hr1, hsame, hf', hroom1, hoff1⟩ := FileOutput.receive_done hf hroom source
      -- the other members find their files as they were, since no two have the same one
      have hrest1 := hrest.elsewhere hloc hoff1
      obtain ⟨rest', h2, hr2, hholds, hroom2, hoff2⟩ := ih hrest1 hroom1
      refine ⟨.more (.sink (.file f')) (received + 1) failures rest', h2, ?_, ?_, hroom2,
        hoff1.cons hoff2⟩
      · simp only [Members.receive, Receiver.receive, Sink.receive, Output.receive, hr1, hr2]
      · rw [← hsame] at hloc hf' ⊢
        rw [List.append_assoc] at hf'
        exact .file _ _ (hf'.congr (hoff2 _ hloc)) hloc hholds

/-- Flushing writes everything to the files, and leaves nothing for closing. -/
theorem flush_done (members : Members Output) :
    ∀ {h : Host} {bytes : Bytes} {locs : List Location}, Holds h.store before bytes members locs →
      h.store.shortages = [] → ∃ members' h', members.flush h = (.done (), members', h') ∧
        (∀ loc ∈ locs, h'.store.content loc = .ok (before loc ++ bytes)) ∧
        Store.AgreeOff locs h.store h'.store ∧ ∀ h, members'.close h = h := by
  induction members using Members.induct with
  | none =>
    intro h bytes locs hm _
    cases hm
    exact ⟨.none, h, rfl, nofun, fun _ _ => rfl, fun _ => rfl⟩
  | more receiver received failures rest ih =>
    intro h bytes locs hm hroom
    cases hm with
    | log name _ _ hrest =>
      obtain ⟨rest', h', hr, hcontent, hoff, hclose⟩ := ih hrest hroom
      refine ⟨.more (.sink (.log name)) received failures rest', h', ?_, hcontent, hoff, ?_⟩
      · simp only [Members.flush, Receiver.flush, Sink.flush, Output.flush, hr]
      · intro h
        simp only [Members.close, Receiver.close, Sink.close, Output.close, hclose]
    | file _ _ hf hloc hrest =>
      obtain ⟨f', h1, hr1, hsame, hempty, hf', hroom1, hoff1⟩ := FileOutput.flush_done hf hroom
      have hrest1 := hrest.elsewhere hloc hoff1
      obtain ⟨rest', h2, hr2, hcontent, hoff2, hclose⟩ := ih hrest1 hroom1
      refine ⟨.more (.sink (.file f')) received failures rest', h2, ?_, ?_,
        hoff1.cons hoff2, ?_⟩
      · simp only [Members.flush, Receiver.flush, Sink.flush, Output.flush, hr1, hr2]
      · intro loc hmem
        rcases List.mem_cons.mp hmem with rfl | hmem
        · obtain ⟨c, hc, hbytes⟩ := hf'
          rw [hempty] at hbytes
          rw [hsame] at hc
          rw [Store.content_file ((hoff2 _ hloc).trans hc), ← hbytes]
          simp [Buffered.empty]
        · exact hcontent loc hmem
      · intro h
        simp only [Members.close, Receiver.close, Sink.close, Output.close,
          FileOutput.close_empty hempty, hclose]

end Members

namespace Dispatcher

theorem offer_done {before : Location → Bytes} (name : String) (list : List Source) :
    ∀ {members : Members Output} {h : Host} {bytes : Bytes} {locs : List Location},
      Members.Holds h.store before bytes members locs → h.store.shortages = [] →
      ∃ members' h', offer list (.set name members) h =
          (.done (list.map Source.kind), .set name members', h') ∧
        Members.Holds h'.store before (bytes ++ list.flatMap Source.bytes) members' locs ∧
        h'.store.shortages = [] ∧ Store.AgreeOff locs h.store h'.store := by
  induction list with
  | nil =>
    intro members h bytes locs hm hroom
    exact ⟨members, h, rfl, by simpa using hm, hroom, fun _ _ => rfl⟩
  | cons source list ih =>
    intro members h bytes locs hm hroom
    obtain ⟨members1, h1, hr1, hm1, hroom1, hoff1⟩ := Members.receive_done source members hm hroom
    obtain ⟨members2, h2, hr2, hm2, hroom2, hoff2⟩ := ih (h := (h1.log .trace .dispatcher
      "Source forwarded" [("kind", source.kind.name)]).tally (.sources source.kind)) hm1 hroom1
    refine ⟨members2, h2, ?_, ?_, hroom2,
      fun loc hloc => (hoff2 loc hloc).trans (hoff1 loc hloc)⟩
    · simp only [offer, Receiver.receive, hr1, hr2, List.map_cons]
    · rw [List.flatMap_cons, ← List.append_assoc]
      exact hm2

end Dispatcher
end MeshTelemetry
