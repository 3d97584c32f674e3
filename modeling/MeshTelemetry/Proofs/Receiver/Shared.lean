import MeshTelemetry.Proofs.Fanout.Offering
import MeshTelemetry.Proofs.Receiver.Opening

/-!
# MeshTelemetry.Proofs.Receiver.Shared

Receivers that all write to the same file. Each has a buffer of its own, and what the buffers hold
at the end is written one behind the other, wherever in a line it begins.

* `Members.Shared`: the members write to one file, with something known of what is pending.
* `FileOutput.accepts_long`: what is pending behind a source with a long piece in it.
* `Dispatcher.offer_shared`: this is pending in all of them after the last source.
* `Members.flush_shared`: it is written as often as there are members.
-/

namespace MeshTelemetry

/-- So many members all write to the file at the location; `q` is true of what each of them has
pending. -/
inductive Members.Shared (loc : Location) (q : Bytes → Prop) : Nat → Members Output → Prop
  | none : Shared loc q 0 .none
  | file {f : FileOutput} {rest : Members Output} {n : Nat} (received failures : Nat) :
      f.location = loc → q f.buffer.pending.toList → Shared loc q n rest →
      Shared loc q (n + 1) (.more (.sink (.file f)) received failures rest)

/-- There is a regular file at the location, and room for everything. -/
structure Store.HasFile (s : Store) (loc : Location) : Prop where
  file : ∃ c, s.node? loc = some (.file c)
  room : s.shortages = []

variable {loc : Location}

namespace FileOutput

theorem holds_self {f : FileOutput} {s : Store} (h : s.HasFile f.location) :
    ∃ bytes, f.Holds s bytes := by
  obtain ⟨c, hc⟩ := h.file
  exact ⟨_, c, hc, rfl⟩

theorem Holds.hasFile {f : FileOutput} {s : Store} {bytes : Bytes} (h : f.Holds s bytes)
    (hroom : s.shortages = []) : s.HasFile f.location := by
  obtain ⟨c, hc, -⟩ := h
  exact ⟨⟨c, hc⟩, hroom⟩

/-- Every receiver of a regular file accepts the source, and `q` is true of what it then has
pending. -/
def Accepts (source : Source) (q : Bytes → Prop) : Prop :=
  ∀ (f : FileOutput) (h : Host), h.store.HasFile f.location →
    ∃ f' h', f.receive source h = (.done (), f', h') ∧ f'.location = f.location ∧
      h'.store.HasFile f'.location ∧ q f'.buffer.pending.toList

theorem accepts_any (source : Source) : Accepts source fun _ => True := by
  intro f h hfile
  obtain ⟨bytes, hholds⟩ := holds_self hfile
  obtain ⟨f', h', hr, hsame, hholds', hroom', -⟩ := receive_done hholds hfile.room source
  exact ⟨f', h', hr, hsame, hholds'.hasFile hroom', trivial⟩

/-- If a piece of a source is as long as the buffer, only what stands behind it is pending. -/
theorem accepts_long {source : Source} {front back : List Bytes} {long : Bytes}
    (hpieces : source.toJson.pieces.map Text.encode = front ++ long :: back)
    (hlong : Buffered.capacity ≤ long.length)
    (hback : back.flatten.length + 1 < Buffered.capacity) :
    Accepts source (· = back.flatten ++ Text.encode "\n") := by
  intro f h hfile
  obtain ⟨f', h', hr, hsame, hfile', -⟩ := accepts_any source f h hfile
  refine ⟨f', h', hr, hsame, hfile', ?_⟩
  simp only [receive, hpieces] at hr
  split at hr
  · cases hr
  · next buffer h1 hall =>
    have hpending := Buffered.writeAll_long hlong (by omega) hall
    have hsmall : (Text.encode "\n").length < buffer.spare := by
      rw [Buffered.spare, ← Array.length_toList, hpending]
      have hone : (Text.encode "\n").length = 1 := rfl
      omega
    rw [Buffered.write_small hsmall] at hr
    cases hr
    rw [Buffered.keep, Array.toList_appendList, hpending]

end FileOutput

namespace Members

variable {q q' : Bytes → Prop} {n : Nat}

theorem receive_shared {source : Source} (haccepts : FileOutput.Accepts source q')
    {members : Members Output} (hs : Shared loc q n members) :
    ∀ {h : Host}, h.store.HasFile loc → ∃ members' h',
      members.receive source h = (.done (), members', h') ∧ Shared loc q' n members' ∧
        h'.store.HasFile loc := by
  induction hs with
  | none => exact fun {h} hfile => ⟨.none, h, rfl, .none, hfile⟩
  | @file f rest n received failures hloc _ _ ih =>
    intro h hfile
    obtain ⟨f', h1, hr1, hsame, hfile1, hq⟩ := haccepts f h (by rwa [hloc])
    rw [hsame, hloc] at hfile1
    obtain ⟨rest', h2, hr2, hshared, hfile2⟩ := ih hfile1
    refine ⟨.more (.sink (.file f')) (received + 1) failures rest', h2, ?_,
      .file _ _ (hsame.trans hloc) hq hshared, hfile2⟩
    simp only [Members.receive, Receiver.receive, Sink.receive, Output.receive, hr1, hr2]

/-- What all members have pending is written once for each of them. -/
theorem flush_shared {tail : Bytes} {members : Members Output}
    (hs : Shared loc (· = tail) n members) :
    ∀ {h : Host} {c : Content}, h.store.node? loc = some (.file c) → h.store.shortages = [] →
      ∃ members' h', members.flush h = (.done (), members', h') ∧
        h'.store.content loc = .ok (c.bytes ++ (List.replicate n tail).flatten) ∧
        ∀ h, members'.close h = h := by
  induction hs with
  | none =>
    intro h c hc _
    refine ⟨.none, h, rfl, ?_, fun _ => rfl⟩
    rw [Store.content_file hc]
    simp
  | @file f rest n received failures hloc htail _ ih =>
    intro h c hc hroom
    have hholds : f.Holds h.store (c.bytes ++ tail) := ⟨c, by rw [hloc]; exact hc, by rw [htail]⟩
    obtain ⟨f', h1, hr1, hsame, hempty, ⟨c1, hc1, hbytes⟩, hroom1, -⟩ :=
      FileOutput.flush_done hholds hroom
    rw [hsame, hloc] at hc1
    obtain ⟨rest', h2, hr2, hcontent, hclose⟩ := ih hc1 hroom1
    refine ⟨.more (.sink (.file f')) received failures rest', h2, ?_, ?_, fun h => ?_⟩
    · simp only [Members.flush, Receiver.flush, Sink.flush, Output.flush, hr1, hr2]
    · have hc1 : c1.bytes = c.bytes ++ tail := by
        rw [← hbytes, hempty]
        simp [Buffered.empty]
      rw [hcontent, hc1, List.replicate_succ, List.flatten_cons, List.append_assoc]
    · simp only [Members.close, Receiver.close, Sink.close, Output.close,
        FileOutput.close_empty hempty, hclose]

theorem shared_ofList {outputs : List Output} (hfresh : ∀ output ∈ outputs, output.Fresh)
    (hall : ∀ output ∈ outputs, output.location? = some loc) :
    Shared loc (fun _ => True) outputs.length (.ofList (outputs.map .sink)) := by
  induction outputs with
  | nil => exact .none
  | cons output outputs ih =>
    rw [List.forall_mem_cons] at hfresh hall
    cases hfresh.1 with
    | log name => cases hall.1
    | file name location =>
      exact .file (f := ⟨name, location, .empty⟩) 0 0 (Option.some.inj hall.1) trivial
        (ih hfresh.2 hall.2)

end Members

/-- All sources are accepted, and behind the last one every receiver has pending what it leaves. -/
theorem Dispatcher.offer_shared {q : Bytes → Prop} {last : Source}
    (hlast : FileOutput.Accepts last q) (name : String) {n : Nat} (list : List Source) :
    ∀ {members : Members Output} {h : Host}, Members.Shared loc (fun _ => True) n members →
      h.store.HasFile loc → ∃ members' h', offer (list ++ [last]) (.set name members) h =
          (.done ((list ++ [last]).map Source.kind), .set name members', h') ∧
        Members.Shared loc q n members' ∧ h'.store.HasFile loc := by
  induction list with
  | nil =>
    intro members h hs hfile
    obtain ⟨members', h', hr, hs', hfile'⟩ := Members.receive_shared hlast hs hfile
    refine ⟨members', (h'.log .trace .dispatcher "Source forwarded"
      [("kind", last.kind.name)]).tally (.sources last.kind), ?_, hs', hfile'⟩
    simp only [List.nil_append, offer, Receiver.receive, hr, List.map_cons, List.map_nil]
  | cons source list ih =>
    intro members h hs hfile
    obtain ⟨members1, h1, hr1, hs1, hfile1⟩ :=
      Members.receive_shared (FileOutput.accepts_any source) hs hfile
    obtain ⟨members2, h2, hr2, hs2, hfile2⟩ := ih (h := (h1.log .trace .dispatcher
      "Source forwarded" [("kind", source.kind.name)]).tally (.sources source.kind)) hs1 hfile1
    refine ⟨members2, h2, ?_, hs2, hfile2⟩
    simp only [List.cons_append, offer, Receiver.receive, hr1, hr2, List.map_cons]

end MeshTelemetry
