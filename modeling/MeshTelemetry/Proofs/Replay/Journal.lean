import MeshTelemetry.Proofs.Receiver.Journal
import MeshTelemetry.Proofs.Replay.Keeping
import MeshTelemetry.Proofs.Replay.Single

/-!
# MeshTelemetry.Proofs.Replay.Journal

The lines that a replay adds to a file. Each is the text of one source, if no two receivers write to
the file and there is room for everything; this is so for every input, whatever the other receivers
refuse and whatever ends the replay.

* `ReplaySettings.replay_appends`: what is added to a file.
* `ReplaySettings.replay_journal`: all lines that are added are the lines of sources.
-/

namespace MeshTelemetry

theorem Members.journal_keeps (loc : Location) (before : Bytes) :
    Receiver.Keeps fun (r : Receiver Output) s =>
      (∃ name members, r = .set name members ∧ members.Journal s loc before) ∧
        s.shortages = [] where
  receive := by
    rintro r h source ⟨⟨name, members, rfl, hj⟩, hroom⟩
    have hnext := receive_journal source members hj hroom
    have hroom' :=
      (Output.keeps_store Store.lasts_room).receive (r := .set name members) source hroom
    exact ⟨⟨name, _, rfl, hnext⟩, hroom'⟩
  flush := by
    rintro r h ⟨⟨name, members, rfl, hj⟩, hroom⟩
    have hnext := flush_journal members hj hroom
    have hroom' := (Output.keeps_store Store.lasts_room).flush (r := .set name members) hroom
    exact ⟨⟨name, _, rfl, hnext⟩, hroom'⟩

namespace ReplaySettings

variable {s : ReplaySettings} {stdin : Bytes} {isStopped : Nat → Bool} {h h1 : Host}
  {outputs : List Output} {loc : Location}

/-- A file that no receiver writes to, and what is no file, is as it was when the receivers were
opened. -/
theorem replay_stands {p : Location → Prop} (hopen : s.openReceivers h = (.ok outputs, h1))
    (hall : ∀ other ∈ Output.locations outputs, p other)
    (hp : ∀ other, p other → ∀ c, h1.store.node? loc = some (.file c) → other ≠ loc) :
    (s.replay stdin isStopped h).2.store.node? loc = h1.store.node? loc := by
  have hlasts := Store.lasts_node hp
  rcases replay_keeps (Output.keeps_lasting hlasts) stdin isStopped hopen
    ⟨Output.all_setOf hall, rfl⟩ with hstore | ⟨receiver, h', ⟨hreceiver, hnode⟩, hclosed⟩
  · rw [hstore]
  · rw [hclosed]
    exact Receiver.close_lasting hlasts hreceiver hnode

/-- A file that one receiver writes to has whole lines of sources behind what it held. -/
theorem replay_sources {c : Content} (stdin : Bytes) (isStopped : Nat → Bool)
    (hopen : s.openReceivers h = (.ok outputs, h1)) (hroom : h1.store.shortages = [])
    (hfile : h1.store.node? loc = some (.file c))
    (hone : (Output.locations outputs).count loc = 1) :
    ∃ sources : List Source, (s.replay stdin isStopped h).2.store.content loc =
      .ok (c.bytes ++ sources.flatMap Source.bytes) := by
  have hjournal := Members.journal_ofList hfile (openReceivers_fresh hopen) hone
  rcases replay_keeps (Members.journal_keeps loc c.bytes) stdin isStopped hopen
    ⟨⟨_, _, rfl, hjournal⟩, hroom⟩ with
    hstore | ⟨receiver, h', ⟨⟨name, members, rfl, hj⟩, hroom'⟩, hclosed⟩
  · refine ⟨[], ?_⟩
    rw [hstore, Store.content_file hfile, List.flatMap_nil, List.append_nil]
  · rw [hclosed]
    exact Members.close_journal members hj hroom'

/-- Whatever the outcome, a file to which no two receivers write has whole lines of sources behind
what it held before. -/
theorem replay_appends {after : Bytes} (hroom : h.store.shortages = [])
    (hsingle : ∀ outputs h1, s.openReceivers h = (.ok outputs, h1) →
      (Output.locations outputs).count loc ≤ 1)
    (hafter : (s.replay stdin isStopped h).2.store.content loc = .ok after) :
    ∃ (before : Bytes) (sources : List Source), h.store.content loc = .ok before ∧
      after = before ++ sources.flatMap Source.bytes := by
  have hgrown := openReceivers_store s h
  rcases hopen : s.openReceivers h with ⟨o, h1⟩
  rw [hopen] at hgrown
  -- without sources, what is there was there when the receivers had been opened
  have hsame : (s.replay stdin isStopped h).2.store.node? loc = h1.store.node? loc →
      ∃ (before : Bytes) (sources : List Source), h.store.content loc = .ok before ∧
        after = before ++ sources.flatMap Source.bytes := by
    intro hnode
    have hcontent : h1.store.content loc = .ok after := by
      rw [← hafter, Store.content, Store.content, hnode]
    exact ⟨after, [], hgrown.content_ok hcontent, by simp⟩
  cases o with
  | error e =>
    refine hsame ?_
    rw [replay, hopen]
  | ok outputs =>
    have hle := hsingle outputs h1 hopen
    by_cases hfile : ∃ c, h1.store.node? loc = some (.file c)
    · obtain ⟨c, hc⟩ := hfile
      rcases Nat.le_one_iff_eq_zero_or_eq_one.mp hle with hnone | hone
      · refine hsame (replay_stands hopen (p := (· ≠ loc)) ?_ fun _ hother _ _ => hother)
        rintro other hother rfl
        exact List.count_eq_zero.mp hnone hother
      · obtain ⟨sources, hsources⟩ := replay_sources stdin isStopped hopen
          (hgrown.shortages.trans hroom) hc hone
        rw [hafter] at hsources
        cases hsources
        exact ⟨c.bytes, sources, hgrown.content hc, rfl⟩
    · refine hsame (replay_stands hopen (p := fun _ => True) (fun _ _ => trivial) ?_)
      intro other _ c hc
      exact absurd ⟨c, hc⟩ hfile

/-- Every line that a replay adds to a file is one JSON object that is read as a source, if no two
receivers write to the file, it was empty or ended with a line break, and all writes succeed. -/
theorem replay_journal {after : Bytes} (hroom : h.store.shortages = [])
    (hsingle : ∀ outputs h1, s.openReceivers h = (.ok outputs, h1) →
      (Output.locations outputs).count loc ≤ 1)
    (hafter : (s.replay stdin isStopped h).2.store.content loc = .ok after) :
    ∃ before, h.store.content loc = .ok before ∧ (Text.Ended Feed.lineBreak before →
      ∃ added, Store.linesOf after = Store.linesOf before ++ added ∧
        ∀ line ∈ added, Source.IsLine line) := by
  obtain ⟨before, sources, hbefore, rfl⟩ := replay_appends hroom hsingle hafter
  refine ⟨before, hbefore, fun hended => ⟨sources.map Source.bytes, ?_, ?_⟩⟩
  · rw [← Source.linesOf_bytes]
    exact Text.linesBy_append hended _
  · intro line hline
    obtain ⟨source, -, rfl⟩ := List.mem_map.mp hline
    exact source.isLine_bytes

/-- The lines of a call of an item of the shop are added to a file that held a line already. -/
theorem replay_journal_shop :
    (∀ outputs h1, shopSettings.openReceivers shopHost = (.ok outputs, h1) →
      (Output.locations outputs).count ["a.jsonl"] ≤ 1) ∧
    Text.Ended Feed.lineBreak (Text.encode "old\n") ∧
    ∃ after, (shopSettings.replay (Text.encode shopInput) (fun _ => false) shopHost).2.store.content
        ["a.jsonl"] = .ok after ∧ after = Text.encode "old\n" ++ shopSettings.written shopInput ∧
      ∃ added, Store.linesOf after = [Text.encode "old\n"] ++ added ∧
        ∀ line ∈ added, Source.IsLine line := by
  have hsingle : ∀ outputs h1, shopSettings.openReceivers shopHost = (.ok outputs, h1) →
      (Output.locations outputs).count ["a.jsonl"] ≤ 1 := by
    rintro _ _ ⟨⟩
    decide
  have hended : Text.Ended Feed.lineBreak (Text.encode "old\n") := .inr rfl
  have hvalid : shopSettings.config.validate = .ok () := by decide +kernel
  refine ⟨hsingle, hended, ?_⟩
  obtain ⟨n, hn, hname⟩ := Naming.ofServices_done
    (Config.validate_compiles hvalid)
  have hnames : n.rename? = Config.nameOf? shopSettings.config.services := by
    funext service endpoint
    exact hname service endpoint
  have hopen : shopSettings.openReceivers shopHost =
      (.ok shopOutputs, (shopSettings.openReceivers shopHost).2) := rfl
  have hfiles : ∀ loc ∈ Output.locations shopOutputs, ∃ c,
      (shopSettings.openReceivers shopHost).2.store.node? loc = some (.file c) := by
    intro loc hloc
    simp only [Output.locations, shopOutputs, List.filterMap, Output.location?, List.mem_cons,
      List.not_mem_nil, or_false] at hloc
    rcases hloc with rfl | rfl
    · exact ⟨_, rfl⟩
    · exact ⟨_, rfl⟩
  have hinput : shopSettings.HasInput (Text.encode shopInput)
      (shopSettings.openReceivers shopHost).2.store (Output.locations shopOutputs) shopInput :=
    Text.decode?_eq_some.mpr rfl
  obtain ⟨report, h', hreplay, hcontent⟩ := replay_naming hn hopen rfl (by decide) hfiles hinput
  obtain ⟨before, hbefore, hafter⟩ := hcontent ["a.jsonl"] (by decide)
  cases hbefore
  rw [hnames] at hafter
  have hcontent : (shopSettings.replay (Text.encode shopInput) (fun _ => false)
      shopHost).2.store.content ["a.jsonl"] =
        .ok (Text.encode "old\n" ++ shopSettings.written shopInput) := by
    rw [hreplay]
    exact hafter
  obtain ⟨before, hbefore, hlines⟩ := replay_journal rfl hsingle hcontent
  cases hbefore
  exact ⟨_, hcontent, rfl, hlines hended⟩

/-- Two receivers write to a file that was empty, and the file gets a line that is no source. -/
theorem replay_journal_torn :
    let settings := tornSettings (String.ofList (List.replicate Buffered.capacity 'a'))
    settings.config.validate = .ok () ∧ (Store.initial []).content ["a.jsonl"] = .ok [] ∧
      ∃ report h' after, settings.replay (Text.encode looseInput) (fun _ => false)
          (.withStore (.initial [])) = (.done report, h') ∧
        h'.store.content ["a.jsonl"] = .ok after ∧
        ∃ line ∈ Store.linesOf after, ¬ Source.IsLine line := by
  obtain ⟨hvalid, hrun⟩ := replay_torn (escape?_replicate _) (length_encode_replicate _).ge
  exact ⟨hvalid, rfl, hrun⟩

end ReplaySettings
end MeshTelemetry
