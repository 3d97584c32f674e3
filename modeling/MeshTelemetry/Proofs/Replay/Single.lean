import MeshTelemetry.Proofs.Meters
import MeshTelemetry.Proofs.Receiver.Jammed
import MeshTelemetry.Proofs.Receiver.Shared
import MeshTelemetry.Proofs.Replay.Steps
import MeshTelemetry.Proofs.Replay.Written
import MeshTelemetry.Proofs.Source.Lines

/-!
# MeshTelemetry.Proofs.Replay.Single

Replays of a single record. If all receivers write to the same file, and the last source of the
record has a piece as long as the buffers, the file ends with what stands behind this piece, once
for each receiver. If the room ends within a source, it is refused, and the replay may still end
with a report.

* `Replay.run_line`: the run over an input of one line; `ReplaySettings.replay_single`: the replay.
* `ReplaySettings.replay_shared`: the end of the file; `ReplaySettings.replay_torn`: it need not be
  a line.
* `ReplaySettings.replay_short`: the room ends within the second source.
-/

namespace MeshTelemetry
namespace Replay

theorem takeLine_record (c : Collaborators) {limit : Option Nat} {line : List Char} {m : Metric}
    {r : Replay} (hlimit : r.isAtLimit limit = false) (hrecord : recordOf? line = some m) :
    r.takeLine c limit (String.ofList line) = r.takeRecord c m := by
  rw [recordOf?] at hrecord
  simp only [takeLine, hlimit, Bool.false_eq_true, if_false, String.toList_ofList]
  split at hrecord
  · cases hrecord
  · next hblank =>
    cases hdecode : Metric.decode (String.ofList (Text.trim line)) with
    | error e =>
      rw [hdecode] at hrecord
      cases hrecord
    | ok m' =>
      rw [hdecode] at hrecord
      cases hrecord
      simp only [if_neg hblank]

/-- A record is taken from the only line of the input, and then the input is at its end. -/
theorem run_line {c : Collaborators} {limit : Option Nat} {r : Replay} {cs : List Char} {m : Metric}
    (hunread : r.feed.unread r.host.store = .ok (Text.encode (String.ofList cs)))
    (horigin : r.feed.origin = none) (hline : Text.linesOf cs = [cs])
    (hrecord : recordOf? cs = some m) (hlimit : r.isAtLimit limit = false)
    (hcrash : ∀ message, (r.dispatcher.process c m r.host).1 ≠ .crashed message) (fuel : Nat) :
    ∃ (r1 r2 : Replay) (feed : Feed), r1.takeRecord c m = (.next, r2) ∧ r1.progress = r.progress ∧
      r1.dispatcher = r.dispatcher ∧ r1.host = r.host ∧
      r.run c limit (fun _ => false) (fuel + 2) = (.finished, { r2 with feed }) := by
  have hfirst := advance_lines c limit (fun _ => false) (r := r) rfl hunread
  rw [hline] at hfirst
  rcases hfirst with ⟨rfl, -⟩ | ⟨line, rest, feed, hadvance, hfeed, hrest, -, hlines⟩
  · cases hline
  · obtain ⟨rfl, hnil⟩ := List.cons.inj hlines
    obtain rfl := Text.linesBy_eq_nil hnil.symm
    let r1 : Replay := { r with feed, lines := r.lines + 1 }
    have htake : r1.takeLine c limit (String.ofList cs) = r1.takeRecord c m :=
      takeLine_record c hlimit hrecord
    have hnext : ∃ r2, r1.takeRecord c m = (.next, r2) ∧ r2.feed = feed := by
      have hcrash1 : ∀ message, (r1.dispatcher.process c m r1.host).1 ≠ .crashed message := hcrash
      rw [takeRecord]
      generalize r1.dispatcher.process c m r1.host = answer at hcrash1 ⊢
      obtain ⟨o, dispatcher, h⟩ := answer
      cases o with
      | done d => exact ⟨_, rfl, rfl⟩
      | failed e => exact ⟨_, rfl, rfl⟩
      | crashed message => exact absurd rfl (hcrash1 message)
    obtain ⟨r2, hr2, hfeed2⟩ := hnext
    have hunread2 : r2.feed.unread r2.host.store = .ok (Text.encode (String.ofList [])) := by
      rw [hfeed2, ← hrest]
      refine Feed.unread_congr fun loc hloc => ?_
      rw [hfeed, horigin] at hloc
      cases hloc
    rcases advance_lines c limit (fun _ => false) (r := r2) rfl hunread2 with
      ⟨-, feed', hend⟩ | ⟨line, rest, feed', -, -, -, -, hlines'⟩
    · refine ⟨r1, r2, feed', hr2, rfl, rfl, rfl, ?_⟩
      have hnext : r.advance c limit (fun _ => false) = (.next, r2) :=
        hadvance.trans (htake.trans hr2)
      rw [run, hnext]
      simp only [run, hend]
    · cases hlines'

end Replay

namespace ReplaySettings

theorem escape?_replicate (n : Nat) :
    ∀ c ∈ (String.ofList (List.replicate n 'a')).toList, Json.escape? c = none := by
  rw [String.toList_ofList]
  intro c hc
  rw [List.eq_of_mem_replicate hc]
  rfl

theorem length_encode_replicate (n : Nat) :
    (Text.encode (String.ofList (List.replicate n 'a'))).length = n := by
  have hone : 'a'.utf8Size = 1 := rfl
  simp [Text.encode_ofList, List.flatMap_replicate, hone]

theorem map_encode_split {pieces front back : List String} {name : String}
    (h : pieces = front ++ name :: back) : pieces.map Text.encode =
      front.map Text.encode ++ Text.encode name :: back.map Text.encode := by
  rw [h, List.map_append, List.map_cons]

theorem ne_empty_of_long {name : String} (hlong : Buffered.capacity ≤ (Text.encode name).length) :
    name ≠ "" := by
  rintro rfl
  exact absurd hlong (by decide)

/-- A replay of a single record processes it and then ends. -/
theorem replay_single {s : ReplaySettings} {n : Naming} {stdin : Bytes} {h h1 : Host}
    {outputs : List Output} {cs : List Char} {m : Metric}
    (hn : Naming.ofServices s.config.services = .ok n)
    (hopen : s.openReceivers h = (.ok outputs, h1)) (hinput : s.input = "-")
    (hstdin : stdin = Text.encode (String.ofList cs)) (hline : Text.linesOf cs = [cs])
    (hrecord : recordOf? cs = some m) (hlimit : s.limit ≠ some 0)
    (hcrash : ∀ ready : Host, ready.store = h1.store → ∀ message,
      (Dispatcher.process (.ofNaming n) m ⟨Output.setOf outputs, .metered⟩ ready).1 ≠
        .crashed message) :
    ∃ (r1 r2 : Replay) (feed : Feed), r1.takeRecord (.ofNaming n) m = (.next, r2) ∧
      r1.progress = .none ∧ r1.dispatcher = ⟨Output.setOf outputs, .metered⟩ ∧
      r1.host.store = h1.store ∧ r1.host.meters = h1.meters ∧
      s.replay stdin (fun _ => false) h = Replay.finish (.finished, { r2 with feed }) := by
  generalize hready : h1.log .info .replay "Dispatcher ready"
    [ ("receivers", toString outputs.length), ("naming_services", toString n.serviceCount),
      ("naming_rules", toString n.ruleCount) ] = ready
  have hkept : ready.store = h1.store ∧ ready.meters = h1.meters := by
    rw [← hready]
    exact ⟨rfl, rfl⟩
  let start : Replay :=
    ⟨.ofBytes stdin, 0, .none, false, ⟨Output.setOf outputs, .metered⟩, ready⟩
  have hbelow : start.isAtLimit s.limit = false := by
    cases hs : s.limit with
    | none => rfl
    | some k =>
      have hk : k ≠ 0 := fun hzero => hlimit (by rw [hs, hzero])
      simp [Replay.isAtLimit, start, Progress.none, hk]
  have hunread : start.feed.unread start.host.store = .ok (Text.encode (String.ofList cs)) := by
    rw [← hstdin]
    exact Feed.unread_ofBytes _ _
  obtain ⟨fuel, hfuel⟩ : ∃ fuel, Replay.lineBound (.ofBytes stdin) ready.store = fuel + 2 :=
    Nat.exists_eq_add_of_le' (Nat.le_trans (by decide) (Nat.le_add_left UInt64.size _))
  obtain ⟨r1, r2, feed, htake, hprogress, hdispatcher, hhost, hrun⟩ :=
    Replay.run_line hunread rfl hline hrecord hbelow (hcrash ready hkept.1) fuel
  refine ⟨r1, r2, feed, htake, hprogress, hdispatcher, ?_, ?_, ?_⟩
  · rw [hhost]
    exact hkept.1
  · rw [hhost]
    exact hkept.2
  · have hfeed : s.openInput stdin ready.store = .ok (.ofBytes stdin) := if_pos hinput
    simp only [replay, hopen, hn, hready, hfeed, hfuel]
    exact congrArg Replay.finish hrun

theorem replay_shared {s : ReplaySettings} {n : Naming} {stdin : Bytes} {h h1 : Host}
    {outputs : List Output} {loc : Location} {cs : List Char} {m : Metric} {bucket : Int64}
    {sources : List Source} {last : Source} {tail : Bytes}
    (hn : Naming.ofServices s.config.services = .ok n)
    (hopen : s.openReceivers h = (.ok outputs, h1))
    (hall : ∀ output ∈ outputs, output.location? = some loc) (hfile : h1.store.HasFile loc)
    (hinput : s.input = "-") (hstdin : stdin = Text.encode (String.ofList cs))
    (hline : Text.linesOf cs = [cs]) (hrecord : recordOf? cs = some m) (hlimit : s.limit ≠ some 0)
    (hbucket : TimeBucket.ofMillis? m.startTime = some bucket)
    (hsources : sourcesOf n.rename? m = sources ++ [last])
    (hlast : FileOutput.Accepts last (· = tail)) :
    ∃ report h' before, s.replay stdin (fun _ => false) h = (.done report, h') ∧
      h'.store.content loc = .ok (before ++ (List.replicate outputs.length tail).flatten) := by
  have hprocess : ∀ ready : Host, ready.store = h1.store → ∃ d members timer h4,
      Dispatcher.process (.ofNaming n) m ⟨Output.setOf outputs, .metered⟩ ready =
        (.done d, ⟨.set "receivers" members, timer⟩, h4) ∧
      Members.Shared loc (· = tail) outputs.length members ∧ h4.store.HasFile loc := by
    intro ready hstore
    obtain ⟨members, h3, hoffer, hshared, hfile3⟩ := Dispatcher.offer_shared hlast "receivers"
      sources (Members.shared_ofList (openReceivers_fresh hopen) hall)
      (h := (Dispatcher.normalize (.ofNaming n) m ready).2)
      (by rwa [Dispatcher.normalize_store, hstore])
    have hanswer := Dispatcher.process_offer n hbucket ⟨Output.setOf outputs, .metered⟩ ready
    rw [hsources, Output.setOf, hoffer] at hanswer
    exact ⟨_, members, _, _, hanswer, hshared, by rwa [Timer.finish_store]⟩
  have hcrash : ∀ ready : Host, ready.store = h1.store → ∀ message,
      (Dispatcher.process (.ofNaming n) m ⟨Output.setOf outputs, .metered⟩ ready).1 ≠
        .crashed message := by
    intro ready hstore message
    obtain ⟨d, members, timer, h4, hanswer, -⟩ := hprocess ready hstore
    rw [hanswer]
    nofun
  obtain ⟨r1, r2, feed, htake, -, hdispatcher, hstore, -, hreplay⟩ :=
    replay_single hn hopen hinput hstdin hline hrecord hlimit hcrash
  obtain ⟨d, members, timer, h4, hanswer, hshared, ⟨c, hc⟩, hroom⟩ := hprocess r1.host hstore
  have hkept : r2.dispatcher.receiver = .set "receivers" members ∧ r2.host.store = h4.store := by
    rw [Replay.takeRecord, hdispatcher, hanswer] at htake
    cases htake
    exact ⟨rfl, rfl⟩
  obtain ⟨hreceiver, hstore4⟩ := hkept
  obtain ⟨members', h5, hflush, hcontent, hclose⟩ :=
    Members.flush_shared (h := r2.host) hshared (by rwa [hstore4]) (by rwa [hstore4])
  refine ⟨Replay.report { r2 with feed } (.set "receivers" members'), h5, c.bytes, ?_, hcontent⟩
  rw [hreplay]
  simp only [Replay.finish, hreceiver, Receiver.flush, hflush, Receiver.close, hclose]

section Torn

/-- Two receivers have the same path, and an endpoint gets a new name. -/
def tornSettings (name : String) : ReplaySettings where
  config :=
    { version := .v1
      services := [⟨"shop", [⟨name, "ax"⟩]⟩]
      receivers :=
        [⟨"first", .file, [("path", "a.jsonl")]⟩, ⟨"second", .file, [("path", "a.jsonl")]⟩] }
  input := "-"
  limit := none

def tornOutputs : List Output :=
  [.file ⟨"first", ["a.jsonl"], .empty⟩, .file ⟨"second", ["a.jsonl"], .empty⟩]

/-- The only record of the input. -/
def looseCall : Metric where
  startTime := 0
  sourceService := ""
  sourceInstance := ""
  destService := "shop"
  destInstance := ""
  endpoint := "ax"
  latency := 5
  status := true
  responseCode := 200
  protocol := .http
  side := .server

/-- The last source of the record. -/
def tornSource (name : String) : Source :=
  .endpoint ⟨197001010000, name, "shop", .normal, "", ⟨5, true, 200, .http⟩⟩

/-- The pieces behind the name in this source. -/
def tornBack : List String :=
  "\"" :: (Json.memberPieces false
    [ ("service_name", .text "shop"), ("service_node_type", .text "Normal"),
      ("service_instance_name", .text ""), ("latency", .int 5), ("status", .bool true),
      ("response_code", .int 200), ("request_type", .text "Http") ] ++ ["\x7d"])

/-- Their text. -/
def tornEnd : String :=
  "\",\"service_name\":\"shop\",\"service_node_type\":\"Normal\",\"service_instance_name\":\"\"," ++
  "\"latency\":5,\"status\":true,\"response_code\":200,\"request_type\":\"Http\"\x7d"

/-- The text is short, has no line break in it, and is no source. -/
theorem tornEnd_facts :
    (tornBack.map Text.encode).flatten = Text.encode tornEnd ∧
      (Text.encode tornEnd).length + 1 < Buffered.capacity ∧ '\n' ∉ tornEnd.toList ∧
      (Source.decode tornEnd).isOk = false := by
  decide +kernel

variable {name : String}

theorem ofMillis?_zero : TimeBucket.ofMillis? 0 = some 197001010000 := by decide +kernel

theorem sourcesOf_looseCall {name? : String → String → Option String}
    (h : name? "shop" "ax" = some name) :
    ∃ sources, sourcesOf name? looseCall = sources ++ [tornSource name] := by
  refine ⟨(shopSources name).dropLast, ?_⟩
  simp only [sourcesOf, looseCall, ofMillis?_zero, h]
  rfl

theorem tornSource_pieces (hquoted : Json.quotedPieces name = ["\"", name, "\""]) :
    ∃ front, (tornSource name).toJson.pieces = front ++ name :: tornBack := by
  refine
    ⟨"\x7b" :: (Json.memberPieces true
        [("kind", .text "endpoint"), ("time_bucket", .int 197001010000)] ++
        ([","] ++ (Json.quotedPieces "name" ++ [":", "\""]))), ?_⟩
  simp only [tornSource, Source.toJson, Source.kind, SourceKind.name, Source.members, Call.members,
    List.map_cons, List.map_nil, List.cons_append, List.nil_append, MemberValue.toJson,
    Json.pieces, Json.memberPieces, hquoted, List.append_assoc]
  rfl

theorem accepts_tornSource (hquoted : Json.quotedPieces name = ["\"", name, "\""])
    (hlong : Buffered.capacity ≤ (Text.encode name).length) :
    FileOutput.Accepts (tornSource name) (· = Text.encode tornEnd ++ Text.encode "\n") := by
  obtain ⟨front, hpieces⟩ := tornSource_pieces hquoted
  obtain ⟨hback, hsmall, -⟩ := tornEnd_facts
  rw [← hback] at hsmall ⊢
  exact FileOutput.accepts_long (map_encode_split hpieces) hlong hsmall

theorem applies_ax (name : String) : (⟨name, "ax"⟩ : NamingRule).applies "ax" = true := by
  simp only [NamingRule.applies]
  decide +kernel

theorem tornSettings_valid (hne : name ≠ "") : (tornSettings name).config.validate = .ok () := by
  obtain ⟨regex, hregex⟩ := NamingRule.compiles_of_applies (applies_ax name)
  have hname : name.isEmpty = false := by
    rw [Bool.eq_false_iff]
    exact fun hempty => hne (String.isEmpty_iff.mp hempty)
  have hservices : Config.checkServices 0 [] (tornSettings name).config.services = .ok () := rfl
  have hrules : Config.checkAllRules (tornSettings name).config.services = .ok () := by
    simp only at hregex
    simp [tornSettings, Config.checkAllRules, Config.checkRules, hname, hregex]
  rw [Config.validate, hservices, hrules]
  rfl

theorem tornSettings_rename {n : Naming}
    (hn : Naming.ofServices (tornSettings name).config.services = .ok n) :
    n.rename? "shop" "ax" = some name := by
  have hcompiles : ∀ s ∈ (tornSettings name).config.services, ∀ r ∈ s.rules, r.Compiles := by
    simp [tornSettings, NamingRule.compiles_of_applies (applies_ax name)]
  obtain ⟨n', hn', hname⟩ := Naming.ofServices_done hcompiles
  rw [hn] at hn'
  cases hn'
  have hrules : Config.rulesOf (tornSettings name).config.services "shop" = [⟨name, "ax"⟩] := rfl
  rw [hname, Config.nameOf?, hrules, Config.firstName?, List.find?_cons, applies_ax]
  rfl

theorem not_isLine_tornEnd : ¬ Source.IsLine (Text.encode tornEnd ++ Text.encode "\n") := by
  rintro ⟨text, members, source, heq, -, hdecode⟩
  rw [Text.encode_append] at heq
  obtain rfl := Text.encode_inj.mp (List.append_cancel_right heq)
  obtain ⟨-, -, -, hfails⟩ := tornEnd_facts
  rw [hdecode] at hfails
  cases hfails

/-- If the new name is as long as the buffers, both receivers end with the same part of a line, and
the second time it stands alone. -/
theorem replay_torn (hplain : ∀ c ∈ name.toList, Json.escape? c = none)
    (hlong : Buffered.capacity ≤ (Text.encode name).length) :
    (tornSettings name).config.validate = .ok () ∧
      ∃ report h' after, (tornSettings name).replay (Text.encode looseInput) (fun _ => false)
          (.withStore (.initial [])) = (.done report, h') ∧
        h'.store.content ["a.jsonl"] = .ok after ∧
        ∃ line ∈ Store.linesOf after, ¬ Source.IsLine line := by
  have hne := ne_empty_of_long hlong
  have hvalid := tornSettings_valid hne
  refine ⟨hvalid, ?_⟩
  obtain ⟨n, hn, -⟩ := Naming.ofServices_done (Config.validate_compiles hvalid)
  have hopen : (tornSettings name).openReceivers (.withStore (.initial [])) =
      (.ok tornOutputs, ((tornSettings name).openReceivers (.withStore (.initial []))).2) := rfl
  have hall : ∀ output ∈ tornOutputs, output.location? = some ["a.jsonl"] := by
    simp [tornOutputs, Output.location?]
  have hfile : ((tornSettings name).openReceivers (.withStore (.initial []))).2.store.HasFile
      ["a.jsonl"] := ⟨⟨_, rfl⟩, rfl⟩
  have hline : Text.linesOf looseInput.toList = [looseInput.toList] := by decide +kernel
  have hrecord : recordOf? looseInput.toList = some looseCall := by decide +kernel
  obtain ⟨sources, hsources⟩ := sourcesOf_looseCall (tornSettings_rename hn)
  have haccepts := accepts_tornSource (Json.quotedPieces_plain hplain hne) hlong
  obtain ⟨report, h', before, hreplay, hcontent⟩ := replay_shared hn hopen hall hfile rfl
    (congrArg Text.encode String.ofList_toList.symm) hline hrecord (by rintro ⟨⟩) ofMillis?_zero hsources
    haccepts
  obtain ⟨-, -, hend, -⟩ := tornEnd_facts
  refine ⟨report, h', _, hreplay, hcontent, _, ?_, not_isLine_tornEnd⟩
  have hmem := Store.mem_linesOf_twice before (Text.lineBreak_notMem_encode hend)
  rw [List.append_assoc] at hmem
  exact hmem

end Torn

section Short

/-- One receiver; an endpoint gets a new name. -/
def shortSettings (name : String) : ReplaySettings :=
  { tornSettings name with
    config :=
      { (tornSettings name).config with
        receivers := [⟨"first", .file, [("path", "a.jsonl")]⟩] } }

def shortInput : String :=
  "[0,\"cart\",\"c1\",\"shop\",\"\",\"ax\",5,true,200,\"http\",\"server\"]"

/-- The only record of the input. -/
def shortCall : Metric := { looseCall with sourceService := "cart", sourceInstance := "c1" }

/-- There is room for one full buffer, and none for what is written next. -/
def shortHost : Host := .withStore { Store.initial [] with shortages := [Buffered.capacity, 0] }

def shortOutput : FileOutput := ⟨"first", ["a.jsonl"], .empty⟩

/-- The receivers with nothing pending. -/
def shortReceiver (received failures : Nat) : Receiver Output :=
  .set "receivers" (.more (.sink (.file shortOutput)) received failures .none)

/-- The first source of the record. -/
def shortUpdate : Source :=
  .instanceUpdate ⟨ServiceId.ofService "cart" .normal, "c1", 197001010000⟩

/-- The source behind it. -/
def shortTraffic (name : String) : Source :=
  .all ⟨197001010000, "shop", "", name, ⟨5, true, 200, .http⟩⟩

variable {name : String}

theorem sourcesOf_shortCall {name? : String → String → Option String}
    (h : name? "shop" "ax" = some name) :
    ∃ rest, sourcesOf name? shortCall = shortUpdate :: shortTraffic name :: rest := by
  simp only [sourcesOf, shortCall, looseCall, ofMillis?_zero, h]
  exact ⟨_, rfl⟩

theorem shortTraffic_pieces (hquoted : Json.quotedPieces name = ["\"", name, "\""]) :
    ∃ front back, (shortTraffic name).toJson.pieces = front ++ name :: back ∧
      (front.map Text.encode).flatten ≠ [] ∧
      shortUpdate.bytes.length + (front.map Text.encode).flatten.length < Buffered.capacity := by
  refine
    ⟨"\x7b" :: (Json.memberPieces true
        [ ("kind", .text "all"), ("time_bucket", .int 197001010000), ("name", .text "shop"),
          ("service_instance_name", .text "") ] ++
        ([","] ++ (Json.quotedPieces "endpoint_name" ++ [":", "\""]))),
      "\"" :: (Json.memberPieces false
        [ ("latency", .int 5), ("status", .bool true), ("response_code", .int 200),
          ("request_type", .text "Http") ] ++ ["\x7d"]),
      ?_, List.append_ne_nil_of_left_ne_nil (by decide) _, by decide +kernel⟩
  simp only [shortTraffic, Source.toJson, Source.kind, SourceKind.name, Source.members,
    Call.members, List.map_cons, List.map_nil, List.cons_append, List.nil_append,
    MemberValue.toJson, Json.pieces, Json.memberPieces, hquoted, List.append_assoc]
  rfl

/-- The first source is accepted and counted, the second one is refused, and then nothing is
pending. -/
theorem offer_short (hplain : ∀ c ∈ name.toList, Json.escape? c = none)
    (hlong : Buffered.capacity ≤ (Text.encode name).length) (rest : List Source) {h : Host}
    {c : Content} (hnode : h.store.node? ["a.jsonl"] = some (.file c))
    (hshort : h.store.shortages = [Buffered.capacity, 0]) :
    ∃ h', Dispatcher.offer (shortUpdate :: shortTraffic name :: rest) (shortReceiver 0 0) h =
        (.failed (.refused .all (.receiver "first" IoFault.noSpace.message)), shortReceiver 1 1,
          h') ∧
      h'.meters = h.meters.bump (.sources .instanceUpdate) := by
  have hne := ne_empty_of_long hlong
  obtain ⟨front, back, hpieces, hfront, hfits⟩ :=
    shortTraffic_pieces (Json.quotedPieces_plain hplain hne)
  have hspare : shortOutput.buffer.spare = Buffered.capacity := rfl
  obtain ⟨buffer, hsmall, hpending⟩ :=
    FileOutput.receive_small (f := shortOutput) shortUpdate (by omega) h
  generalize hh1 : (h.log .trace .dispatcher "Source forwarded"
    [("kind", shortUpdate.kind.name)]).tally (.sources shortUpdate.kind) = h1
  have hkept : h1.store = h.store ∧ h1.meters = h.meters.bump (.sources .instanceUpdate) := by
    rw [← hh1]
    exact ⟨rfl, rfl⟩
  have hleft : (front.map Text.encode).flatten.length < buffer.spare := by
    rw [Buffered.spare, ← Array.length_toList, hpending]
    have hnil : shortOutput.buffer.pending.toList = [] := rfl
    rw [hnil, List.nil_append]
    omega
  obtain ⟨h2, hdropped⟩ := FileOutput.receive_dropped (f := { shortOutput with buffer }) (h := h1)
    (by rw [hkept.1]; exact hnode) (by rw [hkept.1]; exact hshort) (Nat.le_refl _)
    (map_encode_split hpieces) hleft hfront hlong
  have hmeters := FileOutput.receive_meters { shortOutput with buffer } (shortTraffic name) h1
  rw [hdropped] at hmeters
  refine ⟨logRefusal (.sink (Output.file shortOutput)) (shortTraffic name)
    (.receiver "first" IoFault.noSpace.message) h2, ?_, hmeters.trans hkept.2⟩
  simp only [shortReceiver, Dispatcher.offer_cons, Receiver.receive, Members.receive, Sink.receive,
    Output.receive, hsmall, hh1, hdropped]
  rfl

theorem process_short (hplain : ∀ c ∈ name.toList, Json.escape? c = none)
    (hlong : Buffered.capacity ≤ (Text.encode name).length) {n : Naming}
    (hname : n.rename? "shop" "ax" = some name) {h : Host} {c : Content}
    (hnode : h.store.node? ["a.jsonl"] = some (.file c))
    (hshort : h.store.shortages = [Buffered.capacity, 0]) :
    ∃ cause timer h', Dispatcher.process (.ofNaming n) shortCall ⟨shortReceiver 0 0, .metered⟩ h =
        (.failed cause, ⟨shortReceiver 1 1, timer⟩, h') ∧
      h'.meters =
        ((h.meters.bump (.renamed "shop")).bump (.sources .instanceUpdate)).bump .latency := by
  have hbucket : TimeBucket.ofMillis? shortCall.startTime = some 197001010000 := ofMillis?_zero
  obtain ⟨rest, hsources⟩ := sourcesOf_shortCall hname
  have hanswer := Dispatcher.process_offer n hbucket ⟨shortReceiver 0 0, .metered⟩ h
  rw [← Dispatcher.normalize_store (.ofNaming n) shortCall] at hnode hshort
  obtain ⟨h3, hoffer, hmeters⟩ := offer_short hplain hlong rest hnode hshort
  have hnormalized : (Dispatcher.normalize (.ofNaming n) shortCall h).2.meters =
        h.meters.bump (.renamed "shop") := by
    have hrename : (Collaborators.ofNaming n).rename shortCall.destService shortCall.endpoint =
        .done (some name) := congrArg Outcome.done hname
    simp only [Dispatcher.normalize, hrename]
    rfl
  simp only [hsources, hoffer] at hanswer
  refine ⟨_, _, _, hanswer, ?_⟩
  rw [← hnormalized, ← hmeters]
  rfl

/-- The second source of the record is refused, and still the replay ends with a report. -/
theorem replay_short (hplain : ∀ c ∈ name.toList, Json.escape? c = none)
    (hlong : Buffered.capacity ≤ (Text.encode name).length) :
    ∃ report h', (shortSettings name).replay (Text.encode shortInput) (fun _ => false) shortHost =
        (.done report, h') ∧
      report.dispatched.renamed = 0 ∧ h'.meters.renamings = 1 ∧
      report.dispatched.sources.count .instanceUpdate = 0 ∧
      h'.meters.count (.sources .instanceUpdate) = 1 := by
  have hne := ne_empty_of_long hlong
  obtain ⟨n, hn, -⟩ := Naming.ofServices_done (Config.validate_compiles (tornSettings_valid hne))
  have hopen : (shortSettings name).openReceivers shortHost =
      (.ok [.file shortOutput], ((shortSettings name).openReceivers shortHost).2) := rfl
  have hready : ∃ c, ((shortSettings name).openReceivers shortHost).2.store.node? ["a.jsonl"] =
        some (.file c) ∧
      ((shortSettings name).openReceivers shortHost).2.store.shortages = [Buffered.capacity, 0] ∧
      ((shortSettings name).openReceivers shortHost).2.meters = [] := ⟨_, rfl, rfl, rfl⟩
  generalize ((shortSettings name).openReceivers shortHost).2 = h1 at hopen hready
  obtain ⟨c, hnode, hshort, hstart⟩ := hready
  have hprocess := fun (ready : Host) (hstore : ready.store = h1.store) =>
    process_short hplain hlong (tornSettings_rename hn) (h := ready) (by rwa [hstore])
      (by rwa [hstore])
  have hcrash : ∀ ready : Host, ready.store = h1.store → ∀ message,
      (Dispatcher.process (.ofNaming n) shortCall
        ⟨Output.setOf [.file shortOutput], .metered⟩ ready).1 ≠ .crashed message := by
    intro ready hstore message hcrashed
    obtain ⟨cause, timer, h3, hanswer, -⟩ := hprocess ready hstore
    cases hcrashed.symm.trans (congrArg Prod.fst hanswer)
  have hline : Text.linesOf shortInput.toList = [shortInput.toList] := by decide +kernel
  have hrecord : recordOf? shortInput.toList = some shortCall := by decide +kernel
  obtain ⟨r1, r2, feed, htake, hprogress, hdispatcher, hstore, hmeters, hreplay⟩ :=
    replay_single (s := shortSettings name) hn hopen rfl
      (congrArg Text.encode String.ofList_toList.symm) hline hrecord (by rintro ⟨⟩) hcrash
  obtain ⟨cause, timer, h3, hanswer, hcounted⟩ := hprocess r1.host hstore
  have hreceiver : Output.setOf [.file shortOutput] = shortReceiver 0 0 := rfl
  have hkept : r2.dispatcher.receiver = shortReceiver 1 1 ∧
      r2.progress.dispatched = Stats.Dispatched.none.recordFailure ∧
      r2.host.meters = h3.meters.bump (.records false) := by
    rw [Replay.takeRecord, hdispatcher, hreceiver, hanswer, hprogress] at htake
    cases htake
    exact ⟨rfl, rfl, rfl⟩
  obtain ⟨hreceiver, hdispatched, htotal⟩ := hkept
  have hflush : ∃ h4, (shortReceiver 1 1).flush r2.host = (.done (), shortReceiver 1 1, h4) ∧
      (shortReceiver 1 1).close h4 = h4 ∧ h4.meters = r2.host.meters := ⟨_, rfl, rfl, rfl⟩
  obtain ⟨h4, hflush, hclose, hmeters4⟩ := hflush
  refine ⟨Replay.report { r2 with feed } (shortReceiver 1 1), h4, ?_, ?_⟩
  · rw [hreplay]
    simp only [Replay.finish, hreceiver, hflush, hclose]
  · rw [hmeters4, htotal, hcounted, hmeters, hstart]
    simp only [Replay.report, hdispatched]
    decide

end Short

end ReplaySettings
end MeshTelemetry
