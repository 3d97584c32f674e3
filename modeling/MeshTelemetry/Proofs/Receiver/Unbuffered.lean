import MeshTelemetry.Proofs.Receiver.Appending
import MeshTelemetry.Proofs.Receiver.Opening
import MeshTelemetry.Receiver.Request

/-!
# MeshTelemetry.Proofs.Receiver.Unbuffered

Calls on a receiver that writes to a regular file. That the lines of the sources pass through a
buffer cannot be seen in the file, except that it may lag behind.

* `Content.Between`: the moments of a file, which are the pieces that it was written in.
* `FileOutput.Continues`: the invariant, a file that was appended to and its buffer.
* `FileOutput.serve_done`, `FileOutput.serveAll_done`: one call, and calls in a row.
* `Output.openFile_unbuffered`: a receiver from its opening on.
-/

namespace MeshTelemetry

namespace Content

/-- The file held `c1` at a moment between `c` and `c'`: pieces were only added in front. -/
def Between (c c' c1 : Content) : Prop := c.pieces <:+ c1.pieces ∧ c1.pieces <:+ c'.pieces

theorem bytes_of_suffix {c c' : Content} (h : c.pieces <:+ c'.pieces) : c.bytes <+: c'.bytes := by
  obtain ⟨later, hlater⟩ := h
  refine ⟨later.reverse.flatten, ?_⟩
  rw [Content.bytes, Content.bytes, ← hlater, List.reverse_append, List.flatten_append]

end Content

namespace Request

/-- What a call adds to the file. -/
def bytes : Request → Bytes
  | .receive source => source.bytes
  | .flush => []

end Request

namespace FileOutput

/-- The receiver by itself, in no set. -/
abbrev receiver (f : FileOutput) : Receiver Output := .sink (.file f)

/-- The file held `c` and was only appended to. With what is pending, it holds `bytes`, and there is
room for more. -/
structure Continues (c : Content) (bytes : Bytes) (f : FileOutput) (s : Store) : Prop where
  holds : f.Holds s bytes
  room : s.shortages = []
  appended : ∃ c', s.node? f.location = some (.file c') ∧ c.pieces <:+ c'.pieces

theorem lasts_appended (loc : Location) (c : Content) : Store.Lasts (fun _ => True) fun s =>
    ∃ c', s.node? loc = some (.file c') ∧ c.pieces <:+ c'.pieces := by
  rintro s other bytes - ⟨c', hc', hsuffix⟩
  by_cases heq : other = loc
  · subst heq
    rw [Store.append_file hc']
    refine ⟨c'.append (s.shortages.taken bytes), ?_, hsuffix.trans (List.suffix_cons _ c'.pieces)⟩
    exact (Store.node?_put (Store.file_ne_root hc') _ other).trans (if_pos rfl)
  · exact ⟨c', (Store.append_frame bytes fun _ _ => heq).trans hc', hsuffix⟩

variable {f : FileOutput} {h : Host} {c : Content} {bytes : Bytes}

theorem serve_done (hf : f.Continues c bytes h.store) (request : Request) :
    ∃ (f' : FileOutput) (h' : Host), f.receiver.serve request h =
        (.done (), f'.receiver, h') ∧
      f'.location = f.location ∧ f'.Continues c (bytes ++ request.bytes) h'.store := by
  have hkeeps := Output.keeps_store (lasts_appended f.location c)
  cases request with
  | receive source =>
    obtain ⟨f', h', hreceive, hloc, hholds, hroom, -⟩ := receive_done hf.holds hf.room source
    have hserve : f.receiver.receive source h = (.done (), f'.receiver, h') := by
      simp only [Receiver.receive, Sink.receive, Output.receive, hreceive]
    have happended := hkeeps.receive (r := f.receiver) source hf.appended
    rw [hserve, ← hloc] at happended
    exact ⟨f', h', hserve, hloc, hholds, hroom, happended⟩
  | flush =>
    obtain ⟨f', h', hflush, hloc, -, hholds, hroom, -⟩ := flush_done hf.holds hf.room
    have hserve : f.receiver.flush h = (.done (), f'.receiver, h') := by
      simp only [Receiver.flush, Sink.flush, Output.flush, hflush]
    have happended := hkeeps.flush (r := f.receiver) hf.appended
    rw [hserve, ← hloc] at happended
    refine ⟨f', h', hserve, hloc, ?_, hroom, happended⟩
    rwa [Request.bytes, List.append_nil]

theorem serveAll_done (requests : List Request) :
    ∀ {f : FileOutput} {h : Host} {bytes : Bytes}, f.Continues c bytes h.store →
      ∃ (f' : FileOutput) (h' : Host), serveAll Receiver.serve requests f.receiver h =
          (requests.map fun _ => .done (), f'.receiver, h') ∧
        f'.location = f.location ∧
        f'.Continues c (bytes ++ requests.flatMap Request.bytes) h'.store := by
  induction requests with
  | nil =>
    intro f h bytes hf
    exact ⟨f, h, rfl, rfl, by simpa using hf⟩
  | cons request requests ih =>
    intro f h bytes hf
    obtain ⟨f1, h1, hserve, hloc1, hf1⟩ := serve_done hf request
    obtain ⟨f', h', hrest, hloc, hf'⟩ := ih hf1
    refine ⟨f', h', ?_, hloc.trans hloc1, ?_⟩
    · simp only [serveAll, hserve, hrest, List.map_cons]
    · rwa [List.flatMap_cons, ← List.append_assoc]

/-- At no moment did the file hold anything but a part of these bytes. -/
theorem Continues.shown {f : FileOutput} {s : Store} {c' c1 : Content} {more : Bytes}
    (hf : f.Continues c (c.bytes ++ more) s) (hc' : s.node? f.location = some (.file c'))
    (hmoment : c.Between c' c1) : ∃ shown, shown <+: more ∧ c1.bytes = c.bytes ++ shown := by
  obtain ⟨now, hnow, hbytes⟩ := hf.holds
  rw [hc'] at hnow
  cases hnow
  obtain ⟨shown, hshown⟩ := Content.bytes_of_suffix hmoment.1
  have hprefix : c1.bytes <+: c.bytes ++ more :=
    (Content.bytes_of_suffix hmoment.2).trans ⟨_, hbytes⟩
  rw [← hshown, List.prefix_append_right_inj] at hprefix
  exact ⟨shown, hprefix, hshown.symm⟩

theorem flush_content (hf : f.Holds h.store bytes) (hroom : h.store.shortages = []) :
    ∃ (f' : FileOutput) (h' : Host), f.receiver.flush h = (.done (), f'.receiver, h') ∧
      h'.store.content f.location = .ok bytes := by
  obtain ⟨f', h', hflush, hloc, hempty, ⟨c, hc, hbytes⟩, -⟩ := flush_done hf hroom
  refine ⟨f', h', by simp only [Receiver.flush, Sink.flush, Output.flush, hflush], ?_⟩
  rw [hempty] at hbytes
  rw [← hloc, Store.content_file hc, ← hbytes]
  exact congrArg _ (List.append_nil _).symm

theorem close_content (hf : f.Holds h.store bytes) (hroom : h.store.shortages = []) :
    (f.receiver.close h).store.content f.location = .ok bytes := by
  obtain ⟨f', h', hflush, hcontent⟩ := flush_content hf hroom
  have hsame : (f.flush h).2.2 = h' := by
    have hhost : (f.receiver.flush h).2.2 = h' := by rw [hflush]
    exact hhost
  have hclose : f.receiver.close h = f.close h := rfl
  rw [hclose, close_store, hsame]
  exact hcontent

end FileOutput

namespace Output

/-- A receiver is opened on a regular file and then called, in whatever order, to receive sources
and to be flushed, and there is room for everything that is written. All calls are done. Up to the
last one, the file has at every moment held its first content and behind it a part of the lines of
all sources received by then. The next flush makes it the whole of them, and so does closing. -/
theorem openFile_unbuffered {name path : String} {h h0 : Host} {f : FileOutput} {c : Content}
    (hopen : openFile name path h = (.ok (.file f), h0)) (hroom : h.store.shortages = [])
    (hfile : h0.store.node? f.location = some (.file c)) (requests : List Request) :
    let lines := requests.flatMap Request.bytes
    h.store.content f.location = .ok c.bytes ∧
      ∃ (f' : FileOutput) (h' : Host) (c' : Content),
        serveAll Receiver.serve requests f.receiver h0 =
          (requests.map fun _ => .done (), f'.receiver, h') ∧
        h'.store.node? f.location = some (.file c') ∧ c.Between c' c' ∧
        (∀ c1, c.Between c' c1 → ∃ shown, shown <+: lines ∧ c1.bytes = c.bytes ++ shown) ∧
        (∃ (f'' : FileOutput) (h'' : Host),
          f'.receiver.flush h' = (.done (), f''.receiver, h'') ∧
          h''.store.content f.location = .ok (c.bytes ++ lines)) ∧
        (f'.receiver.close h').store.content f.location = .ok (c.bytes ++ lines) := by
  have hgrown := openFile_store name path h
  rw [hopen] at hgrown
  refine ⟨hgrown.content hfile, ?_⟩
  have hstart : f.Continues c c.bytes h0.store := by
    cases openFile_fresh hopen
    exact ⟨⟨c, hfile, List.append_nil _⟩, hgrown.shortages.trans hroom,
      ⟨c, hfile, List.suffix_refl _⟩⟩
  obtain ⟨f', h', hserve, hloc, hf'⟩ := FileOutput.serveAll_done requests hstart
  obtain ⟨c', hc', hsuffix⟩ := hf'.appended
  rw [← hloc]
  exact ⟨f', h', c', hserve, hc', ⟨hsuffix, List.suffix_refl _⟩,
    fun c1 hmoment => hf'.shown hc' hmoment, FileOutput.flush_content hf'.holds hf'.room,
    FileOutput.close_content hf'.holds hf'.room⟩

/-- A file with a line in it. -/
def lineHost : Host :=
  .withStore ((Store.initial []).put ["a.jsonl"] (.file (.ofBytes (Text.encode "old\n"))))

def refresh (name : String) : Source := .instanceUpdate ⟨"Y2F0YWxvZw==.0", name, 197001010000⟩

/-- The second source is received behind a flush. -/
theorem openFile_unbuffered_line :
    ∃ (f : FileOutput) (h0 : Host), openFile "first" "a.jsonl" lineHost = (.ok (.file f), h0) ∧
      h0.store.node? f.location = some (.file (.ofBytes (Text.encode "old\n"))) ∧
      ∃ (f' : FileOutput) (h' : Host),
        serveAll Receiver.serve [.receive (refresh "a"), .flush, .receive (refresh "b")] f.receiver
          h0 = ([.done (), .done (), .done ()], f'.receiver, h') ∧
        (f'.receiver.close h').store.content ["a.jsonl"] =
          .ok (Text.encode "old\n" ++ ((refresh "a").bytes ++ (refresh "b").bytes)) := by
  have hopen : openFile "first" "a.jsonl" lineHost =
      (.ok (.file ⟨"first", ["a.jsonl"], .empty⟩), (openFile "first" "a.jsonl" lineHost).2) := rfl
  refine ⟨_, _, hopen, rfl, ?_⟩
  obtain ⟨-, f', h', c', hserve, -, -, -, -, hclose⟩ := openFile_unbuffered hopen rfl rfl
    [.receive (refresh "a"), .flush, .receive (refresh "b")]
  refine ⟨f', h', hserve, ?_⟩
  rw [Content.bytes_ofBytes] at hclose
  simpa only [List.flatMap_cons, List.flatMap_nil, Request.bytes, List.nil_append, List.append_nil]
    using hclose

end Output
end MeshTelemetry
