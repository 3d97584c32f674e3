import MeshTelemetry.Proofs.Json.Quoted
import MeshTelemetry.Proofs.Receiver.Jammed
import MeshTelemetry.Receiver.Medium

/-!
# MeshTelemetry.Proofs.Receiver.Fragments

What a receiver leaves behind that has failed to write a line. The text of a source is written in
pieces, and those before the one that fails stay in the buffer, or are in the file already: they are
a fragment of the line, and later lines are written right behind it.

* `Buffered.write_error_iff`: when a short write fails; `Buffered.writeAll_fragment`: what is kept
  of several writes.
* `FileOutput.receive_on`, `FileOutput.flush_on`: the receiver of the program, and its open file.
* `FileOutput.Laid`: the lines and fragments that calls leave.
* `FileOutput.receiveOn_keeps`, `FileOutput.serveAllOn_laid`: one call, and calls in a row.
* `FileOutput.receiveOn_refusing`: a long text is not accepted if the next write fails.
* `FileOutput.serveAllOn_fragments`: a receiver from its opening on.
-/

namespace MeshTelemetry

namespace Buffered

variable {σ ε : Type} {device : Device σ ε} {taken : Bytes → σ → Prop}

/-- Bytes that are shorter than the buffer are refused exactly if they do not fit and what is
pending cannot be sent on. -/
theorem write_error_iff {bytes : Bytes} (hsmall : bytes.length < capacity) (b : Buffered) (s : σ) :
    (∃ e, (b.write device bytes s).1 = .error e) ↔
      b.spare < bytes.length ∧ ∃ e, (b.flush device s).1 = .error e := by
  have hplace : ∀ (b : Buffered) (s : σ), b.place device bytes s = (.ok (), b.keep bytes, s) :=
    fun b s => if_neg (Nat.not_le_of_lt hsmall)
  unfold write
  split
  · next hroom =>
    constructor
    · rintro ⟨e, ⟨⟩⟩
    · rintro ⟨hfull, -⟩
      omega
  · split
    · next hfull =>
      rcases b.flush device s with ⟨e | u, b1, s1⟩
      · exact ⟨fun _ => ⟨hfull, e, rfl⟩, fun _ => ⟨e, rfl⟩⟩
      · simp only [hplace]
        constructor
        · rintro ⟨e, ⟨⟩⟩
        · rintro ⟨-, e, ⟨⟩⟩
    · rw [hplace]
      constructor
      · rintro ⟨e, ⟨⟩⟩
      · rintro ⟨hfull, -⟩
        omega

/-- What is kept of several writes up to the first that fails. Nothing is kept exactly if this is
the very first one. -/
theorem writeAll_fragment (hd : Faithful device taken) {first : Bytes} (pieces : List Bytes)
    (hne : first ≠ []) (hsmall : first.length < capacity) {sent : Bytes} {s : σ} (hs : taken sent s)
    (b : Buffered) :
    let r := b.writeAll device (first :: pieces) s
    ∃ fragment sent', taken sent' r.2.2 ∧
      sent' ++ r.2.1.pending.toList = sent ++ b.pending.toList ++ fragment ∧
      fragment <+: (first :: pieces).flatten ∧
      (r.1 = .ok () → fragment = (first :: pieces).flatten) ∧
      (fragment = [] ↔ b.spare < first.length ∧ ∃ e, (b.flush device s).1 = .error e) := by
  have hwrite := write_keeps hd hs b first
  rw [← write_error_iff hsmall b s]
  simp only [writeAll]
  rcases hr : b.write device first s with ⟨e | u, b1, s1⟩
  · rw [hr] at hwrite
    obtain ⟨sent1, part, htaken, htotal, -, hpart⟩ := hwrite
    obtain rfl := hpart hsmall
    exact ⟨[], sent1, htaken, htotal, List.nil_prefix, (fun hok => by cases hok),
      fun _ => ⟨e, rfl⟩, fun _ => rfl⟩
  · rw [hr] at hwrite
    obtain ⟨sent1, part, htaken, htotal, hpart⟩ := hwrite
    obtain rfl : part = first := hpart
    obtain ⟨kept, sent', hkept, htaken', htotal', hall⟩ := writeAll_keeps hd pieces b1 htaken
    simp only at htotal
    refine ⟨part ++ kept, sent', htaken', ?_, ?_, fun hok => ?_, ?_⟩
    · rw [htotal', htotal, List.append_assoc]
    · rw [List.flatten_cons]
      exact (List.prefix_append_right_inj part).mpr hkept
    · rw [hall hok, List.flatten_cons]
    · constructor
      · intro hnil
        exact absurd (List.append_eq_nil_iff.mp hnil).1 hne
      · rintro ⟨e, ⟨⟩⟩

end Buffered

namespace FileOutput

variable {σ : Type} {device : Device σ IoFault} {content : σ → Bytes}

theorem receive_on (f : FileOutput) (source : Source) (h : Host) :
    f.receive source h = f.receiveOn (FileOutput.device f.location) source h := by
  simp only [receive, receiveOn]
  rcases f.buffer.writeAll _ _ h with ⟨e | u, b1, h1⟩
  · rfl
  · simp only
    rcases b1.write _ _ h1 with ⟨e | u, b2, h2⟩ <;> rfl

theorem flush_on (f : FileOutput) (h : Host) :
    f.flush h =
      match f.flushOn (FileOutput.device f.location) h with
      | (.done (), f', h') =>
        (.done (), f', h'.log .debug .fileReceiver "FileReceiver flushed" [("receiver", f.name)])
      | (o, f', h') => (o, f', h') := by
  simp only [flush, flushOn]
  rcases f.buffer.flush _ h with ⟨e | u, b1, h1⟩ <;> rfl

/-- The bytes in the file with the pending ones behind them. -/
def total (content : σ → Bytes) (f : FileOutput) (s : σ) : Bytes :=
  content s ++ f.buffer.pending.toList

/-- The first write of a source fails: the buffer is full, and cannot be sent on. -/
def Clogged (device : Device σ IoFault) (f : FileOutput) (s : σ) : Prop :=
  f.buffer.spare = 0 ∧ ∃ e, (f.buffer.flush device s).1 = .error e

/-- A source that is accepted adds its line. One that is not adds a fragment of it, and this is
empty exactly if the first write has failed. -/
theorem receiveOn_keeps (hd : Faithful device fun bytes s => content s = bytes) (f : FileOutput)
    (source : Source) (s : σ) :
    let r := f.receiveOn device source s
    ∃ written, total content r.2.1 r.2.2 = total content f s ++ written ∧
      match r.1 with
      | .done () => written = source.bytes
      | .failed _ => written <+: Text.encode source.line ∧ (written = [] ↔ Clogged device f s)
      | .crashed _ => False := by
  obtain ⟨pieces, hpieces⟩ : ∃ pieces, source.toJson.pieces.map Text.encode =
      Text.encode "\x7b" :: pieces := ⟨_, rfl⟩
  have hbrace : Text.encode "\x7b" ≠ [] ∧ (Text.encode "\x7b").length = 1 := by decide
  have hline : (Text.encode "\x7b" :: pieces).flatten = Text.encode source.line := by
    rw [← hpieces, Source.line, Json.compact, Text.encode_join, List.flatMap_def]
  obtain ⟨fragment, sent1, htaken, htotal, hfragment, hall, hnil⟩ :=
    Buffered.writeAll_fragment hd pieces hbrace.1 (by rw [hbrace.2]; decide) (rfl : content s = _)
      f.buffer
  have hclogged : fragment = [] ↔ Clogged device f s := by
    rw [hnil, hbrace.2, Nat.lt_one_iff, Clogged]
  rw [hline] at hfragment hall
  simp only [receiveOn, hpieces]
  rcases hr : f.buffer.writeAll device (Text.encode "\x7b" :: pieces) s with ⟨e | u, b1, s1⟩
  · rw [hr] at htaken htotal
    subst htaken
    exact ⟨fragment, htotal, hfragment, hclogged⟩
  · rw [hr] at htaken htotal hall
    obtain ⟨sent2, part, htaken2, htotal2, hpart⟩ :=
      Buffered.write_keeps hd htaken b1 (Text.encode "\n")
    have hfull := hall rfl
    subst hfull
    simp only at htotal ⊢
    rcases hr2 : b1.write device (Text.encode "\n") s1 with ⟨e | u, b2, s2⟩
    · rw [hr2] at htaken2 htotal2 hpart
      subst htaken2
      obtain rfl := hpart.2 (by decide)
      refine ⟨_, htotal2.trans ?_, List.prefix_refl _, hclogged⟩
      rw [List.append_nil, htotal]
      rfl
    · rw [hr2] at htaken2 htotal2 hpart
      subst htaken2
      obtain rfl : part = Text.encode "\n" := hpart
      refine ⟨source.bytes, ?_, rfl⟩
      simp only [htotal] at htotal2
      rw [total, htotal2, List.append_assoc, Source.bytes, Text.encode_append]
      rfl

theorem flushOn_keeps (hd : Faithful device fun bytes s => content s = bytes) (f : FileOutput)
    (s : σ) :
    total content (f.flushOn device s).2.1 (f.flushOn device s).2.2 = total content f s := by
  obtain ⟨sent, part, htaken, htotal, hpart⟩ :=
    Buffered.flush_keeps hd (rfl : content s = _) f.buffer
  unfold flushOn
  rcases hr : f.buffer.flush device s with ⟨e | u, b1, s1⟩
  · rw [hr] at htaken htotal hpart
    subst htaken
    obtain rfl := List.prefix_nil.mp hpart.1
    exact htotal.trans (List.append_nil _)
  · rw [hr] at htaken htotal hpart
    subst htaken
    obtain rfl : part = [] := hpart
    exact htotal.trans (List.append_nil _)

/-- What calls with these answers leave in the file and the buffer: the line of each source that
was accepted, and a fragment of the line of each one that was not. -/
inductive Laid : List (Request × Outcome Fault Unit) → Bytes → Prop
  | nil : Laid [] []
  | accepted (source : Source) {calls : List (Request × Outcome Fault Unit)} {bytes : Bytes} :
      Laid calls bytes → Laid ((.receive source, .done ()) :: calls) (source.bytes ++ bytes)
  | refused (source : Source) (e : Fault) {fragment : Bytes}
      {calls : List (Request × Outcome Fault Unit)} {bytes : Bytes} :
      fragment <+: Text.encode source.line → Laid calls bytes →
      Laid ((.receive source, .failed e) :: calls) (fragment ++ bytes)
  | flush (o : Outcome Fault Unit) {calls : List (Request × Outcome Fault Unit)} {bytes : Bytes} :
      Laid calls bytes → Laid ((.flush, o) :: calls) bytes

theorem serveAllOn_laid (hd : Faithful device fun bytes s => content s = bytes)
    (requests : List Request) : ∀ (f : FileOutput) (s : σ),
      let r := serveAllOn device requests f s
      ∃ bytes, Laid r.1 bytes ∧ total content r.2.1 r.2.2 = total content f s ++ bytes := by
  induction requests with
  | nil => exact fun f s => ⟨[], .nil, (List.append_nil _).symm⟩
  | cons request requests ih =>
    intro f s
    cases request with
    | receive source =>
      obtain ⟨written, htotal, hwritten⟩ := receiveOn_keeps hd f source s
      simp only [serveAllOn, serveOn]
      rcases hr : f.receiveOn device source s with ⟨o, f1, s1⟩
      rw [hr] at htotal hwritten
      obtain ⟨bytes, hlaid, hrest⟩ := ih f1 s1
      refine ⟨written ++ bytes, ?_, ?_⟩
      · cases o with
        | done u =>
          simp only at hwritten
          rw [hwritten]
          exact .accepted source hlaid
        | failed e => exact .refused source e hwritten.1 hlaid
        | crashed message => exact hwritten.elim
      · rw [hrest, htotal, List.append_assoc]
    | flush =>
      have htotal := flushOn_keeps hd f s
      simp only [serveAllOn, serveOn]
      rcases hr : f.flushOn device s with ⟨o, f1, s1⟩
      rw [hr] at htotal
      obtain ⟨bytes, hlaid, hrest⟩ := ih f1 s1
      exact ⟨bytes, .flush o hlaid, by rw [hrest, htotal]⟩

end FileOutput

/-- The next write fails. -/
def Refusing {σ ε : Type} (device : Device σ ε) (s : σ) : Prop :=
  ∀ bytes, bytes ≠ [] → ∃ e s', device bytes s = (.error e, s')

theorem Medium.device_faithful : Faithful Medium.device fun bytes m => m.bytes = bytes := by
  rintro bytes sent m rfl
  have htaken := m.shortages.taken_eq bytes
  rw [Medium.device]
  rcases hanswer : m.shortages.answer bytes with ⟨e, written⟩ | u
  · rw [hanswer] at htaken
    exact congrArg (m.bytes ++ ·) htaken
  · rw [hanswer] at htaken
    exact congrArg (m.bytes ++ ·) htaken

theorem Medium.refusing {m : Medium} (h : m.shortages.head? = some 0) :
    Refusing Medium.device m := by
  intro bytes hne
  obtain ⟨written, shortages⟩ := m
  rcases shortages with _ | ⟨room, shortages⟩
  · cases h
  · cases h
    have hlong : ¬ bytes.length ≤ 0 := by rwa [Nat.le_zero, List.length_eq_zero_iff]
    exact ⟨(.noSpace, 0), _, Prod.ext (if_neg hlong) rfl⟩

namespace Buffered

variable {σ ε : Type} {device : Device σ ε} {s : σ}

theorem Refused.refusing (hd : Refused device s) : Refusing device s := by
  intro bytes hne
  obtain ⟨e, he⟩ := hd bytes hne
  exact ⟨(e, 0), s, he⟩

theorem flush_refusing (hd : Refusing device s) (b : Buffered) :
    (∃ e r, b.flush device s = (.error e, r)) ∨ b.flush device s = (.ok (), b, s) := by
  unfold flush
  split
  · exact .inr rfl
  · next hpending =>
    obtain ⟨e, s', he⟩ := hd b.pending.toList (by simpa using hpending)
    rw [he]
    exact .inl ⟨_, _, rfl⟩

theorem place_refusing (hd : Refusing device s) (b : Buffered) (bytes : Bytes) :
    (∃ e r, b.place device bytes s = (.error e, r)) ∨
      bytes.length < capacity ∧ b.place device bytes s = (.ok (), b.keep bytes, s) := by
  unfold place
  split
  · next hlong =>
    have hne : bytes ≠ [] := by
      rintro rfl
      exact absurd hlong (by decide)
    obtain ⟨e, s', he⟩ := hd bytes hne
    rw [he]
    exact .inl ⟨_, _, rfl⟩
  · next hshort => exact .inr ⟨Nat.lt_of_not_le hshort, rfl⟩

/-- If the device is going to fail, a write fails or only collects bytes. -/
theorem write_refusing (hd : Refusing device s) (b : Buffered) (bytes : Bytes) :
    (∃ e r, b.write device bytes s = (.error e, r)) ∨
      bytes.length < capacity ∧ b.write device bytes s = (.ok (), b.keep bytes, s) := by
  unfold write
  split
  · next hroom => exact .inr ⟨Nat.lt_of_lt_of_le hroom (Nat.sub_le _ _), rfl⟩
  · split
    · rcases flush_refusing hd b with ⟨e, r, hflush⟩ | hflush
      · rw [hflush]
        exact .inl ⟨_, _, rfl⟩
      · rw [hflush]
        exact place_refusing hd b bytes
    · exact place_refusing hd b bytes

theorem writeAll_refusing (hd : Refusing device s) {long : Bytes} (hlong : capacity ≤ long.length)
    (front back : List Bytes) :
    ∀ b : Buffered, ∃ e r, b.writeAll device (front ++ long :: back) s = (.error e, r) := by
  have hfail : ∀ {bytes : Bytes} {rest : List Bytes} {b : Buffered},
      (∃ e r, b.write device bytes s = (.error e, r)) →
        ∃ e r, b.writeAll device (bytes :: rest) s = (.error e, r) := by
    rintro bytes rest b ⟨e, r, he⟩
    rw [writeAll, he]
    exact ⟨_, _, rfl⟩
  induction front with
  | nil =>
    intro b
    refine hfail ((write_refusing hd b long).resolve_right ?_)
    rintro ⟨hshort, -⟩
    omega
  | cons bytes front ih =>
    intro b
    rcases write_refusing hd b bytes with herror | ⟨-, hkeep⟩
    · exact hfail herror
    · rw [List.cons_append, writeAll, hkeep]
      exact ih _

end Buffered

namespace FileOutput

theorem receiveOn_refusing {σ : Type} {device : Device σ IoFault} {s : σ}
    (hd : Refusing device s) {source : Source} {front back : List Bytes} {long : Bytes}
    (hlong : Buffered.capacity ≤ long.length)
    (hpieces : source.toJson.pieces.map Text.encode = front ++ long :: back) (f : FileOutput) :
    ∃ e f' s', f.receiveOn device source s = (.failed e, f', s') := by
  obtain ⟨e, r, he⟩ := Buffered.writeAll_refusing hd hlong front back f.buffer
  rw [receiveOn, hpieces, he]
  exact ⟨_, _, _, rfl⟩

/-- The refresh of an instance with this name. -/
def refreshOf (name : String) : Source := .instanceUpdate ⟨"a", name, 0⟩

/-- What stands in front of the name in the text of such a refresh, and what stands behind it. -/
def refreshFront : List Bytes :=
  (["\x7b"] ++ (Json.memberPieces true
    [("kind", .text "service_instance_update"), ("service_id", .text "a")] ++
      ([","] ++ (Json.quotedPieces "name" ++ [":", "\""])))).map Text.encode

def refreshBack : List Bytes :=
  (["\""] ++ (Json.memberPieces false [("time_bucket", .int 0)] ++ ["\x7d"])).map Text.encode

/-- A name of so many characters. -/
def nameOf (length : Nat) : String := String.ofList (List.replicate length 'a')

theorem nameOf_length (length : Nat) : (Text.encode (nameOf length)).length = length := by
  have hone : 'a'.utf8Size = 1 := rfl
  simp [nameOf, Text.encode_ofList, List.flatMap_replicate, hone]

theorem refreshOf_pieces {length : Nat} (h : length ≠ 0) :
    (refreshOf (nameOf length)).toJson.pieces.map Text.encode =
      refreshFront ++ Text.encode (nameOf length) :: refreshBack := by
  have hplain : ∀ c ∈ (nameOf length).toList, Json.escape? c = none := by
    rw [nameOf, String.toList_ofList]
    intro c hc
    rw [List.eq_of_mem_replicate hc]
    rfl
  have hne : nameOf length ≠ "" := by
    intro hnil
    have hlength := nameOf_length length
    rw [hnil] at hlength
    exact h hlength.symm
  rw [refreshFront, refreshBack, ← List.map_cons, ← List.map_append]
  simp only [refreshOf, Source.toJson, Source.kind, SourceKind.name, Source.members,
    List.map_cons, List.map_nil, List.cons_append, List.nil_append, MemberValue.toJson, Json.pieces,
    Json.memberPieces, Json.quotedPieces_plain hplain hne, List.append_assoc]
  rfl

/-- A name that is as long as the whole buffer. -/
def longName : String := String.ofList (List.replicate Buffered.capacity 'a')

theorem longName_length : Buffered.capacity ≤ (Text.encode longName).length :=
  Nat.le_of_eq (nameOf_length Buffered.capacity).symm

theorem refreshOf_longName : ∃ front back,
    (refreshOf longName).toJson.pieces.map Text.encode = front ++ Text.encode longName :: back :=
  ⟨refreshFront, refreshBack, refreshOf_pieces (by decide : Buffered.capacity ≠ 0)⟩

section Opened

variable {σ : Type} {device : Device σ IoFault} {content : σ → Bytes}

/-- A receiver is opened and then called, in whatever order, to receive sources and to be flushed.
Its device may fail at any time, and takes only a part of what it is given then. The file and the
buffer then hold the lines of the sources that were accepted, and fragments of others: a source that
is refused leaves a fragment of its line behind, and nothing only if the buffer was full and could
not be sent on. -/
theorem serveAllOn_fragments (hd : Faithful device fun bytes s => content s = bytes) (name : String)
    (location : Location) (requests : List Request) (s : σ) :
    let r := serveAllOn device requests ⟨name, location, .empty⟩ s
    (∃ bytes, Laid r.1 bytes ∧ total content r.2.1 r.2.2 = content s ++ bytes) ∧
      ∀ source e f' s', r.2.1.receiveOn device source r.2.2 = (.failed e, f', s') →
        ∃ fragment, fragment <+: Text.encode source.line ∧
          total content f' s' = total content r.2.1 r.2.2 ++ fragment ∧
          (total content f' s' = total content r.2.1 r.2.2 ↔ Clogged device r.2.1 r.2.2) := by
  intro r
  obtain ⟨bytes, hlaid, htotal⟩ := serveAllOn_laid hd requests ⟨name, location, .empty⟩ s
  have hempty : total content (⟨name, location, .empty⟩ : FileOutput) s = content s :=
    List.append_nil _
  rw [hempty] at htotal
  refine ⟨⟨bytes, hlaid, htotal⟩, fun source e f' s' hrefused => ?_⟩
  obtain ⟨fragment, hfragment, hwritten⟩ := receiveOn_keeps hd r.2.1 source r.2.2
  rw [hrefused] at hfragment hwritten
  refine ⟨fragment, hwritten.1, hfragment, ?_⟩
  simp only [hfragment, List.append_right_eq_self]
  exact hwritten.2

end Opened

/-- The medium refuses the first write. -/
theorem serveAllOn_fragments_medium :
    Faithful Medium.device (fun bytes (m : Medium) => m.bytes = bytes) ∧
      ∃ e f' m' fragment,
        (⟨"first", [], .empty⟩ : FileOutput).receiveOn Medium.device (refreshOf longName)
          ⟨[], [0]⟩ = (.failed e, f', m') ∧
        fragment <+: Text.encode (refreshOf longName).line ∧ fragment ≠ [] ∧
        total Medium.bytes f' m' = fragment := by
  obtain ⟨front, back, hpieces⟩ := refreshOf_longName
  obtain ⟨e, f', m', hrefused⟩ := receiveOn_refusing (Medium.refusing (m := ⟨[], [0]⟩) rfl)
    longName_length hpieces ⟨"first", [], .empty⟩
  obtain ⟨-, hfragments⟩ :=
    serveAllOn_fragments Medium.device_faithful "first" [] [] ⟨[], [0]⟩
  obtain ⟨fragment, hprefix, htotal, hclogged⟩ := hfragments _ e f' m' hrefused
  refine ⟨Medium.device_faithful, e, f', m', fragment, hrefused, hprefix, ?_, htotal⟩
  rintro rfl
  obtain ⟨hfull, -⟩ := hclogged.mp (htotal.trans (List.append_nil _))
  exact absurd hfull (by decide)

/-- The receiver has nothing pending before, and the beginning of a line afterwards. -/
theorem receive_fragment_full :
    let f : FileOutput := ⟨"full", ["dev", "full"], .empty⟩
    let h : Host := .withStore (.initial [])
    ∃ e f', f.receive (refreshOf longName) h = (.failed e, f', h) ∧
      f'.buffer.pending.toList ≠ f.buffer.pending.toList := by
  intro f h
  have hfull : h.store.Refuses f.location := .inl rfl
  obtain ⟨front, back, hpieces⟩ := refreshOf_longName
  obtain ⟨e, f1, h1, hrefused⟩ :=
    receiveOn_refusing (device_refused hfull).refusing longName_length hpieces f
  obtain ⟨o, f', hreceive, -, hpending⟩ := receive_refused hfull (refreshOf longName)
  have hsame := hreceive
  rw [receive_on, hrefused] at hsame
  cases hsame
  exact ⟨e, _, hreceive, fun hnil => hpending (Array.toList_eq_nil_iff.mp hnil)⟩

end FileOutput

end MeshTelemetry
