import MeshTelemetry.Proofs.Receiver.Fragments

/-!
# MeshTelemetry.Proofs.Receiver.Faults

Which fault a receiver answers with when it cannot write a line. A device that refuses bytes of the
text is reported with the name of the receiver, and one that refuses the line break without it. The
line break is refused only if the text has filled the buffer to its last byte.

* `Buffered.writeAll_exact`: pieces that fill the buffer.
* `FileOutput.FilledBy`: the text of a source fills the buffer.
* `FileOutput.receiveOn_fault`: the fault of one call; `FileOutput.receiveOn_nameless`: the texts
  that lead to one without a name.
* `FileOutput.serveAllOn_faults`: the fault of any call on a receiver.
-/

namespace MeshTelemetry

namespace Buffered

variable {σ ε : Type} {device : Device σ ε}

theorem write_exact {b : Buffered} {bytes : Bytes} (h : bytes.length = b.spare)
    (hsmall : bytes.length < capacity) (s : σ) :
    b.write device bytes s = (.ok (), b.keep bytes, s) := by
  rw [write, if_neg (by omega), if_neg (by omega), place, if_neg (by omega)]

theorem writeAll_exact (device : Device σ ε) {pieces : List Bytes} {last : Bytes} {b : Buffered}
    (h : (pieces ++ [last]).flatten.length = b.spare) (hne : last ≠ [])
    (hsmall : last.length < capacity) (s : σ) :
    ∃ b', b.writeAll device (pieces ++ [last]) s = (.ok (), b', s) ∧
      b'.pending.toList = b.pending.toList ++ (pieces ++ [last]).flatten := by
  have hlast := List.length_pos_iff.mpr hne
  simp only [List.flatten_append, List.flatten_singleton, List.length_append] at h ⊢
  have hcollected : ∃ b1, b.writeAll device pieces s = (.ok (), b1, s) ∧
      b1.pending.toList = b.pending.toList ++ pieces.flatten := writeAll_small pieces s (by omega)
  obtain ⟨b1, hpieces, hpending⟩ := hcollected
  have hspare : last.length = b1.spare := by
    have hsize := congrArg List.length hpending
    rw [List.length_append, Array.length_toList, Array.length_toList] at hsize
    rw [spare] at h ⊢
    omega
  refine ⟨b1.keep last, ?_, ?_⟩
  · rw [writeAll_append, hpieces]
    simp only [writeAll, write_exact hspare hsmall]
  · rw [keep, Array.toList_appendList, hpending, List.append_assoc]

end Buffered

namespace FileOutput

variable {σ : Type} {device : Device σ IoFault} {f f' : FileOutput} {source : Source} {s s' : σ}
  {e : Fault}

/-- The text of the source is taken in, and there is no room left behind it for the line break. -/
def FilledBy (device : Device σ IoFault) (f : FileOutput) (source : Source) (s : σ) : Prop :=
  ∃ b s1, f.buffer.writeAll device (source.toJson.pieces.map Text.encode) s = (.ok (), b, s1) ∧
    b.spare = 0

/-- The fault of a call that fails is one of the receiver, with its name, or one of the device, if
only the line break is missing. -/
theorem receiveOn_fault (h : f.receiveOn device source s = (.failed e, f', s')) :
    ∃ cause : IoFault, (¬ f.FilledBy device source s ∧ e = .receiver f.name cause.message) ∨
      (f.FilledBy device source s ∧ e = .io cause) := by
  simp only [receiveOn] at h
  rcases htext : f.buffer.writeAll device (source.toJson.pieces.map Text.encode) s with
    ⟨cause | u, b1, s1⟩
  · rw [htext] at h
    cases h
    refine ⟨cause, .inl ⟨?_, rfl⟩⟩
    rintro ⟨b, t, htaken, -⟩
    rw [htext] at htaken
    cases htaken
  · rw [htext] at h
    simp only at h
    have hbreak : (Text.encode "\n").length = 1 := by decide
    rcases hline : b1.write device (Text.encode "\n") s1 with ⟨cause | u, b2, s2⟩
    · have hrefused := (Buffered.write_error_iff (by rw [hbreak]; decide) b1 s1).mp
        ⟨cause, congrArg Prod.fst hline⟩
      rw [hbreak, Nat.lt_one_iff] at hrefused
      rw [hline] at h
      cases h
      exact ⟨cause, .inr ⟨⟨b1, s1, htext, hrefused.1⟩, rfl⟩⟩
    · rw [hline] at h
      cases h

/-- A text that is as long as the room in the buffer is taken in without a write, and fills it. -/
theorem filledBy_of_length (device : Device σ IoFault)
    (h : (Text.encode source.line).length = f.buffer.spare) (s : σ) :
    ∃ b, f.buffer.writeAll device (source.toJson.pieces.map Text.encode) s = (.ok (), b, s) ∧
      b.spare = 0 := by
  obtain ⟨pieces, hpieces⟩ : ∃ pieces, source.toJson.pieces.map Text.encode =
      pieces ++ [Text.encode "\x7d"] := ⟨_, List.map_append⟩
  rw [Source.line, Json.compact, Text.encode_join, List.flatMap_def, hpieces] at h
  obtain ⟨b, htaken, hpending⟩ := Buffered.writeAll_exact device h (by decide) (by decide) s
  refine ⟨b, hpieces ▸ htaken, ?_⟩
  have hsize := congrArg List.length hpending
  rw [List.length_append, h, Array.length_toList, Array.length_toList] at hsize
  rw [Buffered.spare] at hsize ⊢
  omega

theorem receiveOn_nameless (hd : Refusing device s)
    (h : (Text.encode source.line).length = f.buffer.spare) :
    ∃ cause f' s', f.receiveOn device source s = (.failed (.io cause), f', s') := by
  obtain ⟨b, htaken, hspare⟩ := filledBy_of_length device h s
  have hpending : ¬ b.pending.isEmpty := by
    intro hempty
    rw [Buffered.spare, Array.isEmpty_iff.mp hempty] at hspare
    cases hspare
  have hflush : ∃ e, (b.flush device s).1 = .error e := by
    obtain ⟨⟨e, written⟩, s', hwrite⟩ := hd b.pending.toList (by simpa using hpending)
    exact ⟨e, by rw [Buffered.flush, if_neg hpending, hwrite]⟩
  have hbreak : (Text.encode "\n").length = 1 := by decide
  obtain ⟨cause, hrefused⟩ := (Buffered.write_error_iff (by rw [hbreak]; decide) b s).mpr
    ⟨by rw [hspare, hbreak]; decide, hflush⟩
  rcases hline : b.write device (Text.encode "\n") s with ⟨o, b', s'⟩
  rw [hline] at hrefused
  cases hrefused
  refine ⟨cause, { f with buffer := b' }, s', ?_⟩
  rw [receiveOn, htaken]
  simp only [hline]

theorem serveOn_name (request : Request) (f : FileOutput) (s : σ) :
    (serveOn device request f s).2.1.name = f.name := by
  cases request with
  | receive source =>
    simp only [serveOn, receiveOn]
    rcases f.buffer.writeAll device _ s with ⟨cause | u, b1, s1⟩
    · rfl
    · simp only
      rcases b1.write device _ s1 with ⟨cause | u, b2, s2⟩ <;> rfl
  | flush =>
    simp only [serveOn, flushOn]
    rcases f.buffer.flush device s with ⟨cause | u, b1, s1⟩ <;> rfl

theorem serveAllOn_name (requests : List Request) : ∀ (f : FileOutput) (s : σ),
    (serveAllOn device requests f s).2.1.name = f.name := by
  induction requests with
  | nil => exact fun _ _ => rfl
  | cons request requests ih =>
    intro f s
    rw [serveAllOn]
    exact (ih _ _).trans (serveOn_name request f s)

/-- A receiver is opened and then called, in whatever order, to receive sources and to be flushed,
and its device may fail at any time. If it then does not accept a source, its fault has the name of
the receiver, unless the text of the source was taken in and has filled the buffer: then the fault
is the one of the device, without a name. -/
theorem serveAllOn_faults (device : Device σ IoFault) (name : String) (location : Location)
    (requests : List Request) (s : σ) :
    let r := serveAllOn device requests ⟨name, location, .empty⟩ s
    ∀ source e f' s', r.2.1.receiveOn device source r.2.2 = (.failed e, f', s') →
      ((∃ message, e = .receiver name message) ↔ ¬ r.2.1.FilledBy device source r.2.2) ∧
        ((∃ cause, e = .io cause) ↔ r.2.1.FilledBy device source r.2.2) := by
  intro r source e f' s' hrefused
  have hname : r.2.1.name = name := serveAllOn_name requests _ s
  obtain ⟨cause, ⟨hroom, rfl⟩ | ⟨hfilled, rfl⟩⟩ := receiveOn_fault hrefused
  · rw [hname]
    exact ⟨⟨fun _ => hroom, fun _ => ⟨_, rfl⟩⟩, ⟨nofun, fun hfilled => absurd hfilled hroom⟩⟩
  · exact ⟨⟨nofun, fun hroom => absurd hfilled hroom⟩, ⟨fun _ => hfilled, fun _ => ⟨cause, rfl⟩⟩⟩

/-- The medium refuses the first write, and the text of the source is longer than the buffer. -/
theorem serveAllOn_faults_medium :
    let r := serveAllOn Medium.device [.flush] ⟨"first", [], .empty⟩ ⟨[], [0]⟩
    ∃ e f' m', r.2.1.receiveOn Medium.device (refreshOf longName) r.2.2 = (.failed e, f', m') ∧
      ∃ message, e = .receiver "first" message := by
  intro r
  obtain ⟨front, back, hpieces⟩ := refreshOf_longName
  have hmedium : Refusing Medium.device r.2.2 := Medium.refusing rfl
  obtain ⟨e, f', m', hrefused⟩ := receiveOn_refusing hmedium longName_length hpieces r.2.1
  refine ⟨e, f', m', hrefused, ?_⟩
  refine (serveAllOn_faults Medium.device "first" [] [.flush] _ _ e f' m' hrefused).1.mpr ?_
  rintro ⟨b, s1, htaken, -⟩
  obtain ⟨cause, r', herror⟩ :=
    Buffered.writeAll_refusing hmedium longName_length front back r.2.1.buffer
  rw [hpieces, herror] at htaken
  cases htaken

/-- The text of the source is as long as the buffer, and nothing can be written: the fault does not
tell which receiver it comes from. -/
theorem receive_fault_nameless :
    let f : FileOutput := ⟨"full", ["dev", "full"], .empty⟩
    let h : Host := .withStore (.initial [])
    ∃ e f' h', f.receive (refreshOf (nameOf 8115)) h = (.failed e, f', h') ∧
      ∀ message, e ≠ .receiver f.name message := by
  intro f h
  have hfull : h.store.Refuses f.location := .inl rfl
  have hfront : refreshFront.flatten.length = 59 := by decide +kernel
  have hback : refreshBack.flatten.length = 18 := by decide +kernel
  have hlength : (Text.encode (refreshOf (nameOf 8115)).line).length = f.buffer.spare := by
    rw [Source.line, Json.compact, Text.encode_join, List.flatMap_def, refreshOf_pieces (by decide),
      List.flatten_append, List.flatten_cons, List.length_append, List.length_append, hfront, hback,
      nameOf_length]
    rfl
  obtain ⟨cause, f', h', hrefused⟩ :=
    receiveOn_nameless (device_refused hfull).refusing hlength
  exact ⟨_, f', h', (receive_on f _ h).trans hrefused, fun message hsame => by cases hsame⟩

end FileOutput

end MeshTelemetry
