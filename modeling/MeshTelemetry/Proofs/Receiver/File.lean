import MeshTelemetry.Proofs.Receiver.Buffer
import MeshTelemetry.Proofs.Store.Frame
import MeshTelemetry.Proofs.Text.Encoding
import MeshTelemetry.Receiver.Output

/-!
# MeshTelemetry.Proofs.Receiver.File

A receiver that writes to a regular file. The bytes of the file with the pending ones behind them
grow by the line of each source, and nothing else in the store changes.

* `FileOutput.Holds`: the bytes that a file receiver has written or will write.
* `FileOutput.receive_done`, `FileOutput.flush_done`: both operations succeed, with this invariant.
-/

namespace MeshTelemetry

/-- The line that a source is written as, with its line break. -/
def Source.bytes (source : Source) : Bytes := Text.encode (source.line ++ "\n")

namespace FileOutput

/-- The file and the buffer hold these bytes together. -/
def Holds (f : FileOutput) (s : Store) (bytes : Bytes) : Prop :=
  ∃ c, s.node? f.location = some (.file c) ∧ c.bytes ++ f.buffer.pending.toList = bytes

theorem Holds.congr {f : FileOutput} {s s' : Store} {bytes : Bytes} (h : f.Holds s bytes)
    (heq : s'.node? f.location = s.node? f.location) : f.Holds s' bytes := by
  obtain ⟨c, hc, hbytes⟩ := h
  exact ⟨c, heq.trans hc, hbytes⟩

section Device

variable (loc : Location) (start : Host)

/-- The regular file holds what was sent, there is room for more, and the rest of the store is as it
was at the start. -/
structure Sent (sent : Bytes) (h : Host) : Prop where
  file : ∃ c, h.store.node? loc = some (.file c) ∧ c.bytes = sent
  room : h.store.shortages = []
  off : Store.AgreeOff [loc] start.store h.store

theorem device_takes (bytes : Bytes) {sent : Bytes} {h : Host} (hs : Sent loc start sent h) :
    ∃ h', device loc bytes h = (.ok (), h') ∧ Sent loc start (sent ++ bytes) h' := by
  obtain ⟨⟨c, hfile, hc⟩, hroom, hoff⟩ := hs
  have hput := Store.node?_put (s := h.store) (Store.file_ne_root hfile)
    (.file (c.append bytes))
  refine ⟨{ h with store := h.store.put loc (.file (c.append bytes)) }, ?_,
    ⟨c.append bytes, ?_, ?_⟩, hroom, fun other hother => ?_⟩
  · rw [device, Store.append_all hroom hfile]
  · rw [hput, if_pos rfl]
  · rw [Content.bytes_append, hc]
  · rw [hput, if_neg (by simpa using hother)]
    exact hoff other hother

theorem device_faithful : Faithful (device loc) (Sent loc start) := by
  intro bytes sent h hs
  obtain ⟨h', hd, hs'⟩ := device_takes loc start bytes hs
  rw [hd]
  exact hs'

theorem device_accepting : Accepting (device loc) (Sent loc start) := by
  intro bytes sent h hs
  obtain ⟨h', hd, -⟩ := device_takes loc start bytes hs
  rw [hd]

end Device

theorem Holds.sent {f : FileOutput} {h : Host} {bytes : Bytes} (hf : f.Holds h.store bytes)
    (hroom : h.store.shortages = []) :
    ∃ sent, Sent f.location h sent h ∧ sent ++ f.buffer.pending.toList = bytes := by
  obtain ⟨c, hc, hbytes⟩ := hf
  exact ⟨c.bytes, ⟨⟨c, hc, rfl⟩, hroom, fun _ _ => rfl⟩, hbytes⟩

theorem Sent.holds {f : FileOutput} {start h : Host} {sent : Bytes}
    (hs : Sent f.location start sent h) (buffer : Buffered) :
    ({ f with buffer } : FileOutput).Holds h.store (sent ++ buffer.pending.toList) := by
  obtain ⟨c, hc, rfl⟩ := hs.file
  exact ⟨c, hc, rfl⟩

/-- The pieces of a source are the bytes of its line. -/
theorem flatten_pieces (source : Source) :
    (source.toJson.pieces.map Text.encode).flatten ++ Text.encode "\n" = source.bytes := by
  rw [Source.bytes, Text.encode_append, Source.line, Json.compact, Text.encode_join,
    List.flatMap_def]

theorem receive_done {f : FileOutput} {h : Host} {bytes : Bytes} (hf : f.Holds h.store bytes)
    (hroom : h.store.shortages = []) (source : Source) :
    ∃ f' h', f.receive source h = (.done (), f', h') ∧ f'.location = f.location ∧
      f'.Holds h'.store (bytes ++ source.bytes) ∧ h'.store.shortages = [] ∧
      Store.AgreeOff [f.location] h.store h'.store := by
  obtain ⟨sent, hs, rfl⟩ := hf.sent hroom
  have hd := device_faithful f.location h
  have ha := device_accepting f.location h
  let pieces := source.toJson.pieces.map Text.encode
  obtain ⟨kept, sent', -, hs', htotal', hall⟩ := Buffered.writeAll_keeps hd pieces f.buffer hs
  have hok := Buffered.writeAll_accepted hd ha pieces f.buffer hs
  rcases hr : f.buffer.writeAll (device f.location) pieces h with ⟨o, buffer', h'⟩
  rw [hr] at hs' htotal' hall hok
  cases hok
  cases hall rfl
  obtain ⟨sent'', part, hs'', htotal'', hpart⟩ :=
    Buffered.write_keeps hd hs' buffer' (Text.encode "\n")
  have hok' := Buffered.write_accepted hd ha hs' buffer' (Text.encode "\n")
  rcases hr' : buffer'.write (device f.location) (Text.encode "\n") h' with ⟨o, buffer'', h''⟩
  rw [hr'] at hs'' htotal'' hpart hok'
  cases hok'
  obtain rfl : part = Text.encode "\n" := hpart
  refine ⟨{ f with buffer := buffer'' }, h'', ?_, rfl, ?_, hs''.room, hs''.off⟩
  · simp only [pieces] at hr
    simp only [receive, hr, hr']
  · have hbytes : sent'' ++ buffer''.pending.toList =
        sent ++ f.buffer.pending.toList ++ source.bytes := by
      simp only at htotal' htotal''
      rw [htotal'', htotal', ← flatten_pieces, List.append_assoc]
    rw [← hbytes]
    exact hs''.holds buffer''

theorem flush_done {f : FileOutput} {h : Host} {bytes : Bytes} (hf : f.Holds h.store bytes)
    (hroom : h.store.shortages = []) :
    ∃ f' h', f.flush h = (.done (), f', h') ∧ f'.location = f.location ∧ f'.buffer = .empty ∧
      f'.Holds h'.store bytes ∧ h'.store.shortages = [] ∧
      Store.AgreeOff [f.location] h.store h'.store := by
  obtain ⟨sent, hs, rfl⟩ := hf.sent hroom
  have hd := device_faithful f.location h
  have ha := device_accepting f.location h
  obtain ⟨sent', part, hs', htotal', hpart⟩ := Buffered.flush_keeps hd hs f.buffer
  have hok := Buffered.flush_accepted ha hs f.buffer
  rcases hr : f.buffer.flush (device f.location) h with ⟨o, buffer', h'⟩
  rw [hr] at hs' htotal' hpart hok
  cases hok
  obtain rfl : part = [] := hpart
  refine ⟨{ f with buffer := buffer' },
    h'.log .debug .fileReceiver "FileReceiver flushed" [("receiver", f.name)], ?_, rfl,
    Buffered.flush_empty hr, ?_, hs'.room, hs'.off⟩
  · simp only [flush, hr]
  · simp only [List.append_nil] at htotal'
    rw [← htotal']
    exact hs'.holds buffer'

/-- The receiver appends the same to its file when it is closed as when it is flushed. -/
theorem close_store (f : FileOutput) (h : Host) : (f.close h).store = (f.flush h).2.2.store := by
  unfold close flush
  rcases f.buffer.flush (device f.location) h with ⟨answer, buffer, h'⟩
  cases answer <;> rfl

theorem close_empty {f : FileOutput} (hf : f.buffer = .empty) (h : Host) : f.close h = h := by
  rw [close, hf]
  rfl

end FileOutput
end MeshTelemetry
