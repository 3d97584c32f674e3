import MeshTelemetry.Proofs.Receiver.Outputs
import MeshTelemetry.Proofs.Replay.Agreement
import MeshTelemetry.Proofs.Store.Alike

/-!
# MeshTelemetry.Proofs.Replay.Alike

Hosts that differ in what the input file holds, and in entries of the log that do not matter. What
receivers do on both keeps them alike, as long as they do not write to the input file.

* `Host.Alike.similarity`, `Host.Alike.respects`: the receivers cannot tell the hosts apart.
* `ReplaySettings.openReceivers_alike`: opening them leads to the same receivers.
-/

namespace MeshTelemetry

variable {matters : Event → Bool} {d : Difference}

/-- The location is not the one of the file in which hosts differ. -/
def Difference.Spares (d : Difference) (loc : Location) : Prop := ∀ c c', d ≠ some (loc, c, c')

theorem Store.Alike.device {h h' : Host} (hh : Store.Alike d h.store h'.store) {loc : Location}
    (hloc : d.Spares loc) (bytes : Bytes) :
    ∃ answer s s', FileOutput.device loc bytes h = (answer, { h with store := s }) ∧
      FileOutput.device loc bytes h' = (answer, { h' with store := s' }) ∧ Store.Alike d s s' := by
  obtain ⟨hsame, hstore⟩ := hh.append hloc bytes
  exact ⟨_, _, _, rfl, Prod.ext hsame rfl, hstore⟩

namespace Host.Alike

theorem similarity : Host.Similarity (Host.Alike matters d) where
  log level component message fields h := by
    refine ⟨h.store, h.meters, ?_⟩
    simp only [Host.log, List.filter_cons, h.events]
  tally meter h := by
    refine ⟨h.store, ?_, h.events⟩
    simp only [Host.tally, h.meters]

/-- An entry that does not matter is logged on one of the hosts only. -/
theorem log_left {h h' : Host} {level : Level} {component : Component} {message : String}
    {fields : List (String × String)} (hh : Host.Alike matters d h h')
    (hnot : matters ⟨level, component, message, fields⟩ = false) :
    Host.Alike matters d (h.log level component message fields) h' := by
  refine ⟨hh.store, hh.meters, ?_⟩
  rw [hh.events, Host.log, List.filter_cons, hnot]
  rfl

theorem log_right {h h' : Host} {level : Level} {component : Component} {message : String}
    {fields : List (String × String)} (hh : Host.Alike matters d h h')
    (hnot : matters ⟨level, component, message, fields⟩ = false) :
    Host.Alike matters d h (h'.log level component message fields) := by
  refine ⟨hh.store, hh.meters, ?_⟩
  rw [← hh.events, Host.log, List.filter_cons, hnot]
  rfl

theorem device {loc : Location} (hloc : d.Spares loc) :
    Device.Respects (Host.Alike matters d) (FileOutput.device loc) := by
  intro h h' bytes hh
  obtain ⟨answer, s, s', hs, hs', hstore⟩ := hh.store.device hloc bytes
  exact ⟨answer, _, _, hs, hs', hstore, hh.meters, hh.events⟩

theorem respects : Sink.Respects (Host.Alike matters d) (Output.WritesTo d.Spares) :=
  Output.respects similarity fun _ hloc => device hloc

end Host.Alike

namespace Output

theorem openFile_alike (name path : String) {h h' : Host} (hh : Host.Alike matters d h h') :
    ∃ answer h1 h1', openFile name path h = (answer, h1) ∧ openFile name path h' = (answer, h1') ∧
      Host.Alike matters d h1 h1' := by
  simp only [openFile]
  obtain ⟨answer, s, s', hs, hs', hstore⟩ := hh.store.makeParents path
  simp only [hs, hs']
  cases answer with
  | error e => exact ⟨_, _, _, rfl, rfl, hstore, hh.meters, hh.events⟩
  | ok u =>
    rcases (hstore.openAppend path).cases with
      ⟨e, he, he'⟩ | ⟨⟨loc, s1⟩, ⟨loc', s1'⟩, hs1, hs1', hloc, h1⟩
    · simp only [he, he']
      exact ⟨_, _, _, rfl, rfl, hstore, hh.meters, hh.events⟩
    · cases hloc
      simp only [hs1, hs1']
      exact ⟨_, _, _, rfl, rfl, h1, hh.meters, hh.events⟩

theorem ofSettings_alike (settings : ReceiverSettings) {h h' : Host}
    (hh : Host.Alike matters d h h') :
    ∃ answer h1 h1', ofSettings settings h = (answer, h1) ∧ ofSettings settings h' = (answer, h1') ∧
      Host.Alike matters d h1 h1' := by
  unfold ofSettings
  cases settings.type with
  | log => exact ⟨_, h, h', rfl, rfl, hh⟩
  | file =>
    obtain ⟨answer, h1, h1', ho, ho', hh1⟩ :=
      openFile_alike settings.name (pathOf settings.params) hh
    simp only [ho, ho']
    cases answer <;> exact ⟨_, h1, h1', rfl, rfl, hh1⟩

theorem openAll_alike (list : List ReceiverSettings) : ∀ {h h' : Host},
    Host.Alike matters d h h' → ∃ answer h1 h1', openAll list h = (answer, h1) ∧
      openAll list h' = (answer, h1') ∧ Host.Alike matters d h1 h1' := by
  induction list with
  | nil => exact fun {h h'} hh => ⟨_, h, h', rfl, rfl, hh⟩
  | cons settings rest ih =>
    intro h h' hh
    obtain ⟨answer, h1, h1', ho, ho', hh1⟩ := ofSettings_alike settings hh
    rw [openAll, openAll, ho, ho']
    cases answer with
    | error e => exact ⟨_, h1, h1', rfl, rfl, hh1⟩
    | ok output =>
      obtain ⟨answer, h2, h2', hr, hr', hh2⟩ := ih hh1
      simp only [hr, hr']
      cases answer <;> exact ⟨_, h2, h2', rfl, rfl, hh2⟩

end Output

theorem ReplaySettings.openReceivers_alike (s : ReplaySettings) {h h' : Host}
    (hh : Host.Alike matters d h h') : ∃ answer h1 h1', s.openReceivers h = (answer, h1) ∧
      s.openReceivers h' = (answer, h1') ∧ Host.Alike matters d h1 h1' := by
  unfold openReceivers
  split
  · exact Output.openAll_alike _ (Host.Alike.similarity.log _ _ _ _ hh)
  · exact Output.openAll_alike _ hh

end MeshTelemetry
