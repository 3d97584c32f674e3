import MeshTelemetry.Proofs.Receiver.Files

/-!
# MeshTelemetry.Proofs.Receiver.Opening

Opening the receivers of a configuration. Nothing is lost in the store, and the receivers that
write to files have nothing pending yet.

* `Output.locations`: the files that receivers write to.
* `Output.openAll_store`: what opening does to the store; `Output.openAll_fresh`: what it gives.
* `Members.holds_ofList`: a set of opened receivers whose files are regular and distinct.
-/

namespace MeshTelemetry
namespace Output

def location? : Output → Option Location
  | .file f => some f.location
  | _ => none

/-- The locations of the files, in the order of the receivers. -/
def locations (outputs : List Output) : List Location := outputs.filterMap location?

/-- A receiver that was opened and not yet used. -/
inductive Fresh : Output → Prop
  | log (name : String) : Fresh (.log name)
  | file (name : String) (location : Location) : Fresh (.file ⟨name, location, .empty⟩)

theorem openFile_store (name path : String) (h : Host) :
    Store.Grown h.store (openFile name path h).2.store := by
  have hgrown := Store.makeParents_grown h.store path
  unfold openFile
  split
  · next hparents => rwa [hparents] at hgrown
  · next store hparents =>
    rw [hparents] at hgrown
    split
    · exact hgrown
    · next happend => exact hgrown.trans (Store.openAppend_grown happend)

theorem openFile_fresh {name path : String} {h h' : Host} {output : Output}
    (ho : openFile name path h = (.ok output, h')) : output.Fresh := by
  unfold openFile at ho
  split at ho
  · cases ho
  · split at ho
    · cases ho
    · next location store' happend =>
      cases ho
      exact .file name location

theorem ofSettings_store (settings : ReceiverSettings) (h : Host) :
    Store.Grown h.store (ofSettings settings h).2.store := by
  have hfile := openFile_store settings.name (pathOf settings.params) h
  unfold ofSettings
  split
  · exact .refl _
  · split <;> next hopen => rwa [hopen] at hfile

theorem ofSettings_fresh {settings : ReceiverSettings} {h h' : Host} {output : Output}
    (ho : ofSettings settings h = (.ok output, h')) : output.Fresh := by
  unfold ofSettings at ho
  split at ho
  · cases ho
    exact .log _
  · split at ho
    · cases ho
    · next hfile =>
      cases ho
      exact openFile_fresh hfile

theorem openAll_store (list : List ReceiverSettings) :
    ∀ h : Host, Store.Grown h.store (openAll list h).2.store := by
  induction list with
  | nil => exact fun h => .refl _
  | cons settings rest ih =>
    intro h
    have hfirst := ofSettings_store settings h
    unfold openAll
    split
    · next hopen => rwa [hopen] at hfirst
    · next output h1 hopen =>
      have hrest := ih h1
      rw [hopen] at hfirst
      split <;> next hopen' => rw [hopen'] at hrest; exact hfirst.trans hrest

theorem openAll_fresh (list : List ReceiverSettings) :
    ∀ {h h' : Host} {outputs : List Output}, openAll list h = (.ok outputs, h') →
      ∀ output ∈ outputs, output.Fresh := by
  induction list with
  | nil =>
    intro h h' outputs ho
    cases ho
    exact List.forall_mem_nil _
  | cons settings rest ih =>
    intro h h' outputs ho
    unfold openAll at ho
    split at ho
    · cases ho
    · next output h1 hfirst =>
      split at ho
      · cases ho
      · next outputs' h2 hrest =>
        cases ho
        exact List.forall_mem_cons.mpr ⟨ofSettings_fresh hfirst, ih hrest⟩

end Output

theorem Members.holds_ofList {s : Store} {before : Location → Bytes} {outputs : List Output}
    (hfresh : ∀ output ∈ outputs, output.Fresh) (hdistinct : (Output.locations outputs).Nodup)
    (hfiles : ∀ loc ∈ Output.locations outputs,
      ∃ c, s.node? loc = some (.file c) ∧ c.bytes = before loc) :
    Members.Holds s before [] (.ofList (outputs.map .sink)) (Output.locations outputs) := by
  induction outputs with
  | nil => exact .none
  | cons output outputs ih =>
    rw [List.forall_mem_cons] at hfresh
    obtain ⟨hfirst, hrest⟩ := hfresh
    cases hfirst with
    | log name => exact .log name 0 0 (ih hrest hdistinct hfiles)
    | file name location =>
      have hcons : Output.locations (.file ⟨name, location, .empty⟩ :: outputs) =
          location :: Output.locations outputs := rfl
      rw [hcons] at hdistinct hfiles ⊢
      obtain ⟨hnew, hdistinct'⟩ := List.nodup_cons.mp hdistinct
      obtain ⟨⟨c, hc, hbytes⟩, hfiles'⟩ := List.forall_mem_cons.mp hfiles
      exact .file (f := ⟨name, location, .empty⟩) 0 0 ⟨c, hc, by simp [Buffered.empty, hbytes]⟩ hnew
        (ih hrest hdistinct' hfiles')

end MeshTelemetry
