import MeshTelemetry.Proofs.Receiver.Buffer
import MeshTelemetry.Receiver.Output

/-!
# MeshTelemetry.Proofs.Meters

What is read off the meters, and who counts nothing.

* `Meters.Gauge`: a number read off the meters that grows with each count by what is counted.
* `Meters.gauge_count`, `Meters.gauge_renamings`: one meter, and all renamed endpoints together.
* `Receiver.receive_meters`, `Receiver.flush_meters`, `Receiver.close_meters`: receivers whose sinks
  count nothing; `Output.unmetered`: the receivers of the program.
-/

namespace MeshTelemetry

/-- The meter counts renamed endpoints of a service. -/
def Meter.isRenaming : Meter → Bool
  | .renamed _ => true
  | _ => false

namespace Meters

/-- What is read off the meters grows by the worth of each meter that is counted. -/
structure Gauge (read : Meters → Nat) (worth : Meter → Nat) : Prop where
  bump : ∀ meter meters, read (bump meter meters) = read meters + worth meter

theorem count_cons (meter m : Meter) (n : Nat) (meters : Meters) :
    count ((m, n) :: meters) meter = if m = meter then n else meters.count meter := by
  rw [count, List.lookup_cons]
  by_cases h : meter = m
  · simp [h]
  · rw [beq_false_of_ne h, if_neg (Ne.symm h)]
    rfl

theorem gauge_count (meter : Meter) :
    Gauge (·.count meter) fun m => (decide (m = meter)).toNat where
  bump m meters := by
    induction meters with
    | nil =>
      rw [Meters.bump, count_cons]
      by_cases h : m = meter <;> simp [h, count]
    | cons entry meters ih =>
      obtain ⟨m', n⟩ := entry
      rw [Meters.bump]
      split
      · next h =>
        subst h
        by_cases hm : m' = meter <;> simp [count_cons, hm]
      · next h =>
        by_cases hm : m' = meter
        · subst hm
          simp [count_cons, Ne.symm h]
        · simp only [count_cons, hm, if_false, ih]

/-- How many endpoints were renamed, of all services together. -/
def renamings (meters : Meters) : Nat :=
  meters.foldr (fun (m, n) sum => (if m.isRenaming then n else 0) + sum) 0

theorem gauge_renamings : Gauge renamings fun m => m.isRenaming.toNat where
  bump m meters := by
    induction meters with
    | nil => cases h : m.isRenaming <;> simp [Meters.bump, renamings, h]
    | cons entry meters ih =>
      obtain ⟨m', n⟩ := entry
      rw [Meters.bump]
      split
      · next h =>
        subst h
        cases hm : m'.isRenaming <;> simp [renamings, hm]
        omega
      · simp only [renamings, List.foldr_cons] at ih ⊢
        rw [ih, Nat.add_assoc]

/-- What sources of these kinds are worth. -/
def sourcesWorth (worth : Meter → Nat) (kinds : List SourceKind) : Nat :=
  kinds.foldr (fun kind sum => worth (.sources kind) + sum) 0

theorem sourcesWorth_zero {worth : Meter → Nat} (h : ∀ kind, worth (.sources kind) = 0)
    (kinds : List SourceKind) : sourcesWorth worth kinds = 0 := by
  induction kinds with
  | nil => rfl
  | cons k kinds ih =>
    rw [sourcesWorth] at ih
    rw [sourcesWorth, List.foldr_cons, ih, h]

theorem sourcesWorth_count (kind : SourceKind) (kinds : List SourceKind) :
    sourcesWorth (fun m => (decide (m = .sources kind)).toNat) kinds =
      kinds.countP (· = kind) := by
  induction kinds with
  | nil => rfl
  | cons k kinds ih =>
    rw [sourcesWorth] at ih
    rw [sourcesWorth, List.foldr_cons, ih, List.countP_cons]
    by_cases hk : k = kind
    · simp [hk, Nat.add_comm]
    · simp [hk]

end Meters

variable {ℓ : Type} [Sink ℓ]

/-- Sinks that count nothing, whatever is done to them. -/
structure Sink.Unmetered (ℓ : Type) [Sink ℓ] : Prop where
  receive : ∀ (s : ℓ) (source : Source) (h : Host), (Sink.receive s source h).2.2.meters = h.meters
  flush : ∀ (s : ℓ) (h : Host), (Sink.flush s h).2.2.meters = h.meters
  close : ∀ (s : ℓ) (h : Host), (Sink.close s h).meters = h.meters

mutual

theorem Receiver.receive_meters (hs : Sink.Unmetered ℓ) (source : Source) :
    ∀ (r : Receiver ℓ) (h : Host), (r.receive source h).2.2.meters = h.meters
  | .sink s, h => hs.receive s source h
  | .set _ members, h => Members.receive_meters hs source members h

theorem Members.receive_meters (hs : Sink.Unmetered ℓ) (source : Source) :
    ∀ (members : Members ℓ) (h : Host), (members.receive source h).2.2.meters = h.meters
  | .none, _ => rfl
  | .more r received failures rest, h => by
    have hfirst := Receiver.receive_meters hs source r h
    rw [Members.receive]
    rcases hr : r.receive source h with ⟨o, r1, h1⟩
    rw [hr] at hfirst
    cases o with
    | failed e => exact hfirst
    | crashed m => exact hfirst
    | done u => exact (Members.receive_meters hs source rest h1).trans hfirst

end

mutual

theorem Receiver.flush_meters (hs : Sink.Unmetered ℓ) :
    ∀ (r : Receiver ℓ) (h : Host), (r.flush h).2.2.meters = h.meters
  | .sink s, h => hs.flush s h
  | .set _ members, h => Members.flush_meters hs members h

theorem Members.flush_meters (hs : Sink.Unmetered ℓ) :
    ∀ (members : Members ℓ) (h : Host), (members.flush h).2.2.meters = h.meters
  | .none, _ => rfl
  | .more r received failures rest, h => by
    have hfirst := Receiver.flush_meters hs r h
    rw [Members.flush]
    rcases hr : r.flush h with ⟨o, r1, h1⟩
    rw [hr] at hfirst
    cases o with
    | crashed m => exact hfirst
    | done u => exact (Members.flush_meters hs rest h1).trans hfirst
    | failed e =>
      have hrest := Members.flush_meters hs rest (logFlushFailure r1 e h1)
      simp only
      rcases hr2 : rest.flush (logFlushFailure r1 e h1) with ⟨o, rest2, h2⟩
      rw [hr2] at hrest
      cases o <;> exact hrest.trans hfirst

end

mutual

theorem Receiver.close_meters (hs : Sink.Unmetered ℓ) :
    ∀ (r : Receiver ℓ) (h : Host), (r.close h).meters = h.meters
  | .sink s, h => hs.close s h
  | .set _ members, h => Members.close_meters hs members h

theorem Members.close_meters (hs : Sink.Unmetered ℓ) :
    ∀ (members : Members ℓ) (h : Host), (members.close h).meters = h.meters
  | .none, _ => rfl
  | .more r _ _ rest, h =>
    (Members.close_meters hs rest (r.close h)).trans (Receiver.close_meters hs r h)

end

namespace FileOutput

/-- The meters are these, whatever the file has got. -/
def Metered (meters : Meters) (_ : Bytes) (h : Host) : Prop := h.meters = meters

theorem device_unmetered (location : Location) (meters : Meters) :
    Faithful (device location) (Metered meters) := by
  intro bytes _ h hmeters
  rw [device]
  rcases h.store.append location bytes with ⟨⟨e, written⟩ | u, store⟩ <;> exact hmeters

theorem receive_meters (f : FileOutput) (source : Source) (h : Host) :
    (f.receive source h).2.2.meters = h.meters := by
  have hdevice := device_unmetered f.location h.meters
  have hstart : Metered h.meters [] h := rfl
  obtain ⟨_, _, -, hall, -⟩ :=
    Buffered.writeAll_keeps hdevice (source.toJson.pieces.map Text.encode) f.buffer hstart
  unfold receive
  simp only
  rcases hr : f.buffer.writeAll (device f.location) (source.toJson.pieces.map Text.encode) h with
    ⟨o, buffer, h1⟩
  rw [hr] at hall
  cases o with
  | error e => exact hall
  | ok u =>
    obtain ⟨_, _, hlast, -⟩ := Buffered.write_keeps hdevice hall buffer (Text.encode "\n")
    simp only
    rcases hr2 : buffer.write (device f.location) (Text.encode "\n") h1 with ⟨o, buffer2, h2⟩
    rw [hr2] at hlast
    cases o <;> exact hlast

theorem flushed_meters (f : FileOutput) (h : Host) :
    (f.buffer.flush (device f.location) h).2.2.meters = h.meters := by
  have hstart : Metered h.meters [] h := rfl
  obtain ⟨_, _, hall, -⟩ :=
    Buffered.flush_keeps (device_unmetered f.location h.meters) hstart f.buffer
  exact hall

theorem flush_meters (f : FileOutput) (h : Host) : (f.flush h).2.2.meters = h.meters := by
  have hall := f.flushed_meters h
  unfold flush
  rcases hr : f.buffer.flush (device f.location) h with ⟨o, buffer, h1⟩
  rw [hr] at hall
  cases o <;> exact hall

theorem close_meters (f : FileOutput) (h : Host) : (f.close h).meters = h.meters :=
  f.flushed_meters h

end FileOutput

namespace Output

theorem unmetered : Sink.Unmetered Output where
  receive o source h := by
    cases o with
    | file f => exact f.receive_meters source h
    | _ => rfl
  flush o h := by
    cases o with
    | file f => exact f.flush_meters h
    | _ => rfl
  close o h := by
    cases o with
    | file f => exact f.close_meters h
    | _ => rfl

theorem openAll_meters (list : List ReceiverSettings) :
    ∀ h : Host, (openAll list h).2.meters = h.meters := by
  have hfile : ∀ (name path : String) (h : Host), (openFile name path h).2.meters = h.meters := by
    intro name path h
    unfold openFile
    split
    · rfl
    · split <;> rfl
  have hfirst : ∀ (settings : ReceiverSettings) (h : Host),
      (ofSettings settings h).2.meters = h.meters := by
    intro settings h
    have hopened := hfile settings.name (pathOf settings.params) h
    unfold ofSettings
    split
    · rfl
    · split <;> next hopen => rwa [hopen] at hopened
  induction list with
  | nil => exact fun _ => rfl
  | cons settings rest ih =>
    intro h
    have hopened := hfirst settings h
    unfold openAll
    split
    · next hopen => rwa [hopen] at hopened
    · next output h1 hopen =>
      have hrest := ih h1
      rw [hopen] at hopened
      split <;> next hopen' => rw [hopen'] at hrest; exact hrest.trans hopened

theorem closed_meters {r r' : Receiver Output} {h h' : Host} {answer : Outcome Fault Unit}
    (hflush : r.flush h = (answer, r', h')) : (r'.close h').meters = h.meters := by
  have hflushed := Receiver.flush_meters unmetered r h
  rw [hflush] at hflushed
  rw [Receiver.close_meters unmetered, hflushed]

end Output
end MeshTelemetry
