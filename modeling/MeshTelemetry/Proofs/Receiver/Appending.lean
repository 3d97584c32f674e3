import MeshTelemetry.Proofs.Receiver.Outputs
import MeshTelemetry.Proofs.Replay.Keeping

/-!
# MeshTelemetry.Proofs.Receiver.Appending

All that receivers do to the store is to append to their files. Hence whatever appending to these
files keeps true of the store, every call on the receivers keeps.

* `Store.Lasts`: what appending keeps true; `Store.lasts_node`: what stands somewhere else;
  `Store.lasts_room`: that there is room for everything.
* `Output.receive_lasting`, `Members.receive_lasting`, `Output.keeps_lasting`: so do receivers, and
  sets and trees of them; `Output.keeps_store`: whatever files they write to.
-/

namespace MeshTelemetry

variable {p : Location → Prop} {Q Q' : Store → Prop}

namespace Store

/-- Appending to such files keeps this true of the store. -/
def Lasts (p : Location → Prop) (Q : Store → Prop) : Prop :=
  ∀ (s : Store) (loc : Location) (bytes : Bytes), p loc → Q s → Q (s.append loc bytes).2

theorem Lasts.and (h : Lasts p Q) (h' : Lasts p Q') : Lasts p fun s => Q s ∧ Q' s :=
  fun s loc bytes hloc hq => ⟨h s loc bytes hloc hq.1, h' s loc bytes hloc hq.2⟩

/-- Nothing happens at a location if nobody writes to a regular file there. -/
theorem lasts_node {loc : Location} {node : Option Node}
    (hp : ∀ other, p other → ∀ c, node = some (.file c) → other ≠ loc) :
    Lasts p (·.node? loc = node) := fun _ other bytes hother hnode =>
  (append_frame bytes fun c hc => hp other hother c (hnode.symm.trans hc)).trans hnode

theorem lasts_room : Lasts p (·.shortages = []) := fun _ loc bytes _ hroom =>
  append_shortages hroom loc bytes

end Store

/-- The same host twice, of whose store this is true. -/
def Host.Both (Q : Store → Prop) (h h' : Host) : Prop := h' = h ∧ Q h.store

theorem Host.both_similarity : Host.Similarity (Host.Both Q) where
  log := by
    rintro h _ level component message fields ⟨rfl, hq⟩
    exact ⟨rfl, hq⟩
  tally := by
    rintro h _ meter ⟨rfl, hq⟩
    exact ⟨rfl, hq⟩

theorem Agree.both {α ρ : Type} {q : ρ → Prop} {r : α × ρ × Host}
    (h : Agree (Host.Both Q) q r r) : q r.2.1 ∧ Q r.2.2.store := by
  obtain ⟨answer, state, h1, h1', rfl, -, hq, -, hstore⟩ := h
  exact ⟨hq, hstore⟩

namespace Output

theorem respects_lasting (hQ : Store.Lasts p Q) : Sink.Respects (Host.Both Q) (WritesTo p) := by
  refine Output.respects Host.both_similarity fun loc hloc h h' bytes hh => ?_
  obtain ⟨rfl, hq⟩ := hh
  exact ⟨_, _, _, rfl, rfl, rfl, hQ _ loc bytes hloc hq⟩

variable {o : Output} {h : Host}

theorem receive_lasting (hQ : Store.Lasts p Q) (ho : o.WritesTo p) (source : Source)
    (hq : Q h.store) :
    (Sink.receive o source h).2.1.WritesTo p ∧ Q (Sink.receive o source h).2.2.store :=
  Agree.both ((respects_lasting hQ).receive source ho ⟨rfl, hq⟩)

theorem flush_lasting (hQ : Store.Lasts p Q) (ho : o.WritesTo p) (hq : Q h.store) :
    (Sink.flush o h).2.1.WritesTo p ∧ Q (Sink.flush o h).2.2.store :=
  Agree.both ((respects_lasting hQ).flush ho ⟨rfl, hq⟩)

theorem close_lasting (hQ : Store.Lasts p Q) (ho : o.WritesTo p) (hq : Q h.store) :
    Q (Sink.close o h).store :=
  ((respects_lasting hQ).close ho (⟨rfl, hq⟩ : Host.Both Q h h)).2

end Output

namespace Members

variable {members : Members Output} {h : Host}

theorem receive_lasting (hQ : Store.Lasts p Q) (hall : members.All (Output.WritesTo p))
    (source : Source) (hq : Q h.store) :
    (members.receive source h).2.1.All (Output.WritesTo p) ∧
      Q (members.receive source h).2.2.store :=
  (receive_agree Host.both_similarity (Output.respects_lasting hQ) source members hall
    ⟨rfl, hq⟩).both

theorem flush_lasting (hQ : Store.Lasts p Q) (hall : members.All (Output.WritesTo p))
    (hq : Q h.store) :
    (members.flush h).2.1.All (Output.WritesTo p) ∧ Q (members.flush h).2.2.store :=
  (flush_agree Host.both_similarity (Output.respects_lasting hQ) members hall ⟨rfl, hq⟩).both

theorem close_lasting (hQ : Store.Lasts p Q) (hall : members.All (Output.WritesTo p))
    (hq : Q h.store) : Q (members.close h).store :=
  (close_agree (Output.respects_lasting hQ) members hall (⟨rfl, hq⟩ : Host.Both Q h h)).2

end Members

theorem Receiver.close_lasting (hQ : Store.Lasts p Q) {r : Receiver Output}
    (hall : r.All (Output.WritesTo p)) {h : Host} (hq : Q h.store) : Q (r.close h).store :=
  (Receiver.close_agree (Output.respects_lasting hQ) r hall (⟨rfl, hq⟩ : Host.Both Q h h)).2

namespace Output

theorem writesTo_any (r : Receiver Output) : r.All (WritesTo fun _ => True) :=
  Receiver.all_any (fun _ _ _ => trivial) r

theorem keeps_lasting (hQ : Store.Lasts p Q) :
    Receiver.Keeps fun (r : Receiver Output) s => r.All (WritesTo p) ∧ Q s where
  receive := fun {r _} source hr =>
    (Receiver.receive_agree Host.both_similarity (respects_lasting hQ) source r hr.1
      ⟨rfl, hr.2⟩).both
  flush := fun {r _} hr =>
    (Receiver.flush_agree Host.both_similarity (respects_lasting hQ) r hr.1 ⟨rfl, hr.2⟩).both

theorem keeps_store (hQ : Store.Lasts (fun _ => True) Q) :
    Receiver.Keeps fun (_ : Receiver Output) s => Q s where
  receive := fun {r _} source hq => ((keeps_lasting hQ).receive source ⟨writesTo_any r, hq⟩).2
  flush := fun {r _} hq => ((keeps_lasting hQ).flush ⟨writesTo_any r, hq⟩).2

end Output
end MeshTelemetry
