import MeshTelemetry.Proofs.Store.Frame

/-!
# MeshTelemetry.Proofs.Store.Extension

Stores in which nothing was lost. A store extends another one if everything that stood in that one
still stands there, with more bytes behind those of a file at most.

* `Node.Continued`, `Store.Extends`.
* `Store.append_extends`: appending; `Store.Grown.extends`: new directories and empty files.
-/

namespace MeshTelemetry

/-- What stands at a location now continues what stood there: a file may have got more bytes at its
end, and everything else is as it was. -/
inductive Node.Continued : Node → Node → Prop
  | file {c c' : Content} : c.bytes <+: c'.bytes → Continued (.file c) (.file c')
  | same (node : Node) : Continued node node

theorem Node.Continued.trans {a b c : Node} (h : a.Continued b) (h' : b.Continued c) :
    a.Continued c := by
  cases h with
  | same => exact h'
  | file hab =>
    cases h' with
    | same => exact .file hab
    | file hbc => exact .file (hab.trans hbc)

namespace Store

/-- Everything in the first store is continued in the second one. -/
def Extends (s s' : Store) : Prop :=
  ∀ loc node, s.node? loc = some node →
    ∃ node', s'.node? loc = some node' ∧ node.Continued node'

theorem Extends.trans {s s' s'' : Store} (h : Extends s s') (h' : Extends s' s'') :
    Extends s s'' := by
  intro loc node hnode
  obtain ⟨node', hnode', hcontinued⟩ := h loc node hnode
  obtain ⟨node'', hnode'', hcontinued'⟩ := h' loc node' hnode'
  exact ⟨node'', hnode'', hcontinued.trans hcontinued'⟩

/-- A file has kept its bytes, and has more at most. -/
theorem Extends.file {s s' : Store} (h : Extends s s') {loc : Location} {c : Content}
    (hc : s.node? loc = some (.file c)) :
    ∃ c', s'.node? loc = some (.file c') ∧ c.bytes <+: c'.bytes := by
  obtain ⟨node', hnode', hcontinued⟩ := h loc _ hc
  cases hcontinued with
  | file hbytes => exact ⟨_, hnode', hbytes⟩
  | same => exact ⟨c, hnode', List.prefix_refl _⟩

theorem Grown.extends {s s' : Store} (h : Grown s s') : Extends s s' := by
  intro loc node hnode
  rcases h.node loc with heq | ⟨hnone, -⟩
  · exact ⟨node, heq.trans hnode, .same node⟩
  · rw [hnode] at hnone
    cases hnone

theorem append_extends (s : Store) (loc : Location) (bytes : Bytes) :
    Extends s (s.append loc bytes).2 := by
  intro other node hnode
  by_cases hwritten : ∃ c, s.node? other = some (.file c) ∧ loc = other
  · obtain ⟨c, hc, rfl⟩ := hwritten
    rw [hnode] at hc
    cases hc
    rw [append_file hnode]
    refine ⟨.file (c.append (s.shortages.taken bytes)), ?_, .file ?_⟩
    · exact (node?_put (file_ne_root hnode) _ loc).trans (if_pos rfl)
    · rw [Content.bytes_append]
      exact List.prefix_append _ _
  · -- whatever else stands somewhere is not changed at all
    have hframe := append_frame bytes fun c hc hloc => hwritten ⟨c, hc, hloc⟩
    exact ⟨node, hframe.trans hnode, .same node⟩

end Store
end MeshTelemetry
