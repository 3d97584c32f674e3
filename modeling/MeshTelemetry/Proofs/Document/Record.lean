import MeshTelemetry.Proofs.Document.Members

/-!
# MeshTelemetry.Proofs.Document.Record

A record that is written as a map of its fields is decoded as the values of the members, in whatever
order they stand.

* `Record.Encodes`: members that hold the values of the fields in declaration order.
* `Record.decode_perm`: in any order they are decoded as these values.
-/

namespace MeshTelemetry
namespace Record

/-- One member for each field, in order; its document is decoded as the value of the field. -/
inductive Encodes : (fields : List Field) → Values fields → List (Option String × Document) → Prop
  | nil : Encodes [] () []
  | cons {f : Field} {fs : List Field} {v : f.Value} {vs : Values fs} {d : Document}
      {members : List (Option String × Document)} :
      f.decoder d = .ok v → Encodes fs vs members →
      Encodes (f :: fs) (v, vs) ((some f.name, d) :: members)

/-- Slots that all have a value. -/
def Slots.full : (fields : List Field) → Values fields → Slots fields
  | [], _ => ()
  | _ :: fs, (v, vs) => (some v, Slots.full fs vs)

theorem Slots.complete_full (fields : List Field) (vs : Values fields) :
    Slots.complete fields (Slots.full fields vs) = .ok vs := by
  induction fields with
  | nil => rfl
  | cons f fs ih =>
    obtain ⟨v, vs⟩ := vs
    rw [Slots.full, Slots.complete, ih]
    rfl

theorem Encodes.keys {fields : List Field} {vs : Values fields}
    {members : List (Option String × Document)} (h : Encodes fields vs members) :
    members.map Prod.fst = fields.map (some ·.name) := by
  induction h with
  | nil => rfl
  | cons _ _ ih => rw [List.map_cons, List.map_cons, ih]

theorem Encodes.putAll {fields : List Field} {vs : Values fields}
    {members : List (Option String × Document)} (h : Encodes fields vs members)
    (hdistinct : (fields.map Field.name).Nodup) :
    ∀ {members' : List (Option String × Document)}, members'.Perm members →
      Slots.putAll fields (Slots.empty fields) members' = .ok (Slots.full fields vs) := by
  induction h with
  | nil =>
    intro members' hperm
    rw [hperm.eq_nil]
    rfl
  | @cons f fs v vs d members hd hrest ih =>
    intro members' hperm
    obtain ⟨hnew, hdistinct⟩ := List.nodup_cons.mp hdistinct
    have hkeys : some f.name ∉ members.map Prod.fst := by
      rw [hrest.keys]
      rintro hmem
      obtain ⟨g, hg, heq⟩ := List.mem_map.mp hmem
      exact hnew (List.mem_map.mpr ⟨g, hg, Option.some.inj heq⟩)
    have hnone : valuesOf f.name members = [] :=
      Classical.not_not.mp (mt valuesOf_ne_nil.mp hkeys)
    have hvalues : valuesOf f.name members' = [d] := by
      rw [← List.perm_singleton, ← hnone, ← valuesOf_cons_self d]
      exact valuesOf_perm hperm
    have hkept : members.filter (·.1 ≠ some f.name) = members :=
      List.filter_eq_self.mpr fun member hmember =>
        decide_eq_true fun heq => hkeys (heq ▸ List.mem_map_of_mem hmember)
    have hothers : (members'.filter (·.1 ≠ some f.name)).Perm members := by
      have hfilter := hperm.filter (·.1 ≠ some f.name)
      rwa [List.filter_cons_of_neg (by simp), hkept] at hfilter
    refine Slots.putAll_iff.mpr ⟨?_, ih hdistinct hothers⟩
    rw [hvalues]
    exact ⟨v, Field.reads_eq_some.mpr hd, rfl⟩

theorem decode_perm {fields : List Field} {vs : Values fields}
    {members members' : List (Option String × Document)} (h : Encodes fields vs members)
    (hdistinct : (fields.map Field.name).Nodup) (dialect : Dialect) (title : String)
    (hperm : members'.Perm members) :
    decode dialect title fields (.map members' true) = .ok vs := by
  simp only [decode, decodeMembers, h.putAll hdistinct hperm, if_true, Slots.complete_full]

theorem decode_members {fields : List Field} {vs : Values fields}
    {members : List (Option String × Document)} (h : Encodes fields vs members)
    (hdistinct : (fields.map Field.name).Nodup) (dialect : Dialect) (title : String) :
    decode dialect title fields (.map members true) = .ok vs :=
  decode_perm h hdistinct dialect title (.refl members)

end Record
end MeshTelemetry
