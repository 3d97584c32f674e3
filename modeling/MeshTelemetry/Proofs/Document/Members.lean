import MeshTelemetry.Document.Record
import MeshTelemetry.Proofs.Document.Decoder

/-!
# MeshTelemetry.Proofs.Document.Members

Which maps are decoded as a record, and as which one: the value of a field is decoded from the only
member of its name or is its default. Other members matter only in that they must be readable.

* `valuesOf`: what the members of a name hold.
* `Record.Holds`: the values of the fields, each by its own members alone.
* `Record.decodeMembers_iff`: the maps that are decoded.
-/

namespace MeshTelemetry

/-- What the members that are called `name` hold. -/
def valuesOf {α : Type} (name : String) (members : List (Option String × α)) : List α :=
  (members.filter (·.1 == some name)).map (·.2)

section Values

variable {α : Type} {name : String} {members : List (Option String × α)}

theorem valuesOf_cons_self (a : α) :
    valuesOf name ((some name, a) :: members) = a :: valuesOf name members := by
  simp [valuesOf]

theorem valuesOf_cons_other {key : Option String} (h : key ≠ some name) (a : α) :
    valuesOf name ((key, a) :: members) = valuesOf name members := by
  simp [valuesOf, h]

theorem valuesOf_filter {p : Option String × α → Bool} (h : ∀ a, p (some name, a) = true) :
    valuesOf name (members.filter p) = valuesOf name members := by
  rw [valuesOf, valuesOf, List.filter_filter]
  congr 1
  refine List.filter_congr fun (key, a) _ => ?_
  by_cases hname : key = some name
  · subst hname
    rw [h, Bool.and_true]
  · simp [hname]

theorem valuesOf_perm {members' : List (Option String × α)} (h : members.Perm members') :
    (valuesOf name members).Perm (valuesOf name members') :=
  (h.filter _).map _

theorem forall_valuesOf {P : α → Prop} :
    (∀ a ∈ valuesOf name members, P a) ↔ ∀ member ∈ members, member.1 = some name → P member.2 := by
  simp only [valuesOf, List.forall_mem_map, List.mem_filter, beq_iff_eq, and_imp]

theorem length_valuesOf :
    (valuesOf name members).length = (members.map (·.1)).count (some name) := by
  rw [valuesOf, List.length_map, List.count, List.countP_map, List.countP_eq_length_filter]
  rfl

theorem valuesOf_ne_nil : valuesOf name members ≠ [] ↔ some name ∈ members.map (·.1) := by
  rw [← List.length_pos_iff, length_valuesOf, List.count_pos_iff]

theorem valuesOf_map {β : Type} (f : α → β) :
    valuesOf name (members.map fun (key, a) => (key, f a)) = (valuesOf name members).map f := by
  rw [valuesOf, valuesOf, List.filter_map, List.map_map, List.map_map]
  rfl

end Values

/-- What these hold for a field: the value that the only one of them is read as, or the default if
there is none. -/
def Given {α β : Type} (read : α → Option β) (absent : Option β) (as : List α) (b : β) : Prop :=
  as = [] ∧ absent = some b ∨ ∃ a, as = [a] ∧ read a = some b

section Given

variable {α β : Type} {read : α → Option β} {absent : Option β} {as : List α} {b : β}

theorem given_perm {as' : List α} (h : as.Perm as') :
    Given read absent as b ↔ Given read absent as' b := by
  simp only [Given, ← List.perm_nil, ← List.perm_singleton, h.congr_left]

theorem given_map {γ : Type} {f : γ → α} {cs : List γ} :
    Given read absent (cs.map f) b ↔ Given (read ∘ f) absent cs b := by
  match cs with
  | [] | [_] | _ :: _ :: _ => simp [Given]

/-- Something is given unless a field without default is missing, or there are two values for it,
or its value cannot be read. -/
theorem exists_given :
    (∃ b, Given read absent as b) ↔
      (absent = none → as ≠ []) ∧ as.length ≤ 1 ∧ ∀ a ∈ as, (read a).isSome = true := by
  match as with
  | [] => simp [Given, ← Option.isSome_iff_exists, Option.isSome_iff_ne_none]
  | [a] => simp [Given, Option.isSome_iff_exists]
  | _ :: _ :: _ => simp [Given]

end Given

/-- What a document is read as in this field, if it fits. -/
def Field.reads (f : Field) (d : Document) : Option f.Value := (f.decoder d).toOption

theorem Field.reads_eq_some {f : Field} {d : Document} {v : f.Value} :
    f.reads d = some v ↔ f.decoder d = .ok v :=
  Decoder.toOption_eq_some

namespace Record

/-- Each field has its value by the members of its name. -/
def Holds (members : List (Option String × Document)) : (fields : List Field) → Values fields → Prop
  | [], _ => True
  | f :: fs, (v, vs) =>
    Given f.reads f.absent (valuesOf f.name members) v ∧ Holds members fs vs

theorem exists_holds {members : List (Option String × Document)} {fields : List Field} :
    (∃ vs, Holds members fields vs) ↔
      ∀ f ∈ fields, ∃ v, Given f.reads f.absent (valuesOf f.name members) v := by
  induction fields with
  | nil => exact ⟨fun _ f hf => absurd hf List.not_mem_nil, fun _ => ⟨(), trivial⟩⟩
  | cons f fs ih =>
    rw [List.forall_mem_cons, ← ih]
    constructor
    · rintro ⟨⟨v, vs⟩, hv, hvs⟩
      exact ⟨⟨v, hv⟩, vs, hvs⟩
    · rintro ⟨⟨v, hv⟩, vs, hvs⟩
      exact ⟨(v, vs), hv, hvs⟩

theorem holds_perm {members members' : List (Option String × Document)} {fields : List Field}
    (h : ∀ f ∈ fields, (valuesOf f.name members).Perm (valuesOf f.name members'))
    {vs : Values fields} : Holds members fields vs ↔ Holds members' fields vs := by
  induction fields with
  | nil => rfl
  | cons f fs ih =>
    obtain ⟨v, vs⟩ := vs
    obtain ⟨hf, hfs⟩ := List.forall_mem_cons.mp h
    rw [Holds, Holds, given_perm hf, ih hfs]

/-- What a slot is filled with by these documents one after the other. -/
def Slots.Fills (f : Field) : Option f.Value → List Document → Option f.Value → Prop
  | slot, [], slot' => slot' = slot
  | none, [d], slot' => ∃ v, f.reads d = some v ∧ slot' = some v
  | _, _, _ => False

theorem Slots.fills_full {f : Field} {v : f.Value} {ds : List Document} {slot : Option f.Value} :
    Slots.Fills f (some v) ds slot ↔ ds = [] ∧ slot = some v := by
  cases ds <;> simp [Slots.Fills]

theorem Slots.fills_first {f : Field} {v : f.Value} {d : Document} (hd : f.reads d = some v)
    {ds : List Document} {slot : Option f.Value} :
    Slots.Fills f none (d :: ds) slot ↔ Slots.Fills f (some v) ds slot := by
  cases ds <;> simp [Slots.Fills, hd]

/-- The members of the first field fill its slot, and all the other members fill the others. -/
theorem Slots.putAll_iff {f : Field} {fs : List Field} {members : List (Option String × Document)} :
    ∀ {slot slot' : Option f.Value} {slots slots' : Slots fs},
      Slots.putAll (f :: fs) (slot, slots) members = .ok (slot', slots') ↔
        Slots.Fills f slot (valuesOf f.name members) slot' ∧
          Slots.putAll fs slots (members.filter (·.1 ≠ some f.name)) = .ok slots' := by
  induction members with
  | nil =>
    intro slot slot' slots slots'
    constructor
    · intro h
      cases h
      exact ⟨rfl, rfl⟩
    · rintro ⟨hslot, hslots⟩
      cases hslot
      cases hslots
      rfl
  | cons member members ih =>
    obtain ⟨key, d⟩ := member
    intro slot slot' slots slots'
    by_cases hkey : key = some f.name
    -- the member goes to the slot, which must be free; the other slots do not see it
    · subst hkey
      rw [valuesOf_cons_self, List.filter_cons_of_neg (by simp)]
      cases slot with
      | some v => simp [Slots.putAll, Document.key?, Slots.put, Slots.fills_full]
      | none =>
        cases hd : f.decoder d with
        | error e =>
          simp only [Slots.putAll, Document.key?, Slots.put, if_true, hd]
          cases valuesOf f.name members <;> simp [Slots.Fills, Field.reads_eq_some, hd]
        | ok v =>
          rw [Slots.fills_first (Field.reads_eq_some.mpr hd)]
          simp only [Slots.putAll, Document.key?, Slots.put, if_true, hd]
          exact ih
    -- the member goes past the slot, and is the first of those that the others see
    · rw [valuesOf_cons_other hkey, List.filter_cons_of_pos (by simpa using hkey)]
      cases key with
      | none => simp [Slots.putAll, Document.key?]
      | some key =>
        have hne : key ≠ f.name := fun h => hkey (congrArg some h)
        simp only [Slots.putAll, Document.key?, Slots.put, if_neg hne]
        cases Slots.put fs slots key d with
        | error e => simp
        | ok slots => exact ih

theorem Slots.putAll_nil {members : List (Option String × Document)} :
    ∀ {slots slots' : Slots []}, Slots.putAll [] slots members = .ok slots' ↔
      ∀ member ∈ members, member.1 ≠ none ∧ member.2.isWhole = true := by
  induction members with
  | nil => exact fun {slots slots'} => by simp [Slots.putAll]; rfl
  | cons member members ih =>
    obtain ⟨key, d⟩ := member
    intro slots slots'
    rw [List.forall_mem_cons]
    cases key with
    | none => simp [Slots.putAll, Document.key?]
    | some key =>
      cases hd : d.isWhole with
      | false => simp [Slots.putAll, Document.key?, Slots.put, hd]
      | true =>
        simp only [Slots.putAll, Document.key?, Slots.put, hd, if_true]
        rw [ih]
        simp

theorem Slots.complete_iff {f : Field} {fs : List Field} {slot : Option f.Value} {slots : Slots fs}
    {v : f.Value} {vs : Values fs} :
    Slots.complete (f :: fs) (slot, slots) = .ok (v, vs) ↔
      slot.or f.absent = some v ∧ Slots.complete fs slots = .ok vs := by
  rw [Slots.complete]
  cases slot.or f.absent with
  | none => simp
  | some w =>
    cases Slots.complete fs slots with
    | error e => simp
    | ok ws =>
      rw [Except.ok.injEq, Option.some.injEq]
      constructor
      · intro h
        cases h
        exact ⟨rfl, rfl⟩
      · rintro ⟨hv, hvs⟩
        rw [hv, hvs]

/-- What is given is what the empty slot is filled with, or else the default. -/
theorem given_iff_fills {f : Field} {ds : List Document} {v : f.Value} :
    Given f.reads f.absent ds v ↔
      ∃ slot, Slots.Fills f none ds slot ∧ slot.or f.absent = some v := by
  match ds with
  | [] => simp [Given, Slots.Fills]
  | [d] =>
    cases hd : f.reads d <;> simp [Given, Slots.Fills, hd]
  | _ :: _ :: _ => simp [Given, Slots.Fills]

theorem decodeMembers_iff_complete {fields : List Field}
    {members : List (Option String × Document)} {vs : Values fields} :
    decodeMembers fields members true = .ok vs ↔
      ∃ slots, Slots.putAll fields (Slots.empty fields) members = .ok slots ∧
        Slots.complete fields slots = .ok vs := by
  rw [decodeMembers]
  cases Slots.putAll fields (Slots.empty fields) members <;> simp

/-- The first field has its value by its own members, the other fields by the other members. -/
theorem decodeMembers_cons {f : Field} {fs : List Field} {members : List (Option String × Document)}
    {v : f.Value} {vs : Values fs} :
    decodeMembers (f :: fs) members true = .ok (v, vs) ↔
      Given f.reads f.absent (valuesOf f.name members) v ∧
        decodeMembers fs (members.filter (·.1 ≠ some f.name)) true = .ok vs := by
  rw [given_iff_fills]
  refine decodeMembers_iff_complete.trans ⟨?_, ?_⟩
  · rintro ⟨⟨slot, slots⟩, hput, hcomplete⟩
    obtain ⟨hfills, hput⟩ := Slots.putAll_iff.mp hput
    obtain ⟨hslot, hcomplete⟩ := Slots.complete_iff.mp hcomplete
    exact ⟨⟨slot, hfills, hslot⟩, decodeMembers_iff_complete.mpr ⟨slots, hput, hcomplete⟩⟩
  · rintro ⟨⟨slot, hfills, hslot⟩, hrest⟩
    obtain ⟨slots, hput, hcomplete⟩ := decodeMembers_iff_complete.mp hrest
    exact ⟨(slot, slots), Slots.putAll_iff.mpr ⟨hfills, hput⟩,
      Slots.complete_iff.mpr ⟨hslot, hcomplete⟩⟩

/-- Members are passed over if they name no field; each of them needs a name, and was read to its
end. -/
def Passed (fields : List Field) (members : List (Option String × Document)) : Prop :=
  ∀ member ∈ members, member.1 ≠ none ∧
    (member.1 ∉ fields.map (some ·.name) → member.2.isWhole = true)

theorem passed_filter {f : Field} {fs : List Field} {members : List (Option String × Document)} :
    Passed fs (members.filter (·.1 ≠ some f.name)) ↔ Passed (f :: fs) members := by
  simp only [Passed, List.mem_filter, List.map_cons, List.mem_cons, not_or, decide_eq_true_eq,
    and_imp]
  refine forall₂_congr fun member _ => ?_
  by_cases hname : member.1 = some f.name <;> simp [hname]

theorem holds_filter {f : Field} {members : List (Option String × Document)} {fs : List Field}
    (hnew : f.name ∉ fs.map Field.name) {vs : Values fs} :
    Holds (members.filter (·.1 ≠ some f.name)) fs vs ↔ Holds members fs vs := by
  induction fs with
  | nil => rfl
  | cons g fs ih =>
    rw [List.map_cons, List.mem_cons, not_or] at hnew
    obtain ⟨v, vs⟩ := vs
    rw [Holds, Holds, valuesOf_filter fun d => by simpa using Ne.symm hnew.1, ih hnew.2]

/-- The maps that are decoded as a record whose fields have different names, and the values. -/
theorem decodeMembers_iff {fields : List Field} (hdistinct : (fields.map Field.name).Nodup) :
    ∀ {members : List (Option String × Document)} {vs : Values fields},
      decodeMembers fields members true = .ok vs ↔
        Passed fields members ∧ Holds members fields vs := by
  induction fields with
  | nil =>
    intro members vs
    refine decodeMembers_iff_complete.trans ⟨?_, ?_⟩
    · rintro ⟨slots, hput, -⟩
      have hall := Slots.putAll_nil.mp hput
      exact ⟨fun member hmember => (hall member hmember).imp_right fun hwhole _ => hwhole, trivial⟩
    · rintro ⟨hpassed, -⟩
      have hall : ∀ member ∈ members, member.1 ≠ none ∧ member.2.isWhole = true :=
        fun member hmember =>
          (hpassed member hmember).imp_right fun hwhole => hwhole List.not_mem_nil
      exact ⟨(), Slots.putAll_nil.mpr hall, rfl⟩
  | cons f fs ih =>
    intro members (v, vs)
    obtain ⟨hnew, hdistinct⟩ := List.nodup_cons.mp hdistinct
    -- members of `f` are taken away before the others, none of which has this name
    rw [decodeMembers_cons, ih hdistinct, passed_filter, holds_filter hnew, Holds, and_left_comm]

end Record
end MeshTelemetry
