import MeshTelemetry.Host
import MeshTelemetry.Proofs.Store.Frame

/-!
# MeshTelemetry.Proofs.Store.Alike

Two stores that differ in what one file holds. Paths lead to the same places in both, so that what
is opened, created or written to in one of them can be in the other, and they stay alike.

* `Store.Alike`: two such stores; `Store.Alike.locate`, `Store.Alike.openRead`: where paths lead.
* `Store.Alike.makeParents`, `Store.Alike.openAppend`, `Store.Alike.append`: what is done to both.
-/

namespace MeshTelemetry

/-- The file in which two stores differ, with what it holds in the one and in the other; or they do
not differ. -/
abbrev Difference := Option (Location × Content × Content)

/-- The same answer twice: equal errors, or values that are related. -/
def Except.Both {ε α : Type} (rel : α → α → Prop) : Except ε α → Except ε α → Prop
  | .error e, .error e' => e' = e
  | .ok a, .ok a' => rel a a'
  | _, _ => False

theorem Except.Both.cases {ε α : Type} {rel : α → α → Prop} {x x' : Except ε α}
    (h : Except.Both rel x x') :
    (∃ e, x = .error e ∧ x' = .error e) ∨ ∃ a a', x = .ok a ∧ x' = .ok a' ∧ rel a a' := by
  cases x with
  | error e =>
    cases x' with
    | error e' =>
      cases h
      exact .inl ⟨e, rfl, rfl⟩
    | ok a' => exact h.elim
  | ok a =>
    cases x' with
    | error e' => exact h.elim
    | ok a' => exact .inr ⟨a, a', rfl, rfl, h⟩

namespace Store

/-- The stores hold the same, except for the file in which they differ. -/
structure Alike (d : Difference) (s s' : Store) : Prop where
  home : s'.home = s.home
  shortages : s'.shortages = s.shortages
  off : ∀ loc, (∀ c c', d ≠ some (loc, c, c')) → s'.node? loc = s.node? loc
  here : ∀ loc c c', d = some (loc, c, c') →
    s.node? loc = some (.file c) ∧ s'.node? loc = some (.file c')

namespace Alike

variable {d : Difference} {s s' : Store}

theorem node? (h : Alike d s s') (loc : Location) : s'.node? loc = s.node? loc ∨
    ∃ c c', d = some (loc, c, c') ∧ s.node? loc = some (.file c) ∧
      s'.node? loc = some (.file c') := by
  by_cases hd : ∃ c c', d = some (loc, c, c')
  · obtain ⟨c, c', hd⟩ := hd
    exact .inr ⟨c, c', hd, h.here loc c c' hd⟩
  · exact .inl (h.off loc fun c c' heq => hd ⟨c, c', heq⟩)

theorem put (h : Alike d s s') {loc : Location} (hloc : loc ≠ [])
    (hoff : ∀ c c', d ≠ some (loc, c, c')) (node : Node) :
    Alike d (s.put loc node) (s'.put loc node) where
  home := h.home
  shortages := h.shortages
  off other hother := by
    rw [node?_put hloc, node?_put hloc, h.off other hother]
  here other c c' hd := by
    have hne : other ≠ loc := by
      rintro rfl
      exact hoff c c' hd
    rw [node?_put hloc, node?_put hloc, if_neg hne, if_neg hne]
    exact h.here other c c' hd

theorem enter (h : Alike d s s') (loc : Location) (part : String) :
    s'.enter loc part = s.enter loc part := by
  simp only [Store.enter]
  rcases h.node? (loc ++ [part]) with heq | ⟨c, c', -, hc, hc'⟩
  · rw [heq]
  · simp only [hc, hc']

theorem walk (h : Alike d s s') (slash : Bool) (parts : List String) :
    ∀ loc, s'.walk slash loc parts = s.walk slash loc parts := by
  induction parts with
  | nil => exact fun _ => rfl
  | cons part rest ih =>
    intro loc
    cases rest with
    | nil => simp only [Store.walk, h.enter]
    | cons next rest => simp only [Store.walk, h.enter, ih]

theorem locate (h : Alike d s s') (path : String) : s'.locate path = s.locate path := by
  simp only [Store.locate, h.home, h.walk]

theorem find (h : Alike d s s') (path : String) : s'.find path = s.find path ∨
    ∃ loc c c', d = some (loc, c, c') ∧ s.find path = .ok (loc, .file c) ∧
      s'.find path = .ok (loc, .file c') := by
  simp only [Store.find, h.locate]
  rcases s.locate path with e | ⟨loc, last⟩
  · exact .inl rfl
  · cases last with
    | dots => exact .inl rfl
    | named name slash =>
      simp only
      rcases h.node? (loc ++ [name]) with heq | ⟨c, c', hd, hc, hc'⟩
      · rw [heq]
        exact .inl rfl
      · simp only [hc, hc']
        cases slash with
        | true => exact .inl rfl
        | false => exact .inr ⟨_, c, c', hd, rfl, rfl⟩

theorem openRead (h : Alike d s s') (path : String) : s'.openRead path = s.openRead path := by
  rw [Store.openRead, Store.openRead]
  rcases h.find path with heq | ⟨loc, c, c', -, hc, hc'⟩
  · rw [heq]
  · rw [hc, hc']
    rfl

theorem isDirectory (h : Alike d s s') (path : String) :
    s'.isDirectory path = s.isDirectory path := by
  rw [Store.isDirectory, Store.isDirectory]
  rcases h.find path with heq | ⟨loc, c, c', -, hc, hc'⟩
  · rw [heq]
  · rw [hc, hc']

theorem off_none (h : Alike d s s') {loc : Location} (hnone : s.node? loc = none) :
    ∀ c c', d ≠ some (loc, c, c') := by
  intro c c' hd
  rw [(h.here loc c c' hd).1] at hnone
  cases hnone

theorem ne_root {loc : Location} (hnone : s.node? loc = none) : loc ≠ [] := by
  rintro rfl
  cases hnone

theorem createDir (h : Alike d s s') (path : String) :
    Except.Both (Alike d) (s.createDir path) (s'.createDir path) := by
  simp only [Store.createDir, h.locate]
  rcases s.locate path with e | ⟨loc, last⟩
  · rfl
  · cases last with
    | dots => rfl
    | named name slash =>
      simp only
      rcases h.node? (loc ++ [name]) with heq | ⟨c, c', hd, hc, hc'⟩
      · rw [heq]
        cases hn : s.node? (loc ++ [name]) with
        | none => exact h.put (ne_root hn) (h.off_none hn) .directory
        | some node => rfl
      · simp only [hc, hc']
        rfl

theorem makeDirs (fuel : Nat) : ∀ {s s' : Store}, Alike d s s' → ∀ path,
    ∃ answer s1 s1', Store.makeDirs fuel s path = (answer, s1) ∧
      Store.makeDirs fuel s' path = (answer, s1') ∧ Alike d s1 s1' := by
  induction fuel with
  | zero => exact fun {s s'} h _ => ⟨_, s, s', rfl, rfl, h⟩
  | succ fuel ih =>
    intro s s' h path
    -- a directory that could not be created may be there already, in both stores or in neither
    have hthere : ∀ {s s' : Store} (e : IoFault), Alike d s s' → ∃ answer s1 s1',
        ((if s.isDirectory path then .ok () else .error e, s) : Except IoFault Unit × Store) =
          (answer, s1) ∧
        ((if s'.isDirectory path then .ok () else .error e, s') : Except IoFault Unit × Store) =
          (answer, s1') ∧ Alike d s1 s1' :=
      fun {s s'} _ h => ⟨_, s, s', rfl, by rw [h.isDirectory], h⟩
    rw [Store.makeDirs, Store.makeDirs]
    split
    · exact ⟨_, s, s', rfl, rfl, h⟩
    · rcases (h.createDir path).cases with ⟨e, he, he'⟩ | ⟨s1, s1', hs, hs', h1⟩
      · rw [he, he']
        by_cases hmissing : e = .notFound
        · subst hmissing
          cases Path.parent? path with
          | none => exact ⟨_, s, s', rfl, rfl, h⟩
          | some up =>
            obtain ⟨answer, s1, s1', hup, hup', h1⟩ := ih h up
            simp only [hup, hup']
            cases answer with
            | error e => exact ⟨_, s1, s1', rfl, rfl, h1⟩
            | ok u =>
              rcases (h1.createDir path).cases with ⟨e, he, he'⟩ | ⟨s2, s2', hs2, hs2', h2⟩
              · simp only [he, he']
                exact hthere e h1
              · simp only [hs2, hs2']
                exact ⟨_, s2, s2', rfl, rfl, h2⟩
        · cases e with
          | notFound => exact absurd rfl hmissing
          | _ => exact hthere _ h
      · rw [hs, hs']
        exact ⟨_, s1, s1', rfl, rfl, h1⟩

theorem makeParents (h : Alike d s s') (path : String) :
    ∃ answer s1 s1', s.makeParents path = (answer, s1) ∧
      s'.makeParents path = (answer, s1') ∧ Alike d s1 s1' := by
  rw [Store.makeParents, Store.makeParents]
  cases Path.parent? path with
  | none => exact ⟨_, s, s', rfl, rfl, h⟩
  | some up => exact makeDirs _ h up

theorem openAppend (h : Alike d s s') (path : String) :
    Except.Both (fun a a' => a'.1 = a.1 ∧ Alike d a.2 a'.2) (s.openAppend path)
      (s'.openAppend path) := by
  simp only [Store.openAppend, h.locate]
  rcases s.locate path with e | ⟨loc, last⟩
  · rfl
  · cases last with
    | dots => rfl
    | named name slash =>
      cases slash with
      | true => rfl
      | false =>
        simp only [Bool.false_eq_true, if_false]
        rcases h.node? (loc ++ [name]) with heq | ⟨c, c', hd, hc, hc'⟩
        · rw [heq]
          cases hn : s.node? (loc ++ [name]) with
          | none => exact ⟨rfl, h.put (ne_root hn) (h.off_none hn) (.file .empty)⟩
          | some node =>
            cases node with
            | directory => rfl
            | _ => exact ⟨rfl, h⟩
        · simp only [hc, hc']
          exact ⟨rfl, h⟩

theorem append (h : Alike d s s') {loc : Location} (hoff : ∀ c c', d ≠ some (loc, c, c'))
    (bytes : Bytes) : (s'.append loc bytes).1 = (s.append loc bytes).1 ∧
      Alike d (s.append loc bytes).2 (s'.append loc bytes).2 := by
  rw [Store.append, Store.append, h.off loc hoff, h.shortages]
  cases hn : s.node? loc with
  | none => exact ⟨rfl, h⟩
  | some node =>
    cases node with
    | file c =>
      have hput := h.put (file_ne_root hn) hoff (.file (c.append (s.shortages.taken bytes)))
      exact ⟨rfl, hput.home, rfl, hput.off, hput.here⟩
    | directory => exact ⟨rfl, h⟩
    | nullDevice => exact ⟨rfl, h⟩
    | fullDevice => exact ⟨rfl, h⟩

end Alike
end Store

/-- The hosts differ in what one file holds, and in what they have logged that does not matter. -/
structure Host.Alike (matters : Event → Bool) (d : Difference) (h h' : Host) : Prop where
  store : Store.Alike d h.store h'.store
  meters : h'.meters = h.meters
  events : h'.events.filter matters = h.events.filter matters

end MeshTelemetry
