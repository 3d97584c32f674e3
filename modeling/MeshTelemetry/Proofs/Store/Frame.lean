import MeshTelemetry.Store

/-!
# MeshTelemetry.Proofs.Store.Frame

What the operations of a store change, and what they leave alone.

* `Store.node?_put`: only the location that something is put at; `Store.append_frame`: only the
  regular file that something is appended to.
* `Store.append_all`: appending where there is room for everything; `Store.append_short`: where
  there is room for one write and none for the next.
* `Store.AgreeOff`: two stores are the same away from some locations.
* `Store.Grown`: directories and empty files were added, and nothing else happened.
* `Store.makeParents_grown`, `Store.openAppend_grown`: opening a file to append to it.
-/

namespace MeshTelemetry
namespace Store

theorem node?_put {s : Store} {loc : Location} (hloc : loc ≠ []) (node : Node)
    (other : Location) :
    (s.put loc node).node? other = if other = loc then some node else s.node? other := by
  simp only [node?, put, Pairs.lookup_assign]
  by_cases h : other = []
  · rw [if_pos h, if_pos h, if_neg (by rw [h]; exact Ne.symm hloc)]
  · rw [if_neg h, if_neg h]

theorem file_ne_root {s : Store} {loc : Location} {c : Content}
    (h : s.node? loc = some (.file c)) : loc ≠ [] := by
  rintro rfl
  cases h

theorem append_file {s : Store} {loc : Location} {c : Content}
    (h : s.node? loc = some (.file c)) (bytes : Bytes) :
    s.append loc bytes = (s.shortages.answer bytes,
      { s.put loc (.file (c.append (s.shortages.taken bytes))) with
        shortages := s.shortages.tail }) := by
  rw [append, h]

theorem append_all {s : Store} {loc : Location} {c : Content} (hroom : s.shortages = [])
    (h : s.node? loc = some (.file c)) (bytes : Bytes) :
    s.append loc bytes = (.ok (), s.put loc (.file (c.append bytes))) := by
  obtain ⟨home, nodes, shortages⟩ := s
  cases hroom
  exact append_file h bytes

/-- One write has room for its bytes, and the next one has none. -/
theorem append_short {s : Store} {loc : Location} {c : Content} {room : Nat} {rest : Shortages}
    (hnode : s.node? loc = some (.file c))
    (hshort : s.shortages = room :: 0 :: rest) {bytes more : Bytes} (hroom : bytes.length ≤ room)
    (hmore : more ≠ []) :
    ∃ s1 s2, s.append loc bytes = (.ok (), s1) ∧
      s1.append loc more = (.error (.noSpace, 0), s2) := by
  have hanswer : s.shortages.answer bytes = .ok () := by
    rw [hshort]
    exact if_pos hroom
  obtain ⟨s1, hs1⟩ : ∃ s1 : Store, s1 =
      { s.put loc (.file (c.append (s.shortages.taken bytes))) with
        shortages := s.shortages.tail } := ⟨_, rfl⟩
  have hnode1 : s1.node? loc = some (.file (c.append (s.shortages.taken bytes))) := by
    rw [hs1]
    exact (node?_put (file_ne_root hnode) _ loc).trans (if_pos rfl)
  have hrefused : s1.shortages.answer more = .error (.noSpace, 0) := by
    rw [hs1, hshort]
    exact if_neg fun hle => hmore (List.eq_nil_of_length_eq_zero (Nat.le_zero.mp hle))
  refine ⟨s1, (s1.append loc more).2, ?_, ?_⟩
  · rw [append_file hnode, hanswer, hs1]
  · rw [append_file hnode1, hrefused]

theorem content_file {s : Store} {loc : Location} {c : Content}
    (h : s.node? loc = some (.file c)) : s.content loc = .ok c.bytes := by
  rw [content, h]

/-- Appending changes no file but one that is written to, and nothing else that stands anywhere. -/
theorem append_frame {s : Store} {loc other : Location} (bytes : Bytes)
    (hother : ∀ c, s.node? other = some (.file c) → loc ≠ other) :
    (s.append loc bytes).2.node? other = s.node? other := by
  rw [append]
  split
  · next c hfile =>
    have hne : other ≠ loc := by
      rintro rfl
      exact hother c hfile rfl
    have hput := node?_put (s := s) (file_ne_root hfile)
      (.file (c.append (s.shortages.taken bytes))) other
    rwa [if_neg hne] at hput
  all_goals rfl

theorem append_shortages {s : Store} (hroom : s.shortages = []) (loc : Location) (bytes : Bytes) :
    (s.append loc bytes).2.shortages = [] := by
  rw [append]
  split
  · exact congrArg List.tail hroom
  all_goals exact hroom

/-- Two stores have the same nodes, except perhaps at some locations. -/
def AgreeOff (locs : List Location) (s s' : Store) : Prop :=
  ∀ loc, loc ∉ locs → s'.node? loc = s.node? loc

theorem AgreeOff.cons {loc : Location} {locs : List Location} {s s1 s2 : Store}
    (h : AgreeOff [loc] s s1) (h' : AgreeOff locs s1 s2) : AgreeOff (loc :: locs) s s2 := by
  intro other hother
  simp only [List.mem_cons, not_or] at hother
  rw [h' other hother.2]
  exact h other (by simpa using hother.1)

/-- Something may have been added, but only directories and empty files, and nothing was written. -/
structure Grown (s s' : Store) : Prop where
  node : ∀ loc, s'.node? loc = s.node? loc ∨
    s.node? loc = none ∧
      (s'.node? loc = some .directory ∨ s'.node? loc = some (.file .empty))
  shortages : s'.shortages = s.shortages

theorem Grown.refl (s : Store) : Grown s s := ⟨fun _ => .inl rfl, rfl⟩

theorem Grown.trans {s s' s'' : Store} (h : Grown s s') (h' : Grown s' s'') : Grown s s'' where
  node loc := by
    rcases h.node loc with heq | ⟨hnone, hnew⟩
    · rcases h'.node loc with heq' | ⟨hnone', hnew'⟩
      · exact .inl (heq'.trans heq)
      · exact .inr ⟨heq.symm.trans hnone', hnew'⟩
    · rcases h'.node loc with heq' | ⟨hnone', -⟩
      · exact .inr ⟨hnone, by rwa [heq']⟩
      · rcases hnew with hnew | hnew <;> rw [hnew] at hnone' <;> cases hnone'
  shortages := h'.shortages.trans h.shortages

theorem grown_put {s : Store} {loc : Location} {node : Node} (h : s.node? loc = none)
    (hnode : node = .directory ∨ node = .file .empty) : Grown s (s.put loc node) := by
  have hloc : loc ≠ [] := by
    rintro rfl
    cases h
  refine ⟨fun other => ?_, rfl⟩
  rw [node?_put hloc]
  by_cases heq : other = loc
  · rw [if_pos heq, heq]
    rcases hnode with rfl | rfl
    · exact .inr ⟨h, .inl rfl⟩
    · exact .inr ⟨h, .inr rfl⟩
  · rw [if_neg heq]
    exact .inl rfl

theorem Grown.content {s s' : Store} (h : Grown s s') {loc : Location} {c : Content}
    (hfile : s'.node? loc = some (.file c)) : s.content loc = .ok c.bytes := by
  rcases h.node loc with heq | ⟨hnone, hnew | hnew⟩
  · rw [heq] at hfile
    exact content_file hfile
  · rw [hnew] at hfile
    cases hfile
  · rw [hnew] at hfile
    cases hfile
    rw [Store.content, hnone]
    rfl

theorem Grown.content_ok {s s' : Store} (h : Grown s s') {loc : Location} {bytes : Bytes}
    (hok : s'.content loc = .ok bytes) : s.content loc = .ok bytes := by
  rcases h.node loc with heq | ⟨hnone, hnew | hnew⟩
  · rwa [Store.content, ← heq]
  · rw [Store.content, hnew] at hok
    cases hok
  · rw [content_file hnew] at hok
    rw [Store.content, hnone]
    exact hok

theorem createDir_grown {s s' : Store} {path : String} (h : s.createDir path = .ok s') :
    Grown s s' := by
  unfold createDir at h
  split at h
  · cases h
  · cases h
  · split at h
    · next hnone =>
      cases h
      exact grown_put hnone (.inl rfl)
    · cases h

/-- Directories may have been added also if one of them cannot be created. -/
theorem makeDirs_grown (fuel : Nat) :
    ∀ (s : Store) (path : String), Grown s (makeDirs fuel s path).2 := by
  induction fuel with
  | zero => exact fun s _ => .refl s
  | succ fuel ih =>
    intro s path
    unfold makeDirs
    split
    · exact .refl s
    · split
      · next hdir => exact createDir_grown hdir
      · split
        · exact .refl s
        · next up _ =>
          have hgrown := ih s up
          split
          · next hup => rwa [hup] at hgrown
          · next hup =>
            rw [hup] at hgrown
            split
            · next hdir => exact hgrown.trans (createDir_grown hdir)
            · exact hgrown
      · exact .refl s

theorem makeParents_grown (s : Store) (path : String) : Grown s (s.makeParents path).2 := by
  unfold makeParents
  split
  · exact .refl s
  · exact makeDirs_grown _ _ _

theorem openAppend_grown {s s' : Store} {path : String} {loc : Location}
    (h : s.openAppend path = .ok (loc, s')) : Grown s s' := by
  unfold openAppend at h
  split at h
  · cases h
  · cases h
  · split at h
    · cases h
    · split at h
      · next hnone =>
        cases h
        exact grown_put hnone (.inr rfl)
      · cases h
      · cases h
        exact .refl s

end Store
end MeshTelemetry
