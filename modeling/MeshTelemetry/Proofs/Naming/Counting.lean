import MeshTelemetry.Proofs.Naming

/-!
# MeshTelemetry.Proofs.Naming.Counting

How many rules there are, and which services have a group.

* `Naming.add_services`: a rule gives its service a group; `Naming.add_counts`: it counts once.
* `Naming.ofServices_counts`: each rule counts once, each service with rules has one group.
-/

namespace MeshTelemetry
namespace Naming

/-- The services that have a group, in the order in which they got it. -/
def services (n : Naming) : List String := n.groups.map (·.1)

theorem map_fst_assign (service : String) (group : RuleGroup)
    (groups : List (String × RuleGroup)) :
    (Pairs.assign service group groups).map (·.1) =
      if service ∈ groups.map (·.1) then groups.map (·.1) else groups.map (·.1) ++ [service] := by
  induction groups with
  | nil => rfl
  | cons pair groups ih =>
    obtain ⟨k, v⟩ := pair
    by_cases hk : k = service
    · simp [Pairs.assign, hk]
    · simp only [Pairs.assign, if_neg hk, List.map_cons, ih, List.mem_cons, Ne.symm hk, false_or]
      split <;> rfl

theorem ruleCount_assign (service : String) (more : RuleGroup) (n : Naming) :
    ruleCount ⟨Pairs.assign service (n.groupOf service ++ more) n.groups⟩ =
      n.ruleCount + more.length := by
  obtain ⟨groups⟩ := n
  simp only [ruleCount, groupOf]
  induction groups with
  | nil => simp [Pairs.assign]
  | cons pair groups ih =>
    obtain ⟨k, v⟩ := pair
    by_cases hk : k = service
    · subst hk
      simp [Pairs.assign]
      omega
    · have hne : (service == k) = false := by simpa using Ne.symm hk
      rw [List.lookup_cons, hne, Pairs.assign, if_neg hk, List.flatMap_cons, List.length_append, ih,
        List.flatMap_cons, List.length_append, Nat.add_assoc]

theorem add_services (n : Naming) (service name pattern : String) :
    (n.add service name pattern).2.services =
      if service ∈ n.services then n.services else n.services ++ [service] := by
  unfold add
  cases (n.groupOf service).add name pattern <;> exact map_fst_assign service _ n.groups

theorem add_serviceCount (n : Naming) (service name pattern : String) :
    (n.add service name pattern).2.serviceCount =
      n.serviceCount + if service ∈ n.services then 0 else 1 := by
  have hcount : ∀ n : Naming, n.services.length = n.serviceCount := fun n => List.length_map _
  rw [← hcount, ← hcount, add_services]
  split
  · rfl
  · rw [List.length_append, List.length_singleton]

theorem add_counts {n n' : Naming} {service name pattern : String}
    (h : n.add service name pattern = (.ok (), n')) :
    n'.ruleCount = n.ruleCount + 1 ∧ n'.services =
      if service ∈ n.services then n.services else n.services ++ [service] := by
  have hservices := add_services n service name pattern
  rw [h] at hservices
  refine ⟨?_, hservices⟩
  unfold add RuleGroup.add at h
  cases hregex : Regex.compileFullMatch pattern with
  | error e => simp [hregex] at h
  | ok regex =>
    simp only [hregex, Prod.mk.injEq, true_and] at h
    subst h
    exact ruleCount_assign service _ n

/-- The rules of a service make one group, unless there are none. -/
theorem addRules_counts {service : String} {rules : List NamingRule} : ∀ {n n' : Naming},
    addRules service rules n = .ok n' →
      n'.ruleCount = n.ruleCount + rules.length ∧ n'.services =
        if service ∈ n.services ∨ rules = [] then n.services else n.services ++ [service] := by
  induction rules with
  | nil =>
    intro n n' h
    cases h
    simp
  | cons rule rules ih =>
    intro n n' h
    unfold addRules at h
    split at h
    · cases h
    · next n1 hadd =>
      obtain ⟨hcount, hservices⟩ := add_counts hadd
      obtain ⟨hcount', hservices'⟩ := ih h
      refine ⟨by rw [hcount', hcount, List.length_cons]; omega, ?_⟩
      have hmem : service ∈ n1.services := by
        rw [hservices]
        split <;> simp [*]
      rw [hservices', if_pos (.inl hmem), hservices]
      simp

theorem addServices_counts {list : List ServiceRules} : ∀ {n n' : Naming},
    addServices list n = .ok n' → (list.map (·.service)).Nodup →
      (∀ s ∈ list, s.service ∉ n.services) →
        n'.ruleCount = n.ruleCount + Config.ruleCount list ∧
          n'.services = n.services ++ (list.filter (!·.rules.isEmpty)).map (·.service) := by
  induction list with
  | nil =>
    intro n n' h _ _
    cases h
    simp [Config.ruleCount]
  | cons s list ih =>
    intro n n' h hdistinct hnew
    unfold addServices at h
    split at h
    · cases h
    · next n1 hrules =>
      rw [List.map_cons, List.nodup_cons] at hdistinct
      rw [List.forall_mem_cons] at hnew
      obtain ⟨hcount, hservices⟩ := addRules_counts hrules
      have hnew1 : ∀ s' ∈ list, s'.service ∉ n1.services := by
        intro s' hs' hmem
        have hne : s'.service ≠ s.service := fun heq =>
          hdistinct.1 (heq ▸ List.mem_map_of_mem hs')
        rw [hservices] at hmem
        split at hmem
        · exact hnew.2 s' hs' hmem
        · rcases List.mem_append.mp hmem with hmem | hmem
          · exact hnew.2 s' hs' hmem
          · exact hne (List.mem_singleton.mp hmem)
      obtain ⟨hcount', hservices'⟩ := ih h hdistinct.2 hnew1
      constructor
      · rw [hcount', hcount, Config.ruleCount, Config.ruleCount, List.flatMap_cons,
          List.length_append]
        omega
      · rw [hservices', hservices]
        cases hrules : s.rules with
        | nil => simp [hrules]
        | cons rule rules => simp [hrules, hnew.1]

theorem ofServices_counts {list : List ServiceRules} {n : Naming} (h : ofServices list = .ok n)
    (hdistinct : (list.map (·.service)).Nodup) :
    n.ruleCount = Config.ruleCount list ∧
      n.serviceCount = (list.filter (!·.rules.isEmpty)).length := by
  obtain ⟨hcount, hservices⟩ := addServices_counts h hdistinct (by simp [services, empty])
  refine ⟨by rw [hcount]; simp [ruleCount, empty], ?_⟩
  have hlength := congrArg List.length hservices
  simpa [services, serviceCount, empty] using hlength

end Naming

end MeshTelemetry
