import MeshTelemetry.Proofs.Naming.Counting

/-!
# MeshTelemetry.Proofs.Naming.Adding

Rules that are added one after the other, to any services in any order. Some of them may not
compile. Each service has a group of its own, and still its rules are tried in the order in which
they were added, whatever was added to other services in between.

* `Naming.addAll`: adds rules, and tells which of them were added; `Naming.addAll_added`.
* `Naming.Grown`: what added rules change; `Naming.add_grown`, `Naming.addAll_grown`.
* `Naming.ofServices_eq`: the rules of a configuration are added up to the first that fails.
* `Naming.ofServices_done`: if all compile, they give the names that the configuration tells.
* `Naming.add_rejected`: what a rule that is not added leaves behind.
-/

namespace MeshTelemetry

namespace NamingRule

open Config

/-- What the rule adds to a group. -/
def compiled (r : NamingRule) : RuleGroup :=
  match Regex.compileFullMatch r.pattern with
  | .ok regex => [⟨r.name, regex⟩]
  | .error _ => []

theorem compiles_iff {r : NamingRule} : r.Compiles ↔ r.compiled ≠ [] := by
  unfold Compiles compiled
  cases Regex.compileFullMatch r.pattern <;> simp

theorem compiled_eq_nil {r : NamingRule} (h : ¬ r.Compiles) : r.compiled = [] :=
  not_not.mp (compiles_iff.not.mp h)

instance (r : NamingRule) : Decidable r.Compiles := decidable_of_iff _ compiles_iff.symm

theorem compiled_length (r : NamingRule) : r.compiled.length = if r.Compiles then 1 else 0 := by
  simp only [compiles_iff]
  unfold compiled
  cases Regex.compileFullMatch r.pattern <;> rfl

theorem rename?_compiled (r : NamingRule) (endpoint : String) :
    RuleGroup.rename? r.compiled endpoint = firstName? [r] endpoint := by
  simp only [compiled, firstName?, List.find?_cons, List.find?_nil, applies]
  cases Regex.compileFullMatch r.pattern with
  | error e => rfl
  | ok regex =>
    simp only [RuleGroup.rename?]
    cases regex.isMatch endpoint <;> rfl

end NamingRule

/-- A rule that is to be added to those of a service. -/
structure Addition where
  service : String
  rule : NamingRule
  deriving DecidableEq, Repr

namespace Addition

/-- The rules of one service in a list. -/
def rulesOf (additions : List Addition) (service : String) : List NamingRule :=
  (additions.filter (·.service = service)).map (·.rule)

theorem rulesOf_append (additions more : List Addition) (service : String) :
    rulesOf (additions ++ more) service = rulesOf additions service ++ rulesOf more service := by
  rw [rulesOf, List.filter_append, List.map_append]
  rfl

theorem rulesOf_of_service {service : String} (rules : List NamingRule) (other : String) :
    rulesOf (rules.map (⟨service, ·⟩)) other = if service = other then rules else [] := by
  rw [rulesOf, List.filter_map, List.map_map]
  by_cases h : service = other
  · simp [h, Function.comp_def]
  · simp [h, Function.comp_def]

theorem rulesOf_singleton (a : Addition) (service : String) :
    rulesOf [a] service = if a.service = service then [a.rule] else [] :=
  rulesOf_of_service [a.rule] service

/-- What a configuration is blamed for if it has the rule. -/
def violation? (a : Addition) : Option Violation :=
  match Regex.compileFullMatch a.rule.pattern with
  | .error e => some (.uncompiledPattern a.service a.rule.name e)
  | .ok _ => none

theorem violation?_eq_none {a : Addition} : a.violation? = none ↔ a.rule.Compiles := by
  unfold violation? NamingRule.Compiles
  cases Regex.compileFullMatch a.rule.pattern <;> simp

end Addition

namespace Config

/-- The rules of a configuration, one by one. -/
def additions (services : List ServiceRules) : List Addition :=
  services.flatMap fun s => s.rules.map (⟨s.service, ·⟩)

theorem rulesOf_additions (services : List ServiceRules) (service : String) :
    Addition.rulesOf (additions services) service = rulesOf services service := by
  induction services with
  | nil => rfl
  | cons s services ih =>
    rw [additions, List.flatMap_cons, Addition.rulesOf_append, Addition.rulesOf_of_service,
      rulesOf, List.filter_cons]
    by_cases h : s.service = service
    · rw [if_pos h, if_pos (decide_eq_true h), List.flatMap_cons]
      exact congrArg (s.rules ++ ·) ih
    · rw [if_neg h, if_neg (by simpa using h)]
      exact ih

theorem compiles_additions {services : List ServiceRules}
    (hc : ∀ s ∈ services, ∀ r ∈ s.rules, r.Compiles) :
    ∀ a ∈ additions services, a.rule.Compiles := by
  intro a ha
  obtain ⟨s, hs, ha⟩ := List.mem_flatMap.mp ha
  obtain ⟨r, hr, rfl⟩ := List.mem_map.mp ha
  exact hc s hs r hr

end Config

namespace Naming

open Config

/-- Adds rules in order, also behind one that cannot be added, and returns those that were added. -/
def addAll : List Addition → Naming → List Addition × Naming
  | [], n => ([], n)
  | a :: rest, n =>
    match n.add a.service a.rule.name a.rule.pattern with
    | (.error _, n) => addAll rest n
    | (.ok (), n) =>
      match addAll rest n with
      | (added, n) => (a :: added, n)

/-- These rules have been added, and are tried after those that were there. -/
structure Grown (n : Naming) (added : List Addition) (n' : Naming) : Prop where
  rules : n'.ruleCount = n.ruleCount + added.length
  names : ∀ service endpoint, n'.rename? service endpoint =
    (n.rename? service endpoint).or (firstName? (Addition.rulesOf added service) endpoint)

theorem Grown.refl (n : Naming) : n.Grown [] n := ⟨rfl, fun _ _ => Option.or_none.symm⟩

theorem Grown.trans {n n' n'' : Naming} {added more : List Addition} (hfirst : n.Grown added n')
    (hsecond : n'.Grown more n'') : n.Grown (added ++ more) n'' := by
  refine ⟨?_, fun service endpoint => ?_⟩
  · rw [hsecond.rules, hfirst.rules, List.length_append, Nat.add_assoc]
  · rw [hsecond.names, hfirst.names, Option.or_assoc, Addition.rulesOf_append, firstName?_append]

section Step

theorem add_ok_iff (n : Naming) (a : Addition) :
    (n.add a.service a.rule.name a.rule.pattern).1 = .ok () ↔ a.rule.Compiles := by
  unfold add RuleGroup.add NamingRule.Compiles
  cases Regex.compileFullMatch a.rule.pattern <;> simp

/-- Whether it succeeds or not, the service has a group from then on. -/
theorem add_eq (n : Naming) (a : Addition) :
    (n.add a.service a.rule.name a.rule.pattern).2 =
      ⟨Pairs.assign a.service (n.groupOf a.service ++ a.rule.compiled) n.groups⟩ := by
  unfold add RuleGroup.add NamingRule.compiled
  cases Regex.compileFullMatch a.rule.pattern with
  | error e => rw [List.append_nil]
  | ok regex => rfl

theorem add_grown (n : Naming) (a : Addition) :
    n.Grown (if a.rule.Compiles then [a] else [])
      (n.add a.service a.rule.name a.rule.pattern).2 := by
  rw [add_eq]
  refine ⟨?_, fun service endpoint => ?_⟩
  · rw [ruleCount_assign, NamingRule.compiled_length]
    split <;> rfl
  · -- What did not compile gives no name either.
    have hrules : firstName? (Addition.rulesOf (if a.rule.Compiles then [a] else []) service)
        endpoint = if a.service = service then a.rule.compiled.rename? endpoint else none := by
      by_cases hc : a.rule.Compiles
      · rw [if_pos hc, NamingRule.rename?_compiled, Addition.rulesOf_singleton]
        split <;> rfl
      · rw [if_neg hc, NamingRule.compiled_eq_nil hc]
        exact (ite_self none).symm
    rw [hrules, rename?, groupOf_assign]
    by_cases h : a.service = service
    · rw [if_pos h, if_pos h.symm, RuleGroup.rename?_append, h, rename?]
    · rw [if_neg h, if_neg (Ne.symm h), Option.or_none, rename?]

theorem add_self {n : Naming} {a : Addition} (hc : ¬ a.rule.Compiles)
    (hservice : a.service ∈ n.services) :
    (n.add a.service a.rule.name a.rule.pattern).2 = n := by
  obtain ⟨⟨key, group⟩, hgroup, hkey⟩ := List.mem_map.mp hservice
  have hfound : (n.groups.lookup a.service).isSome = true :=
    List.lookup_isSome_iff.mpr ⟨(key, group), hgroup, beq_iff_eq.mpr hkey.symm⟩
  obtain ⟨found, hfound⟩ := Option.isSome_iff_exists.mp hfound
  rw [add_eq, NamingRule.compiled_eq_nil hc, List.append_nil, groupOf, hfound]
  exact congrArg Naming.mk (Pairs.assign_self hfound)

end Step

section Run

theorem addAll_cons (a : Addition) (rest : List Addition) (n : Naming) :
    let n' := (n.add a.service a.rule.name a.rule.pattern).2
    addAll (a :: rest) n =
      ((if a.rule.Compiles then [a] else []) ++ (addAll rest n').1, (addAll rest n').2) := by
  intro n'
  have hanswer := add_ok_iff n a
  rw [addAll]
  rcases hadd : n.add a.service a.rule.name a.rule.pattern with ⟨answer, n1⟩
  obtain rfl : n' = n1 := congrArg Prod.snd hadd
  rw [hadd] at hanswer
  cases answer with
  | error e =>
    rw [if_neg fun hc => nomatch hanswer.mpr hc]
    rfl
  | ok u =>
    rw [if_pos (hanswer.mp rfl)]
    rfl

theorem addAll_added (additions : List Addition) :
    ∀ n, (addAll additions n).1 = additions.filter (·.rule.Compiles) := by
  induction additions with
  | nil => exact fun _ => rfl
  | cons a rest ih =>
    intro n
    rw [addAll_cons, List.filter_cons]
    by_cases hc : a.rule.Compiles <;> simp [hc, ih]

theorem addAll_whole {additions : List Addition} (h : ∀ a ∈ additions, a.rule.Compiles)
    (n : Naming) : (addAll additions n).1 = additions := by
  rw [addAll_added, List.filter_eq_self]
  exact fun a ha => decide_eq_true (h a ha)

theorem addAll_grown (additions : List Addition) :
    ∀ n : Naming, n.Grown (addAll additions n).1 (addAll additions n).2 := by
  induction additions with
  | nil => exact Grown.refl
  | cons a rest ih =>
    intro n
    rw [addAll_cons]
    exact (add_grown n a).trans (ih _)

theorem mem_services_addAll (additions : List Addition) (service : String) :
    ∀ n, service ∈ (addAll additions n).2.services ↔
      service ∈ n.services ∨ service ∈ additions.map (·.service) := by
  induction additions with
  | nil => simp [addAll]
  | cons a rest ih =>
    intro n
    rw [addAll_cons, ih, add_services, List.map_cons, List.mem_cons]
    split
    · next h => grind
    · grind

theorem addAll_append (additions more : List Addition) :
    ∀ n, (addAll (additions ++ more) n).2 = (addAll more (addAll additions n).2).2 := by
  induction additions with
  | nil => exact fun _ => rfl
  | cons a rest ih =>
    intro n
    rw [List.cons_append, addAll_cons, addAll_cons, ih]

end Run

section Building

/-- All rules of a list, or what is wrong with the first of them that cannot be added. -/
def addWhole (additions : List Addition) (n : Naming) : Except Violation Naming :=
  match additions.findSome? Addition.violation? with
  | some v => .error v
  | none => .ok (addAll additions n).2

theorem addWhole_cons (a : Addition) (rest : List Addition) (n : Naming) :
    addWhole (a :: rest) n =
      match n.add a.service a.rule.name a.rule.pattern with
      | (.error e, _) => .error (.uncompiledPattern a.service a.rule.name e)
      | (.ok (), n) => addWhole rest n := by
  simp only [addWhole, List.findSome?_cons, Addition.violation?, addAll, add, RuleGroup.add]
  cases Regex.compileFullMatch a.rule.pattern <;> rfl

theorem addWhole_append (additions more : List Addition) (n : Naming) :
    addWhole (additions ++ more) n =
      match addWhole additions n with
      | .error v => .error v
      | .ok n => addWhole more n := by
  simp only [addWhole, List.findSome?_append, addAll_append]
  cases additions.findSome? Addition.violation? <;> rfl

theorem addRules_eq (service : String) (rules : List NamingRule) :
    ∀ n, addRules service rules n = addWhole (rules.map (⟨service, ·⟩)) n := by
  induction rules with
  | nil => exact fun _ => rfl
  | cons rule rules ih =>
    intro n
    rw [List.map_cons, addWhole_cons, addRules]
    rcases n.add service rule.name rule.pattern with ⟨e | u, n1⟩
    · rfl
    · exact ih n1

theorem addServices_eq (services : List ServiceRules) :
    ∀ n, addServices services n = addWhole (additions services) n := by
  induction services with
  | nil => exact fun _ => rfl
  | cons s services ih =>
    intro n
    rw [additions, List.flatMap_cons, addWhole_append, addServices, addRules_eq]
    cases addWhole (s.rules.map (⟨s.service, ·⟩)) n with
    | error v => rfl
    | ok n => exact ih n

theorem ofServices_eq (services : List ServiceRules) :
    ofServices services = addWhole (additions services) empty :=
  addServices_eq services empty

theorem addWhole_ok_iff {additions : List Addition} {n n' : Naming} :
    addWhole additions n = .ok n' ↔
      (∀ a ∈ additions, a.rule.Compiles) ∧ (addAll additions n).2 = n' := by
  simp only [← Addition.violation?_eq_none, ← List.findSome?_eq_none_iff, addWhole]
  cases additions.findSome? Addition.violation? <;> simp

theorem addWhole_error_iff {additions : List Addition} {n : Naming} {v : Violation} :
    addWhole additions n = .error v ↔ ∃ before a after cause,
      additions = before ++ a :: after ∧ (∀ b ∈ before, b.rule.Compiles) ∧
        Regex.compileFullMatch a.rule.pattern = .error cause ∧
        v = .uncompiledPattern a.service a.rule.name cause := by
  have hfirst : addWhole additions n = .error v ↔
      additions.findSome? Addition.violation? = some v := by
    unfold addWhole
    cases additions.findSome? Addition.violation? <;> simp
  rw [hfirst, List.findSome?_eq_some_iff]
  constructor
  · rintro ⟨before, a, after, hlist, ha, hbefore⟩
    unfold Addition.violation? at ha
    split at ha
    · next cause hcause =>
      exact ⟨before, a, after, cause, hlist,
        fun b hb => Addition.violation?_eq_none.mp (hbefore b hb), hcause,
        (Option.some.inj ha).symm⟩
    · cases ha
  · rintro ⟨before, a, after, cause, hlist, hbefore, hcause, rfl⟩
    refine ⟨before, a, after, hlist, ?_,
      fun b hb => Addition.violation?_eq_none.mpr (hbefore b hb)⟩
    rw [Addition.violation?, hcause]

/-- The rules of a configuration whose patterns compile give the names that the configuration
tells. -/
theorem ofServices_done {services : List ServiceRules}
    (hc : ∀ s ∈ services, ∀ r ∈ s.rules, r.Compiles) :
    ∃ n, ofServices services = .ok n ∧
      ∀ service endpoint, n.rename? service endpoint = nameOf? services service endpoint := by
  have hall := compiles_additions hc
  obtain ⟨-, hnames⟩ := addAll_grown (additions services) empty
  refine ⟨_, (ofServices_eq services).trans (addWhole_ok_iff.mpr ⟨hall, rfl⟩),
    fun service endpoint => ?_⟩
  rw [hnames, addAll_whole hall, rulesOf_additions]
  rfl

end Building

/-- A list of rules of two services, one of which does not compile. -/
def shopAdditions : List Addition :=
  [ ⟨"shop", ⟨"item", "/items/[0-9]+"⟩⟩, ⟨"desk", ⟨"any", ".*"⟩⟩, ⟨"shop", ⟨"bad", "("⟩⟩,
    ⟨"shop", ⟨"path", "/.*"⟩⟩ ]

section Rejected

/-- A rule that is not added leaves the number of rules and all names as they were, after whatever
additions. It leaves no trace at all if a rule was to be added to its service before; otherwise
there is one service more. -/
theorem add_rejected (additions : List Addition) {service name pattern : String} {e : RegexError}
    (h : ((addAll additions empty).2.add service name pattern).1 = .error e) :
    let n := (addAll additions empty).2
    let n' := (n.add service name pattern).2
    n'.ruleCount = n.ruleCount ∧
      (∀ other endpoint, n'.rename? other endpoint = n.rename? other endpoint) ∧
      n'.serviceCount =
        n.serviceCount + (if service ∈ additions.map (·.service) then 0 else 1) ∧
      (service ∈ additions.map (·.service) → n' = n) := by
  intro n n'
  let rejected : Addition := ⟨service, name, pattern⟩
  have hc : ¬ rejected.rule.Compiles := by
    intro hc
    have hok := (add_ok_iff n rejected).mpr hc
    cases h.symm.trans hok
  have hgrown := add_grown n rejected
  rw [if_neg hc] at hgrown
  have hknown : service ∈ n.services ↔ service ∈ additions.map (·.service) :=
    (mem_services_addAll additions service empty).trans (or_iff_right List.not_mem_nil)
  have hservices := add_serviceCount n service name pattern
  rw [if_congr hknown rfl rfl] at hservices
  exact ⟨hgrown.rules, fun other endpoint => (hgrown.names other endpoint).trans Option.or_none,
    hservices, fun hmem => add_self hc (hknown.mpr hmem)⟩

/-- The service has a rule already. -/
theorem add_rejected_shop :
    let n := (addAll shopAdditions empty).2
    (∃ e, (n.add "shop" "worse" "[").1 = .error e) ∧ (n.add "shop" "worse" "[").2 = n := by
  intro n
  have hrejected : ∃ e, (n.add "shop" "worse" "[").1 = .error e := by
    cases h : (n.add "shop" "worse" "[").1 with
    | error e => exact ⟨e, rfl⟩
    | ok u =>
      have hnot : (n.add "shop" "worse" "[").1.isOk = false := by decide +kernel
      rw [h] at hnot
      cases hnot
  obtain ⟨e, he⟩ := hrejected
  obtain ⟨-, -, -, hself⟩ := add_rejected shopAdditions he
  exact ⟨⟨e, he⟩, hself (by decide)⟩

/-- A rule that is rejected for a service that has none leaves the service behind. -/
theorem serviceCount_rejected :
    (empty.add "shop" "bad" "(").1.isOk = false ∧ empty.serviceCount = 0 ∧
      (empty.add "shop" "bad" "(").2.serviceCount = 1 := by
  decide +kernel

end Rejected
end Naming
end MeshTelemetry
