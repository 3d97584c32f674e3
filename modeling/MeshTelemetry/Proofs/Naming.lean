import MeshTelemetry.Config.Validation
import MeshTelemetry.Naming
import MeshTelemetry.Proofs.Regex.FullMatch

/-!
# MeshTelemetry.Proofs.Naming

Which name the rules of a configuration give to an endpoint, told from the configuration alone.

* `Config.nameOf?`: the name of the first rule of the service that applies to the endpoint.
* `Config.validate_compiles`: the rules of a valid configuration compile.
* `NamingRule.applies_iff_spans`: a sound rule applies to what its pattern matches as a whole.
* `Config.FirstNamed`: the first rule with a property; `Config.nameOf?_spans`.
-/

namespace MeshTelemetry

namespace NamingRule

/-- Whether the compiled pattern matches an endpoint. -/
def applies (r : NamingRule) (endpoint : String) : Bool :=
  match Regex.compileFullMatch r.pattern with
  | .error _ => false
  | .ok regex => regex.isMatch endpoint

/-- The pattern compiles. -/
def Compiles (r : NamingRule) : Prop := ∃ regex, Regex.compileFullMatch r.pattern = .ok regex

theorem compiles_of_applies {r : NamingRule} {endpoint : String} (h : r.applies endpoint = true) :
    r.Compiles := by
  rw [applies] at h
  cases hregex : Regex.compileFullMatch r.pattern with
  | ok regex => exact ⟨regex, hregex⟩
  | error e =>
    rw [hregex] at h
    cases h

/-- The pattern by itself matches an endpoint as a whole. -/
def Spans (r : NamingRule) (endpoint : String) : Prop :=
  ∃ e, Regex.exprOf r.pattern = .ok e ∧ e.SpansAll endpoint

/-- The pattern closes only groups that it opened, and is not too big in the group that it is
wrapped into. -/
def Sound (r : NamingRule) : Prop :=
  Regex.Pattern.parse r.pattern ≠ .error .groupUnopened ∧
    Regex.compile (Regex.anchored r.pattern) ≠ .error .tooBig

theorem applies_iff_spans {r : NamingRule} (hc : r.Compiles) (hs : r.Sound) (endpoint : String) :
    r.applies endpoint = true ↔ r.Spans endpoint := by
  obtain ⟨regex, hregex⟩ := hc
  obtain ⟨e, he, hmatch⟩ :=
    Regex.compileFullMatch_sound hregex (Regex.tree_ne_of_parse hs.1) hs.2
  simp only [applies, hregex, Spans, he]
  rw [hmatch]
  constructor
  · intro h
    exact ⟨e, rfl, h⟩
  · rintro ⟨_, ⟨⟩, h⟩
    exact h

end NamingRule

namespace RuleGroup

theorem rename?_append (g g' : RuleGroup) (endpoint : String) :
    rename? (g ++ g') endpoint = (rename? g endpoint).or (rename? g' endpoint) := by
  induction g with
  | nil => rfl
  | cons rule g ih =>
    rw [List.cons_append, rename?, rename?]
    split
    · rfl
    · exact ih

end RuleGroup

namespace Config

/-- The rules of a service in the order in which they are tried. -/
def rulesOf (services : List ServiceRules) (service : String) : List NamingRule :=
  (services.filter (·.service = service)).flatMap (·.rules)

/-- The name of the first rule in a list that applies to an endpoint. -/
def firstName? (rules : List NamingRule) (endpoint : String) : Option String :=
  (rules.find? (·.applies endpoint)).map (·.name)

/-- The name that the rules of a service give to an endpoint. -/
def nameOf? (services : List ServiceRules) (service endpoint : String) : Option String :=
  firstName? (rulesOf services service) endpoint

theorem firstName?_append (rules rules' : List NamingRule) (endpoint : String) :
    firstName? (rules ++ rules') endpoint =
      (firstName? rules endpoint).or (firstName? rules' endpoint) := by
  rw [firstName?, firstName?, firstName?, List.find?_append]
  cases rules.find? (·.applies endpoint) <;> rfl

theorem checkRules_iff {service : String} {rules : List NamingRule} : ∀ {index : Nat},
    checkRules service index rules = .ok () ↔ ∀ r ∈ rules, r.name ≠ "" ∧ r.Compiles := by
  induction rules with
  | nil => simp [checkRules]
  | cons rule rules ih =>
    intro index
    by_cases hempty : rule.name = ""
    · simp [checkRules, hempty]
    · cases hregex : Regex.compileFullMatch rule.pattern with
      | error e => simp [checkRules, hempty, hregex, NamingRule.Compiles]
      | ok regex => simp [checkRules, hempty, hregex, NamingRule.Compiles, ih]

theorem checkAllRules_iff {services : List ServiceRules} :
    checkAllRules services = .ok () ↔
      ∀ s ∈ services, ∀ r ∈ s.rules, r.name ≠ "" ∧ r.Compiles := by
  induction services with
  | nil => simp [checkAllRules]
  | cons s services ih =>
    have hrules : checkRules s.service 0 s.rules = .ok () ↔
        ∀ r ∈ s.rules, r.name ≠ "" ∧ r.Compiles := checkRules_iff
    rw [List.forall_mem_cons, ← ih, ← hrules, checkAllRules]
    cases checkRules s.service 0 s.rules <;> simp

theorem validate_compiles {c : Config} (h : c.validate = .ok ()) :
    ∀ s ∈ c.services, ∀ r ∈ s.rules, r.Compiles := by
  unfold validate at h
  split at h
  · cases h
  · split at h
    · cases h
    · next hrules => exact fun s hs r hr => (checkAllRules_iff.mp hrules s hs r hr).2

end Config

namespace Naming

theorem groupOf_assign (n : Naming) (service other : String) (group : RuleGroup) :
    groupOf ⟨Pairs.assign service group n.groups⟩ other =
      if other = service then group else n.groupOf other := by
  rw [groupOf, Pairs.lookup_assign]
  split <;> rfl

end Naming

namespace Config

/-- `FirstNamed P rules name?`: the first rule with the property has the name, or there is none. -/
def FirstNamed (P : NamingRule → Prop) (rules : List NamingRule) : Option String → Prop
  | none => ∀ r ∈ rules, ¬ P r
  | some name => ∃ before rule after, rules = before ++ rule :: after ∧ rule.name = name ∧
      P rule ∧ ∀ r ∈ before, ¬ P r

theorem firstName?_named {P : NamingRule → Prop} {rules : List NamingRule} {endpoint : String}
    (h : ∀ r ∈ rules, r.applies endpoint = true ↔ P r) :
    FirstNamed P rules (firstName? rules endpoint) := by
  rw [firstName?]
  cases hfind : rules.find? (·.applies endpoint) with
  | none =>
    intro r hr hP
    exact absurd ((h r hr).mpr hP) (by simpa using List.find?_eq_none.mp hfind r hr)
  | some rule =>
    obtain ⟨hrule, before, after, hlist, hbefore⟩ := List.find?_eq_some_iff_append.mp hfind
    refine ⟨before, rule, after, hlist, rfl, (h rule (by simp [hlist])).mp hrule, fun r hr hP => ?_⟩
    exact absurd ((h r (by simp [hlist, hr])).mpr hP) (by simpa using hbefore r hr)

/-- If the rules of a service are sound, an endpoint gets the name of the first of them whose
pattern matches it as a whole. -/
theorem nameOf?_spans {services : List ServiceRules}
    (hc : ∀ s ∈ services, ∀ r ∈ s.rules, r.Compiles) {service : String}
    (hs : ∀ r ∈ rulesOf services service, r.Sound) (endpoint : String) :
    FirstNamed (·.Spans endpoint) (rulesOf services service)
      (nameOf? services service endpoint) := by
  refine firstName?_named fun r hr => ?_
  obtain ⟨s, hmem, hrule⟩ := List.mem_flatMap.mp hr
  exact NamingRule.applies_iff_spans (hc s (List.mem_filter.mp hmem).1 r hrule) (hs r hr) endpoint

end Config
end MeshTelemetry
