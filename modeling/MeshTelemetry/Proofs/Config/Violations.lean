import MeshTelemetry.Proofs.Config.Building

/-!
# MeshTelemetry.Proofs.Config.Violations

Which of its violations a configuration is refused for. All violations are listed in one order,
whether or not others stand in front of them; validation stops at the first one of this list.

* `Config.violations`: everything that is wrong with a configuration.
* `Config.pass_first`: a pass over a list that stops at the first finding.
* `Config.validate_first`: what validation reports.
-/

namespace MeshTelemetry

namespace ServiceRules

/-- What is wrong with the name of a service, when these services stand in front of it. -/
def violations (earlier : List ServiceRules) (s : ServiceRules) : List Violation :=
  (if s.service = "" then [.emptyService earlier.length] else []) ++
    if s.service ∈ earlier.map (·.service) then [.repeatedService s.service] else []

end ServiceRules

namespace NamingRule

/-- What is wrong with a rule of a service, when these rules stand in front of it. -/
def violations (service : String) (earlier : List NamingRule) (r : NamingRule) : List Violation :=
  (if r.name = "" then [.emptyRule service earlier.length] else []) ++
    match Regex.compileFullMatch r.pattern with
    | .error cause => [.invalidPattern service r.name r.pattern cause]
    | .ok _ => []

end NamingRule

namespace ReceiverSettings

/-- What is wrong with a receiver, when these receivers stand in front of it. -/
def violations (earlier : List ReceiverSettings) (r : ReceiverSettings) : List Violation :=
  (if r.name = "" then [.emptyReceiver earlier.length] else []) ++
    (if r.name ∈ earlier.map (·.name) then [.repeatedReceiver r.name] else []) ++
    if r.type = .file ∧ (r.params.lookup "path").getD "" = "" then [.missingPath r.name] else []

end ReceiverSettings

namespace Config

section Passes

variable {α : Type}

/-- What is found at the items of a list, each of which is looked at with those in front of it. -/
def inOrder (find : List α → α → List Violation) (list : List α) : List Violation :=
  list.zipIdx.flatMap fun (a, i) => find (list.take i) a

/-- The first violation of a list as the outcome of a check. -/
def firstOf : List Violation → Except Violation Unit
  | [] => .ok ()
  | v :: _ => .error v

theorem firstOf_append (found more : List Violation) :
    firstOf (found ++ more) = (firstOf found).bind fun _ => firstOf more := by
  cases found <;> rfl

/-- A pass that knows what lies behind it and goes on only if nothing is found stops at the first
finding. -/
theorem pass_first (check : List α → List α → Except Violation Unit)
    (find : List α → α → List Violation) (hnil : ∀ earlier, check earlier [] = .ok ())
    (hcons : ∀ earlier a rest, check earlier (a :: rest) =
      (firstOf (find earlier a)).bind fun _ => check (earlier ++ [a]) rest) (list : List α) :
    check [] list = firstOf (inOrder find list) := by
  -- what is still to be checked stands behind the items that were checked before
  have hrest : ∀ rest earlier, check earlier rest =
      firstOf ((rest.zipIdx earlier.length).flatMap fun (a, i) =>
        find ((earlier ++ rest).take i) a) := by
    intro rest
    induction rest with
    | nil => exact hnil
    | cons a rest ih =>
      intro earlier
      have hbehind := ih (earlier ++ [a])
      rw [List.append_assoc, List.singleton_append, List.length_append, List.length_singleton]
        at hbehind
      rw [hcons, hbehind, List.zipIdx_cons, List.flatMap_cons, firstOf_append]
      simp only [List.take_left']
  exact hrest list []

end Passes

/-- Everything that is wrong with a configuration: first with the names of services, then with the
rules of the services one after the other, then with the receivers. -/
def violations (c : Config) : List Violation :=
  inOrder ServiceRules.violations c.services ++
    c.services.flatMap (fun s => inOrder (NamingRule.violations s.service) s.rules) ++
    inOrder ReceiverSettings.violations c.receivers

theorem checkServices_first (services : List ServiceRules) :
    checkServices 0 [] services = firstOf (inOrder ServiceRules.violations services) := by
  refine pass_first (fun earlier => checkServices earlier.length (earlier.map (·.service)).reverse)
    ServiceRules.violations (fun _ => rfl) (fun earlier s rest => ?_) services
  rw [checkServices, List.length_append, List.length_singleton, List.map_append, List.reverse_append]
  by_cases hempty : s.service = ""
  · simp [ServiceRules.violations, firstOf, Except.bind, hempty]
  · by_cases hseen : s.service ∈ earlier.map (·.service)
    · simp [ServiceRules.violations, firstOf, Except.bind, hempty, hseen]
    · simp [ServiceRules.violations, firstOf, Except.bind, hempty, hseen]

theorem checkRules_first (service : String) (rules : List NamingRule) :
    checkRules service 0 rules = firstOf (inOrder (NamingRule.violations service) rules) := by
  refine pass_first (fun earlier => checkRules service earlier.length)
    (NamingRule.violations service) (fun _ => rfl) (fun earlier r rest => ?_) rules
  rw [checkRules, List.length_append, List.length_singleton]
  by_cases hempty : r.name = ""
  · simp [NamingRule.violations, firstOf, Except.bind, hempty]
  · cases hregex : Regex.compileFullMatch r.pattern <;>
      simp [NamingRule.violations, firstOf, Except.bind, hempty, hregex]

theorem checkAllRules_first (services : List ServiceRules) :
    checkAllRules services =
      firstOf (services.flatMap fun s => inOrder (NamingRule.violations s.service) s.rules) := by
  induction services with
  | nil => rfl
  | cons s services ih =>
    rw [checkAllRules, checkRules_first, ih, List.flatMap_cons, firstOf_append]
    cases firstOf (inOrder (NamingRule.violations s.service) s.rules) <;> rfl

theorem lacksPath_iff {r : ReceiverSettings} :
    lacksPath r = true ↔ r.type = .file ∧ (r.params.lookup "path").getD "" = "" := by
  rw [lacksPath]
  cases r.params.lookup "path" <;> simp

theorem checkReceivers_first (receivers : List ReceiverSettings) :
    checkReceivers 0 [] receivers = firstOf (inOrder ReceiverSettings.violations receivers) := by
  refine pass_first (fun earlier => checkReceivers earlier.length (earlier.map (·.name)).reverse)
    ReceiverSettings.violations (fun _ => rfl) (fun earlier r rest => ?_) receivers
  rw [checkReceivers, List.length_append, List.length_singleton, List.map_append,
    List.reverse_append]
  by_cases hempty : r.name = ""
  · simp [ReceiverSettings.violations, firstOf, Except.bind, hempty]
  · by_cases hseen : r.name ∈ earlier.map (·.name)
    · simp [ReceiverSettings.violations, firstOf, Except.bind, hempty, hseen]
    · by_cases hpath : lacksPath r = true
      · have hmissing := lacksPath_iff.mp hpath
        simp [ReceiverSettings.violations, firstOf, Except.bind, hempty, hseen, hpath, hmissing]
      · have hgiven := mt lacksPath_iff.mpr hpath
        simp [ReceiverSettings.violations, firstOf, Except.bind, hempty, hseen, hpath, hgiven]

theorem validate_eq_firstOf (c : Config) : c.validate = firstOf c.violations := by
  rw [validate, checkServices_first, checkAllRules_first, checkReceivers_first, violations,
    firstOf_append, firstOf_append]
  cases firstOf (inOrder ServiceRules.violations c.services) with
  | error v => rfl
  | ok u =>
    cases firstOf (c.services.flatMap fun s => inOrder (NamingRule.violations s.service) s.rules) <;>
      rfl

/-- Validation accepts exactly the valid configurations, and refuses any other one for the first of
its violations: the field of the error is the field of this one. -/
theorem validate_first (c : Config) :
    (c.validate = .ok () ↔ c.Valid) ∧
      (∀ v, c.validate = .error v ↔ c.violations.head? = some v) ∧
      ∀ field, c.validate.mapError Violation.field = .error field ↔
        (c.violations.map Violation.field).head? = some field := by
  refine ⟨validate_iff, ?_, ?_⟩
  · rw [validate_eq_firstOf]
    cases c.violations <;> simp [firstOf]
  · rw [validate_eq_firstOf]
    cases c.violations <;> simp [firstOf, Except.mapError]

/-- The second service is reported, although the rule of the first one is wrong twice. -/
example :
    (⟨.v1, [⟨"shop", [⟨"", "("⟩]⟩, ⟨"shop", []⟩], [⟨"", .file, []⟩]⟩ : Config).violations.map
        Violation.field =
      [ "endpoint_naming.services[service=shop]", "endpoint_naming.services[shop].rules[0].name",
        "endpoint_naming.services[shop].rules[].pattern", "receivers[0].name",
        "receivers[].params.path" ] := by
  decide +kernel

end Config
end MeshTelemetry
