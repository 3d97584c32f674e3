import MeshTelemetry.Program
import MeshTelemetry.Proofs.Document.Members
import MeshTelemetry.Proofs.Json.Spelling

/-!
# MeshTelemetry.Proofs.Command.Validate

What a run of the program that validates a configuration file reports on it as JSON: one object,
which is read by the names of its members, and agrees with the file and with the exit code.

* `ValidationReport.ofTree?`: the report that a reader finds in a value.
* `Validation.ofTree?_toJson`: a validation is written as its report.
* `ValidationReport.Faithful`: a report agrees with the file at a path.
* `Invocation.ending_validate`: a run puts out one faithful report, and its exit code agrees.
-/

namespace MeshTelemetry

open Json (Item Layout Tree tree)

namespace Json.Tree

/-- What the members of an object that have this name hold. -/
def withName (name : String) : Tree → List Tree
  | .object _ members => valuesOf name (named members)
  | _ => []

/-- What the only member of this name is read as. -/
def member? {α : Type} (name : String) (read : Tree → Option α) (t : Tree) : Option α :=
  match t.withName name with
  | [v] => read v
  | _ => none

/-- What the only member of this name is read as, if there is one. -/
def optional? {α : Type} (name : String) (read : Tree → Option α) (t : Tree) : Option (Option α) :=
  match t.withName name with
  | [] => some none
  | [v] => (read v).map some
  | _ => none

def items? {α : Type} (read : Tree → Option α) : Tree → Option (List α)
  | .list _ items => items.mapM fun item => read item.value
  | _ => none

end Json.Tree

section Trees

variable (l : Layout)

@[simp]
theorem withName_tree (name : String) (members : List (String × Json)) :
    (tree l (.object members)).withName name =
      (members.filter (·.1 == name)).map fun member => tree l.inner member.2 := by
  rw [tree, Tree.withName, Json.named_memberTrees, valuesOf, List.filter_map, List.map_map]
  simp [Function.comp_def]

theorem items?_tree {α β : Type} {read : Tree → Option β} {f : α → Json} {g : α → β}
    (h : ∀ a, read (tree l.inner (f a)) = some (g a)) (as : List α) :
    (tree l (.list (as.map f))).items? read = some (as.map g) := by
  rw [tree, Tree.items?]
  induction as with
  | nil => rfl
  | cons a as ih => simp [Json.itemTrees, h, ih]

end Trees

/-- What a valid configuration holds, as it is reported. -/
structure ValidationSummary where
  version : String
  services : Int
  rules : Int
  receivers : Int
  deriving DecidableEq, Repr

/-- A report on a configuration file, by the members it has. -/
structure ValidationReport where
  valid : Bool
  path : String
  error : Option String
  warnings : Option (List String)
  summary : Option ValidationSummary
  deriving DecidableEq, Repr

namespace ValidationSummary

def ofTree? (t : Tree) : Option ValidationSummary := do
  let version ← t.member? "version" Tree.text?
  let services ← t.member? "naming_service_count" Tree.integer?
  let rules ← t.member? "naming_rule_count" Tree.integer?
  let receivers ← t.member? "receiver_count" Tree.integer?
  some { version, services, rules, receivers }

def ofConfig (c : Config) : ValidationSummary where
  version := c.version.name
  services := c.services.length
  rules := (c.services.flatMap fun s => s.rules).length
  receivers := c.receivers.length

theorem ofTree?_summaryJson (l : Layout) (c : Config) :
    ofTree? (tree l (Validation.summaryJson c)) = some (ofConfig c) := by
  simp [Validation.summaryJson, ofTree?, Tree.member?, ofConfig, Config.ruleCount]

end ValidationSummary

namespace ValidationReport

/-- The report that is found in a value; a member that is there twice is not read. -/
def ofTree? (t : Tree) : Option ValidationReport := do
  let valid ← t.member? "valid" Tree.flag?
  let path ← t.member? "config_path" Tree.text?
  let error ← t.optional? "error" Tree.text?
  let warnings ← t.optional? "warnings" (Tree.items? Tree.text?)
  let summary ← t.optional? "summary" ValidationSummary.ofTree?
  some { valid, path, error, warnings, summary }

end ValidationReport

/-- The file at a path is there, and is loaded as this configuration. -/
def Store.Accepts (s : Store) (path : String) (c : Config) : Prop :=
  s.isPresent path = true ∧ Config.loadFile s path = .ok c

namespace Validation

def noReceivers : String := "No receivers configured - sources will only be logged"

def noRules (s : ServiceRules) : String :=
  "Service '" ++ s.service ++ "' has no naming rules configured"

theorem warnings_eq (c : Config) :
    warnings c = (if c.receivers.isEmpty then [noReceivers] else []) ++
      (c.services.filter fun s => s.rules.isEmpty).map noRules := by
  have hrules : c.services.filterMap ruleWarning? =
      (c.services.filter fun s => s.rules.isEmpty).map noRules := by
    induction c.services with
    | nil => rfl
    | cons s services ih => cases h : s.rules.isEmpty <;> simp [ruleWarning?, noRules, h, ih]
  rw [warnings, hrules]
  rfl

/-- There is something to warn of if there are no receivers, or a service without rules. -/
theorem warnings_ne_nil {c : Config} :
    warnings c ≠ [] ↔ c.receivers = [] ∨ ∃ s ∈ c.services, s.rules = [] := by
  rw [warnings_eq]
  cases h : c.receivers <;> simp

/-- What is reported on a file. -/
def report (v : Validation) : ValidationReport :=
  match v.loaded with
  | .error e => ⟨false, v.path, some e.message, none, none⟩
  | .ok c =>
    ⟨true, v.path, none, if warnings c = [] then none else some (warnings c),
      some (.ofConfig c)⟩

theorem valid_report (v : Validation) : v.report.valid = v.isValid := by
  rw [report, isValid]
  cases v.loaded <;> rfl

theorem ofTree?_toJson (l : Layout) (v : Validation) :
    ValidationReport.ofTree? (tree l v.toJson) = some v.report := by
  obtain ⟨path, loaded⟩ := v
  simp only [toJson, isValid, report, ValidationReport.ofTree?, Tree.member?, Tree.optional?]
  cases loaded with
  | error e => simp [Json.flag?_tree]
  | ok c =>
    have hsummary := ValidationSummary.ofTree?_summaryJson l.inner c
    have hwarnings := items?_tree l.inner (Json.text?_tree l.inner.inner) (warnings c)
    by_cases hnone : warnings c = []
    · simp [warningsJson, hnone, hsummary, Json.flag?_tree]
    · simp [warningsJson, hnone, hsummary, hwarnings, Json.flag?_tree]

end Validation

/-- A report agrees with the file at a path: the configuration is valid exactly if the file is there
and can be loaded; then its parts are counted, and there is a warning if it has no receivers and for
each service without rules. -/
structure ValidationReport.Faithful (r : ValidationReport) (s : Store) (path : String) : Prop where
  named : r.path = path
  valid : r.valid = true ↔ ∃ c, s.Accepts path c
  error : r.error.isSome = true ↔ r.valid = false
  summary : r.summary.isSome = true ↔ r.valid = true
  counts : ∀ c, s.Accepts path c → r.summary = some (.ofConfig c)
  warnings : r.warnings.isSome = true ↔
    ∃ c, s.Accepts path c ∧ (c.receivers = [] ∨ ∃ service ∈ c.services, service.rules = [])
  warned : ∀ c, s.Accepts path c → r.warnings.getD [] =
    (if c.receivers.isEmpty then [Validation.noReceivers] else []) ++
      (c.services.filter fun service => service.rules.isEmpty).map Validation.noRules

namespace Validation

theorem loaded_eq_ok {s : Store} {path : String} {c : Config} :
    (ofFile s path).loaded = .ok c ↔ s.Accepts path c := by
  rw [ofFile, Store.Accepts]
  cases s.isPresent path with
  | false => simp
  | true => cases Config.loadFile s path <;> simp [Except.mapError]

theorem report_faithful (s : Store) (path : String) : (ofFile s path).report.Faithful s path := by
  have hpath : (ofFile s path).path = path := rfl
  have haccepts : ∀ c, s.Accepts path c ↔ (ofFile s path).loaded = .ok c := fun _ =>
    loaded_eq_ok.symm
  rw [report, hpath]
  cases hloaded : (ofFile s path).loaded with
  | error e =>
    have hnone : ∀ c, ¬s.Accepts path c := by simp [haccepts, hloaded]
    constructor <;> simp [hnone]
  | ok c =>
    have honly : ∀ c', s.Accepts path c' ↔ c' = c := by simp [haccepts, hloaded, eq_comm]
    have hwarned : (if warnings c = [] then none else some (warnings c)).getD [] = warnings c := by
      split <;> simp_all
    constructor
    case named => rfl
    case valid | error | summary | counts => simp [honly]
    case warnings =>
      simp only [honly, exists_eq_left, ← warnings_ne_nil]
      split <;> simp_all
    case warned =>
      intro c' hc'
      rw [(honly c').mp hc', ← warnings_eq]
      exact hwarned

/-- A file with a service that has no rules, and without receivers. -/
def bareService : Store :=
  (Store.initial []).put ["mesh.json"] <| .file <| .ofBytes <|
    "\x7b\"endpoint_naming\":\x7b\"services\":[\x7b\"service\":\"shop\"\x7d]\x7d\x7d".toUTF8.toList

example : (ofFile bareService "mesh.json").report =
    { valid := true
      path := "mesh.json"
      error := none
      warnings := some [noReceivers, "Service 'shop' has no naming rules configured"]
      summary := some ⟨"V1", 1, 0, 0⟩ } := by
  decide +kernel

end Validation

theorem Ending.exitCode_through (result : Except CommandFault Unit) (output : String) (nanos : Nat)
    (h : Host) : (ofStage (.through result output) nanos h).exitCode = 0 ↔ result = .ok () := by
  cases result with
  | error e => simp [ofStage, Stage.conclude]
  | ok _ => simp [ofStage, Stage.conclude]

theorem Ending.output_through (result : Except CommandFault Unit) (output : String) (nanos : Nat)
    (h : Host) : (ofStage (.through result output) nanos h).output = output := by
  cases result <;> rfl

namespace Invocation

/-- How a run ends, if its replay takes so many nanoseconds. -/
def ending (i : Invocation) (stdin : Bytes) (isStopped : Nat → Bool) (nanos : Nat) (h : Host) :
    Ending :=
  match i.start stdin isStopped h with
  | (stage, h) => .ofStage stage nanos h

/-- A run that validates a file and reports on it as JSON puts out one JSON value with a line break
behind it, in which a faithful report is found, and it ends with the exit code zero exactly if the
report is one on a valid configuration. -/
theorem ending_validate (verbosity : Nat) (quiet : Bool) (format : LogFormat) (path : String)
    (stdin : Bytes) (isStopped : Nat → Bool) (nanos : Nat) (h : Host) :
    let e := ending ⟨verbosity, quiet, format, .validate ⟨path, true⟩⟩ stdin isStopped nanos h
    ∃ (item : Item Tree) (r : ValidationReport),
      e.output = item.text ∧ Json.read e.output = (item.value.document, true) ∧
        ValidationReport.ofTree? item.value = some r ∧ r.Faithful h.store path ∧
          (e.exitCode = 0 ↔ r.valid = true) := by
  intro e
  obtain ⟨v, hv⟩ : ∃ v, v = Validation.ofFile h.store path := ⟨_, rfl⟩
  obtain ⟨h', he⟩ : ∃ h', e = .ofStage
      (.through (if v.isValid then .ok () else .error .invalid) (v.toJson.indented ++ "\n")) nanos h' :=
    ⟨_, by rw [hv]; rfl⟩
  have hcode : e.exitCode = 0 ↔ v.report.valid = true := by
    rw [he, Ending.exitCode_through, v.valid_report]
    cases v.isValid <;> simp
  have htext : e.output = Item.text ⟨[], tree (.lines 0) v.toJson, [.lineFeed]⟩ := by
    rw [he, Ending.output_through, Json.text_indented]
    rfl
  refine ⟨_, v.report, htext, ?_, v.ofTree?_toJson (.lines 0), ?_, hcode⟩
  · rw [htext, Json.read_text]
  · rw [hv]
    exact Validation.report_faithful h.store path

end Invocation
end MeshTelemetry
