import MeshTelemetry.Config.Load
import MeshTelemetry.Proofs.Naming.Adding
import MeshTelemetry.Receiver.Output

/-!
# MeshTelemetry.Proofs.Config.Building

What a configuration that has been loaded is good for. Validation and the building of what runs are
passes of their own over the same lists; they agree on every configuration.

* `Config.Valid`: what is asked of a configuration; `Config.validate_iff`: validation asks for this.
* `Config.rulesOf_perm`: the order of services does not matter when their names are distinct.
* `Config.load_builds`: what follows for configurations that are loaded.
-/

namespace MeshTelemetry

namespace Config

/-- What the parts of a valid configuration have. -/
structure Valid (c : Config) : Prop where
  services : ∀ s ∈ c.services, s.service ≠ ""
  distinctServices : (c.services.map (·.service)).Nodup
  rules : ∀ s ∈ c.services, ∀ r ∈ s.rules, r.name ≠ "" ∧ r.Compiles
  receivers : ∀ r ∈ c.receivers, r.name ≠ ""
  distinctReceivers : (c.receivers.map (·.name)).Nodup
  paths : ∀ r ∈ c.receivers, r.type = .file → ∃ path, path ≠ "" ∧ r.params.lookup "path" = some path

theorem checkServices_iff {services : List ServiceRules} : ∀ {index : Nat} {seen : List String},
    checkServices index seen services = .ok () ↔
      (∀ s ∈ services, s.service ≠ "" ∧ s.service ∉ seen) ∧
        (services.map (·.service)).Nodup := by
  induction services with
  | nil => simp [checkServices]
  | cons s services ih =>
    intro index seen
    by_cases hempty : s.service = ""
    · simp [checkServices, hempty]
    · by_cases hseen : s.service ∈ seen
      · simp [checkServices, hempty, hseen]
      · simp only [checkServices, String.isEmpty_iff, hempty, List.contains_eq_mem, hseen,
          decide_false, Bool.false_eq_true, if_false, ih, List.mem_cons, List.map_cons,
          List.nodup_cons, List.mem_map]
        grind

theorem lacksPath_eq_false {r : ReceiverSettings} :
    lacksPath r = false ↔
      (r.type = .file → ∃ path, path ≠ "" ∧ r.params.lookup "path" = some path) := by
  cases htype : r.type with
  | log => simp [lacksPath, htype]
  | file => cases hpath : r.params.lookup "path" <;> simp [lacksPath, htype, hpath]

theorem checkReceivers_iff {receivers : List ReceiverSettings} :
    ∀ {index : Nat} {seen : List String}, checkReceivers index seen receivers = .ok () ↔
      (∀ r ∈ receivers, r.name ≠ "" ∧ r.name ∉ seen ∧ lacksPath r = false) ∧
        (receivers.map (·.name)).Nodup := by
  induction receivers with
  | nil => simp [checkReceivers]
  | cons r receivers ih =>
    intro index seen
    by_cases hempty : r.name = ""
    · simp [checkReceivers, hempty]
    · by_cases hseen : r.name ∈ seen
      · simp [checkReceivers, hempty, hseen]
      · cases hpath : lacksPath r with
        | true => simp [checkReceivers, hempty, hseen, hpath]
        | false =>
          simp only [checkReceivers, String.isEmpty_iff, hempty, List.contains_eq_mem, hseen,
            hpath, decide_false, Bool.false_eq_true, if_false, ih, List.mem_cons, List.map_cons,
            List.nodup_cons, List.mem_map]
          grind

theorem validate_iff {c : Config} : c.validate = .ok () ↔ c.Valid := by
  have hpasses : c.validate = .ok () ↔ checkServices 0 [] c.services = .ok () ∧
      checkAllRules c.services = .ok () ∧ checkReceivers 0 [] c.receivers = .ok () := by
    unfold validate
    cases checkServices 0 [] c.services with
    | error e => simp
    | ok u => cases checkAllRules c.services <;> simp
  rw [hpasses, checkServices_iff, checkAllRules_iff, checkReceivers_iff]
  simp only [List.not_mem_nil, not_false_eq_true, and_true, true_and]
  constructor
  · rintro ⟨⟨hservices, hdistinct⟩, hrules, hreceivers, hdistinct'⟩
    exact ⟨hservices, hdistinct, hrules, fun r hr => (hreceivers r hr).1, hdistinct',
      fun r hr => lacksPath_eq_false.mp (hreceivers r hr).2⟩
  · intro hv
    exact ⟨⟨hv.services, hv.distinctServices⟩, hv.rules,
      fun r hr => ⟨hv.receivers r hr, lacksPath_eq_false.mpr (hv.paths r hr)⟩,
      hv.distinctReceivers⟩

theorem filter_service_length {services : List ServiceRules}
    (hdistinct : (services.map (·.service)).Nodup) (service : String) :
    (services.filter (·.service = service)).length ≤ 1 := by
  rw [← List.countP_eq_length_filter]
  have hcount := List.nodup_iff_count_le_one.mp hdistinct service
  rw [List.count, List.countP_map] at hcount
  refine le_of_eq_of_le (List.countP_congr fun s _ => ?_) hcount
  simp

/-- Services with distinct names have the same rules in whatever order they are listed. -/
theorem rulesOf_perm {services services' : List ServiceRules} (hperm : services'.Perm services)
    (hdistinct : (services.map (·.service)).Nodup) (service : String) :
    rulesOf services' service = rulesOf services service := by
  have hfilter := hperm.filter (·.service = service)
  have hlength := filter_service_length hdistinct service
  rw [rulesOf, rulesOf]
  congr 1
  cases hone : services.filter (·.service = service) with
  | nil =>
    rw [hone] at hfilter
    exact hfilter.eq_nil
  | cons s rest =>
    rw [hone, List.length_cons] at hlength
    obtain rfl : rest = [] := List.eq_nil_of_length_eq_zero (by omega)
    rw [hone] at hfilter
    exact hfilter.eq_singleton

theorem nameOf?_listed {services : List ServiceRules} {service endpoint name : String}
    (h : nameOf? services service endpoint = some name) :
    ∃ s ∈ services, s.service = service ∧ ∃ r ∈ s.rules, r.name = name ∧ r.applies endpoint := by
  obtain ⟨r, hfind, hname⟩ := Option.map_eq_some_iff.mp h
  obtain ⟨s, hs, hr⟩ := List.mem_flatMap.mp (List.mem_of_find?_eq_some hfind)
  obtain ⟨hmem, hservice⟩ := List.mem_filter.mp hs
  exact ⟨s, hmem, by simpa using hservice, r, hr, hname,
    (List.find?_eq_some_iff_append.mp hfind).1⟩

end Config

namespace Output

theorem ofSettings_path {settings : ReceiverSettings} {path : String}
    (htype : settings.type = .file) (hpath : settings.params.lookup "path" = some path) (h : Host) :
    ofSettings settings h =
      ((openFile settings.name path h).1.mapError (⟨settings.name, ·⟩),
        (openFile settings.name path h).2) := by
  have hopened : pathOf settings.params = path := by rw [pathOf, hpath, Option.getD_some]
  rw [ofSettings, htype, hopened]
  rcases openFile settings.name path h with ⟨answer, h1⟩
  cases answer <;> rfl

end Output

namespace Config

/-- The names that are built from a configuration: every rule is there, no service has the rules
of another, and the order of services does not matter. -/
structure Built (c : Config) (n : Naming) : Prop where
  rules : n.ruleCount = ruleCount c.services
  services : n.serviceCount = (c.services.filter (!·.rules.isEmpty)).length
  listed : ∀ {service endpoint name}, n.rename? service endpoint = some name →
    name ≠ "" ∧ ∃ s ∈ c.services, s.service = service ∧
      ∃ r ∈ s.rules, r.name = name ∧ r.applies endpoint
  reordered : ∀ services : List ServiceRules, services.Perm c.services →
    ∃ n', Naming.ofServices services = .ok n' ∧
      ∀ service endpoint, n'.rename? service endpoint = n.rename? service endpoint

theorem Valid.builds {c : Config} (hv : c.Valid) :
    ∃ n, Naming.ofServices c.services = .ok n ∧ c.Built n := by
  have hcompiles : ∀ s ∈ c.services, ∀ r ∈ s.rules, r.Compiles :=
    fun s hs r hr => (hv.rules s hs r hr).2
  obtain ⟨n, hn, hname⟩ := Naming.ofServices_done hcompiles
  obtain ⟨hrules, hservices⟩ := Naming.ofServices_counts hn hv.distinctServices
  refine ⟨n, hn, hrules, hservices, fun {service endpoint name} h => ?_, fun services hperm => ?_⟩
  · obtain ⟨s, hs, hservice, r, hr, hrname, happlies⟩ := nameOf?_listed (hname _ _ ▸ h)
    exact ⟨hrname ▸ (hv.rules s hs r hr).1, s, hs, hservice, r, hr, hrname, happlies⟩
  · obtain ⟨n', hn', hname'⟩ :=
      Naming.ofServices_done fun s hs => hcompiles s (hperm.mem_iff.mp hs)
    refine ⟨n', hn', fun service endpoint => ?_⟩
    rw [hname, hname', nameOf?, nameOf?, rulesOf_perm hperm hv.distinctServices]

theorem valid_of_load {format : ConfigFormat} {text : String} {c : Config}
    (h : load format text = .ok c) : c.Valid := by
  unfold load at h
  split at h
  · cases h
  · split at h
    · cases h
    · next hv =>
      cases h
      exact validate_iff.mp hv

/-- What is loaded from a text can be built: its naming rules compile and none is lost, a name that
is given is one of the rules of that very service, the order of services does not matter, and file
receivers open the path that the text gives them. -/
theorem load_builds {format : ConfigFormat} {text : String} {c : Config}
    (h : load format text = .ok c) :
    (∃ n, Naming.ofServices c.services = .ok n ∧ c.Built n) ∧
      ∀ settings ∈ c.receivers, settings.type = .file →
        ∃ path, path ≠ "" ∧ settings.params.lookup "path" = some path ∧
          ∀ host, Output.ofSettings settings host =
            ((Output.openFile settings.name path host).1.mapError (⟨settings.name, ·⟩),
              (Output.openFile settings.name path host).2) := by
  have hv : c.Valid := valid_of_load h
  refine ⟨hv.builds, fun settings hmem htype => ?_⟩
  obtain ⟨path, hne, hpath⟩ := hv.paths settings hmem htype
  exact ⟨path, hne, hpath, Output.ofSettings_path htype hpath⟩

def shopText : String :=
  "receivers=[\x7bname='f',receiver_type='file',params.path='o'\x7d]\n" ++
  "[endpoint_naming]\n" ++
  "services=[\x7bservice='t'\x7d,\x7bservice='s',rules=[\x7bname='n',pattern='x?'\x7d]\x7d]"

def shopConfig : Config where
  version := .v1
  services := [⟨"t", []⟩, ⟨"s", [⟨"n", "x?"⟩]⟩]
  receivers := [⟨"f", .file, [("path", "o")]⟩]

/-- One rule, and one of two services has it. -/
theorem load_builds_shop :
    load .toml shopText = .ok shopConfig ∧
    (∃ n, Naming.ofServices shopConfig.services = .ok n ∧ shopConfig.Built n ∧
      n.ruleCount = 1 ∧ n.serviceCount = 1) ∧
    ∀ settings ∈ shopConfig.receivers, settings.type = .file →
      ∃ path, path ≠ "" ∧ settings.params.lookup "path" = some path ∧
        ∀ host, Output.ofSettings settings host =
          ((Output.openFile settings.name path host).1.mapError (⟨settings.name, ·⟩),
            (Output.openFile settings.name path host).2) := by
  have h : load .toml shopText = .ok shopConfig := by decide +kernel
  obtain ⟨⟨n, hn, hbuilt⟩, hpaths⟩ := load_builds h
  exact ⟨h, ⟨n, hn, hbuilt, hbuilt.rules, hbuilt.services⟩, hpaths⟩

end Config
end MeshTelemetry
