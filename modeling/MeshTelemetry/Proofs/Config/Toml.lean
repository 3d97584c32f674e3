import MeshTelemetry.Config.Toml
import MeshTelemetry.Proofs.Config.Codec
import MeshTelemetry.Proofs.Toml.Reading

/-!
# MeshTelemetry.Proofs.Config.Toml

A configuration that is written as TOML is loaded as the same configuration, if it is valid. Only
the order of parameters may be another one, since the members of a table are read in the order of
their keys.

* `Config.Same`: configurations that differ in the order of parameters.
* `NamingRule.entries` and others: the tables that are read from the text.
* `Config.takes_toToml`: they are read from it; `Config.decoder_entries`: what they are decoded as.
* `Config.load_toToml`: what loading the text comes to.
-/

namespace MeshTelemetry

open Toml (Item Takes Writes Focus IsHeader statement quoted)

/-- An array of tables; it is written as a value if there are none. -/
def Toml.Item.ofElements : List Toml.Members → Item
  | [] => .array []
  | list => .tables list

theorem Toml.Item.document_ofElements (list : List Toml.Members) :
    (Item.ofElements list).document = .seq (tableDocuments list) true := by
  cases list <;> rfl

/-- The keys of the program need no quotes. -/
theorem Toml.statement_eq {k front : String} (h : key k ++ " = " = front) (value : String) :
    statement k value = front ++ value ++ "\n" := by
  rw [statement, h]

namespace NamingRule

def entries (r : NamingRule) : Toml.Members :=
  [("name", .leaf (.text r.name)), ("pattern", .leaf (.text r.pattern))]

def header : String := "\n[[endpoint_naming.services.rules]]\n"

theorem isHeader : IsHeader header true ["endpoint_naming", "services"] "rules" :=
  ⟨fun _ => rfl, by decide⟩

/-- What stands behind the header of a rule. -/
def body (r : NamingRule) : String :=
  statement "name" (quoted r.name) ++ statement "pattern" (quoted r.pattern)

theorem toToml_eq (r : NamingRule) : r.toToml = header ++ r.body := by
  have hname : Toml.key "name" ++ " = " = "name = " := by decide
  have hpattern : Toml.key "pattern" ++ " = " = "pattern = " := by decide
  have hbreak : "\npattern = " = "\n" ++ "pattern = " := by decide
  unfold toToml body
  simp only [Toml.statement_eq hname, Toml.statement_eq hpattern, hbreak, header,
    String.append_assoc]

theorem writes_body (r : NamingRule) (path : List String) : Writes r.body path r.entries := by
  intro plug hfocus
  have hname : Takes (statement "name" (quoted r.name)) (plug [], path)
      (plug [("name", .leaf (.text r.name))], path) :=
    hfocus.takes_statement (Toml.isValue_quoted r.name) (by simp)
  have hpattern : Takes (statement "pattern" (quoted r.pattern))
      (plug [("name", .leaf (.text r.name))], path) (plug r.entries, path) :=
    hfocus.takes_statement (Toml.isValue_quoted r.pattern) (by simp)
  exact ⟨path, hname.append hpattern⟩

end NamingRule

namespace ServiceRules

def entries (s : ServiceRules) : Toml.Members :=
  [("service", .leaf (.text s.service)), ("rules", .ofElements (s.rules.map NamingRule.entries))]

def header : String := "\n[[endpoint_naming.services]]\n"

theorem isHeader : IsHeader header true ["endpoint_naming"] "services" := ⟨fun _ => rfl, by decide⟩

def body (s : ServiceRules) : String :=
  statement "service" (quoted s.service) ++
    (if s.rules.isEmpty then statement "rules" "[]"
      else String.join (s.rules.map fun r => NamingRule.header ++ r.body))

theorem toToml_eq (s : ServiceRules) : s.toToml = header ++ s.body := by
  have hservice : Toml.key "service" ++ " = " = "service = " := by decide
  have hheader : "\n[[endpoint_naming.services]]\nservice = " = header ++ "service = " := by decide
  have hempty : "rules = []\n" = statement "rules" "[]" := by decide
  have hrules : s.rules.map NamingRule.toToml = s.rules.map fun r => NamingRule.header ++ r.body :=
    List.map_congr_left fun r _ => r.toToml_eq
  unfold toToml body
  simp only [Toml.statement_eq hservice, hheader, hempty, hrules, String.append_assoc]

theorem writes_body (s : ServiceRules) :
    Writes s.body ["endpoint_naming", "services"] s.entries := by
  intro plug hfocus
  have hservice : Takes (statement "service" (quoted s.service))
      (plug [], ["endpoint_naming", "services"])
      (plug [("service", .leaf (.text s.service))], ["endpoint_naming", "services"]) :=
    hfocus.takes_statement (Toml.isValue_quoted s.service) (by simp)
  cases hrules : s.rules with
  | nil =>
    have hempty : Takes (statement "rules" "[]")
        (plug [("service", .leaf (.text s.service))], ["endpoint_naming", "services"])
        (plug s.entries, ["endpoint_naming", "services"]) := by
      rw [entries, hrules]
      exact hfocus.takes_statement Toml.isValue_empty (by simp)
    rw [body, hrules]
    exact ⟨_, hservice.append hempty⟩
  | cons r rules =>
    obtain ⟨path', helements⟩ := Toml.takes_elements NamingRule.isHeader (by simp) hfocus
      (hfocus [("service", .leaf (.text s.service))]) (List.cons_ne_nil r rules)
      (fun r _ => r.writes_body _) ["endpoint_naming", "services"]
    rw [body, entries, hrules]
    exact ⟨path', hservice.append helements⟩

end ServiceRules

namespace ReceiverSettings

/-- Parameters as a table has them. -/
def paramEntries (params : List (String × String)) : Toml.Members :=
  params.map fun p => (p.1, .leaf (.text p.2))

def entries (r : ReceiverSettings) : Toml.Members :=
  [ ("name", .leaf (.text r.name)), ("receiver_type", .leaf (.text r.type.name)),
    ("params", .table .header (paramEntries r.params)) ]

def header : String := "\n[[receivers]]\n"

theorem isHeader : IsHeader header true [] "receivers" := ⟨fun _ => rfl, by decide⟩

def paramsHeader : String := "\n[receivers.params]\n"

theorem isHeader_params : IsHeader paramsHeader false ["receivers"] "params" :=
  ⟨fun _ => rfl, by decide⟩

def body (r : ReceiverSettings) : String :=
  statement "name" (quoted r.name) ++ (statement "receiver_type" (quoted r.type.name) ++
    (paramsHeader ++ String.join (r.params.map fun p => statement p.1 (quoted p.2))))

theorem toToml_eq (r : ReceiverSettings) : r.toToml = header ++ r.body := by
  have hname : Toml.key "name" ++ " = " = "name = " := by decide
  have htype : Toml.key "receiver_type" ++ " = " = "receiver_type = " := by decide
  have hheader : "\n[[receivers]]\nname = " = header ++ "name = " := by decide
  have hbreak : "\nreceiver_type = " = "\n" ++ "receiver_type = " := by decide
  have hparams : "\n\n[receivers.params]\n" = "\n" ++ paramsHeader := by decide
  have hparam : r.params.map paramToToml = r.params.map fun p => statement p.1 (quoted p.2) := rfl
  unfold toToml body
  simp only [Toml.statement_eq hname, Toml.statement_eq htype, hheader, hbreak, hparams, hparam,
    String.append_assoc]

theorem writes_body {r : ReceiverSettings} (hr : (r.params.map (·.1)).Nodup) :
    Writes r.body ["receivers"] r.entries := by
  intro plug hfocus
  have hname : Takes (statement "name" (quoted r.name)) (plug [], ["receivers"])
      (plug [("name", .leaf (.text r.name))], ["receivers"]) :=
    hfocus.takes_statement (Toml.isValue_quoted r.name) (by simp)
  have htype : Takes (statement "receiver_type" (quoted r.type.name))
      (plug [("name", .leaf (.text r.name))], ["receivers"])
      (plug [("name", .leaf (.text r.name)), ("receiver_type", .leaf (.text r.type.name))],
        ["receivers"]) :=
    hfocus.takes_statement (Toml.isValue_quoted r.type.name) (by simp)
  have hnew : "params" ∉ ([("name", .leaf (.text r.name)),
      ("receiver_type", .leaf (.text r.type.name))] : Toml.Members).map (·.1) := by simp
  have hopen := hfocus.takes_table isHeader_params hnew ["receivers"]
  have hinside : Focus ["receivers", "params"] _ :=
    hfocus.trans (Toml.focus_table hnew (show Toml.Origin.header ≠ .braces by decide))
  have hparams := hinside.takes_statements r.params [] hr
  exact ⟨_, hname.append (htype.append (hopen.append hparams))⟩

end ReceiverSettings

namespace Config

/-- What is read in front of all headers. -/
def front (c : Config) : Toml.Members :=
  ("version", .leaf (.text c.version.name)) ::
    (if c.receivers.isEmpty then [("receivers", .array [])] else [])

def naming (c : Config) : Item :=
  if c.services.isEmpty then .table .header [("services", .array [])]
  else .table .parent [("services", .tables (c.services.map ServiceRules.entries))]

def entries (c : Config) : Toml.Members :=
  c.front ++ ("endpoint_naming", c.naming) ::
    (if c.receivers.isEmpty then []
      else [("receivers", .tables (c.receivers.map ReceiverSettings.entries))])

def namingHeader : String := "\n[endpoint_naming]\n"

theorem isHeader_naming : IsHeader namingHeader false [] "endpoint_naming" :=
  ⟨fun _ => rfl, by decide⟩

theorem toToml_eq (c : Config) : c.toToml =
    statement "version" (quoted c.version.name) ++
      ((if c.receivers.isEmpty then statement "receivers" "[]" else "") ++
        ((if c.services.isEmpty then namingHeader ++ statement "services" "[]"
          else String.join (c.services.map fun s => ServiceRules.header ++ s.body)) ++
            String.join (c.receivers.map fun r => ReceiverSettings.header ++ r.body))) := by
  have hversion : Toml.key "version" ++ " = " = "version = " := by decide
  have hreceivers : "receivers = []\n" = statement "receivers" "[]" := by decide
  have hservices : "\n[endpoint_naming]\nservices = []\n" =
      namingHeader ++ statement "services" "[]" := by decide
  have hlists : c.services.map ServiceRules.toToml =
        c.services.map (fun s => ServiceRules.header ++ s.body) ∧
      c.receivers.map ReceiverSettings.toToml =
        c.receivers.map fun r => ReceiverSettings.header ++ r.body :=
    ⟨List.map_congr_left fun s _ => s.toToml_eq, List.map_congr_left fun r _ => r.toToml_eq⟩
  unfold toToml
  simp only [Toml.statement_eq hversion, hreceivers, hservices, hlists, String.append_assoc]

theorem naming_notMem_front (c : Config) : "endpoint_naming" ∉ c.front.map (·.1) := by
  unfold front
  split <;> simp

theorem takes_front (c : Config) :
    Takes (if c.receivers.isEmpty then statement "receivers" "[]" else "")
      ([("version", .leaf (.text c.version.name))], []) (c.front, []) := by
  unfold front
  split
  · exact Toml.focus_nil.takes_statement Toml.isValue_empty (by simp)
  · exact .refl _

/-- The tables of services. If there are any, the header of the first one makes the table around
them as well. -/
theorem takes_naming (c : Config) : ∃ path,
    Takes (if c.services.isEmpty then namingHeader ++ statement "services" "[]"
        else String.join (c.services.map fun s => ServiceRules.header ++ s.body))
      (c.front, []) (c.front ++ [("endpoint_naming", c.naming)], path) := by
  have hnew := c.naming_notMem_front
  unfold naming
  split
  · have hopen := Toml.focus_nil.takes_table isHeader_naming hnew []
    have hinside := Toml.focus_table hnew (show Toml.Origin.header ≠ .braces by decide)
    have hempty : Takes (statement "services" "[]")
        (c.front ++ [("endpoint_naming", .table .header [])], ["endpoint_naming"])
        (c.front ++ [("endpoint_naming", .table .header [("services", .array [])])],
          ["endpoint_naming"]) := hinside.takes_statement Toml.isValue_empty (by simp)
    exact ⟨_, hopen.append hempty⟩
  · next hservices =>
    exact Toml.takes_elements ServiceRules.isHeader (by simp)
      (Toml.focus_table hnew (show Toml.Origin.parent ≠ .braces by decide))
      (Toml.leads_parent hnew) (by simpa using hservices) (fun s _ => s.writes_body) []

theorem takes_receivers {c : Config} (hc : c.HasDistinctKeys) (above : List String) : ∃ path,
    Takes (String.join (c.receivers.map fun r => ReceiverSettings.header ++ r.body))
      (c.front ++ [("endpoint_naming", c.naming)], above) (c.entries, path) := by
  unfold entries
  cases hreceivers : c.receivers with
  | nil => exact ⟨above, .refl _⟩
  | cons r receivers =>
    have hnew : "receivers" ∉ (c.front ++ [("endpoint_naming", c.naming)]).map (·.1) := by
      simp [front, hreceivers]
    obtain ⟨path, helements⟩ := Toml.takes_elements ReceiverSettings.isHeader hnew Toml.focus_nil
      (Toml.focus_nil _) (List.cons_ne_nil r receivers)
      (fun r hr => ReceiverSettings.writes_body (hc r (hreceivers ▸ hr))) above
    rw [id, List.append_assoc] at helements
    exact ⟨path, helements⟩

theorem takes_toToml {c : Config} (hc : c.HasDistinctKeys) :
    ∃ path, Takes c.toToml ([], []) (c.entries, path) := by
  have hversion : Takes (statement "version" (quoted c.version.name)) ([], [])
      ([("version", .leaf (.text c.version.name))], []) :=
    Toml.focus_nil.takes_statement (Toml.isValue_quoted _) (by simp)
  obtain ⟨above, hnaming⟩ := c.takes_naming
  obtain ⟨path, hreceivers⟩ := takes_receivers hc above
  rw [toToml_eq]
  exact ⟨path, hversion.append (c.takes_front.append (hnaming.append hreceivers))⟩

theorem read?_toToml {c : Config} (hc : c.HasDistinctKeys) :
    Toml.read? c.toToml = some (Item.table .header c.entries).document := by
  obtain ⟨path, htakes⟩ := takes_toToml hc
  -- the text begins with a letter, and so with no mark of its encoding
  have hfirst : c.toToml.toList.head? = some 'v' := by
    unfold toToml
    simp [String.toList_append]
  refine htakes.read? fun letter hletter => ?_
  rw [hfirst, Option.mem_some] at hletter
  exact hletter ▸ by decide

end Config

section Documents

variable (dialect : Dialect)

theorem NamingRule.decoder_entries (r : NamingRule) :
    decoder dialect (.map (Toml.memberDocuments r.entries) true) = .ok r :=
  decoder_members (Toml.memberDocuments_perm r.entries)

theorem ServiceRules.decoder_entries (s : ServiceRules) :
    decoder dialect (.map (Toml.memberDocuments s.entries) true) = .ok s := by
  have hrules : (NamingRule.decoder dialect).Each
      (Toml.tableDocuments (s.rules.map NamingRule.entries)) s.rules := by
    rw [Toml.tableDocuments_map]
    exact Decoder.each_map fun r _ => r.decoder_entries dialect
  have hperm := Toml.memberDocuments_perm s.entries
  rw [entries, List.map_cons, List.map_singleton, Toml.Item.document_ofElements] at hperm
  exact decoder_members hrules hperm

theorem ReceiverSettings.decoder_entries {r : ReceiverSettings}
    (hr : (r.params.map (·.1)).Nodup) :
    ∃ params : List (String × String), params.Perm r.params ∧
      decoder dialect (.map (Toml.memberDocuments r.entries) true) = .ok { r with params } := by
  obtain ⟨params, hperm, hdocuments⟩ := Toml.memberDocuments_texts r.params
  have hdistinct : (params.map (·.1)).Nodup := (hperm.map (·.1)).nodup_iff.mpr hr
  have hparams : Decoder.texts (Item.table .header (paramEntries r.params)).document =
      .ok params := by
    rw [Item.document, paramEntries, hdocuments]
    exact Decoder.texts_members hdistinct
  exact ⟨params, hperm, decoder_members (r := { r with params }) hparams
    (Toml.memberDocuments_perm r.entries)⟩

theorem Config.document_naming (c : Config) : c.naming.document =
    .map
      [(some "services", .seq (Toml.tableDocuments (c.services.map ServiceRules.entries)) true)]
      true := by
  unfold naming
  cases c.services <;> rfl

theorem Config.documents_entries (c : Config) : (Toml.memberDocuments c.entries).Perm
    [ (some "version", .text c.version.name), (some "endpoint_naming", c.naming.document),
      (some "receivers",
        .seq (Toml.tableDocuments (c.receivers.map ReceiverSettings.entries)) true) ] := by
  refine (Toml.memberDocuments_perm c.entries).trans ?_
  unfold entries front
  cases c.receivers with
  | nil => exact .cons _ (.swap _ _ _)
  | cons r receivers => exact .refl _

end Documents

/-- Receivers that differ in the order of their parameters, which as maps are the same. -/
structure ReceiverSettings.Same (r' r : ReceiverSettings) : Prop where
  name : r'.name = r.name
  type : r'.type = r.type
  params : r'.params.Perm r.params

/-- Configurations that differ in the order of parameters. -/
structure Config.Same (c' c : Config) : Prop where
  version : c'.version = c.version
  services : c'.services = c.services
  receivers : List.Forall₂ ReceiverSettings.Same c'.receivers c.receivers

theorem ReceiverSettings.decoder_each (dialect : Dialect) {list : List ReceiverSettings}
    (hlist : ∀ r ∈ list, (r.params.map (·.1)).Nodup) :
    ∃ list', List.Forall₂ ReceiverSettings.Same list' list ∧
      (decoder dialect).Each (Toml.tableDocuments (list.map entries)) list' := by
  induction list with
  | nil => exact ⟨[], .nil, .nil⟩
  | cons r list ih =>
    rw [List.forall_mem_cons] at hlist
    obtain ⟨params, hparams, hr⟩ := decoder_entries dialect hlist.1
    obtain ⟨list', hsame, heach⟩ := ih hlist.2
    exact ⟨{ r with params } :: list', .cons ⟨rfl, rfl, hparams⟩ hsame, .cons hr heach⟩

namespace Config

theorem decoder_entries (dialect : Dialect) {c : Config} (hc : c.HasDistinctKeys) :
    ∃ c', c'.Same c ∧ decoder dialect (Item.table .header c.entries).document = .ok c' := by
  obtain ⟨receivers, hsame, hreceivers⟩ := ReceiverSettings.decoder_each dialect hc
  have hservices : (ServiceRules.decoder dialect).Each
      (Toml.tableDocuments (c.services.map ServiceRules.entries)) c.services := by
    rw [Toml.tableDocuments_map]
    exact Decoder.each_map fun s _ => s.decoder_entries dialect
  have hperm := c.documents_entries
  rw [document_naming] at hperm
  exact ⟨{ c with receivers }, ⟨rfl, rfl, hsame⟩,
    decoder_members (c := { c with receivers }) hservices hreceivers hperm⟩

end Config

theorem Pairs.lookup_perm {κ ν : Type} [BEq κ] [LawfulBEq κ] {pairs pairs' : List (κ × ν)}
    (h : pairs'.Perm pairs) :
    (pairs'.map (·.1)).Nodup → ∀ key, pairs'.lookup key = pairs.lookup key := by
  induction h with
  | nil => exact fun _ _ => rfl
  | cons p _ ih =>
    intro hdistinct key
    rw [List.lookup_cons, List.lookup_cons, ih (List.nodup_cons.mp hdistinct).2]
  | swap p q rest =>
    intro hdistinct key
    have hne : q.1 ≠ p.1 := by
      intro heq
      simp [heq] at hdistinct
    rw [List.lookup_cons, List.lookup_cons, List.lookup_cons, List.lookup_cons]
    cases hq : key == q.1 with
    | false => cases key == p.1 <;> rfl
    | true =>
      have hp : (key == p.1) = false := by
        simpa using fun heq => hne ((eq_of_beq hq).symm.trans heq)
      rw [hp]
  | trans h h' ih ih' =>
    intro hdistinct key
    rw [ih hdistinct, ih' ((h.map (·.1)).nodup_iff.mp hdistinct)]

namespace Config

theorem checkReceivers_same {receivers receivers' : List ReceiverSettings}
    (h : List.Forall₂ ReceiverSettings.Same receivers' receivers)
    (hdistinct : ∀ r ∈ receivers, (r.params.map (·.1)).Nodup) :
    ∀ (index : Nat) (seen : List String),
      checkReceivers index seen receivers' = checkReceivers index seen receivers := by
  induction h with
  | nil => exact fun _ _ => rfl
  | @cons r' r list' list hr _ ih =>
    rw [List.forall_mem_cons] at hdistinct
    intro index seen
    have hpath : lacksPath r' = lacksPath r := by
      rw [lacksPath, lacksPath, hr.type, (Pairs.lookup_perm hr.params.symm hdistinct.1 "path").symm]
    rw [checkReceivers, checkReceivers, hr.name, hpath, ih hdistinct.2]

theorem Same.validate {c c' : Config} (h : c'.Same c) (hc : c.HasDistinctKeys) :
    c'.validate = c.validate := by
  simp only [Config.validate, h.services, checkReceivers_same h.receivers hc]

/-- A configuration that is written as TOML is loaded as the same configuration if it is valid, and
else refused for its own first violation. -/
theorem load_toToml {c : Config} (hc : c.HasDistinctKeys) : ∃ c' : Config, c'.Same c ∧
    load .toml c.toToml = (c.validate.mapError .violation).map fun _ => c' := by
  obtain ⟨c', hsame, hdecoded⟩ := decoder_entries .toml hc
  have hparse : parse .toml c.toToml = .ok c' := by
    rw [parse, Toml.decode, read?_toToml hc]
    simp only [hdecoded]
    rfl
  refine ⟨c', hsame, ?_⟩
  simp only [load, hparse, hsame.validate hc]
  cases c.validate <;> rfl

theorem load_toToml_sample : sample.HasDistinctKeys ∧
    ∃ c' : Config, c'.Same sample ∧ load .toml sample.toToml = .ok c' := by
  have hkeys : sample.HasDistinctKeys := by decide
  obtain ⟨c', hsame, hload⟩ := load_toToml hkeys
  rw [validate_sample] at hload
  exact ⟨hkeys, c', hsame, hload⟩

end Config
end MeshTelemetry
