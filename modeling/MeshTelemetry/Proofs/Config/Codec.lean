import Mathlib.Data.List.Forall2
import MeshTelemetry.Config.Load
import MeshTelemetry.Proofs.Document.Record

/-!
# MeshTelemetry.Proofs.Config.Codec

Documents that are decoded as a configuration, for every format. The members of a record may stand
in any order; parameters are decoded in the order in which they stand.

* `Config.HasDistinctKeys`: parameters as a map has them.
* `Decoder.texts_members`: distinct keys with texts are decoded as what they are.
* `Config.decoder_members` and others: the parts of a configuration.
-/

namespace MeshTelemetry

namespace Decoder

/-- The documents are decoded as these values, one for each. -/
abbrev Each {α : Type} (decoder : Decoder α) : List Document → List α → Prop :=
  List.Forall₂ fun d a => decoder d = .ok a

theorem each_map {α : Type} {decoder : Decoder α} {f : α → Document} {list : List α}
    (h : ∀ a ∈ list, decoder (f a) = .ok a) : decoder.Each (list.map f) list := by
  rw [Each, List.forall₂_map_left_iff, List.forall₂_same]
  exact h

theorem items_each {α : Type} {item : Decoder α} {ds : List Document} {as : List α}
    (h : item.Each ds as) : items item ds = .ok as := by
  induction h with
  | nil => rfl
  | cons hd _ ih => simp only [items, hd, ih]

theorem list_each {α : Type} {item : Decoder α} {ds : List Document} {as : List α}
    (h : item.Each ds as) : list item (.seq ds true) = .ok as := by
  simp only [list, items_each h, if_true]

theorem assign_new {key value : String} {pairs : List (String × String)}
    (h : key ∉ pairs.map (·.1)) : assign key value pairs = pairs ++ [(key, value)] := by
  induction pairs with
  | nil => rfl
  | cons pair pairs ih =>
    obtain ⟨k, v⟩ := pair
    rw [List.map_cons, List.mem_cons, not_or] at h
    rw [assign, if_neg (Ne.symm h.1), ih h.2, List.cons_append]

theorem pairs_members {list : List (String × String)} : ∀ {done : List (String × String)},
    ((done ++ list).map (·.1)).Nodup →
      pairs done (list.map fun p => (some p.1, .text p.2)) = .ok (done ++ list) := by
  induction list with
  | nil => exact fun _ => by rw [List.append_nil]; rfl
  | cons pair list ih =>
    intro done hdistinct
    obtain ⟨k, v⟩ := pair
    have hnew : k ∉ done.map (·.1) := by
      rw [List.map_append, List.nodup_append] at hdistinct
      exact fun hmem => hdistinct.2.2 k hmem k List.mem_cons_self rfl
    simp only [List.map_cons, pairs, Document.key?, text, assign_new hnew]
    rw [ih (by rwa [List.append_assoc]), List.append_assoc]
    rfl

theorem texts_members {params : List (String × String)} (h : (params.map (·.1)).Nodup) :
    texts (.map (params.map fun p => (some p.1, .text p.2)) true) = .ok params := by
  have hpairs : pairs [] (params.map fun p => (some p.1, .text p.2)) = .ok params := pairs_members h
  simp only [texts, hpairs, if_true]

theorem named_version (dialect : Dialect) (v : ConfigVersion) :
    named dialect ConfigVersion.names (.text v.name) = .ok v := by
  cases v
  rfl

theorem named_receiverType (dialect : Dialect) (t : ReceiverType) :
    named dialect ReceiverType.names (.text t.name) = .ok t := by
  cases t <;> rfl

end Decoder

section Members

variable {dialect : Dialect} {members : List (Option String × Document)}

theorem NamingRule.decoder_members {r : NamingRule}
    (h : members.Perm [(some "name", .text r.name), (some "pattern", .text r.pattern)]) :
    decoder dialect (.map members true) = .ok r := by
  have hvalues : Record.Encodes fields (r.name, r.pattern, ())
      [(some "name", .text r.name), (some "pattern", .text r.pattern)] :=
    .cons rfl (.cons rfl .nil)
  exact congrArg (Except.map _)
    (Record.decode_perm hvalues (by simp [fields]) dialect "struct NamingRule" h)

theorem ServiceRules.decoder_members {s : ServiceRules} {rules : List Document}
    (hrules : (NamingRule.decoder dialect).Each rules s.rules)
    (h : members.Perm [(some "service", .text s.service), (some "rules", .seq rules true)]) :
    decoder dialect (.map members true) = .ok s := by
  have hvalues : Record.Encodes (fields dialect) (s.service, s.rules, ())
      [(some "service", .text s.service), (some "rules", .seq rules true)] :=
    .cons rfl (.cons (Decoder.list_each hrules) .nil)
  exact congrArg (Except.map _)
    (Record.decode_perm hvalues (by simp [fields]) dialect "struct ServiceNamingRules" h)

theorem ReceiverSettings.decoder_members {r : ReceiverSettings} {params : Document}
    (hparams : Decoder.texts params = .ok r.params)
    (h : members.Perm
      [ (some "name", .text r.name), (some "receiver_type", .text r.type.name),
        (some "params", params) ]) :
    decoder dialect (.map members true) = .ok r := by
  have hvalues : Record.Encodes (fields dialect) (r.name, r.type, r.params, ())
      [ (some "name", .text r.name), (some "receiver_type", .text r.type.name),
        (some "params", params) ] :=
    .cons rfl (.cons (Decoder.named_receiverType dialect r.type) (.cons hparams .nil))
  exact congrArg (Except.map _)
    (Record.decode_perm hvalues (by simp [fields]) dialect "struct ReceiverConfig" h)

theorem Config.decoder_members {c : Config} {services receivers : List Document}
    (hservices : (ServiceRules.decoder dialect).Each services c.services)
    (hreceivers : (ReceiverSettings.decoder dialect).Each receivers c.receivers)
    (h : members.Perm
      [ (some "version", .text c.version.name),
        (some "endpoint_naming", .map [(some "services", .seq services true)] true),
        (some "receivers", .seq receivers true) ]) :
    decoder dialect (.map members true) = .ok c := by
  have hlist : Record.Encodes (namingFields dialect) (c.services, ())
      [(some "services", .seq services true)] := .cons (Decoder.list_each hservices) .nil
  have hnaming : namingDecoder dialect (.map [(some "services", .seq services true)] true) =
      .ok c.services :=
    congrArg (Except.map _)
      (Record.decode_members hlist (by simp [namingFields]) dialect "struct EndpointNamingConfig")
  have hvalues : Record.Encodes (fields dialect) (c.version, c.services, c.receivers, ())
      [ (some "version", .text c.version.name),
        (some "endpoint_naming", .map [(some "services", .seq services true)] true),
        (some "receivers", .seq receivers true) ] :=
    .cons (Decoder.named_version dialect c.version) (.cons hnaming
      (.cons (Decoder.list_each hreceivers) .nil))
  exact congrArg (Except.map _)
    (Record.decode_perm hvalues (by simp [fields]) dialect "struct MeshAnalysisConfig" h)

end Members

namespace Config

/-- No key occurs twice among the parameters of a receiver. -/
def HasDistinctKeys (c : Config) : Prop := ∀ r ∈ c.receivers, (r.params.map (·.1)).Nodup

instance (c : Config) : Decidable c.HasDistinctKeys :=
  inferInstanceAs (Decidable (∀ r ∈ c.receivers, (r.params.map (·.1)).Nodup))

/-- A configuration with texts that no writer can leave as they are. -/
def sample : Config where
  version := .v1
  services :=
    [ ⟨"\"catalog\"", [⟨"it's \"\"\"\n", "/items\\.json"⟩, ⟨"\x07\r\n", "a'''b"⟩]⟩,
      ⟨"billing", []⟩ ]
  receivers :=
    [ ⟨"archive", .file, [("path", "C:\\out"), ("", "\t"), ("a.b", "\n\n"), ("mode", "")]⟩,
      ⟨"console", .log, []⟩ ]

theorem validate_sample : sample.validate = .ok () := by decide +kernel

end Config
end MeshTelemetry
