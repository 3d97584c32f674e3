import MeshTelemetry.Proofs.Config.Codec
import MeshTelemetry.Proofs.Json.Spelling

/-!
# MeshTelemetry.Proofs.Config.Json

A configuration that is written as JSON is loaded as itself, if it is valid.

* `Config.decoder_document`: its value is decoded as the configuration.
* `Config.load_toJson`: what loading the indented text comes to.
-/

namespace MeshTelemetry

namespace NamingRule

theorem decoder_document (dialect : Dialect) (r : NamingRule) :
    decoder dialect r.toJson.document = .ok r :=
  decoder_members (.refl _)

end NamingRule

namespace ServiceRules

theorem decoder_document (dialect : Dialect) (s : ServiceRules) :
    decoder dialect s.toJson.document = .ok s := by
  have hrules : (NamingRule.decoder dialect).Each
      (Json.documents (s.rules.map NamingRule.toJson)) s.rules := by
    rw [Json.documents_map]
    exact Decoder.each_map fun r _ => r.decoder_document dialect
  exact decoder_members hrules (.refl _)

theorem fits_toJson (s : ServiceRules) : s.toJson.Fits :=
  ⟨trivial, Json.itemsFit_map fun _ _ => ⟨trivial, trivial, trivial⟩, trivial⟩

end ServiceRules

namespace ReceiverSettings

theorem decoder_document (dialect : Dialect) {r : ReceiverSettings}
    (hr : (r.params.map (·.1)).Nodup) : decoder dialect r.toJson.document = .ok r := by
  have hparams : Decoder.texts (.map (Json.memberDocuments
      (r.params.map fun p => (p.1, Json.text p.2))) true) = .ok r.params := by
    rw [Json.memberDocuments_map]
    exact Decoder.texts_members hr
  exact decoder_members hparams (.refl _)

theorem fits_toJson (r : ReceiverSettings) : r.toJson.Fits :=
  ⟨trivial, trivial, Json.membersFit_map fun _ _ => trivial, trivial⟩

end ReceiverSettings

namespace Config

theorem decoder_document (dialect : Dialect) {c : Config} (hc : c.HasDistinctKeys) :
    decoder dialect c.toJson.document = .ok c := by
  have hservices : (ServiceRules.decoder dialect).Each
      (Json.documents (c.services.map ServiceRules.toJson)) c.services := by
    rw [Json.documents_map]
    exact Decoder.each_map fun s _ => s.decoder_document dialect
  have hreceivers : (ReceiverSettings.decoder dialect).Each
      (Json.documents (c.receivers.map ReceiverSettings.toJson)) c.receivers := by
    rw [Json.documents_map]
    exact Decoder.each_map fun r hr => r.decoder_document dialect (hc r hr)
  exact decoder_members hservices hreceivers (.refl _)

theorem fits_toJson (c : Config) : c.toJson.Fits :=
  ⟨trivial, ⟨Json.itemsFit_map fun s _ => s.fits_toJson, trivial⟩,
    Json.itemsFit_map fun r _ => r.fits_toJson, trivial⟩

/-- A configuration that is written as JSON is loaded as itself if it is valid, and else refused for
its own first violation. -/
theorem load_toJson {c : Config} (hc : c.HasDistinctKeys) :
    load .json c.toJson.indented = (c.validate.mapError .violation).map fun _ => c := by
  have hparse : parse .json c.toJson.indented = .ok c := by
    rw [parse, Json.decode_indented c.fits_toJson (decoder_document .json hc)]
    rfl
  simp only [load, hparse]
  cases c.validate <;> rfl

theorem load_toJson_sample :
    sample.HasDistinctKeys ∧ load .json sample.toJson.indented = .ok sample := by
  have hkeys : sample.HasDistinctKeys := by decide
  refine ⟨hkeys, ?_⟩
  rw [load_toJson hkeys, validate_sample]
  rfl

end Config
end MeshTelemetry
