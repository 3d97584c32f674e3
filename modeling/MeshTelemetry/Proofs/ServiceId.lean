import Mathlib.Data.List.Basic
import MeshTelemetry.Proofs.Text.Base64
import MeshTelemetry.Proofs.Text.Encoding
import MeshTelemetry.ServiceId

/-!
# MeshTelemetry.Proofs.ServiceId

A service id tells the name and the node type of the service that it was made for.

* `ServiceId.toList_ofService`: its parts, in neither of which there is a dot.
* `ServiceId.ofService_identifies`: ids are equal only for equal names and node types, and both can
  be read off an id.
-/

namespace MeshTelemetry

theorem NodeType.value_inj {type type' : NodeType}
    (h : (toString type.value).toList = (toString type'.value).toList) : type = type' := by
  cases type <;> cases type' <;> first | rfl | exact absurd h (by decide)

theorem NodeType.dot_notMem_value (type : NodeType) : '.' ∉ (toString type.value).toList := by
  cases type <;> decide

namespace ServiceId

open Text

theorem toList_ofService (name : String) (type : NodeType) :
    (ofService name type).toList =
      Base64.encode (encode name) ++ '.' :: (toString type.value).toList := by
  rw [ofService, String.toList_append, String.toList_append, String.toList_ofList,
    List.append_assoc]
  rfl

/-- Names are any texts. Two services have the same id exactly if they have the same name and node
type. An id has one dot: what is in front of it is the base64 text of the bytes of the name, and
what is behind it is the number of the node type. -/
theorem ofService_identifies (name name' : String) (type type' : NodeType) :
    (ofService name type = ofService name' type' ↔ name = name' ∧ type = type') ∧
      ∃ front back, (ofService name type).toList = front ++ '.' :: back ∧
        '.' ∉ front ∧ '.' ∉ back ∧ Base64.decode? front = some (encode name) ∧
        String.ofList back = toString type.value := by
  refine ⟨⟨fun h => ?_, ?_⟩, Base64.encode (encode name), (toString type.value).toList,
    toList_ofService name type, Base64.dot_notMem_encode _, type.dot_notMem_value,
    Base64.decode?_encode _, String.ofList_toList⟩
  · have hparts := congrArg String.toList h
    rw [toList_ofService, toList_ofService, List.append_cons_inj_of_notMem
      (Base64.dot_notMem_encode _) type.dot_notMem_value] at hparts
    obtain ⟨hfront, -, hback⟩ := hparts
    have hdecode : some (encode name) = some (encode name') := by
      rw [← Base64.decode?_encode (encode name), hfront, Base64.decode?_encode]
    exact ⟨encode_inj.mp (Option.some.inj hdecode), NodeType.value_inj hback⟩
  · rintro ⟨rfl, rfl⟩
    rfl

example : ofService "mysql" .database = "bXlzcWw=.1" := by decide +kernel

end ServiceId
end MeshTelemetry
