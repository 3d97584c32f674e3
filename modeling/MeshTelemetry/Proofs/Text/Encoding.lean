import MeshTelemetry.Text.Bytes

/-!
# MeshTelemetry.Proofs.Text.Encoding

Texts and their bytes.

* `Text.encode_eq_flatMap`: a text is encoded character by character.
* `Text.decode?_eq_some`: only the encoding of a text is read as that text.
* `Text.lineBreak_mem_encodeChar`: the byte of a line break stands for nothing else.
-/

namespace MeshTelemetry
namespace Text

theorem encode_eq_flatMap (s : String) : encode s = s.toList.flatMap String.utf8EncodeChar := by
  obtain ⟨cs, rfl⟩ := s.exists_eq_ofList
  simp [encode, List.utf8Encode]

theorem encode_ofList (cs : List Char) :
    encode (String.ofList cs) = cs.flatMap String.utf8EncodeChar := by
  rw [encode_eq_flatMap, String.toList_ofList]

theorem encode_append (s t : String) : encode (s ++ t) = encode s ++ encode t := by
  simp [encode]

theorem encode_join (list : List String) : encode (String.join list) = list.flatMap encode := by
  rw [encode_eq_flatMap, String.toList_join, List.flatMap_assoc]
  congr 1
  funext s
  exact (encode_eq_flatMap s).symm

theorem decode?_eq_some {bytes : Bytes} {s : String} :
    decode? bytes = some s ↔ bytes = encode s := by
  rw [decode?, String.fromUTF8?]
  constructor
  · intro h
    split at h
    · cases h
      rfl
    · cases h
  · rintro rfl
    exact dif_pos s.isValidUTF8

theorem encode_inj {s t : String} : encode s = encode t ↔ s = t := by
  refine ⟨fun h => ?_, congrArg encode⟩
  have hdecode : decode? (encode t) = some s := decode?_eq_some.mpr h.symm
  rw [decode?_eq_some.mpr rfl] at hdecode
  exact (Option.some.inj hdecode).symm

theorem length_encodeChar_pos (c : Char) : 0 < (String.utf8EncodeChar c).length := by
  rw [String.length_utf8EncodeChar]
  exact c.utf8Size_pos

theorem length_le_encode (s : String) : s.toList.length ≤ (encode s).length := by
  rw [encode_eq_flatMap, List.length_flatMap]
  induction s.toList with
  | nil => exact Nat.le_refl 0
  | cons c cs ih =>
    have hpos := length_encodeChar_pos c
    rw [List.map_cons, List.sum_cons, List.length_cons]
    omega

theorem encodeChar_large {c : Char} {b : UInt8} (hc : 127 < c.toNat)
    (h : b ∈ String.utf8EncodeChar c) : 128 ≤ b.toNat := by
  have hlarge : ∀ n, 128 ≤ n → n < 256 → 128 ≤ (UInt8.ofNat n).toNat := by
    intro n hlow hhigh
    rw [UInt8.toNat_ofNat', Nat.mod_eq_of_lt hhigh]
    exact hlow
  have hv : c.val.toNat = c.toNat := rfl
  simp only [String.utf8EncodeChar, hv, if_neg (by omega : ¬ c.toNat ≤ 127)] at h
  split at h
  · simp only [List.mem_cons, List.not_mem_nil, or_false] at h
    rcases h with rfl | rfl <;> exact hlarge _ (by omega) (by omega)
  · split at h
    · simp only [List.mem_cons, List.not_mem_nil, or_false] at h
      rcases h with rfl | rfl | rfl <;> exact hlarge _ (by omega) (by omega)
    · simp only [List.mem_cons, List.not_mem_nil, or_false] at h
      rcases h with rfl | rfl | rfl | rfl <;> exact hlarge _ (by omega) (by omega)

theorem lineBreak_mem_encodeChar {c : Char} : 0x0a ∈ String.utf8EncodeChar c ↔ c = '\n' := by
  constructor
  · intro h
    by_cases hc : 127 < c.toNat
    · exact absurd (encodeChar_large hc h) (by decide)
    · have hv : c.val.toNat = c.toNat := rfl
      simp only [String.utf8EncodeChar, hv, if_pos (by omega : c.toNat ≤ 127),
        List.mem_singleton] at h
      have hten := congrArg UInt8.toNat h
      rw [UInt8.toNat_ofNat', Nat.mod_eq_of_lt (by omega)] at hten
      exact Char.toNat_inj.mp hten.symm
  · rintro rfl
    decide

theorem lineBreak_notMem_encode {text : String} (h : '\n' ∉ text.toList) :
    0x0a ∉ encode text := by
  rw [encode_eq_flatMap, List.mem_flatMap]
  rintro ⟨c, hc, hmem⟩
  rw [lineBreak_mem_encodeChar.mp hmem] at hc
  exact h hc

end Text
end MeshTelemetry
