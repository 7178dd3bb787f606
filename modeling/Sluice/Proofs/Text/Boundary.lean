import Sluice.Text.Utf8

/-!
# Where characters end

The bytes of a text may be cut only between characters: such a place is `String.Pos.Raw.IsValid`.
UTF-8 is made so that where the bytes of one text begin those of another, they end at such a place
(`isValid_of_isPrefix`): whoever compares texts byte by byte never cuts one within a character.
-/

namespace Sluice.Text

theorem length_bytes (s : String) : (bytes s).length = s.rawEndPos.byteIdx := by
  simp [bytes, String.rawEndPos]

theorem bytes_eq_nil {s : String} : bytes s = [] ↔ s = "" :=
  ⟨fun h => bytes_injective (h.trans rfl), fun h => h ▸ rfl⟩

/-- Where the bytes of one text end in those of another, a character ends. -/
theorem isValid_of_isPrefix {p s : String} (h : bytes p <+: bytes s) : p.rawEndPos.IsValid s := by
  obtain ⟨rest, hrest⟩ := h
  refine String.Pos.Raw.isValid_iff_isValidUTF8_extract_zero.2 ⟨?_, ?_⟩
  · have hlength := congrArg List.length hrest
    rw [List.length_append, length_bytes, length_bytes] at hlength
    exact String.Pos.Raw.le_iff.2 (by omega)
  · -- Up to the end of the first text these bytes are its own, and so they are UTF-8.
    have hs : s.toByteArray = p.toByteArray ++ ⟨rest.toArray⟩ := by
      refine ByteArray.ext (Array.toList_inj.1 ?_)
      rw [ByteArray.data_append, Array.toList_append]
      exact hrest.symm
    have hstart : s.toByteArray.extract 0 p.rawEndPos.byteIdx = p.toByteArray := by
      rw [hs]
      exact ByteArray.extract_append_eq_left rfl
    rw [hstart]
    exact p.isValidUTF8

end Sluice.Text
