/-!
# Octets of texts

The octets of a text in UTF-8: those of two texts in a row are those of the one text, a text is told by its
octets, and read from them again.
-/

namespace RecordGate
set_option autoImplicit false

theorem toList_loop (b : ByteArray) (i : Nat) (passed : List UInt8) :
    ByteArray.toList.loop b i passed = passed.reverse ++ b.data.toList.drop i := by
  fun_induction ByteArray.toList.loop b i passed with
  | case1 i passed within ih =>
    have next : b.data.toList.drop i = b.get! i :: b.data.toList.drop (i + 1) := by
      have bound : i < b.data.toList.length := within
      rw [List.drop_eq_getElem_cons bound]
      simp only [ByteArray.get!, Array.getElem_toList, getElem!_pos b.data i within]
    rw [ih, next, List.reverse_cons, List.append_assoc]
    rfl
  | case2 i passed beyond =>
    have done : b.data.toList.drop i = [] := List.drop_eq_nil_of_le (Nat.le_of_not_lt beyond)
    rw [done, List.append_nil]

theorem toList_byteArray (b : ByteArray) : b.toList = b.data.toList := by
  rw [ByteArray.toList, toList_loop]
  rfl

theorem utf8_append (s t : String) :
    (s ++ t).toUTF8.toList = s.toUTF8.toList ++ t.toUTF8.toList := by
  simp [toList_byteArray, String.toUTF8]

theorem utf8_injective {s t : String} (same : s.toUTF8.toList = t.toUTF8.toList) : s = t := by
  rw [toList_byteArray, toList_byteArray] at same
  exact String.toByteArray_inj.1 (ByteArray.ext (Array.toList_inj.1 same))

/-- A text whose octets start with those of another text starts with that text. -/
theorem utf8_continued {s t : String} {rest : List UInt8}
    (octets : t.toUTF8.toList = s.toUTF8.toList ++ rest) :
    ∃ more : String, t = s ++ more ∧ more.toUTF8.toList = rest := by
  have split : t.toByteArray = s.toByteArray ++ ⟨rest.toArray⟩ := by
    rw [toList_byteArray, toList_byteArray] at octets
    exact ByteArray.ext (Array.toList_inj.1 (by simpa using octets))
  have start : t.toByteArray.extract 0 s.utf8ByteSize = s.toByteArray := by
    rw [split]
    exact ByteArray.extract_append_eq_left String.size_toByteArray.symm
  -- Where the other text ends, a character of this one ends.
  have boundary : String.Pos.Raw.IsValid t ⟨s.utf8ByteSize⟩ := by
    refine String.Pos.Raw.isValid_iff_isValidUTF8_extract_zero.2 ⟨?_, ?_⟩
    · have size := congrArg ByteArray.size split
      rw [ByteArray.size_append, String.size_toByteArray, String.size_toByteArray] at size
      exact String.Pos.Raw.le_iff.2 (Nat.le.intro size.symm)
    · rw [start]
      exact s.isValidUTF8
  obtain ⟨before, after, first, whole⟩ := boundary.exists
  have same : String.ofList before = s := by
    rw [← String.toByteArray_inj, String.toByteArray_ofList, first, start]
  rw [String.ofList_append, same] at whole
  refine ⟨String.ofList after, whole.symm, ?_⟩
  rw [← whole, utf8_append] at octets
  exact List.append_cancel_left octets

/-- A text is read from its octets. -/
theorem fromUTF8?_toUTF8 (s : String) : String.fromUTF8? ⟨s.toUTF8.toList.toArray⟩ = some s := by
  have octets : (⟨s.toUTF8.toList.toArray⟩ : ByteArray) = s.toUTF8 := by
    rw [toList_byteArray, Array.toArray_toList]
  rw [octets, String.fromUTF8?, String.toUTF8_eq_toByteArray, dif_pos s.isValidUTF8]
  rfl

end RecordGate
