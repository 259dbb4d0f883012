import Mathlib.Data.List.Basic

/-!
# Bytes of texts

What becomes of the bytes of a text that was cut short: they are those of a beginning of it if they
are bytes of a text at all.
-/

set_option autoImplicit false

namespace CertaintyFactor.Text

theorem fromUTF8?_toUTF8 (text : String) : String.fromUTF8? text.toUTF8 = some text :=
  dif_pos text.isValidUTF8

theorem fromUTF8?_eq_none {bytes : ByteArray} (h : ¬bytes.IsValidUTF8) :
    String.fromUTF8? bytes = none :=
  dif_neg h

theorem toUTF8_append (s t : String) : (s ++ t).toUTF8 = s.toUTF8 ++ t.toUTF8 :=
  rfl

theorem exists_toUTF8_eq {bytes : ByteArray} (h : bytes.IsValidUTF8) :
    ∃ text : String, text.toUTF8 = bytes :=
  ⟨.fromUTF8 bytes h, rfl⟩

theorem isValidUTF8_utf8Encode_append_iff (text : List Char) (bytes : ByteArray) :
    (text.utf8Encode ++ bytes).IsValidUTF8 ↔ bytes.IsValidUTF8 := by
  induction text with
  | nil => simp
  | cons c text ih =>
    rw [List.utf8Encode_cons, ByteArray.append_assoc,
      ByteArray.isValidUTF8_utf8Encode_singleton_append_iff, ih]

/-- What follows a text decides whether the whole is one. -/
theorem isValidUTF8_toUTF8_append_iff (text : String) (bytes : ByteArray) :
    (text.toUTF8 ++ bytes).IsValidUTF8 ↔ bytes.IsValidUTF8 := by
  rw [String.toUTF8_eq_toByteArray, ← String.utf8Encode_toList]
  exact isValidUTF8_utf8Encode_append_iff text.toList bytes

/-- A text whose bytes begin those of another one begins it. -/
theorem exists_toList_eq_append {s t : String} {more : ByteArray}
    (h : s.toUTF8 ++ more = t.toUTF8) (hmore : more ≠ .empty) :
    ∃ rest, t.toList = s.toList ++ rest ∧ rest ≠ [] := by
  rw [String.toUTF8_eq_toByteArray, String.toUTF8_eq_toByteArray, ← String.utf8Encode_toList,
    ← String.utf8Encode_toList] at h
  obtain ⟨rest, hrest⟩ := List.isPrefix_of_utf8Encode_append_eq_utf8Encode more h
  refine ⟨rest, hrest.symm, ?_⟩
  rintro rfl
  rw [List.append_nil] at hrest
  rw [hrest, ← ByteArray.append_empty (b := t.toList.utf8Encode), ByteArray.append_assoc,
    ByteArray.empty_append] at h
  exact hmore ((ByteArray.append_right_inj _).1 h)

end CertaintyFactor.Text
