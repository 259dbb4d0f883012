import Mathlib.Data.List.Basic
import Mathlib.Data.Char
import Mathlib.Tactic.SplitIfs

/-!
# The order of texts by their bytes

Texts are compared character by character. `utf8_lt_iff` says that this is the order of their UTF-8
bytes as well: the bytes of a smaller character are neither greater than those of a greater one nor
the beginning of them.
-/

set_option autoImplicit false

namespace CertaintyFactor.Text

/-- The UTF-8 bytes of a text. -/
def utf8 (text : String) : List UInt8 :=
  text.toUTF8.data.toList

theorem utf8_eq_flatMap (text : String) :
    utf8 text = text.toList.flatMap String.utf8EncodeChar := by
  conv => lhs; rw [← String.ofList_toList (s := text)]
  rw [utf8, String.toUTF8_eq_toByteArray, String.toByteArray_ofList, List.utf8Encode,
    List.data_toByteArray]

/-- The bytes of a smaller character stay smaller, whatever follows. -/
theorem utf8EncodeChar_append_lt {c d : Char} (h : c < d) (s t : List UInt8) :
    String.utf8EncodeChar c ++ s < String.utf8EncodeChar d ++ t := by
  have hlt : c.val.toNat < d.val.toNat := h
  have hmax : d.val.toNat < 0x110000 := by
    rcases d.valid with h | h <;> omega
  unfold String.utf8EncodeChar
  generalize c.val.toNat = v at *
  generalize d.val.toNat = w at *
  dsimp only
  split_ifs <;>
    simp (disch := omega) only [List.cons_append, List.nil_append, List.cons_lt_cons_iff,
      UInt8.lt_iff_toNat_lt, ← UInt8.toNat_inj, UInt8.toNat_ofNat', Nat.reducePow,
      Nat.mod_eq_of_lt] <;>
    omega

theorem append_lt_append_iff (l s t : List UInt8) : l ++ s < l ++ t ↔ s < t := by
  induction l with
  | nil => rfl
  | cons b l ih => rw [List.cons_append, List.cons_append, List.cons_lt_cons_self, ih]

theorem flatMap_utf8EncodeChar_lt_iff (s t : List Char) :
    s.flatMap String.utf8EncodeChar < t.flatMap String.utf8EncodeChar ↔ s < t := by
  induction s generalizing t with
  | nil =>
    cases t with
    | nil => simp
    | cons d t =>
      obtain ⟨b, bytes, hd⟩ := List.exists_cons_of_ne_nil (String.utf8EncodeChar_ne_nil (c := d))
      simp [hd]
  | cons c s ih =>
    cases t with
    | nil => simp
    | cons d t =>
      rw [List.flatMap_cons, List.flatMap_cons, List.cons_lt_cons_iff]
      rcases lt_trichotomy c d with hcd | rfl | hdc
      · simp only [hcd, true_or, iff_true]
        exact utf8EncodeChar_append_lt hcd _ _
      · simp [append_lt_append_iff, ih]
      · have hgreater := utf8EncodeChar_append_lt hdc (t.flatMap String.utf8EncodeChar)
          (s.flatMap String.utf8EncodeChar)
        simp only [List.lt_asymm hgreater, not_lt_of_gt hdc, ne_of_gt hdc, false_and, or_self]

/-- Texts are ordered by their bytes. -/
theorem utf8_lt_iff (a b : String) : utf8 a < utf8 b ↔ a < b := by
  rw [utf8_eq_flatMap, utf8_eq_flatMap, flatMap_utf8EncodeChar_lt_iff]
  rfl

end CertaintyFactor.Text
