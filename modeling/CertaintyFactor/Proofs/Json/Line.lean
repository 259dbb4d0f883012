import CertaintyFactor.Json.Write
import CertaintyFactor.Proofs.Decimal.Digits
import CertaintyFactor.Proofs.Text.Line

/-!
# Documents on one line

The text of a document on one line has no line ends in it, whatever stands in its strings.
-/

set_option autoImplicit false

namespace CertaintyFactor.Json

open Text (IsLine)

/-! ## Numbers -/

theorem isLine_of_isDigit {row : List Char} (h : ∀ c ∈ row, c.isDigit) : IsLine row := by
  intro c hc
  have hdigit := h c hc
  constructor <;> (rintro rfl; cases hdigit)

theorem isLine_toDigits (n : Nat) : IsLine (Decimal.toDigits n) :=
  isLine_of_isDigit fun _ => Decimal.isDigit_of_mem_toDigits

theorem isLine_zeros (n : Nat) : IsLine (List.replicate n '0') := by
  intro c hc
  rw [List.eq_of_mem_replicate hc]
  decide

theorem isLine_integerText (n : Int) : IsLine (Decimal.integerText n).toList := by
  cases n with
  | ofNat m =>
    rw [Decimal.integerText, String.toList_ofList]
    exact isLine_toDigits m
  | negSucc m =>
    rw [Decimal.integerText, String.toList_ofList]
    exact .cons (by decide) (isLine_toDigits (m + 1))

theorem isLine_positionalText (d : Decimal) :
    IsLine (Decimal.Layout.json.positionalText d) := by
  simp only [Decimal.Layout.positionalText]
  split
  · exact ((isLine_toDigits _).append (isLine_zeros _)).append (by decide)
  · next e _ =>
    have hrow := (isLine_zeros (e + 2 - (Decimal.toDigits d.digits).length)).append
      (isLine_toDigits d.digits)
    exact .append (fun c hc => hrow c (List.mem_of_mem_take hc))
      (.cons (by decide) fun c hc => hrow c (List.mem_of_mem_drop hc))

theorem isLine_exponentText (d : Decimal) (place : Int) :
    IsLine (Decimal.Layout.exponentText d place) := by
  have hrow := isLine_toDigits d.digits
  have hrest : IsLine ((Decimal.toDigits d.digits).drop 1) :=
    fun c hc => hrow c (List.mem_of_mem_drop hc)
  simp only [Decimal.Layout.exponentText]
  refine .append (.append (fun c hc => hrow c (List.mem_of_mem_take hc)) ?_)
    (.cons (by decide) (.cons ?_ (isLine_toDigits _)))
  · split
    · decide
    · exact .cons (by decide) hrest
  · split <;> decide

theorem isLine_floatText (x : Binary64) : IsLine (Decimal.Layout.json.text x).toList := by
  cases x with
  | nan => decide
  | signed negative m =>
    simp only [Decimal.Layout.text]
    split
    · rw [String.toList_ofList]
      refine .append (by cases negative <;> decide) ?_
      unfold Decimal.Layout.magnitudeText
      split
      · decide
      · dsimp only
        split
        · exact isLine_positionalText _
        · exact isLine_exponentText _ _
    · cases negative <;> decide

/-! ## Strings -/

theorem isLine_hexPair : ∀ n < 0x20, IsLine (hexPair n) := by
  decide

theorem isLine_stringChar (c : Char) : IsLine (stringChar c) := by
  unfold stringChar
  split
  · next h =>
    rw [Bool.or_eq_true, decide_eq_true_eq, decide_eq_true_eq] at h
    rcases h with rfl | rfl <;> decide
  split
  · decide
  split
  · decide
  split
  · decide
  next hnewline =>
  split
  · decide
  split
  · decide
  next hreturn =>
  split
  · next h => exact .append (by decide) (isLine_hexPair _ h)
  · exact .cons ⟨hnewline, hreturn⟩ (by decide)

theorem isLine_stringText (text : String) : IsLine (stringText text) := by
  refine .append (.cons (by decide) fun c hc => ?_) (by decide)
  obtain ⟨d, -, hd⟩ := List.mem_flatMap.1 hc
  exact isLine_stringChar d c hd

/-! ## Documents -/

/-- What stands before an item or member. -/
theorem isLine_comma (first : Bool) : IsLine (if first then [] else [',']) := by
  cases first <;> decide

mutual

theorem isLine_compactChars : ∀ document : Json, IsLine (compactChars document)
  | .null => by decide
  | .bool true => by decide
  | .bool false => by decide
  | .integer n => isLine_integerText n
  | .float x => isLine_floatText x
  | .string text => isLine_stringText text
  | .array items => by
    rw [compactChars]
    exact .cons (by decide) (isLine_compactItems true items)
  | .object members => by
    rw [compactChars]
    exact .cons (by decide) (isLine_compactMembers true members)

theorem isLine_compactItems (first : Bool) : ∀ items : List Json, IsLine (compactItems first items)
  | [] => by
    rw [compactItems]
    decide
  | item :: items => by
    rw [compactItems]
    exact ((isLine_comma first).append (isLine_compactChars item)).append
      (isLine_compactItems false items)

theorem isLine_compactMembers (first : Bool) :
    ∀ members : List (String × Json), IsLine (compactMembers first members)
  | [] => by
    rw [compactMembers]
    decide
  | (name, value) :: members => by
    rw [compactMembers]
    exact (((isLine_comma first).append (isLine_stringText name)).append
      (.cons (by decide) (isLine_compactChars value))).append (isLine_compactMembers false members)

end

end CertaintyFactor.Json
