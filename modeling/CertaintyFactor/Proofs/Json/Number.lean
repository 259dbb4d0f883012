import CertaintyFactor.Json.Number
import CertaintyFactor.Proofs.Json.Reader
import Mathlib.Data.List.TakeDrop

/-!
# Numbers by their runs of digits

The readers of numbers, put together from steps that each take one part of a number off the text: a
run of digits, or the sign of an exponent. The equations serve twice. The steps are steady, so the
readers are, and what a reader does on a number that was written follows part by part.
-/

set_option autoImplicit false

namespace CertaintyFactor.Json.Number

open Reader

/-- The digits that come next. -/
def digitRun : Reader (List Char) := do
  let text ← get
  set (text.dropWhile Char.isDigit)
  return text.takeWhile Char.isDigit

/-- The sign of an exponent, as "is negative". -/
def signMark : Reader Bool := do
  let text ← get
  set (exponentSign text).2
  return (exponentSign text).1

@[simp] theorem read?_digitRun (text : List Char) :
    digitRun.read? text = some (text.takeWhile Char.isDigit, text.dropWhile Char.isDigit) :=
  rfl

@[simp] theorem read?_signMark (text : List Char) :
    signMark.read? text = some (exponentSign text) :=
  rfl

theorem steady_digitRun : digitRun.Steady := by
  intro text digits rest hread
  obtain ⟨rfl, rfl⟩ := Prod.mk.inj (Option.some.inj hread)
  refine ⟨text.takeWhile Char.isDigit, List.takeWhile_append_dropWhile.symm, fun next hhead => ?_⟩
  rw [read?_digitRun, dropWhile_takeWhile_append hhead, takeWhile_takeWhile_append hhead]

/-- A number takes the run of digits it begins with, which has to be there. -/
theorem busy_digitRun {α : Type} {f : List Char → Reader α} (hf : ∀ digits, (f digits).Steady)
    (hnil : ∀ text, (f []).read? text = none) : (digitRun >>= f).Busy := by
  intro text a rest hread
  rw [read?_bind, read?_digitRun, Option.bind_some] at hread
  have hle := (hf _).length_le hread
  cases text with
  | nil => cases (hnil []).symm.trans hread
  | cons c text =>
    by_cases hc : c.isDigit
    · rw [List.dropWhile_cons_of_pos hc] at hle
      exact Nat.lt_succ_of_le (Nat.le_trans hle (List.length_dropWhile_le _ _))
    · rw [List.takeWhile_cons_of_neg hc] at hread
      cases (hnil _).symm.trans hread

theorem steady_signMark : signMark.Steady := by
  intro text down rest hread
  rw [read?_signMark] at hread
  unfold exponentSign at hread
  split at hread
  · obtain ⟨rfl, rfl⟩ := Prod.mk.inj (Option.some.inj hread)
    exact ⟨['+'], rfl, fun _ _ => rfl⟩
  · obtain ⟨rfl, rfl⟩ := Prod.mk.inj (Option.some.inj hread)
    exact ⟨['-'], rfl, fun _ _ => rfl⟩
  · next hplus hminus =>
    obtain ⟨rfl, rfl⟩ := Prod.mk.inj (Option.some.inj hread)
    refine ⟨[], rfl, fun next hhead => ?_⟩
    rw [List.nil_append, read?_signMark]
    unfold exponentSign
    split
    · next rest => exact absurd (List.eq_cons_of_mem_head? hhead.symm) (hplus text.tail)
    · next rest => exact absurd (List.eq_cons_of_mem_head? hhead.symm) (hminus text.tail)
    · rfl

/-! ## The readers by parts -/

/-- The number of an exponent whose sign and digits are known. -/
def ofExponent (negative : Bool) (value : Nat) (start : Int) (down : Bool) (digits : List Char) :
    Reader Binary64 :=
  let exponent := Decimal.ofDigits digits
  if maxExponent < exponent then
    if value ≠ 0 && !down then fail .numberOutOfRange
    else return .signed negative .zero
  else ofParts negative value (if down then start - exponent else start + exponent)

theorem read?_withExponent (negative : Bool) (value : Nat) (start : Int) (text : List Char) :
    (withExponent negative value start).read? text = (do
      skip
      let down ← signMark
      let digits ← digitRun
      if digits.isEmpty then fail .invalidNumber
      else ofExponent negative value start down digits : Reader Binary64).read? text := by
  simp only [withExponent, read?_bind, read?_skip, read?_get, read?_set, read?_first?,
    Option.bind_some, read?_signMark, read?_digitRun]
  generalize exponentSign text.tail = sign
  obtain ⟨down, text⟩ := sign
  cases text with
  | nil => simp
  | cons c text =>
    by_cases hc : c.isDigit <;>
      simp [hc, List.span_eq_takeWhile_dropWhile, ofExponent]

theorem read?_withFraction (negative : Bool) (value : Nat) (start : Int) (text : List Char) :
    (withFraction negative value start).read? text = (do
      skip
      let digits ← digitRun
      let (longer, left) := significand.take value digits
      if digits.isEmpty then fail .invalidNumber
      else afterFraction negative longer (start - (digits.length - left.length : Nat)) :
        Reader Binary64).read? text := by
  simp only [withFraction, read?_bind, read?_skip, read?_first?, Option.bind_some, read?_digitRun]
  cases text.tail with
  | nil => simp
  | cons c text =>
    by_cases hc : c.isDigit <;>
      simp [hc, List.span_eq_takeWhile_dropWhile, significand]

/-- What follows the digits before a point, which are known. -/
def afterDigits (negative : Bool) (value : Nat) (left : List Char) : Reader Json := do
  match ← first? with
  | some '.' => return .float (← withFraction negative value left.length)
  | some 'e' | some 'E' => return .float (← withExponent negative value left.length)
  | _ =>
    if !left.isEmpty then return .float (← ofParts negative value left.length)
    else if !negative then return .integer value
    else if value = 0 || 0x8000000000000000 < value then return .float (-Binary64.ofNat value)
    else return .integer (-value)

theorem read?_unsigned (negative : Bool) (text : List Char) :
    (unsigned negative).read? text = (do
      let digits ← digitRun
      let (value, left) := significand.take 0 digits
      if digits.isEmpty || (digits.head? = some '0' && 1 < digits.length) then fail .invalidNumber
      else afterDigits negative value left : Reader Json).read? text := by
  simp only [unsigned, read?_bind, read?_get, Option.bind_some, read?_digitRun]
  cases text with
  | nil => simp
  | cons c text =>
    by_cases hc : c.isDigit
    · have hlong : (text.head?.any Char.isDigit) =
          decide (1 < ((c :: text).takeWhile Char.isDigit).length) := by
        cases text with
        | nil => simp [hc]
        | cons d text => by_cases hd : d.isDigit <;> simp [hc, hd]
      simp only [significand, List.span_eq_takeWhile_dropWhile, hlong, hc,
        List.takeWhile_cons_of_pos, List.dropWhile_cons_of_pos, List.isEmpty_cons, List.head?_cons,
        Option.some.injEq, Bool.not_true, Bool.false_or]
      split
      · rfl
      · change (set _ >>= fun _ => afterDigits negative _ _ : Reader Json).read? _ = _
        simp only [read?_bind, read?_set, Option.bind_some]
    · simp [hc]

theorem skipExponent_eq : skipExponent = (do
    skip
    let _ ← signMark
    let digits ← digitRun
    if digits.isEmpty then fail .invalidNumber else pure () : Reader Unit) := by
  simp only [skipExponent, signMark, digitRun, bind_assoc, pure_bind,
    List.span_eq_takeWhile_dropWhile]
  rfl

/-- What follows the digits before a point, only passed over. -/
def skipAfterDigits : Reader Unit := do
  match ← first? with
  | some '.' =>
    skip
    let digits ← digitRun
    if digits.isEmpty then fail .invalidNumber else skipAfterFraction
  | _ => skipAfterFraction

/-- A number after its sign, only passed over. -/
def skipUnsigned : Reader Unit := do
  let digits ← digitRun
  if digits.isEmpty || (digits.head? = some '0' && 1 < digits.length) then fail .invalidNumber
  else skipAfterDigits

theorem skipped_eq : skipped = (do
    if (← first?) = some '-' then skip
    skipUnsigned : Reader Unit) := by
  have hskipped := skipped.eq_def
  simp only [List.span_eq_takeWhile_dropWhile] at hskipped
  simp only [skipUnsigned, skipAfterDigits, digitRun, bind_assoc, pure_bind]
  exact hskipped

/-! ## Steadiness -/

theorem steady_ofParts (negative : Bool) (value : Nat) (exponent : Int) :
    (ofParts negative value exponent).Steady := by
  cases exponent with
  | negSucc e => exact .pure _
  | ofNat e => exact .ite (.ite (.pure _) (.fail _)) (.ite (.fail _) (.pure _))

theorem steady_ofExponent (negative : Bool) (value : Nat) (start : Int) (down : Bool)
    (digits : List Char) : (ofExponent negative value start down digits).Steady :=
  .ite (.ite (.fail _) (.pure _)) (steady_ofParts _ _ _)

theorem steady_withExponent (negative : Bool) (value : Nat) (start : Int) :
    (withExponent negative value start).Steady :=
  .congr (read?_withExponent negative value start) <|
    steady_skip.bind fun _ => steady_signMark.bind fun _ => steady_digitRun.bind fun _ =>
      .ite (.fail _) (steady_ofExponent _ _ _ _ _)

theorem steady_afterFraction (negative : Bool) (value : Nat) (exponent : Int) :
    (afterFraction negative value exponent).Steady := by
  refine steady_first?.bind fun c => ?_
  split
  · exact steady_withExponent _ _ _
  · exact steady_withExponent _ _ _
  · exact steady_ofParts _ _ _

theorem steady_withFraction (negative : Bool) (value : Nat) (start : Int) :
    (withFraction negative value start).Steady :=
  .congr (read?_withFraction negative value start) <|
    steady_skip.bind fun _ => steady_digitRun.bind fun _ =>
      .ite (.fail _) (steady_afterFraction _ _ _)

theorem steady_afterDigits (negative : Bool) (value : Nat) (left : List Char) :
    (afterDigits negative value left).Steady := by
  refine steady_first?.bind fun c => ?_
  split
  · exact (steady_withFraction _ _ _).bind fun _ => .pure _
  · exact (steady_withExponent _ _ _).bind fun _ => .pure _
  · exact (steady_withExponent _ _ _).bind fun _ => .pure _
  · exact .ite ((steady_ofParts _ _ _).bind fun _ => .pure _)
      (.ite (.pure _) (.ite (.pure _) (.pure _)))

theorem steady_unsigned (negative : Bool) : (unsigned negative).Steady :=
  .congr (read?_unsigned negative) <|
    steady_digitRun.bind fun _ => .ite (.fail _) (steady_afterDigits _ _ _)

theorem steady_number : number.Steady := by
  refine steady_first?.bind fun c => ?_
  split
  · exact steady_skip.bind fun _ => steady_unsigned true
  · exact steady_unsigned false

theorem busy_number : number.Busy := by
  have hunsigned (negative : Bool) : (unsigned negative).Busy :=
    .congr (read?_unsigned negative) <|
      busy_digitRun (fun _ => .ite (.fail _) (steady_afterDigits _ _ _)) fun _ => rfl
  refine .after steady_first? fun c => ?_
  split
  · exact .after steady_skip fun _ => hunsigned true
  · exact hunsigned false

theorem steady_skipExponent : skipExponent.Steady := by
  rw [skipExponent_eq]
  exact steady_skip.bind fun _ => steady_signMark.bind fun _ => steady_digitRun.bind fun _ =>
    .ite (.fail _) (.pure _)

theorem steady_skipAfterFraction : skipAfterFraction.Steady := by
  refine steady_first?.bind fun c => ?_
  split
  · exact steady_skipExponent
  · exact steady_skipExponent
  · exact .pure _

theorem steady_skipAfterDigits : skipAfterDigits.Steady := by
  refine steady_first?.bind fun c => ?_
  split
  · exact steady_skip.bind fun _ => steady_digitRun.bind fun _ =>
      .ite (.fail _) steady_skipAfterFraction
  · exact steady_skipAfterFraction

theorem busy_skipUnsigned : skipUnsigned.Busy :=
  busy_digitRun (fun _ => .ite (.fail _) steady_skipAfterDigits) fun _ => rfl

theorem steady_skipped : skipped.Steady := by
  have hunsigned : skipUnsigned.Steady :=
    steady_digitRun.bind fun _ => .ite (.fail _) steady_skipAfterDigits
  rw [skipped_eq]
  refine steady_first?.bind fun c => ?_
  split
  · exact steady_skip.bind fun _ => hunsigned
  · exact hunsigned

theorem busy_skipped : skipped.Busy := by
  rw [skipped_eq]
  refine .after steady_first? fun c => ?_
  split
  · exact .after steady_skip fun _ => busy_skipUnsigned
  · exact busy_skipUnsigned

end CertaintyFactor.Json.Number
