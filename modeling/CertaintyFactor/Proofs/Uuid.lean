import CertaintyFactor.Uuid
import Mathlib.Algebra.Ring.Nat
import Mathlib.Data.String.Basic

/-!
# The text of an identifier

The hyphenated form of an identifier is read as that identifier (`Uuid.parse_text`): it has the
right size, none of its characters is out of place, and its groups are the ones it was put together
from.
-/

set_option autoImplicit false

namespace CertaintyFactor.Uuid

/-! ## Digits -/

/-- A digit as identifiers are written with it. -/
def IsDigit (c : Char) : Prop :=
  ∃ d < 16, c = Nat.digitChar d

theorem isDigit_toDigits (n : Nat) : ∀ c ∈ Nat.toDigits 16 n, IsDigit c := by
  induction n using Nat.strongRecOn with
  | ind n ih =>
    rcases Nat.lt_or_ge n 16 with hlt | hge
    · rw [Nat.toDigits_of_lt_base hlt]
      rintro c hc
      exact ⟨n, hlt, List.mem_singleton.1 hc⟩
    · rw [Nat.toDigits_of_base_le (by decide) hge]
      intro c hc
      rcases List.mem_append.1 hc with hc | hc
      · exact ih (n / 16) (by omega) c hc
      · exact ⟨n % 16, Nat.mod_lt n (by decide), List.mem_singleton.1 hc⟩

theorem isDigit_digits (id : Uuid) : ∀ c ∈ id.digits, IsDigit c := by
  intro c hc
  rcases List.mem_append.1 hc with hc | hc
  · exact ⟨0, by decide, List.eq_of_mem_replicate hc⟩
  · exact isDigit_toDigits id.value c hc

theorem length_digits (id : Uuid) : id.digits.length = 32 := by
  have hle : (Nat.toDigits 16 id.value).length ≤ 32 := by
    rw [Nat.length_toDigits_le_iff (by decide) (by decide)]
    exact id.value_lt
  simp only [digits, List.length_append, List.length_replicate]
  omega

theorem hexValue_digitChar : ∀ d < 16, hexValue (Nat.digitChar d) = d := by
  decide

/-- The digits of a number write it. -/
theorem foldl_toDigits (n : Nat) :
    (Nat.toDigits 16 n).foldl (fun m c => 16 * m + hexValue c) 0 = n := by
  induction n using Nat.strongRecOn with
  | ind n ih =>
    rcases Nat.lt_or_ge n 16 with hlt | hge
    · rw [Nat.toDigits_of_lt_base hlt]
      simp [hexValue_digitChar n hlt]
    · rw [Nat.toDigits_of_base_le (by decide) hge, List.foldl_append, ih (n / 16) (by omega)]
      simp only [List.foldl_cons, List.foldl_nil,
        hexValue_digitChar (n % 16) (Nat.mod_lt n (by decide))]
      omega

theorem ofDigits_digits (id : Uuid) : ofDigits id.digits = id := by
  have hzeros (k : Nat) : (List.replicate k '0').foldl (fun m c => 16 * m + hexValue c) 0 = 0 := by
    induction k with
    | zero => rfl
    | succ k ih => exact ih
  have hvalue : id.digits.foldl (fun m c => 16 * m + hexValue c) 0 = id.value := by
    simp only [digits]
    rw [List.foldl_append, hzeros, foldl_toDigits]
  cases id with
  | mk value value_lt => simp only [ofDigits, hvalue, Nat.mod_eq_of_lt value_lt]

/-! ## The hyphenated form -/

theorem flatten_grouped {lengths : List Nat} {row : List Char} (h : row.length = lengths.sum) :
    (grouped lengths row).flatten = row := by
  induction lengths generalizing row with
  | nil => exact (List.eq_nil_of_length_eq_zero h).symm
  | cons n lengths ih =>
    have hrest : (row.drop n).length = lengths.sum := by
      rw [List.length_drop, h, List.sum_cons, Nat.add_sub_cancel_left]
    rw [grouped, List.flatten_cons, ih hrest, List.take_append_drop]

theorem map_length_grouped {lengths : List Nat} {row : List Char} (h : row.length = lengths.sum) :
    (grouped lengths row).map List.length = lengths := by
  induction lengths generalizing row with
  | nil => rfl
  | cons n lengths ih =>
    rw [List.sum_cons] at h
    have hrest : (row.drop n).length = lengths.sum := by
      rw [List.length_drop, h, Nat.add_sub_cancel_left]
    rw [grouped, List.map_cons, ih hrest, List.length_take, h,
      Nat.min_eq_left (Nat.le_add_right _ _)]

/-- The groups of an identifier. -/
def groups (id : Uuid) : List (List Char) :=
  grouped groupLengths id.digits

theorem isDigit_groups (id : Uuid) : ∀ group ∈ id.groups, ∀ c ∈ group, IsDigit c := by
  intro group hgroup c hc
  have hmem : c ∈ id.groups.flatten := List.mem_flatten.2 ⟨group, hgroup, hc⟩
  rw [groups, flatten_grouped (length_digits id)] at hmem
  exact isDigit_digits id c hmem

theorem toList_text (id : Uuid) : id.text.toList = ['-'].intercalate id.groups := by
  rw [text, String.toList_ofList, groups]

/-- A text of digits in groups has no other characters than digits and hyphens. -/
theorem mem_intercalate {groups : List (List Char)} {c : Char} (h : c ∈ ['-'].intercalate groups) :
    c = '-' ∨ ∃ group ∈ groups, c ∈ group := by
  induction groups with
  | nil => cases h
  | cons group groups ih =>
    cases groups with
    | nil => exact .inr ⟨group, List.mem_cons_self, by simpa using h⟩
    | cons next groups =>
      rw [List.intercalate_cons_cons, List.append_assoc] at h
      rcases List.mem_append.1 h with h | h
      · exact .inr ⟨group, List.mem_cons_self, h⟩
      rcases List.mem_cons.1 h with h | h
      · exact .inl h
      · rcases ih h with h | ⟨group', hgroup, h⟩
        · exact .inl h
        · exact .inr ⟨group', List.mem_cons_of_mem _ hgroup, h⟩

theorem isDigit_text (id : Uuid) : ∀ c ∈ id.text.toList, c = '-' ∨ IsDigit c := by
  intro c hc
  rw [toList_text] at hc
  exact (mem_intercalate hc).imp_right fun ⟨group, hgroup, hc⟩ =>
    isDigit_groups id group hgroup c hc

theorem head?_text (id : Uuid) : ∃ d < 16, id.text.toList.head? = some (Nat.digitChar d) := by
  obtain ⟨c, row, hrow⟩ := List.exists_cons_of_length_pos (l := id.digits)
    (by rw [length_digits]; decide)
  obtain ⟨d, hd, rfl⟩ := isDigit_digits id c (hrow ▸ List.mem_cons_self)
  refine ⟨d, hd, ?_⟩
  rw [toList_text, groups, hrow]
  rfl

theorem length_intercalate {groups : List (List Char)} (h : groups ≠ []) :
    (['-'].intercalate groups).length + 1 = (groups.map List.length).sum + groups.length := by
  induction groups with
  | nil => exact absurd rfl h
  | cons group groups ih =>
    cases groups with
    | nil => simp
    | cons next groups =>
      have hrest := ih (List.cons_ne_nil _ _)
      simp only [List.intercalate_cons_cons, List.length_append, List.map_cons, List.sum_cons,
        List.length_cons, List.length_nil] at hrest ⊢
      omega

theorem length_text (id : Uuid) : id.text.toList.length = hyphenatedSize := by
  have hlengths : id.groups.map List.length = groupLengths :=
    map_length_grouped (length_digits id)
  have hcount : id.groups.length = 5 := rfl
  have hne : id.groups ≠ [] := List.cons_ne_nil _ _
  have hlength := length_intercalate hne
  rw [hlengths, hcount] at hlength
  rw [toList_text]
  exact Nat.succ.inj hlength

theorem utf8Len_eq_length {text : List Char} (h : ∀ c ∈ text, c.utf8Size = 1) :
    String.utf8Len text = text.length := by
  induction text with
  | nil => rfl
  | cons c text ih =>
    rw [String.utf8Len_cons, ih fun c' hc' => h c' (List.mem_cons_of_mem c hc'),
      h c List.mem_cons_self, List.length_cons]

theorem utf8ByteSize_text (id : Uuid) : id.text.utf8ByteSize = hyphenatedSize := by
  have hsize : ∀ d < 16, (Nat.digitChar d).utf8Size = 1 := by
    decide
  rw [← String.ofList_toList (s := id.text), String.utf8ByteSize_ofList,
    utf8Len_eq_length, length_text]
  intro c hc
  rcases isDigit_text id c hc with rfl | ⟨d, hd, rfl⟩
  · rfl
  · exact hsize d hd

theorem fault?_eq_none {text : List Char} (h : ∀ c ∈ text, c = '-' ∨ IsDigit c) (position : Nat) :
    fault? position text = none := by
  have hdigit : ∀ d < 16, isHexDigit (Nat.digitChar d) := by
    decide
  induction text generalizing position with
  | nil => rfl
  | cons c text ih =>
    have hc : c = '-' || isHexDigit c := by
      rcases h c List.mem_cons_self with rfl | ⟨d, hd, rfl⟩
      · rfl
      · rw [hdigit d hd, Bool.or_true]
    rw [fault?, if_pos hc]
    exact ih (fun c' hc' => h c' (List.mem_cons_of_mem c hc')) _

/-- The hyphenated form stands in no braces and is no URN. -/
theorem unwrap_text (id : Uuid) : unwrap id.text.toList = (id.text.toList, true) := by
  obtain ⟨d, hd, hhead⟩ := head?_text id
  have hother : ∀ d < 16, Nat.digitChar d ≠ '\x7b' ∧ (Nat.digitChar d).toLower ≠ 'u' := by
    decide
  obtain ⟨hbrace, hurn⟩ := hother d hd
  obtain ⟨more, hmore⟩ := List.head?_eq_some_iff.1 hhead
  have hprefix : urnStart.isPrefixOf ((Nat.digitChar d :: more).map Char.toLower) = false := by
    have hstart : urnStart = 'u' :: urnStart.tail := rfl
    rw [hstart, List.map_cons, List.isPrefixOf, beq_false_of_ne hurn.symm, Bool.false_and]
  have hbraces : (Nat.digitChar d :: more).head? ≠ some '\x7b' := by
    rw [List.head?_cons]
    exact fun h => hbrace (Option.some.inj h)
  rw [hmore, unwrap, hprefix]
  simp only [decide_eq_false hbraces, Bool.false_and, Bool.false_eq_true, if_false]

/-- The text of an identifier is read as that identifier. -/
theorem parse_text (id : Uuid) : parse id.text = .ok id := by
  have hgroups : id.text.toList.splitOn '-' = id.groups := by
    rw [toList_text]
    refine List.splitOn_intercalate '-' (fun group hgroup hmem => ?_)
      (by simp [groups, groupLengths, grouped])
    obtain ⟨d, hd, h⟩ := isDigit_groups id group hgroup '-' hmem
    revert d
    decide
  have hlengths : id.groups.map List.length = groupLengths :=
    map_length_grouped (length_digits id)
  have hsize : ¬longestSize < id.text.utf8ByteSize := by
    rw [utf8ByteSize_text]
    decide
  have hflatten : id.groups.flatten = id.digits := flatten_grouped (length_digits id)
  simp only [parse, if_neg hsize, unwrap_text, fault?_eq_none (isDigit_text id), hgroups, hlengths,
    hflatten, ofDigits_digits]
  simp

theorem normalize_text (id : Uuid) : normalize id.text = .ok id.text := by
  rw [normalize, parse_text]

end CertaintyFactor.Uuid
