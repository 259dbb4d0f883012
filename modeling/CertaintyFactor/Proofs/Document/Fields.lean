import CertaintyFactor.Document.Diagnosis
import CertaintyFactor.Proofs.Json.Layout
import CertaintyFactor.Proofs.Json.NumberText

/-!
# Fields of documents

What becomes of a field's value once it was written, in any layout: texts and numbers of 64 bits
stay as they are, a binary64 number becomes what it is read as again, and one that is not finite is
lost, since it is written as `null`.
-/

set_option autoImplicit false

namespace CertaintyFactor

/-- What a number is read as once it was written, if it is read as a number at all. -/
def Binary64.reread? (x : Binary64) : Option Binary64 :=
  if x.isFinite then some x.reread else none

theorem Binary64.isSome_reread? (x : Binary64) : x.reread?.isSome = x.isFinite := by
  unfold reread?
  split
  · next h => exact h.symm
  · next h => exact (Bool.not_eq_true _ ▸ h).symm

theorem Decimal.Layout.text_json_of_not_isFinite {x : Binary64} (h : ¬x.isFinite) :
    json.text x = "null" := by
  cases x with
  | nan => rfl
  | signed negative m =>
    have hm : ¬m.isFinite := h
    cases negative <;> simp [text, hm, json]

namespace Json

/-- A member of a document that is written, with what its value is read as. -/
structure Member where
  name : String
  value : Json
  reread? : Option Json

namespace Member

/-- The member is one of a field that has to be there, which reads it so inside `depth` brackets. -/
structure IsOf (depth : Nat) (m : Member) (field : String × Presence × Schema) : Prop where
  name_eq : m.name = field.1
  isThere : field.2.1 ≠ .optional
  reads : field.2.2.ReadsAs depth m.value m.reread?

/-- The member as it is written. -/
def written (m : Member) : String × Json :=
  (m.name, m.value)

/-- The member as it is read. -/
def read? (m : Member) : Option (String × Json) :=
  m.reread?.map (m.name, ·)

/-- The text of the member, where values are written with `write`. -/
def part (write : Json → List Char) (m : Member) : Part :=
  ⟨m.name, write m.value, m.reread?⟩

theorem isOf_part {depth : Nat} {members : List Member}
    {fields : List (String × Presence × Schema)} (h : List.Forall₂ (IsOf depth) members fields)
    {write : Json → List Char} (hwrite : ∀ m ∈ members, IsText m.value (write m.value)) :
    List.Forall₂ Part.IsOf (members.map (part write)) (Schema.textFields fields depth) := by
  induction h with
  | nil => exact .nil
  | cons hm _ ih =>
    obtain ⟨htext, hrest⟩ := List.forall_mem_cons.1 hwrite
    simp only [List.map_cons, Schema.textFields]
    exact .cons ⟨hm.name_eq, hm.isThere, hm.reads _ htext⟩ (ih hrest)

end Member

namespace Schema

theorem map_name_textFields (fields : List (String × Presence × Schema)) (depth : Nat) :
    (textFields fields depth).map (·.name) = fields.map (·.1) := by
  induction fields with
  | nil => rfl
  | cons field fields ih =>
    simp only [textFields, List.map_cons, ih]

theorem readsAs_text (text : String) (depth : Nat) :
    (scalar .text).ReadsAs depth (.string text) (some (.string text)) := by
  rintro _ ⟨⟩
  exact takes_scalar (takes_glance_string text) .text depth

theorem readsAs_count {n : Nat} (hn : n ≤ Number.maxSignificand) (depth : Nat) :
    (scalar .count).ReadsAs depth (.count n) (some (.count n)) := by
  have hrange : 0 ≤ (n : Int) ∧ (n : Int) ≤ 0xffffffffffffffff :=
    ⟨Int.natCast_nonneg n, by exact_mod_cast hn⟩
  have hmin : Binary64.minInt64 ≤ (n : Int) := by
    unfold Binary64.minInt64
    omega
  have htakes := takes_scalar (takes_glance_integer hmin (by exact_mod_cast hn)) .count depth
  simp only [Option.bind_some, Scalar.ofTree, Scalar.inRange, hrange, and_self, if_true] at htakes
  rintro _ ⟨⟩
  exact htakes

theorem readsAs_signed {n : Int} (hmin : Binary64.minInt64 ≤ n) (hmax : n ≤ Binary64.maxInt64)
    (depth : Nat) : (scalar .signed).ReadsAs depth (.integer n) (some (.integer n)) := by
  have hmax' : n ≤ (Number.maxSignificand : Int) := by
    unfold Binary64.maxInt64 at hmax
    unfold Number.maxSignificand
    omega
  have htakes := takes_scalar (takes_glance_integer hmin hmax') .signed depth
  simp only [Option.bind_some, Scalar.ofTree, Scalar.inRange, hmin, hmax, and_self, if_true]
    at htakes
  rintro _ ⟨⟩
  exact htakes

/-- What is no number is written as `null` and not read. -/
theorem readsAs_float (x : Binary64) (depth : Nat) :
    (scalar .float).ReadsAs depth (.float x) (x.reread?.map .float) := by
  rintro _ ⟨⟩
  unfold Binary64.reread?
  split
  · next h => exact takes_scalar (takes_glance_float h) .float depth
  · next h =>
    have hnull : scalarText (.float x) = "null".toList :=
      congrArg String.toList (Decimal.Layout.text_json_of_not_isFinite h)
    rw [hnull]
    exact takes_scalar takes_glance_null .float depth

/-- A text in the normal form of its format stays as it is. -/
theorem readsAs_formatted {words text : String} {normalize : String → Except String String}
    (h : normalize text = .ok text) (depth : Nat) :
    (scalar (.formatted words normalize)).ReadsAs depth (.string text) (some (.string text)) := by
  have htakes := takes_scalar (takes_glance_string text) (.formatted words normalize) depth
  simp only [Option.bind_some, Scalar.ofTree, h] at htakes
  rintro _ ⟨⟩
  exact htakes

/-- A list of records is read as the list of what they are read as. -/
theorem readsAs_array {item : Schema} {ι : Type} {toJson : ι → Json} {value : ι → Option Json}
    (xs : List ι) (depth : Nat) (hobject : ∀ x ∈ xs, ∃ members, toJson x = .object members)
    (hreads : ∀ x ∈ xs, item.ReadsAs depth (toJson x) (value x)) :
    (list item).ReadsAs (depth + 1) (.array (xs.map toJson)) ((xs.mapM value).map .array) := by
  intro _ htext
  cases htext with
  | array s hitems =>
    rw [List.forall_mem_map] at hitems
    rw [List.map_map]
    refine takes_list s xs depth (fun x hx => ?_) fun x hx => hreads x hx _ (hitems x hx)
    have hitem := hitems x hx
    obtain ⟨members, hmembers⟩ := hobject x hx
    rw [hmembers] at hitem
    rw [Function.comp_apply, hmembers]
    exact hitem.begins_object

/-- A list of records that are read as they are is read as it is. -/
theorem readsAs_array_self {item : Schema} {ι : Type} {toJson : ι → Json} (xs : List ι)
    (depth : Nat) (hobject : ∀ x ∈ xs, ∃ members, toJson x = .object members)
    (hreads : ∀ x ∈ xs, item.ReadsAs depth (toJson x) (some (toJson x))) :
    (list item).ReadsAs (depth + 1) (.array (xs.map toJson)) (some (.array (xs.map toJson))) := by
  have hself : xs.mapM (fun x => some (toJson x)) = some (xs.map toJson) := List.mapM_pure
  have hlist := readsAs_array xs depth hobject hreads
  rwa [hself] at hlist

/-- A record is read as the record of what its fields are read as. -/
theorem readsAs_object {fields : List (String × Presence × Schema)} {depth : Nat}
    {members : List Member} (hmembers : List.Forall₂ (Member.IsOf depth) members fields)
    (hnodup : (fields.map (·.1)).Nodup) (words : String) :
    (record words fields).ReadsAs (depth + 1) (.object (members.map Member.written))
      ((members.mapM Member.read?).map .object) := by
  intro _ htext
  cases htext with
  | @object s _ write hwrite =>
    rw [List.forall_mem_map] at hwrite
    have htakes := TextField.takes_record (Member.isOf_part hmembers hwrite)
      ((map_name_textFields fields depth).symm ▸ hnodup) words s
    have hread : (members.map (Member.part write)).mapM Part.member? =
        members.mapM Member.read? := by
      rw [List.mapM_map]
      rfl
    rw [List.map_map, hread] at htakes
    rw [List.map_map]
    simp only [Schema.read]
    exact htakes

end Schema

/-! ## Members of the usual fields -/

namespace Member

/-- A member with a text. -/
def text (name text : String) : Member :=
  ⟨name, .string text, some (.string text)⟩

/-- A member with a certainty. -/
def float (name : String) (x : Binary64) : Member :=
  ⟨name, .float x, x.reread?.map .float⟩

/-- A member with a number of things. -/
def count (name : String) (n : Nat) : Member :=
  ⟨name, .count n, some (.count n)⟩

/-- A member with a whole percentage. -/
def signed (name : String) (n : Int) : Member :=
  ⟨name, .integer n, some (.integer n)⟩

theorem isOf_field (name : String) {depth : Nat} {schema : Schema} {value : Json} {o : Option Json}
    (h : schema.ReadsAs depth value o) :
    IsOf depth ⟨name, value, o⟩ (field name schema) :=
  ⟨rfl, nofun, h⟩

theorem isOf_default (name : String) (default : Json) {depth : Nat} {schema : Schema} {value : Json}
    {o : Option Json} (h : schema.ReadsAs depth value o) :
    IsOf depth ⟨name, value, o⟩ (name, .default default, schema) :=
  ⟨rfl, nofun, h⟩

variable (depth : Nat)

theorem isOf_text (name value : String) : IsOf depth (text name value) (textField name) :=
  isOf_field name (Schema.readsAs_text value depth)

theorem isOf_textOrEmpty (name value : String) :
    IsOf depth (text name value) (textOrEmpty name) :=
  isOf_default name _ (Schema.readsAs_text value depth)

theorem isOf_float (name : String) (x : Binary64) :
    IsOf depth (float name x) (floatField name) :=
  isOf_field name (Schema.readsAs_float x depth)

theorem isOf_count (name : String) {n : Nat} (hn : n ≤ Number.maxSignificand) :
    IsOf depth (count name n) (countField name) :=
  isOf_field name (Schema.readsAs_count hn depth)

theorem isOf_signed (name : String) {n : Int} (hmin : Binary64.minInt64 ≤ n)
    (hmax : n ≤ Binary64.maxInt64) : IsOf depth (signed name n) (signedField name) :=
  isOf_field name (Schema.readsAs_signed hmin hmax depth)

end Member

end Json

end CertaintyFactor
