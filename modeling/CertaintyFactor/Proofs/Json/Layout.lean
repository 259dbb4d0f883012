import CertaintyFactor.Proofs.Json.Written

/-!
# Layouts

A document has many texts, which differ in the blanks between the parts of its lists and objects.
`IsText` says which these are. What is written on one line is one of them, and so is what is laid
out over several, so that a schema which reads every text of a document reads both.
-/

set_option autoImplicit false

namespace CertaintyFactor.Json

/-- A property of documents that passes from the parts of a list or object to the whole. -/
@[elab_as_elim]
theorem induction_parts {motive : Json → Prop} (null : motive .null)
    (bool : ∀ value, motive (.bool value)) (integer : ∀ value, motive (.integer value))
    (float : ∀ value, motive (.float value)) (string : ∀ text, motive (.string text))
    (array : ∀ items, (∀ item ∈ items, motive item) → motive (.array items))
    (object : ∀ members, (∀ m ∈ members, motive m.2) → motive (.object members))
    (document : Json) : motive document := by
  refine @Json.rec motive (fun items => ∀ item ∈ items, motive item)
    (fun members => ∀ m ∈ members, motive m.2) (fun m => motive m.2) null bool integer float string
    array object (List.forall_mem_nil _) ?_ (List.forall_mem_nil _) ?_ (fun _ _ h => h) document
  · exact fun _ _ hitem hitems => List.forall_mem_cons.2 ⟨hitem, hitems⟩
  · exact fun _ _ hm hmembers => List.forall_mem_cons.2 ⟨hm, hmembers⟩

/-- A text of a document. Blanks may stand between the parts of a list or object, and equal parts
look alike. -/
inductive IsText : Json → List Char → Prop
  | null : IsText null (scalarText null)
  | bool (value : Bool) : IsText (bool value) (scalarText (bool value))
  | integer (value : Int) : IsText (integer value) (scalarText (integer value))
  | float (value : Binary64) : IsText (float value) (scalarText (float value))
  | string (text : String) : IsText (string text) (scalarText (string text))
  | array (s : Spacing) {items : List Json} {write : Json → List Char}
      (h : ∀ item ∈ items, IsText item (write item)) :
      IsText (array items) ('[' :: listText s true (items.map write))
  | object (s : Spacing) {members : List (String × Json)} {write : Json → List Char}
      (h : ∀ m ∈ members, IsText m.2 (write m.2)) :
      IsText (object members) ('\x7b' :: membersText s true (members.map fun m => (m.1, write m.2)))

theorem IsText.begins_object {members : List (String × Json)} {text : List Char}
    (h : IsText (.object members) text) : Begins text := by
  cases h with
  | object s h => exact ⟨'\x7b', rfl, by decide⟩

theorem isText_compactChars (document : Json) : IsText document (compactChars document) := by
  induction document using induction_parts with
  | null => exact .null
  | bool value => exact .bool value
  | integer value => exact .integer value
  | float value => exact .float value
  | string text => exact .string text
  | array items ih =>
    rw [compactChars, compactItems_eq]
    exact .array .none ih
  | object members ih =>
    rw [compactChars, compactMembers_eq]
    exact .object .none ih

/-! ## Indented documents -/

theorem blank_indentation (level : Nat) : Blank (indentation level) := by
  intro c hc
  rcases List.mem_cons.1 hc with rfl | hc
  · decide
  · rw [List.eq_of_mem_replicate hc]
    decide

/-- The blanks of a list or object that is laid out from a level on. -/
def Spacing.indented (level : Nat) : Spacing where
  lead := indentation (level + 1)
  close := indentation level
  value := [' ']
  blank_lead := blank_indentation (level + 1)
  blank_close := blank_indentation level
  blank_value := by simp [Blank, Reader.isSpace]

theorem prettyItems_eq (level : Nat) (first : Bool) (items : List Json) :
    prettyItems (level + 1) first items =
      listText (.indented level) first (items.map (prettyChars (level + 1))) := by
  induction items generalizing first with
  | nil => simp [prettyItems, listText, Spacing.indented]
  | cons item items ih => simp [prettyItems, listText, Spacing.indented, ih]

theorem prettyMembers_eq (level : Nat) (first : Bool) (members : List (String × Json)) :
    prettyMembers (level + 1) first members = membersText (.indented level) first
      (members.map fun m => (m.1, prettyChars (level + 1) m.2)) := by
  induction members generalizing first with
  | nil => simp [prettyMembers, membersText, Spacing.indented]
  | cons m members ih => simp [prettyMembers, membersText, Spacing.indented, ih]

theorem isText_prettyChars (level : Nat) (document : Json) :
    IsText document (prettyChars level document) := by
  induction document using induction_parts generalizing level with
  | null => exact .null
  | bool value => exact .bool value
  | integer value => exact .integer value
  | float value => exact .float value
  | string text => exact .string text
  | array items ih =>
    cases items with
    | nil => exact @IsText.array .none [] compactChars nofun
    | cons item items =>
      show IsText _ ('[' :: prettyItems (level + 1) true (item :: items))
      rw [prettyItems_eq]
      exact .array (.indented level) fun part hpart => ih part hpart (level + 1)
  | object members ih =>
    cases members with
    | nil => exact @IsText.object .none [] compactChars nofun
    | cons m members =>
      show IsText _ ('\x7b' :: prettyMembers (level + 1) true (m :: members))
      rw [prettyMembers_eq]
      exact .object (.indented level) fun part hpart => ih part hpart (level + 1)

/-! ## Reading any text of a document -/

/-- Inside `depth` brackets, the schema takes each text of the document with the given outcome. -/
def Schema.ReadsAs (schema : Schema) (depth : Nat) (document : Json) (o : Option Json) : Prop :=
  ∀ text, IsText document text → Takes (schema.read depth) text o

namespace Schema.ReadsAs

variable {schema : Schema} {depth : Nat} {document : Json} {o : Option Json}

/-- A text that ends with the document is read to its end, if the document is. -/
theorem read?_text (h : schema.ReadsAs depth document o) {text : List Char}
    (htext : IsText document text) : (schema.read depth).read? text = o.map (·, []) := by
  have hread := h text htext [] [] blank_nil delimits_nil
  rwa [List.nil_append, List.append_nil] at hread

theorem toOption_parse (h : schema.ReadsAs nestingLimit document o) {text : String}
    (htext : IsText document text.toList) : (schema.parse text).toOption = o := by
  rw [parse, Reader.toOption_run, h.read?_text htext]
  cases o <;> rfl

end Schema.ReadsAs

end CertaintyFactor.Json
