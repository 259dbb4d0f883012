import CertaintyFactor.Json.Schema.Read
import CertaintyFactor.Json.Write
import CertaintyFactor.Proofs.Json.Reader
import Mathlib.Data.List.Nodup
import Mathlib.Data.List.ReduceOption

/-!
# Reading what was written

A reader *takes* a text with an outcome if it reads just that text off the front of every longer one
that may go on there, with the outcome given, which may be that it fails. The texts of strings,
lists and records are taken by their readers when the texts of their parts are. So what becomes of a
whole document is put together from what becomes of its scalars.
-/

set_option autoImplicit false

namespace CertaintyFactor.Json

open Reader

variable {α β : Type}

/-- Only blanks. -/
def Blank (gap : List Char) : Prop :=
  ∀ c ∈ gap, isSpace c

/-- What may follow a value: nothing, or a character that no number goes on with. -/
def Delimits (rest : List Char) : Prop :=
  ∀ c ∈ rest.head?, c.isDigit = false ∧ c ≠ '.' ∧ c ≠ 'e' ∧ c ≠ 'E'

/-- A text that begins like a value, neither with a blank nor with the end of a bracket. -/
def Begins (text : List Char) : Prop :=
  ∃ c ∈ text.head?, isSpace c = false ∧ c ≠ ']' ∧ c ≠ '\x7d'

/-- A reader takes a text, blanks before it included, with the given outcome. -/
def Takes (reader : Reader α) (text : List Char) (o : Option α) : Prop :=
  ∀ gap rest, Blank gap → Delimits rest → reader.read? (gap ++ (text ++ rest)) = o.map (·, rest)

theorem blank_nil : Blank [] :=
  nofun

theorem delimits_nil : Delimits [] :=
  nofun

theorem Delimits.isDigit {rest : List Char} (h : Delimits rest) :
    ∀ c ∈ rest.head?, c.isDigit = false :=
  fun c hc => (h c hc).1

theorem Blank.dropWhile_append {gap text : List Char} (h : Blank gap) :
    (gap ++ text).dropWhile isSpace = text.dropWhile isSpace := by
  rw [List.dropWhile_append_of_pos h]

theorem Begins.dropWhile_append {text : List Char} (h : Begins text) (rest : List Char) :
    (text ++ rest).dropWhile isSpace = text ++ rest := by
  obtain ⟨c, hc, hspace, -⟩ := h
  obtain ⟨text, rfl⟩ : ∃ t, text = c :: t := List.head?_eq_some_iff.1 hc
  simp [hspace]

/-- Blanks before a value are not seen by what looks for its start. -/
theorem Begins.read?_token? {text gap : List Char} (h : Begins text) (hgap : Blank gap)
    (rest : List Char) :
    token?.read? (gap ++ (text ++ rest)) = some (text.head?, text ++ rest) := by
  rw [Reader.read?_token?, hgap.dropWhile_append, h.dropWhile_append]
  obtain ⟨c, hc, -⟩ := h
  obtain ⟨text, rfl⟩ : ∃ t, text = c :: t := List.head?_eq_some_iff.1 hc
  rfl

theorem read?_valueStart_cons {gap : List Char} (hgap : Blank gap) {c : Char}
    (hc : isSpace c = false) (text : List Char) :
    valueStart.read? (gap ++ c :: text) = some (c, c :: text) := by
  rw [read?_valueStart, hgap.dropWhile_append, List.dropWhile_cons_of_neg (by simp [hc])]
  rfl

/-! ## Strings -/

namespace Text

theorem read?_escape_letter {c d : Char} (h : letterEscape? d = some c) (rest : List Char) :
    escape.read? (d :: rest) = some (c, rest) := by
  have hu : d ≠ 'u' := by
    rintro rfl
    cases h
  simp [escape, nextChar, hu, h]

/-- Two digits after two zeros, as controls are written. -/
theorem read?_hexEscape {n : Nat} (hn : n < 0x20) (rest : List Char) :
    hexEscape.read? ('0' :: '0' :: (hexPair n ++ rest)) = some (n, rest) := by
  have hrow : ∀ n < 0x20,
      ('0' :: '0' :: hexPair n).foldl (fun size c => size + c.utf8Size) 0 = 4 ∧
        ('0' :: '0' :: hexPair n).mapM hexValue? = some [0, 0, n / 16, n % 16] := by
    decide
  obtain ⟨hsize, hvalues⟩ := hrow n hn
  have htake : ('0' :: '0' :: (hexPair n ++ rest)).take 4 = '0' :: '0' :: hexPair n := rfl
  have hdrop : ('0' :: '0' :: (hexPair n ++ rest)).drop 4 = rest := rfl
  simp only [hexEscape, read?_bind, read?_get, Option.bind_some, htake, hdrop, hsize, hvalues]
  simp
  omega

theorem read?_escape_control {c : Char} (hc : c.toNat < 0x20) (rest : List Char) :
    escape.read? ('u' :: '0' :: '0' :: (hexPair c.toNat ++ rest)) = some (c, rest) := by
  have hleading : isLeading c.toNat = false := by
    simp only [isLeading, Bool.and_eq_false_iff, decide_eq_false_iff_not]
    omega
  have htrailing : isTrailing c.toNat = false := by
    simp only [isTrailing, Bool.and_eq_false_iff, decide_eq_false_iff_not]
    omega
  simp [escape, nextChar, numericEscape, read?_hexEscape hc, hleading, htrailing]

/-- A character is read as it was written. -/
theorem read?_charsFrom_stringChar (c x : Char) (fuel acc rest : List Char) :
    (charsFrom (x :: fuel) acc).read? (stringChar c ++ rest) =
      (charsFrom fuel (c :: acc)).read? rest := by
  have hescape {more : List Char} (h : escape.read? more = some (c, rest)) :
      (charsFrom (x :: fuel) acc).read? ('\\' :: more) =
        (charsFrom fuel (c :: acc)).read? rest := by
    simp [charsFrom, nextChar, h]
  have hletter {d : Char} (h : letterEscape? d = some (Char.ofNat c.toNat)) :
      (charsFrom (x :: fuel) acc).read? ('\\' :: d :: rest) =
        (charsFrom fuel (c :: acc)).read? rest := by
    rw [Char.ofNat_toNat] at h
    exact hescape (read?_escape_letter h rest)
  unfold stringChar
  split
  · next h =>
    rcases Bool.or_eq_true_iff.1 h with h | h
    · obtain rfl := of_decide_eq_true h
      exact hletter rfl
    · obtain rfl := of_decide_eq_true h
      exact hletter rfl
  next hplain =>
  split
  · next h => exact hletter (h ▸ rfl)
  split
  · next h =>
    subst h
    exact hletter rfl
  split
  · next h =>
    subst h
    exact hletter rfl
  split
  · next h => exact hletter (h ▸ rfl)
  split
  · next h =>
    subst h
    exact hletter rfl
  split
  · next h => exact hescape (read?_escape_control h rest)
  · next h =>
    simp only [Bool.or_eq_true, decide_eq_true_eq, not_or] at hplain
    simp [charsFrom, nextChar, hplain, h]

theorem read?_charsFrom (text : List Char) (fuel acc rest : List Char)
    (hfuel : text.length < fuel.length) :
    (charsFrom fuel acc).read? (text.flatMap stringChar ++ '"' :: rest) =
      some (acc.reverse ++ text, rest) := by
  induction text generalizing fuel acc with
  | nil =>
    obtain ⟨x, fuel, rfl⟩ := List.exists_cons_of_length_pos hfuel
    simp [charsFrom, nextChar]
  | cons c text ih =>
    obtain ⟨x, fuel, rfl⟩ := List.exists_cons_of_length_pos (Nat.zero_lt_of_lt hfuel)
    rw [List.flatMap_cons, List.append_assoc, read?_charsFrom_stringChar,
      ih _ _ (by simpa using hfuel)]
    simp

/-- Every character is written with one character at least. -/
theorem length_le_length_flatMap (text : List Char) :
    text.length ≤ (text.flatMap stringChar).length := by
  induction text with
  | nil => exact Nat.le_refl _
  | cons c text ih =>
    have hpos : 0 < (stringChar c).length := by
      unfold stringChar
      split_ifs <;> simp
    rw [List.flatMap_cons, List.length_append, List.length_cons]
    omega

theorem read?_quoted (text : String) (rest : List Char) :
    quoted.read? (stringText text ++ rest) = some (text, rest) := by
  have hfuel : text.toList.length <
      (text.toList.flatMap stringChar ++ '"' :: rest).length := by
    have hle := length_le_length_flatMap text.toList
    rw [List.length_append, List.length_cons]
    omega
  simp only [quoted, stringText, read?_bind, read?_skip, Option.bind_some, read?_get,
    List.cons_append, List.tail_cons, List.append_assoc, List.nil_append]
  rw [read?_charsFrom _ _ _ _ hfuel]
  simp

end Text

theorem begins_stringText (text : String) : Begins (stringText text) :=
  ⟨'"', rfl, by decide⟩

/-! ## Lists -/

/-- The blanks that stand between the parts of a list or object. -/
structure Spacing where
  /-- Before every part. -/
  lead : List Char
  /-- Before the closing bracket. -/
  close : List Char
  /-- Between the colon of a member and its value. -/
  value : List Char
  blank_lead : Blank lead
  blank_close : Blank close
  blank_value : Blank value

/-- No blanks at all. -/
def Spacing.none : Spacing :=
  ⟨[], [], [], blank_nil, blank_nil, blank_nil⟩

/-- The rest of an array, where `first` says that no item stands before. -/
def listText (s : Spacing) (first : Bool) : List (List Char) → List Char
  | [] => s.close ++ [']']
  | item :: rest => (if first then [] else [',']) ++ s.lead ++ item ++ listText s false rest

/-- The rest of an object, where `first` says that no member stands before. -/
def membersText (s : Spacing) (first : Bool) : List (String × List Char) → List Char
  | [] => s.close ++ ['\x7d']
  | (name, value) :: rest =>
    (if first then [] else [',']) ++ s.lead ++ stringText name ++ ':' :: s.value ++ value ++
      membersText s false rest

theorem compactItems_eq (first : Bool) (items : List Json) :
    compactItems first items = listText .none first (items.map compactChars) := by
  induction items generalizing first with
  | nil => simp [compactItems, listText, Spacing.none]
  | cons item items ih => simp [compactItems, listText, Spacing.none, ih]

theorem compactMembers_eq (first : Bool) (members : List (String × Json)) :
    compactMembers first members =
      membersText .none first (members.map fun m => (m.1, compactChars m.2)) := by
  induction members generalizing first with
  | nil => simp [compactMembers, membersText, Spacing.none]
  | cons m members ih => simp [compactMembers, membersText, Spacing.none, ih]

theorem delimits_append {gap : List Char} (hgap : Blank gap) {rest : List Char}
    (hrest : Delimits rest) : Delimits (gap ++ rest) := by
  cases gap with
  | nil => exact hrest
  | cons c gap =>
    have hc := hgap c List.mem_cons_self
    rintro d ⟨⟩
    simp only [isSpace, Bool.or_eq_true, decide_eq_true_eq] at hc
    rcases hc with ((rfl | rfl) | rfl) | rfl <;> decide

theorem delimits_cons {c : Char} (h : c = ',' ∨ c = ']' ∨ c = '\x7d') (rest : List Char) :
    Delimits (c :: rest) := by
  rintro d ⟨⟩
  rcases h with rfl | rfl | rfl <;> decide

theorem delimits_listText (s : Spacing) (texts : List (List Char)) (rest : List Char) :
    Delimits (listText s false texts ++ rest) := by
  cases texts with
  | nil =>
    rw [listText, List.append_assoc]
    exact delimits_append s.blank_close (delimits_cons (by decide) _)
  | cons text texts => exact delimits_cons (by decide) _

theorem delimits_membersText (s : Spacing) (members : List (String × List Char))
    (rest : List Char) : Delimits (membersText s false members ++ rest) := by
  cases members with
  | nil =>
    rw [membersText, List.append_assoc]
    exact delimits_append s.blank_close (delimits_cons (by decide) _)
  | cons m members => exact delimits_cons (by decide) _

theorem read?_hasItem_end (s : Spacing) (first : Bool) (rest : List Char) :
    (hasItem first).read? (listText s first [] ++ rest) = some (false, ']' :: rest) := by
  have hdrop : (listText s first [] ++ rest).dropWhile isSpace = ']' :: rest := by
    rw [listText, List.append_assoc, s.blank_close.dropWhile_append]
    rfl
  simp [hasItem, hdrop]

/-- What is asked behind the comma of a list. -/
def itemAfterComma : Reader Bool := do
  match ← token? with
  | some ']' => fail .trailingComma
  | some _ => return true
  | none => fail .endOfValue

theorem read?_hasItem_next (s : Spacing) (first : Bool) {text : List Char} (h : Begins text)
    (rest : List Char) :
    (hasItem first).read? ((if first then [] else [',']) ++ (s.lead ++ (text ++ rest))) =
      some (true, text ++ rest) := by
  have htoken := h.read?_token? s.blank_lead rest
  obtain ⟨c, hc, -, hend, -⟩ := h
  rw [Option.mem_def.1 hc] at htoken
  cases first with
  | true =>
    simp only [hasItem, read?_bind, if_true, List.nil_append, htoken, Option.bind_some]
    rfl
  | false =>
    have hcomma (more : List Char) :
        (hasItem false).read? (',' :: more) = itemAfterComma.read? more := rfl
    simp only [Bool.false_eq_true, if_false, List.singleton_append, hcomma, itemAfterComma,
      read?_bind, htoken, Option.bind_some]
    rfl

/-- What is asked behind the comma of an object. -/
def memberAfterComma : Reader Bool := do
  match ← token? with
  | some '"' => return true
  | some '\x7d' => fail .trailingComma
  | some _ => fail .keyNotString
  | none => fail .endOfValue

theorem read?_hasMember_end (s : Spacing) (first : Bool) (rest : List Char) :
    (hasMember first).read? (membersText s first [] ++ rest) = some (false, '\x7d' :: rest) := by
  have hdrop : (membersText s first [] ++ rest).dropWhile isSpace = '\x7d' :: rest := by
    rw [membersText, List.append_assoc, s.blank_close.dropWhile_append]
    rfl
  simp [hasMember, hdrop]

theorem read?_hasMember_next (s : Spacing) (first : Bool) (name : String) (rest : List Char) :
    (hasMember first).read?
        ((if first then [] else [',']) ++ (s.lead ++ (stringText name ++ rest))) =
      some (true, stringText name ++ rest) := by
  have htoken := (begins_stringText name).read?_token? s.blank_lead rest
  cases first with
  | true =>
    simp only [hasMember, read?_bind, if_true, List.nil_append, htoken, Option.bind_some]
    rfl
  | false =>
    have hcomma (more : List Char) :
        (hasMember false).read? (',' :: more) = memberAfterComma.read? more := rfl
    simp only [Bool.false_eq_true, if_false, List.singleton_append, hcomma, memberAfterComma,
      read?_bind, htoken, Option.bind_some]
    rfl

/-- The items of an array are read one by one, up to its bracket. -/
theorem read?_foldItems {item : Reader α} {ι : Type} {text : ι → List Char} {value : ι → Option α}
    (s : Spacing) (xs : List ι) (hbegins : ∀ x ∈ xs, Begins (text x))
    (htakes : ∀ x ∈ xs, Takes item (text x) (value x)) (fuel : List Char)
    (hfuel : xs.length < fuel.length) (first : Bool) (acc : List α) (rest : List Char) :
    (foldItems (fun acc => return (← item) :: acc) fuel first acc).read?
        (listText s first (xs.map text) ++ rest) =
      (xs.mapM value).map fun values => (values.reverse ++ acc, ']' :: rest) := by
  -- One step of the fuel for each item and one for the bracket.
  induction xs generalizing fuel first acc with
  | nil =>
    obtain ⟨x, fuel, rfl⟩ := List.exists_cons_of_length_pos hfuel
    rw [List.map_nil, foldItems, read?_bind, read?_hasItem_end]
    simp
  | cons x xs ih =>
    obtain ⟨c, fuel, rfl⟩ := List.exists_cons_of_length_pos (Nat.zero_lt_of_lt hfuel)
    have hitem := htakes x List.mem_cons_self [] _ blank_nil
      (delimits_listText s (xs.map text) rest)
    rw [List.nil_append] at hitem
    have hxs := ih (fun y hy => hbegins y (List.mem_cons_of_mem x hy))
      (fun y hy => htakes y (List.mem_cons_of_mem x hy)) fuel (by simpa using hfuel) false
    rw [List.map_cons, listText, foldItems]
    simp only [List.append_assoc, read?_bind, read?_hasItem_next s first
      (hbegins x List.mem_cons_self), Option.bind_some, if_true, hitem]
    rw [List.mapM_cons]
    cases hx : value x with
    | none => rfl
    | some v =>
      simp only [Option.map_some, Option.bind_some, read?_pure, hxs, Option.bind_eq_bind]
      cases xs.mapM value <;> simp

theorem length_lt_length_listText (s : Spacing) (first : Bool) (texts : List (List Char))
    (hbegins : ∀ text ∈ texts, Begins text) (rest : List Char) :
    texts.length < (listText s first texts ++ rest).length := by
  induction texts generalizing first with
  | nil =>
    simp only [listText, List.length_append, List.length_cons]
    omega
  | cons text texts ih =>
    have hrest := ih false fun t ht => hbegins t (List.mem_cons_of_mem text ht)
    obtain ⟨c, hc, -⟩ := hbegins text List.mem_cons_self
    obtain ⟨text, rfl⟩ : ∃ t, text = c :: t := List.head?_eq_some_iff.1 hc
    simp only [listText, List.length_append, List.length_cons] at hrest ⊢
    omega

theorem read?_items {item : Reader α} {ι : Type} {text : ι → List Char} {value : ι → Option α}
    (s : Spacing) (xs : List ι) (hbegins : ∀ x ∈ xs, Begins (text x))
    (htakes : ∀ x ∈ xs, Takes item (text x) (value x)) (rest : List Char) :
    (items item).read? (listText s true (xs.map text) ++ rest) =
      (xs.mapM value).map (·, rest) := by
  have hfuel := length_lt_length_listText s true (xs.map text) (by simpa using hbegins) rest
  rw [List.length_map] at hfuel
  simp only [items, read?_bind, read?_get, Option.bind_some,
    read?_foldItems s xs hbegins htakes _ hfuel]
  cases xs.mapM value with
  | none => rfl
  | some values =>
    have hend : endList.read? (']' :: rest) = some ((), rest) := rfl
    simp [hend]

/-! ## Documents of a schema -/

namespace Schema

/-- A value without parts is looked at as it is read. -/
theorem read?_glance {c : Char} (hspace : isSpace c = false) (hlist : c ≠ '[')
    (hobject : c ≠ '\x7b') {gap : List Char} (hgap : Blank gap) (text : List Char) :
    glance.read? (gap ++ c :: text) = Tree.scalar.read? (c :: text) := by
  rw [glance, read?_bind, read?_valueStart_cons hgap hspace, Option.bind_some]
  split
  · next h => exact absurd h hlist
  · next h => exact absurd h hobject
  · rfl

theorem takes_glance_string (text : String) :
    Takes glance (stringText text) (some (.string text)) := by
  intro gap rest hgap _
  have hquoted := Text.read?_quoted text rest
  rw [stringText, List.cons_append, List.cons_append] at hquoted ⊢
  rw [read?_glance (by decide) (by decide) (by decide) hgap]
  have hscalar (more : List Char) : Tree.scalar.read? ('"' :: more) =
      (Json.string <$> Text.quoted).read? ('"' :: more) := by
    rw [map_eq_pure_bind]
    rfl
  rw [hscalar, read?_map, hquoted]
  rfl

theorem takes_glance_null : Takes glance "null".toList (some .null) := by
  intro gap rest hgap _
  exact (read?_glance (c := 'n') (by decide) (by decide) (by decide) hgap _).trans rfl

/-- A scalar is taken as what its form makes of the value that stands there. -/
theorem takes_readScalar {text : List Char} {o : Option Json} (h : Takes glance text o)
    (form : Scalar) :
    Takes (readScalar form) text (o.bind fun value => (form.ofTree value).toOption) := by
  intro gap rest hgap hrest
  rw [readScalar, read?_bind, h gap rest hgap hrest]
  cases o with
  | none => rfl
  | some value =>
    simp only [Option.map_some, Option.bind_some, settle]
    cases form.ofTree value <;> rfl

theorem takes_scalar {text : List Char} {o : Option Json} (h : Takes glance text o)
    (form : Scalar) (depth : Nat) :
    Takes ((scalar form).read depth) text (o.bind fun value => (form.ofTree value).toOption) := by
  simp only [Schema.read]
  exact takes_readScalar h form

/-- The text of a list is taken as the list of what its items are taken as. -/
theorem takes_list {item : Schema} {ι : Type} {text : ι → List Char} {value : ι → Option Json}
    (s : Spacing) (xs : List ι) (depth : Nat) (hbegins : ∀ x ∈ xs, Begins (text x))
    (htakes : ∀ x ∈ xs, Takes (item.read depth) (text x) (value x)) :
    Takes ((list item).read (depth + 1)) ('[' :: listText s true (xs.map text))
      ((xs.mapM value).map .array) := by
  intro gap rest hgap _
  have hstart := read?_valueStart_cons hgap (c := '[') (by decide)
    (listText s true (xs.map text) ++ rest)
  simp only [Schema.read, read?_bind, List.cons_append, hstart, Option.bind_some, if_true, inside,
    read?_skip, List.tail_cons, read?_items s xs hbegins htakes rest]
  cases xs.mapM value <;> rfl

end Schema

/-- Members that are read one by one have the names they are read for. -/
theorem map_fst_of_mapM {ι : Type} {name : ι → String} {value? : ι → Option Json} {xs : List ι}
    {read : List (String × Json)} (h : xs.mapM (fun x => (value? x).map (name x, ·)) = some read) :
    read.map (·.1) = xs.map name := by
  induction xs generalizing read with
  | nil =>
    obtain rfl : [] = read := by simpa using h
    rfl
  | cons x xs ih =>
    rw [List.mapM_cons] at h
    simp only [Option.bind_eq_bind, Option.bind_eq_some_iff, Option.map_eq_some_iff] at h
    obtain ⟨_, ⟨v, -, rfl⟩, members, hmembers, h⟩ := h
    obtain rfl := Option.some.inj h
    rw [List.map_cons, List.map_cons, ih hmembers]

/-- A member of an object that is written, with what its value is taken as. -/
structure Part where
  name : String
  text : List Char
  value : Option Json

namespace Part

/-- The part is written for the field: it has its name, and the field's reader takes its text. -/
structure IsOf (part : Part) (field : TextField) : Prop where
  name_eq : part.name = field.name
  isThere : field.presence ≠ .optional
  takes : Takes field.read part.text part.value

/-- The member that is read. -/
def member? (part : Part) : Option (String × Json) :=
  part.value.map (part.name, ·)

/-- The text of the member. -/
def written (part : Part) : String × List Char :=
  (part.name, part.text)

theorem map_name_eq {parts : List Part} {fields : List TextField}
    (h : List.Forall₂ IsOf parts fields) : fields.map (·.name) = parts.map Part.name := by
  induction h with
  | nil => rfl
  | cons hpart _ ih => rw [List.map_cons, List.map_cons, ih, hpart.name_eq]

theorem exists_isOf {parts : List Part} {fields : List TextField}
    (h : List.Forall₂ IsOf parts fields) : ∀ part ∈ parts, ∃ field ∈ fields, part.IsOf field := by
  induction h with
  | nil => exact nofun
  | cons hpart _ ih =>
    intro p hp
    rcases List.mem_cons.1 hp with rfl | hp
    · exact ⟨_, List.mem_cons_self, hpart⟩
    · obtain ⟨field, hfield, hisOf⟩ := ih p hp
      exact ⟨field, List.mem_cons_of_mem _ hfield, hisOf⟩

end Part

theorem lookup_eq_none {values : FieldValues} {name : String} (h : name ∉ values.map (·.1)) :
    values.lookup name = none := by
  rw [List.lookup_eq_none_iff]
  intro p hp
  rw [bne_iff_ne]
  rintro rfl
  exact h (List.mem_map_of_mem hp)

theorem lookup_of_mem {values : FieldValues} (h : (values.map (·.1)).Nodup) {name : String}
    {value : Option Json} (hmem : (name, value) ∈ values) : values.lookup name = some value := by
  induction values with
  | nil => cases hmem
  | cons p values ih =>
    rw [List.map_cons, List.nodup_cons] at h
    rcases List.mem_cons.1 hmem with rfl | hmem
    · exact List.lookup_cons_self
    · have hne : name ≠ p.1 := by
        rintro rfl
        exact h.1 (List.mem_map.2 ⟨_, hmem, rfl⟩)
      rw [List.lookup_cons, beq_false_of_ne hne]
      exact ih h.2 hmem

/-- Where names differ from each other, a name picks out its field. -/
theorem Field.find?_eq_some {R : Type} {fields : List (Field R)}
    (hnodup : (fields.map (·.name)).Nodup) {field : Field R} (hfield : field ∈ fields) :
    fields.find? (·.name == field.name) = some field := by
  cases hfound : fields.find? (·.name == field.name) with
  | none =>
    have hother := List.find?_eq_none.1 hfound field hfield
    rw [beq_self_eq_true] at hother
    exact absurd rfl hother
  | some found =>
    have hname := List.find?_some hfound
    rw [List.inj_on_of_nodup_map hnodup (List.mem_of_find?_eq_some hfound) hfield
      (eq_of_beq hname)]

/-- The values of fields that were all read make the record of the members read. -/
theorem Field.toObject_eq {R : Type} {fields : List (Field R)} {read : List (String × Json)}
    (hnames : fields.map (·.name) = read.map (·.1)) (hnodup : (read.map (·.1)).Nodup) :
    toObject fields (read.reverse.map fun m => (m.1, some m.2)) = .ok (.object read) := by
  set values : FieldValues := read.reverse.map fun m => (m.1, some m.2) with hvalues
  have hlookup : ∀ m ∈ read, values.lookup m.1 = some (some m.2) := by
    intro m hm
    refine lookup_of_mem ?_ (List.mem_map.2 ⟨m, List.mem_reverse.2 hm, rfl⟩)
    rw [hvalues, List.map_map, List.map_reverse, List.nodup_reverse]
    exact hnodup
  have hmembers : (fields.mapM fun f => do
      return (← f.value values (.missingField f.name)).map fun v => (f.name, v)) =
        (.ok (read.map some) : Except Error _) := by
    clear_value values
    clear hvalues hnodup
    induction read generalizing fields with
    | nil =>
      rw [List.map_eq_nil_iff.1 hnames]
      rfl
    | cons m read ih =>
      obtain ⟨f, fields, rfl, hname, hnames⟩ := List.map_eq_cons_iff.1 hnames
      have hvalue : f.value values (.missingField f.name) = .ok (some m.2) := by
        simp [value, hname, hlookup m List.mem_cons_self]
      rw [List.mapM_cons, hvalue, ih hnames fun m' hm' => hlookup m' (List.mem_cons_of_mem m hm'),
        hname]
      rfl
  have hreduce : (read.map some).reduceOption = read := by
    simp [List.reduceOption, List.filterMap_map]
  simp only [toObject]
  rw [hmembers]
  exact congrArg (fun members => Except.ok (object members)) hreduce

namespace TextField

theorem takes_value {field : TextField} (h : field.presence ≠ .optional) {text : List Char}
    {o : Option Json} (htakes : Takes field.read text o) : Takes field.value text (o.map some) := by
  intro gap rest hgap hrest
  unfold value
  split
  · next hoptional => exact absurd hoptional h
  · rw [read?_bind, htakes gap rest hgap hrest]
    cases o <;> rfl

/-- A member of a field not read before adds its value. -/
theorem read?_member {fields : List TextField} (hnodup : (fields.map (·.name)).Nodup)
    {field : TextField} (hfield : field ∈ fields) {part : Part} (hpart : part.IsOf field)
    {values : FieldValues} (hnew : part.name ∉ values.map (·.1)) {gap rest : List Char}
    (hgap : Blank gap) (hrest : Delimits rest) :
    (member fields values).read? (stringText part.name ++ ':' :: (gap ++ (part.text ++ rest))) =
      part.value.map fun v => ((part.name, some v) :: values, rest) := by
  have hfind := Field.find?_eq_some hnodup hfield
  rw [← hpart.name_eq] at hfind
  have hcolon (text : List Char) : colon.read? (':' :: text) = some ((), text) := rfl
  simp only [member, read?_bind, Text.read?_quoted, Option.bind_some, hfind, lookup_eq_none hnew,
    Option.isSome_none, Bool.false_eq_true, if_false, hcolon,
    takes_value hpart.isThere hpart.takes gap rest hgap hrest]
  cases part.value <;> rfl

theorem read?_foldMembers {fields : List TextField} (hfields : (fields.map (·.name)).Nodup)
    (s : Spacing) (parts : List Part) (hparts : ∀ part ∈ parts, ∃ field ∈ fields, part.IsOf field)
    (hparts' : (parts.map Part.name).Nodup) (values : FieldValues)
    (hnew : ∀ part ∈ parts, part.name ∉ values.map (·.1)) (fuel : List Char)
    (hfuel : parts.length < fuel.length) (first : Bool) (rest : List Char) :
    (foldMembers (member fields) fuel first values).read?
        (membersText s first (parts.map Part.written) ++ rest) =
      (parts.mapM Part.member?).map fun read =>
        (read.reverse.map (fun m => (m.1, some m.2)) ++ values, '\x7d' :: rest) := by
  induction parts generalizing fuel first values with
  | nil =>
    obtain ⟨x, fuel, rfl⟩ := List.exists_cons_of_length_pos hfuel
    rw [List.map_nil, foldMembers, read?_bind, read?_hasMember_end]
    simp
  | cons part parts ih =>
    obtain ⟨c, fuel, rfl⟩ := List.exists_cons_of_length_pos (Nat.zero_lt_of_lt hfuel)
    obtain ⟨field, hfield, hpart⟩ := hparts part List.mem_cons_self
    rw [List.map_cons, List.nodup_cons] at hparts'
    have hmember := read?_member hfields hfield hpart (hnew part List.mem_cons_self)
      s.blank_value (delimits_membersText s (parts.map Part.written) rest)
    have hmembers (v : Json) := ih (fun p hp => hparts p (List.mem_cons_of_mem part hp)) hparts'.2
      ((part.name, some v) :: values) (fun p hp => by
        rw [List.map_cons, List.mem_cons, not_or]
        refine ⟨?_, hnew p (List.mem_cons_of_mem part hp)⟩
        intro hname
        exact hparts'.1 (List.mem_map.2 ⟨p, hp, hname⟩)) fuel (by simpa using hfuel) false
    rw [List.map_cons, Part.written, membersText, foldMembers]
    simp only [List.append_assoc, List.cons_append, read?_bind, read?_hasMember_next,
      Option.bind_some, if_true, hmember]
    rw [List.mapM_cons, Part.member?]
    cases part.value with
    | none => rfl
    | some v =>
      simp only [Option.map_some, Option.bind_some, hmembers, Option.bind_eq_bind]
      cases parts.mapM Part.member? <;> simp

theorem length_lt_length_membersText (s : Spacing) (first : Bool)
    (members : List (String × List Char)) (rest : List Char) :
    members.length < (membersText s first members ++ rest).length := by
  induction members generalizing first with
  | nil =>
    simp only [membersText, List.length_append, List.length_cons]
    omega
  | cons m members ih =>
    have hrest := ih false
    simp only [membersText, List.length_append, List.length_cons] at hrest ⊢
    omega

/-- The text of a record with all its fields is taken as the record of what they are taken as. -/
theorem takes_record {fields : Nat → List TextField} {depth : Nat} {parts : List Part}
    (hparts : List.Forall₂ Part.IsOf parts (fields depth))
    (hnodup : ((fields depth).map (·.name)).Nodup) (words : String) (s : Spacing) :
    Takes (record words fields (depth + 1))
      ('\x7b' :: membersText s true (parts.map Part.written))
      ((parts.mapM Part.member?).map .object) := by
  intro gap rest hgap _
  have hnames := Part.map_name_eq hparts
  have hstart := read?_valueStart_cons hgap (c := '\x7b') (by decide)
    (membersText s true (parts.map Part.written) ++ rest)
  have hfuel := length_lt_length_membersText s true (parts.map Part.written) rest
  rw [List.length_map] at hfuel
  have hfold := read?_foldMembers hnodup s parts (Part.exists_isOf hparts) (hnames ▸ hnodup) []
    (fun _ _ => List.not_mem_nil) _ hfuel true rest
  simp only [record, read?_bind, List.cons_append, hstart, Option.bind_some, Schema.inside,
    read?_skip, List.tail_cons, members, read?_get, hfold]
  cases hread : parts.mapM Part.member? with
  | none => rfl
  | some read =>
    have hread' : read.map (·.1) = parts.map Part.name := map_fst_of_mapM hread
    have hobject := Field.toObject_eq (hnames.trans hread'.symm) (hread' ▸ hnames ▸ hnodup)
    simp only [Option.map_some, List.append_nil, Option.bind_some, read?_pure, hobject]
    rfl

end TextField

end CertaintyFactor.Json
