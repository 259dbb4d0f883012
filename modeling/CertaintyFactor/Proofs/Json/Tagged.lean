import CertaintyFactor.Proofs.Json.Layout
import CertaintyFactor.Proofs.Traversal

/-!
# Reading tagged records that were written

A tagged record is read in two steps, since its tag may come after its fields: first all its fields
are kept as trees, and then the variant of the tag reads them out of these. What has no parts is
kept as what a glance shows, so what becomes of a record is put together from what its fields' forms
make of that (`Schema.readsAs_tagged`).
-/

set_option autoImplicit false

namespace CertaintyFactor.Json

open Reader

/-! ## Values that are kept -/

namespace Tree

/-- What is no array or object is kept as a glance shows it. -/
theorem read?_value {text rest : List Char} {tree : Json}
    (h : Schema.glance.read? text = some (tree, rest)) (harray : tree ≠ .array [])
    (hobject : tree ≠ .object []) (depth : Nat) :
    (value depth).read? text = some (tree, rest) := by
  rw [Schema.glance, read?_bind, read?_valueStart] at h
  cases hhead : (text.dropWhile isSpace).head? with
  | none =>
    rw [hhead] at h
    cases h
  | some c =>
    rw [hhead, Option.map_some, Option.bind_some] at h
    split at h
    · next => exact absurd (Prod.mk.inj (Option.some.inj h)).1.symm harray
    · next => exact absurd (Prod.mk.inj (Option.some.inj h)).1.symm hobject
    · next hlist hbrace =>
      cases depth with
      | zero =>
        have hopen : ¬ (decide (c = '[') || decide (c = '\x7b')) = true := by
          simp only [Bool.or_eq_true, decide_eq_true_eq, not_or]
          exact ⟨hlist, hbrace⟩
        rw [value, read?_bind, read?_valueStart, hhead, Option.map_some, Option.bind_some,
          if_neg hopen]
        exact h
      | succ depth =>
        rw [value, read?_bind, read?_valueStart, hhead, Option.map_some, Option.bind_some]
        split
        · next h' => exact absurd h' hlist
        · next h' => exact absurd h' hbrace
        · exact h

end Tree

/-- The value is written so that it is glanced at as the tree, which stands for it as a whole. -/
structure IsGlancedAs (value tree : Json) : Prop where
  takes : ∀ text, IsText value text → Takes Schema.glance text (some tree)
  ne_array : tree ≠ .array []
  ne_object : tree ≠ .object []

theorem IsGlancedAs.takes_value {value tree : Json} (h : IsGlancedAs value tree)
    {text : List Char} (htext : IsText value text) (depth : Nat) :
    Takes (Tree.value depth) text (some tree) :=
  fun gap rest hgap hrest =>
    Tree.read?_value (h.takes text htext gap rest hgap hrest) h.ne_array h.ne_object depth

theorem isGlancedAs_string (text : String) : IsGlancedAs (.string text) (.string text) where
  takes := by
    rintro _ ⟨⟩
    exact Schema.takes_glance_string text
  ne_array := nofun
  ne_object := nofun

/-! ## Members in a row -/

section

variable {σ ι : Type} {step : σ → Reader σ} {add : σ → ι → Option σ} {name : ι → String}
  {text : ι → List Char} {xs : List ι}

/-- Where each member makes a reader add what it is, an object makes it add one after the other. -/
theorem read?_foldMembers (s : Spacing)
    (hstep : ∀ x ∈ xs, ∀ acc gap rest, Blank gap → Delimits rest →
      (step acc).read? (stringText (name x) ++ ':' :: (gap ++ (text x ++ rest))) =
        (add acc x).map (·, rest))
    (fuel : List Char) (hfuel : xs.length < fuel.length) (first : Bool) (acc : σ)
    (rest : List Char) :
    (foldMembers step fuel first acc).read?
        (membersText s first (xs.map fun x => (name x, text x)) ++ rest) =
      (xs.foldlM add acc).map (·, '\x7d' :: rest) := by
  induction xs generalizing fuel first acc with
  | nil =>
    obtain ⟨x, fuel, rfl⟩ := List.exists_cons_of_length_pos hfuel
    rw [List.map_nil, foldMembers, read?_bind, read?_hasMember_end]
    rfl
  | cons x xs ih =>
    obtain ⟨c, fuel, rfl⟩ := List.exists_cons_of_length_pos (Nat.zero_lt_of_lt hfuel)
    have hmember := hstep x List.mem_cons_self acc _ _ s.blank_value
      (delimits_membersText s (xs.map fun x => (name x, text x)) rest)
    have hxs := ih (fun y hy => hstep y (List.mem_cons_of_mem x hy)) fuel (by simpa using hfuel)
      false
    rw [List.map_cons, membersText, foldMembers, List.foldlM_cons]
    simp only [List.append_assoc, List.cons_append, read?_bind, read?_hasMember_next,
      Option.bind_some, if_true, hmember, Option.bind_eq_bind]
    cases add acc x with
    | none => rfl
    | some acc => exact hxs acc

theorem read?_members (s : Spacing)
    (hstep : ∀ x ∈ xs, ∀ acc gap rest, Blank gap → Delimits rest →
      (step acc).read? (stringText (name x) ++ ':' :: (gap ++ (text x ++ rest))) =
        (add acc x).map (·, rest))
    (start : σ) (rest : List Char) :
    (members step start).read? (membersText s true (xs.map fun x => (name x, text x)) ++ rest) =
      (xs.foldlM add start).map (·, rest) := by
  have hfuel := TextField.length_lt_length_membersText s true
    (xs.map fun x => (name x, text x)) rest
  rw [List.length_map] at hfuel
  simp only [members, read?_bind, read?_get, Option.bind_some,
    read?_foldMembers s hstep _ hfuel true start rest]
  cases xs.foldlM add start <;> rfl

end

/-! ## Fields that are kept -/

/-- A member of a tagged record with the form of its field and the tree it is kept as. -/
structure Kept where
  name : String
  form : Scalar
  value : Json
  tree : Json

namespace Kept

/-- The member as it is written. -/
def written (m : Kept) : String × Json :=
  (m.name, m.value)

/-- The member as it is kept. -/
def kept (m : Kept) : String × Json :=
  (m.name, m.tree)

/-- The member as its field reads it. -/
def read? (m : Kept) : Option (String × Json) :=
  (m.form.ofTree m.tree).toOption.map (m.name, ·)

/-- The tag, and the fields that are kept, with one member more. -/
def keep (tag : String) (acc : Option Json × List (String × Json)) (m : Kept) :
    Option (Option Json × List (String × Json)) :=
  if m.name = tag then if acc.1.isSome then none else some (some m.tree, acc.2)
  else some (acc.1, m.kept :: acc.2)

theorem foldlM_keep {tag : String} {ms : List Kept} (h : ∀ m ∈ ms, m.name ≠ tag)
    (acc : Option Json × List (String × Json)) :
    ms.foldlM (keep tag) acc = some (acc.1, (ms.map kept).reverse ++ acc.2) := by
  induction ms generalizing acc with
  | nil => rfl
  | cons m ms ih =>
    obtain ⟨hm, hms⟩ := List.forall_mem_cons.1 h
    rw [List.foldlM_cons, keep, if_neg hm, Option.bind_eq_bind, Option.bind_some, ih hms,
      List.map_cons, List.reverse_cons, List.append_assoc]
    rfl

/-- The tag comes first, and all other members are kept. -/
theorem foldlM_keep_cons {tag : String} {m : Kept} (hm : m.name = tag) {ms : List Kept}
    (h : ∀ other ∈ ms, other.name ≠ tag) :
    (m :: ms).foldlM (keep tag) (none, []) = some (some m.tree, (ms.map kept).reverse) := by
  rw [List.foldlM_cons, keep, if_pos hm, Option.isSome_none, if_neg Bool.false_ne_true,
    Option.bind_eq_bind, Option.bind_some, foldlM_keep h, List.append_nil]

/-- The field of a member, as it is read out of a tree. -/
def field (m : Kept) : TreeField :=
  ⟨m.name, .required, m.form.ofTree⟩

end Kept

namespace Variant

variable {variants : List Variant} {tag : String} {depth : Nat} {ms : List Kept}

theorem read?_member {m : Kept} (hglance : IsGlancedAs m.value m.tree)
    (htag : m.name = tag → (tagForm variants).ofTree m.tree = .ok m.tree)
    {text : List Char} (htext : IsText m.value text)
    (acc : Option Json × List (String × Json)) {gap rest : List Char} (hgap : Blank gap)
    (hrest : Delimits rest) :
    (member variants tag depth acc).read?
        (stringText m.name ++ ':' :: (gap ++ (text ++ rest))) =
      (m.keep tag acc).map (·, rest) := by
  have hcolon (text : List Char) : colon.read? (':' :: text) = some ((), text) := rfl
  simp only [member, read?_bind, Text.read?_quoted, Option.bind_some, Kept.keep]
  split
  · next hname =>
    split
    · rfl
    · have htree := Schema.takes_readScalar (hglance.takes text htext) (tagForm variants) gap rest
        hgap hrest
      simp only [Option.bind_some, htag hname] at htree
      simp only [read?_bind, hcolon, Option.bind_some, htree]
      rfl
  · simp only [read?_bind, hcolon, Option.bind_some,
      hglance.takes_value htext depth gap rest hgap hrest]
    rfl

/-- All members of a tagged record are kept but the tag, whose form allows the tags of variants. -/
theorem read?_members {v : Variant} (hfind : variants.find? (·.tag == v.tag) = some v)
    (hglance : ∀ m ∈ ms, IsGlancedAs m.value m.tree) (htag : ∀ m ∈ ms, m.name ≠ tag)
    {write : Json → List Char}
    (hwrite : ∀ m ∈ (tag, .string v.tag) :: ms.map Kept.written, IsText m.2 (write m.2))
    (s : Spacing) (depth : Nat) (rest : List Char) :
    (members (member variants tag depth) (none, [])).read?
        (membersText s true (((tag, .string v.tag) :: ms.map Kept.written).map fun m =>
          (m.1, write m.2)) ++ rest) =
      some ((some (.string v.tag), (ms.map Kept.kept).reverse), rest) := by
  obtain ⟨hwritetag, hwrites⟩ := List.forall_mem_cons.1 hwrite
  rw [List.forall_mem_map] at hwrites
  let first : Kept := ⟨tag, tagForm variants, .string v.tag, .string v.tag⟩
  have hfirst : (tagForm variants).ofTree first.tree = .ok first.tree :=
    if_pos (List.mem_map_of_mem (List.mem_of_find?_eq_some hfind))
  have hstep : ∀ m ∈ first :: ms, ∀ acc gap rest, Blank gap → Delimits rest →
      (member variants tag depth acc).read?
          (stringText m.name ++ ':' :: (gap ++ (write m.value ++ rest))) =
        (m.keep tag acc).map (·, rest) := by
    intro m hm acc gap rest hgap hrest
    rcases List.mem_cons.1 hm with rfl | hm
    · exact read?_member (isGlancedAs_string v.tag) (fun _ => hfirst) hwritetag acc hgap hrest
    · exact read?_member (hglance m hm) (fun hname => absurd hname (htag m hm)) (hwrites m hm) acc
        hgap hrest
  have hmembers := Json.read?_members s hstep (none, []) rest
  rw [Kept.foldlM_keep_cons (m := first) rfl htag] at hmembers
  have hwritten : ((tag, Json.string v.tag) :: ms.map Kept.written).map
      (fun m => (m.1, write m.2)) = (first :: ms).map fun m => (m.name, write m.value) := by
    rw [List.map_cons, List.map_cons, List.map_map]
    rfl
  rw [hwritten]
  exact hmembers

/-- The values that fields read out of members are those the members are read as. -/
theorem toOption_ofMembers {fields : List TreeField} (hfields : (fields.map (·.name)).Nodup)
    (hms : ∀ m ∈ ms, m.field ∈ fields) (hnodup : (ms.map Kept.name).Nodup) (values : FieldValues)
    (hnew : ∀ m ∈ ms, m.name ∉ values.map (·.1)) :
    (TreeField.ofMembers fields values (ms.map Kept.kept)).toOption =
      (ms.mapM Kept.read?).map fun read =>
        read.reverse.map (fun m => (m.1, some m.2)) ++ values := by
  induction ms generalizing values with
  | nil => rfl
  | cons m ms ih =>
    obtain ⟨hm, hms⟩ := List.forall_mem_cons.1 hms
    obtain ⟨hnew, hnews⟩ := List.forall_mem_cons.1 hnew
    rw [List.map_cons, List.nodup_cons] at hnodup
    have hfind := Field.find?_eq_some hfields hm
    have hrest (value : Json) := ih hms hnodup.2 ((m.name, some value) :: values) (by
      intro other hother
      rw [List.map_cons, List.mem_cons, not_or]
      refine ⟨fun hname => hnodup.1 ?_, hnews other hother⟩
      exact List.mem_map.2 ⟨other, hother, hname⟩)
    simp only [Kept.field] at hfind
    rw [List.map_cons, List.mapM_cons, Kept.kept, TreeField.ofMembers, hfind, Kept.read?]
    simp only [lookup_eq_none hnew, Option.isSome_none, Bool.false_eq_true, if_false,
      TreeField.ofTree]
    cases m.form.ofTree m.tree with
    | error e => rfl
    | ok value =>
      refine (hrest value).trans ?_
      cases ms.mapM Kept.read? <;> simp [Except.toOption]

/-- A record of the fields is made of what the members are read as. -/
theorem toOption_record (hnodup : (ms.map Kept.name).Nodup) (words : String) (surplus : Bool) :
    (TreeField.record words surplus (ms.map Kept.field) (.object (ms.map Kept.kept))).toOption =
      (ms.mapM Kept.read?).map .object := by
  have hnames : (ms.map Kept.field).map (·.name) = ms.map Kept.name := List.map_map
  have hvalues := toOption_ofMembers (hnames.symm ▸ hnodup)
    (fun m hm => List.mem_map_of_mem hm) hnodup [] fun _ _ => List.not_mem_nil
  rw [TreeField.record, toOption_bind fun _ => rfl, hvalues]
  cases hread : ms.mapM Kept.read? with
  | none => rfl
  | some read =>
    have hread' : read.map (·.1) = ms.map Kept.name := map_fst_of_mapM hread
    have hobject := Field.toObject_eq (hnames.trans hread'.symm) (hread' ▸ hnodup)
    rw [Option.map_some, Option.bind_some, List.append_nil, hobject]
    rfl

/-- A variant puts together what its fields are read as. -/
theorem toOption_ofTree {v : Variant} (hfields : v.fields = ms.map fun m => (m.name, m.form))
    (hnodup : (ms.map Kept.name).Nodup) (tag : String) :
    (v.ofTree tag (.object (ms.map Kept.kept))).toOption =
      (ms.mapM Kept.read?).map fun read => .object ((tag, .string v.tag) :: read) := by
  have hreaders : v.readers = ms.map Kept.field := by
    rw [readers, hfields, List.map_map]
    rfl
  rw [ofTree, hreaders, toOption_bind fun _ => rfl, toOption_record hnodup]
  cases ms.mapM Kept.read? <;> rfl

theorem select_eq {v : Variant} (hfind : variants.find? (·.tag == v.tag) = some v)
    (rest : Json) : select variants tag (.string v.tag) rest = v.ofTree tag rest := by
  have hmem : v.tag ∈ variants.map (·.tag) :=
    List.mem_map_of_mem (List.mem_of_find?_eq_some hfind)
  have hform : (tagForm variants).ofTree (.string v.tag) = .ok (.string v.tag) := if_pos hmem
  rw [select, hform]
  simp only [bind, Except.bind, hfind]

end Variant

theorem Schema.read?_settle (result : Except Error Json) (text : List Char) :
    (settle result).read? text = result.toOption.map (·, text) := by
  cases result <;> rfl

/-- A tagged record is read as its variant reads what its fields are kept as. -/
theorem Schema.readsAs_tagged {variants : List Variant} {v : Variant} {tag : String}
    {ms : List Kept} (hfind : variants.find? (·.tag == v.tag) = some v)
    (hfields : v.fields = ms.map fun m => (m.name, m.form))
    (hglance : ∀ m ∈ ms, IsGlancedAs m.value m.tree) (htag : ∀ m ∈ ms, m.name ≠ tag)
    (hnodup : (ms.map Kept.name).Nodup) (words : String) (depth : Nat) :
    (tagged words tag variants).ReadsAs (depth + 1)
      (.object ((tag, .string v.tag) :: ms.map Kept.written))
      ((ms.mapM Kept.read?).map fun read => .object ((tag, .string v.tag) :: read)) := by
  intro _ htext
  cases htext with
  | @object s _ write hwrite =>
    intro gap rest hgap _
    have hmembers := Variant.read?_members hfind hglance htag hwrite s depth rest
    have hstart := read?_valueStart_cons hgap (c := '\x7b') (by decide)
      (membersText s true (((tag, .string v.tag) :: ms.map Kept.written).map fun m =>
        (m.1, write m.2)) ++ rest)
    simp only [Schema.read, Variant.read, read?_bind, List.cons_append, hstart, Option.bind_some,
      Schema.inside, read?_skip, List.tail_cons, hmembers]
    rw [List.reverse_reverse, Variant.select_eq hfind, Schema.read?_settle,
      Variant.toOption_ofTree hfields hnodup]

end CertaintyFactor.Json
