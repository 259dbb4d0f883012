import CertaintyFactor.Json.Schema.Read
import CertaintyFactor.Proofs.Json.Number

/-!
# Documents are read steadily

Every reader of documents is steady, and the reader of a record is enclosed: once the record has
ended, nothing after it is looked at.
-/

set_option autoImplicit false

namespace CertaintyFactor.Json

open Reader

/-! ## Strings -/

namespace Text

theorem utf8Size_of_hexValue? {c : Char} (h : (hexValue? c).isSome) : c.utf8Size = 1 := by
  have hsmall : c.val ≤ 'f'.val := by
    unfold hexValue? at h
    split at h
    · next hdigit =>
      simp only [Char.isDigit, Bool.and_eq_true, decide_eq_true_eq] at hdigit
      exact UInt32.le_trans hdigit.2 (by decide)
    · split at h
      · next hlower =>
        simp only [Bool.and_eq_true, decide_eq_true_eq] at hlower
        exact hlower.2
      · split at h
        · next hupper =>
          simp only [Bool.and_eq_true, decide_eq_true_eq] at hupper
          exact UInt32.le_trans hupper.2 (by decide)
        · cases h
  exact Char.utf8Size_eq_one_iff.2 (UInt32.le_trans hsmall (by decide))

/-- A row of hexadecimal digits has as many bytes as characters. -/
theorem foldl_utf8Size {row : List Char} (h : ∀ c ∈ row, (hexValue? c).isSome) (n : Nat) :
    row.foldl (fun n c => n + c.utf8Size) n = n + row.length := by
  induction row generalizing n with
  | nil => rfl
  | cons c row ih =>
    rw [List.foldl_cons, utf8Size_of_hexValue? (h c List.mem_cons_self),
      ih (fun d hd => h d (List.mem_cons_of_mem c hd)), List.length_cons]
    omega

theorem isSome_of_mapM {f : Char → Option Nat} {row : List Char} {values : List Nat}
    (h : row.mapM f = some values) : ∀ c ∈ row, (f c).isSome := by
  induction row generalizing values with
  | nil => exact nofun
  | cons c row ih =>
    rw [List.mapM_cons] at h
    cases hc : f c with
    | none => simp [hc] at h
    | some v =>
      cases hrow : row.mapM f with
      | none => simp [hc, hrow] at h
      | some values =>
        intro d hd
        rcases List.mem_cons.1 hd with rfl | hd
        · simp [hc]
        · exact ih hrow d hd

theorem steady_hexEscape : hexEscape.Steady := by
  intro text a rest hread
  simp only [hexEscape, read?_bind, read?_get, Option.bind_some] at hread
  split at hread
  · cases hread
  · next hsize =>
    cases hvalues : (text.take 4).mapM hexValue? with
    | none => simp [hvalues] at hread
    | some values =>
      have hlength : 4 ≤ text.length := by
        rw [foldl_utf8Size (isSome_of_mapM hvalues), List.length_take] at hsize
        omega
      simp only [hvalues, read?_bind, read?_set, Option.bind_some, read?_pure, Option.some.injEq,
        Prod.mk.injEq] at hread
      obtain ⟨rfl, rfl⟩ := hread
      refine ⟨text.take 4, (List.take_append_drop 4 text).symm, fun next _ => ?_⟩
      have hfour : (text.take 4).length = 4 := List.length_take_of_le hlength
      simp only [hexEscape, read?_bind, read?_get, Option.bind_some, List.take_left' hfour,
        List.drop_left' hfour, hvalues]
      rw [if_neg hsize]
      rfl

theorem steady_nextChar : nextChar.Steady :=
  steady_first?.bind fun c => by
    cases c with
    | none => exact .fail _
    | some c => exact steady_skip.bind fun _ => .pure c

theorem busy_nextChar : nextChar.Busy :=
  busy_first? rfl fun c => .bind .skip fun _ => .pure c

theorem steady_escapeGoesOn (c : Char) : (escapeGoesOn c).Steady :=
  steady_nextChar.bind fun _ => .ite (.pure _) (.fail _)

theorem steady_numericEscape : numericEscape.Steady :=
  steady_hexEscape.bind fun _ =>
    .ite (.fail _) <| .ite
      ((steady_escapeGoesOn _).bind fun _ => (steady_escapeGoesOn _).bind fun _ =>
        steady_hexEscape.bind fun _ => .ite (.pure _) (.fail _))
      (.pure _)

theorem steady_escape : escape.Steady :=
  steady_nextChar.bind fun c => .ite steady_numericEscape <| by
    split
    · exact .pure _
    · exact .fail _

theorem steady_charsFrom (fuel acc : List Char) : (charsFrom fuel acc).Steady := by
  induction fuel generalizing acc with
  | nil => exact .fail _
  | cons _ fuel ih =>
    exact steady_nextChar.bind fun c =>
      .ite (.pure _) (.ite (steady_escape.bind fun _ => ih _) (.ite (.fail _) (ih _)))

theorem charsFrom_extends (fuel fuel' acc : List Char) :
    Extends fuel'.length (charsFrom fuel acc) (charsFrom fuel' acc) := by
  induction fuel' generalizing fuel acc with
  | nil =>
    refine .zero ?_ _
    cases fuel <;> rfl
  | cons _ fuel' ih =>
    cases fuel with
    | nil => exact .fail _ _
    | cons _ fuel =>
      exact .busy busy_nextChar fun c =>
        .ite (.refl _) (.ite (.bind steady_escape fun _ => ih _ _) (.ite (.refl _) (ih _ _)))

theorem busy_charsFrom (fuel acc : List Char) : (charsFrom fuel acc).Busy := by
  cases fuel with
  | nil => exact .fail _
  | cons _ fuel =>
    exact busy_nextChar.bind fun c =>
      .ite (.pure _) (.ite (steady_escape.bind fun _ => steady_charsFrom _ _)
        (.ite (.fail _) (steady_charsFrom _ _)))

theorem quoted_eq : quoted = (do
    skip
    let chars ← (get : Reader (List Char)) >>= fun fuel => charsFrom fuel []
    return .ofList chars) := by
  simp only [quoted, bind_assoc]

theorem steady_quoted : quoted.Steady := by
  have hchars : ((get : Reader (List Char)) >>= fun fuel => charsFrom fuel []).Steady :=
    .fueled (fun fuel => steady_charsFrom fuel []) fun fuel fuel' => charsFrom_extends fuel fuel' []
  rw [quoted_eq]
  exact steady_skip.bind fun _ => hchars.bind fun _ => .pure _

theorem busy_quoted : quoted.Busy := by
  rw [quoted_eq]
  exact .after steady_skip fun _ =>
    .bind (.fueled fun fuel => busy_charsFrom fuel []) fun _ => .pure _

theorem steady_skipEscape : skipEscape.Steady :=
  steady_nextChar.bind fun _ => .ite steady_hexEscape.discard (.ite (.pure _) (.fail _))

theorem steady_skipChars (fuel : List Char) : (skipChars fuel).Steady := by
  induction fuel with
  | nil => exact .fail _
  | cons _ fuel ih =>
    exact steady_nextChar.bind fun c =>
      .ite (.pure _) (.ite (steady_skipEscape.bind fun _ => ih) (.ite (.fail _) ih))

theorem skipChars_extends (fuel fuel' : List Char) :
    Extends fuel'.length (skipChars fuel) (skipChars fuel') := by
  induction fuel' generalizing fuel with
  | nil =>
    refine .zero ?_ _
    cases fuel <;> rfl
  | cons _ fuel' ih =>
    cases fuel with
    | nil => exact .fail _ _
    | cons _ fuel =>
      exact .busy busy_nextChar fun c =>
        .ite (.refl _) (.ite (.bind steady_skipEscape fun _ => ih _) (.ite (.refl _) (ih _)))

theorem busy_skipChars (fuel : List Char) : (skipChars fuel).Busy := by
  cases fuel with
  | nil => exact .fail _
  | cons _ fuel =>
    exact busy_nextChar.bind fun c =>
      .ite (.pure _) (.ite (steady_skipEscape.bind fun _ => steady_skipChars _)
        (.ite (.fail _) (steady_skipChars _)))

theorem steady_skipped : skipped.Steady :=
  steady_skip.bind fun _ => .fueled steady_skipChars skipChars_extends

theorem busy_skipped : skipped.Busy :=
  .after steady_skip fun _ => .fueled busy_skipChars

end Text

/-! ## Values that are passed over -/

namespace Skip

theorem steady_name : name.Steady := by
  refine steady_token?.bind fun c => ?_
  split
  · refine Text.steady_skipped.bind fun _ => steady_token?.bind fun d => ?_
    split
    · exact steady_skip
    · exact .fail _
    · exact .fail _
  · exact .fail _
  · exact .fail _

theorem steady_opening : opening.Steady := by
  refine steady_valueStart.bind fun c => ?_
  split
  · exact (steady_word _).bind fun _ => .pure _
  · exact (steady_word _).bind fun _ => .pure _
  · exact (steady_word _).bind fun _ => .pure _
  · exact Text.steady_skipped.bind fun _ => .pure _
  · exact steady_skip.bind fun _ => .pure _
  · exact steady_skip.bind fun _ => .pure _
  · exact .ite (Number.steady_skipped.bind fun _ => .pure _) (.fail _)

theorem busy_opening : opening.Busy := by
  refine busy_valueStart fun c => ?_
  split
  · exact ((busy_word (by decide)).bind fun _ => .pure _).busyAt _
  · exact ((busy_word (by decide)).bind fun _ => .pure _).busyAt _
  · exact ((busy_word (by decide)).bind fun _ => .pure _).busyAt _
  · exact (Text.busy_skipped.bind fun _ => .pure _).busyAt _
  · exact .bind .skip fun _ => .pure _
  · exact .bind .skip fun _ => .pure _
  · exact .ite ((Number.busy_skipped.bind fun _ => .pure _).busyAt _) (.fail _)

theorem steady_close (brackets : List Bracket) : (close brackets).Steady := by
  induction brackets with
  | nil => exact .pure _
  | cons b brackets ih =>
    refine steady_token?.bind fun c => ?_
    split
    · exact .fail _
    · exact .ite (steady_skip.bind fun _ => .pure _) (.ite (steady_skip.bind fun _ => ih) (.fail _))

theorem steady_closesAtOnce (b : Bracket) : (closesAtOnce b).Steady := by
  refine steady_token?.bind fun c => ?_
  split
  · exact .fail _
  · exact .ite (steady_skip.bind fun _ => .pure _) (.pure _)

theorem steady_lead (b : Bracket) : (lead b).Steady := by
  cases b with
  | list => exact .pure _
  | object => exact steady_name

/-- What is left to pass over, nothing once all brackets are closed. -/
def goOn (values : List Bracket → Reader Unit) (brackets : List Bracket) : Reader Unit :=
  match brackets with
  | [] => pure ()
  | b :: _ => do
    lead b
    values brackets

theorem steady_values (fuel : List Char) (brackets : List Bracket) :
    (values fuel brackets).Steady := by
  induction fuel generalizing brackets with
  | nil => exact .fail _
  | cons _ fuel ih =>
    have hrest (brackets : List Bracket) : (goOn (values fuel) brackets).Steady := by
      cases brackets with
      | nil => exact .pure _
      | cons b brackets => exact (steady_lead b).bind fun _ => ih _
    refine steady_opening.bind fun o => ?_
    split
    · exact (steady_close _).bind hrest
    · exact (steady_closesAtOnce _).bind fun _ =>
        .ite ((steady_close _).bind hrest) ((Steady.pure _).bind hrest)

theorem values_extends (fuel fuel' : List Char) (brackets : List Bracket) :
    Extends fuel'.length (values fuel brackets) (values fuel' brackets) := by
  induction fuel' generalizing fuel brackets with
  | nil =>
    refine .zero ?_ _
    cases fuel <;> rfl
  | cons _ fuel' ih =>
    cases fuel with
    | nil => exact .fail _ _
    | cons _ fuel =>
      have hrest (brackets : List Bracket) :
          Extends fuel'.length (goOn (values fuel) brackets) (goOn (values fuel') brackets) := by
        cases brackets with
        | nil => exact .refl _
        | cons b brackets => exact .bind (steady_lead b) fun _ => ih _ _
      refine .busy busy_opening fun o => ?_
      split
      · exact .bind (steady_close _) hrest
      · exact .bind (steady_closesAtOnce _) fun _ =>
          .ite (.bind (steady_close _) hrest) (.bind (.pure _) hrest)

theorem steady_value : value.Steady :=
  .fueled (fun fuel => steady_values fuel []) fun fuel fuel' => values_extends fuel fuel' []

end Skip

/-! ## Values of any form -/

namespace Tree

theorem steady_scalar : scalar.Steady := by
  refine steady_valueStart.bind fun c => ?_
  split
  · exact (steady_word _).bind fun _ => .pure _
  · exact (steady_word _).bind fun _ => .pure _
  · exact (steady_word _).bind fun _ => .pure _
  · exact Text.steady_quoted.bind fun _ => .pure _
  · exact .ite Number.steady_number (.fail _)

theorem busy_scalar : scalar.Busy := by
  refine .after steady_valueStart fun c => ?_
  split
  · exact (busy_word (by decide)).bind fun _ => .pure _
  · exact (busy_word (by decide)).bind fun _ => .pure _
  · exact (busy_word (by decide)).bind fun _ => .pure _
  · exact Text.busy_quoted.bind fun _ => .pure _
  · exact .ite Number.busy_number (.fail _)

theorem steady_member {value : Reader Json} (hvalue : value.Steady) (acc : List (String × Json)) :
    (member value acc).Steady :=
  Text.steady_quoted.bind fun _ => steady_colon.bind fun _ => hvalue.bind fun _ => .pure _

theorem busy_member {value : Reader Json} (hvalue : value.Steady) (acc : List (String × Json)) :
    (member value acc).Busy :=
  Text.busy_quoted.bind fun _ => steady_colon.bind fun _ => hvalue.bind fun _ => .pure _

theorem steady_and_busy_value (depth : Nat) : (value depth).Steady ∧ (value depth).Busy := by
  induction depth with
  | zero =>
    exact ⟨steady_valueStart.bind fun c => .ite (.fail _) steady_scalar,
      .after steady_valueStart fun c => .ite (.fail _) busy_scalar⟩
  | succ depth ih =>
    obtain ⟨hsteady, hbusy⟩ := ih
    have hitems := enclosed_items hsteady hbusy
    have hmembers := enclosed_members (steady_member hsteady) (busy_member hsteady) []
    constructor
    · refine steady_valueStart.bind fun c => ?_
      split
      · exact steady_skip.bind fun _ => hitems.closed.steady.bind fun _ => .pure _
      · exact steady_skip.bind fun _ => hmembers.closed.steady.bind fun _ => .pure _
      · exact steady_scalar
    · refine .after steady_valueStart fun c => ?_
      split
      · exact .after steady_skip fun _ => hitems.busy.bind fun _ => .pure _
      · exact .after steady_skip fun _ => hmembers.busy.bind fun _ => .pure _
      · exact busy_scalar

theorem steady_value (depth : Nat) : (value depth).Steady :=
  (steady_and_busy_value depth).1

theorem busy_value (depth : Nat) : (value depth).Busy :=
  (steady_and_busy_value depth).2

end Tree

/-! ## Documents of a schema -/

namespace Schema

theorem idle_settle (result : Except Error Json) : (settle result).Idle := by
  cases result with
  | ok value => exact .pure _
  | error e => exact .fail _

theorem steady_settle (result : Except Error Json) : (settle result).Steady :=
  (idle_settle result).closed.steady

theorem steady_glance : glance.Steady := by
  refine steady_valueStart.bind fun c => ?_
  split
  · exact .pure _
  · exact .pure _
  · exact Tree.steady_scalar

theorem enclosed_unexpected (words : String) : (unexpected words).Enclosed :=
  .after steady_glance fun _ => .fail _

theorem steady_readScalar (form : Scalar) : (readScalar form).Steady :=
  steady_glance.bind fun _ => steady_settle _

/-- No array and no object is a value without parts. -/
theorem busy_readScalar (form : Scalar) : (readScalar form).Busy := by
  have hparts (value : Json) (h : value = .array [] ∨ value = .object []) :
      (settle (form.ofTree value)).Busy := by
    rcases h with rfl | rfl <;> cases form <;> exact .fail _
  rw [readScalar, glance, bind_assoc]
  refine .after steady_valueStart fun c => ?_
  split
  · rw [pure_bind]
    exact hparts _ (.inl rfl)
  · rw [pure_bind]
    exact hparts _ (.inr rfl)
  · exact Tree.busy_scalar.bind fun _ => steady_settle _

theorem steady_inside {α : Type} {reader : Nat → Reader α} (h : ∀ depth, (reader depth).Steady)
    (depth : Nat) : (inside depth reader).Steady := by
  cases depth with
  | zero => exact .fail _
  | succ depth => exact steady_skip.bind fun _ => h depth

theorem busy_inside {α : Type} {reader : Nat → Reader α} (h : ∀ depth, (reader depth).Busy)
    (depth : Nat) : (inside depth reader).Busy := by
  cases depth with
  | zero => exact .fail _
  | succ depth => exact .after steady_skip fun _ => h depth

theorem enclosed_inside {α : Type} {reader : Nat → Reader α}
    (h : ∀ depth, (reader depth).Enclosed) (depth : Nat) : (inside depth reader).Enclosed := by
  cases depth with
  | zero => exact .fail _
  | succ depth => exact .after steady_skip fun _ => h depth

theorem steady_readChoice (names : List String) (depth : Nat) :
    (readChoice names depth).Steady := by
  refine steady_valueStart.bind fun c => ?_
  split
  · exact steady_readScalar _
  · refine steady_inside (fun _ => (steady_hasMember _).bind fun _ => .ite ?_ (.fail _)) depth
    refine (steady_readScalar _).bind fun _ => steady_colon.bind fun _ =>
      (steady_readScalar _).discard.bind fun _ => steady_token?.bind fun c => ?_
    split
    · exact steady_skip.bind fun _ => .pure _
    · exact .fail _
    · exact .fail _
  · exact .fail _

theorem busy_readChoice (names : List String) (depth : Nat) : (readChoice names depth).Busy := by
  refine .after steady_valueStart fun c => ?_
  split
  · exact busy_readScalar _
  · refine busy_inside (fun _ => .after (steady_hasMember _) fun _ => .ite ?_ (.fail _)) depth
    refine (busy_readScalar _).bind fun _ => steady_colon.bind fun _ =>
      (steady_readScalar _).discard.bind fun _ => steady_token?.bind fun c => ?_
    split
    · exact steady_skip.bind fun _ => .pure _
    · exact .fail _
    · exact .fail _
  · exact .fail _

end Schema

namespace TextField

/-- A record all of whose fields are read steadily. -/
def AllSteady (fields : List TextField) : Prop :=
  ∀ field ∈ fields, field.read.Steady

theorem steady_value {field : TextField} (h : field.read.Steady) : (value field).Steady := by
  unfold value
  split
  · refine steady_token?.bind fun c => .ite ?_ (h.bind fun _ => .pure _)
    exact (steady_word _).bind fun _ => .pure _
  · exact h.bind fun _ => .pure _

theorem steady_member {fields : List TextField} (h : AllSteady fields) (values : FieldValues) :
    (member fields values).Steady := by
  refine Text.steady_quoted.bind fun name => ?_
  split
  · next field hfield =>
    exact .ite (.fail _) (steady_colon.bind fun _ =>
      (steady_value (h field (List.mem_of_find?_eq_some hfield))).bind fun _ => .pure _)
  · exact steady_colon.bind fun _ => Skip.steady_value.bind fun _ => .pure _

theorem busy_member {fields : List TextField} (h : AllSteady fields) (values : FieldValues) :
    (member fields values).Busy := by
  refine Text.busy_quoted.bind fun name => ?_
  split
  · next field hfield =>
    exact .ite (.fail _) (steady_colon.bind fun _ =>
      (steady_value (h field (List.mem_of_find?_eq_some hfield))).bind fun _ => .pure _)
  · exact steady_colon.bind fun _ => Skip.steady_value.bind fun _ => .pure _

theorem steady_itemValues {fields : List TextField} (h : AllSteady fields) (isFirst : Bool) :
    (itemValues isFirst fields).Steady := by
  induction fields generalizing isFirst with
  | nil => exact .pure _
  | cons field fields ih =>
    refine (steady_hasItem _).bind fun _ => .ite ?_ (.pure _)
    exact (steady_value (h field List.mem_cons_self)).bind fun _ =>
      (ih (fun f hf => h f (List.mem_cons_of_mem field hf)) false).bind fun _ => .pure _

/-- A record ends with a bracket, whichever way it is written. -/
theorem enclosed_record {fields : Nat → List TextField} (h : ∀ depth, AllSteady (fields depth))
    (words : String) (depth : Nat) : (record words fields depth).Enclosed := by
  refine .after steady_valueStart fun c => ?_
  split
  · refine Schema.enclosed_inside (fun depth => ?_) depth
    exact (enclosed_members (steady_member (h depth)) (busy_member (h depth)) []).bind
      fun _ => Schema.idle_settle _
  · refine Schema.enclosed_inside (fun depth => ?_) depth
    refine .after (steady_itemValues (h depth) true) fun values => ?_
    refine .after (Schema.steady_settle _) fun value => ?_
    exact enclosed_endList.bind fun _ => .pure value
  · exact Schema.enclosed_unexpected words

end TextField

namespace Variant

theorem steady_member (variants : List Variant) (tag : String) (depth : Nat)
    (acc : Option Json × List (String × Json)) : (member variants tag depth acc).Steady := by
  refine Text.steady_quoted.bind fun name => .ite (.ite (.fail _) ?_) ?_
  · exact steady_colon.bind fun _ => (Schema.steady_readScalar _).bind fun _ => .pure _
  · exact steady_colon.bind fun _ => (Tree.steady_value _).bind fun _ => .pure _

theorem busy_member (variants : List Variant) (tag : String) (depth : Nat)
    (acc : Option Json × List (String × Json)) : (member variants tag depth acc).Busy := by
  refine Text.busy_quoted.bind fun name => .ite (.ite (.fail _) ?_) ?_
  · exact steady_colon.bind fun _ => (Schema.steady_readScalar _).bind fun _ => .pure _
  · exact steady_colon.bind fun _ => (Tree.steady_value _).bind fun _ => .pure _

theorem enclosed_read (words tag : String) (variants : List Variant) (depth : Nat) :
    (read words tag variants depth).Enclosed := by
  refine .after steady_valueStart fun c => ?_
  split
  · refine Schema.enclosed_inside (fun depth => ?_) depth
    refine (enclosed_members (steady_member variants tag depth) (busy_member variants tag depth)
      _).bind fun (name, rest) => ?_
    cases name with
    | none => exact .fail _
    | some name => exact Schema.idle_settle _
  · refine Schema.enclosed_inside (fun depth => ?_) depth
    refine .after (steady_hasItem _) fun _ => .ite ?_ (.fail _)
    refine .after (Schema.steady_readScalar _) fun name => ?_
    have hfold : ((get : Reader (List Char)) >>= fun fuel =>
        foldItems (fun acc => return (← Tree.value depth) :: acc) fuel false []).Steady :=
      .fueled (fun fuel => steady_foldItems
        (fun acc => (Tree.steady_value depth).bind fun _ => .pure _) fuel false [])
        fun fuel fuel' => foldItems_extends
          (fun acc => (Tree.busy_value depth).bind fun _ => .pure _) fuel fuel' false []
    rw [← bind_assoc]
    exact .after hfold fun _ => enclosed_endList.bind fun _ => Schema.idle_settle _
  · exact Schema.enclosed_unexpected words

end Variant

namespace Schema

theorem enclosed_readList {item : Schema} (h : ∀ depth, (item.read depth).Steady)
    (hbusy : ∀ depth, (item.read depth).Busy) (depth : Nat) :
    ((Schema.list item).read depth).Enclosed := by
  simp only [Schema.read]
  refine .after steady_valueStart fun c => .ite ?_ (enclosed_unexpected _)
  exact enclosed_inside
    (fun depth => (enclosed_items (h depth) (hbusy depth)).bind fun _ => .pure _) depth

mutual

theorem steady_read : ∀ (schema : Schema) (depth : Nat), (schema.read depth).Steady
  | .scalar form, depth => by
    simp only [Schema.read]
    exact steady_readScalar form
  | .list item, depth =>
    (enclosed_readList (steady_read item) (busy_read item) depth).closed.steady
  | .choice names, depth => by
    simp only [Schema.read]
    exact steady_readChoice names depth
  | .record words fields, depth => by
    simp only [Schema.read]
    exact (TextField.enclosed_record (allSteady_textFields fields) words depth).closed.steady
  | .tagged words tag variants, depth => by
    simp only [Schema.read]
    exact (Variant.enclosed_read words tag variants depth).closed.steady

theorem busy_read : ∀ (schema : Schema) (depth : Nat), (schema.read depth).Busy
  | .scalar form, depth => by
    simp only [Schema.read]
    exact busy_readScalar form
  | .list item, depth =>
    (enclosed_readList (steady_read item) (busy_read item) depth).busy
  | .choice names, depth => by
    simp only [Schema.read]
    exact busy_readChoice names depth
  | .record words fields, depth => by
    simp only [Schema.read]
    exact (TextField.enclosed_record (allSteady_textFields fields) words depth).busy
  | .tagged words tag variants, depth => by
    simp only [Schema.read]
    exact (Variant.enclosed_read words tag variants depth).busy

theorem allSteady_textFields : ∀ (fields : List (String × Presence × Schema)) (depth : Nat),
    TextField.AllSteady (textFields fields depth)
  | [], depth => by
    simp only [textFields]
    exact nofun
  | (name, presence, schema) :: fields, depth => by
    simp only [textFields]
    intro field hfield
    rcases List.mem_cons.1 hfield with rfl | hfield
    · exact steady_read schema depth
    · exact allSteady_textFields fields depth field hfield

end

/-- Once a record has ended, nothing after it is looked at. -/
theorem enclosed_read_record (words : String) (fields : List (String × Presence × Schema))
    (depth : Nat) : ((Schema.record words fields).read depth).Enclosed := by
  simp only [Schema.read]
  exact TextField.enclosed_record (allSteady_textFields fields) words depth

end Schema

end CertaintyFactor.Json
