import CertaintyFactor.Proofs.Evaluation.Summary
import CertaintyFactor.Proofs.Json.Steady
import CertaintyFactor.Proofs.Time.Rfc3339
import CertaintyFactor.Proofs.Uuid
import CertaintyFactor.Session.Record

/-!
# Session records read again

The line of a record is read as the record with the certainties that its numbers are read as, or not
at all if one of them is not finite. No line that was cut short is read as a record.
-/

set_option autoImplicit false

namespace CertaintyFactor.Session.Record

open Json (Schema Member compactChars)

/-- A record of the calendar whose numbers fit in the words they are kept in. -/
structure IsValid (r : Record) : Prop where
  recordedAt : Time.IsValid r.recordedAt
  summary : r.summary.Sized

/-- A record as it is read again. -/
def reread? (r : Record) : Option Record :=
  r.summary.reread?.map (⟨r.id, r.recordedAt, ·⟩)

theorem isSome_reread? (r : Record) : r.reread?.isSome ↔ r.summary.IsFinite := by
  rw [reread?, Option.isSome_map, Summary.isSome_reread?]

/-- A record that is read again keeps its identifier and its time. -/
theorem stamp_of_reread? {r s : Record} (h : r.reread? = some s) :
    s.id = r.id ∧ s.recordedAt = r.recordedAt := by
  obtain ⟨summary, -, rfl⟩ := Option.map_eq_some_iff.1 h
  exact ⟨rfl, rfl⟩

theorem readsAs_toJson {r : Record} (h : r.IsValid) (depth : Nat) :
    schema.ReadsAs (depth + 4) r.toJson (r.reread?.map toJson) := by
  have hid : idSchema.ReadsAs (depth + 3) (.string r.id.text) (some (.string r.id.text)) :=
    Schema.readsAs_formatted (Uuid.normalize_text r.id) _
  have htime : instantSchema.ReadsAs (depth + 3) (.string (Time.Rfc3339.text r.recordedAt))
      (some (.string (Time.Rfc3339.text r.recordedAt))) :=
    Schema.readsAs_formatted (Time.Rfc3339.normalize_text h.recordedAt) _
  have hobject := Schema.readsAs_object (.cons (Member.isOf_field "id" hid)
    (.cons (Member.isOf_field "recorded_at" htime)
      (.cons (Member.isOf_field "summary" (Summary.readsAs_toJson h.summary depth)) .nil)))
    (by decide) "struct SessionRecord"
  have hread : r.reread?.map toJson = (([⟨"id", .string r.id.text, some (.string r.id.text)⟩,
      ⟨"recorded_at", .string (Time.Rfc3339.text r.recordedAt),
        some (.string (Time.Rfc3339.text r.recordedAt))⟩,
      ⟨"summary", r.summary.toJson, r.summary.reread?.map Summary.toJson⟩] : List Member).mapM
        Member.read?).map .object := by
    unfold reread?
    cases r.summary.reread? <;> simp [Member.read?, toJson]
  rw [hread]
  exact hobject

theorem ofJson?_toJson {r : Record} (h : Time.IsValid r.recordedAt) :
    ofJson? r.toJson = some r := by
  simp [toJson, ofJson?, Uuid.parse_text, Time.Rfc3339.parse_text h, Summary.ofJson?_toJson,
    Except.toOption]

theorem toOption_parse (text : String) :
    (parse text).toOption = (schema.parse text).toOption.bind ofJson? := by
  refine toOption_bind fun document => ?_
  cases ofJson? document <;> rfl

theorem toList_line (r : Record) : r.line.toList = compactChars r.toJson :=
  String.toList_ofList

/-- All of a record's line is taken, or it is not read. -/
theorem read?_line {r : Record} (h : r.IsValid) :
    (schema.read Json.nestingLimit).read? r.line.toList = (r.reread?.map toJson).map (·, []) := by
  rw [toList_line]
  exact (readsAs_toJson h 123).read?_text (Json.isText_compactChars _)

/-- The line of a record is read as the record is read again. -/
theorem parse_line {r : Record} (h : r.IsValid) : (parse r.line).toOption = r.reread? := by
  rw [toOption_parse, Schema.parse, Json.Reader.toOption_run, read?_line h]
  cases hr : r.reread? with
  | none => rfl
  | some s =>
    have htime : Time.IsValid s.recordedAt := by
      rw [(stamp_of_reread? hr).2]
      exact h.recordedAt
    have hjson := ofJson?_toJson htime
    simp only [Option.map_some, Option.bind_some, List.dropWhile_nil, if_true, hjson]

/-- The line of `r` is read as `d`. -/
def DecodesAs (r d : Record) : Prop :=
  parse r.line = .ok d

theorem decodesAs_of_reread? {r d : Record} (h : r.IsValid) (hd : r.reread? = some d) :
    r.DecodesAs d :=
  toOption_eq_some_iff.1 ((parse_line h).trans hd)

/-- A record ends with a bracket. -/
theorem enclosed_read_schema : (schema.read Json.nestingLimit).Enclosed :=
  Schema.enclosed_read_record "struct SessionRecord" [Json.field "id" idSchema,
    Json.field "recorded_at" instantSchema, Json.field "summary" Summary.schema] Json.nestingLimit

/-- A blank behind a record makes no difference. -/
theorem toOption_parse_append {c : Char} (hc : Json.Reader.isSpace c) (text : List Char) :
    (parse (.ofList (text ++ [c]))).toOption = (parse (.ofList text)).toOption := by
  rw [toOption_parse, toOption_parse, Schema.parse, Schema.parse,
    enclosed_read_schema.toOption_run_append hc]

/-- A line that was cut short is no record. -/
theorem parse_of_append {r : Record} (h : r.IsValid) {text more : List Char}
    (htext : r.line.toList = text ++ more) (hmore : more ≠ []) :
    (parse (.ofList text)).toOption = none := by
  -- Had the shorter text been read, its record would end before the whole line does.
  have hread : (schema.read Json.nestingLimit).read? text = none := by
    refine enclosed_read_schema.closed.read?_of_append (fun document rest hall => ?_) hmore
    have hline := read?_line h
    rw [htext] at hline
    obtain ⟨_, -, hrest⟩ := Option.map_eq_some_iff.1 (hline.symm.trans hall)
    exact (Prod.mk.inj hrest).2.symm
  rw [toOption_parse, Schema.parse, Json.Reader.toOption_run, String.toList_ofList, hread]
  rfl

/-- What an evaluation found is recorded as a valid record. -/
theorem isValid_ofDiagnosis {stamp : Stamp} {config : Config} {selection : Selection Binary64}
    {rules : List (Rule Binary64)} {damages : List Damage} {d : Diagnosis Binary64}
    (htime : Time.IsValid stamp.recordedAt)
    (h : evaluate config selection rules damages = .ok d)
    (hselection : selection.length ≤ Json.Number.maxSignificand)
    (hrules : rules.length ≤ Json.Number.maxSignificand) :
    (ofStamp stamp (.ofDiagnosis selection d.results)).IsValid :=
  ⟨htime, Summary.sized_ofDiagnosis h hselection hrules⟩

/-- The record of a diagnosis that found nothing for one report. -/
def sample (symptomId : String) (cf : Binary64) : Record :=
  ⟨⟨1, by decide⟩, ⟨0, 0⟩, ⟨1, 0, [⟨symptomId, cf⟩], []⟩⟩

theorem isValid_sample (symptomId : String) (cf : Binary64) : (sample symptomId cf).IsValid := by
  have htime : Time.IsValid ⟨0, 0⟩ := ⟨by decide, by decide, by decide⟩
  have hone : 1 ≤ Json.Number.maxSignificand := by decide
  -- A rule without entries makes no candidate of any report.
  let rules : List (Rule Binary64) := [⟨"R1", "K01", none, []⟩]
  have h : evaluate {} [⟨symptomId, cf⟩] rules [] =
      .ok (diagnosisOf .damageId [⟨symptomId, cf⟩] rules []) :=
    evaluate_lenient rfl (List.cons_ne_nil _ _) (List.cons_ne_nil _ _) []
  have hresults : (diagnosisOf .damageId [⟨symptomId, cf⟩] rules []).results = [] := by
    have hnone : candidates [⟨symptomId, cf⟩] [] rules = [] := rfl
    rw [results_diagnosisOf, hnone, rank, List.mergeSort_nil, List.mapIdx_nil]
  have hvalid : (ofStamp ⟨⟨1, by decide⟩, ⟨0, 0⟩⟩ (.ofDiagnosis _ _)).IsValid :=
    isValid_ofDiagnosis htime h hone hone
  rwa [hresults] at hvalid

example : (sample "G01" .nan).reread? = none := rfl

end CertaintyFactor.Session.Record
