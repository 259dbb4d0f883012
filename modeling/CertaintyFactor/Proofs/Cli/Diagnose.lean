import CertaintyFactor.Cli.Run
import CertaintyFactor.Proofs.Disk.Ways
import CertaintyFactor.Proofs.Session.Store

/-!
# What a diagnosis is told from

The command that diagnoses opens the store, reads the catalog, and then records. So how it ends is
told from what is read of the catalog once the store is opened (`DiagnoseRequest.ending`), and what
becomes of the record shows in a document only, as its session (`Output.SameButSession`). Opening
the store leaves the disk as it is, but for the directories that are made for a store that is not
there (`DiagnoseRequest.opened`).
-/

set_option autoImplicit false

namespace CertaintyFactor

open Session (Store)

/-! ## The store -/

namespace Session.Store

theorem run_contents?_guarded (path : String) (disk : GuardedTree) :
    (contents? path : StateM GuardedTree _).run disk =
      (match disk.isThere path with
        | .error e => .error e
        | .ok false => .ok none
        | .ok true => (disk.readText path).map fun text => some (.ofText text), disk) := by
  have hthere : (Disk.isThere path : StateM GuardedTree _).run disk =
      (disk.isThere path, disk) := rfl
  have htext : (Disk.readText path : StateM GuardedTree _).run disk =
      (disk.readText path, disk) := rfl
  refine (run_bind hthere _).trans ?_
  cases disk.isThere path with
  | error e => rfl
  | ok found =>
    cases found with
    | false => rfl
    | true => exact (run_bind htext _).trans rfl

/-- Making ready for a file makes the directories that lead to it, or is refused. -/
theorem run_prepare_guarded (path : String) (disk : GuardedTree) :
    ((prepare path : StateM GuardedTree _).run disk).2 =
      match Path.parent? path with
      | some parent => disk.withDirectories parent
      | none => disk := by
  unfold prepare
  cases Path.parent? path <;> rfl

/-- Opening a store leaves the disk as it is, but for the directories that are made for a store that
is not there. -/
theorem run_openAt_guarded (path : String) (disk : GuardedTree) :
    ((openAt path : StateM GuardedTree _).run disk).2 =
      if disk.isThere path = .ok false then
        match Path.parent? path with
        | some parent => disk.withDirectories parent
        | none => disk
      else disk := by
  have hcontents := run_contents?_guarded path disk
  unfold openAt
  rw [run_bind hcontents]
  cases disk.isThere path with
  | error e => rfl
  | ok found =>
    cases found with
    | true => cases disk.readText path <;> rfl
    | false =>
      rw [if_pos rfl, ← run_prepare_guarded]
      rcases hprepare : (prepare path : StateM GuardedTree _).run disk with ⟨answer, ready⟩
      dsimp only
      rw [run_bind hprepare]
      cases answer <;> rfl

end Session.Store

/-! ## The service -/

namespace Service

/-- What a diagnosis from a file answers, told from what was read of the file. -/
def told (config : Config) (file : FileCatalog) (content : Except DiskError String)
    (selection : Selection Binary64) : Except Error Outcome :=
  match (file.loaded content).1 with
  | .error e => .error (.catalog e)
  | .ok c =>
    (outcome config (c.snapshot (file.loaded content).2.loads) selection).mapError .evaluation

theorem exists_run_diagnose {σ : Type} [Disk (StateM σ)] (config : Config) (file : FileCatalog)
    (recorder : Session.Recorder) (stamp : Session.Stamp) (selection : Selection Binary64)
    (disk : σ) :
    ∃ recording, (((⟨config, .file file, recorder⟩ : Service).diagnose stamp selection :
        StateM σ _).run disk).1.1 =
      (told config file ((Disk.readText file.path : StateM σ _).run disk).1 selection).map
        fun o => (o, recording) := by
  rcases hread : (Disk.readText file.path : StateM σ _).run disk with ⟨content, read⟩
  have hload : (file.load : StateM σ _).run disk = (file.loaded content, read) :=
    Store.run_bind hread _
  have hfile : (file.snapshot : StateM σ _).run disk =
      (((file.loaded content).1.map (·.snapshot (file.loaded content).2.loads),
        (file.loaded content).2), read) :=
    (Store.run_bind hload _).trans rfl
  have hsnapshot : ((Source.file file).snapshot : StateM σ _).run disk =
      (((file.loaded content).1.map (·.snapshot (file.loaded content).2.loads),
        .file (file.loaded content).2), read) :=
    (Store.run_bind hfile _).trans rfl
  unfold diagnose told
  rw [Store.run_bind hsnapshot]
  cases (file.loaded content).1 with
  | error e => exact ⟨.skipped, rfl⟩
  | ok c =>
    simp only [Except.map]
    cases outcome config (c.snapshot (file.loaded content).2.loads) selection with
    | error e => exact ⟨.skipped, rfl⟩
    | ok o =>
      -- Whatever recording answers, the outcome is there already.
      let service : Service := ⟨config, .file (file.loaded content).2, recorder⟩
      rcases hrecord : (service.record stamp (summary? selection o) : StateM σ _).run read with
        ⟨⟨recording, after⟩, left⟩
      refine ⟨recording, ?_⟩
      simp only
      rw [Store.run_bind hrecord]
      rfl

end Service

namespace Cli

/-! ## Outputs -/

/-- Outputs in a format that are the same but for the session that a document may name. -/
structure Output.SameButSession (format : Format) (a b : Output) : Prop where
  exitCode : a.exitCode = b.exitCode
  messages : a.report.messages = b.report.messages
  table : format = .table → a.report.answer = b.report.answer
  json : format = .json → a.report.answer = b.report.answer ∨
    ∃ (before after : List (String × Json)) (s t : Option String),
      let document (session : Option String) : Json :=
        .object (before ++ Json.optional "session" (session.map .string) ++ after)
      a.report.answer = (document s).pretty ++ "\n" ∧ b.report.answer = (document t).pretty ++ "\n"

theorem Output.SameButSession.refl (format : Format) (a : Output) : a.SameButSession format a :=
  ⟨rfl, rfl, fun _ => rfl, fun _ => .inl rfl⟩

namespace DiagnoseRequest

/-! ## The command -/

/-- The catalog file that is asked for, by the request or else by the settings. -/
def catalog? (r : DiagnoseRequest) (settings : Settings) : Option String :=
  r.catalog <|> settings.catalog

theorem catalogFile_congr {r q : DiagnoseRequest} {settings others : Settings}
    (h : r.catalog? settings = q.catalog? others) :
    catalogFile r.catalog settings = catalogFile q.catalog others := by
  unfold catalog? at h
  rw [catalogFile, catalogFile, h]

theorem catalog?_of_catalogFile {r : DiagnoseRequest} {settings : Settings} {file : FileCatalog}
    (h : catalogFile r.catalog settings = .ok file) : r.catalog? settings = some file.path := by
  unfold catalogFile at h
  unfold catalog?
  cases hpath : r.catalog <|> settings.catalog with
  | none =>
    rw [hpath] at h
    cases h
  | some path =>
    rw [hpath] at h
    cases hformat : Catalog.Format.ofPath path with
    | error e => simp [FileCatalog.ofPath, hformat, bind, Except.bind, Except.mapError] at h
    | ok format =>
      simp only [FileCatalog.ofPath, hformat, bind, Except.bind, pure, Except.pure,
        Except.mapError, Except.ok.injEq] at h
      rw [← h]

/-- How a diagnosis ends, told from what was read of the catalog and what became of the record. -/
def ending (styles : Bool) (r : DiagnoseRequest) (config : Config) (file : FileCatalog)
    (content : Except DiskError String) (recording : Service.Recording) : Ending :=
  match Service.told config file content r.selection with
  | .error e => .failed (.service e)
  | .ok o => { report := r.report styles o recording }

/-- The command ends as it is told from what is read of the catalog once the store is opened. -/
theorem exists_run_eq_ending {σ : Type} [Disk (StateM σ)] (styles : Bool) (stamp : Session.Stamp)
    (settings : Settings) (r : DiagnoseRequest) {file : FileCatalog}
    (hfile : catalogFile r.catalog settings = .ok file) (disk : σ) :
    ∃ recording, ((r.run styles stamp settings : StateM σ Ending).run disk).1 =
      r.ending styles (r.config settings) file
        ((Disk.readText file.path : StateM σ _).run
          ((r.recorder settings : StateM σ _).run disk).2).1 recording := by
  rcases hrecorder : (r.recorder settings : StateM σ _).run disk with ⟨recorder, opened⟩
  obtain ⟨recording, htold⟩ := Service.exists_run_diagnose (r.config settings) file recorder stamp
    r.selection opened
  refine ⟨recording, ?_⟩
  unfold run ending
  rw [hfile]
  simp only
  rw [Store.run_bind hrecorder]
  rcases hdiagnose : ((⟨r.config settings, .file file, recorder⟩ : Service).diagnose stamp
    r.selection : StateM σ _).run opened with ⟨⟨result, service⟩, left⟩
  rw [hdiagnose] at htold
  rw [Store.run_bind hdiagnose]
  simp only at htold
  rw [htold]
  cases Service.told (r.config settings) file
    ((Disk.readText file.path : StateM σ _).run opened).1 r.selection <;> rfl

/-- Of a document only the session depends on what became of the record. -/
theorem exists_document_eq {r q : DiagnoseRequest} (hexplain : r.explain = q.explain)
    (o : Service.Outcome) :
    ∃ before after : List (String × Json), ∀ session : Option String,
      r.document o session =
          .object (before ++ Json.optional "session" (session.map .string) ++ after) ∧
        q.document o session = r.document o session := by
  have hmembers : q.resultMembers = r.resultMembers := by
    funext c
    rw [resultMembers, resultMembers, hexplain]
  refine ⟨[("catalog_revision", .count o.revision)],
    [("selection", .array (o.selection.map NamedSelection.toJson)),
      ("results", .array (o.results.map fun c => .object (r.resultMembers c)))] ++
      Json.optional "recommendation" (o.recommendation.map Recommendation.toJson) ++
      [("warnings", .array (o.warnings.map Warning.toJson))], fun session => ⟨?_, ?_⟩⟩
  · simp only [document, List.append_assoc]
  · rw [document, document, hmembers]

/-- What becomes of the record shows in a document only, as its session. -/
theorem sameButSession_ending (styles : Bool) {r q : DiagnoseRequest}
    (hselection : r.selection = q.selection) (hexplain : r.explain = q.explain)
    (hformat : r.format = q.format) (config : Config) (file : FileCatalog)
    (content : Except DiskError String) (recording other : Service.Recording) :
    ((r.ending styles config file content recording).output styles).SameButSession r.format
      ((q.ending styles config file content other).output styles) := by
  unfold ending
  rw [hselection]
  cases Service.told config file content q.selection with
  | error e => exact .refl r.format _
  | ok o =>
    cases hr : r.format with
    | table =>
      have hreport : r.report styles o recording = q.report styles o other := by
        rw [report, report, ← hformat, hr]
        simp only [tables, resultsReport, hexplain]
      simp only [hreport]
      exact .refl _ _
    | json =>
      obtain ⟨before, after, hdocument⟩ := exists_document_eq hexplain o
      have hreport : r.report styles o recording = .json (r.document o (sessionOf recording)) := by
        rw [report, hr]
      have hother : q.report styles o other = .json (q.document o (sessionOf other)) := by
        rw [report, ← hformat, hr]
      rw [(hdocument _).1] at hreport
      rw [(hdocument _).2, (hdocument _).1] at hother
      simp only [hreport, hother]
      exact ⟨rfl, rfl, nofun, fun _ => .inr ⟨before, after, _, _, rfl, rfl⟩⟩

/-! ## Opening the store -/

/-- The disk once the store of a diagnosis is opened: if it is not there, the directories that lead
to it are made. -/
def opened (r : DiagnoseRequest) (settings : Settings) (disk : GuardedTree) : GuardedTree :=
  match settings.store, r.noRecord with
  | some store, false =>
    if disk.isThere store = .ok false then
      match Path.parent? store with
      | some parent => disk.withDirectories parent
      | none => disk
    else disk
  | _, _ => disk

theorem run_recorder_guarded (r : DiagnoseRequest) (settings : Settings) (disk : GuardedTree) :
    ((r.recorder settings : StateM GuardedTree _).run disk).2 = r.opened settings disk := by
  unfold recorder opened
  cases settings.store with
  | none => rfl
  | some store =>
    cases r.noRecord with
    | true => rfl
    | false =>
      dsimp only
      rw [← Store.run_openAt_guarded]
      rcases hopen : (Store.openAt store : StateM GuardedTree _).run disk with ⟨answer, left⟩
      rw [Store.run_bind hopen]
      cases answer <;> rfl

/-- A catalog that can be read reads the same once the store is opened. -/
theorem readText_opened {r : DiagnoseRequest} {settings : Settings} {disk : GuardedTree}
    {path text : String} (h : disk.readText path = .ok text) :
    (r.opened settings disk).readText path = .ok text := by
  unfold opened
  split
  · split
    · split
      · exact GuardedTree.readText_withDirectories h _
      · exact h
    · exact h
  · exact h

end DiagnoseRequest

end Cli

end CertaintyFactor
