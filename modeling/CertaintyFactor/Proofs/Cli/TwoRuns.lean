import CertaintyFactor.Proofs.Cli.Diagnose
import CertaintyFactor.Proofs.Settings.Load

/-!
# Diagnoses with different stores

Two runs of the program that are to diagnose the same, but with different stores: with none, with
one that is not there, empty, damaged or refused, or with the session left out of it. What they
write is the same but for the session that a document names (`sameButSession_output`), for the store
is opened before the catalog is read, but nothing of it is used, and what becomes of the record
comes after the outcome.

There is one way in which the store makes a difference. Opening a store that is not there makes the
directories that lead to it, and the path of the catalog may lead through one of them, as
`sub/../c.json` does when the store is `sub/s.jsonl`: without the directory the catalog is not found
(`exists_output_differs`). So what counts is how the catalog reads once the store is opened. A
catalog that can be read before reads the same then (`readText_opened`).
-/

set_option autoImplicit false

namespace CertaintyFactor.Cli

open Session (Store)

/-- A run of the program with arguments that ask for a diagnosis and with settings that can be
loaded. -/
structure DiagnosisRun where
  surroundings : Surroundings
  arguments : List String
  disk : GuardedTree
  request : Request
  diagnose : DiagnoseRequest
  settings : Settings
  parsed : Request.parse surroundings.environment arguments = .ok request
  command : request.command = .diagnose diagnose
  loaded : ((Settings.load request.config surroundings.environment :
    StateM GuardedTree _).run disk).1 = .ok settings

namespace DiagnosisRun

def styles (a : DiagnosisRun) : Bool :=
  showsStyles a.surroundings.environment a.surroundings.isTerminal

/-- What the run leaves behind. -/
def output (a : DiagnosisRun) : Output :=
  ((Cli.run a.surroundings a.arguments : StateM GuardedTree _).run a.disk).1

/-- The catalog file that the run asks for. -/
def catalog? (a : DiagnosisRun) : Option String :=
  a.diagnose.catalog? a.settings

/-- The disk that the run reads the catalog on: the store is opened, if it is to be. -/
def opened (a : DiagnosisRun) : GuardedTree :=
  a.diagnose.opened a.settings a.disk

/-- The two runs are to diagnose the same: with the same choices, on a catalog of the same path. The
disks, the stores that the settings name, and whether the session is left out of them are free, as
are the stamps of the sessions. -/
structure SameButStore (a b : DiagnosisRun) : Prop where
  styles : a.styles = b.styles
  selection : a.diagnose.selection = b.diagnose.selection
  explain : a.diagnose.explain = b.diagnose.explain
  format : a.diagnose.format = b.diagnose.format
  config : a.diagnose.config a.settings = b.diagnose.config b.settings
  catalog : a.catalog? = b.catalog?

variable {a b : DiagnosisRun}

theorem output_eq (a : DiagnosisRun) :
    a.output = ((a.diagnose.run a.styles a.surroundings.stamp a.settings :
      StateM GuardedTree _).run a.disk).1.output a.styles := by
  have hreads : OnlyReads (Settings.load a.request.config a.surroundings.environment :
      StateM GuardedTree _) :=
    Settings.onlyReads_load (fun _ _ => rfl) _ _
  have hload : (Settings.load a.request.config a.surroundings.environment :
      StateM GuardedTree _).run a.disk = (.ok a.settings, a.disk) :=
    Prod.ext a.loaded (hreads a.disk)
  rcases hrun : (a.diagnose.run a.styles a.surroundings.stamp a.settings :
    StateM GuardedTree _).run a.disk with ⟨ending, left⟩
  have hrequest : (a.request.run a.styles a.surroundings : StateM GuardedTree _).run a.disk =
      (ending, left) := by
    unfold Request.run
    rw [Store.run_bind hload, a.command]
    exact hrun
  unfold output Cli.run
  rw [a.parsed]
  exact congrArg Prod.fst (Store.run_bind hrequest _)

/-- Where no catalog can be asked for, the run ends with the reason. -/
theorem output_of_catalogFile_error {e : Error}
    (h : catalogFile a.diagnose.catalog a.settings = .error e) :
    a.output = (Ending.failed e).output a.styles := by
  rw [output_eq, DiagnoseRequest.run, h]
  rfl

/-- The run ends as it is told from the catalog as it reads once the store is opened. -/
theorem exists_output_eq_ending {file : FileCatalog}
    (hfile : catalogFile a.diagnose.catalog a.settings = .ok file) :
    ∃ recording, a.output =
      (a.diagnose.ending a.styles (a.diagnose.config a.settings) file (a.opened.readText file.path)
        recording).output a.styles := by
  obtain ⟨recording, hrun⟩ := DiagnoseRequest.exists_run_eq_ending a.styles a.surroundings.stamp
    a.settings a.diagnose hfile a.disk
  rw [DiagnoseRequest.run_recorder_guarded] at hrun
  exact ⟨recording, (output_eq a).trans (congrArg (·.output a.styles) hrun)⟩

theorem sameButSession_of_readText_opened (h : a.SameButStore b)
    (hcontent : ∀ path, a.catalog? = some path →
      a.opened.readText path = b.opened.readText path) :
    a.output.SameButSession a.diagnose.format b.output := by
  have hfile : catalogFile a.diagnose.catalog a.settings =
      catalogFile b.diagnose.catalog b.settings :=
    DiagnoseRequest.catalogFile_congr h.catalog
  cases hcatalog : catalogFile a.diagnose.catalog a.settings with
  | error e =>
    rw [output_of_catalogFile_error hcatalog,
      output_of_catalogFile_error (hfile.symm.trans hcatalog), h.styles]
    exact .refl _ _
  | ok file =>
    obtain ⟨recording, houtput⟩ := exists_output_eq_ending hcatalog
    obtain ⟨other, hother⟩ := exists_output_eq_ending (hfile.symm.trans hcatalog)
    have hsame : a.opened.readText file.path = b.opened.readText file.path :=
      hcontent file.path (DiagnoseRequest.catalog?_of_catalogFile hcatalog)
    rw [houtput, hother, ← h.styles, ← h.config, ← hsame]
    exact DiagnoseRequest.sameButSession_ending a.styles h.selection h.explain h.format _ file _
      recording other

/-- Runs that are to diagnose the same write the same but for the session that a document names, if
the catalog reads the same in both once their stores are opened. So they do whenever the catalog can
be read in both and is the same. -/
theorem sameButSession_output (h : a.SameButStore b) :
    ((∀ path, a.catalog? = some path → a.opened.readText path = b.opened.readText path) →
      a.output.SameButSession a.diagnose.format b.output) ∧
    ∀ path text, a.catalog? = some path → a.disk.readText path = .ok text →
      b.disk.readText path = .ok text →
        a.output.SameButSession a.diagnose.format b.output := by
  refine ⟨sameButSession_of_readText_opened h, fun path text hpath ha hb => ?_⟩
  apply sameButSession_of_readText_opened h
  intro other hother
  obtain rfl := Option.some.inj (hpath.symm.trans hother)
  have hopened : a.opened.readText path = .ok text := DiagnoseRequest.readText_opened ha
  exact hopened.trans (DiagnoseRequest.readText_opened hb).symm

/-! ## Runs with one store -/

/-- An environment that names a store. -/
def storeEnvironment (store : String) : Environment :=
  [("CFDX_SESSIONS__STORE", store)]

theorem run_load_storeEnvironment {store : String}
    (htext : Settings.Scalar.ofVariable store = .text store) (disk : GuardedTree) :
    (Settings.load none (storeEnvironment store) : StateM GuardedTree _).run disk =
      (.ok { store := some store }, disk) := by
  unfold Settings.load storeEnvironment
  rw [Settings.ofEnvironment_store htext, Settings.ofLayers_store]
  rfl

/-- A run with that environment. -/
def withStore (store : String) (htext : Settings.Scalar.ofVariable store = .text store)
    (disk : GuardedTree) (arguments : List String) (r : DiagnoseRequest)
    (parsed : Request.parse (storeEnvironment store) arguments =
      .ok { command := .diagnose r }) : DiagnosisRun where
  surroundings := { environment := storeEnvironment store, stamp := ⟨.ofRandom 0, ⟨0, 0⟩⟩ }
  arguments := arguments
  disk := disk
  request := { command := .diagnose r }
  diagnose := r
  settings := { store := some store }
  parsed := parsed
  command := rfl
  loaded := congrArg Prod.fst (run_load_storeEnvironment htext disk)

/-- The text of a catalog with one rule. -/
def catalogText : String :=
  "\x7b\"damages\":[\x7b\"id\":\"K01\",\"name\":\"Fouled spark plug\"\x7d]," ++
    "\"rules\":[\x7b\"id\":\"R1\",\"damage_id\":\"K01\"," ++
    "\"symptoms\":[\x7b\"symptom_id\":\"G01\",\"cf_expert\":0.8\x7d]\x7d]\x7d"

/-- A disk with a catalog in the working directory and no store. -/
def newDisk : GuardedTree where
  tree := { entries := [(["w", "c.json"], .file catalogText.toUTF8)], workingDirectory := ["w"] }

/-- A disk with the same catalog and a store that was cut short. -/
def tornDisk : GuardedTree where
  tree :=
    { entries := [(["w", "c.json"], .file catalogText.toUTF8), (["w", "sub"], .directory),
        (["w", "sub", "s.jsonl"], .file "\x7b\"id\":\"trunc".toUTF8)]
      workingDirectory := ["w"] }

/-- The store can make a difference: the catalog is found by way of the directory that is
made for the store, and not found when the session is left out of the store. -/
theorem exists_output_differs :
    ∃ a b : DiagnosisRun, a.SameButStore b ∧ a.disk = b.disk ∧ a.settings = b.settings ∧
      a.settings.store = some "sub/s.jsonl" ∧ a.catalog? = some "sub/../c.json" ∧
      a.disk.tree.place "sub/s.jsonl" ≠ a.disk.tree.place "sub/../c.json" ∧
      a.output.exitCode = 0 ∧ b.output.exitCode = 1 ∧ b.output.report.messages =
        "✗ failed to read catalog sub/../c.json: No such file or directory (os error 2)\n" ∧
      ¬ a.output.SameButSession a.diagnose.format b.output := by
  let r : DiagnoseRequest := { catalog := some "sub/../c.json", selection := [⟨"G01", 0.5⟩] }
  let a := withStore "sub/s.jsonl" (by decide +kernel) newDisk
    ["diagnose", "-c", "sub/../c.json", "-s", "G01=0.5"] r (by decide +kernel)
  let b := withStore "sub/s.jsonl" (by decide +kernel) newDisk
    ["diagnose", "-c", "sub/../c.json", "-s", "G01=0.5", "--no-record"]
    { r with noRecord := true } (by decide +kernel)
  have hfound : a.output.exitCode = 0 := by
    rw [output_eq]
    decide +kernel
  have hmissing : b.output =
      { exitCode := 1
        report :=
          { messages :=
            "✗ failed to read catalog sub/../c.json: No such file or directory (os error 2)\n" }
      } := by
    rw [output_eq]
    decide +kernel
  refine ⟨a, b, ⟨rfl, rfl, rfl, rfl, rfl, rfl⟩, rfl, rfl, rfl, rfl, by decide +kernel, hfound,
    congrArg _ hmissing, congrArg (·.report.messages) hmissing, ?_⟩
  intro h
  have hexit := h.exitCode
  rw [hfound, hmissing] at hexit
  cases hexit

/-- A catalog that can be read, with a store named from the top that is not there or torn; and one
that is missed from the directory of the store, whether that directory is made or not. -/
theorem sameButSession_output_torn :
    (∃ a b : DiagnosisRun, a.SameButStore b ∧ a.settings.store = some "/w/sub/s.jsonl" ∧
      a.catalog? = some "c.json" ∧ a.disk.readText "c.json" = .ok catalogText ∧
      b.disk.readText "c.json" = .ok catalogText ∧
      a.disk.isThere "/w/sub/s.jsonl" = .ok false ∧ b.disk.isThere "/w/sub/s.jsonl" = .ok true ∧
      a.output.exitCode = 0 ∧ a.output.SameButSession .json b.output) ∧
    ∃ a b : DiagnosisRun, a.SameButStore b ∧ a.settings.store = some "/w/sub/s.jsonl" ∧
      a.catalog? = some "sub/c.json" ∧ a.opened.tree.node? ["w", "sub"] = some .directory ∧
      b.opened.tree.node? ["w", "sub"] = none ∧
      a.opened.readText "sub/c.json" = b.opened.readText "sub/c.json" ∧
      a.output.SameButSession .json b.output := by
  constructor
  · let r : DiagnoseRequest :=
      { catalog := some "c.json", selection := [⟨"G01", 0.5⟩], format := .json }
    let arguments := ["diagnose", "-c", "c.json", "-s", "G01=0.5", "-f", "json"]
    let a := withStore "/w/sub/s.jsonl" (by decide +kernel) newDisk arguments r
      (by decide +kernel)
    let b := withStore "/w/sub/s.jsonl" (by decide +kernel) tornDisk arguments r
      (by decide +kernel)
    have hsame : a.SameButStore b := ⟨rfl, rfl, rfl, rfl, rfl, rfl⟩
    have hnew : a.disk.readText "c.json" = .ok catalogText := by decide +kernel
    have htorn : b.disk.readText "c.json" = .ok catalogText := by decide +kernel
    have hexit : a.output.exitCode = 0 := by
      rw [output_eq]
      decide +kernel
    exact ⟨a, b, hsame, rfl, rfl, hnew, htorn, by decide +kernel, by decide +kernel, hexit,
      (sameButSession_output hsame).2 "c.json" catalogText rfl hnew htorn⟩
  · let r : DiagnoseRequest :=
      { catalog := some "sub/c.json", selection := [⟨"G01", 0.5⟩], format := .json }
    let a := withStore "/w/sub/s.jsonl" (by decide +kernel) newDisk
      ["diagnose", "-c", "sub/c.json", "-s", "G01=0.5", "-f", "json"] r (by decide +kernel)
    let b := withStore "/w/sub/s.jsonl" (by decide +kernel) newDisk
      ["diagnose", "-c", "sub/c.json", "-s", "G01=0.5", "-f", "json", "--no-record"]
      { r with noRecord := true } (by decide +kernel)
    have hsame : a.SameButStore b := ⟨rfl, rfl, rfl, rfl, rfl, rfl⟩
    have hmissing : a.opened.readText "sub/c.json" = b.opened.readText "sub/c.json" := by
      decide +kernel
    refine ⟨a, b, hsame, rfl, rfl, ?_, ?_, hmissing, ?_⟩
    · rfl
    · rfl
    · refine (sameButSession_output hsame).1 fun path hpath => ?_
      obtain rfl : "sub/c.json" = path := Option.some.inj hpath
      exact hmissing

end DiagnosisRun

end CertaintyFactor.Cli
