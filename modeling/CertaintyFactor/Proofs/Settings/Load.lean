import CertaintyFactor.Settings.Load
import CertaintyFactor.Proofs.Session.Store

/-!
# Settings as they are loaded

Loading settings only reads the disk (`onlyReads_load`). The defaults are given here as the tree of
values that the layers are set over, with the names of each table in order, so that what an
environment sets can be read off.
-/

set_option autoImplicit false

namespace CertaintyFactor

/-! ## Actions that only read -/

/-- An action that leaves the disk as it is. -/
def OnlyReads {σ α : Type} (action : StateM σ α) : Prop :=
  ∀ disk, (action.run disk).2 = disk

namespace OnlyReads

variable {σ α β : Type}

theorem pure (a : α) : OnlyReads (Pure.pure a : StateM σ α) :=
  fun _ => rfl

theorem bind {f : StateM σ α} {g : α → StateM σ β} (hf : OnlyReads f) (hg : ∀ a, OnlyReads (g a)) :
    OnlyReads (f >>= g) := by
  intro disk
  rw [StateT.run_bind]
  exact (hg _ _).trans (hf disk)

end OnlyReads

namespace Settings

section

variable {σ : Type} [Disk (StateM σ)]

theorem onlyReads_fileText? (hread : ∀ path, OnlyReads (Disk.readText path : StateM σ _))
    (path : String) : OnlyReads (fileText? path : StateM σ _) := by
  refine (hread path).bind fun answer => ?_
  split <;> exact .pure _

theorem onlyReads_firstOf (hread : ∀ path, OnlyReads (Disk.readText path : StateM σ _))
    (name : String) (candidates : List (String × Reader)) :
    OnlyReads (firstOf name candidates : StateM σ _) := by
  induction candidates with
  | nil => exact .pure _
  | cons candidate rest ih =>
    refine (onlyReads_fileText? hread candidate.1).bind fun text => ?_
    cases text with
    | none => exact ih
    | some text => exact .pure _

theorem onlyReads_load (hread : ∀ path, OnlyReads (Disk.readText path : StateM σ _))
    (file : Option String) (environment : Environment) :
    OnlyReads (load file environment : StateM σ _) := by
  cases file with
  | none => exact .pure _
  | some name =>
    have hfile : OnlyReads (ofFile name : StateM σ _) := by
      refine (onlyReads_fileText? hread name).bind fun text => ?_
      cases text with
      | none => exact onlyReads_firstOf hread name (candidates name)
      | some text =>
        dsimp only
        split <;> exact .pure _
    refine hfile.bind fun layer => ?_
    cases layer <;> exact .pure _

end

/-! ## Defaults -/

theorem defaults_eq :
    defaults = .table none [
      ("engine", .table none [("strict_ranges", .scalar none (.flag false)),
        ("tie_break", .scalar none (.text "damage_id"))]),
      ("logging", .table none [("json", .scalar none (.flag false)),
        ("level", .scalar none (.text "warn"))]),
      ("sessions", .table none [])] := by
  have hlower : ["engine", "logging", "sessions", "json", "level", "strict_ranges",
      "tie_break"].all fun name => Text.lower name = name := by decide +kernel
  simp only [List.all_cons, List.all_nil, Bool.and_true, Bool.and_eq_true, decide_eq_true_eq]
    at hlower
  obtain ⟨hengine, hlogging, hsessions, hjson, hlevel, hstrict, htie⟩ := hlower
  simp [defaults, toJson, Json.optional, Config.toJson, TieBreak.name, Value.ofJson,
    Value.membersOfJson, Value.byLowerName, Value.put, List.mergeSort,
    List.MergeSort.Internal.splitInTwo, hengine, hlogging, hsessions, hjson, hlevel, hstrict, htie]

/-- A layer that names just a store leaves all else at its default. -/
theorem ofLayers_store (origin : Origin) (path : String) :
    ofLayers [[("sessions.store", .scalar origin (.text path))]] =
      .ok { store := some path } := by
  have hkey : Key.ofText "sessions.store" = [.member "sessions", .member "store"] := by
    decide +kernel
  have hlayers : Value.assignAll defaults [("sessions.store", .scalar origin (.text path))] =
      .table none [
        ("engine", .table none [("strict_ranges", .scalar none (.flag false)),
          ("tie_break", .scalar none (.text "damage_id"))]),
        ("logging", .table none [("json", .scalar none (.flag false)),
          ("level", .scalar none (.text "warn"))]),
        ("sessions", .table none [("store", .scalar origin (.text path))])] := by
    simp only [defaults_eq, Value.assignAll, List.foldl_cons, List.foldl_nil, hkey]
    rfl
  rw [ofLayers, List.foldl_cons, hlayers]
  rfl

/-- The variable for the store names it, where its text is not taken for a flag or a number. -/
theorem ofEnvironment_store {path : String} (h : Scalar.ofVariable path = .text path) :
    ofEnvironment [("CFDX_SESSIONS__STORE", path)] =
      [("sessions.store", .scalar (some "the environment") (.text path))] := by
  have hname : Text.lower "CFDX_SESSIONS__STORE" = "cfdx_sessions__store" := by decide +kernel
  have hstart : variableStart.toList.isPrefixOf "cfdx_sessions__store".toList := by decide +kernel
  have hkey : String.ofList (dotted ("cfdx_sessions__store".toList.drop variableStart.length)) =
      "sessions.store" := by decide +kernel
  simp only [ofEnvironment, List.filterMap_cons, List.filterMap_nil, hname, hstart, hkey, h,
    if_true]

end Settings

end CertaintyFactor
