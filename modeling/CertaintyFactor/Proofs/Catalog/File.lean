import CertaintyFactor.Catalog.File
import CertaintyFactor.Proofs.Disk.FileTree
import CertaintyFactor.Proofs.Run
import CertaintyFactor.Proofs.Text.Utf8

/-!
# Catalogs in files that change

A catalog in a file keeps nothing of what it read but a count, so what it says is what the file says
(`FileTree.Tells`) at the moment of the call. All its calls read the file in the same way and count
it in the same way (`FileCatalog.Call.run_make`), whichever of them goes through another one, and in
a row of calls and changes of the disk the count is the number of calls before that read the file
with success (`FileCatalog.runSteps_current`).
-/

set_option autoImplicit false

namespace CertaintyFactor

/-! ## What a file tells -/

/-- What a catalog in the file at a path is: an error when there is no such file or its bytes are no
text, and otherwise what its text is in the given format. -/
inductive FileTree.Tells (tree : FileTree) (path : String) (format : Catalog.Format) :
    Except Catalog.Error (Catalog Binary64) → Prop
  | unreadable {reason : DiskError} (h : tree.read path = .error reason) :
      tree.Tells path format (.error (.unreadable path reason))
  | notText {bytes : ByteArray} (h : tree.read path = .ok bytes)
      (hbytes : ∀ text : String, text.toUTF8 ≠ bytes) :
      tree.Tells path format (.error (.unreadable path .notText))
  | text (text : String) (h : tree.read path = .ok text.toUTF8) :
      tree.Tells path format (Catalog.parse format text)

namespace FileCatalog

section

variable (f : FileCatalog) (tree : FileTree)

/-- What the file says about the catalog, as it is in the tree. -/
def told : Except Catalog.Error (Catalog Binary64) :=
  f.interpret (tree.readText f.path)

variable {f tree}

/-- A file tells one thing at a time, and that is what the catalog reads. -/
theorem tells_iff {found : Except Catalog.Error (Catalog Binary64)} :
    tree.Tells f.path f.format found ↔ found = f.told tree := by
  unfold told
  constructor
  · rintro (hread | ⟨hread, hbytes⟩ | ⟨text, hread⟩)
    · rw [FileTree.readText_of_error hread]
      rfl
    · have hvalid := fun hvalid => (Text.exists_toUTF8_eq hvalid).elim hbytes
      rw [FileTree.readText_of_read hread, Text.fromUTF8?_eq_none hvalid]
      rfl
    · rw [FileTree.readText_of_read hread, Text.fromUTF8?_toUTF8]
      rfl
  · rintro rfl
    cases hread : tree.read f.path with
    | error reason =>
      rw [FileTree.readText_of_error hread]
      exact .unreadable hread
    | ok bytes =>
      rw [FileTree.readText_of_read hread]
      by_cases hvalid : bytes.IsValidUTF8
      · obtain ⟨text, rfl⟩ := Text.exists_toUTF8_eq hvalid
        rw [Text.fromUTF8?_toUTF8]
        exact .text text hread
      · rw [Text.fromUTF8?_eq_none hvalid]
        exact .notText hread fun text htext => hvalid (htext ▸ text.isValidUTF8)

/-! ## Reading and counting -/

variable (f tree)

/-- The catalog after its file was read, which counts if something was found. -/
def counting {α : Type} (found : Except Catalog.Error α) : FileCatalog :=
  if found.isOk then { f with loads := f.loads + 1 } else f

theorem run_load : (f.load : StateM FileTree _).run tree =
    ((f.told tree, f.counting (f.told tree)), tree) := by
  show (f.loaded (tree.readText f.path), tree) = _
  unfold loaded told
  cases f.interpret (tree.readText f.path) <;> rfl

theorem run_part {α : Type} (select : Catalog Binary64 → α) :
    (f.part select : StateM FileTree _).run tree =
      (((f.told tree).map select, f.counting (f.told tree)), tree) := by
  rw [part, StateT.run_bind, run_load]
  rfl

/-- A snapshot counts the load that it was made from. -/
theorem run_snapshot : (f.snapshot : StateM FileTree _).run tree =
    (((f.told tree).map (·.snapshot (f.loads + 1)), f.counting (f.told tree)), tree) := by
  rw [snapshot, StateT.run_bind, run_load]
  cases f.told tree <;> rfl

theorem run_rules : (f.rules : StateM FileTree _).run tree =
    (((f.told tree).map fun c => c.rules.map (·.join c.symptoms c.damages),
      f.counting (f.told tree)), tree) := by
  rw [rules, StateT.run_bind, run_snapshot]
  cases f.told tree <;> rfl

end

/-! ## Calls -/

inductive Call where
  | load
  | symptoms
  | damages
  | ruleDefinitions
  | rules
  | snapshot
  | revision
deriving DecidableEq, Repr

inductive Reply where
  | catalog (found : Catalog Binary64)
  | symptoms (found : List Symptom)
  | damages (found : List Damage)
  | ruleDefinitions (found : List (RuleDefinition Binary64))
  | rules (found : List (Rule Binary64))
  | snapshot (found : Snapshot Binary64)
  | revision (loads : Nat)
deriving DecidableEq

namespace Call

def make {m : Type → Type} [Monad m] [Disk m] (f : FileCatalog) :
    Call → m (Except Catalog.Error Reply × FileCatalog)
  | load => Prod.map (·.map .catalog) id <$> f.load
  | symptoms => Prod.map (·.map .symptoms) id <$> f.symptoms
  | damages => Prod.map (·.map .damages) id <$> f.damages
  | ruleDefinitions => Prod.map (·.map .ruleDefinitions) id <$> f.ruleDefinitions
  | rules => Prod.map (·.map .rules) id <$> f.rules
  | snapshot => Prod.map (·.map .snapshot) id <$> f.snapshot
  | revision => return (.ok (.revision f.revision), f)

/-- The answer to a call after so many loads, when the file tells what it does. -/
def answer (told : Except Catalog.Error (Catalog Binary64)) (loads : Nat) :
    Call → Except Catalog.Error Reply
  | load => told.map .catalog
  | symptoms => told.map fun c => .symptoms c.symptoms
  | damages => told.map fun c => .damages c.damages
  | ruleDefinitions => told.map fun c => .ruleDefinitions c.rules
  | rules => told.map fun c => .rules (c.rules.map (·.join c.symptoms c.damages))
  | snapshot => told.map fun c => .snapshot (c.snapshot (loads + 1))
  | revision => .ok (.revision loads)

/-- Whether the call has read the file with success. -/
def reads (call : Call) (answer : Except Catalog.Error Reply) : Bool :=
  call ≠ revision && answer.isOk

/-- Each call answers from the file as it is, and counts if it read it with success. -/
theorem run_make (call : Call) (f : FileCatalog) (tree : FileTree) :
    let reply := call.answer (f.told tree) f.loads
    (call.make f : StateM FileTree _).run tree =
      ((reply, if call.reads reply then { f with loads := f.loads + 1 } else f), tree) := by
  cases call with
  | revision => rfl
  | load =>
    rw [make, StateT.run_map, run_load]
    cases f.told tree <;> rfl
  | snapshot =>
    rw [make, StateT.run_map, run_snapshot]
    cases f.told tree <;> rfl
  | rules =>
    rw [make, StateT.run_map, run_rules]
    cases f.told tree <;> rfl
  | symptoms =>
    rw [make, StateT.run_map, FileCatalog.symptoms, run_part]
    cases f.told tree <;> rfl
  | damages =>
    rw [make, StateT.run_map, FileCatalog.damages, run_part]
    cases f.told tree <;> rfl
  | ruleDefinitions =>
    rw [make, StateT.run_map, FileCatalog.ruleDefinitions, run_part]
    cases f.told tree <;> rfl

end Call

/-! ## Calls while the disk changes -/

/-- A catalog in a file, and the disk with the file. -/
@[ext]
structure OnDisk where
  file : FileCatalog
  tree : FileTree

inductive Operation where
  /-- The disk is changed in any way. -/
  | disk (change : FileTree → FileTree)
  | call (call : Call)

namespace Operation

/-- What an operation makes of the disk: calls leave it as it is. -/
def onDisk (tree : FileTree) : Operation → FileTree
  | disk change => change tree
  | call _ => tree

/-- Whether the operation is a call that has read the file with success. -/
def reads : Operation × Option (Except Catalog.Error Reply) → Bool
  | (call c, some answer) => c.reads answer
  | _ => false

end Operation

/-- The answer to an operation, none to a change of the disk, and what is there after it. -/
def OnDisk.step (s : OnDisk) : Operation → Option (Except Catalog.Error Reply) × OnDisk
  | .disk change => (none, { s with tree := change s.tree })
  | .call c =>
    let ((answer, file), tree) := (c.make s.file : StateM FileTree _).run s.tree
    (some answer, ⟨file, tree⟩)

/-- Operations with the answers to them, from the first one on. -/
abbrev History := List (Operation × Option (Except Catalog.Error Reply))

/-- The revision of a snapshot that was answered. -/
def revision? : Option (Except Catalog.Error Reply) → Option Nat
  | some (.ok (.snapshot s)) => some s.revision
  | _ => none

section

variable {path : String} {format : Catalog.Format} {tree : FileTree} {past : History}

/-- The disk after some operations. -/
def treeAfter (tree : FileTree) (past : History) : FileTree :=
  past.foldl (fun tree asked => asked.1.onDisk tree) tree

/-- The answer to an operation comes from the file as it is after those before, and counts the loads
among these. -/
inductive Current (path : String) (format : Catalog.Format) (tree : FileTree) (past : History) :
    Operation → Option (Except Catalog.Error Reply) → Prop
  | disk (change : FileTree → FileTree) : Current path format tree past (.disk change) none
  | call (c : Call) (told : Except Catalog.Error (Catalog Binary64))
      (h : (treeAfter tree past).Tells path format told) :
      Current path format tree past (.call c) (some (c.answer told (past.countP Operation.reads)))

/-- What is there after some operations: the catalog has counted those that read its file with
success, and the disk is as they have left it. -/
structure OnDisk.IsAfter (path : String) (format : Catalog.Format) (tree : FileTree)
    (past : History) (s : OnDisk) : Prop where
  file : s.file = ⟨path, format, past.countP Operation.reads⟩
  tree : s.tree = treeAfter tree past

namespace OnDisk

theorem step_call (s : OnDisk) (c : Call) :
    let answer := c.answer (s.file.told s.tree) s.file.loads
    s.step (.call c) = (some answer, { s with
      file := if c.reads answer then { s.file with loads := s.file.loads + 1 } else s.file }) := by
  simp only [step, c.run_make s.file s.tree]

/-- A call that fails changes nothing. -/
theorem step_of_error {s : OnDisk} {c : Call} {e : Catalog.Error}
    (h : (s.step (.call c)).1 = some (.error e)) : (s.step (.call c)).2 = s := by
  have hstep := s.step_call c
  have hanswer : c.answer (s.file.told s.tree) s.file.loads = .error e := by
    rw [hstep] at h
    exact Option.some.inj h
  have hreads : c.reads (.error e) = false := Bool.and_false _
  rw [hstep, hanswer, hreads]
  rfl

theorem IsAfter.step {s : OnDisk} (h : s.IsAfter path format tree past) (op : Operation) :
    Current path format tree past op (s.step op).1 ∧
      (s.step op).2.IsAfter path format tree (past ++ [(op, (s.step op).1)]) := by
  cases op with
  | disk change =>
    refine ⟨.disk change, ⟨?_, ?_⟩⟩
    · rw [List.countP_append]
      exact h.file
    · show change s.tree = treeAfter tree (past ++ [_])
      rw [h.tree, treeAfter, treeAfter, List.foldl_append]
      rfl
  | call c =>
    have hstep := s.step_call c
    have hloads : s.file.loads = past.countP Operation.reads := by rw [h.file]
    have htold : (treeAfter tree past).Tells path format (s.file.told s.tree) := by
      have htells := tells_iff.2 (Eq.refl (s.file.told s.tree))
      rw [← h.tree]
      rwa [h.file] at htells ⊢
    refine ⟨?_, ⟨?_, ?_⟩⟩
    · rw [hstep, hloads]
      exact .call c _ htold
    · -- The catalog counts the call just where the history does.
      rw [hstep, List.countP_append, List.countP_singleton]
      show (if c.reads _ = true then _ else _) =
        FileCatalog.mk path format (_ + if c.reads _ = true then 1 else 0)
      rw [h.file]
      split <;> rfl
    · rw [hstep, treeAfter, List.foldl_append]
      exact h.tree

theorem loads_le_step (s : OnDisk) (op : Operation) : s.file.loads ≤ (s.step op).2.file.loads := by
  cases op with
  | disk => exact Nat.le_refl _
  | call c =>
    rw [step_call]
    dsimp only
    split
    · exact Nat.le_succ _
    · exact Nat.le_refl _

/-- The revision of a snapshot is the number of loads, its own among them. -/
theorem revision?_step {s : OnDisk} {op : Operation} {r : Nat}
    (h : revision? (s.step op).1 = some r) :
    r = s.file.loads + 1 ∧ r = (s.step op).2.file.loads := by
  cases op with
  | disk => cases h
  | call c =>
    rw [step_call] at h ⊢
    cases htold : s.file.told s.tree with
    | error e =>
      rw [htold] at h
      cases c <;> cases h
    | ok found =>
      rw [htold] at h
      cases c with
      | snapshot =>
        obtain rfl := Option.some.inj h
        exact ⟨rfl, rfl⟩
      | _ => cases h

/-- The revisions of snapshots grow. -/
theorem pairwise_revisions (s : OnDisk) (ops : List Operation) :
    (s.file.loads :: (runSteps step s ops).1.filterMap revision?).Pairwise (· < ·) := by
  induction ops generalizing s with
  | nil => exact List.pairwise_singleton _ _
  | cons op ops ih =>
    have hle := s.loads_le_step op
    obtain ⟨hlater, hrest⟩ := List.pairwise_cons.1 (ih (s.step op).2)
    rw [runSteps, List.filterMap_cons]
    cases hrevision : revision? (s.step op).1 with
    | none =>
      exact List.pairwise_cons.2 ⟨fun r hr => Nat.lt_of_le_of_lt hle (hlater r hr), hrest⟩
    | some r =>
      obtain ⟨hnext, hcount⟩ := revision?_step hrevision
      rw [← hcount] at hlater
      have hlt : s.file.loads < r := by omega
      refine List.pairwise_cons.2 ⟨?_, List.pairwise_cons.2 ⟨hlater, hrest⟩⟩
      exact List.forall_mem_cons.2 ⟨hlt, fun r' hr' => Nat.lt_trans hlt (hlater r' hr')⟩

end OnDisk

end

/-- In any row of changes of the disk and calls of a catalog, each call answers from the file as it
is then and counts the loads before; the revisions of snapshots grow; and calls that fail change
nothing. -/
theorem runSteps_current (path : String) (format : Catalog.Format) (tree : FileTree)
    (ops : List Operation) :
    let run := runSteps OnDisk.step ⟨withFormat path format, tree⟩ ops
    let asked := ops.zip run.1
    run.1.length = ops.length ∧
    (∀ before op answer after, asked = before ++ (op, answer) :: after →
      Current path format tree before op answer) ∧
    run.2 = ⟨⟨path, format, asked.countP Operation.reads⟩, treeAfter tree asked⟩ ∧
    (run.1.filterMap revision?).Pairwise (· < ·) ∧
    ∀ (s : OnDisk) c e, (s.step (.call c)).1 = some (.error e) → (s.step (.call c)).2 = s := by
  have hstart : OnDisk.IsAfter path format tree [] ⟨withFormat path format, tree⟩ := ⟨rfl, rfl⟩
  have hstep : ∀ past s op, OnDisk.IsAfter path format tree past s →
      Current path format tree past op (s.step op).1 ∧
        (s.step op).2.IsAfter path format tree (past ++ [(op, (s.step op).1)]) :=
    fun _ _ op h => h.step op
  obtain ⟨hlast, hall⟩ := runSteps_explained hstep hstart ops
  have hrevisions := OnDisk.pairwise_revisions ⟨withFormat path format, tree⟩ ops
  refine ⟨length_runSteps _ _ _, hall, ?_, (List.pairwise_cons.1 hrevisions).2,
    fun _ _ _ => OnDisk.step_of_error⟩
  exact OnDisk.ext hlast.file hlast.tree

/-- A damage, and a rule for it. -/
def bikesText : String :=
  "[[damages]]\nid = \"K01\"\nname = \"Worn chain\"\n" ++
  "[[rules]]\nid = \"R1\"\ndamage_id = \"K01\"\n" ++
  "[[rules.symptoms]]\nsymptom_id = \"G01\"\ncf_expert = 0.5\n"

/-- The file is missing at first, then holds a catalog, then one that names a damage without its
quotes, and in the end bytes that are no text. -/
example : (runSteps OnDisk.step ⟨withFormat "bikes.toml" .toml, {}⟩
    [.call .snapshot,
      .disk fun tree => (tree.changed (tree.write "bikes.toml" bikesText.toUTF8)).2,
      .call .ruleDefinitions, .call .rules, .call .revision,
      .disk fun tree => (tree.changed (tree.write "bikes.toml" "[[damages]]\nid = K01\n".toUTF8)).2,
      .call .damages, .call .revision,
      .disk fun tree => (tree.changed (tree.write "bikes.toml" ⟨#[255]⟩)).2,
      .call .damages, .call .revision]).1 =
    [some (.error (.unreadable "bikes.toml" .notFound)), none,
      some (.ok (.ruleDefinitions [⟨"R1", "K01", [⟨"G01", 0.5⟩]⟩])),
      some (.ok (.rules
        [⟨"R1", "K01", some ⟨"K01", "Worn chain", "", ""⟩, [⟨"G01", 0.5, none⟩]⟩])),
      some (.ok (.revision 2)), none, some (.error (.toml (.unexpected 'K'))),
      some (.ok (.revision 2)), none, some (.error (.unreadable "bikes.toml" .notText)),
      some (.ok (.revision 2))] := by
  decide +kernel

end FileCatalog

end CertaintyFactor
