import CertaintyFactor.Disk.FileTree
import CertaintyFactor.Proofs.Catalog.Store
import CertaintyFactor.Proofs.Evaluation.Consistent
import CertaintyFactor.Service

/-!
# The echoed selection

A service echoes the selection it was asked about, with names. It passes over repeated reports on
its own account and looks names up in the snapshot, while the evaluation looks certainties up in the
selection and takes names from the joined rules. `Echoes` says that the two agree: what is echoed is
what was evaluated.
-/

set_option autoImplicit false

namespace CertaintyFactor

/-! ## Items with new codes -/

section

variable {α : Type} {code : α → String} {seen : List String} {items : List α}

/-- The items of a list whose codes neither were seen nor stand before them. -/
def freshItems (code : α → String) (seen : List String) (items : List α) : List α :=
  (flagRepeats code seen items).filterMap fun (a, again) => if again then none else some a

theorem freshItems_cons_of_mem {a : α} (h : code a ∈ seen) (rest : List α) :
    freshItems code seen (a :: rest) = freshItems code (code a :: seen) rest := by
  simp [freshItems, flagRepeats, h]

theorem freshItems_cons_of_not_mem {a : α} (h : code a ∉ seen) (rest : List α) :
    freshItems code seen (a :: rest) = a :: freshItems code (code a :: seen) rest := by
  simp [freshItems, flagRepeats, h]

/-- An item is fresh if it is the first of its code, and that was not seen. -/
theorem mem_freshItems_iff {a : α} :
    a ∈ freshItems code seen items ↔ code a ∉ seen ∧ items.find? (code · == code a) = some a := by
  induction items generalizing seen with
  | nil => simp [freshItems, flagRepeats]
  | cons b rest ih =>
    by_cases hseen : code b ∈ seen
    · rw [freshItems_cons_of_mem hseen, ih]
      grind
    · rw [freshItems_cons_of_not_mem hseen, List.mem_cons, ih]
      grind

/-- Every code that was not seen has a fresh item. -/
theorem mem_map_freshItems_iff {key : String} :
    key ∈ (freshItems code seen items).map code ↔ key ∉ seen ∧ key ∈ items.map code := by
  induction items generalizing seen with
  | nil => simp [freshItems, flagRepeats]
  | cons a rest ih =>
    by_cases hseen : code a ∈ seen
    · rw [freshItems_cons_of_mem hseen, ih]
      grind
    · rw [freshItems_cons_of_not_mem hseen, List.map_cons, List.mem_cons, ih]
      grind

/-- Fresh items stand in the order in which their codes occur first. -/
theorem pairwise_idxOf_freshItems (code : α → String) (seen : List String) (items : List α) :
    ((freshItems code seen items).map code).Pairwise fun key other =>
      (items.map code).idxOf key < (items.map code).idxOf other := by
  induction items generalizing seen with
  | nil => exact .nil
  | cons a rest ih =>
    have hne : ∀ key ∈ (freshItems code (code a :: seen) rest).map code, code a ≠ key := by
      rintro key hkey rfl
      exact (mem_map_freshItems_iff.1 hkey).1 List.mem_cons_self
    have hrest : ((freshItems code (code a :: seen) rest).map code).Pairwise fun key other =>
        ((a :: rest).map code).idxOf key < ((a :: rest).map code).idxOf other := by
      -- One item more before them puts all other codes one place further on.
      refine (ih (code a :: seen)).imp_of_mem fun hkey hother hlt => ?_
      rw [List.map_cons, List.idxOf_cons_ne _ (hne _ hkey), List.idxOf_cons_ne _ (hne _ hother)]
      exact Nat.succ_lt_succ hlt
    by_cases hseen : code a ∈ seen
    · rw [freshItems_cons_of_mem hseen]
      exact hrest
    · rw [freshItems_cons_of_not_mem hseen]
      refine .cons (fun key hkey => ?_) hrest
      rw [List.map_cons, List.idxOf_cons_self, List.idxOf_cons_ne _ (hne key hkey)]
      exact Nat.succ_pos _

/-- Where no code was seen or stands twice, all items are fresh. -/
theorem freshItems_eq_self (hseen : ∀ a ∈ items, code a ∉ seen) (h : (items.map code).Nodup) :
    freshItems code seen items = items := by
  induction items generalizing seen with
  | nil => rfl
  | cons a rest ih =>
    rw [List.map_cons, List.nodup_cons] at h
    rw [freshItems_cons_of_not_mem (hseen a List.mem_cons_self), ih ?_ h.2]
    intro b hb hcode
    rcases List.mem_cons.1 hcode with heq | hmem
    · exact h.1 (heq ▸ List.mem_map_of_mem hb)
    · exact hseen b (List.mem_cons_of_mem a hb) hmem

theorem nodup_freshItems (code : α → String) (seen : List String) (items : List α) :
    ((freshItems code seen items).map code).Nodup :=
  (pairwise_idxOf_freshItems code seen items).imp
    fun {key other} hlt (heq : key = other) => Nat.ne_of_lt hlt (heq ▸ rfl)

/-- Where codes differ from each other, a code picks out its item. -/
theorem filter_code_eq_singleton (h : (items.map code).Nodup) {a : α} (ha : a ∈ items) :
    items.filter (code · == code a) = [a] := by
  induction items with
  | nil => cases ha
  | cons b rest ih =>
    rw [List.map_cons, List.nodup_cons] at h
    obtain ⟨hb, hrest⟩ := h
    rcases List.mem_cons.1 ha with rfl | ha
    · have hnone : rest.filter (code · == code a) = [] := by
        rw [List.filter_eq_nil_iff]
        intro c hc hcode
        exact hb (beq_iff_eq.1 hcode ▸ List.mem_map_of_mem hc)
      rw [List.filter_cons_of_pos, hnone]
      exact beq_self_eq_true (code a)
    · rw [List.filter_cons_of_neg, ih hrest ha]
      intro hcode
      exact hb (beq_iff_eq.1 hcode ▸ List.mem_map_of_mem ha)

end

/-- Every snapshot that the source takes is that of a catalog. Lists and files take no others; a
store must not have another one cached. -/
def Source.IsAssembled : Source → Prop
  | store catalog => catalog.IsCurrent
  | listed _ => True
  | file _ => True

namespace Service

variable {selection : Selection Binary64}

/-! ## First reports -/

theorem nodup_firstReports (selection : Selection Binary64) :
    ((firstReports selection).map (·.symptomId)).Nodup :=
  nodup_freshItems _ _ _

theorem firstReports_eq_self (h : (selection.map (·.symptomId)).Nodup) :
    firstReports selection = selection :=
  freshItems_eq_self (fun _ _ => List.not_mem_nil) h

theorem mem_of_mem_firstReports {r : Reported Binary64} (h : r ∈ firstReports selection) :
    r ∈ selection :=
  List.mem_of_find?_eq_some (mem_freshItems_iff.1 h).2

theorem firstReports_eq_nil_iff : firstReports selection = [] ↔ selection = [] := by
  constructor
  · intro h
    cases selection with
    | nil => rfl
    | cons r rest =>
      have hmem : r ∈ firstReports (r :: rest) :=
        mem_freshItems_iff.2 ⟨List.not_mem_nil, by simp⟩
      rw [h] at hmem
      cases hmem
  · rintro rfl
    rfl

/-! ## The echo of an outcome -/

/-- What an outcome echoes is what was evaluated: each symptom of the selection once, in the order
of first reports, with the certainty and the name under which it is matched in the results. -/
structure Echoes (selection : Selection Binary64) (o : Outcome) : Prop where
  distinct : (o.selection.map (·.symptomId)).Nodup
  ordered : (o.selection.map (·.symptomId)).Pairwise fun id other =>
    (selection.map (·.symptomId)).idxOf id < (selection.map (·.symptomId)).idxOf other
  covers : ∀ id, id ∈ o.selection.map (·.symptomId) ↔ id ∈ selection.map (·.symptomId)
  matched : ∀ r ∈ o.results, ∀ m ∈ r.matching, ∃ e,
    o.selection.filter (·.symptomId == m.symptomId) = [e] ∧ e.cfUser = m.cfUser ∧
      e.name = m.symptomName

/-- The report whose certainty is taken for a symptom is the one that is echoed. -/
theorem mem_firstReports {id : String} {cf : Binary64} (h : selection.certainty? id = some cf) :
    ⟨id, cf⟩ ∈ firstReports selection := by
  obtain ⟨⟨id', cf'⟩, hfind, rfl⟩ := Option.map_eq_some_iff.1 h
  obtain rfl : id' = id := by simpa using List.find?_some hfind
  exact mem_freshItems_iff.2 ⟨List.not_mem_nil, hfind⟩

/-- A match of a joined rule has the name of the snapshot's record. -/
theorem symptomName_of_weighs {c : Catalog Binary64} {revision : Nat} {rule : Rule Binary64}
    (hrule : rule ∈ (c.snapshot revision).rules) {entry : Rule.Entry Binary64}
    (hentry : entry ∈ rule.entries) {m : Match Binary64} (hm : m.Weighs selection entry) :
    m.symptomName =
      (((c.snapshot revision).symptom? m.symptomId).map (·.name)).getD unknownName := by
  obtain ⟨definition, -, rfl⟩ := List.mem_map.1 hrule
  obtain ⟨e, -, rfl⟩ := List.mem_map.1 hentry
  rw [hm.symptomName, hm.symptomId]
  rfl

/-- An outcome is that of an evaluation, put together with the snapshot. -/
theorem outcome_eq_ok_iff {config : Config} {snapshot : Snapshot Binary64} {o : Outcome} :
    outcome config snapshot selection = .ok o ↔
      ∃ d, evaluate config selection snapshot.rules snapshot.damages = .ok d ∧
        o = { selection := (firstReports selection).map fun r =>
                r.named (snapshot.symptom? r.symptomId)
              results := d.results
              recommendation := Recommendation.ofResults? d.results
              warnings := mergeWarnings snapshot.warnings d.warnings
              stats := d.stats
              revision := snapshot.revision } := by
  unfold outcome
  cases evaluate config selection snapshot.rules snapshot.damages with
  | error e => simp [bind, Except.bind]
  | ok d => simp [bind, Except.bind, pure, Except.pure, eq_comm]

theorem echoes_of_outcome {config : Config} {c : Catalog Binary64} {revision : Nat} {o : Outcome}
    (h : outcome config (c.snapshot revision) selection = .ok o) : Echoes selection o := by
  obtain ⟨d, hd, rfl⟩ := outcome_eq_ok_iff.1 h
  have hids : ((firstReports selection).map fun r =>
      r.named ((c.snapshot revision).symptom? r.symptomId)).map (·.symptomId) =
        (freshItems (·.symptomId) [] selection).map (·.symptomId) := List.map_map
  have hordered := pairwise_idxOf_freshItems (·.symptomId) [] selection
  rw [← hids] at hordered
  have hdistinct := hordered.imp fun {id other} hlt (heq : id = other) =>
    Nat.ne_of_lt hlt (heq ▸ rfl)
  refine ⟨hdistinct, hordered, fun id => ?_, fun r hr m hm => ?_⟩
  · dsimp only
    rw [hids, mem_map_freshItems_iff, and_iff_right List.not_mem_nil]
  · obtain ⟨rule, hrule, found, hfound, place, -, rfl⟩ := exists_concludes_of_mem hd hr
    obtain ⟨entry, hentry, hweighs⟩ := exists_weighs_of_mem hfound.matching hm
    have hname := symptomName_of_weighs hrule (List.mem_of_mem_filter hentry) hweighs
    have hreport : ⟨m.symptomId, m.cfUser⟩ ∈ firstReports selection := by
      refine mem_firstReports (Selection.certainty?_eq_some_iff.2 ?_)
      rw [hweighs.symptomId]
      exact hweighs.cfUser
    exact ⟨_, filter_code_eq_singleton hdistinct (List.mem_map_of_mem hreport), rfl, hname.symm⟩

/-! ## Diagnoses -/

section

variable {σ : Type} {disk disk' : σ}

/-- Two actions in a row pass a state on. -/
theorem exists_run_of_bind {α β : Type} {x : StateM σ α} {f : α → StateM σ β} {b : β}
    (h : (x >>= f).run disk = (b, disk')) :
    ∃ a between, x.run disk = (a, between) ∧ (f a).run between = (b, disk') :=
  ⟨_, _, rfl, h⟩

variable [Disk (StateM σ)]

theorem exists_snapshot_of_isAssembled {source source' : Source} (hsource : source.IsAssembled)
    {snapshot : Snapshot Binary64}
    (h : (source.snapshot : StateM σ _).run disk = ((.ok snapshot, source'), disk')) :
    ∃ (c : Catalog Binary64) (revision : Nat), snapshot = c.snapshot revision := by
  cases source with
  | store catalog =>
    obtain ⟨hcurrent, -⟩ := CatalogStore.IsCurrent.snapshot hsource
    have hsnapshot : catalog.snapshot.1.snapshot = snapshot := by
      cases h
      rfl
    exact ⟨_, _, hsnapshot.symm.trans hcurrent⟩
  | listed catalog =>
    cases h
    exact ⟨catalog, 0, rfl⟩
  | file catalog =>
    obtain ⟨⟨result, catalog'⟩, _, hsnapshot, hsource'⟩ := exists_run_of_bind h
    obtain ⟨⟨loaded, catalog''⟩, _, -, hloaded⟩ := exists_run_of_bind hsnapshot
    cases loaded with
    | error e =>
      cases hloaded
      cases hsource'
    | ok c =>
      cases hloaded
      cases hsource'
      exact ⟨c, _, rfl⟩

/-- A diagnosis that succeeds answers with the outcome on the snapshot of its source. -/
theorem exists_snapshot_of_diagnose {s s' : Service} {stamp : Session.Stamp} {o : Outcome}
    {recording : Recording}
    (h : (s.diagnose stamp selection : StateM σ _).run disk =
      ((.ok (o, recording), s'), disk')) :
    ∃ snapshot source between,
      (s.source.snapshot : StateM σ _).run disk = ((.ok snapshot, source), between) ∧
        outcome s.config snapshot selection = .ok o := by
  obtain ⟨⟨result, source⟩, between, hsnapshot, hrest⟩ := exists_run_of_bind h
  cases result with
  | error e => cases hrest
  | ok snapshot =>
    refine ⟨snapshot, source, between, hsnapshot, ?_⟩
    dsimp only at hrest
    cases houtcome : outcome s.config snapshot selection with
    | error e =>
      rw [houtcome] at hrest
      cases hrest
    | ok found =>
      rw [houtcome] at hrest
      obtain ⟨⟨_, _⟩, _, -, hanswer⟩ := exists_run_of_bind hrest
      cases hanswer
      rfl

/-- Where all snapshots are those of catalogs, it is the outcome on the snapshot of one. -/
theorem exists_outcome_of_diagnose {s s' : Service} (hsource : s.source.IsAssembled)
    {stamp : Session.Stamp} {o : Outcome} {recording : Recording}
    (h : (s.diagnose stamp selection : StateM σ _).run disk =
      ((.ok (o, recording), s'), disk')) :
    ∃ (c : Catalog Binary64) (revision : Nat),
      outcome s.config (c.snapshot revision) selection = .ok o := by
  obtain ⟨snapshot, source, between, hsnapshot, houtcome⟩ := exists_snapshot_of_diagnose h
  obtain ⟨c, revision, rfl⟩ := exists_snapshot_of_isAssembled hsource hsnapshot
  exact ⟨c, revision, houtcome⟩

/-- What a service echoes with an answer is what it evaluated. -/
theorem diagnose_echoes {s s' : Service} (hsource : s.source.IsAssembled)
    {stamp : Session.Stamp} {o : Outcome} {recording : Recording}
    (h : (s.diagnose stamp selection : StateM σ _).run disk =
      ((.ok (o, recording), s'), disk')) : Echoes selection o := by
  obtain ⟨c, revision, houtcome⟩ := exists_outcome_of_diagnose hsource h
  exact echoes_of_outcome houtcome

end

/-- A catalog with two records of one symptom code, and a rule about that symptom and one that is
not listed. -/
def ambiguousCatalog : Catalog Binary64 where
  symptoms := [⟨"G02", "Engine dies at idle", ""⟩, ⟨"G02", "Engine stalls", ""⟩]
  damages := [⟨"K01", "Fouled spark plug", "", "Replace the plug"⟩]
  rules := [⟨"R1", "K01", [⟨"G09", 0.5⟩, ⟨"G02", 0.8⟩]⟩]

theorem diagnose_echoes_ambiguous :
    let s : Service := { source := .store (.ofCatalog ambiguousCatalog) }
    let stamp : Session.Stamp := ⟨⟨0, by decide⟩, ⟨0, 0⟩⟩
    let selection : Selection Binary64 := [⟨"G02", 0.6⟩, ⟨"G09", .nan⟩, ⟨"G02", 1⟩]
    s.source.IsAssembled ∧ ∃ o recording s' tree,
      (s.diagnose stamp selection : StateM FileTree _).run {} =
        ((.ok (o, recording), s'), tree) ∧
      Echoes selection o ∧ o.selection.map (·.name) = ["Engine dies at idle", "Unknown"] ∧
      o.results.length = 1 := by
  intro s stamp selection
  have hsource : s.source.IsAssembled := CatalogStore.isCurrent_ofCatalog ambiguousCatalog
  have hanswer : ((s.diagnose stamp selection : StateM FileTree _).run {}).1.1.toOption.map
      (fun found => (found.1.selection.map (·.name), found.1.results.length)) =
        some (["Engine dies at idle", "Unknown"], 1) := by
    decide +kernel
  cases hrun : (s.diagnose stamp selection : StateM FileTree _).run {} with
  | mk answer tree =>
    obtain ⟨_ | ⟨o, recording⟩, s'⟩ := answer
    · rw [hrun] at hanswer
      cases hanswer
    · rw [hrun] at hanswer
      obtain ⟨hnames, hresults⟩ := Prod.mk.inj (Option.some.inj hanswer)
      exact ⟨hsource, o, recording, s', tree, rfl, diagnose_echoes hsource hrun, hnames, hresults⟩

end Service

end CertaintyFactor
