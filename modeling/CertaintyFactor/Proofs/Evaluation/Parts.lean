import CertaintyFactor.Proofs.Evaluation.Ranking
import CertaintyFactor.Proofs.Evaluation.Verdicts

/-!
# Evaluations by a part of the rules

Each rule is judged on its own, and candidates are ranked by a stable sort, which does with a part
of a list what it does with the part when it sorts the whole (`filter_mergeSort`). So when some of
the rules are taken away, the others come to what they came to before, and only the places in the
ranking close up. Rules may be alike, so they are told apart by their places in the list
(`atPlaces`), and candidates by the places of their rules (`placed`).
-/

set_option autoImplicit false

namespace CertaintyFactor

/-! ## Sorting a part of a list -/

section

variable {α : Type} {le : α → α → Bool}

/-- A stable sort puts a first item right before the items that it may precede. -/
theorem mergeSort_cons_eq (trans : ∀ a b c, le a b → le b c → le a c)
    (total : ∀ a b, le a b || le b a) (a : α) (items : List α) :
    let before := (items.mergeSort le).filter fun b => !le a b
    let after := (items.mergeSort le).filter (le a)
    items.mergeSort le = before ++ after ∧ (a :: items).mergeSort le = before ++ a :: after := by
  obtain ⟨before, after, hsort, hrest, hbefore⟩ := List.mergeSort_cons trans total a items
  have hafter : ∀ b ∈ after, le a b := by
    have hsorted := List.pairwise_mergeSort trans total (a :: items)
    rw [hsort] at hsorted
    exact (List.pairwise_cons.1 (List.pairwise_append.1 hsorted).2.1).1
  have hleft : (before ++ after).filter (fun b => !le a b) = before := by
    rw [List.filter_append, List.filter_eq_self.2 hbefore,
      List.filter_eq_nil_iff.2 fun b hb => by simp [hafter b hb], List.append_nil]
  have hright : (before ++ after).filter (le a) = after := by
    rw [List.filter_append, List.filter_eq_self.2 hafter,
      List.filter_eq_nil_iff.2 fun b hb => by simpa using hbefore b hb, List.nil_append]
  rw [hrest, hleft, hright]
  exact ⟨rfl, hsort⟩

theorem filter_mergeSort (trans : ∀ a b c, le a b → le b c → le a c)
    (total : ∀ a b, le a b || le b a) (p : α → Bool) (items : List α) :
    (items.mergeSort le).filter p = (items.filter p).mergeSort le := by
  induction items with
  | nil => rw [List.mergeSort_nil, List.filter_nil, List.mergeSort_nil]
  | cons a items ih =>
    have hcomm : ∀ q : α → Bool, ((items.mergeSort le).filter q).filter p =
        ((items.filter p).mergeSort le).filter q := by
      intro q
      rw [← ih, List.filter_filter, List.filter_filter]
      simp only [Bool.and_comm]
    obtain ⟨-, hcons⟩ := mergeSort_cons_eq trans total a items
    obtain ⟨hsplit, hcons'⟩ := mergeSort_cons_eq trans total a (items.filter p)
    rw [hcons, List.filter_append, hcomm]
    by_cases ha : p a
    · rw [List.filter_cons_of_pos ha, List.filter_cons_of_pos ha, hcomm, hcons']
    · rw [List.filter_cons_of_neg ha, List.filter_cons_of_neg ha, hcomm, ← hsplit]

end

/-! ## Items and their places -/

section

variable {α β : Type}

/-- The items at some of the places of a list, in their order. -/
def atPlaces (kept : Nat → Bool) (items : List α) : List α :=
  (items.zipIdx.filter fun p => kept p.2).map (·.1)

/-- What the items of a list give, as far as they give something, each with the place of its
item. -/
def placed (f : α → Option β) (items : List α) : List (β × Nat) :=
  items.zipIdx.filterMap fun p => (f p.1).map fun b => (b, p.2)

theorem mem_of_mem_atPlaces {kept : Nat → Bool} {items : List α} {a : α}
    (h : a ∈ atPlaces kept items) : a ∈ items := by
  obtain ⟨p, hp, rfl⟩ := List.mem_map.1 h
  exact List.fst_mem_of_mem_zipIdx (List.mem_of_mem_filter hp)

/-- Items are at a place that is kept or at one that is not. -/
theorem countP_eq_atPlaces_add (kept : Nat → Bool) (p : α → Bool) (items : List α) :
    items.countP p = (atPlaces kept items).countP p +
      (atPlaces (fun place => !kept place) items).countP p := by
  unfold atPlaces
  rw [List.countP_map, List.countP_map]
  conv_lhs => rw [← List.zipIdx_map_fst 0 items, List.countP_map]
  exact List.countP_eq_countP_filter_add _ _ fun p : α × Nat => kept p.2

theorem length_eq_atPlaces_add (kept : Nat → Bool) (items : List α) :
    items.length = (atPlaces kept items).length +
      (atPlaces (fun place => !kept place) items).length := by
  have h := countP_eq_atPlaces_add kept (fun _ => true) items
  simpa using h

theorem map_fst_filterMap (f : α → Option β) (ps : List (α × Nat)) :
    (ps.filterMap fun p => (f p.1).map fun b => (b, p.2)).map (·.1) =
      (ps.map (·.1)).filterMap f := by
  rw [List.map_filterMap, List.filterMap_map]
  apply List.filterMap_congr
  intro p _
  rw [Function.comp_apply]
  cases f p.1 <;> rfl

theorem map_fst_placed (f : α → Option β) (items : List α) :
    (placed f items).map (·.1) = items.filterMap f := by
  unfold placed
  rw [map_fst_filterMap, List.zipIdx_map_fst]

theorem map_fst_filter_placed (kept : Nat → Bool) (f : α → Option β) (items : List α) :
    ((placed f items).filter fun p => kept p.2).map (·.1) = (atPlaces kept items).filterMap f := by
  unfold atPlaces
  rw [← map_fst_filterMap, placed, List.filter_filterMap, List.filterMap_filter]
  congr 2
  funext p
  cases f p.1 <;> simp [Option.filter]

end

/-! ## Diagnoses and the places of rules -/

section

variable {K : Type} {selection : Selection K} {damages : List Damage} {rules : List (Rule K)}

/-- The warnings of rules that dangle, each with the place of its rule. -/
def placedWarnings (selection : Selection K) (damages : List Damage) (rules : List (Rule K)) :
    List (Warning K × Nat) :=
  (rules.zipIdx.filter fun p => p.1.Dangles selection damages).map fun p => (p.1.dropWarning, p.2)

theorem map_fst_filter_placedWarnings (kept : Nat → Bool) :
    ((placedWarnings selection damages rules).filter fun p => kept p.2).map (·.1) =
      ((atPlaces kept rules).filter fun rule => rule.Dangles selection damages).map
        Rule.dropWarning := by
  unfold placedWarnings atPlaces
  rw [List.filter_map, List.filter_map, List.map_map, List.map_map, List.filter_filter,
    List.filter_filter]
  simp only [Function.comp_def, Bool.and_comm]

theorem map_fst_placedWarnings : (placedWarnings selection damages rules).map (·.1) =
    (rules.filter fun rule => rule.Dangles selection damages).map Rule.dropWarning := by
  unfold placedWarnings
  conv_rhs => rw [← List.zipIdx_map_fst 0 rules, List.filter_map, List.map_map]
  rw [List.map_map]
  rfl

end

section

variable {K : Type} [Confidence K]

/-- Candidates with their places in the list, from 1. -/
def numbered (cs : List (Candidate K)) : List (Candidate K) :=
  cs.mapIdx fun i c => { c with rank := i + 1 }

theorem rank_map_fst (tieBreak : TieBreak) (ps : List (Candidate K × Nat)) :
    rank tieBreak (ps.map (·.1)) =
      numbered ((ps.mergeSort fun a b => a.1.precedes tieBreak b.1).map (·.1)) := by
  have hsort : (ps.mergeSort fun a b => a.1.precedes tieBreak b.1).map (·.1) =
      (ps.map (·.1)).mergeSort (Candidate.precedes tieBreak) :=
    List.map_mergeSort fun _ _ _ _ => rfl
  rw [hsort]
  rfl

/-- The candidates that rules yield, each with the place of its rule. -/
def placedCandidates (selection : Selection K) (damages : List Damage) (rules : List (Rule K)) :
    List (Candidate K × Nat) :=
  placed (fun rule => (rule.verdict selection damages).candidate?) rules

/-- The results of the diagnosis, listed with places of rules: each rule that yields a candidate has
given one of them, its own. -/
structure Diagnosis.StemsFrom (selection : Selection K) (damages : List Damage)
    (rules : List (Rule K)) (d : Diagnosis K) (order : List (Candidate K × Nat)) : Prop where
  results : d.results = numbered (order.map (·.1))
  yielded : ∃ found, order.Perm found ∧
    List.Forall₂ (fun c p => c.1.Concludes selection damages p.1 ∧ c.2 = p.2) found
      (rules.zipIdx.filter fun p => p.1.Yields selection damages)

/-- `part` is what the rules at some places come to by themselves, when all rules come to `d`, with
its results in that `order`: the results and warnings that stem from them, and of each counter what
the other rules leave. -/
structure Diagnosis.IsPart (selection : Selection K) (damages : List Damage) (rules : List (Rule K))
    (d : Diagnosis K) (order : List (Candidate K × Nat)) (kept : Nat → Bool) (part : Diagnosis K) :
    Prop where
  results : part.results = numbered ((order.filter fun p => kept p.2).map (·.1))
  warnings : part.warnings =
    ((placedWarnings selection damages rules).filter fun p => kept p.2).map (·.1)
  total : d.stats.total =
    part.stats.total + (atPlaces (fun place => !kept place) rules).length
  inert : d.stats.inert = part.stats.inert +
    (atPlaces (fun place => !kept place) rules).countP fun rule => rule.entries.isEmpty
  unmatched : d.stats.unmatched = part.stats.unmatched +
    (atPlaces (fun place => !kept place) rules).countP fun rule => rule.Misses selection
  dropped : d.stats.dropped = part.stats.dropped +
    (atPlaces (fun place => !kept place) rules).countP fun rule => rule.Dangles selection damages

variable {selection : Selection K} {damages : List Damage} {rules : List (Rule K)}

/-- What may start with some rules may start with any. -/
theorem refusal?_of_ne_nil {config : Config} {part : List (Rule K)}
    (h : refusal? config selection rules = none) (hpart : part ≠ []) :
    refusal? config selection part = none :=
  refusal?_eq_none_iff.2 ⟨hpart, (refusal?_eq_none_iff.1 h).2⟩

end

section

variable {selection : Selection Binary64} {damages : List Damage} {rules : List (Rule Binary64)}
  {tieBreak : TieBreak}

theorem stemsFrom_diagnosisOf : (diagnosisOf tieBreak selection rules damages).StemsFrom selection
    damages rules ((placedCandidates selection damages rules).mergeSort
      fun a b => a.1.precedes tieBreak b.1) := by
  constructor
  · rw [results_diagnosisOf, ← rank_map_fst, placedCandidates, map_fst_placed]
    rfl
  · refine ⟨_, List.mergeSort_perm _ _, forall₂_filterMap ?_ ?_ _⟩
    · intro p c hc
      obtain ⟨found, hfound, rfl⟩ := Option.map_eq_some_iff.1 hc
      exact ⟨Rule.concludes_of_verdict hfound, rfl⟩
    · intro p
      rw [Option.isSome_map]
      exact Rule.isSome_candidate?_iff

theorem isPart_diagnosisOf (kept : Nat → Bool) :
    (diagnosisOf tieBreak selection rules damages).IsPart selection damages rules
      ((placedCandidates selection damages rules).mergeSort fun a b => a.1.precedes tieBreak b.1)
      kept (diagnosisOf tieBreak selection (atPlaces kept rules) damages) := by
  refine ⟨?_, ?_, ?_, ?_, ?_, ?_⟩
  · rw [filter_mergeSort (fun a b c => Candidate.precedes_trans tieBreak a.1 b.1 c.1)
        (fun a b => Candidate.precedes_total tieBreak a.1 b.1),
      ← rank_map_fst, placedCandidates, map_fst_filter_placed, results_diagnosisOf]
    rfl
  · rw [warnings_diagnosisOf, map_fst_filter_placedWarnings]
  all_goals rw [stats_diagnosisOf, stats_diagnosisOf]
  · exact length_eq_atPlaces_add kept rules
  all_goals exact countP_eq_atPlaces_add kept _ rules

/-- Rules are judged each on its own. Where an evaluation succeeds, it succeeds by the rules at any
of the places, if there are some, and gives the results and warnings that stem from these rules, in
the same order; each counter falls by the number of rules of its kind that are missing. -/
theorem evaluate_atPlaces (config : Config) (selection : Selection Binary64)
    (rules : List (Rule Binary64)) (damages : List Damage) (d : Diagnosis Binary64)
    (h : evaluate config selection rules damages = .ok d) :
    ∃ order, d.StemsFrom selection damages rules order ∧
      d.warnings = (placedWarnings selection damages rules).map (·.1) ∧
      ∀ kept : Nat → Bool, atPlaces kept rules ≠ [] →
        ∃ part, evaluate config selection (atPlaces kept rules) damages = .ok part ∧
          d.IsPart selection damages rules order kept part := by
  obtain ⟨hstart, hjudge, rfl⟩ := evaluate_eq_ok_iff.1 h
  refine ⟨_, stemsFrom_diagnosisOf, ?_, fun kept hkept => ⟨_, ?_, isPart_diagnosisOf kept⟩⟩
  · rw [warnings_diagnosisOf, map_fst_placedWarnings]
  · have hpart : ∀ rule ∈ atPlaces kept rules,
        rule.judge config selection damages = .ok (rule.verdict selection damages) :=
      fun rule hrule => hjudge rule (mem_of_mem_atPlaces hrule)
    exact evaluate_eq_ok_iff.2 ⟨refusal?_of_ne_nil hstart hkept, hpart, rfl⟩

end

/-- Of two rules that are alike, the first is missing. -/
theorem evaluate_atPlaces_mixed :
    ∃ d, evaluate {} mixedSelection mixedRules [⟨"K01", "Weak battery", "", ""⟩] = .ok d ∧
      ∃ order, d.StemsFrom mixedSelection [⟨"K01", "Weak battery", "", ""⟩] mixedRules order ∧
        d.warnings =
          (placedWarnings mixedSelection [⟨"K01", "Weak battery", "", ""⟩] mixedRules).map (·.1) ∧
        atPlaces (· ≠ 0) mixedRules ≠ [] ∧
        ∃ part, evaluate {} mixedSelection (atPlaces (· ≠ 0) mixedRules)
            [⟨"K01", "Weak battery", "", ""⟩] = .ok part ∧
          d.IsPart mixedSelection [⟨"K01", "Weak battery", "", ""⟩] mixedRules order (· ≠ 0)
            part := by
  have hlenient : ({} : Config).strictRanges = false := rfl
  have hselection : mixedSelection ≠ [] := nofun
  have hrules : mixedRules ≠ [] := nofun
  have h := evaluate_lenient hlenient hselection hrules [⟨"K01", "Weak battery", "", ""⟩]
  have hkept : atPlaces (· ≠ 0) mixedRules ≠ [] := by decide
  obtain ⟨order, horder, hwarnings, hpart⟩ := evaluate_atPlaces {} mixedSelection mixedRules _ _ h
  exact ⟨_, h, order, horder, hwarnings, hkept, hpart _ hkept⟩

end CertaintyFactor
