import CertaintyFactor.Proofs.Explanation
import CertaintyFactor.Proofs.Run

/-!
# Cursors stand for lists of steps

A cursor shows the steps of a calculation one by one. It can be copied and restarted, so that there
come to be several of them, each at a place of its own. `Cursor.runSteps_refines` says that they
cannot be told from plain lists: each one stands for the steps still to come, an end of the list of
all steps, and whatever is asked is answered from that list.
-/

set_option autoImplicit false

namespace CertaintyFactor

namespace Cursor

/-! ## Requests to one of several cursors -/

/-- What is asked of a cursor. -/
inductive Request where
  | next
  | nth (n : Nat)
  | length
  | sizeHint
  | rest
  | clone
  | restart
deriving DecidableEq, Repr

inductive Answer (K : Type) where
  | step (s : Option (Step K))
  | length (count : Nat)
  | bounds (lower : Nat) (upper : Option Nat)
  | steps (all : List (Step K))
  /-- There is one more cursor. -/
  | made
  /-- The request is broken off. -/
  | broken (fault : Fault)
deriving DecidableEq, Repr

section

variable {K σ τ : Type}

/-- Asks the item at a place among some. What it becomes stands there afterwards, and what it makes
comes at the end. At a place where there is none, nothing is answered. -/
def askAt (act : σ → Request → Answer K × σ × Option σ) (items : List σ) (op : Nat × Request) :
    Option (Answer K) × List σ :=
  match items[op.1]? with
  | none => (none, items)
  | some item =>
    let (answer, after, made) := act item op.2
    (some answer, items.set op.1 after ++ made.toList)

variable {act : σ → Request → Answer K × σ × Option σ} {items : List σ} {place : Nat} {item : σ}

theorem askAt_eq (h : items[place]? = some item) (r : Request) :
    askAt act items (place, r) = (some (act item r).1,
      items.set place (act item r).2.1 ++ (act item r).2.2.toList) := by
  rw [askAt, h]

theorem set_of_getElem? (h : items[place]? = some item) : items.set place item = items := by
  obtain ⟨hlt, rfl⟩ := List.getElem?_eq_some_iff.1 h
  exact List.set_getElem_self hlt

/-- An item is there still, and unless it was asked itself it is as it was. -/
theorem getElem?_askAt (h : items[place]? = some item) (op : Nat × Request) :
    (askAt act items op).2[place]? =
      some (if op.1 = place then (act item op.2).2.1 else item) := by
  have hlt : place < items.length := (List.getElem?_eq_some_iff.1 h).1
  obtain ⟨other, r⟩ := op
  by_cases hother : other = place
  · subst hother
    rw [askAt_eq h, List.getElem?_append_left (by simpa using hlt), if_pos rfl]
    exact List.getElem?_set_self hlt
  · rw [if_neg hother, askAt]
    cases items[other]? with
    | none => exact h
    | some asked =>
      show (items.set other (act asked r).2.1 ++ (act asked r).2.2.toList)[place]? = some item
      rw [List.getElem?_append_left (by simpa using hlt), List.getElem?_set_ne hother, h]

/-- Items that answer like others, one by one, answer like them among each other. -/
theorem askAt_simulates {other : τ → Request → Answer K × τ × Option τ} {R : σ → τ → Prop}
    (hact : ∀ s t r, R s t → (act s r).1 = (other t r).1 ∧ R (act s r).2.1 (other t r).2.1 ∧
      Option.Rel R (act s r).2.2 (other t r).2.2)
    {others : List τ} (h : List.Forall₂ R items others) (op : Nat × Request) :
    (askAt act items op).1 = (askAt other others op).1 ∧
      List.Forall₂ R (askAt act items op).2 (askAt other others op).2 := by
  have hpaired := rel_getElem?_of_forall₂ h op.1
  unfold askAt
  cases hitem : items[op.1]? with
  | none =>
    cases hother : others[op.1]? with
    | none => exact ⟨rfl, h⟩
    | some t =>
      rw [hitem, hother] at hpaired
      cases hpaired
  | some s =>
    cases hother : others[op.1]? with
    | none =>
      rw [hitem, hother] at hpaired
      cases hpaired
    | some t =>
      rw [hitem, hother] at hpaired
      cases hpaired with
      | some hst =>
        obtain ⟨hanswer, hafter, hmade⟩ := hact s t op.2 hst
        exact ⟨congrArg some hanswer,
          List.rel_append (forall₂_set h hafter op.1) (forall₂_toList hmade)⟩

end

/-! ## Lists of steps -/

section

variable {K : Type}

/-- What a list of steps still to come answers in its place, given the list of all steps. -/
def actOnList (all left : List (Step K)) :
    Request → Answer K × List (Step K) × Option (List (Step K))
  | .next => (.step left.head?, left.tail, none)
  | .nth n => (.step left[n]?, left.drop (n + 1), none)
  | .length => (.length left.length, left, none)
  | .sizeHint => (.bounds left.length (some left.length), left, none)
  | .rest => (.steps left, [], none)
  | .clone => (.made, left, some left)
  | .restart => (.made, left, some all)

theorem actOnList_ne_broken (all left : List (Step K)) (r : Request) (fault : Fault) :
    (actOnList all left r).1 ≠ .broken fault := by
  cases r <;> exact nofun

/-- Asks one of some lists of steps still to come. -/
def askList (all : List (Step K)) (lists : List (List (Step K))) (op : Nat × Request) :
    Option (Answer K) × List (List (Step K)) :=
  askAt (actOnList all) lists op

theorem askList_ne_broken (all : List (Step K)) (lists : List (List (Step K)))
    (op : Nat × Request) (fault : Fault) : (askList all lists op).1 ≠ some (.broken fault) := by
  unfold askList askAt
  split
  · exact nofun
  · exact fun h => actOnList_ne_broken all _ op.2 fault (Option.some.inj h)

/-- Lists answer every request. -/
theorem broken_notMem_runSteps_askList (all : List (Step K)) (lists : List (List (Step K)))
    (ops : List (Nat × Request)) (fault : Fault) :
    some (.broken fault) ∉ (runSteps (askList all) lists ops).1 := by
  induction ops generalizing lists with
  | nil => exact List.not_mem_nil
  | cons op ops ih =>
    rw [runSteps, List.mem_cons, not_or]
    exact ⟨(askList_ne_broken all lists op fault).symm, ih _⟩

/-- Nothing comes after the last step, whatever is asked. -/
theorem getElem?_runSteps_askList {all : List (Step K)} {lists : List (List (Step K))} {place : Nat}
    (h : lists[place]? = some []) (ops : List (Nat × Request)) :
    (runSteps (askList all) lists ops).2[place]? = some [] := by
  induction ops generalizing lists with
  | nil => exact h
  | cons op ops ih =>
    apply ih
    rw [askList, getElem?_askAt h]
    cases op.2 <;> simp [actOnList]

end

end Cursor

/-! ## A cursor and the steps it stands for -/

section

variable {K : Type} [Add K] [Sub K] [Mul K] [One K] [Zero K]

/-- A product is that of the match, and a combination takes it in. -/
def Step.MadeFrom (m : Match K) : Step K → Prop
  | product _ evidence => evidence = m
  | combination _ _ incoming _ => incoming = m.cfCombined

namespace Cursor

/-- What comes of a request that moves a cursor on. -/
def moved {α : Type} (c : Cursor K) (shown : α → Answer K) :
    Except Fault (α × Cursor K) → Answer K × Cursor K × Option (Cursor K)
  | .ok (a, after) => (shown a, after, none)
  | .error fault => (.broken fault, c, none)

/-- What a cursor answers, what becomes of it, and the cursor it makes. -/
def act (c : Cursor K) : Request → Answer K × Cursor K × Option (Cursor K)
  | .next => c.moved .step <| c.next.map fun
    | some (s, after) => (some s, after)
    | none => (none, c)
  | .nth n => c.moved .step (c.nth n)
  | .length => (.length c.remaining, c, none)
  | .sizeHint => (.bounds c.sizeHint.1 c.sizeHint.2, c, none)
  | .rest => c.moved .steps c.rest
  | .clone => (.made, c, some c)
  | .restart => (.made, c, some c.restart)

/-- A cursor is at a sound place in the calculation of some matches, where these steps are still to
come. -/
structure StandsFor (matching : List (Match K)) (c : Cursor K) (left : List (Step K)) : Prop where
  left : left = (steps matching).drop c.position
  matching : c.matching = matching
  sound : c.Sound

theorem standsFor_start (matching : List (Match K)) :
    (start matching).StandsFor matching (steps matching) :=
  ⟨rfl, rfl, sound_start matching⟩

namespace StandsFor

variable {matching : List (Match K)} {c : Cursor K} {left : List (Step K)}

theorem length_left (h : c.StandsFor matching left) : left.length = c.remaining := by
  rw [h.left, List.length_drop, length_steps, remaining, total, h.matching]

theorem yields (h : c.StandsFor matching left) : c.Yields left := by
  rw [h.left, ← h.matching]
  exact h.sound.yields

theorem next_nil (h : c.StandsFor matching []) : c.next = .ok none := by
  have hremaining := h.length_left
  exact next_of_le (Nat.le_of_sub_eq_zero hremaining.symm)

theorem next_cons {s : Step K} {rest : List (Step K)} (h : c.StandsFor matching (s :: rest)) :
    ∃ after, c.next = .ok (some (s, after)) ∧ after.StandsFor matching rest := by
  have hremaining := h.length_left
  rw [List.length_cons, remaining] at hremaining
  obtain ⟨found, after, hnext, hfound, hmatching, hposition, hsound⟩ :=
    h.sound.next_of_lt (by omega)
  have hleft := h.left
  rw [h.matching] at hfound
  obtain ⟨hlt, rfl⟩ := List.getElem?_eq_some_iff.1 hfound
  rw [List.drop_eq_getElem_cons hlt] at hleft
  obtain ⟨rfl, rfl⟩ := List.cons.inj hleft
  refine ⟨after, hnext, ?_, hmatching.trans h.matching, hsound⟩
  rw [hposition]

theorem nth (h : c.StandsFor matching left) (n : Nat) :
    ∃ after, c.nth n = .ok (left[n]?, after) ∧
      after.StandsFor matching (left.drop (n + 1)) := by
  induction n generalizing c left with
  | zero =>
    cases left with
    | nil =>
      rw [Cursor.nth, h.next_nil]
      exact ⟨c, rfl, h⟩
    | cons s rest =>
      obtain ⟨after, hnext, hafter⟩ := h.next_cons
      rw [Cursor.nth, hnext]
      exact ⟨after, rfl, hafter⟩
  | succ n ih =>
    cases left with
    | nil =>
      rw [Cursor.nth, h.next_nil]
      exact ⟨c, rfl, h⟩
    | cons s rest =>
      obtain ⟨after, hnext, hafter⟩ := h.next_cons
      rw [Cursor.nth, hnext]
      exact ih hafter

theorem take (h : c.StandsFor matching left) (n : Nat) :
    ∃ after, c.take n = .ok (left.take n, after) ∧ after.StandsFor matching (left.drop n) := by
  induction n generalizing c left with
  | zero => exact ⟨c, rfl, h⟩
  | succ n ih =>
    cases left with
    | nil =>
      rw [Cursor.take, h.next_nil]
      exact ⟨c, rfl, h⟩
    | cons s rest =>
      obtain ⟨after, hnext, hafter⟩ := h.next_cons
      obtain ⟨last, htake, hlast⟩ := ih hafter
      rw [Cursor.take, hnext, List.take_succ_cons]
      refine ⟨last, ?_, hlast⟩
      simp only [bind, Except.bind, htake]
      rfl

theorem rest (h : c.StandsFor matching left) :
    ∃ after, c.rest = .ok (left, after) ∧ after.StandsFor matching [] := by
  have hlength : left.length ≤ c.remaining + 1 := by
    rw [h.length_left]
    exact Nat.le_succ _
  have htake := h.take (c.remaining + 1)
  rwa [List.take_of_length_le hlength, List.drop_eq_nil_of_le hlength] at htake

theorem restart (h : c.StandsFor matching left) :
    c.restart.StandsFor matching (steps matching) := by
  rw [Cursor.restart, h.matching]
  exact standsFor_start matching

theorem exists_source {s : Step K} {rest : List (Step K)} (h : c.StandsFor matching (s :: rest)) :
    ∃ m, matching[c.source]? = some m ∧ s.MadeFrom m := by
  have hs : (steps matching)[c.position]? = some s := by
    rw [← List.head?_drop, ← h.left, List.head?_cons]
  rw [source, h.matching]
  by_cases hproduct : c.position < matching.length
  · rw [if_pos hproduct]
    rw [getElem?_steps_product hproduct] at hs
    obtain ⟨m, hm, rfl⟩ := Option.map_eq_some_iff.1 hs
    exact ⟨m, hm, rfl⟩
  · rw [if_neg hproduct]
    obtain ⟨k, hk⟩ := Nat.exists_eq_add_of_le (Nat.le_of_not_lt hproduct)
    have hlt : k + 1 < matching.length := by
      have hposition := (List.getElem?_eq_some_iff.1 hs).1
      rw [length_steps] at hposition
      omega
    have hm : matching[k + 1]? = some matching[k + 1] := List.getElem?_eq_getElem hlt
    obtain ⟨running, hrunning⟩ : ∃ running, certaintyOf matching (k + 1) = some running :=
      exists_certaintyOf (Nat.lt_of_succ_lt hlt)
    rw [hk, getElem?_steps_combination hm hrunning] at hs
    obtain rfl := Option.some.inj hs
    rw [hk, Nat.add_sub_cancel_left]
    exact ⟨_, hm, rfl⟩

/-- A cursor answers like the list it stands for, and they go on together. -/
theorem act (h : c.StandsFor matching left) (r : Request) :
    (c.act r).1 = (actOnList (steps matching) left r).1 ∧
      (c.act r).2.1.StandsFor matching (actOnList (steps matching) left r).2.1 ∧
      Option.Rel (StandsFor matching) (c.act r).2.2
        (actOnList (steps matching) left r).2.2 := by
  cases r with
  | next =>
    cases left with
    | nil =>
      rw [Cursor.act, h.next_nil]
      exact ⟨rfl, h, .none⟩
    | cons s rest =>
      obtain ⟨after, hnext, hafter⟩ := h.next_cons
      rw [Cursor.act, hnext]
      exact ⟨rfl, hafter, .none⟩
  | nth n =>
    obtain ⟨after, hnth, hafter⟩ := h.nth n
    rw [Cursor.act, hnth]
    exact ⟨rfl, hafter, .none⟩
  | length => exact ⟨congrArg Answer.length h.length_left.symm, h, .none⟩
  | sizeHint =>
    refine ⟨?_, h, .none⟩
    rw [Cursor.act, sizeHint, actOnList, h.length_left]
  | rest =>
    obtain ⟨after, hrest, hafter⟩ := h.rest
    rw [Cursor.act, hrest]
    exact ⟨rfl, hafter, .none⟩
  | clone => exact ⟨rfl, h, .some h⟩
  | restart => exact ⟨rfl, h, .some h.restart⟩

end StandsFor

/-! ## Cursors in use -/

/-- Asks one of some cursors. -/
def ask (cursors : List (Cursor K)) (op : Nat × Request) :
    Option (Answer K) × List (Cursor K) :=
  askAt act cursors op

theorem runSteps_ask {matching : List (Match K)} {cursors : List (Cursor K)}
    {lists : List (List (Step K))} (h : List.Forall₂ (StandsFor matching) cursors lists)
    (ops : List (Nat × Request)) :
    (runSteps ask cursors ops).1 = (runSteps (askList (steps matching)) lists ops).1 ∧
      List.Forall₂ (StandsFor matching) (runSteps ask cursors ops).2
        (runSteps (askList (steps matching)) lists ops).2 := by
  have hstep : ∀ cursors lists op, List.Forall₂ (StandsFor matching) cursors lists →
      id (ask cursors op).1 = (askList (steps matching) lists op).1 ∧
      List.Forall₂ (StandsFor matching) (ask cursors op).2
        (askList (steps matching) lists op).2 :=
    fun _ _ op h => askAt_simulates (fun _ _ r h => h.act r) h op
  have hrun := runSteps_simulates id hstep h ops
  rwa [List.map_id] at hrun

theorem act_next (c : Cursor K) : c.act .next = c.act (.nth 0) := by
  rw [act, act, nth]
  cases c.next with
  | error fault => rfl
  | ok result => cases result <;> rfl

theorem act_nth_of_eq_none {c : Cursor K} (h : c.next = .ok none) (n : Nat) :
    c.act (.nth n) = (.step none, c, none) := by
  cases n <;> rw [act, nth, h] <;> rfl

theorem StandsFor.act_nth_succ {matching : List (Match K)} {c after : Cursor K}
    {left : List (Step K)} {s : Step K} (hnext : c.next = .ok (some (s, after)))
    (h : after.StandsFor matching left) (n : Nat) :
    c.act (.nth (n + 1)) = after.act (.nth n) := by
  obtain ⟨last, hnth, -⟩ := h.nth n
  have hsucc : c.nth (n + 1) = after.nth n := by
    rw [Cursor.nth, hnext]
    rfl
  rw [Cursor.act, Cursor.act, hsucc, hnth]
  rfl

/-- A request for a later step comes to as many requests for the next one, of which the last answer
counts. -/
theorem runSteps_next {matching : List (Match K)} {cursors : List (Cursor K)} {place : Nat}
    {c : Cursor K} {left : List (Step K)} (hc : cursors[place]? = some c)
    (h : c.StandsFor matching left) (n : Nat) :
    let repeated := runSteps ask cursors (List.replicate (n + 1) (place, .next))
    repeated.1[n]? = some (ask cursors (place, .nth n)).1 ∧
      repeated.2 = (ask cursors (place, .nth n)).2 := by
  induction n generalizing cursors c left with
  | zero =>
    have hsame : ask cursors (place, .next) = ask cursors (place, .nth 0) := by
      rw [ask, ask, askAt_eq hc, askAt_eq hc, act_next]
    simp [runSteps, hsame]
  | succ n ih =>
    rw [List.replicate_succ]
    simp only [runSteps, List.getElem?_cons_succ]
    cases left with
    | nil =>
      -- The cursor stays at the end.
      have hnone := h.next_nil
      have hstays : ask cursors (place, .next) = ask cursors (place, .nth n) := by
        rw [ask, ask, askAt_eq hc, askAt_eq hc, act_next, act_nth_of_eq_none hnone,
          act_nth_of_eq_none hnone]
      have hsame : ask cursors (place, .nth (n + 1)) = ask cursors (place, .nth n) := by
        rw [ask, ask, askAt_eq hc, askAt_eq hc, act_nth_of_eq_none hnone, act_nth_of_eq_none hnone]
      have hset : (ask cursors (place, .nth n)).2 = cursors := by
        rw [ask, askAt_eq hc, act_nth_of_eq_none hnone, set_of_getElem? hc]
        exact List.append_nil _
      rw [hstays, hset, hsame]
      exact ih hc h
    | cons s rest =>
      obtain ⟨after, hnext, hafter⟩ := h.next_cons
      have hmoves : (ask cursors (place, .next)).2 = cursors.set place after := by
        rw [ask, askAt_eq hc, act, hnext]
        exact List.append_nil _
      have hplace : (cursors.set place after)[place]? = some after :=
        List.getElem?_set_self (List.getElem?_eq_some_iff.1 hc).1
      have hsame : ask cursors (place, .nth (n + 1)) =
          ask (cursors.set place after) (place, .nth n) := by
        rw [ask, ask, askAt_eq hc, askAt_eq hplace, hafter.act_nth_succ hnext, List.set_set]
      rw [hmoves, hsame]
      exact ih hplace hafter

/-- Where cursors are in use that stand for lists, one that has no next step never has one again. -/
theorem next_runSteps_eq_none {matching : List (Match K)} {cursors : List (Cursor K)}
    {lists : List (List (Step K))} (h : List.Forall₂ (StandsFor matching) cursors lists)
    {place : Nat} {c : Cursor K} (hc : cursors[place]? = some c) (hend : c.next = .ok none)
    (ops : List (Nat × Request)) :
    ∃ later, (runSteps ask cursors ops).2[place]? = some later ∧ later.next = .ok none := by
  obtain ⟨left, hleft, hstands⟩ := exists_getElem?_of_forall₂ h hc
  have hnil : left = [] := by
    cases left with
    | nil => rfl
    | cons s rest =>
      obtain ⟨after, hnext, -⟩ := hstands.next_cons
      rw [hend] at hnext
      cases hnext
  subst hnil
  obtain ⟨later, hlater, hlast⟩ := exists_getElem?_of_forall₂ (runSteps_ask h ops).2.flip
    (getElem?_runSteps_askList hleft ops)
  exact ⟨later, hlater, StandsFor.next_nil hlast⟩

/-! ## What cursors promise -/

/-- `c` delivers the steps `left`, which are the last ones of the calculation of some matches. -/
structure Delivers (matching : List (Match K)) (c : Cursor K) (left : List (Step K)) : Prop where
  suffix : left <:+ steps matching
  position : c.position + left.length = (steps matching).length
  yields : c.Yields left
  remaining : c.remaining = left.length
  sizeHint : c.sizeHint = (left.length, some left.length)
  /-- The certainty so far is that of the first match, if there is one, and of one more for each
  combination done. -/
  running : c.running = (certaintyOf matching (c.position - matching.length + 1)).getD 0
  done : left = [] → c.next = .ok none
  /-- Before the end, the match that the next step is made from is listed. -/
  reads : ∀ s rest, left = s :: rest → ∃ m, matching[c.source]? = some m ∧ s.MadeFrom m
  /-- At the end and before, no request looks up what is not listed. -/
  answers : ∀ r fault, (c.act r).1 ≠ .broken fault

theorem StandsFor.delivers {matching : List (Match K)} {c : Cursor K} {left : List (Step K)}
    (h : c.StandsFor matching left) : c.Delivers matching left where
  suffix := by
    rw [h.left]
    exact List.drop_suffix _ _
  position := by
    have hle := h.sound.position_le
    rw [h.length_left, length_steps, remaining]
    rw [total, h.matching] at hle ⊢
    omega
  yields := h.yields
  remaining := h.length_left.symm
  sizeHint := by rw [Cursor.sizeHint, h.length_left]
  running := by
    rw [h.sound.running, h.matching]
  done := by
    rintro rfl
    exact h.next_nil
  reads := by
    rintro s rest rfl
    exact h.exists_source
  answers r fault := by
    rw [(h.act r).1]
    exact actOnList_ne_broken _ left r fault

/-- Cursors over some matches answer all requests, in whatever order they come, as lists of steps
would: the first cursor as the list of all steps, a copy as what its original has left then, a
restarted one as all steps again. None is broken off, for no match is looked up that is not listed.
Each cursor delivers the steps its list has left. A request changes no cursor but the one that is
asked; a request for a later step is one for the next step, repeated; and a cursor that has come to
its end stays there. -/
theorem runSteps_refines (matching : List (Match K)) (ops : List (Nat × Request)) :
    let run := runSteps ask [start matching] ops
    let lists := runSteps (askList (steps matching)) [steps matching] ops
    run.1 = lists.1 ∧ (∀ fault, some (.broken fault) ∉ run.1) ∧
      List.Forall₂ (Delivers matching) run.2 lists.2 ∧
      ∀ place c, run.2[place]? = some c →
        (∀ other r, other ≠ place → (ask run.2 (other, r)).2[place]? = some c) ∧
        (ask run.2 (place, .clone)).2 = run.2 ++ [c] ∧
        (ask run.2 (place, .restart)).2 = run.2 ++ [start matching] ∧
        (∀ n, let repeated := runSteps ask run.2 (List.replicate (n + 1) (place, .next))
          repeated.1[n]? = some (ask run.2 (place, .nth n)).1 ∧
            repeated.2 = (ask run.2 (place, .nth n)).2) ∧
        (c.next = .ok none → ∀ more,
          ∃ later, (runSteps ask run.2 more).2[place]? = some later ∧ later.next = .ok none) := by
  intro run lists
  have hstart : List.Forall₂ (StandsFor matching) [start matching] [steps matching] :=
    .cons (standsFor_start matching) .nil
  obtain ⟨hanswers, hlast⟩ := runSteps_ask hstart ops
  refine ⟨hanswers, ?_, hlast.imp fun _ _ h => h.delivers, fun place c hc => ?_⟩
  · intro fault hmem
    rw [hanswers] at hmem
    exact broken_notMem_runSteps_askList _ _ ops fault hmem
  obtain ⟨left, -, hstands⟩ := exists_getElem?_of_forall₂ hlast hc
  refine ⟨?_, ?_, ?_, ?_, ?_⟩
  · intro other r hother
    have hstays : (ask run.2 (other, r)).2[place]? = some (if other = place then _ else c) :=
      getElem?_askAt hc (other, r)
    rwa [if_neg hother] at hstays
  · rw [ask, askAt_eq hc, act, set_of_getElem? hc]
    rfl
  · rw [ask, askAt_eq hc, act, set_of_getElem? hc, Cursor.restart, hstands.matching]
    rfl
  · intro n
    exact runSteps_next hc hstands n
  · intro hend more
    exact next_runSteps_eq_none hlast hc hend more

end Cursor

end

/-- A copy made between two combinations goes on by itself. -/
example :
    let matching : List (Match Int) :=
      [⟨"G01", "", 1, 2, 2⟩, ⟨"G02", "", 1, 3, 3⟩, ⟨"G03", "", 1, 4, 4⟩]
    (runSteps Cursor.ask [.start matching]
      [(0, .nth 3), (0, .clone), (1, .next), (0, .length), (1, .next), (1, .sizeHint)]).1 =
      [some (.step (some (.combination 4 2 3 (-1)))), some .made,
        some (.step (some (.combination 5 (-1) 4 7))), some (.length 1), some (.step none),
        some (.bounds 0 (some 0))] := rfl

end CertaintyFactor
