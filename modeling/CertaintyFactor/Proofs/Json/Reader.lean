import CertaintyFactor.Json.Reader
import Mathlib.Data.List.Basic
import Mathlib.Data.List.TakeWhile

/-!
# What readers read

`Reader.read?` forgets which error a reader fails with, so that a reader becomes a partial function
from texts to values with what is left of the text. It turns the steps of a reader into equations.

A reader is *steady* when of all that it leaves of a text it sees the first character only: it does
the same on every text that begins with what it took and goes on with the same character. Steady
readers are closed under sequencing, so steadiness of the readers of documents follows from that of
the few that touch the text. A loop is steady if its fuel, the text, never runs out, and so if each
round is *busy*, which is to say takes something.
-/

set_option autoImplicit false

namespace CertaintyFactor.Json.Reader

variable {α β : Type}

/-- What a reader reads off the front of a text, with what is left, if it does not fail. -/
def read? (reader : Reader α) (text : List Char) : Option (α × List Char) :=
  (StateT.run reader text).toOption

@[simp] theorem read?_pure (a : α) (text : List Char) :
    (pure a : Reader α).read? text = some (a, text) :=
  rfl

@[simp] theorem read?_fail (e : Error) (text : List Char) :
    (fail e : Reader α).read? text = none :=
  rfl

@[simp] theorem read?_get (text : List Char) :
    (get : Reader (List Char)).read? text = some (text, text) :=
  rfl

@[simp] theorem read?_set (new text : List Char) :
    (set new : Reader PUnit).read? text = some ((), new) :=
  rfl

@[simp] theorem read?_modify (f : List Char → List Char) (text : List Char) :
    (modify f : Reader PUnit).read? text = some ((), f text) :=
  rfl

@[simp] theorem read?_bind (f : Reader α) (g : α → Reader β) (text : List Char) :
    (f >>= g).read? text = (f.read? text).bind fun p => (g p.1).read? p.2 := by
  simp only [read?, StateT.run_bind]
  cases StateT.run f text <;> rfl

@[simp] theorem read?_map (f : α → β) (g : Reader α) (text : List Char) :
    (f <$> g).read? text = (g.read? text).map fun p => (f p.1, p.2) := by
  simp only [read?, StateT.run_map]
  cases StateT.run g text <;> rfl

@[simp] theorem read?_first? (text : List Char) : first?.read? text = some (text.head?, text) := by
  simp [first?]

@[simp] theorem read?_skip (text : List Char) : skip.read? text = some ((), text.tail) := by
  simp [skip]

@[simp] theorem read?_token? (text : List Char) :
    token?.read? text = some ((text.dropWhile isSpace).head?, text.dropWhile isSpace) := by
  simp [token?]

theorem read?_valueStart (text : List Char) :
    valueStart.read? text =
      (text.dropWhile isSpace).head?.map fun c => (c, text.dropWhile isSpace) := by
  simp only [valueStart, read?_bind, read?_token?, Option.bind_some]
  cases (text.dropWhile isSpace).head? <;> rfl

theorem read?_endText (text : List Char) :
    endText.read? text = if text.dropWhile isSpace = [] then some ((), []) else none := by
  simp only [endText, read?_bind, read?_token?, Option.bind_some]
  cases text.dropWhile isSpace <;> simp

/-- Reading a whole text is reading it and finding only blanks left. -/
theorem toOption_run (reader : Reader α) (text : String) :
    (reader.run text).toOption =
      (reader.read? text.toList).bind fun p =>
        if p.2.dropWhile isSpace = [] then some p.1 else none := by
  have hrun : (reader.run text).toOption = ((do
      let value ← reader
      endText
      return value : Reader α).read? text.toList).map (·.1) := by
    simp only [run, read?]
    cases StateT.run _ text.toList <;> rfl
  rw [hrun, read?_bind]
  cases reader.read? text.toList with
  | none => rfl
  | some p =>
    simp only [Option.bind_some, read?_bind, read?_endText, read?_pure]
    split <;> rfl

/-! ## Steady readers -/

/-- What a reader leaves of a text is the end of it, and the reader does the same on every text that
goes on with the same character after what it took. -/
def Steady (reader : Reader α) : Prop :=
  ∀ text a rest, reader.read? text = some (a, rest) → ∃ taken, text = taken ++ rest ∧
    ∀ next, next.head? = rest.head? → reader.read? (taken ++ next) = some (a, next)

/-- A steady reader that sees where its value ends: it does the same on every text that begins with
what it took. -/
def Closed (reader : Reader α) : Prop :=
  ∀ text a rest, reader.read? text = some (a, rest) → ∃ taken, text = taken ++ rest ∧
    ∀ next, reader.read? (taken ++ next) = some (a, next)

/-- A reader that does not look at the text. -/
def Idle (reader : Reader α) : Prop :=
  ∀ text a rest, reader.read? text = some (a, rest) →
    rest = text ∧ ∀ next, reader.read? next = some (a, next)

/-- A reader that takes at least one character. -/
def Busy (reader : Reader α) : Prop :=
  ∀ text a rest, reader.read? text = some (a, rest) → rest.length < text.length

theorem Closed.steady {reader : Reader α} (h : reader.Closed) : reader.Steady := by
  intro text a rest hread
  obtain ⟨taken, htext, hnext⟩ := h _ _ _ hread
  exact ⟨taken, htext, fun next _ => hnext next⟩

namespace Idle

protected theorem pure (a : α) : (pure a : Reader α).Idle := by
  rintro text _ _ ⟨⟩
  exact ⟨rfl, fun _ => rfl⟩

protected theorem fail (e : Error) : (fail e : Reader α).Idle :=
  nofun

theorem closed {reader : Reader α} (h : reader.Idle) : reader.Closed := by
  intro text a rest hread
  obtain ⟨rfl, hnext⟩ := h _ _ _ hread
  exact ⟨[], rfl, hnext⟩

end Idle

/-! ## Fuel -/

/-- `g` reads all that `f` reads off texts of at most `n` characters, with the same outcome. -/
def Extends (n : Nat) (f g : Reader α) : Prop :=
  ∀ text a rest, text.length ≤ n → f.read? text = some (a, rest) → g.read? text = some (a, rest)

theorem Steady.length_le {reader : Reader α} (h : reader.Steady) {text rest : List Char} {a : α}
    (hread : reader.read? text = some (a, rest)) : rest.length ≤ text.length := by
  obtain ⟨taken, rfl, -⟩ := h _ _ _ hread
  rw [List.length_append]
  exact Nat.le_add_left _ _

namespace Extends

variable {n : Nat}

protected theorem refl (f : Reader α) : Extends n f f :=
  fun _ _ _ _ h => h

protected theorem fail (e : Error) (g : Reader α) : Extends n (fail e) g :=
  nofun

/-- Without fuel, only the empty text matters. -/
protected theorem zero {f : Reader α} (h : f.read? [] = none) (g : Reader α) : Extends 0 f g := by
  intro text a rest hlength hread
  rw [List.length_eq_zero_iff.1 (Nat.le_zero.1 hlength), h] at hread
  cases hread

protected theorem bind {f : Reader α} {g g' : α → Reader β} (hf : f.Steady)
    (hg : ∀ a, Extends n (g a) (g' a)) : Extends n (f >>= g) (f >>= g') := by
  intro text b rest hlength hread
  rw [read?_bind, Option.bind_eq_some_iff] at hread ⊢
  obtain ⟨p, hp, hread⟩ := hread
  exact ⟨p, hp, hg _ _ _ _ (Nat.le_trans (hf.length_le hp) hlength) hread⟩

/-- Behind a reader that takes something, the text is shorter. -/
protected theorem busy {f : Reader α} {g g' : α → Reader β} (hf : f.Busy)
    (hg : ∀ a, Extends n (g a) (g' a)) : Extends (n + 1) (f >>= g) (f >>= g') := by
  intro text b rest hlength hread
  rw [read?_bind, Option.bind_eq_some_iff] at hread ⊢
  obtain ⟨p, hp, hread⟩ := hread
  exact ⟨p, hp, hg _ _ _ _ (Nat.le_of_lt_succ (Nat.lt_of_lt_of_le (hf _ _ _ hp) hlength)) hread⟩

protected theorem ite {c : Prop} [Decidable c] {f f' g g' : Reader α} (hf : Extends n f f')
    (hg : Extends n g g') : Extends n (if c then f else g) (if c then f' else g') := by
  split
  · exact hf
  · exact hg

end Extends

/-! ## Steady readers put together -/

namespace Steady

protected theorem pure (a : α) : (pure a : Reader α).Steady :=
  (Idle.pure a).closed.steady

protected theorem fail (e : Error) : (fail e : Reader α).Steady :=
  nofun

/-- What the second reader takes begins what the first one leaves. -/
protected theorem bind {f : Reader α} {g : α → Reader β} (hf : f.Steady) (hg : ∀ a, (g a).Steady) :
    (f >>= g).Steady := by
  intro text b rest hread
  rw [read?_bind, Option.bind_eq_some_iff] at hread
  obtain ⟨⟨a, mid⟩, hmid, hrest⟩ := hread
  obtain ⟨taken, rfl, hnext⟩ := hf _ _ _ hmid
  obtain ⟨taken', rfl, hnext'⟩ := hg a _ _ _ hrest
  refine ⟨taken ++ taken', (List.append_assoc _ _ _).symm, fun next hhead => ?_⟩
  have hmidhead : (taken' ++ next).head? = (taken' ++ rest).head? := by
    rw [List.head?_append, List.head?_append, hhead]
  rw [List.append_assoc, read?_bind, hnext _ hmidhead]
  exact hnext' next hhead

protected theorem map {f : α → β} {g : Reader α} (hg : g.Steady) : (f <$> g).Steady := by
  rw [map_eq_pure_bind]
  exact hg.bind fun a => .pure (f a)

protected theorem discard {g : Reader α} (hg : g.Steady) : (discard g).Steady :=
  hg.map (f := fun _ => ())

protected theorem ite {c : Prop} [Decidable c] {f g : Reader α} (hf : f.Steady) (hg : g.Steady) :
    (if c then f else g).Steady := by
  split
  · exact hf
  · exact hg

/-- Steadiness is about what a reader reads, not about its errors. -/
protected theorem congr {f g : Reader α} (h : ∀ text, f.read? text = g.read? text)
    (hg : g.Steady) : f.Steady := by
  intro text a rest hread
  simp only [h] at hread ⊢
  exact hg _ _ _ hread

/-- A reader that takes its text for fuel, where that is fuel enough. -/
theorem fueled {f : List Char → Reader α} (hf : ∀ fuel, (f fuel).Steady)
    (henough : ∀ fuel fuel', Extends fuel'.length (f fuel) (f fuel')) :
    ((get : Reader (List Char)) >>= f).Steady := by
  intro text a rest hread
  rw [read?_bind, read?_get, Option.bind_some] at hread
  obtain ⟨taken, htext, hnext⟩ := hf _ _ _ _ hread
  refine ⟨taken, htext, fun next hhead => ?_⟩
  rw [read?_bind, read?_get, Option.bind_some]
  exact henough text (taken ++ next) _ _ _ (Nat.le_refl _) (hnext next hhead)

end Steady

namespace Busy

protected theorem fail (e : Error) : (fail e : Reader α).Busy :=
  nofun

protected theorem bind {f : Reader α} {g : α → Reader β} (hf : f.Busy) (hg : ∀ a, (g a).Steady) :
    (f >>= g).Busy := by
  intro text b rest hread
  rw [read?_bind, Option.bind_eq_some_iff] at hread
  obtain ⟨⟨a, mid⟩, hmid, hrest⟩ := hread
  exact Nat.lt_of_le_of_lt ((hg a).length_le hrest) (hf _ _ _ hmid)

protected theorem after {f : Reader α} {g : α → Reader β} (hf : f.Steady) (hg : ∀ a, (g a).Busy) :
    (f >>= g).Busy := by
  intro text b rest hread
  rw [read?_bind, Option.bind_eq_some_iff] at hread
  obtain ⟨⟨a, mid⟩, hmid, hrest⟩ := hread
  exact Nat.lt_of_lt_of_le (hg a _ _ _ hrest) (hf.length_le hmid)

protected theorem ite {c : Prop} [Decidable c] {f g : Reader α} (hf : f.Busy) (hg : g.Busy) :
    (if c then f else g).Busy := by
  split
  · exact hf
  · exact hg

protected theorem fueled {f : List Char → Reader α} (hf : ∀ fuel, (f fuel).Busy) :
    ((get : Reader (List Char)) >>= f).Busy := by
  intro text a rest hread
  rw [read?_bind, read?_get, Option.bind_some] at hread
  exact hf text _ _ _ hread

/-- As for steadiness, errors do not matter. -/
protected theorem congr {f g : Reader α} (h : ∀ text, f.read? text = g.read? text) (hg : g.Busy) :
    f.Busy := by
  intro text a rest hread
  rw [h] at hread
  exact hg _ _ _ hread

end Busy

/-- A reader that takes something of a text that begins with `c`. -/
def BusyAt (c : Char) (reader : Reader α) : Prop :=
  ∀ text a rest, reader.read? (c :: text) = some (a, rest) → rest.length ≤ text.length

namespace BusyAt

variable {c : Char}

protected theorem fail (e : Error) : (fail e : Reader α).BusyAt c :=
  nofun

protected theorem skip : skip.BusyAt c := by
  rintro text _ _ ⟨⟩
  exact Nat.le_refl _

protected theorem bind {f : Reader α} {g : α → Reader β} (hf : f.BusyAt c)
    (hg : ∀ a, (g a).Steady) : (f >>= g).BusyAt c := by
  intro text b rest hread
  rw [read?_bind, Option.bind_eq_some_iff] at hread
  obtain ⟨⟨a, mid⟩, hmid, hrest⟩ := hread
  exact Nat.le_trans ((hg a).length_le hrest) (hf _ _ _ hmid)

protected theorem ite {p : Prop} [Decidable p] {f g : Reader α} (hf : f.BusyAt c)
    (hg : g.BusyAt c) : (if p then f else g).BusyAt c := by
  split
  · exact hf
  · exact hg

end BusyAt

theorem Busy.busyAt {reader : Reader α} (h : reader.Busy) (c : Char) : reader.BusyAt c :=
  fun _ _ _ hread => Nat.le_of_lt_succ (h _ _ _ hread)

/-! ## Blanks, words and punctuation -/

theorem steady_first? : first?.Steady := by
  intro text a rest hread
  rw [read?_first?] at hread
  obtain ⟨rfl, rfl⟩ := Prod.mk.inj (Option.some.inj hread)
  exact ⟨[], rfl, fun next hhead => by rw [List.nil_append, read?_first?, hhead]⟩

theorem steady_skip : skip.Steady := by
  intro text a rest hread
  rw [read?_skip] at hread
  obtain ⟨-, rfl⟩ := Prod.mk.inj (Option.some.inj hread)
  cases text with
  | nil => exact ⟨[], rfl, fun next hhead => by rw [List.head?_eq_none_iff.1 hhead]; rfl⟩
  | cons c text => exact ⟨[c], rfl, fun next _ => rfl⟩

section

variable {p : Char → Bool} {text next : List Char}
  (h : next.head? = (text.dropWhile p).head?)

include h

theorem dropWhile_eq_self_of_head? : next.dropWhile p = next := by
  cases next with
  | nil => rfl
  | cons c next =>
    have hc := List.head?_dropWhile_not p text
    rw [← h, List.head?_cons] at hc
    exact List.dropWhile_cons_of_neg (by simpa using hc)

theorem dropWhile_takeWhile_append : (text.takeWhile p ++ next).dropWhile p = next := by
  rw [List.dropWhile_append_of_pos (List.all_eq_true.1 List.all_takeWhile),
    dropWhile_eq_self_of_head? h]

theorem takeWhile_takeWhile_append :
    (text.takeWhile p ++ next).takeWhile p = text.takeWhile p := by
  rw [List.takeWhile_append_of_pos (List.all_eq_true.1 List.all_takeWhile)]
  have hall := List.takeWhile_append_dropWhile (p := p) (l := next)
  rw [dropWhile_eq_self_of_head? h] at hall
  rw [List.append_left_eq_self.1 hall, List.append_nil]

end

theorem steady_dropWhile (p : Char → Bool) :
    (modify (List.dropWhile p) : Reader PUnit).Steady := by
  intro text a rest hread
  rw [read?_modify] at hread
  obtain ⟨-, rfl⟩ := Prod.mk.inj (Option.some.inj hread)
  refine ⟨text.takeWhile p, List.takeWhile_append_dropWhile.symm, fun next hhead => ?_⟩
  rw [read?_modify, dropWhile_takeWhile_append hhead]

theorem busy_first? {f : Option Char → Reader α} (hnone : (f none).read? [] = none)
    (hsome : ∀ c, (f (some c)).BusyAt c) : (first? >>= f).Busy := by
  intro text a rest hread
  rw [read?_bind, read?_first?, Option.bind_some] at hread
  cases text with
  | nil => cases hnone.symm.trans hread
  | cons c text => exact Nat.lt_succ_of_le (hsome c _ _ _ hread)

theorem busy_token? {f : Option Char → Reader α} (hnone : (f none).read? [] = none)
    (hsome : ∀ c, (f (some c)).BusyAt c) : (token? >>= f).Busy := by
  rw [token?, bind_assoc]
  exact .after (steady_dropWhile isSpace) fun _ => busy_first? hnone hsome

theorem busy_valueStart {f : Char → Reader α} (hf : ∀ c, (f c).BusyAt c) :
    (valueStart >>= f).Busy := by
  rw [valueStart, bind_assoc]
  refine busy_token? rfl fun c => ?_
  simpa using hf c

theorem steady_token? : token?.Steady :=
  (steady_dropWhile isSpace).bind fun _ => steady_first?

theorem steady_valueStart : valueStart.Steady :=
  steady_token?.bind fun c => by
    cases c with
    | none => exact .fail _
    | some c => exact .pure c

theorem steady_word (w : List Char) : (word w).Steady := by
  induction w with
  | nil => exact .pure ()
  | cons c w ih =>
    refine steady_first?.bind fun d => ?_
    cases d with
    | none => exact .fail _
    | some d => exact .ite (steady_skip.bind fun _ => ih) (.fail _)

theorem busy_word {w : List Char} (h : w ≠ []) : (word w).Busy := by
  obtain ⟨c, w, rfl⟩ := List.exists_cons_of_ne_nil h
  exact busy_first? rfl fun d => .ite (.bind .skip fun _ => steady_word w) (.fail _)

theorem steady_hasItem (isFirst : Bool) : (hasItem isFirst).Steady := by
  refine steady_token?.bind fun c => ?_
  split
  · exact .fail _
  · exact .pure _
  · refine .ite (.pure _)
      (.ite (steady_skip.bind fun _ => steady_token?.bind fun d => ?_) (.fail _))
    split
    · exact .fail _
    · exact .pure _
    · exact .fail _

theorem steady_hasMember (isFirst : Bool) : (hasMember isFirst).Steady := by
  refine steady_token?.bind fun c => ?_
  split
  · exact .fail _
  · exact .pure _
  · refine .ite (.ite (.pure _) (.fail _))
      (.ite (steady_skip.bind fun _ => steady_token?.bind fun d => ?_) (.fail _))
    split
    · exact .pure _
    · exact .fail _
    · exact .fail _
    · exact .fail _

theorem steady_colon : colon.Steady := by
  refine steady_token?.bind fun c => ?_
  split
  · exact steady_skip
  · exact .fail _
  · exact .fail _

/-! ## Lists and objects -/

section

variable {step : α → Reader α} (hstep : ∀ acc, (step acc).Steady)

include hstep in
theorem steady_foldItems (fuel : List Char) (isFirst : Bool) (acc : α) :
    (foldItems step fuel isFirst acc).Steady := by
  induction fuel generalizing isFirst acc with
  | nil => exact .fail _
  | cons _ fuel ih =>
    exact (steady_hasItem isFirst).bind fun goesOn =>
      .ite ((hstep acc).bind fun acc => ih false acc) (.pure acc)

include hstep in
theorem steady_foldMembers (fuel : List Char) (isFirst : Bool) (acc : α) :
    (foldMembers step fuel isFirst acc).Steady := by
  induction fuel generalizing isFirst acc with
  | nil => exact .fail _
  | cons _ fuel ih =>
    exact (steady_hasMember isFirst).bind fun goesOn =>
      .ite ((hstep acc).bind fun acc => ih false acc) (.pure acc)

end

section

variable {step : α → Reader α} (hstep : ∀ acc, (step acc).Busy)

include hstep in
theorem foldItems_extends (fuel fuel' : List Char) (isFirst : Bool) (acc : α) :
    Extends fuel'.length (foldItems step fuel isFirst acc) (foldItems step fuel' isFirst acc) := by
  induction fuel' generalizing fuel isFirst acc with
  | nil =>
    refine .zero ?_ _
    cases fuel <;> rfl
  | cons _ fuel' ih =>
    cases fuel with
    | nil => exact .fail _ _
    | cons _ fuel =>
      exact .bind (steady_hasItem isFirst) fun _ =>
        .ite (.busy (hstep acc) fun _ => ih _ _ _) (.refl _)

include hstep in
theorem foldMembers_extends (fuel fuel' : List Char) (isFirst : Bool) (acc : α) :
    Extends fuel'.length (foldMembers step fuel isFirst acc)
      (foldMembers step fuel' isFirst acc) := by
  induction fuel' generalizing fuel isFirst acc with
  | nil =>
    refine .zero ?_ _
    cases fuel <;> rfl
  | cons _ fuel' ih =>
    cases fuel with
    | nil => exact .fail _ _
    | cons _ fuel =>
      exact .bind (steady_hasMember isFirst) fun _ =>
        .ite (.busy (hstep acc) fun _ => ih _ _ _) (.refl _)

end

/-- An object that does not go on is at its closing bracket. -/
theorem head?_hasMember {isFirst : Bool} {text rest : List Char}
    (h : (hasMember isFirst).read? text = some (false, rest)) : rest.head? = some '\x7d' := by
  simp only [hasMember, read?_bind, read?_token?, Option.bind_some] at h
  split at h
  · cases h
  · next hc =>
    obtain rfl : text.dropWhile isSpace = rest := by simpa using h
    exact hc
  · split at h
    · split at h <;> simp at h
    · split at h
      · simp only [read?_bind, read?_skip, read?_token?, Option.bind_some] at h
        split at h <;> simp at h
      · cases h

/-- Folding over the members of an object stops at its closing bracket. -/
theorem head?_foldMembers {step : α → Reader α} {fuel : List Char} {isFirst : Bool} {acc a : α}
    {text rest : List Char} (h : (foldMembers step fuel isFirst acc).read? text = some (a, rest)) :
    rest.head? = some '\x7d' := by
  induction fuel generalizing isFirst acc text with
  | nil => cases h
  | cons _ fuel ih =>
    rw [foldMembers, read?_bind, Option.bind_eq_some_iff] at h
    obtain ⟨⟨goesOn, mid⟩, hgoesOn, h⟩ := h
    cases goesOn with
    | true =>
      simp only [if_true, read?_bind, Option.bind_eq_some_iff] at h
      obtain ⟨p, -, h⟩ := h
      exact ih h
    | false =>
      obtain ⟨-, rfl⟩ : acc = a ∧ mid = rest := by simpa using h
      exact head?_hasMember hgoesOn

/-! ## Closed readers -/

namespace Closed

variable {reader : Reader α} {text rest : List Char} {a : α}

theorem read?_append (h : reader.Closed) (hread : reader.read? text = some (a, rest))
    (more : List Char) : reader.read? (text ++ more) = some (a, rest ++ more) := by
  obtain ⟨taken, rfl, hnext⟩ := h _ _ _ hread
  rw [List.append_assoc]
  exact hnext (rest ++ more)

/-- Where a closed reader takes the whole of a text, it takes no shorter beginning of it. -/
theorem read?_of_append (h : reader.Closed) {more : List Char}
    (hall : ∀ a rest, reader.read? (text ++ more) = some (a, rest) → rest = []) (hne : more ≠ []) :
    reader.read? text = none := by
  rw [Option.eq_none_iff_forall_ne_some]
  rintro ⟨a, rest⟩ hread
  have hrest : rest ++ more = [] := hall _ _ (h.read?_append hread more)
  exact hne (List.append_eq_nil_iff.1 hrest).2

end Closed

/-- A closed reader that finds no value in an empty text, and takes no blank behind the value. -/
structure Enclosed (reader : Reader α) : Prop where
  closed : reader.Closed
  read?_nil : reader.read? [] = none
  getLast?_eq : ∀ text a, reader.read? text = some (a, []) → ∀ c ∈ text.getLast?, isSpace c = false

namespace Enclosed

theorem busy {reader : Reader α} (h : reader.Enclosed) : reader.Busy := by
  intro text a rest hread
  obtain ⟨taken, rfl, hnext⟩ := h.closed _ _ _ hread
  cases taken with
  | nil => cases h.read?_nil.symm.trans (hnext [])
  | cons c taken =>
    rw [List.cons_append, List.length_cons, List.length_append]
    exact Nat.lt_succ_of_le (Nat.le_add_left _ _)

protected theorem fail (e : Error) : (fail e : Reader α).Enclosed :=
  ⟨(Idle.fail e).closed, rfl, nofun⟩

/-- What ends a value closes whatever steady reader comes before it. -/
protected theorem after {f : Reader α} {g : α → Reader β} (hf : f.Steady)
    (hg : ∀ a, (g a).Enclosed) : (f >>= g).Enclosed := by
  have hne {mid rest : List Char} {a : α} {b : β} (h : (g a).read? mid = some (b, rest)) :
      mid ≠ [] := by
    rintro rfl
    cases (hg a).read?_nil.symm.trans h
  refine ⟨?_, ?_, ?_⟩
  · intro text b rest hread
    rw [read?_bind, Option.bind_eq_some_iff] at hread
    obtain ⟨⟨a, mid⟩, hmid, hrest⟩ := hread
    obtain ⟨taken, rfl, hnext⟩ := hf _ _ _ hmid
    obtain ⟨taken', rfl, hnext'⟩ := (hg a).closed _ _ _ hrest
    refine ⟨taken ++ taken', (List.append_assoc _ _ _).symm, fun next => ?_⟩
    -- The value took something, whose first character is there whatever comes next.
    have htaken : taken' ≠ [] := by
      rintro rfl
      exact hne (hnext' []) rfl
    have hhead : (taken' ++ next).head? = (taken' ++ rest).head? := by
      rw [List.head?_append_of_ne_nil _ htaken, List.head?_append_of_ne_nil _ htaken]
    rw [List.append_assoc, read?_bind, hnext _ hhead]
    exact hnext' next
  · rw [read?_bind, Option.bind_eq_none_iff]
    intro p hp
    have hnil := List.length_eq_zero_iff.1 (Nat.le_zero.1 (hf.length_le hp))
    rw [hnil, (hg p.1).read?_nil]
  · intro text b hread c hc
    rw [read?_bind, Option.bind_eq_some_iff] at hread
    obtain ⟨⟨a, mid⟩, hmid, hrest⟩ := hread
    obtain ⟨taken, rfl, -⟩ := hf _ _ _ hmid
    rw [List.getLast?_append_of_ne_nil _ (hne hrest)] at hc
    exact (hg a).getLast?_eq _ _ hrest c hc

protected theorem bind {f : Reader α} {g : α → Reader β} (hf : f.Enclosed)
    (hg : ∀ a, (g a).Idle) : (f >>= g).Enclosed := by
  refine ⟨?_, by rw [read?_bind, hf.read?_nil, Option.bind_none], ?_⟩
  · intro text b rest hread
    rw [read?_bind, Option.bind_eq_some_iff] at hread
    obtain ⟨⟨a, mid⟩, hmid, hrest⟩ := hread
    obtain ⟨taken, rfl, hnext⟩ := hf.closed _ _ _ hmid
    obtain ⟨rfl, hnext'⟩ := hg a _ _ _ hrest
    refine ⟨taken, rfl, fun next => ?_⟩
    rw [read?_bind, hnext]
    exact hnext' next
  · intro text b hread
    rw [read?_bind, Option.bind_eq_some_iff] at hread
    obtain ⟨⟨a, mid⟩, hmid, hrest⟩ := hread
    obtain ⟨rfl, -⟩ := hg a _ _ _ hrest
    exact hf.getLast?_eq _ _ hmid

protected theorem ite {c : Prop} [Decidable c] {f g : Reader α} (hf : f.Enclosed)
    (hg : g.Enclosed) : (if c then f else g).Enclosed := by
  split
  · exact hf
  · exact hg

/-- A blank behind the value makes no difference to reading a whole text. -/
theorem toOption_run_append {reader : Reader α} (h : reader.Enclosed) {c : Char} (hc : isSpace c)
    (text : List Char) :
    (reader.run (.ofList (text ++ [c]))).toOption = (reader.run (.ofList text)).toOption := by
  have hblank (rest : List Char) :
      (rest ++ [c]).dropWhile isSpace = [] ↔ rest.dropWhile isSpace = [] := by
    rw [List.dropWhile_eq_nil_iff, List.dropWhile_eq_nil_iff, List.forall_mem_append,
      List.forall_mem_singleton]
    exact and_iff_left hc
  ext a
  simp only [toOption_run, String.toList_ofList, Option.bind_eq_some_iff, Prod.exists]
  constructor
  · rintro ⟨value, rest, hread, hrest⟩
    obtain ⟨taken, htext, hnext⟩ := h.closed _ _ _ hread
    rcases List.eq_nil_or_concat' rest with rfl | ⟨rest, d, rfl⟩
    · -- The value would have taken the blank.
      have hlast := h.getLast?_eq _ _ hread c (by simp)
      rw [hc] at hlast
      cases hlast
    · rw [← List.append_assoc] at htext
      obtain ⟨rfl, hd⟩ := List.append_inj' htext rfl
      obtain rfl := List.singleton_inj.1 hd
      exact ⟨value, rest, hnext rest, by simpa only [hblank] using hrest⟩
  · rintro ⟨value, rest, hread, hrest⟩
    exact ⟨value, rest ++ [c], h.closed.read?_append hread [c], by simpa only [hblank] using hrest⟩

end Enclosed

theorem enclosed_endList : endList.Enclosed := by
  have hend {text rest : List Char} {a : Unit} (hread : endList.read? text = some (a, rest)) :
      text.dropWhile isSpace = ']' :: rest := by
    simp only [endList, read?_bind, read?_token?, Option.bind_some] at hread
    cases htext : text.dropWhile isSpace with
    | nil => simp [htext] at hread
    | cons c text =>
      simp only [htext, List.head?_cons] at hread
      split at hread
      · next hc =>
        obtain rfl : c = ']' := Option.some.inj hc
        simpa using hread
      · simp only [read?_bind, read?_skip, read?_token?, Option.bind_some] at hread
        split at hread <;> simp at hread
      · simp at hread
      · simp at hread
  have htext {text rest : List Char} {a : Unit} (hread : endList.read? text = some (a, rest)) :
      text = text.takeWhile isSpace ++ ']' :: rest := by
    rw [← hend hread, List.takeWhile_append_dropWhile]
  refine ⟨fun text a rest hread => ?_, rfl, fun text a hread c hc => ?_⟩
  · refine ⟨text.takeWhile isSpace ++ [']'], ?_, fun next => ?_⟩
    · rw [List.append_assoc]
      exact htext hread
    · have hnext : (text.takeWhile isSpace ++ ']' :: next).dropWhile isSpace = ']' :: next :=
        dropWhile_takeWhile_append (by rw [hend hread]; rfl)
      rw [List.append_assoc, List.singleton_append]
      simp [endList, hnext]
  · rw [htext hread, List.getLast?_append_of_ne_nil _ (List.cons_ne_nil _ _)] at hc
    obtain rfl := Option.some.inj hc
    rfl

theorem enclosed_items {item : Reader α} (hitem : item.Steady) (hbusy : item.Busy) :
    (items item).Enclosed := by
  have hfold : ((get : Reader (List Char)) >>= fun fuel =>
      foldItems (fun acc => return (← item) :: acc) fuel true []).Steady :=
    .fueled (fun fuel => steady_foldItems (fun acc => hitem.bind fun a => .pure _) fuel true [])
      fun fuel fuel' =>
        foldItems_extends (fun acc => hbusy.bind fun a => .pure _) fuel fuel' true []
  rw [items, ← bind_assoc]
  exact .after hfold fun _ => enclosed_endList.bind fun _ => .pure _

section

variable {step : α → Reader α} (hstep : ∀ acc, (step acc).Steady) (hbusy : ∀ acc, (step acc).Busy)

include hstep hbusy

/-- An object is closed by a bracket, so nothing after it is looked at. -/
theorem enclosed_members (start : α) : (members step start).Enclosed := by
  have hfold : ((get : Reader (List Char)) >>= fun fuel =>
      foldMembers step fuel true start).Steady :=
    .fueled (fun fuel => steady_foldMembers hstep fuel true start)
      fun fuel fuel' => foldMembers_extends hbusy fuel fuel' true start
  have hend {text rest : List Char} {a : α}
      (hread : (members step start).read? text = some (a, rest)) :
      ((get : Reader (List Char)) >>= fun fuel => foldMembers step fuel true start).read? text =
        some (a, '\x7d' :: rest) := by
    rw [members, ← bind_assoc, read?_bind, Option.bind_eq_some_iff] at hread
    obtain ⟨⟨acc, mid⟩, hmid, hrest⟩ := hread
    obtain ⟨rfl, rfl⟩ : acc = a ∧ mid.tail = rest := by simpa using hrest
    have hclose : mid.head? = some '\x7d' := by
      rw [read?_bind, read?_get, Option.bind_some] at hmid
      exact head?_foldMembers hmid
    rw [hmid, List.eq_cons_of_mem_head? hclose, List.tail_cons]
  refine ⟨fun text a rest hread => ?_, rfl, fun text a hread c hc => ?_⟩
  · obtain ⟨taken, htext, hnext⟩ := hfold _ _ _ (hend hread)
    refine ⟨taken ++ ['\x7d'], by rw [htext, List.append_assoc]; rfl, fun next => ?_⟩
    rw [members, ← bind_assoc, read?_bind, List.append_assoc, List.singleton_append,
      hnext ('\x7d' :: next) rfl]
    rfl
  · obtain ⟨taken, rfl, -⟩ := hfold _ _ _ (hend hread)
    rw [List.getLast?_append_of_ne_nil _ (List.cons_ne_nil _ _)] at hc
    obtain rfl := Option.some.inj hc
    rfl

end

end CertaintyFactor.Json.Reader
