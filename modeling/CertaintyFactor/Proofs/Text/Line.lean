import CertaintyFactor.Text.Line

/-!
# Lines of a text put together

Where a text is ended by a newline, the lines of it and of what follows stand side by side. Where it
is not, a newline ends its last line. A text without line ends is one line, whether or not a newline
follows it.
-/

set_option autoImplicit false

namespace CertaintyFactor.Text

theorem isTerminated_iff {text : List Char} :
    isTerminated text ↔ text = [] ∨ text.getLast? = some '\n' := by
  simp [isTerminated]

theorem isTerminated_append_newline (text : List Char) : isTerminated (text ++ ['\n']) := by
  simp [isTerminated]

theorem isTerminated_append {s t : List Char} (hs : isTerminated s) (ht : isTerminated t) :
    isTerminated (s ++ t) := by
  rw [isTerminated_iff] at hs ht ⊢
  rcases ht with rfl | ht
  · simpa using hs
  · exact .inr (by simp [ht])

theorem linesFrom_cons_of_ne {c : Char} (hc : c ≠ '\n') (line rest : List Char) :
    linesFrom line (c :: rest) = linesFrom (c :: line) rest := by
  simp [linesFrom]

/-- The line that is begun has to end within `s`. -/
theorem linesFrom_append {line s : List Char} (hline : s = [] → line = []) (hs : isTerminated s)
    (t : List Char) : linesFrom line (s ++ t) = linesFrom line s ++ linesFrom [] t := by
  induction s generalizing line with
  | nil =>
    obtain rfl := hline rfl
    rfl
  | cons c s ih =>
    have htail (hne : s ≠ []) : isTerminated s := by
      rw [isTerminated_iff] at hs ⊢
      rcases hs with hs | hs
      · cases hs
      · rw [List.getLast?_cons_of_ne_nil hne] at hs
        exact .inr hs
    by_cases hc : c = '\n'
    · subst hc
      have hs' : isTerminated s := by
        cases s with
        | nil => rfl
        | cons d s => exact htail nofun
      rw [List.cons_append, linesFrom, linesFrom, ih (fun _ => rfl) hs', List.cons_append]
    · have hne : s ≠ [] := by
        rintro rfl
        rcases isTerminated_iff.1 hs with hs | hs
        · cases hs
        · exact hc (Option.some.inj hs)
      rw [List.cons_append, linesFrom_cons_of_ne hc, linesFrom_cons_of_ne hc]
      exact ih (fun h => absurd h hne) (htail hne)

theorem lines_append {s : List Char} (hs : isTerminated s) (t : List Char) :
    lines (s ++ t) = lines s ++ lines t :=
  linesFrom_append (fun _ => rfl) hs t

theorem dropReturn_of_getLast? {line : List Char} (h : line.getLast? ≠ some '\r') :
    dropReturn line = line := by
  unfold dropReturn
  split
  · next rest hrest =>
    rw [List.getLast?_eq_head?_reverse, hrest] at h
    exact absurd rfl h
  · rfl

/-- The line that is begun goes on in `s` or is not empty, and does not end in a newline. -/
theorem linesFrom_append_newline {line s : List Char} (hline : line.reverse ++ s ≠ [])
    (hs : s.getLast? ≠ some '\n') : ∃ before last, linesFrom line s = before ++ [last] ∧
      linesFrom line (s ++ ['\n']) = before ++ [dropReturn last] := by
  -- The line that is begun grows with each character and is empty again after a newline.
  induction s generalizing line with
  | nil =>
    have hne : line ≠ [] := by
      rintro rfl
      exact hline rfl
    exact ⟨[], line.reverse, by simp [linesFrom, hne], rfl⟩
  | cons d s ih =>
    have hs' : s.getLast? ≠ some '\n' := by
      cases s with
      | nil => nofun
      | cons e s => rwa [List.getLast?_cons_cons] at hs
    by_cases hd : d = '\n'
    · subst hd
      cases s with
      | nil => exact absurd rfl hs
      | cons e s =>
        obtain ⟨before, last, hbefore, hlast⟩ := ih (by simp) hs'
        refine ⟨dropReturn line.reverse :: before, last, ?_, ?_⟩
        · rw [linesFrom, hbefore, List.cons_append]
        · rw [List.cons_append, linesFrom, hlast, List.cons_append]
    · rw [List.cons_append, linesFrom_cons_of_ne hd, linesFrom_cons_of_ne hd]
      exact ih (by simp) hs'

/-- Ending the last line of a text adds no line, and takes a carriage return off that line. -/
theorem lines_append_newline {s : List Char} (hs : ¬isTerminated s) :
    ∃ before last, lines s = before ++ [last] ∧
      lines (s ++ ['\n']) = before ++ [dropReturn last] := by
  rw [isTerminated_iff, not_or] at hs
  exact linesFrom_append_newline hs.1 hs.2

/-- A text without line ends. -/
def IsLine (line : List Char) : Prop :=
  ∀ c ∈ line, c ≠ '\n' ∧ c ≠ '\r'

instance (line : List Char) : Decidable (IsLine line) :=
  List.decidableBAll (fun c => c ≠ '\n' ∧ c ≠ '\r') line

theorem IsLine.append {s t : List Char} (hs : IsLine s) (ht : IsLine t) : IsLine (s ++ t) :=
  fun c hc => (List.mem_append.1 hc).elim (hs c) (ht c)

theorem IsLine.cons {c : Char} (hc : c ≠ '\n' ∧ c ≠ '\r') {line : List Char} (h : IsLine line) :
    IsLine (c :: line) :=
  fun d hd => (List.mem_cons.1 hd).elim (fun heq => heq ▸ hc) (h d)

theorem IsLine.of_append {line more : List Char} (h : IsLine (line ++ more)) : IsLine line :=
  fun c hc => h c (List.mem_append_left more hc)

theorem IsLine.getLast?_ne {line : List Char} (h : IsLine line) : line.getLast? ≠ some '\r' :=
  fun hlast => (h '\r' (List.mem_of_getLast? hlast)).2 rfl

theorem IsLine.linesFrom_append {line : List Char} (h : IsLine line) (begun rest : List Char) :
    linesFrom begun (line ++ rest) = linesFrom (line.reverse ++ begun) rest := by
  induction line generalizing begun with
  | nil => rfl
  | cons c line ih =>
    rw [List.cons_append, linesFrom_cons_of_ne (h c List.mem_cons_self).1,
      ih fun d hd => h d (List.mem_cons_of_mem c hd)]
    simp

theorem IsLine.lines {line : List Char} (h : IsLine line) :
    lines line = if line.isEmpty then [] else [line] := by
  have hrest := h.linesFrom_append [] []
  rw [List.append_nil, List.append_nil] at hrest
  rw [Text.lines, hrest, linesFrom]
  simp

theorem IsLine.lines_ended {line : List Char} (h : IsLine line) :
    Text.lines (line ++ ['\n']) = [line] := by
  rw [Text.lines, h.linesFrom_append, linesFrom, linesFrom, List.append_nil, List.reverse_reverse,
    dropReturn_of_getLast? h.getLast?_ne]
  rfl

end CertaintyFactor.Text
