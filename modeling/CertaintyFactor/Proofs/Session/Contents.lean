import CertaintyFactor.Proofs.Json.Line
import CertaintyFactor.Proofs.Session.Record
import CertaintyFactor.Session.Store

/-!
# Contents of stores

The records of a store's text, put together from those of its lines: what was written for a record
adds the record that its line is read as, if it is read as one, and nothing else.
-/

set_option autoImplicit false

namespace CertaintyFactor.Session

namespace Record

theorem isLine_line (r : Record) : Text.IsLine r.line.toList := by
  rw [toList_line]
  exact Json.isLine_compactChars r.toJson

theorem isWritten_line (r : Record) : isWritten r.line.toList := by
  rw [toList_line]
  rfl

end Record

namespace Contents

/-- The record that a line is read as, if it is one. -/
def recordOf? (line : List Char) : Option Record :=
  if isWritten line then (Record.parse (.ofList line)).toOption else none

theorem recordsOf_eq_filterMap (text : String) :
    recordsOf text = (Text.lines text.toList).filterMap recordOf? := by
  rw [recordsOf, List.filterMap_filter]
  rfl

/-- A carriage return at the end of a line makes no difference. -/
theorem recordOf?_dropReturn (line : List Char) :
    recordOf? (Text.dropReturn line) = recordOf? line := by
  unfold Text.dropReturn
  split
  · next rest hrest =>
    have hline : line = rest.reverse ++ ['\r'] := by
      rw [← List.reverse_reverse line, hrest, List.reverse_cons]
    have hwritten : isWritten (rest.reverse ++ ['\r']) = isWritten rest.reverse := by
      rw [isWritten, isWritten, List.all_append]
      exact congrArg not (Bool.and_true _)
    rw [hline, recordOf?, recordOf?, hwritten, Record.toOption_parse_append rfl]
  · rfl

theorem recordsOf_append {s : String} (hs : Text.isTerminated s.toList) (t : String) :
    recordsOf (s ++ t) = recordsOf s ++ recordsOf t := by
  simp only [recordsOf, String.toList_append, Text.lines_append hs, List.filter_append,
    List.filterMap_append]

/-- Ending the last line adds no record. -/
theorem recordsOf_append_newline (s : String) : recordsOf (s ++ "\n") = recordsOf s := by
  have hnewline : "\n".toList = ['\n'] := rfl
  by_cases hs : Text.isTerminated s.toList
  · rw [recordsOf_append hs]
    exact List.append_nil _
  · obtain ⟨before, last, hbefore, hlast⟩ := Text.lines_append_newline hs
    rw [recordsOf_eq_filterMap, recordsOf_eq_filterMap, String.toList_append, hnewline, hbefore,
      hlast, List.filterMap_append, List.filterMap_append, List.filterMap_cons,
      List.filterMap_cons, recordOf?_dropReturn]

theorem recordsOf_line (r : Record) :
    recordsOf (r.line ++ "\n") = (Record.parse r.line).toOption.toList := by
  have hnewline : "\n".toList = ['\n'] := rfl
  rw [recordsOf, String.toList_append, hnewline, r.isLine_line.lines_ended,
    List.filter_cons_of_pos r.isWritten_line, List.filter_nil, List.filterMap_cons,
    String.ofList_toList]
  cases (Record.parse r.line).toOption <;> rfl

/-- A text on one line that is no record has none. -/
theorem recordsOf_of_isLine {s : String} (hs : Text.IsLine s.toList)
    (hparse : (Record.parse s).toOption = none) : recordsOf s = [] := by
  rw [recordsOf, hs.lines]
  split
  · rfl
  · rw [List.filterMap_eq_nil_iff]
    intro line hline
    obtain rfl : line = s.toList := by simpa using List.mem_of_mem_filter hline
    rw [String.ofList_toList]
    exact hparse

end Contents

/-- The text of a store to which just these records were added. -/
def storeText (rs : List Record) : String :=
  String.join (rs.map fun r => r.line ++ "\n")

theorem storeText_cons (r : Record) (rs : List Record) :
    storeText (r :: rs) = r.line ++ "\n" ++ storeText rs := by
  simp [storeText, String.join_cons]

theorem isTerminated_line (r : Record) : Text.isTerminated (r.line ++ "\n").toList := by
  rw [String.toList_append]
  exact Text.isTerminated_append_newline _

theorem isTerminated_storeText (rs : List Record) : Text.isTerminated (storeText rs).toList := by
  induction rs with
  | nil => rfl
  | cons r rs ih =>
    rw [storeText_cons, String.toList_append]
    exact Text.isTerminated_append (isTerminated_line r) ih

theorem recordsOf_storeText (rs : List Record) :
    Contents.recordsOf (storeText rs) = rs.filterMap fun r => (Record.parse r.line).toOption := by
  induction rs with
  | nil => rfl
  | cons r rs ih =>
    rw [storeText_cons, Contents.recordsOf_append (isTerminated_line r), Contents.recordsOf_line,
      ih, List.filterMap_cons]
    cases (Record.parse r.line).toOption <;> rfl

end CertaintyFactor.Session
