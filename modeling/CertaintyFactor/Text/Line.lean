/-!
# Lines

A text is a row of lines, each ended by a newline; only the last one may lack it. A carriage return
just before the newline belongs to the line's end.
-/

set_option autoImplicit false

namespace CertaintyFactor.Text

/-- A line without the carriage return at its end. -/
def dropReturn (line : List Char) : List Char :=
  match line.reverse with
  | '\r' :: rest => rest.reverse
  | _ => line

/-- The lines of a text, the first of them begun by `line` in reverse order. -/
def linesFrom (line : List Char) : List Char → List (List Char)
  | [] => if line.isEmpty then [] else [line.reverse]
  | '\n' :: rest => dropReturn line.reverse :: linesFrom [] rest
  | c :: rest => linesFrom (c :: line) rest

/-- The lines of a text, without their ends. -/
def lines (text : List Char) : List (List Char) :=
  linesFrom [] text

/-- Whether a text is empty or its last line is ended. -/
def isTerminated (text : List Char) : Bool :=
  text.getLast? == none || text.getLast? == some '\n'

end CertaintyFactor.Text
