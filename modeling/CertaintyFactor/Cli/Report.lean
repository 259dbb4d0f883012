import CertaintyFactor.Cli.Error
import CertaintyFactor.Cli.Style
import CertaintyFactor.Cli.Table
import CertaintyFactor.Json.Write

/-!
# Reports

What a command writes: its answer, and messages beside it. Reports are put together from lines.
-/

set_option autoImplicit false

namespace CertaintyFactor.Cli

/-- What a command writes. -/
structure Report where
  answer : String := ""
  messages : String := ""
deriving DecidableEq, Repr

namespace Report

instance : Append Report :=
  ⟨fun a b => ⟨a.answer ++ b.answer, a.messages ++ b.messages⟩⟩

def join (reports : List Report) : Report :=
  reports.foldl (· ++ ·) {}

def line (text : String) : Report :=
  { answer := text ++ "\n" }

def lines (texts : List String) : Report :=
  join (texts.map line)

def json (document : Json) : Report :=
  line document.pretty

section

variable (styles : Bool)

/-- Rows under a header, or a word when there are none. -/
def table (header : List String) (rows : List (List String)) : Report :=
  if rows.isEmpty then line (styled styles [.dimmed] "No results")
  else lines (Table.lines header rows)

def success (text : String) : Report :=
  line (styled styles [.green] "✓" ++ " " ++ text)

def warning (text : String) : Report :=
  { messages := styled styles [.yellow] "⚠" ++ " " ++ text ++ "\n" }

def failure (e : Error) : Report :=
  { messages := styled styles [.red] "✗" ++ " " ++ e.message ++ "\n" }

end

end Report

/-- How a command ends: what it has written, and why it failed if it did. -/
structure Ending where
  report : Report := {}
  failure : Option Error := none
deriving DecidableEq

def Ending.failed (e : Error) : Ending :=
  { failure := some e }

end CertaintyFactor.Cli
