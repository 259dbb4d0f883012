import CertaintyFactor.Cli.Diagnose
import CertaintyFactor.Cli.Levels
import CertaintyFactor.Cli.Sessions
import CertaintyFactor.Cli.Validate
import CertaintyFactor.Settings.Load

/-!
# Running the program

A run reads its arguments, loads the settings, and carries out the command. It ends with 0 on
success, with 1 when the command fails, and with 2 when the arguments are no good.
-/

set_option autoImplicit false

namespace CertaintyFactor.Cli

/-- What a run depends on besides its arguments and the disk. -/
structure Surroundings where
  environment : Environment := []
  isTerminal : Bool := false
  /-- The identifier and the time of the session, should there be one. -/
  stamp : Session.Stamp

/-- What a run leaves behind. -/
structure Output where
  exitCode : UInt32 := 0
  report : Report := {}
deriving DecidableEq

def version : String := "cfdx 0.1.3"

/-- How the program is called. -/
def usage : List String :=
  ["Certainty factor diagnosis for expert rule catalogs", "",
    "Usage: cfdx [--config FILE] [-v] [--log-json] COMMAND", "", "Commands:",
    "  diagnose [-c FILE] [-s CODE[=CF]]... [--explain] [-f table|json] [--strict]",
    "           [--tie-break damage-id|rule-order] [--no-record]",
    "  validate [-c FILE] [-f table|json]", "  levels [-f table|json]",
    "  sessions [--store FILE] [-l] [-n COUNT] [-f table|json]", "  config"]

def haltOutput : Halt → Output
  | .fault =>
    { exitCode := 2
      report := { messages := "error: invalid arguments, see --help\n" } }
  | .stop "version" => { report := .line version }
  | .stop _ => { report := .lines usage }

def Ending.output (styles : Bool) (e : Ending) : Output :=
  match e.failure with
  | none => { report := e.report }
  | some reason => { exitCode := 1, report := e.report ++ .failure styles reason }

section

variable {m : Type → Type} [Monad m] [Disk m]

def Command.run (styles : Bool) (stamp : Session.Stamp) (settings : Settings) :
    Command → m Ending
  | .diagnose request => request.run styles stamp settings
  | .validate catalog format => Validate.run styles settings catalog format
  | .levels format => return { report := Levels.report styles format }
  | .sessions request => request.run styles settings
  | .config => return { report := .json settings.toJson }

/-- Carries out a request with the settings that it and the environment ask for. -/
def Request.run (styles : Bool) (surroundings : Surroundings) (request : Request) : m Ending := do
  match ← Settings.load request.config surroundings.environment with
  | .error e => return .failed (.settings e)
  | .ok settings =>
    let settings := { settings with logJson := request.logJson || settings.logJson }
    request.command.run styles surroundings.stamp settings

def run (surroundings : Surroundings) (arguments : List String) : m Output := do
  let styles := showsStyles surroundings.environment surroundings.isTerminal
  match Request.parse surroundings.environment arguments with
  | .error halt => return haltOutput halt
  | .ok request => return (← request.run styles surroundings).output styles

end

end CertaintyFactor.Cli
