import CertaintyFactor.Environment
import CertaintyFactor.Level

/-!
# Styles of terminal text

A style is turned on by a control sequence before a text and off by another one after it. Where a
text holds the sequence that turns styles off, its own style is turned on again.
-/

set_option autoImplicit false

namespace CertaintyFactor.Cli

inductive Style where
  | bold
  | dimmed
  | red
  | green
  | yellow
deriving DecidableEq, Repr

namespace Style

/-- The number of a style in control sequences. -/
def code : Style → String
  | bold => "1"
  | dimmed => "2"
  | red => "31"
  | green => "32"
  | yellow => "33"

def ofTier : Tier → Style
  | .tier1 => green
  | .tier2 => yellow
  | .tier3 => red
  | .tier4 => dimmed

/-- The control sequence that turns some styles on. -/
def start (styles : List Style) : String :=
  "\x1b[" ++ ";".intercalate (styles.map code) ++ "m"

def reset : String := "\x1b[0m"

end Style

/-- A text in some styles, or as it is where styles are not shown. -/
def styled (shown : Bool) (styles : List Style) (text : String) : String :=
  if shown then
    let start := Style.start styles
    start ++ text.replace Style.reset (Style.reset ++ start) ++ Style.reset
  else text

/-- Whether a variable is set to anything but zero, if it is set. -/
def isOn? (environment : Environment) (name : String) : Option Bool :=
  (environment.lookup name).map (· ≠ "0")

/-- Whether styles are shown: a variable can force them or turn them off, otherwise a terminal shows
them. -/
def showsStyles (environment : Environment) (isTerminal : Bool) : Bool :=
  if isOn? environment "CLICOLOR_FORCE" = some true then true
  else if (isOn? environment "NO_COLOR").isSome then false
  else isTerminal && (isOn? environment "CLICOLOR").getD true

end CertaintyFactor.Cli
