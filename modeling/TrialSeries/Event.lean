import TrialSeries.Text.Characters
import TrialSeries.Text.Quoted

/-!
# Log events

While it works the program reports events. Each has a level, and only events up to a chosen level
are shown, without the control characters that a terminal would obey.
-/

namespace TrialSeries

inductive Level where
  | error
  | warn
  | info
  | debug
deriving DecidableEq

namespace Level

def name : Level → String
  | error => "ERROR"
  | warn => "WARN"
  | info => "INFO"
  | debug => "DEBUG"

/-- How much a level shows; a higher level shows the lower ones too. -/
def detail : Level → Nat
  | error => 0
  | warn => 1
  | info => 2
  | debug => 3

end Level

structure Event where
  level : Level
  text : String
deriving DecidableEq

namespace Event

/-- The event on one line of the log. -/
def line (event : Event) : String := event.level.name ++ " " ++ event.text

/-- A character as a terminal may show it: controls that could steer it are written by their
code. -/
def terminalForm (char : Char) : List Char :=
  if char ∈ ['\x07', '\x08', '\x0c', '\x1b', '\x7f'] then
    '\\' :: 'x' :: Text.hexByte char.toNat
  else if 0x80 ≤ char.toNat ∧ char.toNat < 0xa0 then Text.codePointEscape char
  else [char]

/-- The event as it is shown on a terminal. -/
def terminalLine (event : Event) : String :=
  String.ofList (event.line.toList.flatMap terminalForm)

/-- The events that a level shows. -/
def shownAt (level : Level) (events : List Event) : List Event :=
  events.filter fun event ↦ event.level.detail ≤ level.detail

end Event

end TrialSeries
