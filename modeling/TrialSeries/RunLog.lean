import TrialSeries.Block
import TrialSeries.Event
import TrialSeries.Extraction

/-!
# Reading run logs

A run log is a sequence of blocks: a line `settings:…` opens a block, and each line `name:v1,v2,…`
after it records values of a metric. Blank lines say nothing, and metric lines before the first
settings line are read but belong to no block. Lines are counted from one.
-/

namespace TrialSeries.RunLog

/-- The name of the line that opens a block. -/
def settingsName : String := "settings"

/-- What a line of a log says. -/
inductive Entry where
  | blank
  | opens (axis : Axis)
  | records (name : String) (values : List Binary64)
deriving DecidableEq

/-- The meaning of a line under an extraction rule. -/
def readLine (rule : Extraction) (number : Nat) (line : List Char) : Except LogError Entry :=
  let line := Text.trim line
  if line = [] then .ok .blank
  else match Text.cutAt ':' line with
    | none => .error (.missingSeparator number (String.ofList line))
    | some (name, payload) =>
      let name := String.ofList name
      if name = settingsName then (rule.extract payload number).map .opens
      else (NumberList.read ',' name number payload).map (.records name)

/-- The meaning of all lines, the first of them having the given number; the first bad line is
the one reported. -/
def readLines (rule : Extraction) (number : Nat) :
    List (List Char) → Except LogError (List Entry)
  | [] => .ok []
  | line :: rest =>
    match readLine rule number line with
    | .error error => .error error
    | .ok entry => (readLines rule (number + 1) rest).map (entry :: ·)

/-- The blocks of a log so far, the last one first, and the metric lines before the first block. -/
structure Progress where
  blocks : List Block
  orphans : Nat

/-- Takes one line into account. -/
def Progress.step (progress : Progress) : Entry → Progress
  | .blank => progress
  | .opens axis => { progress with blocks := .start axis :: progress.blocks }
  | .records name values =>
    match progress.blocks with
    | [] => { progress with orphans := progress.orphans + 1 }
    | block :: earlier => { progress with blocks := block.record name values :: earlier }

/-- What a log amounts to after its last line. -/
def progressOf (entries : List Entry) : Progress := entries.foldl Progress.step ⟨[], 0⟩

/-- The blocks of a log in their order. -/
def blocksOf (entries : List Entry) : List Block := (progressOf entries).blocks.reverse

/-- The blocks of a log given by its lines. -/
def parseLines (rule : Extraction) (lines : List (List Char)) : Except LogError (List Block) :=
  (readLines rule 1 lines).map blocksOf

/-- The blocks of a log held as one text. -/
def parse (rule : Extraction) (text : String) : Except LogError (List Block) :=
  parseLines rule (Text.lines text.toList)

/-! ## Events -/

/-- What is reported about the lines of a log that could be read. -/
def eventsOf (entries : List Entry) : List Event :=
  let progress := progressOf entries
  (if progress.orphans = 0 then []
  else [⟨.warn, "Skipped " ++ toString progress.orphans ++
    " metric line(s) appearing before the first settings line"⟩]) ++
  [⟨.debug, "Parsed " ++ toString progress.blocks.length ++ " block(s)"⟩]

/-- What is reported while a log is read; nothing if it cannot be read. -/
def lineEvents (rule : Extraction) (lines : List (List Char)) : List Event :=
  match readLines rule 1 lines with
  | .ok entries => eventsOf entries
  | .error _ => []

def events (rule : Extraction) (text : String) : List Event :=
  lineEvents rule (Text.lines text.toList)

end TrialSeries.RunLog
