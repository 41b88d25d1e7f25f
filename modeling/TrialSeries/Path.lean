import TrialSeries.Text.Split

/-!
# Paths

A path is read as its components. Repeated slashes count as one, a single dot counts only at the
very start of a path without a root, and neither a double dot nor the root is a name.
-/

namespace TrialSeries.Path

inductive Component where
  | root
  | current
  | parent
  | normal (name : String)
deriving DecidableEq

/-- The component of one piece between slashes, if it is one. -/
def component? (piece : List Char) : Option Component :=
  match piece with
  | [] | ['.'] => none
  | ['.', '.'] => some .parent
  | name => some (.normal (String.ofList name))

def components (path : String) : List Component :=
  let pieces := Text.splitOn '/' path.toList
  let start : List Component := match path.toList with
    | '/' :: _ => [.root]
    | _ => if pieces.head? = some ['.'] then [.current] else []
  start ++ pieces.filterMap component?

/-- The name at the end of some components, if a name stands there. -/
def lastName? (components : List Component) : Option String :=
  match components.getLast? with
  | some (.normal name) => some name
  | _ => none

/-- The name at the end of a path. -/
def fileName? (path : String) : Option String := lastName? (components path)

/-- The name of the directory that a path leads to last. -/
def parentName? (path : String) : Option String := lastName? (components path).dropLast

end TrialSeries.Path
