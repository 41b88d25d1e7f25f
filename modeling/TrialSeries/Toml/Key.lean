import TrialSeries.Toml.Quoted

/-!
# Keys in TOML

A key is bare, or a quoted text of one line. Keys with points between them are a path, and blanks
may stand around each of them.
-/

namespace TrialSeries.Toml

def isBareKeyChar (char : Char) : Bool :=
  char.isAlphanum || char = '_' || char = '-'

/-- The key at the start of a text. -/
def key? : List Char → Option (String × List Char)
  | '"' :: rest => (lineText? '"' rest).map fun (key, rest) ↦ (String.ofList key, rest)
  | '\'' :: rest => (lineText? '\'' rest).map fun (key, rest) ↦ (String.ofList key, rest)
  | chars =>
    let key := chars.takeWhile isBareKeyChar
    if key = [] then none else some (String.ofList key, chars.dropWhile isBareKeyChar)

/-- A path of keys is never empty: it is the steps before its last key, and that key. -/
structure KeyPath where
  steps : List String
  last : String
deriving DecidableEq

namespace KeyPath

def under (first : String) (path : KeyPath) : KeyPath := ⟨first :: path.steps, path.last⟩

/-- The path at the start of a text of at most so many keys, with the blanks around it. -/
def read? : Nat → List Char → Option (KeyPath × List Char)
  | 0, _ => none
  | room + 1, chars => do
    let (key, rest) ← key? (skipSpaces chars)
    match skipSpaces rest with
    | '.' :: rest =>
      let (path, rest) ← read? room rest
      some (path.under key, rest)
    | rest => some (⟨[], key⟩, rest)

end KeyPath

/-- The greatest number of keys in a path. -/
def pathLimit : Nat := 79

def keyPath? (chars : List Char) : Option (KeyPath × List Char) := KeyPath.read? pathLimit chars

end TrialSeries.Toml
