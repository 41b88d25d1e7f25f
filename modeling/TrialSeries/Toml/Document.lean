import TrialSeries.Toml.Value

/-!
# TOML documents

A document is a sequence of lines: the header of a table, the header of an item of an array of
tables, or a pair. The pairs before the first header belong to the table of the whole document, all
other pairs to the header above them.
-/

namespace TrialSeries.Toml

/-- What a line of a document says. -/
inductive Statement where
  | header (path : KeyPath)
  | itemHeader (path : KeyPath)
  | pair (path : KeyPath) (data : Data)

/-- A header with the pairs below it. -/
structure Section where
  path : KeyPath
  /-- The header adds an item to an array of tables. -/
  isItem : Bool
  pairs : List (KeyPath × Data)

structure Document where
  /-- The pairs above the first header. -/
  pairs : List (KeyPath × Data)
  sections : List Section

/-! ## Reading -/

def header? (chars : List Char) : Option (Statement × List Char) := do
  let (path, rest) ← keyPath? chars
  some (.header path, ← after? ']' rest)

def itemHeader? (chars : List Char) : Option (Statement × List Char) := do
  let (path, rest) ← keyPath? chars
  some (.itemHeader path, ← after? ']' (← after? ']' rest))

def statement? : List Char → Option (Statement × List Char)
  | '[' :: '[' :: rest => itemHeader? rest
  | '[' :: rest => header? rest
  | chars => (pair? chars).map fun ((path, data), rest) ↦ (.pair path data, rest)

namespace Document

/-- The document with a statement before all others. -/
def prepend (statement : Statement) (document : Document) : Document :=
  match statement with
  | .header path => ⟨[], ⟨path, false, document.pairs⟩ :: document.sections⟩
  | .itemHeader path => ⟨[], ⟨path, true, document.pairs⟩ :: document.sections⟩
  | .pair path data => { document with pairs := (path, data) :: document.pairs }

/-- The document of a text. Each line uses one unit of fuel, and one more than the length of the
text is enough. -/
def ofLines? : Nat → List Char → Option Document
  | 0, _ => none
  | fuel + 1, chars =>
    match skipSpaces chars with
    | [] => some ⟨[], []⟩
    | chars => match afterLine? chars with
      | some rest => ofLines? fuel rest
      | none => do
        let (statement, rest) ← statement? chars
        let below ← ofLines? fuel (← afterLine? rest)
        some (below.prepend statement)

/-- A byte order mark may stand at the start of a text. -/
def dropByteOrderMark : List Char → List Char
  | '\ufeff' :: rest => rest
  | chars => chars

def read (text : String) : Option Document :=
  let chars := dropByteOrderMark text.toList
  ofLines? (chars.length + 1) chars

end Document

/-! ## The table of a document -/

/-- Adds a section to the table of a document. -/
def Table.addSection (table : Table) (part : Section) : Option Table :=
  let add := if part.isItem then Table.append else Table.define
  alterAt .header (fun _ ↦ add part.path.last part.pairs) part.path.steps .defined table

def Document.table? (document : Document) : Option Table := do
  let table ← Table.addPairs [] document.pairs
  document.sections.foldlM Table.addSection table

/-- The data of a TOML text. -/
def read (text : String) : Option Data := do
  let table ← (← Document.read text).table?
  some table.toData

end TrialSeries.Toml
