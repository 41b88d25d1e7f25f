import TrialSeries.Toml.Moment
import TrialSeries.Toml.Number
import TrialSeries.Toml.Table

/-!
# Values in TOML

A value is a text, a truth value, a number, a moment, an array or an inline table. An array may run
over several lines and end in a comma; an inline table stands on one line and does not.
-/

namespace TrialSeries.Toml

/-- How deep arrays and inline tables may be nested in a value. -/
def nestingLimit : Nat := 79

def scalar? : List Char → Option (Data × List Char)
  | 't' :: 'r' :: 'u' :: 'e' :: rest => some (.boolean true, rest)
  | 'f' :: 'a' :: 'l' :: 's' :: 'e' :: rest => some (.boolean false, rest)
  | chars => match quotedText? chars with
    | some (content, rest) => some (.text (String.ofList content), rest)
    | none => moment? chars <|> number? chars

mutual

/-- The value at the start of a text. Each call uses one unit of fuel, and twice the length of the
text is enough; `room` is how deep values may still be nested. -/
def value? : Nat → Nat → List Char → Option (Data × List Char)
  | 0, _, _ => none
  | fuel + 1, room, '[' :: rest => match room with
    | 0 => none
    | room + 1 => (items? fuel room rest).map fun (items, rest) ↦ (.sequence items, rest)
  | fuel + 1, room, '\x7b' :: rest => match room with
    | 0 => none
    | room + 1 =>
      match skipSpaces rest with
      | '\x7d' :: rest => some (.record [], rest)
      | rest => do
        let (pairs, rest) ← pairs? fuel room rest
        let table ← Table.addPairs [] pairs
        some (table.toData, rest)
  | _ + 1, _, chars => scalar? chars

/-- The items of an array up to its closing bracket. -/
def items? : Nat → Nat → List Char → Option (List Data × List Char)
  | 0, _, _ => none
  | fuel + 1, room, chars => match skipLines chars.length chars with
    | ']' :: rest => some ([], rest)
    | rest => do
      let (item, rest) ← value? fuel room rest
      match skipLines rest.length rest with
      | ']' :: rest => some ([item], rest)
      | ',' :: rest => do
        let (more, rest) ← items? fuel room rest
        some (item :: more, rest)
      | _ => none

/-- The pairs of an inline table from the first one to its closing brace. -/
def pairs? : Nat → Nat → List Char → Option (List (KeyPath × Data) × List Char)
  | 0, _, _ => none
  | fuel + 1, room, chars => do
    let (path, rest) ← keyPath? chars
    let rest ← after? '=' rest
    let (data, rest) ← value? fuel room (skipSpaces rest)
    match skipSpaces rest with
    | '\x7d' :: rest => some ([(path, data)], rest)
    | ',' :: rest => do
      let (more, rest) ← pairs? fuel room rest
      some ((path, data) :: more, rest)
    | _ => none

end

/-- The pair of a key path and a value at the start of a text. -/
def pair? (chars : List Char) : Option ((KeyPath × Data) × List Char) := do
  let (path, rest) ← keyPath? chars
  let rest := skipSpaces (← after? '=' rest)
  let (data, rest) ← value? (2 * rest.length + 2) nestingLimit rest
  some ((path, data), rest)

end TrialSeries.Toml
