import DocSite.Toml.Key
import DocSite.Toml.Scalar
import DocSite.Toml.Table

/-!
# Values in TOML

A value is a scalar, an array between brackets or a table between
braces. Arrays may spread over lines, with comments, and end in a comma;
a table between braces stays on one line and does not.

Values nest at most `maxParts` deep, and this depth is what the readers
recurse on. Within one array or table they go on item by item; every
item is at least one character of the text, so the number of characters
left bounds their number (`items?`, `pairs?`).
-/

namespace DocSite.Toml

/-- **The items of an array**, up to and with the closing bracket, the
layout before the first one passed over already. -/
def items? (item : Reader Data) : (fuel : Nat) → Reader (List Data)
  | 0, _ => none
  | _ + 1, ']' :: rest => some ([], rest)
  | fuel + 1, text => do
    let (first, rest) ← item text
    match ← skipLayout false rest with
    | ']' :: rest => some ([first], rest)
    | ',' :: rest =>
      (items? item fuel (← skipLayout false rest)).map fun (more, rest) => (first :: more, rest)
    | _ => none

/-- A key, an equals sign and a value. -/
def pair? (value : Reader Data) (text : List Char) :
    Option ((List String × Data) × List Char) := do
  let (keys, rest) ← key? text
  match rest with
  | '=' :: rest =>
    let (value, rest) ← value (skipBlanks rest)
    some ((keys, value), rest)
  | _ => none

/-- **The pairs of a table between braces**, at least one, up to and with
the closing brace. -/
def pairs? (value : Reader Data) : (fuel : Nat) → Reader (List (List String × Data))
  | 0, _ => none
  | fuel + 1, text => do
    let (first, rest) ← pair? value text
    match skipBlanks rest with
    | '\x7d' :: rest => some ([first], rest)
    | ',' :: rest => (pairs? value fuel rest).map fun (more, rest) => (first :: more, rest)
    | _ => none

/-- **A value**, with arrays and tables nested no deeper than `depth`. -/
def value? : (depth : Nat) → Reader Data
  | 0, text =>
    match text with
    | '"' :: _ => (string? text).map fun (s, rest) => (.string (String.ofList s), rest)
    | '\'' :: _ => (string? text).map fun (s, rest) => (.string (String.ofList s), rest)
    | _ => plainScalar? text
  | depth + 1, text =>
    match text with
    | '"' :: _ => (string? text).map fun (s, rest) => (.string (String.ofList s), rest)
    | '\'' :: _ => (string? text).map fun (s, rest) => (.string (String.ofList s), rest)
    | '[' :: rest => do
      let rest ← skipLayout false rest
      (items? (value? depth) (rest.length + 1) rest).map fun (items, rest) => (.array items, rest)
    | '\x7b' :: rest =>
      match skipBlanks rest with
      | '\x7d' :: rest => some (.table [], rest)
      | rest => do
        let (pairs, rest) ← pairs? (value? depth) (rest.length + 1) rest
        let entries ← Entries.insertAll? pairs []
        some (.table (Node.entriesData entries), rest)
    | _ => plainScalar? text

end DocSite.Toml
