import QueryShell.Toml.Draft
import QueryShell.Toml.Scalar

/-!
Reading of whole documents: entries of keys and values, one a line, under the headers of tables.
-/

namespace QueryShell.Toml

namespace Document

def skipGaps (text : List Char) : List Char := text.dropWhile isGap

def skipLines (inComment : Bool) : List Char → List Char
  | [] => []
  | '\n' :: rest => skipLines false rest
  | '\x0d' :: '\n' :: rest => skipLines false rest
  | char :: rest =>
      if inComment then (if isTextual char then skipLines true rest else char :: rest)
      else if isGap char then skipLines false rest
      else if char = '#' then skipLines true rest
      else char :: rest

def lineEnd (text : List Char) : Option (List Char) :=
  let text := match skipGaps text with
    | '#' :: comment => comment.dropWhile isTextual
    | text => text
  match text with
  | [] => some []
  | '\n' :: rest => some rest
  | '\x0d' :: '\n' :: rest => some rest
  | _ => none

def simpleKey : Reader String := fun text =>
  match text with
  | '"' :: rest =>
      (Scalar.basic text.length rest).map fun (chars, rest) => (String.ofList chars, rest)
  | '\x27' :: rest => (Scalar.literal rest).map fun (chars, rest) => (String.ofList chars, rest)
  | _ =>
      let chars := text.takeWhile Quoting.isKeyPart
      if chars.isEmpty then none
      else some (String.ofList chars, text.dropWhile Quoting.isKeyPart)

def keysFrom : Nat → Reader (List String)
  | 0, _ => none
  | fuel + 1, text => do
      let (first, rest) ← simpleKey (skipGaps text)
      match skipGaps rest with
      | '.' :: rest => do
          let (others, rest) ← keysFrom fuel rest
          return (first :: others, rest)
      | rest => return ([first], rest)

def maxDepth : Nat := 79

def keys : Reader (List String) := keysFrom maxDepth

def assignment : Reader (List String) := fun text => do
  let (keys, rest) ← keys text
  let (_, rest) ← Scalar.character '=' rest
  return (keys, skipGaps rest)

mutual

def value : (fuel depth : Nat) → Reader Value
  | 0, _, _ => none
  | fuel + 1, depth, text =>
      match text with
      | '[' :: rest =>
          if depth = 0 then none
          else do
            let (items, rest) ← items fuel (depth - 1) (skipLines false rest)
            return (.array items, rest)
      | '\x7b' :: rest =>
          if depth = 0 then none
          else match skipGaps rest with
            | '\x7d' :: rest => some (.table [], rest)
            | rest => do
                let (entries, rest) ← entries fuel (depth - 1) [] rest
                return (.table (Draft.toEntries entries), rest)
      | text => Scalar.value text

def items : (fuel depth : Nat) → Reader (List Value)
  | 0, _, _ => none
  | fuel + 1, depth, text =>
      match text with
      | ']' :: rest => some ([], rest)
      | text => do
          let (item, rest) ← value fuel depth text
          match skipLines false rest with
          | ',' :: rest => do
              let (others, rest) ← items fuel depth (skipLines false rest)
              return (item :: others, rest)
          | ']' :: rest => return ([item], rest)
          | _ => none

def entries : (fuel depth : Nat) → Draft.Entries → Reader Draft.Entries
  | 0, _, _, _ => none
  | fuel + 1, depth, before, text => do
      let (keys, rest) ← assignment text
      let (value, rest) ← value fuel depth rest
      let found ← Draft.define value keys before
      match skipGaps rest with
      | ',' :: rest => entries fuel depth found rest
      | '\x7d' :: rest => return (found, rest)
      | _ => none

end

structure Reading where
  entries : Draft.Entries := []
  header : List String := []

def readHeader (text : List Char) (reading : Reading) : Option (Reading × List Char) := do
  let (path, rest) ← keys text
  let (_, rest) ← Scalar.character ']' rest
  let name ← path.getLast?
  let entries ← Draft.within (Draft.head name) path.dropLast reading.entries
  return ({ entries, header := path }, rest)

def readTables (text : List Char) (reading : Reading) : Option (Reading × List Char) := do
  let (path, rest) ← keys text
  let (_, rest) ← Scalar.character ']' rest
  let (_, rest) ← Scalar.character ']' rest
  let name ← path.getLast?
  let entries ← Draft.within (Draft.extend name) path.dropLast reading.entries
  return ({ entries, header := path }, rest)

def readEntry (text : List Char) (reading : Reading) : Option (Reading × List Char) := do
  let (keys, rest) ← assignment text
  let (value, rest) ← value (2 * text.length + 4) maxDepth rest
  let entries ← Draft.within (Draft.define value keys) reading.header reading.entries
  return ({ reading with entries }, rest)

def readLines : Nat → List Char → Reading → Option Reading
  | fuel, text, reading =>
      match skipGaps text, fuel with
      | [], _ => some reading
      | _, 0 => none
      | text, fuel + 1 => do
          let (reading, rest) ← match text with
            | '[' :: '[' :: rest => readTables rest reading
            | '[' :: rest => readHeader rest reading
            | '#' :: _ => some (reading, text)
            | '\n' :: _ => some (reading, text)
            | '\x0d' :: _ => some (reading, text)
            | _ => readEntry text reading
          readLines fuel (← lineEnd rest) reading

def ofText? (text : List Char) : Option (List (String × Value)) :=
  let text := match text with
    | '\uFEFF' :: rest => rest
    | text => text
  (readLines (text.length + 1) text {}).map fun reading => Draft.toEntries reading.entries

end Document

end QueryShell.Toml
