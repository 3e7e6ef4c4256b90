import QueryShell.Environment
import QueryShell.Text.Blank

/-!
Files that define variables of the environment. An entry is a name, an equals sign and a value, in
which quotes, backslashes and references to other variables count. The first entry that cannot be
read ends the file, and variables that are set already keep their values.
-/

namespace QueryShell.Environment

namespace Definitions

inductive Open where
  | nothing
  | gap
  | escape
  | double
  | doubleEscape
  | single
  | singleEscape
deriving DecidableEq, Repr

def Open.after (char : Char) : Open → Open
  | nothing =>
      if Text.isBlank char && char ≠ '\n' && char ≠ '\x0d' then gap
      else if char = '\\' then escape
      else if char = '"' then double
      else if char = '\x27' then single
      else nothing
  | gap =>
      if char = '\\' then escape
      else if char = '"' then double
      else if char = '\x27' then single
      else nothing
  | escape => nothing
  | double =>
      if char = '\\' then doubleEscape else if char = '"' then nothing else double
  | doubleEscape => double
  | single =>
      if char = '\\' then singleEscape else if char = '\x27' then nothing else single
  | singleEscape => single

def scanLine (opened : Open) : List Char → List Char × Open
  | [] => ([], opened)
  | char :: rest =>
      if opened = .gap && char = '#' then ([], .nothing)
      else
        let (text, after) := scanLine (opened.after char) rest
        (char :: text, after)

def withEnds : List (List Char) → List (List Char)
  | [] => []
  | [last] => if last.isEmpty then [] else [last]
  | line :: rest => (line ++ ['\n']) :: withEnds rest

/-- Joins lines to entries: an entry goes on as long as something is open. The last entry is missing
if it is never closed. -/
def gather (before : List Char) (opened : Open) : List (List Char) → List (Option (List Char))
  | [] => if opened = .nothing then [] else [none]
  | line :: rest =>
      if (Text.trimStart (before ++ line)).head? = some '#' then gather [] .nothing rest
      else
        let (text, after) := scanLine opened line
        if after = .nothing then some (before ++ text) :: gather [] .nothing rest
        else gather (before ++ text) after rest

inductive Mode where
  | plain
  | double
  | single
  | escape (inDouble : Bool)
  | name (read : List Char) (inDouble : Bool)
  | braced (read : List Char) (inDouble : Bool)
  | ended

def Mode.outside (inDouble : Bool) : Mode := if inDouble then double else plain

def isNamePart (char : Char) : Bool :=
  char.isAlphanum || (128 ≤ char.toNat && !Text.isBlank char)

def value (lookup : List Char → List Char) : Mode → List Char → Option (List Char)
  | mode, [] =>
      match mode with
      | .plain => some []
      | .ended => some []
      | .escape inDouble => if inDouble then none else some []
      | .name read inDouble => if inDouble then none else some (lookup read)
      | .double => none
      | .single => none
      | .braced _ _ => none
  | .plain, char :: rest =>
      if char = '$' then value lookup (.name [] false) rest
      else if char = '\x27' then value lookup .single rest
      else if char = '"' then value lookup .double rest
      else if char = '\\' then value lookup (.escape false) rest
      else if char = ' ' || char = '\t' then value lookup .ended rest
      else (value lookup .plain rest).map (char :: ·)
  | .double, char :: rest =>
      if char = '$' then value lookup (.name [] true) rest
      else if char = '"' then value lookup .plain rest
      else if char = '\\' then value lookup (.escape true) rest
      else (value lookup .double rest).map (char :: ·)
  | .single, char :: rest =>
      if char = '\x27' then value lookup .plain rest
      else (value lookup .single rest).map (char :: ·)
  | .escape inDouble, char :: rest =>
      if char ∈ "\\'\"$ ".toList then
        (value lookup (Mode.outside inDouble) rest).map (char :: ·)
      else if char = 'n' then (value lookup (Mode.outside inDouble) rest).map ('\n' :: ·)
      else none
  | .name read inDouble, char :: rest =>
      if isNamePart char then value lookup (.name (read ++ [char]) inDouble) rest
      else if char = '\x7b' && read.isEmpty then value lookup (.braced [] inDouble) rest
      else if char = '$' then
        (value lookup (.name [] inDouble) rest).map (lookup read ++ ·)
      else (value lookup (Mode.outside inDouble) rest).map (lookup read ++ char :: ·)
  | .braced read inDouble, char :: rest =>
      if char = '\x7d' then (value lookup (Mode.outside inDouble) rest).map (lookup read ++ ·)
      else value lookup (.braced (read ++ [char]) inDouble) rest
  | .ended, char :: rest =>
      if char = ' ' || char = '\t' then value lookup .ended rest
      else if char = '#' then some []
      else none

def name? (text : List Char) : Option (List Char × List Char) :=
  let isPart (char : Char) : Bool := char.isAlphanum || char = '_' || char = '.'
  match text with
  | first :: _ =>
      if first.isAlpha || first = '_' then
        some (text.takeWhile isPart, Text.trimStart (text.dropWhile isPart))
      else none
  | [] => none

def assignment? (text : List Char) : Option (List Char × List Char) := do
  let (name, rest) ← name? text
  match rest with
  | '=' :: value => return (name, Text.trimStart value)
  | _ =>
      if name = "export".toList then
        match ← name? rest with
        | (name, '=' :: value) => return (name, Text.trimStart value)
        | _ => none
      else none

structure Loading where
  environment : Environment
  defined : List (String × String) := []

def Loading.lookup (loading : Loading) (name : List Char) : List Char :=
  let name := String.ofList name
  (((loading.environment.get? name).or (loading.defined.reverse.lookup name)).getD "").toList

def Loading.take? (loading : Loading) (entry : List Char) : Option Loading := do
  let text := Text.trim entry
  if text.isEmpty || text.head? = some '#' then return loading
  let (name, written) ← assignment? text
  let value ←
    if written.isEmpty || written.head? = some '#' then some []
    else value loading.lookup .plain written
  let definition := (String.ofList name, String.ofList value)
  let environment :=
    if (loading.environment.get? definition.1).isSome then loading.environment
    else loading.environment ++ [definition]
  return { environment, defined := loading.defined ++ [definition] }

def Loading.takeAll (loading : Loading) : List (Option (List Char)) → Loading
  | [] => loading
  | none :: _ => loading
  | some entry :: rest =>
      match loading.take? entry with
      | some loading => loading.takeAll rest
      | none => loading

end Definitions

def withDefinitions (text : String) (environment : Environment) : Environment :=
  let chars := match text.toList with
    | '\uFEFF' :: rest => rest
    | chars => chars
  let entries := Definitions.gather [] .nothing
    (Definitions.withEnds (Text.pieces (· = '\n') chars))
  (Definitions.Loading.takeAll { environment } entries).environment

end QueryShell.Environment
