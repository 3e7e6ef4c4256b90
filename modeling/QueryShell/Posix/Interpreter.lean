import QueryShell.Posix.Arithmetic
import QueryShell.Posix.Utilities

/-!
The execution of command lines on a tree of files.
-/

namespace QueryShell.Posix

open Files

abbrev Substitution := List Char → State → ByteArray × State

namespace Expansion

abbrev Marked := Char × Bool

structure Fields where
  complete : List (List Marked) := []
  current : Option (List Marked) := none

def Fields.add (text : List Char) (quoted : Bool) (fields : Fields) : Fields :=
  if text.isEmpty && !quoted then fields
  else
    let added := fields.current.getD [] ++ text.map fun char => (char, quoted)
    { fields with current := some added }

def Fields.cut (fields : Fields) : Fields :=
  match fields.current with
  | none => fields
  | some field => { complete := fields.complete ++ [field], current := none }

def Fields.addSplit (text : List Char) (fields : Fields) : Fields :=
  text.foldl (fun fields char =>
    if char = ' ' || char = '\t' || char = '\n' then fields.cut else fields.add [char] false) fields

def withoutFinalNewlines (text : List Char) : List Char :=
  (text.reverse.dropWhile (· = '\n')).reverse

def integerOf (state : State) (name : String) : Int :=
  (Format.numberOf (state.valueOf name).toList).value

def partText (substitute : Substitution) (part : Part) (state : State) :
    Except String (List Char × Bool × State) :=
  match part with
  | .literal text quoted => .ok (text, quoted, state)
  | .parameter name quoted => .ok ((state.valueOf name).toList, quoted, state)
  | .length name quoted => .ok ((toString (state.valueOf name).length).toList, quoted, state)
  | .guarded name action emptyIsUnset text quoted =>
      let value := (state.valueOf name).toList
      let isUnset := if emptyIsUnset then value.isEmpty else !state.isSet name
      match action with
      | .useText => .ok (if isUnset then text else value, quoted, state)
      | .useTextIfSet => .ok (if isUnset then [] else text, quoted, state)
      | .assignText =>
          if isUnset then .ok (text, quoted, state.assign name (String.ofList text))
          else .ok (value, quoted, state)
      | .complain =>
          if isUnset then
            .error (name ++ ": " ++
              if text.isEmpty then "parameter not set" else String.ofList text)
          else .ok (value, quoted, state)
  | .arithmetic expression quoted =>
      match Arithmetic.evaluate (integerOf state) expression with
      | .ok value => .ok ((toString value).toList, quoted, state)
      | .error fault => .error ("arithmetic expression: " ++ fault.message ++ ": \"" ++
          String.ofList expression ++ "\"")
  | .output line quoted =>
      let (bytes, state) := substitute line state
      .ok (withoutFinalNewlines (Text.decodeLossy bytes).toList, quoted, state)

def isExpansion : Part → Bool
  | .literal .. => false
  | _ => true

def expandParts (substitute : Substitution) (parts : Word) (fields : Fields) (state : State) :
    Except String (Fields × State) :=
  match parts with
  | [] => .ok (fields, state)
  | part :: rest => do
      let (text, quoted, state) ← partText substitute part state
      let fields :=
        if isExpansion part && !quoted then fields.addSplit text else fields.add text quoted
      expandParts substitute rest fields state

def suffixes : List Char → List (List Char)
  | [] => [[]]
  | char :: rest => (char :: rest) :: suffixes rest

inductive PatternItem where
  | anyText
  | anyChar
  | oneOf (negated : Bool) (ranges : List (Char × Char))
  | exactly (char : Char)
deriving DecidableEq, Repr

def readRanges (isFirst : Bool) : List Marked → Option (List (Char × Char) × List Marked)
  | [] => none
  | (char, quoted) :: ('-', false) :: (last, lastQuoted) :: rest =>
      if char = ']' && !quoted && !isFirst then
        some ([], ('-', false) :: (last, lastQuoted) :: rest)
      else if last = ']' && !lastQuoted then
        some ([(char, char), ('-', '-')], rest)
      else (readRanges false rest).map fun (ranges, after) => ((char, last) :: ranges, after)
  | (char, quoted) :: rest =>
      if char = ']' && !quoted && !isFirst then some ([], rest)
      else (readRanges false rest).map fun (ranges, after) => ((char, char) :: ranges, after)

def patternItems : Nat → List Marked → List PatternItem
  | 0, _ => []
  | _, [] => []
  | fuel + 1, (char, quoted) :: rest =>
      if quoted then .exactly char :: patternItems fuel rest
      else if char = '*' then .anyText :: patternItems fuel rest
      else if char = '?' then .anyChar :: patternItems fuel rest
      else if char = '[' then
        let negated := rest.head? = some ('!', false)
        match readRanges true (if negated then rest.tail else rest) with
        | some (ranges, after) => .oneOf negated ranges :: patternItems fuel after
        | none => .exactly char :: patternItems fuel rest
      else .exactly char :: patternItems fuel rest

def fits : List PatternItem → List Char → Bool
  | [], name => name.isEmpty
  | .anyText :: pattern, name => (suffixes name).any fun rest => fits pattern rest
  | _ :: _, [] => false
  | .anyChar :: pattern, _ :: name => fits pattern name
  | .exactly char :: pattern, first :: name => char = first && fits pattern name
  | .oneOf negated ranges :: pattern, first :: name =>
      let isIn := ranges.any fun (least, most) => least ≤ first && first ≤ most
      isIn != negated && fits pattern name

def pattern (field : List Marked) : List PatternItem := patternItems (field.length + 1) field

def isPattern (field : List Marked) : Bool :=
  (pattern field).any fun
    | .exactly _ => false
    | _ => true

def plain (field : List Marked) : String := String.ofList (field.map Prod.fst)

def paths (tree : Tree) (field : List Marked) : List String :=
  let last := (field.reverse.takeWhile fun (char, _) => char ≠ '/').reverse
  let directory := field.take (field.length - last.length)
  if !isPattern last then [plain field]
  else
    let base := if directory.isEmpty then .ok tree.current else tree.locate (plain directory)
    match base with
    | .error _ => [plain field]
    | .ok location =>
        let names := (tree.namesIn location).filter fun name =>
          fits (pattern last) name.toList && (name.toList.head? ≠ some '.' || last.head? = some ('.', false))
        let sorted := names.mergeSort fun left right => decide (left ≤ right)
        if sorted.isEmpty then [plain field]
        else sorted.map fun name => plain directory ++ name

def fields (substitute : Substitution) (word : Word) (state : State) :
    Except String (List String × State) := do
  let (fields, state) ← expandParts substitute word {} state
  return (fields.cut.complete.flatMap (paths state.tree), state)

def allFields (substitute : Substitution) (words : List Word) (state : State) :
    Except String (List String × State) :=
  match words with
  | [] => .ok ([], state)
  | word :: rest => do
      let (first, state) ← fields substitute word state
      let (others, state) ← allFields substitute rest state
      return (first ++ others, state)

def single (substitute : Substitution) (word : Word) (state : State) :
    Except String (String × State) :=
  match word with
  | [] => .ok ("", state)
  | part :: rest => do
      let (text, _, state) ← partText substitute part state
      let (others, state) ← single substitute rest state
      return (String.ofList text ++ others, state)

end Expansion

namespace Interpreter

def absolute (tree : Tree) (path : String) : String :=
  if Path.isAbsolute path then path else Path.join tree.currentPath path

def openFailure (kind : RedirectKind) (path : String) (error : FileError) : String :=
  let action := if kind = .read then "cannot open " else "cannot create "
  let reason := match error with
    | .notFound => if kind = .read then "No such file" else "Directory nonexistent"
    | other => Utility.reason other
  action ++ path ++ ": " ++ reason

def redirect (substitute : Substitution) (redirect : Redirect) (descriptors : Descriptors)
    (state : State) : Except (String × State) (Descriptors × State) := do
  let (path, state) ← match Expansion.single substitute redirect.target state with
    | .ok result => .ok result
    | .error message => .error (message, state)
  match redirect.kind with
  | .read =>
      match state.tree.read path with
      | .ok content => .ok (descriptors, { state with input := content })
      | .error error => .error (openFailure .read path error, state)
  | .write =>
      match state.tree.write path .empty with
      | .ok tree =>
          .ok ((redirect.descriptor, .file (absolute tree path)) :: descriptors,
            { state with tree := tree })
      | .error error => .error (openFailure .write path error, state)
  | .append =>
      match state.tree.append path .empty with
      | .ok tree =>
          .ok ((redirect.descriptor, .file (absolute tree path)) :: descriptors,
            { state with tree := tree })
      | .error error => .error (openFailure .append path error, state)
  | .duplicate =>
      if path = "-" then .ok ((redirect.descriptor, .nothing) :: descriptors, state)
      else match Decimal.natOfText? path.toList with
        | some number =>
            if number = 0 then .ok (descriptors, state)
            else match descriptors.lookup number with
              | some target => .ok ((redirect.descriptor, target) :: descriptors, state)
              | none => .error (path ++ ": Bad file descriptor", state)
        | none => .error ("Syntax error: Bad fd number", state)

def redirectAll (substitute : Substitution) (redirects : List Redirect)
    (descriptors : Descriptors) (state : State) :
    Except (String × State) (Descriptors × State) :=
  match redirects with
  | [] => .ok (descriptors, state)
  | first :: rest => do
      let (descriptors, state) ← redirect substitute first descriptors state
      redirectAll substitute rest descriptors state

def assignAll (substitute : Substitution) (assignments : List (String × Word)) (state : State) :
    Except String State :=
  match assignments with
  | [] => .ok state
  | (name, word) :: rest => do
      let (value, state) ← Expansion.single substitute word state
      assignAll substitute rest (state.assign name value)

def call (arguments : List String) (descriptors : Descriptors) (state : State) : State :=
  match arguments with
  | [] => state.withStatus 0
  | name :: arguments =>
      match Utility.named? name with
      | some utility => utility descriptors arguments state
      | none =>
          if '/' ∈ name.toList && state.tree.pathExists name then
            state.complain descriptors (name ++ ": Permission denied") 126
          else state.complain descriptors (name ++ ": not found") 127

def runSimple (substitute : Substitution) (assignments : List (String × Word))
    (words : List Word) (redirects : List Redirect) (descriptors : Descriptors) (state : State) :
    State :=
  match Expansion.allFields substitute words state with
  | .error message => (state.complain descriptors message 2).finish
  | .ok (arguments, state) =>
      let input := state.input
      match redirectAll substitute redirects descriptors state with
      | .error (message, state) => state.complain descriptors message 2
      | .ok (inner, state) =>
          match assignAll substitute assignments state with
          | .error message => (state.complain descriptors message 2).finish
          | .ok state =>
              let state := call arguments inner state
              if redirects.any fun redirect => redirect.kind = .read then
                { state with input := input }
              else state

/-- Runs a part of a command line on a copy of the state: of what it changes only files, output and
status stay. -/
def isolated (action : State → State) (state : State) : State :=
  let after := action state
  { after with
    tree := { after.tree with current := state.tree.current }
    «variables» := state.variables
    status := match after.ended with
      | some (.exited code) => code.toNat
      | _ => after.status
    ended := match after.ended with
      | some .signalled => some .signalled
      | _ => none }

def collecting (descriptors : Descriptors) (action : Descriptors → State → State) (state : State) :
    ByteArray × State :=
  let level := state.collected.length
  let state := { state with collected := state.collected ++ [.empty] }
  let after := isolated (action ((1, .collector level) :: descriptors)) state
  (after.collected.getD level .empty, { after with collected := after.collected.take level })

def unlessEnded (state : State) (action : State → State) : State :=
  if state.ended.isSome then state else action state

def run (substitute : Substitution) (command : Command) (descriptors : Descriptors)
    (state : State) : State :=
  match command with
  | .empty => state
  | .simple assignments words redirects =>
      runSimple substitute assignments words redirects descriptors state
  | .group apart body redirects =>
      match redirectAll substitute redirects descriptors state with
      | .error (message, state) => state.complain descriptors message 2
      | .ok (inner, state) =>
          if apart then isolated (run substitute body inner) state
          else run substitute body inner state
  | .pipe left right =>
      let input := state.input
      let (bytes, state) := collecting descriptors (run substitute left) state
      let state := unlessEnded { state with input := bytes } fun state =>
        isolated (run substitute right descriptors) state
      { state with input := input }
  | .choice condition whenTrue whenFalse =>
      let state := run substitute condition descriptors state
      unlessEnded state fun state =>
        if state.status = 0 then run substitute whenTrue descriptors state
        else run substitute whenFalse descriptors (state.withStatus 0)
  | .forEach name words body =>
      match Expansion.allFields substitute words state with
      | .error message => (state.complain descriptors message 2).finish
      | .ok (values, state) =>
          values.foldl (fun state value => unlessEnded state fun state =>
            run substitute body descriptors (state.assign name value)) (state.withStatus 0)
  | .negate command =>
      let state := run substitute command descriptors state
      unlessEnded state fun state => state.withStatus (if state.status = 0 then 1 else 0)
  | .both left right =>
      let state := run substitute left descriptors state
      unlessEnded state fun state =>
        if state.status = 0 then run substitute right descriptors state else state
  | .either left right =>
      let state := run substitute left descriptors state
      unlessEnded state fun state =>
        if state.status = 0 then state else run substitute right descriptors state
  | .sequence left right =>
      let state := run substitute left descriptors state
      unlessEnded state fun state => run substitute right descriptors state

def runLine : Nat → List Char → Descriptors → State → State
  | 0, _, _, state => state
  | depth + 1, line, descriptors, state =>
      match Command.ofLine line with
      | .error error => (state.complain descriptors error.message 2).finish
      | .ok command =>
          let substitute (inner : List Char) (state : State) : ByteArray × State :=
            collecting descriptors (fun descriptors state => runLine depth inner descriptors state)
              state
          run substitute command descriptors state

def child (line : String) (tree : Tree) : Child × Tree :=
  let chars := line.toList
  let state := runLine (chars.length + 1) chars initialDescriptors { tree }
  let status := match state.ended with
    | some status => status
    | none => .exited state.status
  ({ beforeEnd := state.output.reverse, status := .ok status },
    { state.tree with current := tree.current })

end Interpreter

end QueryShell.Posix
