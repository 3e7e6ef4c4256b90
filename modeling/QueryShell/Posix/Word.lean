/-!
The words of a command line and their division into quoted and expanded parts.
-/

namespace QueryShell.Posix

inductive Unset where
  | useText
  | assignText
  | complain
  | useTextIfSet
deriving DecidableEq, Repr

inductive Part where
  | literal (text : List Char) (quoted : Bool)
  | parameter (name : String) (quoted : Bool)
  | guarded (name : String) (action : Unset) (emptyIsUnset : Bool) (text : List Char)
      (quoted : Bool)
  | length (name : String) (quoted : Bool)
  | arithmetic (expression : List Char) (quoted : Bool)
  | output (line : List Char) (quoted : Bool)
deriving DecidableEq, Repr

abbrev Word := List Part

inductive SyntaxError where
  | unterminatedQuote
  | unterminatedBackquote
  | unterminatedBrace
  | unterminatedParenthesis
  | unterminatedArithmetic
  | badLoopVariable
  | badSubstitution
  | unexpected (token : String) (expected : Option String)
deriving DecidableEq, Repr

namespace SyntaxError

def message : SyntaxError → String
  | unterminatedQuote => "Syntax error: Unterminated quoted string"
  | unterminatedBackquote => "Syntax error: EOF in backquote substitution"
  | unterminatedBrace => "Syntax error: Missing '\x7d'"
  | unterminatedParenthesis => "Syntax error: end of file unexpected (expecting \")\")"
  | unterminatedArithmetic => "Syntax error: Missing '))'"
  | badLoopVariable => "Syntax error: Bad for loop variable"
  | badSubstitution => "Bad substitution"
  | unexpected token none => "Syntax error: " ++ token ++ " unexpected"
  | unexpected token (some expected) =>
      "Syntax error: " ++ token ++ " unexpected (expecting \"" ++ expected ++ "\")"

end SyntaxError

def isMeta (char : Char) : Bool :=
  char = ' ' || char = '\t' || char = '\n' || char = ';' || char = '&' || char = '|' ||
    char = '(' || char = ')' || char = '<' || char = '>'

def isNameStart (char : Char) : Bool := char.isAlpha || char = '_'

def isNamePart (char : Char) : Bool := char.isAlphanum || char = '_'

def cutClosing (depth : Nat) : List Char → Option (List Char × List Char)
  | [] => none
  | char :: rest =>
      if char = ')' && depth = 0 then some ([], rest)
      else
        let depth := if char = '(' then depth + 1 else if char = ')' then depth - 1 else depth
        (cutClosing depth rest).map fun (inside, after) => (char :: inside, after)

def cutAtChar (stop : Char) : List Char → Option (List Char × List Char)
  | [] => none
  | char :: rest =>
      if char = stop then some ([], rest)
      else (cutAtChar stop rest).map fun (inside, after) => (char :: inside, after)

def isSpecialName (char : Char) : Bool :=
  char.isDigit || char = '?' || char = '$' || char = '#' || char = '@' || char = '*' ||
    char = '!' || char = '-'

def unsetAction? : Char → Option Unset
  | '-' => some .useText
  | '=' => some .assignText
  | '?' => some .complain
  | '+' => some .useTextIfSet
  | _ => none

def bracedPart (quoted : Bool) (inside : List Char) : Except SyntaxError Part :=
  let name := inside.takeWhile isNamePart
  let guarded (emptyIsUnset : Bool) (mark : Char) (text : List Char) : Except SyntaxError Part :=
    match unsetAction? mark with
    | some action =>
        let text := text.filter fun char => !(char = '"' || char = '\x27')
        .ok (.guarded (String.ofList name) action emptyIsUnset text quoted)
    | none => .error .badSubstitution
  match name, inside.dropWhile isNamePart with
  | [], [char] =>
      if isSpecialName char then .ok (.parameter (String.singleton char) quoted)
      else .error .badSubstitution
  | [], '#' :: name =>
      if name.all isNamePart then .ok (.length (String.ofList name) quoted)
      else .error .badSubstitution
  | [], _ => .error .badSubstitution
  | name, [] => .ok (.parameter (String.ofList name) quoted)
  | _, ':' :: mark :: text => guarded true mark text
  | _, mark :: text => guarded false mark text

def readDollar (quoted : Bool) : List Char → Except SyntaxError (Part × List Char)
  | '(' :: '(' :: rest =>
      match cutClosing 0 rest with
      | some (inside, ')' :: after) => .ok (.arithmetic inside quoted, after)
      | _ => .error .unterminatedArithmetic
  | '(' :: rest =>
      match cutClosing 0 rest with
      | some (inside, after) => .ok (.output inside quoted, after)
      | none => .error .unterminatedParenthesis
  | '\x7b' :: rest =>
      match cutAtChar '\x7d' rest with
      | some (inside, after) => (bracedPart quoted inside).map fun part => (part, after)
      | none => .error .unterminatedBrace
  | char :: rest =>
      if isNameStart char then
        .ok (.parameter (String.ofList (char :: rest.takeWhile isNamePart)) quoted,
          rest.dropWhile isNamePart)
      else if isSpecialName char then .ok (.parameter (String.singleton char) quoted, rest)
      else .ok (.literal ['$'] quoted, char :: rest)
  | [] => .ok (.literal ['$'] quoted, [])

def readDoubleQuoted : Nat → List Char → Except SyntaxError (Word × List Char)
  | 0, _ => .error .unterminatedQuote
  | _, [] => .error .unterminatedQuote
  | fuel + 1, char :: rest => do
      if char = '"' then return ([], rest)
      let (part, rest) ← match char, rest with
        | '\\', escaped :: after =>
            if escaped = '\n' then .ok (.literal [] true, after)
            else if escaped = '$' || escaped = '\x60' || escaped = '"' || escaped = '\\' then
              .ok (.literal [escaped] true, after)
            else .ok (.literal ['\\', escaped] true, after)
        | '$', _ => readDollar true rest
        | '\x60', _ =>
            match cutAtChar '\x60' rest with
            | some (inside, after) => .ok (.output inside true, after)
            | none => .error .unterminatedBackquote
        | _, _ => .ok (.literal [char] true, rest)
      let (parts, rest) ← readDoubleQuoted fuel rest
      return (part :: parts, rest)

def readWord : Nat → List Char → Except SyntaxError (Word × List Char)
  | 0, rest => .ok ([], rest)
  | _, [] => .ok ([], [])
  | fuel + 1, char :: rest => do
      if isMeta char then return ([], char :: rest)
      let (part, rest) ← match char, rest with
        | '\x27', _ =>
            match cutAtChar '\x27' rest with
            | some (inside, after) => .ok ([Part.literal inside true], after)
            | none => .error .unterminatedQuote
        | '"', _ => do
            let (parts, after) ← readDoubleQuoted (rest.length + 1) rest
            .ok (Part.literal [] true :: parts, after)
        | '\\', escaped :: after =>
            .ok (if escaped = '\n' then [] else [Part.literal [escaped] true], after)
        | '$', _ => do
            let (part, after) ← readDollar false rest
            .ok ([part], after)
        | '\x60', _ =>
            match cutAtChar '\x60' rest with
            | some (inside, after) => .ok ([Part.output inside false], after)
            | none => .error .unterminatedBackquote
        | _, _ => .ok ([Part.literal [char] false], rest)
      let (parts, rest) ← readWord fuel rest
      return (part ++ parts, rest)

end QueryShell.Posix
