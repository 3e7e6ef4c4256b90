import QueryShell.Posix.Word

/-!
The commands of a command line: simple commands with assignments and redirections, groups, pipelines
and lists.
-/

namespace QueryShell.Posix

inductive Token where
  | word (word : Word)
  | operator (text : String)
  | descriptor (number : Nat)
deriving DecidableEq, Repr

namespace Token

def operators : List String :=
  ["&&", "||", ";;", ">>", ">&", "<&", "<>", ">|", "<", ">", ";", "&", "|", "(", ")", "\n"]

def operatorOf? (text : List Char) : Option String :=
  operators.find? fun operator => operator.toList.isPrefixOf text

def plain? (word : Word) : Option (List Char) :=
  word.foldr (fun part rest => match part with
    | .literal text false => rest.map (text ++ ·)
    | _ => none) (some [])

def closers : List String := ["\x7d", "then", "else", "elif", "fi", "do", "done", "esac"]

def isWord (text : String) (token : Token) : Bool :=
  match token with
  | Token.word parts => plain? parts = some text.toList
  | _ => false

def isCloser (token : Token) : Bool := closers.any fun text => isWord text token

def describe (token : Token) : String :=
  match token with
  | .word parts =>
      match plain? parts with
      | some text => if token.isCloser then "\"" ++ String.ofList text ++ "\"" else "word"
      | none => "word"
  | .operator text => if text = "\n" then "newline" else "\"" ++ text ++ "\""
  | .descriptor _ => "word"

def scan : Nat → List Char → Except SyntaxError (List Token)
  | 0, _ => .ok []
  | _, [] => .ok []
  | fuel + 1, char :: rest => do
      if char = ' ' || char = '\t' then scan fuel rest
      else if char = '\\' && rest.head? = some '\n' then scan fuel (rest.drop 1)
      else if char = '#' then scan fuel (rest.dropWhile (· ≠ '\n'))
      else match operatorOf? (char :: rest) with
        | some text => do
            let tokens ← scan fuel ((char :: rest).drop text.length)
            return operator text :: tokens
        | none =>
            let digits := (char :: rest).takeWhile Char.isDigit
            let after := (char :: rest).dropWhile Char.isDigit
            if !digits.isEmpty && (after.head? = some '<' || after.head? = some '>') then do
              let tokens ← scan fuel after
              return descriptor (digits.foldl (fun value digit => 10 * value + (digit.toNat - 48)) 0)
                :: tokens
            else do
              let (parts, after) ← readWord (rest.length + 2) (char :: rest)
              let tokens ← scan fuel after
              return word parts :: tokens

end Token

inductive RedirectKind where
  | read
  | write
  | append
  | duplicate
deriving DecidableEq, Repr

structure Redirect where
  descriptor : Nat
  kind : RedirectKind
  target : Word
deriving DecidableEq, Repr

inductive Command where
  | empty
  | simple (assignments : List (String × Word)) (words : List Word) (redirects : List Redirect)
  | group (isolated : Bool) (body : Command) (redirects : List Redirect)
  | pipe (left right : Command)
  | negate (command : Command)
  | choice (condition whenTrue whenFalse : Command)
  | forEach (name : String) (words : List Word) (body : Command)
  | both (left right : Command)
  | either (left right : Command)
  | sequence (left right : Command)
deriving Repr

namespace Command

def assignment? (word : Word) : Option (String × Word) :=
  let rec scan (name : List Char) : Word → Option (String × Word)
    | .literal [char] false :: rest =>
        if char = '=' then
          if name.isEmpty then none else some (String.ofList name.reverse, rest)
        else if isNamePart char && !(name.isEmpty && char.isDigit) then scan (char :: name) rest
        else none
    | _ => none
  scan [] word

def redirectOf? (operator : String) : Option (Nat × RedirectKind) :=
  if operator = ">" || operator = ">|" then some (1, .write)
  else if operator = ">>" then some (1, .append)
  else if operator = ">&" then some (1, .duplicate)
  else if operator = "<" || operator = "<>" then some (0, .read)
  else if operator = "<&" then some (0, .duplicate)
  else none

def refuse {Answer : Type} (tokens : List Token) (expected : Option String) :
    Except SyntaxError Answer :=
  .error (.unexpected ((tokens.head?.map Token.describe).getD "end of file") expected)

def readRedirect : List Token → Except SyntaxError (Option (Redirect × List Token))
  | .descriptor number :: .operator text :: rest =>
      match redirectOf? text, rest with
      | some (_, kind), .word target :: after => .ok (some (⟨number, kind, target⟩, after))
      | _, rest => refuse rest none
  | .operator text :: rest =>
      match redirectOf? text, rest with
      | none, _ => .ok none
      | some (number, kind), .word target :: after => .ok (some (⟨number, kind, target⟩, after))
      | some _, rest => refuse rest none
  | _ => .ok none

def readRedirects : Nat → List Token → Except SyntaxError (List Redirect × List Token)
  | 0, tokens => .ok ([], tokens)
  | fuel + 1, tokens => do
      match ← readRedirect tokens with
      | none => return ([], tokens)
      | some (redirect, rest) =>
          let (redirects, rest) ← readRedirects fuel rest
          return (redirect :: redirects, rest)

structure Gathered where
  assignments : List (String × Word) := []
  words : List Word := []
  redirects : List Redirect := []

def readSimple : Nat → Gathered → List Token → Except SyntaxError (Gathered × List Token)
  | 0, gathered, tokens => .ok (gathered, tokens)
  | fuel + 1, gathered, tokens => do
      match ← readRedirect tokens with
      | some (redirect, rest) =>
          readSimple fuel { gathered with redirects := redirect :: gathered.redirects } rest
      | none =>
          match tokens with
          | .word word :: rest =>
              match gathered.words, assignment? word with
              | [], some assignment =>
                  readSimple fuel
                    { gathered with assignments := assignment :: gathered.assignments } rest
              | words, _ => readSimple fuel { gathered with words := word :: words } rest
          | _ => return (gathered, tokens)

def skipNewlines (tokens : List Token) : List Token := tokens.dropWhile (· = .operator "\n")

def expectWord (text : String) (tokens : List Token) : Except SyntaxError (List Token) :=
  match tokens with
  | first :: rest => if first.isWord text then .ok rest else refuse tokens (some text)
  | [] => refuse [] (some text)

def readLoopName (tokens : List Token) : Except SyntaxError (String × List Token) :=
  match tokens with
  | .word word :: rest =>
      match Token.plain? word with
      | some (first :: name) =>
          if isNameStart first && name.all isNamePart then .ok (String.ofList (first :: name), rest)
          else .error .badLoopVariable
      | _ => .error .badLoopVariable
  | _ => .error .badLoopVariable

def readLoopWords (tokens : List Token) : Except SyntaxError (List Word × List Token) :=
  match skipNewlines tokens with
  | first :: rest =>
      if first.isWord "in" then
        let words := (rest.takeWhile fun token => token matches .word _).filterMap fun
          | .word word => some word
          | _ => none
        match rest.drop words.length with
        | .operator ";" :: rest => .ok (words, skipNewlines rest)
        | .operator "\n" :: rest => .ok (words, skipNewlines rest)
        | rest => refuse rest none
      else if first = .operator ";" then .ok ([], skipNewlines rest)
      else .ok ([], first :: rest)
  | [] => .ok ([], [])

mutual

def readCommand : Nat → List Token → Except SyntaxError (Command × List Token)
  | 0, tokens => refuse tokens none
  | fuel + 1, tokens => do
      match tokens with
      | .operator "(" :: rest =>
          let (body, rest) ← readList fuel rest
          match rest with
          | .operator ")" :: rest =>
              let (redirects, rest) ← readRedirects fuel rest
              return (.group true body redirects, rest)
          | _ => refuse rest (some ")")
      | first :: rest =>
          if first.isWord "\x7b" then
            let (body, rest) ← readList fuel rest
            let rest ← expectWord "\x7d" rest
            let (redirects, rest) ← readRedirects fuel rest
            return (.group false body redirects, rest)
          else if first.isWord "if" then
            let (command, rest) ← readChoice fuel rest
            let (redirects, rest) ← readRedirects fuel rest
            return (.group false command redirects, rest)
          else if first.isWord "for" then
            let (name, rest) ← readLoopName rest
            let (words, rest) ← readLoopWords rest
            let rest ← expectWord "do" rest
            let (body, rest) ← readList fuel rest
            let rest ← expectWord "done" rest
            let (redirects, rest) ← readRedirects fuel rest
            return (.group false (.forEach name words body) redirects, rest)
          else if first.isCloser then refuse tokens none
          else
            let (gathered, after) ← readSimple (tokens.length + 1) {} tokens
            if after.length = tokens.length then refuse tokens none
            else if after.head? = some (.operator "(") then refuse after none
            else
              return (.simple gathered.assignments.reverse gathered.words.reverse
                gathered.redirects.reverse, after)
      | [] => refuse [] none

def readChoice : Nat → List Token → Except SyntaxError (Command × List Token)
  | 0, tokens => refuse tokens none
  | fuel + 1, tokens => do
      let (condition, rest) ← readList fuel tokens
      let (whenTrue, rest) ← readList fuel (← expectWord "then" rest)
      match rest with
      | [] => refuse [] (some "fi")
      | next :: after =>
          if next.isWord "elif" then
            let (whenFalse, rest) ← readChoice fuel after
            return (.choice condition whenTrue whenFalse, rest)
          else if next.isWord "else" then
            let (whenFalse, rest) ← readList fuel after
            return (.choice condition whenTrue whenFalse, ← expectWord "fi" rest)
          else return (.choice condition whenTrue .empty, ← expectWord "fi" rest)

def readPipeline : Nat → List Token → Except SyntaxError (Command × List Token)
  | 0, tokens => refuse tokens none
  | fuel + 1, tokens => do
      match tokens with
      | first :: rest =>
          if first.isWord "!" then
            let (command, rest) ← readPipeline fuel rest
            return (.negate command, rest)
          else
            let (command, rest) ← readCommand fuel tokens
            match rest with
            | .operator "|" :: rest =>
                let (others, rest) ← readPipeline fuel (skipNewlines rest)
                return (.pipe command others, rest)
            | _ => return (command, rest)
      | [] => refuse [] none

def readConditions : Nat → Command → List Token → Except SyntaxError (Command × List Token)
  | 0, _, tokens => refuse tokens none
  | fuel + 1, left, tokens => do
      match tokens with
      | .operator "&&" :: rest =>
          let (right, rest) ← readPipeline fuel (skipNewlines rest)
          readConditions fuel (.both left right) rest
      | .operator "||" :: rest =>
          let (right, rest) ← readPipeline fuel (skipNewlines rest)
          readConditions fuel (.either left right) rest
      | _ => return (left, tokens)

def readList : Nat → List Token → Except SyntaxError (Command × List Token)
  | 0, tokens => refuse tokens none
  | fuel + 1, tokens => do
      match skipNewlines tokens with
      | [] => return (.empty, [])
      | tokens =>
          let (command, after) ← readPipeline fuel tokens
          let (command, after) ← readConditions fuel command after
          match after with
          | .operator text :: following =>
              if text = ";" || text = "&" || text = "\n" then
                match skipNewlines following with
                | [] => return (command, [])
                | next :: rest =>
                    if next = .operator ")" || next.isCloser then return (command, next :: rest)
                    else
                      let (others, rest) ← readList fuel following
                      return (.sequence command others, rest)
              else return (command, after)
          | _ => return (command, after)

end

def ofLine (line : List Char) : Except SyntaxError Command := do
  let tokens ← Token.scan (line.length + 1) line
  let (command, rest) ← readList (4 * tokens.length + 4) tokens
  match rest with
  | [] => return command
  | _ => refuse rest none

end Command

end QueryShell.Posix
