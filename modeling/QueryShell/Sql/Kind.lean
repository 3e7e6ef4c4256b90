import QueryShell.Sql.Grammar

/-!
The kinds of SQL texts that a session with transactions tells apart. A session takes any classifier
of texts. The one here reads a part of the language, however deep a text nests.
-/

namespace QueryShell.Sql

inductive Kind where
  | query
  | opening
  | ending
  | other
deriving DecidableEq, Repr

namespace Kind

open Grammar

def accessMode : Reader := fun tokens =>
  match Grammar.keywords ["ISOLATION", "LEVEL"] tokens with
  | some rest =>
      (oneOf ["SERIALIZABLE"] rest).or ((Grammar.keywords ["REPEATABLE", "READ"] rest).or
        ((Grammar.keywords ["READ", "COMMITTED"] rest).or
          (Grammar.keywords ["READ", "UNCOMMITTED"] rest)))
  | none => (Grammar.keywords ["READ", "ONLY"] tokens).or (Grammar.keywords ["READ", "WRITE"] tokens)

def accessModes (required : Bool) : Nat → Reader
  | 0, _ => none
  | fuel + 1, tokens =>
      match accessMode tokens with
      | none => if required then none else some tokens
      | some rest =>
          match symbol "," rest with
          | some rest => accessModes true fuel rest
          | none => accessModes false fuel rest

def modes : Reader := fun tokens => accessModes false (tokens.length + 1) tokens

def chain : Reader := fun tokens =>
  maybeThen (keyword "AND") (fun rest => keyword "CHAIN" (maybe (keyword "NO") rest))
    (maybe (oneOf ["TRANSACTION", "WORK"]) tokens)

def statement? (tokens : List Token) : Option (Kind × List Token) :=
  match tokens with
  | .word "BEGIN" :: rest =>
      (modes (maybe (oneOf ["TRANSACTION", "WORK"]) rest)).map fun rest => (opening, rest)
  | .word "START" :: .word "TRANSACTION" :: rest => (modes rest).map fun rest => (opening, rest)
  | .word "COMMIT" :: rest => (chain rest).map fun rest => (ending, rest)
  | .word "END" :: rest => (chain rest).map fun rest => (ending, rest)
  | .word "ROLLBACK" :: rest => do
      let rest ← chain rest
      let rest ← maybeThen (keyword "TO")
        (fun rest => identifier (maybe (keyword "SAVEPOINT") rest)) rest
      return (ending, rest)
  | .word first :: _ =>
      if first ∈ ["SELECT", "WITH", "VALUES"] then
        (Grammar.query (16 * tokens.length + 64) tokens).map fun rest => (query, rest)
      else none
  | .symbol "(" :: _ =>
      (Grammar.query (16 * tokens.length + 64) tokens).map fun rest => (query, rest)
  | _ => none

def isSemicolon (token : Token) : Bool := token = .symbol ";"

/-- Whether only semicolons follow a statement, or a word `END`, with which the reading stops. -/
def isOver : List Token → Bool
  | .word "END" :: _ => true
  | tokens => tokens.all isSemicolon

def ofText (text : String) : Kind :=
  match Token.ofText? text.toList with
  | none => other
  | some tokens =>
      match statement? (tokens.dropWhile isSemicolon) with
      | some (kind, rest) => if isOver rest then kind else other
      | none => other

end Kind

end QueryShell.Sql
