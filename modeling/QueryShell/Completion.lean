import QueryShell.Functions
import QueryShell.Sql.Keywords
import QueryShell.Text.Blank
import QueryShell.Text.Case
import QueryShell.Text.Utf8

/-!
Completion of the word in front of the cursor from a sorted set of candidates.
-/

namespace QueryShell.Completion

open Text

def isDelimiter (char : Char) : Bool :=
  isBlank char || char = '(' || char = ')' || char = '[' || char = ']'

def isNameStart (char : Char) : Bool := char.isAlpha || char = '_'

def isNamePart (char : Char) : Bool := char.isAlphanum || char = '_'

def isIdentifier (name : String) : Bool :=
  match name.toList with
  | [] => false
  | first :: rest => isNameStart first && rest.all isNamePart

def functionCandidate (name : String) : String := if isIdentifier name then name ++ "(" else name

def keywordCandidates (keyword : String) : List String := [keyword, lowered keyword]

def withoutRepeats : List String → List String
  | [] => []
  | [only] => [only]
  | first :: second :: rest =>
      if first = second then withoutRepeats (second :: rest)
      else first :: withoutRepeats (second :: rest)

def candidates (functions keywords : List String) : List String :=
  let all := functions.map functionCandidate ++ keywords.flatMap keywordCandidates
  withoutRepeats (all.mergeSort fun left right => decide (left ≤ right))

def withKeywords (functions : List String) : List String := candidates functions Sql.keywords

def headOfSize? (size : Nat) : List Char → Option (List Char)
  | [] => if size = 0 then some [] else none
  | char :: rest =>
      if size = 0 then some []
      else if size < char.utf8Size then none
      else (headOfSize? (size - char.utf8Size) rest).map (char :: ·)

/-- The text in front of a position in bytes; the whole line if the position is past the end or
inside a character. -/
def headUpTo (position : Nat) (line : List Char) : List Char := (headOfSize? position line).getD line

def closeSingle : List String → List String
  | [only] => if only.toList.getLast? = some '(' then [only] else [only ++ " "]
  | several => several

def complete (candidates : List String) (line : String) (position : Nat) : Nat × List String :=
  let head := headUpTo position line.toList
  let word := (head.reverse.takeWhile fun char => !isDelimiter char).reverse
  let start := byteSize head - byteSize word
  (start, closeSingle (candidates.filter fun candidate => word.isPrefixOf candidate.toList))

def display (completion : String) : String := String.ofList (trimEnd completion.toList)

end QueryShell.Completion
