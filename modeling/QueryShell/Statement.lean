import QueryShell.Text.Blank
import QueryShell.Text.Utf8

/-!
The statements of a text. A text is cut after every terminator into fragments. A fragment whose body
ends in the escape character continues into the next one: the escape is dropped and the terminator
kept. A statement is trimmed and never empty, and a continuation still open at the end of the text
gives none.
-/

namespace QueryShell.Statement

open Text

def terminator : Char := ';'

def escape : Char := '\\'

def fragments : List Char → List (List Char)
  | [] => []
  | char :: rest =>
      if char = terminator then [char] :: fragments rest
      else match fragments rest with
        | [] => [[char]]
        | first :: others => (char :: first) :: others

def body (fragment : List Char) : List Char :=
  if fragment.getLast? = some terminator then fragment.dropLast else fragment

def nextAfter? (held : List Char) : List (List Char) → Option (List Char × List (List Char))
  | [] => none
  | fragment :: rest =>
      let body := body fragment
      if body.getLast? = some escape then nextAfter? (held ++ body.dropLast ++ [terminator]) rest
      else
        let statement := trim (held ++ body)
        if statement.isEmpty then nextAfter? (held ++ body) rest
        else some (statement, rest)

def next? (unread : List (List Char)) : Option (List Char × List (List Char)) := nextAfter? [] unread

theorem nextAfter?_length {held statement : List Char} {unread rest : List (List Char)}
    (found : nextAfter? held unread = some (statement, rest)) : rest.length < unread.length := by
  induction unread generalizing held with
  | nil => simp [nextAfter?] at found
  | cons fragment others ih =>
      simp only [nextAfter?] at found
      split at found
      · exact Nat.lt_succ_of_lt (ih found)
      · split at found
        · exact Nat.lt_succ_of_lt (ih found)
        · obtain ⟨_, rfl⟩ := Prod.mk.inj (Option.some.inj found)
          exact Nat.lt_succ_self _

theorem next?_length {statement : List Char} {unread rest : List (List Char)}
    (found : next? unread = some (statement, rest)) : rest.length < unread.length :=
  nextAfter?_length found

def withRest (unread : List (List Char)) : List (List Char × List (List Char)) :=
  match _found : next? unread with
  | none => []
  | some (statement, rest) => (statement, rest) :: withRest rest
termination_by unread.length
decreasing_by exact next?_length _found

def splitChars (text : List Char) : List (List Char) := (withRest (fragments text)).map Prod.fst

def split (text : String) : List String := (splitChars text.toList).map String.ofList

def splitWithPositions (text : String) : List (String × Nat) :=
  (withRest (fragments text.toList)).map fun (statement, rest) =>
    (String.ofList statement, byteSize text.toList - byteSize rest.flatten)

def endedBy (line : String) : Bool :=
  match (trimEnd line.toList).reverse with
  | [] => false
  | [last] => last = terminator
  | last :: before :: _ => last = terminator && before != escape

end QueryShell.Statement
