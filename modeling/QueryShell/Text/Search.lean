import QueryShell.Text.Blank

/-!
Search and substitution of fixed texts, and the division into lines.
-/

namespace QueryShell.Text

def cutAt? (marker : List Char) : List Char → Option (List Char × List Char)
  | [] => if marker.isEmpty then some ([], []) else none
  | char :: rest =>
      if marker.isPrefixOf (char :: rest) then some ([], (char :: rest).drop marker.length)
      else (cutAt? marker rest).map fun (before, after) => (char :: before, after)

def occursIn (marker text : List Char) : Bool := (cutAt? marker text).isSome

def substitute (char : Char) (replacement text : List Char) : List Char :=
  text.flatMap fun each => if each = char then replacement else [each]

def withoutReturn (line : List Char) : List Char :=
  if line.getLast? = some '\r' then line.dropLast else line

/-- Reads the pieces between line feeds as lines: what follows the last line feed is a line only
if there is something, and only a line that a line feed ends loses its carriage return. -/
def linesOfPieces : List (List Char) → List (List Char)
  | [] => []
  | [last] => if last.isEmpty then [] else [last]
  | line :: rest => withoutReturn line :: linesOfPieces rest

def lines (text : List Char) : List (List Char) := linesOfPieces (pieces (· = '\n') text)

end QueryShell.Text
