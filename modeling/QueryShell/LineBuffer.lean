import QueryShell.Statement

/-!
Input lines gathered until one of them completes a statement.
-/

namespace QueryShell

structure LineBuffer where
  lines : List String := []
deriving DecidableEq, Repr

namespace LineBuffer

def isPending (buffer : LineBuffer) : Bool := !buffer.lines.isEmpty

/-- Takes a line and gives the gathered text once the line completes a statement. Blank lines in
front of a statement are dropped. -/
def push (line : String) (buffer : LineBuffer) : Option String × LineBuffer :=
  if !buffer.isPending && Text.isBlankText line then (none, buffer)
  else
    let lines := buffer.lines ++ [line]
    if Statement.endedBy line then (some ("\n".intercalate lines), {})
    else (none, ⟨lines⟩)

end LineBuffer

end QueryShell
