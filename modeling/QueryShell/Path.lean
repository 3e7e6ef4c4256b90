/-!
File paths as texts.
-/

namespace QueryShell.Path

def isAbsolute (path : String) : Bool := path.toList.head? = some '/'

def join (base rest : String) : String :=
  if isAbsolute rest || base.isEmpty then rest
  else if base.toList.getLast? = some '/' then base ++ rest
  else base ++ "/" ++ rest

def withoutEndSlashes (path : List Char) : List Char :=
  match (path.reverse.dropWhile (· = '/')).reverse with
  | [] => path.take 1
  | kept => kept

def parent? (path : String) : Option String :=
  let chars := withoutEndSlashes path.toList
  if chars.isEmpty || chars = ['/'] then none
  else
    let above := (chars.reverse.dropWhile (· ≠ '/')).reverse
    some (String.ofList (if above.isEmpty then [] else withoutEndSlashes above))

end QueryShell.Path
