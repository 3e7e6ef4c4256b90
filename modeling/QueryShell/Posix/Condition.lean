import QueryShell.Files.Tree
import QueryShell.Number.Decimal

/-!
Conditions on texts, numbers and files, as `test` reads them from its arguments.
-/

namespace QueryShell.Posix.Condition

def integer? (text : String) : Option Int :=
  let trimmed := (text.toList.dropWhile Char.isWhitespace).reverse.dropWhile Char.isWhitespace
  let (negative, digits) := Decimal.cutSign trimmed.reverse
  (Decimal.natOfText? digits).map fun value => if negative then -(value : Int) else value

abbrev Reader := List String → Except String (Bool × String × List String)

def unary? (tree : Files.Tree) : String → Option (String → Bool)
  | "-z" => some fun text => text = ""
  | "-n" => some fun text => text ≠ ""
  | "-e" => some tree.pathExists
  | "-f" => some tree.isFile
  | "-d" => some tree.isDirectory
  | "-r" => some tree.pathExists
  | "-w" => some tree.pathExists
  | "-x" => some tree.isDirectory
  | "-s" => some fun path => match tree.read path with
      | .ok content => !content.isEmpty
      | .error _ => tree.isDirectory path
  | _ => none

abbrev Comparison := String → String → Except String Bool

def numeric (relation : Int → Int → Bool) : Comparison := fun left right =>
  match integer? left, integer? right with
  | some left, some right => .ok (relation left right)
  | none, _ => .error ("Illegal number: " ++ left)
  | _, none => .error ("Illegal number: " ++ right)

def binary? : String → Option Comparison
  | "=" => some fun left right => .ok (left = right)
  | "!=" => some fun left right => .ok (left ≠ right)
  | "<" => some fun left right => .ok (left < right)
  | ">" => some fun left right => .ok (right < left)
  | "-eq" => some (numeric fun left right => left = right)
  | "-ne" => some (numeric fun left right => left ≠ right)
  | "-lt" => some (numeric fun left right => left < right)
  | "-le" => some (numeric fun left right => left ≤ right)
  | "-gt" => some (numeric fun left right => right < left)
  | "-ge" => some (numeric fun left right => right ≤ left)
  | _ => none

mutual

def primary (tree : Files.Tree) : Nat → Reader
  | 0, _ => .error "argument expected"
  | _, [] => .ok (false, "", [])
  | fuel + 1, first :: rest =>
      match rest with
      | operator :: right :: after =>
          match binary? operator with
          | some compare => do return (← compare first right, right, after)
          | none => simple tree fuel first rest
      | [operator] =>
          if (binary? operator).isSome then .error (operator ++ ": argument expected")
          else simple tree fuel first rest
      | [] => .ok (first ≠ "", first, [])

def simple (tree : Files.Tree) : Nat → String → Reader
  | 0, _, _ => .error "argument expected"
  | fuel + 1, first, rest =>
      if first = "(" then do
        let (truth, _, rest) ← anyOf tree fuel rest
        match rest with
        | ")" :: rest => return (truth, ")", rest)
        | _ => throw "closing paren expected"
      else match unary? tree first, rest with
        | some holds, argument :: rest => .ok (holds argument, argument, rest)
        | _, _ => .ok (first ≠ "", first, rest)

def negated (tree : Files.Tree) : Nat → Reader
  | 0, _ => .error "argument expected"
  | fuel + 1, "!" :: next :: rest => do
      let (truth, last, rest) ← negated tree fuel (next :: rest)
      return (!truth, last, rest)
  | fuel + 1, arguments => primary tree fuel arguments

def allOf (tree : Files.Tree) : Nat → Reader
  | 0, _ => .error "argument expected"
  | fuel + 1, arguments => do
      let (truth, last, rest) ← negated tree fuel arguments
      match rest with
      | "-a" :: rest =>
          let (others, last, rest) ← allOf tree fuel rest
          return (truth && others, last, rest)
      | _ => return (truth, last, rest)

def anyOf (tree : Files.Tree) : Nat → Reader
  | 0, _ => .error "argument expected"
  | fuel + 1, arguments => do
      let (truth, last, rest) ← allOf tree fuel arguments
      match rest with
      | "-o" :: rest =>
          let (others, last, rest) ← anyOf tree fuel rest
          return (truth || others, last, rest)
      | _ => return (truth, last, rest)

end

def holds (tree : Files.Tree) (arguments : List String) : Except String Bool := do
  let (truth, last, rest) ← anyOf tree (5 * arguments.length + 5) arguments
  if rest.isEmpty then return truth
  else throw (last ++ ": unexpected operator")

end QueryShell.Posix.Condition
