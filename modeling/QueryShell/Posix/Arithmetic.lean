import QueryShell.Posix.Word

/-!
Integer expressions of a command line.
-/

namespace QueryShell.Posix.Arithmetic

def operators : List (List Char × Nat) :=
  [("||".toList, 1), ("&&".toList, 2), ("==".toList, 6), ("!=".toList, 6), ("<=".toList, 7),
   (">=".toList, 7), ("<<".toList, 8), (">>".toList, 8), ("|".toList, 3), ("^".toList, 4),
   ("&".toList, 5), ("<".toList, 7), (">".toList, 7), ("+".toList, 9), ("-".toList, 9),
   ("*".toList, 10), ("/".toList, 10), ("%".toList, 10)]

def truth (condition : Bool) : Int := if condition then 1 else 0

inductive Fault where
  | noOperand
  | notAtEnd
  | divisionByZero
deriving DecidableEq, Repr

def Fault.message : Fault → String
  | noOperand => "expecting primary"
  | notAtEnd => "expecting EOF"
  | divisionByZero => "division by zero"

def combine (operator : List Char) (left right : Int) : Except Fault Int :=
  match String.ofList operator with
  | "||" => .ok (truth (left ≠ 0 || right ≠ 0))
  | "&&" => .ok (truth (left ≠ 0 && right ≠ 0))
  | "==" => .ok (truth (left = right))
  | "!=" => .ok (truth (left ≠ right))
  | "<=" => .ok (truth (left ≤ right))
  | ">=" => .ok (truth (right ≤ left))
  | "<" => .ok (truth (left < right))
  | ">" => .ok (truth (right < left))
  | "+" => .ok (left + right)
  | "-" => .ok (left - right)
  | "*" => .ok (left * right)
  | "/" => if right = 0 then .error .divisionByZero else .ok (Int.tdiv left right)
  | "%" => if right = 0 then .error .divisionByZero else .ok (Int.tmod left right)
  | _ => .error .notAtEnd

def skip (text : List Char) : List Char := text.dropWhile Char.isWhitespace

def digitsValue (digits : List Char) : Int :=
  digits.foldl (fun value digit => 10 * value + (digit.toNat - 48 : Nat)) 0

def operatorAt? (text : List Char) : Option (List Char × Nat) :=
  operators.find? fun (operator, _) => operator.isPrefixOf text

mutual

def readOperand (lookup : String → Int) : Nat → List Char → Except Fault (Int × List Char)
  | 0, _ => .error .noOperand
  | fuel + 1, text =>
      match skip text with
      | '(' :: rest =>
          match readFrom lookup fuel 1 rest with
          | .ok (value, rest) =>
              match skip rest with
              | ')' :: rest => .ok (value, rest)
              | _ => .error .notAtEnd
          | .error fault => .error fault
      | '-' :: rest => (readOperand lookup fuel rest).map fun (value, rest) => (-value, rest)
      | '+' :: rest => readOperand lookup fuel rest
      | '!' :: rest =>
          (readOperand lookup fuel rest).map fun (value, rest) => (truth (value = 0), rest)
      | '$' :: rest => readOperand lookup fuel rest
      | char :: rest =>
          if char.isDigit then
            .ok (digitsValue (char :: rest.takeWhile Char.isDigit), rest.dropWhile Char.isDigit)
          else if isNameStart char then
            .ok (lookup (String.ofList (char :: rest.takeWhile isNamePart)),
              rest.dropWhile isNamePart)
          else .error .noOperand
      | [] => .error .noOperand

def readFrom (lookup : String → Int) : Nat → Nat → List Char → Except Fault (Int × List Char)
  | 0, _, _ => .error .noOperand
  | fuel + 1, level, text => do
      let (left, rest) ← readOperand lookup fuel text
      readOperators lookup fuel level left rest

def readOperators (lookup : String → Int) : Nat → Nat → Int → List Char → Except Fault (Int × List Char)
  | 0, _, _, _ => .error .noOperand
  | fuel + 1, level, left, text =>
      match operatorAt? (skip text) with
      | some (operator, precedence) =>
          if precedence < level then .ok (left, text)
          else do
            let (right, rest) ←
              readFrom lookup fuel (precedence + 1) ((skip text).drop operator.length)
            readOperators lookup fuel level (← combine operator left right) rest
      | none => .ok (left, text)

end

def evaluate (lookup : String → Int) (expression : List Char) : Except Fault Int :=
  if (skip expression).isEmpty then .ok 0
  else match readFrom lookup (4 * expression.length + 4) 1 expression with
    | .ok (value, rest) => if (skip rest).isEmpty then .ok value else .error .notAtEnd
    | .error fault => .error fault

end QueryShell.Posix.Arithmetic
