import QueryShell.Number.Binary64

/-!
Reading a number from decimal text: an optional sign, digits with an optional point and at least one
digit, and an optional exponent; or `inf`, `infinity` or `nan` in any case.
-/

namespace QueryShell.Decimal

def isDigit (char : Char) : Bool := '0' ≤ char && char ≤ '9'

def digitValue (char : Char) : Nat := char.toNat - '0'.toNat

def digitsValue (digits : List Char) : Nat :=
  digits.foldl (fun value digit => 10 * value + digitValue digit) 0

def natOfText? (text : List Char) : Option Nat :=
  if text.isEmpty || !text.all isDigit then none else some (digitsValue text)

def cutSign : List Char → Bool × List Char
  | '-' :: rest => (true, rest)
  | '+' :: rest => (false, rest)
  | text => (false, text)

def exponentOfText? : List Char → Option Int
  | [] => some 0
  | mark :: rest =>
      if mark = 'e' || mark = 'E' then
        let (negative, digits) := cutSign rest
        (natOfText? digits).map (Binary64.signed negative)
      else none

/-- `digits * 10 ^ power`, rounded; far out of range the answer needs no arithmetic. -/
def scaled (negative : Bool) (digits : List Char) (power : Int) : Binary64 :=
  let significant := digits.dropWhile (· = '0')
  let top := power + significant.length
  if significant.isEmpty || top < -400 then .zero negative
  else if top > 400 then .infinite negative
  else if power ≥ 0 then .ofQuotient negative (digitsValue significant * Nat.pow 10 power.toNat) 1
  else .ofQuotient negative (digitsValue significant) (Nat.pow 10 (-power).toNat)

def unsignedOfText? (negative : Bool) (text : List Char) : Option Binary64 :=
  let word := text.map Char.toLower
  if word = "inf".toList || word = "infinity".toList then some (.infinite negative)
  else if word = "nan".toList then some .nan
  else
    let whole := text.takeWhile isDigit
    let rest := text.dropWhile isDigit
    let (fraction, rest) := match rest with
      | '.' :: after => (after.takeWhile isDigit, after.dropWhile isDigit)
      | _ => ([], rest)
    if whole.isEmpty && fraction.isEmpty then none
    else (exponentOfText? rest).map fun power =>
      scaled negative (whole ++ fraction) (power - fraction.length)

def binary64OfText? (text : List Char) : Option Binary64 :=
  let (negative, rest) := cutSign text
  unsignedOfText? negative rest

def boundedOfText? (bound : Nat) (text : List Char) : Option Nat :=
  let digits := match text with
    | '+' :: rest => rest
    | _ => text
  (natOfText? digits).filter (· < bound)

end QueryShell.Decimal
