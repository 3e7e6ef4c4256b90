/-!
Digits in bases up to sixteen.
-/

namespace QueryShell.Digit

def value? (char : Char) : Option Nat :=
  if char.isDigit then some (char.toNat - 48)
  else if 'a' ≤ char && char ≤ 'f' then some (char.toNat - 87)
  else if 'A' ≤ char && char ≤ 'F' then some (char.toNat - 55)
  else none

def isIn (base : Nat) (char : Char) : Bool := (value? char).any (· < base)

def number? (base : Nat) (digits : List Char) : Option Nat :=
  (digits.mapM value?).bind fun values =>
    if values.all (· < base) then some (values.foldl (fun number value => base * number + value) 0)
    else none

end QueryShell.Digit
