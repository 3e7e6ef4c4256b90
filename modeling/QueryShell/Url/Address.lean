import QueryShell.Number.Decimal
import QueryShell.Text.Blank
import QueryShell.Url.Percent

/-!
The addresses that may stand as the host of a URL: eight groups of sixteen bits, or four numbers.
-/

namespace QueryShell.Url

namespace Address

def octet? (text : List Char) : Option Nat :=
  match text with
  | '0' :: _ :: _ => none
  | _ => (Decimal.natOfText? text).filter (· < 256)

def dotted? (text : List Char) : Option (List Nat) :=
  match (Text.pieces (· = '.') text).mapM octet? with
  | some [first, second, third, fourth] => some [256 * first + second, 256 * third + fourth]
  | _ => none

def group? (text : List Char) : Option Nat :=
  if text.isEmpty || 4 < text.length then none
  else Digit.number? 16 text

def groups? (mayEndDotted : Bool) (text : List Char) : Option (List Nat) :=
  if text.isEmpty then some []
  else
    let parts := Text.pieces (· = ':') text
    let last := parts.getLast?.getD []
    if mayEndDotted && last.contains '.' then do
      return (← parts.dropLast.mapM group?) ++ (← dotted? last)
    else parts.mapM group?

def cutGap? : List Char → Option (List Char × List Char)
  | ':' :: ':' :: rest => some ([], rest)
  | char :: rest => (cutGap? rest).map fun (before, after) => (char :: before, after)
  | [] => none

def ofText? (text : List Char) : Option (List Nat) :=
  match cutGap? text with
  | none => (groups? true text).filter (·.length = 8)
  | some (before, after) => do
      let before ← groups? false before
      let after ← groups? true after
      let missing := 8 - before.length - after.length
      if missing = 0 then none
      else return before ++ List.replicate missing 0 ++ after

def zerosAt (groups : List Nat) : Nat := (groups.takeWhile (· = 0)).length

def longestZeros : Nat → List Nat → Nat × Nat
  | _, [] => (0, 0)
  | place, group :: rest =>
      let here := zerosAt (group :: rest)
      let (found, length) := longestZeros (place + 1) rest
      if 0 < here && length ≤ here then (place, here) else (found, length)

def hexadecimal (value : Nat) : List Char := Nat.toDigits 16 value

def joined (groups : List Nat) : List Char := [':'].intercalate (groups.map hexadecimal)

def text (groups : List Nat) : List Char :=
  let (place, length) := longestZeros 0 groups
  if length < 2 then joined groups
  else joined (groups.take place) ++ "::".toList ++ joined (groups.drop (place + length))

end Address

namespace Quad

def number? (text : List Char) : Option Nat :=
  match text with
  | [] => none
  | '0' :: 'x' :: digits => Digit.number? 16 digits
  | '0' :: 'X' :: digits => Digit.number? 16 digits
  | '0' :: digit :: digits => Digit.number? 8 (digit :: digits)
  | digits => Digit.number? 10 digits

def parts (name : List Char) : List (List Char) :=
  let parts := Text.pieces (· = '.') name
  if 1 < parts.length && parts.getLast? = some [] then parts.dropLast else parts

def isMeant (name : List Char) : Bool :=
  match (parts name).getLast? with
  | none => false
  | some last => (!last.isEmpty && last.all Char.isDigit) || (number? last).isSome

/-- The value of an address of at most four numbers, the last of which stands for all the places
that are left. -/
def value? (name : List Char) : Option Nat := do
  let numbers ← (parts name).mapM number?
  let last ← numbers.getLast?
  let others := numbers.dropLast
  if 3 < others.length || others.any (255 < ·) || Nat.pow 256 (4 - others.length) ≤ last then none
  else return others.foldr (fun number value => number * Nat.pow 256 3 + value / 256) 0 + last

def text (value : Nat) : List Char :=
  ['.'].intercalate ([3, 2, 1, 0].map fun place =>
    Nat.toDigits 10 (value / Nat.pow 256 place % 256))

end Quad

end QueryShell.Url
