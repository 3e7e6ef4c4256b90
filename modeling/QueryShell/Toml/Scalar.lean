import QueryShell.Number.Decimal
import QueryShell.Number.Digit
import QueryShell.Toml.Value

/-!
Reading of the values that hold no others: strings, numbers, dates and times. Each reader gives what
it read and the text after it.
-/

namespace QueryShell.Toml

abbrev Reader (Result : Type) := List Char → Option (Result × List Char)

def isGap (char : Char) : Bool := char = ' ' || char = '\t'

def isTextual (char : Char) : Bool := char = '\t' || (0x20 ≤ char.toNat && char.toNat ≠ 0x7F)

namespace Scalar

def coded (count : Nat) (text : List Char) : Option (Char × List Char) :=
  let digits := text.take count
  if digits.length < count then none
  else (Digit.number? 16 digits).bind fun code =>
    if code.isValidChar then some (Char.ofNat code, text.drop count) else none

def escape : Reader Char
  | 'b' :: rest => some ('\x08', rest)
  | 't' :: rest => some ('\t', rest)
  | 'n' :: rest => some ('\n', rest)
  | 'f' :: rest => some ('\x0c', rest)
  | 'r' :: rest => some ('\x0d', rest)
  | '"' :: rest => some ('"', rest)
  | '\\' :: rest => some ('\\', rest)
  | 'u' :: rest => coded 4 rest
  | 'U' :: rest => coded 8 rest
  | _ => none

def basic : Nat → Reader (List Char)
  | 0, _ => none
  | fuel + 1, text =>
      match text with
      | '"' :: rest => some ([], rest)
      | '\\' :: rest => do
          let (char, rest) ← escape rest
          let (chars, rest) ← basic fuel rest
          return (char :: chars, rest)
      | char :: rest =>
          if isTextual char then do
            let (chars, rest) ← basic fuel rest
            return (char :: chars, rest)
          else none
      | [] => none

def literal : Reader (List Char)
  | '\x27' :: rest => some ([], rest)
  | char :: rest =>
      if isTextual char then (literal rest).map fun (chars, rest) => (char :: chars, rest) else none
  | [] => none

def afterLineEnd : List Char → List Char
  | '\n' :: rest => rest
  | '\x0d' :: '\n' :: rest => rest
  | text => text

def skipLineEnds : List Char → List Char
  | '\n' :: rest => skipLineEnds rest
  | '\x0d' :: '\n' :: rest => skipLineEnds rest
  | char :: rest => if isGap char then skipLineEnds rest else char :: rest
  | [] => []

def closing (quote : Char) (rest : List Char) : List Char × List Char :=
  let more := (rest.take 2).takeWhile (· = quote)
  (more, rest.drop more.length)

def basicLines : Nat → Reader (List Char)
  | 0, _ => none
  | fuel + 1, text =>
      match text with
      | '"' :: '"' :: '"' :: rest => some (closing '"' rest)
      | '\\' :: rest =>
          let after := rest.dropWhile isGap
          if (afterLineEnd after).length < after.length then basicLines fuel (skipLineEnds after)
          else do
            let (char, rest) ← escape rest
            let (chars, rest) ← basicLines fuel rest
            return (char :: chars, rest)
      | '\x0d' :: '\n' :: rest => do
          let (chars, rest) ← basicLines fuel rest
          return ('\n' :: chars, rest)
      | char :: rest =>
          if isTextual char || char = '\n' then do
            let (chars, rest) ← basicLines fuel rest
            return (char :: chars, rest)
          else none
      | [] => none

def literalLines : Reader (List Char)
  | '\x27' :: '\x27' :: '\x27' :: rest => some (closing '\x27' rest)
  | '\x0d' :: '\n' :: rest =>
      (literalLines rest).map fun (chars, rest) => ('\n' :: chars, rest)
  | char :: rest =>
      if isTextual char || char = '\n' then
        (literalLines rest).map fun (chars, rest) => (char :: chars, rest)
      else none
  | [] => none

def string : Reader String := fun text =>
  let read : Option (List Char × List Char) := match text with
    | '"' :: '"' :: '"' :: rest => basicLines text.length (afterLineEnd rest)
    | '"' :: rest => basic text.length rest
    | '\x27' :: '\x27' :: '\x27' :: rest => literalLines (afterLineEnd rest)
    | '\x27' :: rest => literal rest
    | _ => none
  read.map fun (chars, rest) => (String.ofList chars, rest)

def moreDigits (isDigit : Char → Bool) : List Char → List Char × List Char
  | '_' :: digit :: rest =>
      if isDigit digit then
        let (digits, rest) := moreDigits isDigit rest
        (digit :: digits, rest)
      else ([], '_' :: digit :: rest)
  | digit :: rest =>
      if isDigit digit then
        let (digits, rest) := moreDigits isDigit rest
        (digit :: digits, rest)
      else ([], digit :: rest)
  | [] => ([], [])

def digits (isDigit : Char → Bool) : Reader (List Char)
  | digit :: rest =>
      if isDigit digit then
        let (digits, rest) := moreDigits isDigit rest
        some (digit :: digits, rest)
      else none
  | [] => none

def sign : List Char → List Char × List Char
  | '+' :: rest => (['+'], rest)
  | '-' :: rest => (['-'], rest)
  | text => ([], text)

def whole : Reader (List Char)
  | '0' :: rest => some (['0'], rest)
  | text => digits Char.isDigit text

def inRange (value : Int) : Option Int :=
  if -0x8000000000000000 ≤ value && value < 0x8000000000000000 then some value else none

def inBase (base : Nat) : Reader Int := fun text => do
  let (digits, rest) ← digits (Digit.isIn base) text
  let value ← Digit.number? base digits
  return (← inRange value, rest)

def integer : Reader Int
  | '0' :: 'x' :: rest => inBase 16 rest
  | '0' :: 'o' :: rest => inBase 8 rest
  | '0' :: 'b' :: rest => inBase 2 rest
  | text => do
      let (sign, rest) := sign text
      let (digits, rest) ← whole rest
      let value : Int := Decimal.digitsValue digits
      return (← inRange (if sign = ['-'] then -value else value), rest)

def exponent : Reader (List Char)
  | mark :: rest =>
      if mark = 'e' || mark = 'E' then do
        let (sign, rest) := sign rest
        let (digits, rest) ← digits Char.isDigit rest
        return ('e' :: sign ++ digits, rest)
      else none
  | [] => none

def fraction : Reader (List Char)
  | '.' :: rest => do
      let (digits, rest) ← digits Char.isDigit rest
      match exponent rest with
      | some (exponent, rest) => return ('.' :: digits ++ exponent, rest)
      | none => return ('.' :: digits, rest)
  | text => exponent text

def special (text : List Char) : Option (List Char × List Char) :=
  let word := text.take 3
  if word = "inf".toList || word = "nan".toList then some (word, text.drop 3) else none

def float : Reader Binary64 := fun text =>
  let (sign, rest) := sign text
  match special rest with
  | some (word, rest) => (Decimal.binary64OfText? (sign ++ word)).map fun value => (value, rest)
  | none => do
      let (digits, rest) ← whole rest
      let (fraction, rest) ← fraction rest
      let value ← Decimal.binary64OfText? (sign ++ digits ++ fraction)
      if value = .infinite false then none else return (value, rest)

def fixed (count least most : Nat) : Reader Nat := fun text => do
  let digits := text.take count
  if digits.length < count then none
  let value ← Decimal.natOfText? digits
  if least ≤ value && value ≤ most then return (value, text.drop count) else none

def character (char : Char) : Reader Unit
  | first :: rest => if first = char then some ((), rest) else none
  | [] => none

def padded (width value : Nat) : List Char :=
  let digits := Nat.toDigits 10 value
  List.replicate (width - digits.length) '0' ++ digits

def isLeap (year : Nat) : Bool := year % 4 = 0 && (year % 100 ≠ 0 || year % 400 = 0)

def daysIn (year month : Nat) : Nat :=
  if month = 2 then (if isLeap year then 29 else 28)
  else if month ∈ [4, 6, 9, 11] then 30
  else 31

def date : Reader (List Char) := fun text => do
  let (year, rest) ← fixed 4 0 9999 text
  let (_, rest) ← character '-' rest
  let (month, rest) ← fixed 2 1 12 rest
  let (_, rest) ← character '-' rest
  let (day, rest) ← fixed 2 1 (daysIn year month) rest
  return (padded 4 year ++ '-' :: padded 2 month ++ '-' :: padded 2 day, rest)

def secondFraction (digits : List Char) : List Char :=
  match ((digits.take 9).reverse.dropWhile (· = '0')).reverse with
  | [] => []
  | digits => '.' :: digits

def time : Reader (List Char) := fun text => do
  let (hour, rest) ← fixed 2 0 23 text
  let (_, rest) ← character ':' rest
  let (minute, rest) ← fixed 2 0 59 rest
  let (_, rest) ← character ':' rest
  let (second, rest) ← fixed 2 0 60 rest
  let (fraction, rest) := match rest with
    | '.' :: after =>
        let digits := after.takeWhile Char.isDigit
        if digits.isEmpty then ([], rest)
        else (secondFraction digits, after.dropWhile Char.isDigit)
    | _ => ([], rest)
  return (padded 2 hour ++ ':' :: padded 2 minute ++ ':' :: padded 2 second ++ fraction, rest)

def zone : Reader (List Char)
  | 'Z' :: rest => some (['Z'], rest)
  | 'z' :: rest => some (['Z'], rest)
  | mark :: rest =>
      if mark = '+' || mark = '-' then do
        let (hour, rest) ← fixed 2 0 23 rest
        let (_, rest) ← character ':' rest
        let (minute, rest) ← fixed 2 0 59 rest
        let mark := if hour = 0 && minute = 0 then '+' else mark
        return (mark :: padded 2 hour ++ ':' :: padded 2 minute, rest)
      else none
  | [] => none

def timeOfDay : Reader (List Char)
  | mark :: rest =>
      if mark = 'T' || mark = 't' || mark = ' ' then do
        let (time, rest) ← time rest
        match zone rest with
        | some (zone, rest) => return ('T' :: time ++ zone, rest)
        | none => return ('T' :: time, rest)
      else none
  | [] => none

def dateTime : Reader (List Char) := fun text =>
  match date text with
  | none => time text
  | some (date, rest) =>
      match timeOfDay rest with
      | some (time, rest) => some (date ++ time, rest)
      | none => some (date, rest)

def word (expected : String) (value : Value) : Reader Value := fun text =>
  if expected.toList.isPrefixOf text then some (value, text.drop expected.length) else none

def value : Reader Value := fun text =>
  match text with
  | [] => none
  | first :: _ =>
      if first = '"' || first = '\x27' then
        (string text).map fun (content, rest) => (.string content, rest)
      else if first.isDigit || first = '+' || first = '-' || first = 'i' || first = 'n' then
        match dateTime text with
        | some (content, rest) => some (.dateTime (String.ofList content), rest)
        | none =>
            match float text with
            | some (number, rest) => some (.float number, rest)
            | none => (integer text).map fun (number, rest) => (.integer number, rest)
      else (word "true" (.boolean true) text).or (word "false" (.boolean false) text)

end Scalar

end QueryShell.Toml
