import QueryShell.Number.Decimal
import QueryShell.Number.Digit

/-!
Escape sequences and the directives of a format, as `echo` and `printf` write them.
-/

namespace QueryShell.Posix.Format

def isOctal (char : Char) : Bool := '0' ≤ char && char ≤ '7'

def octalByte (digits : List Char) : UInt8 :=
  UInt8.ofNat (digits.foldl (fun value digit => 8 * value + (digit.toNat - 48)) 0)

def bytesOf (text : List Char) : List UInt8 := (String.ofList text).toUTF8.toList

def escaped? : Char → Option Char
  | 'a' => some '\x07'
  | 'b' => some '\x08'
  | 'e' => some '\x1b'
  | 'f' => some '\x0c'
  | 'n' => some '\n'
  | 'r' => some '\x0d'
  | 't' => some '\t'
  | 'v' => some '\x0b'
  | '\\' => some '\\'
  | _ => none

def unescape (zeroLed : Bool) : Nat → List Char → List UInt8 × Bool
  | 0, _ => ([], true)
  | _, [] => ([], true)
  | fuel + 1, '\\' :: next :: rest =>
      if next = 'c' then ([], false)
      else
        let digits := if zeroLed then (if next = '0' then rest.take 3 else []) else (next :: rest).take 3
        let octal := digits.takeWhile isOctal
        if (zeroLed && next = '0') || (!zeroLed && !octal.isEmpty) then
          let after := if zeroLed then rest.drop octal.length else (next :: rest).drop octal.length
          let (bytes, more) := unescape zeroLed fuel after
          (octalByte octal :: bytes, more)
        else match escaped? next with
          | some char =>
              let (bytes, more) := unescape zeroLed fuel rest
              (bytesOf [char] ++ bytes, more)
          | none =>
              let (bytes, more) := unescape zeroLed fuel rest
              (bytesOf ['\\', next] ++ bytes, more)
  | fuel + 1, char :: rest =>
      let (bytes, more) := unescape zeroLed fuel rest
      (bytesOf [char] ++ bytes, more)

structure Directive where
  flags : List Char
  width : Nat
  precision : Option Nat
  letter : Char

def readDirective? (text : List Char) : Option (Directive × List Char) :=
  let isFlag (char : Char) : Bool := char = '-' || char = '0' || char = '+' || char = ' ' || char = '#'
  let flags := text.takeWhile isFlag
  let text := text.dropWhile isFlag
  let width := text.takeWhile Char.isDigit
  let text := text.dropWhile Char.isDigit
  let (precision, text) := match text with
    | '.' :: rest =>
        (some (Decimal.digitsValue (rest.takeWhile Char.isDigit)), rest.dropWhile Char.isDigit)
    | _ => (none, text)
  match text with
  | letter :: rest => some (⟨flags, Decimal.digitsValue width, precision, letter⟩, rest)
  | [] => none

structure Number where
  value : Int
  fault : Option String := none

def notNumeric : String := "expected numeric value"

def numberOf (argument : List Char) : Number :=
  match argument with
  | [] => { value := 0 }
  | mark :: rest =>
      if mark = '"' || mark = '\x27' then { value := ((bytesOf rest).headD 0).toNat }
      else
        let (negative, text) := Decimal.cutSign (argument.dropWhile Char.isWhitespace)
        let (base, text) := match text with
          | '0' :: mark :: digit :: rest =>
              if (mark = 'x' || mark = 'X') && Digit.isIn 16 digit then (16, digit :: rest)
              else (8, text)
          | '0' :: _ => (8, text)
          | _ => (10, text)
        let digits := text.takeWhile (Digit.isIn base)
        let value : Int := (Digit.number? base digits).getD 0
        { value := if negative then -value else value
          fault :=
            if digits.isEmpty then some notNumeric
            else if digits.length < text.length then some "not completely converted"
            else none }

def Number.clamped (signed : Bool) (number : Number) : Number :=
  let (least, most) : Int × Int :=
    if signed then (-0x8000000000000000, 0x7FFFFFFFFFFFFFFF)
    else (-0xFFFFFFFFFFFFFFFF, 0xFFFFFFFFFFFFFFFF)
  let outOfRange (bound : Int) : Number := ⟨bound, some "Numerical result out of range"⟩
  if most < number.value then outOfRange most
  else if number.value < least then outOfRange (if signed then least else most)
  else number

def pad (directive : Directive) (bytes : List UInt8) : List UInt8 :=
  let missing := List.replicate (directive.width - bytes.length) 32
  if '-' ∈ directive.flags then bytes ++ missing else missing ++ bytes

/-- A number with its sign and at least as many digits as a directive asks for. -/
def padNumber (directive : Directive) (sign digits : List Char) : List UInt8 :=
  let fills := '0' ∈ directive.flags && '-' ∉ directive.flags && directive.precision.isNone
  let least := match directive.precision with
    | some count => count
    | none => if fills then directive.width - sign.length else 1
  let digits := if directive.precision = some 0 && digits = ['0'] then [] else digits
  pad directive (bytesOf (sign ++ List.replicate (least - digits.length) '0' ++ digits))

def signOf (directive : Directive) (value : Int) : List Char :=
  if value < 0 then ['-']
  else if '+' ∈ directive.flags then ['+']
  else if ' ' ∈ directive.flags then [' ']
  else []

def convert (directive : Directive) (argument : List Char) :
    Option (List UInt8 × Option String) :=
  let unsigned (base : Nat) (lead : List Char) (change : Char → Char) :
      List UInt8 × Option String :=
    let number := (numberOf argument).clamped false
    let value := (number.value % 0x10000000000000000).toNat
    let lead := if '#' ∈ directive.flags && value ≠ 0 then lead else []
    (padNumber directive lead ((Nat.toDigits base value).map change), number.fault)
  let signed (_ : Unit) : List UInt8 × Option String :=
    let number := (numberOf argument).clamped true
    (padNumber directive (signOf directive number.value) (Nat.toDigits 10 number.value.natAbs),
      number.fault)
  match directive.letter with
  | 's' =>
      let bytes := bytesOf argument
      some (pad directive ((directive.precision.map bytes.take).getD bytes), none)
  | 'b' => some (pad directive (unescape true (argument.length + 1) argument).1, none)
  | 'c' => some (pad directive (if argument.isEmpty then [0] else (bytesOf argument).take 1), none)
  | 'd' => some (signed ())
  | 'i' => some (signed ())
  | 'u' => some (unsigned 10 [] id)
  | 'o' => some (unsigned 8 ['0'] id)
  | 'x' => some (unsigned 16 ['0', 'x'] id)
  | 'X' => some (unsigned 16 ['0', 'X'] Char.toUpper)
  | _ => none

structure Pass where
  bytes : List UInt8 := []
  arguments : List (List Char)
  took : Bool := false
  more : Bool := true
  faults : List String := []
  broken : Option String := none

def pass : Nat → List Char → Pass → Pass
  | 0, _, state => state
  | _, [], state => state
  | fuel + 1, '%' :: '%' :: rest, state => pass fuel rest { state with bytes := state.bytes ++ [37] }
  | fuel + 1, '%' :: rest, state =>
      match readDirective? rest with
      | none => { state with more := false, broken := some "missing format character" }
      | some (directive, after) =>
          let argument := state.arguments.headD []
          match convert directive argument with
          | none =>
              let written := '%' :: rest.take (rest.length - after.length)
              { state with
                more := false
                broken := some (String.ofList written ++ ": invalid directive") }
          | some (bytes, fault) =>
              let state := { state with
                bytes := state.bytes ++ bytes, arguments := state.arguments.tail, took := true,
                faults := match fault with
                  | some fault => state.faults ++ [String.ofList argument ++ ": " ++ fault]
                  | none => state.faults
                more := directive.letter ≠ 'b' || (unescape true (argument.length + 1) argument).2 }
              if state.more then pass fuel after state else state
  | fuel + 1, '\\' :: rest, state =>
      let digits := (rest.take 3).takeWhile isOctal
      let length := if digits.isEmpty then 1 else digits.length
      let bytes := if rest.head? = some 'c' then bytesOf ['\\', 'c']
        else (unescape false 2 ('\\' :: rest.take length)).1
      let bytes := if rest.isEmpty then bytesOf ['\\'] else bytes
      pass fuel (rest.drop length) { state with bytes := state.bytes ++ bytes }
  | fuel + 1, char :: rest, state =>
      pass fuel rest { state with bytes := state.bytes ++ bytesOf [char] }

def applyAll : Nat → List Char → Pass → Pass
  | 0, _, state => state
  | rounds + 1, format, state =>
      let state := pass (format.length + 1) format { state with took := false }
      if state.more && state.took && !state.arguments.isEmpty then applyAll rounds format state
      else state

def apply (format : List Char) (arguments : List (List Char)) : Pass :=
  applyAll (arguments.length + 1) format { arguments }

end QueryShell.Posix.Format
