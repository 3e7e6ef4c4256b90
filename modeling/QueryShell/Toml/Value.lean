import QueryShell.Number.Shortest

/-!
The values of TOML documents and the text of a value on one line.
-/

namespace QueryShell.Toml

inductive Value where
  | string (text : String)
  | integer (value : Int)
  | float (value : Binary64)
  | boolean (value : Bool)
  | dateTime (text : String)
  | array (items : List Value)
  | table (entries : List (String × Value))
deriving Repr

def dateTimeKey : String := "$__toml_private_datetime"

namespace Quoting

def isControl (char : Char) : Bool :=
  (char.toNat < 0x20 && char ≠ '\t' && char ≠ '\n') || char.toNat = 0x7F

def longestRun (sought : Char) (current longest : Nat) : List Char → Nat
  | [] => longest
  | char :: rest =>
      let current := if char = sought then current + 1 else 0
      longestRun sought current (max current longest) rest

def hexadecimal (value : Nat) : List Char :=
  let digits := (Nat.toDigits 16 value).map Char.toUpper
  List.replicate (4 - digits.length) '0' ++ digits

def escape (char : Char) : List Char :=
  match char with
  | '\x08' => "\\b".toList
  | '\t' => "\\t".toList
  | '\n' => "\\n".toList
  | '\x0c' => "\\f".toList
  | '\x0d' => "\\r".toList
  | '"' => "\\\"".toList
  | '\\' => "\\\\".toList
  | char => if isControl char then "\\u".toList ++ hexadecimal char.toNat else [char]

def escapeLines (quotes : Nat) : List Char → List Char
  | [] => []
  | '"' :: rest =>
      if quotes = 2 then escape '"' ++ escapeLines 0 rest else '"' :: escapeLines (quotes + 1) rest
  | '\n' :: rest => '\n' :: escapeLines 0 rest
  | char :: rest => escape char ++ escapeLines 0 rest

def basic (text : List Char) : List Char := ['"'] ++ text.flatMap escape ++ ['"']

def literal (text : List Char) : List Char := ['\x27'] ++ text ++ ['\x27']

def opening (quotes : String) (text : List Char) : List Char :=
  quotes.toList ++ (if text.contains '\n' then ['\n'] else [])

def basicLines (text : List Char) : List Char :=
  opening "\"\"\"" text ++ escapeLines 0 text ++ "\"\"\"".toList

def literalLines (text : List Char) : List Char := opening "'''" text ++ text ++ "'''".toList

def string (text : List Char) : List Char :=
  let doubles := longestRun '"' 0 0 text
  let singles := longestRun '\x27' 0 0 text
  let isPlain := !text.any isControl
  let hasLines := text.contains '\n'
  let hasEscape := text.contains '\\'
  if isPlain && !hasEscape && doubles = 0 && !hasLines then basic text
  else if isPlain && singles = 0 && !hasLines then literal text
  else if isPlain && !hasEscape && doubles ≤ 2 then basicLines text
  else if isPlain && singles ≤ 2 then literalLines text
  else if hasLines then basicLines text
  else basic text

def isKeyPart (char : Char) : Bool := char.isAlphanum || char = '_' || char = '-'

def key (text : List Char) : List Char :=
  let isPlain := !text.any fun char => isControl char || char = '\n'
  if !text.isEmpty && text.all isKeyPart then text
  else if isPlain && !text.contains '\\' && !text.contains '"' then basic text
  else if isPlain && !text.contains '\x27' then literal text
  else basic text

end Quoting

def floatText (value : Binary64) : String :=
  match value with
  | .nan => "nan"
  | value =>
      let text := Shortest.text value
      if text.toList.all fun char => char.isDigit || char = '-' then text ++ ".0" else text

namespace Value

mutual

def text : Value → String
  | string text => String.ofList (Quoting.string text.toList)
  | integer value => toString value
  | float value => floatText value
  | boolean value => if value then "true" else "false"
  | dateTime text => text
  | array items => "[" ++ ", ".intercalate (itemTexts items) ++ "]"
  | table entries =>
      match (entryTexts entries).mergeSort fun first second => decide (first.1 ≤ second.1) with
      | [] => "\x7b\x7d"
      | shown => "\x7b " ++ ", ".intercalate (shown.map Prod.snd) ++ " \x7d"

def itemTexts : List Value → List String
  | [] => []
  | item :: rest => item.text :: itemTexts rest

def entryTexts : List (String × Value) → List (String × String)
  | [] => []
  | (key, value) :: rest =>
      (key, String.ofList (Quoting.key key.toList) ++ " = " ++ value.text) :: entryTexts rest

end

def entries? : Value → Option (List (String × Value))
  | table entries => some entries
  | dateTime text => some [(dateTimeKey, string text)]
  | _ => none

def setting : Value → String
  | string text => text
  | dateTime content => (table [(dateTimeKey, string content)]).text
  | value => value.text

end Value

end QueryShell.Toml
