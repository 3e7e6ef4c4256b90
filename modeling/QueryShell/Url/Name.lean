import QueryShell.Text.Blank

/-!
The names of hosts on the web. Wide forms of characters stand for the plain ones, case does not
count, and a label may be written in the Punycode form, after `xn--`.
-/

namespace QueryShell.Url.Name

def isIgnored (char : Char) : Bool :=
  char = '\u00AD' || char = '\u200B' || char = '\u2060' || char = '\uFEFF'

def isPeriod (char : Char) : Bool := char = '\u3002' || char = '\uFF0E' || char = '\uFF61'

def plain (char : Char) : Char :=
  let code := char.toNat
  if isPeriod char then '.'
  else if 0xFF01 ≤ code && code ≤ 0xFF5E then (Char.ofNat (code - 0xFEE0)).toLower
  else char.toLower

def normalized (text : List Char) : List Char := (text.filter fun char => !isIgnored char).map plain

def isForbidden (char : Char) : Bool :=
  let code := char.toNat
  code ≤ 0x20 || (0x7F ≤ code && code < 0xA0) || code = 0xFFFD || char ∈ "#%/:<>?@[\\]^|".toList

namespace Punycode

def digit? (char : Char) : Option Nat :=
  if char.isLower then some (char.toNat - 97)
  else if char.isDigit then some (char.toNat - 22)
  else none

def adapt : (fuel delta : Nat) → Nat
  | 0, _ => 0
  | fuel + 1, delta =>
      if 455 < delta then 36 + adapt fuel (delta / 35) else 36 * delta / (delta + 38)

def readNumber (bias : Nat) : (place weight value : Nat) → List Char → Option (Nat × List Char)
  | _, _, _, [] => none
  | place, weight, value, char :: rest => do
      let digit ← digit? char
      let threshold := if place ≤ bias then 1 else min 26 (place - bias)
      let value := value + digit * weight
      if digit < threshold then return (value, rest)
      else readNumber bias (place + 36) (weight * (36 - threshold)) value rest

def areNumbers (isFirst : Bool) : (fuel bias count code index : Nat) → List Char → Bool
  | 0, _, _, _, _, _ => false
  | _, _, _, _, _, [] => true
  | fuel + 1, bias, count, code, index, text =>
      match readNumber bias 36 1 0 text with
      | none => false
      | some (delta, rest) =>
          let places := count + 1
          let code := code + (index + delta) / places
          let scaled := if isFirst then delta / 700 else delta / 2
          let bias := adapt (scaled + 1) (scaled + scaled / places)
          0xA0 ≤ code && code.isValidChar &&
            areNumbers false fuel bias places code ((index + delta) % places + 1) rest

def isForm (text : List Char) : Bool :=
  let coded := (text.reverse.takeWhile (· ≠ '-')).reverse
  let count := text.length - coded.length - 1
  !coded.isEmpty && areNumbers true (coded.length + 1) 72 count 128 0 coded

end Punycode

def mark : List Char := "xn--".toList

def isLabel (label : List Char) : Bool :=
  !mark.isPrefixOf label || Punycode.isForm (label.drop mark.length)

def isName (name : List Char) : Bool :=
  !name.any isForbidden && (Text.pieces (· = '.') name).all isLabel

end QueryShell.Url.Name
