import QueryShell.Number.Digit

/-!
Percent encoding. A character that may not stand for itself is written as its UTF-8 bytes, each as a
percent sign and two hexadecimal digits.
-/

namespace QueryShell.Url.Percent

def digit (value : Nat) : Char :=
  if value < 10 then Char.ofNat (48 + value) else Char.ofNat (55 + value)

def escapeByte (byte : UInt8) : List Char :=
  ['%', digit (byte.toNat / 16), digit (byte.toNat % 16)]

def escape (char : Char) : List Char := (String.utf8EncodeChar char).flatMap escapeByte

def encode (escapes : Char → Bool) (text : List Char) : List Char :=
  text.flatMap fun char => if escapes char then escape char else [char]

def isControl (char : Char) : Bool := char.toNat < 0x20 || 0x7F ≤ char.toNat

def inPath (char : Char) : Bool := isControl char || char ∈ " \"#<>?\x60\x7b\x7d".toList

def inUserInfo (char : Char) : Bool := inPath char || char ∈ "/:;=@[\\]^|".toList

def bytes : List Char → List UInt8
  | '%' :: high :: low :: rest =>
      match Digit.value? high, Digit.value? low with
      | some high, some low => UInt8.ofNat (16 * high + low) :: bytes rest
      | _, _ => '%'.toUInt8 :: bytes (high :: low :: rest)
  | char :: rest => String.utf8EncodeChar char ++ bytes rest
  | [] => []

def decode? (text : List Char) : Option String :=
  String.fromUTF8? ⟨(bytes text).toArray⟩

end QueryShell.Url.Percent
