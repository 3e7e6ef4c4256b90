/-!
The length of a text in UTF-8, and the decoding of bytes that need not be UTF-8. Each maximal part
that can begin no character, or that stops short of one, is read as the replacement character.
-/

namespace QueryShell.Text

def byteSize (text : List Char) : Nat := text.foldr (fun char size => char.utf8Size + size) 0

def sequenceAfter (lead : Nat) : Option (Nat × Nat × Nat) :=
  if 0xC2 ≤ lead && lead ≤ 0xDF then some (1, 0x80, 0xBF)
  else if lead = 0xE0 then some (2, 0xA0, 0xBF)
  else if lead = 0xED then some (2, 0x80, 0x9F)
  else if 0xE1 ≤ lead && lead ≤ 0xEF then some (2, 0x80, 0xBF)
  else if lead = 0xF0 then some (3, 0x90, 0xBF)
  else if 0xF1 ≤ lead && lead ≤ 0xF3 then some (3, 0x80, 0xBF)
  else if lead = 0xF4 then some (3, 0x80, 0x8F)
  else none

/-- What is owed after the bytes read so far: the value of the character, the number of bytes
still to come and the bounds of the next one. -/
structure Partial where
  value : Nat
  owed : Nat
  least : Nat
  most : Nat

def startByte (byte : Nat) : List Char × Option Partial :=
  if byte < 0x80 then ([Char.ofNat byte], none)
  else match sequenceAfter byte with
    | none => (['\uFFFD'], none)
    | some (owed, least, most) =>
        let kept := if owed = 1 then byte % 32 else if owed = 2 then byte % 16 else byte % 8
        ([], some ⟨kept, owed, least, most⟩)

def decodeAfter : Option Partial → List UInt8 → List Char
  | none, [] => []
  | some _, [] => ['\uFFFD']
  | none, byte :: rest =>
      let (chars, opened) := startByte byte.toNat
      chars ++ decodeAfter opened rest
  | some opened, byte :: rest =>
      if opened.least ≤ byte.toNat && byte.toNat ≤ opened.most then
        let value := opened.value * 64 + byte.toNat % 64
        if opened.owed = 1 then Char.ofNat value :: decodeAfter none rest
        else decodeAfter (some ⟨value, opened.owed - 1, 0x80, 0xBF⟩) rest
      else
        let (chars, reopened) := startByte byte.toNat
        '\uFFFD' :: chars ++ decodeAfter reopened rest

def decodeLossy (bytes : ByteArray) : String :=
  match String.fromUTF8? bytes with
  | some text => text
  | none => String.ofList (decodeAfter none bytes.toList)

end QueryShell.Text
