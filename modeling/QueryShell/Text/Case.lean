import QueryShell.Text.CaseTable

/-!
Full Unicode case conversion. A capital sigma at the end of a word becomes the final small sigma.
-/

namespace QueryShell.Text

def inRanges (ranges : List (Nat × Nat)) (char : Char) : Bool :=
  ranges.any fun (first, last) => first ≤ char.toNat && char.toNat ≤ last

def shiftByRuns (runs : List (Nat × Nat × Nat × Int)) (char : Char) : Char :=
  let code := char.toNat
  match runs.find? fun (first, last, stride, _) =>
      first ≤ code && code ≤ last && (code - first) % stride = 0 with
  | some (_, _, _, shift) => Char.ofNat (code + shift).toNat
  | none => char

def lowerChar (char : Char) : List Char :=
  if char.toNat < 128 then [char.toLower]
  else if char = '\u0130' then ['i', '\u0307']
  else [shiftByRuns lowerRuns char]

def upperChar (char : Char) : List Char :=
  if char.toNat < 128 then [char.toUpper]
  else match upperExpansions.find? fun (code, _) => code = char.toNat with
    | some (_, codes) => codes.map Char.ofNat
    | none => [shiftByRuns upperRuns char]

def meetsCased (text : List Char) : Bool :=
  match text.dropWhile (inRanges ignorableRanges) with
  | [] => false
  | char :: _ => inRanges casedRanges char

def lowerAfter (before : List Char) : List Char → List Char
  | [] => []
  | char :: rest =>
      (if char = 'Σ' then (if meetsCased before && !meetsCased rest then ['ς'] else ['σ'])
        else lowerChar char) ++ lowerAfter (char :: before) rest

def lower (text : List Char) : List Char := lowerAfter [] text

def upper (text : List Char) : List Char := text.flatMap upperChar

def lowerAscii (text : List Char) : List Char := text.map Char.toLower

def lowered (text : String) : String := String.ofList (lower text.toList)

end QueryShell.Text
