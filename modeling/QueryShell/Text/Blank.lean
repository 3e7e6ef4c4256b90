/-!
White space in the sense of the Unicode property White_Space, with the trimming and the splitting
into words that rest on it.
-/

namespace QueryShell.Text

def isBlank (char : Char) : Bool :=
  let code := char.toNat
  (9 ≤ code && code ≤ 13) || code = 0x20 || code = 0x85 || code = 0xA0 || code = 0x1680 ||
    (0x2000 ≤ code && code ≤ 0x200A) || code = 0x2028 || code = 0x2029 || code = 0x202F ||
    code = 0x205F || code = 0x3000

def trimStart (text : List Char) : List Char := text.dropWhile isBlank

def trimEnd (text : List Char) : List Char := (text.reverse.dropWhile isBlank).reverse

def trim (text : List Char) : List Char := trimEnd (trimStart text)

def pieces (separates : Char → Bool) : List Char → List (List Char)
  | [] => [[]]
  | char :: rest =>
      if separates char then [] :: pieces separates rest
      else match pieces separates rest with
        | [] => [[char]]
        | first :: others => (char :: first) :: others

def words (text : List Char) : List (List Char) :=
  (pieces isBlank text).filter (fun piece => !piece.isEmpty)

def firstWord (text : List Char) : List Char × List Char :=
  let trimmed := trim text
  (trimmed.takeWhile (fun char => !isBlank char),
    trim (trimmed.dropWhile (fun char => !isBlank char)))

def trimmed (text : String) : String := String.ofList (trim text.toList)

def isBlankText (text : String) : Bool := text.toList.all isBlank

end QueryShell.Text
