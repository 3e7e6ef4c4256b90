import QueryShell.Text.Blank

/-!
The tokens of SQL texts in the dialect of PostgreSQL.
-/

namespace QueryShell.Sql

inductive Token where
  | word (upper : String)
  | name
  | number
  | quoted
  | literal
  | placeholder
  | symbol (text : String)
deriving DecidableEq, Repr

namespace Token

def symbols : List String :=
  ["!~~*", "||/", "->>", "<=>", "#>>", "!~~", "!~*", "~~*", "->", "=>", "<=", "<>", "<<", "<@",
   ">=", ">>", "!=", "!!", "!~", "||", "|/", "&&", "^@", "~*", "~~", "#>", "#-", "@>", "@?", "@@",
   "?|", "?&", "::", ":=", "-", "+", "*", "/", "%", "=", "<", ">", "!", "|", "&", "^", "~", "#",
   "@", "?", ":", ".", ",", ";", "(", ")", "[", "]", "\x7b", "\x7d", "\\"]

def symbolAt? (text : List Char) : Option String :=
  symbols.find? fun symbol => symbol.toList.isPrefixOf text

def isWordStart (char : Char) : Bool :=
  char.isAlpha || char = '_' || (128 ≤ char.toNat && !Text.isBlank char)

def isWordPart (char : Char) : Bool := isWordStart char || char.isDigit || char = '$'

def skipComment (depth : Nat) : List Char → Option (List Char)
  | [] => none
  | '*' :: '/' :: rest => if depth = 0 then some rest else skipComment (depth - 1) rest
  | '/' :: '*' :: rest => skipComment (depth + 1) rest
  | _ :: rest => skipComment depth rest

def skipQuoted (quote : Char) : List Char → Option (List Char)
  | [] => none
  | [char] => if char = quote then some [] else none
  | first :: second :: rest =>
      if first = quote then
        if second = quote then skipQuoted quote rest else some (second :: rest)
      else skipQuoted quote (second :: rest)

def skipEscaped : List Char → Option (List Char)
  | [] => none
  | '\\' :: _ :: rest => skipEscaped rest
  | '\x27' :: '\x27' :: rest => skipEscaped rest
  | '\x27' :: rest => some rest
  | _ :: rest => skipEscaped rest

def skipTagged (tag : List Char) : List Char → Option (List Char)
  | [] => none
  | char :: rest =>
      if tag.isPrefixOf (char :: rest) then some ((char :: rest).drop tag.length)
      else skipTagged tag rest

def isDigit (char : Char) : Bool := char.isDigit

def skipNumber (text : List Char) : List Char :=
  let rest := text.dropWhile isDigit
  let rest := match rest with
    | '.' :: fraction => fraction.dropWhile isDigit
    | _ => rest
  match rest with
  | mark :: after =>
      if mark = 'e' || mark = 'E' then
        let digits := match after with
          | '+' :: digits => digits
          | '-' :: digits => digits
          | digits => digits
        if (digits.head?.map isDigit).getD false then digits.dropWhile isDigit else rest
      else rest
  | [] => rest

def readDollar (rest : List Char) : Option (Token × List Char) :=
  let isTagPart (char : Char) : Bool := char.isAlphanum || char = '_' || 128 ≤ char.toNat
  let tag := rest.takeWhile isTagPart
  match rest.dropWhile isTagPart with
  | '$' :: after => (skipTagged (['$'] ++ tag ++ ['$']) after).map fun rest => (literal, rest)
  | after => some (placeholder, after)

def readWord (text : List Char) : Token × List Char :=
  let chars := text.takeWhile isWordPart
  (if chars.all fun char => char.toNat < 128 then word (String.ofList (chars.map Char.toUpper))
    else name, text.dropWhile isWordPart)

def read : List Char → Option (Option Token × List Char)
  | [] => none
  | char :: rest =>
      let whole := char :: rest
      let found (token : Token) (rest : Option (List Char)) : Option (Option Token × List Char) :=
        rest.map fun rest => (some token, rest)
      if char = ' ' || char = '\t' || char = '\n' || char = '\x0d' then some (none, rest)
      else if "--".toList.isPrefixOf whole then some (none, rest.dropWhile (· ≠ '\n'))
      else if "/*".toList.isPrefixOf whole then
        (skipComment 0 (rest.drop 1)).map fun rest => (none, rest)
      else if char = '\x27' then found quoted (skipQuoted '\x27' rest)
      else if char = '"' then found name (skipQuoted '"' rest)
      else if (char = 'e' || char = 'E') && rest.head? = some '\x27' then
        found literal (skipEscaped (rest.drop 1))
      else if (char = 'n' || char = 'N' || char = 'x' || char = 'X') && rest.head? = some '\x27' then
        found literal (skipQuoted '\x27' (rest.drop 1))
      else if (char = 'u' || char = 'U') && "&'".toList.isPrefixOf rest then
        found literal (skipQuoted '\x27' (rest.drop 2))
      else if char = '$' then (readDollar rest).map fun (token, rest) => (some token, rest)
      else if isWordStart char then
        let (token, rest) := readWord whole
        some (some token, rest)
      else if isDigit char || (char = '.' && (rest.head?.map isDigit).getD false) then
        some (some number, skipNumber whole)
      else match symbolAt? whole with
        | some text => some (some (symbol text), whole.drop text.length)
        | none => none

def scan : Nat → List Char → Option (List Token)
  | _, [] => some []
  | 0, _ => none
  | fuel + 1, text => do
      let (token, rest) ← read text
      let tokens ← scan fuel rest
      return token.toList ++ tokens

def ofText? (text : List Char) : Option (List Token) := scan text.length text

end Token

end QueryShell.Sql
