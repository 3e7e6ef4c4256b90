import QueryShell.Url.Address
import QueryShell.Url.Name

/-!
URLs with the parts that a connection description uses. The schemes of the web have hosts of their
own: a name that is compared without case, or an address of four numbers. Every other scheme takes
a host as it is written.
-/

namespace QueryShell

structure Url where
  scheme : String
  user : String := ""
  password : Option String := none
  host : Option String := none
  port : Option Nat := none
  path : String := ""
deriving DecidableEq, Repr

namespace Url

inductive Fault where
  | relative
  | invalidPort
  | emptyHost
  | invalidGroups
  | invalidQuad
  | forbiddenCharacter
  | invalidName
deriving DecidableEq, Repr

def Fault.message : Fault → String
  | relative => "relative URL without a base"
  | invalidPort => "invalid port number"
  | emptyHost => "empty host"
  | invalidGroups => "invalid IPv6 address"
  | invalidQuad => "invalid IPv4 address"
  | forbiddenCharacter => "invalid domain character"
  | invalidName => "invalid international domain name"

inductive SchemeKind where
  | plain
  | web
  | file
deriving DecidableEq, Repr

def SchemeKind.of (scheme : String) : SchemeKind :=
  if scheme ∈ ["http", "https", "ws", "wss", "ftp"] then web
  else if scheme = "file" then file
  else plain

def cleaned (text : List Char) : List Char :=
  let isEdge (char : Char) : Bool := char.toNat ≤ 0x20
  let trimmed := ((text.dropWhile isEdge).reverse.dropWhile isEdge).reverse
  trimmed.filter fun char => !(char = '\t' || char = '\n' || char = '\x0d')

def isSchemePart (char : Char) : Bool :=
  char.isAlphanum || char = '+' || char = '-' || char = '.'

def cutScheme? (text : List Char) : Option (String × List Char) :=
  match text.takeWhile isSchemePart, text.dropWhile isSchemePart with
  | first :: scheme, ':' :: rest =>
      if first.isAlpha then some (String.ofList ((first :: scheme).map Char.toLower), rest)
      else none
  | _, _ => none

def endsAuthority (kind : SchemeKind) (char : Char) : Bool :=
  char = '/' || char = '?' || char = '#' || (char = '\\' && kind ≠ .plain)

def cutLastAt? (text : List Char) : Option (List Char × List Char) :=
  let after := text.reverse.takeWhile (· ≠ '@')
  if after.length = text.length then none
  else some (text.take (text.length - after.length - 1), after.reverse)

def encoded (text : List Char) : String :=
  String.ofList (Percent.encode Percent.inUserInfo text)

def userInfo (text : List Char) : String × Option String :=
  let user := encoded (text.takeWhile (· ≠ ':'))
  match text.dropWhile (· ≠ ':') with
  | _ :: [] => (user, none)
  | _ :: password => (user, some (encoded password))
  | [] => (user, none)

def hostLength (inBrackets : Bool) : List Char → Nat
  | [] => 0
  | ':' :: rest => if inBrackets then hostLength inBrackets rest + 1 else 0
  | char :: rest =>
      hostLength (if char = '[' then true else if char = ']' then false else inBrackets) rest + 1

def isForbidden (char : Char) : Bool :=
  char = '\x00' || char ∈ "\t\n\x0d #/:<>?@[\\]^|".toList

def bracketedHost (text : List Char) : Except Fault String :=
  if text.getLast? = some ']' then
    match Address.ofText? (text.drop 1).dropLast with
    | some groups => .ok ("[" ++ String.ofList (Address.text groups) ++ "]")
    | none => .error .invalidGroups
  else .error .invalidGroups

def webHost (text : List Char) : Except Fault String :=
  match Percent.decode? text with
  | none => .error .invalidName
  | some decoded =>
      let name := Name.normalized decoded.toList
      if !Name.isName name then .error .invalidName
      else if name.isEmpty then .error .emptyHost
      else if Quad.isMeant name then
        match Quad.value? name with
        | some value => .ok (String.ofList (Quad.text value))
        | none => .error .invalidQuad
      else .ok (String.ofList name)

def hostOf (kind : SchemeKind) (text : List Char) : Except Fault String :=
  if text.head? = some '[' then bracketedHost text
  else if kind ≠ .plain then webHost text
  else if text.any isForbidden then .error .forbiddenCharacter
  else .ok (String.ofList (Percent.encode Percent.isControl text))

def portOf (digits : List Char) : Except Fault (Option Nat) :=
  if digits.isEmpty then .ok none
  else match (Decimal.natOfText? digits).filter (· < 65536) with
    | some port => .ok (some port)
    | none => .error .invalidPort

def isDot (segment : List Char) : Bool :=
  [".", "%2e"].any fun dot => dot.toList = segment.map Char.toLower

def isDoubleDot (segment : List Char) : Bool :=
  ["..", "%2e%2e", "%2e.", ".%2e"].any fun dots => dots.toList = segment.map Char.toLower

def isDrive : List Char → Bool
  | letter :: mark :: rest =>
      letter.isAlpha && (mark = ':' || mark = '|') && (rest.isEmpty || rest.head? = some '\\')
  | _ => false

/-- Resolves the dot segments of a path; `before` has the segments before, the last one first. -/
def resolve (before : List (List Char)) : List (List Char) → List (List Char)
  | [] => before.reverse
  | segment :: rest =>
      let before :=
        if isDoubleDot segment then
          match before with
          | last :: others => if isDrive last then before else others
          | [] => []
        else if isDot segment then before
        else segment :: before
      if rest.isEmpty && (isDot segment || isDoubleDot segment) then ([] :: before).reverse
      else resolve before rest

def pathAfterSlash (kind : SchemeKind) (text : List Char) : String :=
  let isSlash (char : Char) : Bool := char = '/' || (char = '\\' && kind ≠ .plain)
  let segments := (Text.pieces isSlash text).map (Percent.encode Percent.inPath)
  String.ofList ('/' :: ['/'].intercalate (resolve [] segments))

def beforeQuery (text : List Char) : List Char :=
  text.takeWhile fun char => !(char = '?' || char = '#')

def pathOf (kind : SchemeKind) (text : List Char) : String :=
  match beforeQuery text with
  | [] => if kind = .plain then "" else "/"
  | first :: rest =>
      if endsAuthority kind first then
        if first = '\\' && kind = .plain then pathAfterSlash kind (first :: rest)
        else pathAfterSlash kind rest
      else pathAfterSlash kind (first :: rest)

def ofAuthority (scheme : String) (kind : SchemeKind) (text : List Char) : Except Fault Url := do
  let authority := text.takeWhile fun char => !endsAuthority kind char
  let after := text.dropWhile fun char => !endsAuthority kind char
  let split := cutLastAt? authority
  let (user, password) := ((split.map fun (info, _) => userInfo info)).getD ("", none)
  let place := (split.map Prod.snd).getD authority
  let isBare := (split.map fun (info, _) => info.isEmpty).getD false
  if isBare && place.isEmpty && !after.isEmpty then throw .emptyHost
  let length := hostLength false place
  let written := place.take length
  if kind ≠ .plain && written.isEmpty then throw .emptyHost
  let host ← hostOf kind written
  let rest := place.drop length
  if host.isEmpty && !rest.isEmpty then throw .emptyHost
  let digits := (rest.drop 1).takeWhile (· ≠ '\\')
  let port ← portOf digits
  if host.isEmpty && (user ≠ "" || password.isSome) then throw .emptyHost
  return {
    scheme, user, password, port
    host := if host.isEmpty then none else some host
    path := pathOf kind ((rest.drop 1).drop digits.length ++ after) }

def ofFile (text : List Char) : Except Fault Url :=
  let isSlash (char : Char) : Bool := char = '/' || char = '\\'
  match text with
  | first :: second :: rest =>
      if isSlash first && isSlash second then
        let named := rest.takeWhile fun char => !endsAuthority .file char
        let after := rest.dropWhile fun char => !endsAuthority .file char
        if named.isEmpty || (named.length = 2 && isDrive named) then
          .ok { scheme := "file", path := pathOf .file (if named.isEmpty then after else rest) }
        else (hostOf .file named).map fun host =>
          { scheme := "file", host := if host = "localhost" then none else some host,
            path := pathOf .file after }
      else .ok { scheme := "file", path := pathOf .file text }
  | _ => .ok { scheme := "file", path := pathOf .file text }

def ofText (text : String) : Except Fault Url :=
  match cutScheme? (cleaned text.toList) with
  | none => .error .relative
  | some (scheme, rest) =>
      let kind := SchemeKind.of scheme
      match kind with
      | .file => ofFile rest
      | .web => ofAuthority scheme kind (rest.dropWhile fun char => char = '/' || char = '\\')
      | .plain =>
          match rest with
          | '/' :: '/' :: authority => ofAuthority scheme kind authority
          | '/' :: path => .ok { scheme, path := pathAfterSlash kind (beforeQuery path) }
          | path =>
              .ok { scheme, path := String.ofList (Percent.encode Percent.isControl (beforeQuery path)) }

end Url

end QueryShell
