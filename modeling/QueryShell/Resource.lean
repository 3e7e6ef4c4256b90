import QueryShell.Failure
import QueryShell.Text.Blank
import QueryShell.Text.Case
import Std.Data.TreeMap

/-!
References to auxiliary files that a session holds, in one ordered list per kind.
-/

namespace QueryShell.Resource

inductive Kind where
  | jar
  | file
  | archive
deriving DecidableEq, Repr, Ord

namespace Kind

def name : Kind → String
  | jar => "JAR"
  | file => "FILE"
  | archive => "ARCHIVE"

def alternatives : String := "|".intercalate ([jar, file, archive].map name)

def ofWord? (word : List Char) : Option Kind :=
  let upper := Text.upper (Text.trim word)
  let singular := if upper.getLast? = some 'S' then upper.dropLast else upper
  [jar, file, archive].find? fun kind => kind.name.toList = singular

def ofText (text : String) : Except Failure Kind :=
  match ofWord? text.toList with
  | some kind => .ok kind
  | none => .error (.usage
      ("unknown resource type '" ++ text ++ "', expected one of " ++ alternatives))

end Kind

/-- The references held, filed under their kinds. A kind that lost its references one by one keeps an
empty entry, and a kind that lost all of them at once has no entry, as at the start. -/
structure Holdings where
  entries : Std.TreeMap Kind (List String) := ∅
deriving Repr

namespace Holdings

def held (holdings : Holdings) (kind : Kind) : List String := holdings.entries.getD kind []

def jars (holdings : Holdings) : List String := holdings.held .jar

def files (holdings : Holdings) : List String := holdings.held .file

def archives (holdings : Holdings) : List String := holdings.held .archive

def add (kind : Kind) (value : String) (holdings : Holdings) : Bool × Holdings :=
  if value ∈ holdings.held kind then (false, holdings)
  else (true, ⟨holdings.entries.insert kind (holdings.held kind ++ [value])⟩)

def remove (kind : Kind) (values : List String) (holdings : Holdings) : Holdings :=
  if values.isEmpty then ⟨holdings.entries.erase kind⟩
  else ⟨holdings.entries.modify kind fun held => held.filter fun value => value ∉ values⟩

def list (kind : Kind) (filter : Option (List String)) (holdings : Holdings) : List String :=
  match filter with
  | none => holdings.held kind
  | some values => (holdings.held kind).filter fun value => value ∈ values

def isEmpty (holdings : Holdings) : Bool :=
  holdings.entries.toList.all fun (_, held) => held.isEmpty

end Holdings

end QueryShell.Resource
