import QueryShell.Path
import QueryShell.Text.Blank

/-!
A tree of files held in memory. Paths are resolved as a file system does it: every name but the last
must be that of a directory.
-/

namespace QueryShell.Files

inductive FileError where
  | notFound
  | notDirectory
  | alreadyExists
  | isDirectory
  | noSpace
  | nameTooLong
  | embeddedNul
  | notText
deriving DecidableEq, Repr

namespace FileError

def message : FileError → String
  | notFound => "No such file or directory (os error 2)"
  | notDirectory => "Not a directory (os error 20)"
  | alreadyExists => "File exists (os error 17)"
  | isDirectory => "Is a directory (os error 21)"
  | noSpace => "No space left on device (os error 28)"
  | nameTooLong => "File name too long (os error 36)"
  | embeddedNul => "file name contained an unexpected NUL byte"
  | notText => "stream did not contain valid UTF-8"

end FileError

inductive Entry where
  | file (content : ByteArray)
  | directory
  | nullDevice
  | fullDevice

abbrev Location := List String

structure Tree where
  entries : List (Location × Entry) := []
  current : Location := []

namespace Tree

def entryAt? (tree : Tree) (location : Location) : Option Entry :=
  if location.isEmpty then some .directory else tree.entries.lookup location

def names (path : String) : List String :=
  (Text.pieces (· = '/') path.toList).map String.ofList

def follow (tree : Tree) (location : Location) : List String → Except FileError Location
  | [] => .ok location
  | name :: rest =>
      match tree.entryAt? location with
      | some .directory =>
          if name = "" || name = "." then tree.follow location rest
          else if name = ".." then tree.follow location.dropLast rest
          else if 255 < name.utf8ByteSize then .error .nameTooLong
          else tree.follow (location ++ [name]) rest
      | some _ => .error .notDirectory
      | none => .error .notFound

def locate (tree : Tree) (path : String) : Except FileError Location :=
  if path.isEmpty then .error .notFound
  else if '\x00' ∈ path.toList then .error .embeddedNul
  else tree.follow (if Path.isAbsolute path then [] else tree.current) (names path)

def find (tree : Tree) (path : String) : Except FileError Entry := do
  let location ← tree.locate path
  match tree.entryAt? location with
  | some entry => .ok entry
  | none => .error .notFound

def pathExists (tree : Tree) (path : String) : Bool :=
  match tree.find path with
  | .ok _ => true
  | .error _ => false

def isFile (tree : Tree) (path : String) : Bool :=
  match tree.find path with
  | .ok (.file _) => true
  | _ => false

def isDirectory (tree : Tree) (path : String) : Bool :=
  match tree.find path with
  | .ok .directory => true
  | _ => false

def read (tree : Tree) (path : String) : Except FileError ByteArray := do
  match ← tree.find path with
  | .file content => .ok content
  | .directory => .error .isDirectory
  | .nullDevice => .ok .empty
  | .fullDevice => .ok .empty

def readText (tree : Tree) (path : String) : Except FileError String := do
  match String.fromUTF8? (← tree.read path) with
  | some text => .ok text
  | none => .error .notText

def set (tree : Tree) (location : Location) (entry : Entry) : Tree :=
  if (tree.entries.lookup location).isSome then
    { tree with entries := tree.entries.map fun (place, old) =>
        if place = location then (place, entry) else (place, old) }
  else { tree with entries := tree.entries ++ [(location, entry)] }

def containsDirectory (tree : Tree) (location : Location) : Bool :=
  match tree.entryAt? location with
  | some .directory => true
  | _ => false

def write (tree : Tree) (path : String) (content : ByteArray) : Except FileError Tree := do
  let location ← tree.locate path
  match tree.entryAt? location with
  | some .directory => .error .isDirectory
  | some .nullDevice => .ok tree
  | some .fullDevice => if content.isEmpty then .ok tree else .error .noSpace
  | some (.file _) => .ok (tree.set location (.file content))
  | none =>
      if tree.containsDirectory location.dropLast then .ok (tree.set location (.file content))
      else .error .notFound

def append (tree : Tree) (path : String) (content : ByteArray) : Except FileError Tree :=
  match tree.find path with
  | .ok (.file old) => tree.write path (old ++ content)
  | _ => tree.write path content

def makeDirectories (tree : Tree) (location : Location) : Except FileError Tree :=
  ((List.range (location.length + 1)).map location.take).foldlM (fun tree place =>
    match tree.entryAt? place with
    | some .directory => .ok tree
    | some _ => .error (if place = location then .alreadyExists else .notDirectory)
    | none => .ok (tree.set place .directory)) tree

def locationOf (tree : Tree) (path : String) : Location :=
  (names path).foldl (fun location name =>
    if name = "" || name = "." then location
    else if name = ".." then location.dropLast
    else location ++ [name]) (if Path.isAbsolute path then [] else tree.current)

def removeAt (tree : Tree) (location : Location) : Tree :=
  { tree with entries := tree.entries.filter fun (place, _) => !location.isPrefixOf place }

def removeFile (tree : Tree) (path : String) : Bool × Tree :=
  match tree.locate path, tree.find path with
  | .ok location, .ok (.file _) => (true, tree.removeAt location)
  | _, _ => (false, tree)

def namesIn (tree : Tree) (location : Location) : List String :=
  tree.entries.filterMap fun (place, _) =>
    if place.dropLast = location then place.getLast? else none

def fresh : Tree where
  entries := [(["dev"], .directory), (["dev", "null"], .nullDevice), (["dev", "full"], .fullDevice),
    (["etc"], .directory), (["home"], .directory), (["home", "user"], .directory),
    (["tmp"], .directory), (["usr"], .directory)]
  current := ["home", "user"]

def currentPath (tree : Tree) : String := "/" ++ "/".intercalate tree.current

end Tree

end QueryShell.Files
