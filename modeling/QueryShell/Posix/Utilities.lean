import QueryShell.Posix.Condition
import QueryShell.Posix.Format
import QueryShell.Posix.State
import QueryShell.Text.Search

/-!
The utilities of a command line. Each takes its arguments, writes to the descriptors and leaves an
exit status.
-/

namespace QueryShell.Posix

abbrev Utility := Descriptors → List String → State → State

namespace Utility

def complain (descriptors : Descriptors) (message : String) (state : State) : State :=
  (state.emit descriptors 2 (message ++ "\n").toUTF8).withStatus 1

def writeOr (failed : State → State) (descriptors : Descriptors) (bytes : ByteArray)
    (state : State) : State :=
  let after := state.withStatus 0 |>.emit descriptors 1 bytes
  if after.status = 0 then after else failed after

def write (name : String) (descriptors : Descriptors) : ByteArray → State → State :=
  writeOr (State.complain descriptors (name ++ ": " ++ name ++ ": I/O error") 1) descriptors

def writeApart (name : String) (descriptors : Descriptors) : ByteArray → State → State :=
  writeOr (complain descriptors (name ++ ": write error: No space left on device")) descriptors

def seeHelp (name message : String) : String :=
  name ++ ": " ++ message ++ "\nTry '" ++ name ++ " --help' for more information."

def reason (error : Files.FileError) : String :=
  match error with
  | .notFound => "No such file or directory"
  | .notDirectory => "Not a directory"
  | .alreadyExists => "File exists"
  | .isDirectory => "Is a directory"
  | .noSpace => "No space left on device"
  | .nameTooLong => "File name too long"
  | .embeddedNul => "No such file or directory"
  | .notText => "Invalid argument"

def echo : Utility := fun descriptors arguments state =>
  let (newline, arguments) := match arguments with
    | "-n" :: rest => (false, rest)
    | _ => (true, arguments)
  let text := (" ".intercalate arguments).toList
  let (bytes, more) := Format.unescape true (text.length + 1) text
  let bytes := if newline && more then bytes ++ [10] else bytes
  write "echo" descriptors ⟨bytes.toArray⟩ state

def printf : Utility := fun descriptors arguments state =>
  let arguments := if arguments.head? = some "--" then arguments.tail else arguments
  match arguments with
  | [] => state.complain descriptors "printf: usage: printf format [arg ...]" 2
  | format :: arguments =>
      let result := Format.apply format.toList (arguments.map String.toList)
      let complained := result.faults.foldl (fun state fault =>
        state.complain descriptors ("printf: " ++ fault) 1) (state.withStatus 0)
      let written := write "printf" descriptors ⟨result.bytes.toArray⟩ complained
      match result.broken with
      | some reason => written.complain descriptors ("printf: " ++ reason) 2
      | none => written.withStatus (max complained.status written.status)

def contentOf (path : String) (state : State) : Except Files.FileError ByteArray × State :=
  if path = "-" then (.ok state.input, { state with input := .empty })
  else (state.tree.read path, state)

def catAll (descriptors : Descriptors) (failed : Bool) (paths : List String) (state : State) :
    State :=
  match paths with
  | [] => state.withStatus (if failed then 1 else 0)
  | path :: rest =>
      match contentOf path state with
      | (.error error, state) =>
          catAll descriptors true rest
            (complain descriptors ("cat: " ++ path ++ ": " ++ reason error) state)
      | (.ok bytes, state) =>
          let state := writeApart "cat" descriptors bytes state
          if state.status = 0 then catAll descriptors failed rest state else state

def cat : Utility := fun descriptors arguments state =>
  let paths := arguments.filter fun argument => argument ≠ "-u" && argument ≠ "--"
  match paths.find? fun path => path.toList.head? = some '-' && path ≠ "-" with
  | some option =>
      let letter := (option.toList.drop 1).take 1
      complain descriptors (seeHelp "cat" ("invalid option -- '" ++ String.ofList letter ++ "'"))
        state
  | none => catAll descriptors false (if paths.isEmpty then ["-"] else paths) state

def progression (first step last : Int) : List Int :=
  if step = 0 then []
  else
    let count := if step > 0 then (last - first) / step + 1 else (first - last) / (-step) + 1
    (List.range count.toNat).map fun (index : Nat) => first + step * (index : Int)

structure Sequence where
  separator : String := "\n"
  sameWidth : Bool := false
  numbers : List String := []

def readSequence (sequence : Sequence) : List String → Sequence
  | [] => sequence
  | "-w" :: rest => readSequence { sequence with sameWidth := true } rest
  | "-s" :: separator :: rest => readSequence { sequence with separator } rest
  | "--" :: rest => { sequence with numbers := sequence.numbers ++ rest }
  | argument :: rest =>
      match argument.toList with
      | '-' :: 's' :: separator =>
          readSequence { sequence with separator := String.ofList separator } rest
      | _ => readSequence { sequence with numbers := sequence.numbers ++ [argument] } rest

def numberTexts (sameWidth : Bool) (numbers : List Int) : List String :=
  let width := if sameWidth then
    (numbers.map fun number => (toString number).length).foldl max 0 else 0
  numbers.map fun number =>
    let sign := if number < 0 then "-" else ""
    let digits := toString number.natAbs
    sign ++ String.ofList (List.replicate (width - sign.length - digits.length) '0') ++ digits

def seq : Utility := fun descriptors arguments state =>
  let sequence := readSequence {} arguments
  let print (numbers : List Int) : State :=
    if numbers.isEmpty then state.withStatus 0
    else
      let text := sequence.separator.intercalate (numberTexts sequence.sameWidth numbers) ++ "\n"
      writeApart "seq" descriptors text.toUTF8 state
  let refuse (message : String) : State := complain descriptors (seeHelp "seq" message) state
  match sequence.numbers.drop 3, sequence.numbers.mapM Condition.integer? with
  | extra :: _, _ => refuse ("extra operand '" ++ extra ++ "'")
  | [], some [] => refuse "missing operand"
  | [], some [last] => print (progression 1 1 last)
  | [], some [first, last] => print (progression first 1 last)
  | [], some (first :: step :: last :: _) =>
      if step = 0 then
        refuse ("invalid Zero increment value: '" ++ sequence.numbers.getD 1 "0" ++ "'")
      else print (progression first step last)
  | [], none =>
      let wrong := sequence.numbers.find? fun number => (Condition.integer? number).isNone
      match wrong.map String.toList with
      | some ('-' :: letter :: _) => refuse ("invalid option -- '" ++ String.singleton letter ++ "'")
      | _ => refuse ("invalid floating point argument: '" ++ wrong.getD "" ++ "'")

def byteLines (bytes : ByteArray) : List (List UInt8) :=
  bytes.toList.foldr (fun byte lines =>
    if byte = 10 then [byte] :: lines
    else match lines with
      | [] => [[byte]]
      | line :: others => (byte :: line) :: others) []

structure Extent where
  bytes : Bool := false
  fromStart : Bool := false
  count : Nat := 10
  paths : List String := []

def extentOf (count : String) (extent : Extent) : Except String Extent :=
  let (fromStart, digits) := match count.toList with
    | '+' :: digits => (true, digits)
    | '-' :: digits => (false, digits)
    | digits => (false, digits)
  match Decimal.natOfText? digits with
  | some number => .ok { extent with fromStart, count := number }
  | none =>
      let unit := if extent.bytes then "bytes" else "lines"
      .error ("invalid number of " ++ unit ++ ": '" ++ count ++ "'")

def readExtent (name : String) (extent : Extent) : List String → Except String Extent
  | [] => .ok extent
  | "--" :: rest => .ok { extent with paths := extent.paths ++ rest }
  | "-n" :: count :: rest => do
      readExtent name (← extentOf count { extent with bytes := false }) rest
  | "-c" :: count :: rest => do
      readExtent name (← extentOf count { extent with bytes := true }) rest
  | argument :: rest =>
      match argument.toList with
      | ['-'] => readExtent name { extent with paths := extent.paths ++ ["-"] } rest
      | '-' :: 'n' :: count => do
          readExtent name (← extentOf (String.ofList count) { extent with bytes := false }) rest
      | '-' :: 'c' :: count => do
          readExtent name (← extentOf (String.ofList count) { extent with bytes := true }) rest
      | '-' :: letter :: digits =>
          if letter.isDigit then do
            readExtent name (← extentOf (String.ofList (letter :: digits)) extent) rest
          else .error ("invalid option -- '" ++ String.singleton letter ++
            "'\nTry '" ++ name ++ " --help' for more information.")
      | _ => readExtent name { extent with paths := extent.paths ++ [argument] } rest

structure Excerpt where
  name : String
  choose : {Item : Type} → Extent → List Item → List Item

namespace Excerpt

def ofBytes (excerpt : Excerpt) (extent : Extent) (bytes : ByteArray) : List UInt8 :=
  if extent.bytes then excerpt.choose extent bytes.toList
  else (excerpt.choose extent (byteLines bytes)).flatten

def unreadable (excerpt : Excerpt) (path : String) (error : Files.FileError) : String :=
  excerpt.name ++ ": " ++
    (if error = .isDirectory then "error reading '" ++ path ++ "': "
     else "cannot open '" ++ path ++ "' for reading: ") ++ reason error

def printAll (excerpt : Excerpt) (descriptors : Descriptors) (extent : Extent)
    (titled failed first : Bool) (paths : List String) (state : State) : State :=
  match paths with
  | [] => state.withStatus (if failed then 1 else 0)
  | path :: rest =>
      let title := if titled then (if first then "" else "\n") ++ "==> " ++
        (if path = "-" then "standard input" else path) ++ " <==\n" else ""
      match contentOf path state with
      | (.error error, state) =>
          let state := if error = .isDirectory then
            writeApart excerpt.name descriptors title.toUTF8 state else state
          excerpt.printAll descriptors extent titled true (first && error ≠ .isDirectory) rest
            (complain descriptors (excerpt.unreadable path error) state)
      | (.ok bytes, state) =>
          let chosen := title.toUTF8 ++ ⟨(excerpt.ofBytes extent bytes).toArray⟩
          let state := writeApart excerpt.name descriptors chosen state
          if state.status = 0 then
            excerpt.printAll descriptors extent titled failed false rest state
          else state

def run (excerpt : Excerpt) : Utility := fun descriptors arguments state =>
  match readExtent excerpt.name {} arguments with
  | .error message => complain descriptors (excerpt.name ++ ": " ++ message) state
  | .ok extent =>
      let paths := if extent.paths.isEmpty then ["-"] else extent.paths
      excerpt.printAll descriptors extent (1 < paths.length) false true paths state

end Excerpt

def tail : Utility := fun descriptors arguments state =>
  let excerpt : Excerpt := {
    name := "tail"
    choose := fun extent items =>
      if extent.fromStart then items.drop (extent.count - 1)
      else items.drop (items.length - extent.count) }
  match readExtent "tail" {} arguments with
  | .ok extent =>
      if extent.count = 0 && !extent.fromStart then state.withStatus 0
      else excerpt.run descriptors arguments state
  | .error _ => excerpt.run descriptors arguments state

def head : Utility :=
  Excerpt.run { name := "head", choose := fun extent items => items.take extent.count }

def condition (name : String) : Utility := fun descriptors arguments state =>
  match Condition.holds state.tree arguments with
  | .ok true => state.withStatus 0
  | .ok false => state.withStatus 1
  | .error message => state.complain descriptors (name ++ ": " ++ message) 2

def test : Utility := condition "test"

def rm : Utility := fun descriptors arguments state =>
  let isOption (argument : String) : Bool := argument.toList.head? = some '-' && argument ≠ "-"
  let options := (arguments.filter isOption).flatMap String.toList
  let paths := arguments.filter fun argument => !isOption argument
  let force := 'f' ∈ options
  let recursive := 'r' ∈ options || 'R' ∈ options
  match options.find? fun letter => letter ∉ "-fivrRd".toList with
  | some letter =>
      complain descriptors (seeHelp "rm" ("invalid option -- '" ++ String.singleton letter ++ "'"))
        state
  | none =>
      if paths.isEmpty then
        if force then state.withStatus 0 else complain descriptors (seeHelp "rm" "missing operand") state
      else
        paths.foldl (fun state path =>
          let refuse (reason : String) : State :=
            complain descriptors ("rm: cannot remove '" ++ path ++ "': " ++ reason) state
          match state.tree.locate path, state.tree.find path with
          | .ok location, .ok entry =>
              match entry, recursive with
              | .directory, false => refuse "Is a directory"
              | _, _ => { state with tree := state.tree.removeAt location }
          | _, .error error => if force then state else refuse (reason error)
          | .error _, _ => state) (state.withStatus 0)

def signalOf? (name : String) : Option Nat :=
  match Condition.integer? name with
  | some number => some number.toNat
  | none =>
      let name := if "SIG".toList.isPrefixOf name.toList then name.toList.drop 3 else name.toList
      [("HUP", 1), ("INT", 2), ("QUIT", 3), ("ILL", 4), ("TRAP", 5), ("ABRT", 6), ("FPE", 8),
       ("KILL", 9), ("USR1", 10), ("SEGV", 11), ("USR2", 12), ("PIPE", 13), ("ALRM", 14),
       ("TERM", 15), ("CHLD", 17), ("CONT", 18), ("URG", 23), ("WINCH", 28)].lookup
        (String.ofList name)

def isHarmless (signal : Nat) : Bool := signal = 0 || signal = 17 || signal = 18 || signal = 23 || signal = 28

def kill : Utility := fun descriptors arguments state =>
  let (signal, targets) := match arguments with
    | "-s" :: name :: rest => (signalOf? name, rest)
    | argument :: rest =>
        match argument.toList with
        | '-' :: name => (signalOf? (String.ofList name), rest)
        | _ => (some 15, arguments)
    | [] => (some 15, [])
  match signal, targets with
  | _, [] => state.complain descriptors "kill: usage: kill [-s sigspec | -signum | -sigspec] [pid | job]... or\nkill -l [exitstatus]" 2
  | none, _ => state.complain descriptors "kill: invalid signal number or name" 2
  | some signal, targets =>
      if targets.contains (state.valueOf "$") then
        if isHarmless signal then state.withStatus 0
        else { state with ended := some .signalled }
      else state.complain descriptors "kill: No such process" 1

def cd : Utility := fun descriptors arguments state =>
  match arguments with
  | [] => { state with tree := { state.tree with current := ["home", "user"] }, status := 0 }
  | "" :: _ => state.withStatus 0
  | path :: _ =>
      match state.tree.locate path with
      | .ok location =>
          if state.tree.containsDirectory location then
            { state with tree := { state.tree with current := location }, status := 0 }
          else state.complain descriptors ("cd: can't cd to " ++ path) 2
      | .error _ => state.complain descriptors ("cd: can't cd to " ++ path) 2

def exit : Utility := fun descriptors arguments state =>
  match arguments with
  | [] => state.finish
  | argument :: _ =>
      match Decimal.natOfText? argument.toList with
      | some number =>
          if number < 0x80000000 then (state.withStatus (number % 256)).finish
          else (state.complain descriptors ("exit: Illegal number: " ++ argument) 2).finish
      | none => (state.complain descriptors ("exit: Illegal number: " ++ argument) 2).finish

def bracket : Utility := fun descriptors arguments state =>
  if arguments.getLast? = some "]" then condition "[" descriptors arguments.dropLast state
  else state.complain descriptors "[: missing ]" 2

def pwd : Utility := fun descriptors _ state =>
  write "pwd" descriptors (state.tree.currentPath ++ "\n").toUTF8 state

def assignAll : Utility := fun _ arguments state =>
  arguments.foldl (fun state argument =>
    if '=' ∈ argument.toList then
      state.assign (String.ofList (argument.toList.takeWhile (· ≠ '=')))
        (String.ofList ((argument.toList.dropWhile (· ≠ '=')).drop 1))
    else state) (state.withStatus 0)

def named? (name : String) : Option Utility :=
  [("echo", echo), ("printf", printf), ("cat", cat), ("seq", seq), ("tail", tail), ("head", head),
   ("test", test), ("[", bracket), ("rm", rm), ("kill", kill), ("cd", cd), ("exit", exit),
   ("pwd", pwd), ("export", assignAll), ("true", fun _ _ state => state.withStatus 0),
   (":", fun _ _ state => state.withStatus 0),
   ("false", fun _ _ state => state.withStatus 1)].lookup name

end Utility

end QueryShell.Posix
