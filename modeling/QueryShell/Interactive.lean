import QueryShell.LineBuffer
import QueryShell.Path
import QueryShell.Run

/-!
The interactive loop. Lines are gathered until one completes a statement, and the gathered text is
run. The lines come from a stream: the interrupt of a terminal, which drops what was gathered, is
left out.
-/

namespace QueryShell

structure Prompt where
  primary : String
  continuation : String
deriving DecidableEq, Repr

namespace Prompt

def ofMode (base : String) (mode : Mode) : Prompt :=
  let primary := match mode with
    | .local => base ++ "> "
    | .remote host port => "[" ++ host ++ ":" ++ toString port ++ "] " ++ base ++ "> "
  { primary, continuation := String.ofList (List.replicate primary.length ' ') }

end Prompt

namespace Interactive

variable {World Store : Type}

def feed (platform : Platform World Store) (line : String) (buffer : LineBuffer)
    (shell : Shell World Store) : Option Outcome × LineBuffer × Shell World Store :=
  match buffer.push line with
  | (none, buffer) => (none, buffer, shell)
  | (some text, buffer) =>
      let (outcome, shell) := Run.text platform text shell
      (some outcome, buffer, shell)

def editorFailure (reason : String) : Failure := .internal ("Line editor failed: " ++ reason)

structure Ended where
  result : Except Failure Outcome
  entered : List String

def Ended.after (line : String) (ended : Ended) : Ended :=
  { ended with entered := line :: ended.entered }

def runFrom (platform : Platform World Store) (input : List (Except String String))
    (buffer : LineBuffer) (last : Int) (shell : Shell World Store) :
    Ended × Shell World Store :=
  match input with
  | [] => (⟨.ok (.code last), []⟩, shell)
  | .error reason :: _ => (⟨.error (editorFailure reason), []⟩, shell)
  | .ok line :: rest =>
      match feed platform line buffer shell with
      | (some (.exit code), _, shell) => (⟨.ok (.exit code), [line]⟩, shell)
      | (some (.code code), buffer, shell) =>
          let (ended, shell) := runFrom platform rest buffer code shell
          (ended.after line, shell)
      | (none, buffer, shell) =>
          let (ended, shell) := runFrom platform rest buffer last shell
          (ended.after line, shell)

def run (platform : Platform World Store) (input : List (Except String String))
    (shell : Shell World Store) : Ended × Shell World Store :=
  runFrom platform input {} 0 shell

def cutLines (current : List UInt8) : List UInt8 → List (List UInt8)
  | [] => if current.isEmpty then [] else [current.reverse]
  | byte :: rest =>
      if byte = 10 then (byte :: current).reverse :: cutLines [] rest
      else cutLines (byte :: current) rest

def lineOfBytes (bytes : List UInt8) : Except String String :=
  match String.fromUTF8? ⟨bytes.toArray⟩ with
  | none => .error "stream did not contain valid UTF-8"
  | some text =>
      match text.toList.reverse with
      | '\n' :: '\x0d' :: rest => .ok (String.ofList rest.reverse)
      | '\n' :: rest => .ok (String.ofList rest.reverse)
      | _ => .ok text

def inputLines (bytes : ByteArray) : List (Except String String) :=
  (cutLines [] bytes.toList).map lineOfBytes

end Interactive

end QueryShell
