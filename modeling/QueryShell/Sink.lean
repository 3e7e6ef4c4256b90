import QueryShell.Text.Utf8

/-!
Output sinks. A sink keeps what it accepted and may refuse a chunk, with the reason for it.
-/

namespace QueryShell

structure Sink where
  written : ByteArray := .empty
  /-- Why a chunk is refused after what is written already; `none` accepts it. -/
  refusal : ByteArray → ByteArray → Option String := fun _ _ => none

namespace Sink

def write (chunk : ByteArray) (sink : Sink) : Except String Unit × Sink :=
  if chunk.isEmpty then (.ok (), sink)
  else match sink.refusal sink.written chunk with
    | some reason => (.error reason, sink)
    | none => (.ok (), { sink with written := sink.written ++ chunk })

def writeLine (line : String) (sink : Sink) : Except String Unit × Sink :=
  match sink.write line.toUTF8 with
  | (.error reason, sink) => (.error reason, sink)
  | (.ok (), sink) => sink.write "\n".toUTF8

def lineEnds (bytes : ByteArray) : Nat := bytes.foldl (fun count byte => if byte = 10 then count + 1 else count) 0

def closingAfter (limit : Nat) : Sink where
  refusal written _ :=
    let beginsLine := written.isEmpty || written.get! (written.size - 1) = 10
    if beginsLine && limit ≤ lineEnds written then some "sink closed" else none

def textFrom (start : Nat) (sink : Sink) : String :=
  Text.decodeLossy (sink.written.extract start sink.written.size)

def text (sink : Sink) : String := sink.textFrom 0

end Sink

end QueryShell
