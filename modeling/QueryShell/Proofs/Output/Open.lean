import QueryShell.Execution.Remote

/-!
Sinks that take everything. What is printed to one is at its end, line by line and in order.
-/

namespace QueryShell

namespace Sink

def Open (sink : Sink) : Prop := ∀ written chunk, sink.refusal written chunk = none

def bytesOf : List String → ByteArray
  | [] => .empty
  | line :: rest => line.toUTF8 ++ "\n".toUTF8 ++ bytesOf rest

theorem bytesOf_append (first second : List String) :
    bytesOf (first ++ second) = bytesOf first ++ bytesOf second := by
  induction first with
  | nil => exact ByteArray.empty_append.symm
  | cons line rest ih => simp only [List.cons_append, bytesOf, ih, ByteArray.append_assoc]

def extend (bytes : ByteArray) (sink : Sink) : Sink := { sink with written := sink.written ++ bytes }

variable {sink : Sink}

@[simp] theorem extend_empty : sink.extend .empty = sink := by
  simp [extend, ByteArray.append_empty]

@[simp] theorem extend_extend (first second : ByteArray) :
    (sink.extend first).extend second = sink.extend (first ++ second) := by
  simp [extend, ByteArray.append_assoc]

theorem Open.extend (takes : sink.Open) (bytes : ByteArray) : (sink.extend bytes).Open := takes

theorem Open.write (takes : sink.Open) (chunk : ByteArray) :
    sink.write chunk = (.ok (), sink.extend chunk) := by
  by_cases nothing : chunk.isEmpty
  · have empty : chunk = .empty := by simpa [ByteArray.isEmpty] using nothing
    rw [Sink.write, if_pos nothing, empty, extend_empty]
  · simp [Sink.write, nothing, takes sink.written chunk, Sink.extend]

theorem Open.writeLine (takes : sink.Open) (line : String) :
    sink.writeLine line = (.ok (), sink.extend (bytesOf [line])) := by
  have ended := (takes.extend line.toUTF8).write "\n".toUTF8
  simp only [Sink.writeLine, takes.write, ended, extend_extend, bytesOf, ByteArray.append_empty]

end Sink

namespace Session

def withOutput (lines : List String) (session : Session) : Session :=
  { session with out := session.out.extend (Sink.bytesOf lines) }

variable {session : Session}

@[simp] theorem withOutput_nil : session.withOutput [] = session := by
  simp [withOutput, Sink.bytesOf]

@[simp] theorem withOutput_withOutput (first second : List String) :
    (session.withOutput first).withOutput second = session.withOutput (first ++ second) := by
  simp [withOutput, Sink.bytesOf_append]

theorem printLine_of_open (takes : session.out.Open) (line : String) :
    session.printLine line = (.ok (), session.withOutput [line]) := by
  simp only [printLine, takes.writeLine, withOutput]

end Session

theorem Remote.printLines_of_open (lines : List String) {session : Session}
    (takes : session.out.Open) : printLines lines session = (true, session.withOutput lines) := by
  induction lines generalizing session with
  | nil => simp [printLines]
  | cons line rest ih =>
      have rest_printed := @ih (session.withOutput [line]) (takes.extend _)
      simp only [printLines, Session.printLine_of_open takes, rest_printed,
        Session.withOutput_withOutput, List.singleton_append]

end QueryShell
