import QueryShell.Proofs.Backend.Frame
import QueryShell.Proofs.Output.Open

/-!
Two shells in step, one for each mode. Their sessions have everything in common but the mode, the log
and the words in front of the messages of failed statements. The commands of the shell keep two shells
in step, if their machines answer alike.
-/

namespace QueryShell

/-- Two outputs of errors that differ only in the words in front of the messages of failed
statements. The messages are listed in order. -/
inductive ErrorTwins : ByteArray → ByteArray → List String → Prop
  | start (written : ByteArray) : ErrorTwins written written []
  | shared {left right : ByteArray} {messages : List String} (bytes : ByteArray)
      (earlier : ErrorTwins left right messages) :
      ErrorTwins (left ++ bytes) (right ++ bytes) messages
  | failed {left right : ByteArray} {messages : List String} (message : String)
      (earlier : ErrorTwins left right messages) :
      ErrorTwins (left ++ Sink.bytesOf ["Query error: " ++ message])
        (right ++ Sink.bytesOf ["Server error: " ++ message]) (messages ++ [message])

namespace Session

def common (session : Session) : Session :=
  { session with mode := .local, err := {}, reported := [] }

structure Twins (left right : Session) (messages : List String) : Prop where
  common : left.common = right.common
  outOpen : left.out.Open
  leftOpen : left.err.Open
  rightOpen : right.err.Open
  errors : ErrorTwins left.err.written right.err.written messages

variable {left right session : Session} {messages : List String}

theorem printError_of_open (takes : session.err.Open) (line : String) :
    session.printError line = { session with err := session.err.extend (Sink.bytesOf [line]) } := by
  rw [printError, takes.writeLine]

theorem report_of_open (takes : session.err.Open) (failure : Failure) :
    session.report failure =
      { session with
        reported := session.reported ++ [failure]
        err := session.err.extend (Sink.bytesOf [failure.message]) } := by
  have takes_on :
      Sink.Open { session with reported := session.reported ++ [failure] }.err := takes
  rw [report, printError_of_open takes_on]

namespace Twins

theorem out_eq (twins : Twins left right messages) : left.out = right.out := by
  have same := congrArg Session.out twins.common
  exact same

theorem rightOutOpen (twins : Twins left right messages) : right.out.Open :=
  twins.out_eq ▸ twins.outOpen

theorem resources_eq (twins : Twins left right messages) : left.resources = right.resources := by
  have same := congrArg Session.resources twins.common
  exact same

theorem ignoresErrors_eq (twins : Twins left right messages) :
    left.ignoresErrors = right.ignoresErrors := by
  have same := congrArg Session.ignoresErrors twins.common
  exact same

theorem writeOut (twins : Twins left right messages) (bytes : ByteArray) :
    Twins { left with out := left.out.extend bytes } { right with out := right.out.extend bytes }
      messages where
  common := congrArg (fun session => { session with out := session.out.extend bytes }) twins.common
  outOpen := twins.outOpen.extend bytes
  leftOpen := twins.leftOpen
  rightOpen := twins.rightOpen
  errors := twins.errors

theorem writeErr (twins : Twins left right messages) (bytes : ByteArray) :
    Twins { left with err := left.err.extend bytes } { right with err := right.err.extend bytes }
      messages where
  common := twins.common
  outOpen := twins.outOpen
  leftOpen := twins.leftOpen.extend bytes
  rightOpen := twins.rightOpen.extend bytes
  errors := twins.errors.shared bytes

theorem withOutput (twins : Twins left right messages) (lines : List String) :
    Twins (left.withOutput lines) (right.withOutput lines) messages :=
  twins.writeOut (Sink.bytesOf lines)

theorem report (twins : Twins left right messages) (failure : Failure) :
    Twins (left.report failure) (right.report failure) messages := by
  rw [report_of_open twins.leftOpen, report_of_open twins.rightOpen]
  exact {
    common := twins.common
    outOpen := twins.outOpen
    leftOpen := twins.leftOpen.extend _
    rightOpen := twins.rightOpen.extend _
    errors := twins.errors.shared _ }

theorem reportFailed (twins : Twins left right messages) (code : Int) (message : String) :
    Twins (left.report (.query message)) (right.report (.server code message))
      (messages ++ [message]) := by
  rw [report_of_open twins.leftOpen, report_of_open twins.rightOpen]
  exact {
    common := twins.common
    outOpen := twins.outOpen
    leftOpen := twins.leftOpen.extend _
    rightOpen := twins.rightOpen.extend _
    errors := twins.errors.failed message }

end Twins

end Session

namespace Escape

theorem offer_of_open (pieces : List ByteArray) {sink : Sink} (takes : sink.Open) :
    offer pieces sink = (true, sink.extend (pieces.foldr (· ++ ·) .empty)) := by
  induction pieces generalizing sink with
  | nil => rw [offer, List.foldr_nil, Sink.extend_empty]
  | cons piece rest ih =>
      rw [offer, takes.write piece]
      simp only [ih (takes.extend piece), Sink.extend_extend, List.foldr_cons]

theorem copy_twins {left right : Session} {messages : List String}
    (twins : left.Twins right messages) (chunks : List Chunk) :
    (copy {} chunks left).Twins (copy {} chunks right) messages := by
  induction chunks generalizing left right with
  | nil => exact twins
  | cons chunk rest ih =>
      simp only [copy, if_true]
      cases chunk.stream with
      | out =>
          simp only [offer_of_open _ twins.outOpen, offer_of_open _ twins.rightOutOpen]
          exact ih (twins.writeOut _)
      | err =>
          simp only [offer_of_open _ twins.leftOpen, offer_of_open _ twins.rightOpen]
          exact ih (twins.writeErr _)

end Escape

structure Matched {Answer Left Right : Type} (related : Left → Right → Prop)
    (left : Answer × Left) (right : Answer × Right) : Prop where
  answer : left.1 = right.1
  related : related left.2 right.2

theorem Matched.exists_answer {Answer Left Right : Type} {related : Left → Right → Prop}
    {left : Answer × Left} {right : Answer × Right} (matched : Matched related left right) :
    ∃ answer before after, left = (answer, before) ∧ right = (answer, after) ∧
      related before after :=
  ⟨left.1, left.2, right.2, rfl, Prod.ext matched.answer.symm rfl, matched.related⟩

/-- Two machines that answer alike about files and child processes, whatever the time is on the
first. -/
structure Host.Twins {First Second : Type} (left : Host First) (right : Host Second)
    (alike : First → Second → Prop) : Prop where
  isFile : ∀ path {first second}, alike first second →
    Matched alike (left.isFile path first) (right.isFile path second)
  readText : ∀ path {first second}, alike first second →
    Matched alike (left.readText path first) (right.readText path second)
  spawn : ∀ line {first second}, alike first second →
    Matched alike (left.spawn line first) (right.spawn line second)
  clock : ∀ {first second}, alike first second → alike (left.clock first).2 second

section Shells

variable {First Second Store Store' : Type}

structure Shell.Twins (alike : First → Second → Prop) (messages : List String)
    (left : Shell First Store) (right : Shell Second Store') : Prop where
  session : left.session.Twins right.session messages
  world : alike left.world right.world

open Shell (Twins)

variable {alike : First → Second → Prop} {leftHost : Host First} {rightHost : Host Second}
  {left : Shell First Store} {right : Shell Second Store'} {messages : List String}

namespace Shell.Twins

theorem report (twins : Twins alike messages left right) (failure : Failure) :
    Twins alike messages (left.report failure) (right.report failure) :=
  ⟨twins.session.report failure, twins.world⟩

theorem fail (twins : Twins alike messages left right) (failure : Failure) :
    Matched (Twins alike messages) (left.fail failure) (right.fail failure) :=
  ⟨rfl, twins.report failure⟩

theorem withWorld {Answer : Type} {ask : First → Answer × First} {ask' : Second → Answer × Second}
    (twins : Twins alike messages left right)
    (answers : Matched alike (ask left.world) (ask' right.world)) :
    Matched (Twins alike messages) (left.withWorld ask) (right.withWorld ask') :=
  ⟨answers.answer, twins.session, answers.related⟩

end Shell.Twins

theorem Listing.run_twins (twins : Twins alike messages left right) (kind : Option String)
    (values : List String) :
    Matched (Twins alike messages) (run kind values left) (run kind values right) := by
  simp only [run]
  cases kind.bind fun word => Resource.Kind.ofWord? word.toList with
  | none => exact twins.fail usage
  | some kind =>
      simp only [twins.session.resources_eq]
      generalize "\n".intercalate _ = listed
      by_cases nothing : listed.isEmpty
      · simp only [nothing, if_true]
        exact ⟨rfl, twins⟩
      · simp only [nothing, Shell.printLine, Session.printLine_of_open twins.session.outOpen,
          Session.printLine_of_open twins.session.rightOutOpen]
        exact ⟨rfl, twins.session.withOutput [listed], twins.world⟩

theorem Escape.settle_twins (twins : Twins alike messages left right)
    (status : Except String ExitStatus) :
    Matched (Twins alike messages) (settle status left) (settle status right) := by
  rcases status with reason | code | _
  · exact twins.fail _
  · by_cases success : code = 0
    · simp only [settle, success]
      exact ⟨rfl, twins⟩
    · simp only [settle, success]
      exact ⟨rfl, twins.report _⟩
  · exact twins.fail _

theorem Escape.run_twins (hosts : leftHost.Twins rightHost alike)
    (twins : Twins alike messages left right) (line : String) :
    Matched (Twins alike messages) (run leftHost line left) (run rightHost line right) := by
  obtain ⟨answer, left, right, spawned, spawned', twins⟩ :=
    (twins.withWorld (hosts.spawn line twins.world)).exists_answer
  rw [run, run, spawned, spawned']
  cases answer with
  | error reason => exact twins.fail _
  | ok child =>
      have copied : Twins alike messages
          { left with session := copy {} child.chunks left.session }
          { right with session := copy {} child.chunks right.session } :=
        ⟨copy_twins twins.session child.chunks, twins.world⟩
      exact settle_twins copied child.status

theorem Run.loadSource_twins (hosts : leftHost.Twins rightHost alike)
    (twins : Twins alike messages left right) (path : String) (depth : Nat) :
    Matched (Twins alike messages) (loadSource leftHost path depth left)
      (loadSource rightHost path depth right) := by
  by_cases deep : maxDepth ≤ depth
  · rw [loadSource, loadSource, if_pos deep, if_pos deep]
    exact ⟨rfl, twins⟩
  · obtain ⟨isFile, left, right, found, found', twins⟩ :=
      (twins.withWorld (hosts.isFile path twins.world)).exists_answer
    rw [loadSource, loadSource, if_neg deep, if_neg deep, found, found']
    cases isFile with
    | false => exact ⟨rfl, twins⟩
    | true =>
        obtain ⟨text, left, right, read, read', twins⟩ :=
          (twins.withWorld (hosts.readText path twins.world)).exists_answer
        simp only [read, read']
        cases text with
        | error reason => exact ⟨rfl, twins⟩
        | ok text => exact ⟨rfl, twins⟩

end Shells

end QueryShell
