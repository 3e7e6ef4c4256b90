import QueryShell.Machine
import QueryShell.Proofs.Modes.Twin
import QueryShell.Proofs.Modes.Verdict
import QueryShell.Proofs.Run.Trace

/-!
The two modes agree. Two sessions that differ only in their mode, on backends that answer with the
same verdicts, run every text to the same outcome. They print the same rows and execute the same
statements, and their errors differ only in the words in front of the messages of failed statements.
-/

namespace QueryShell

open Scripted (Assignment EngineState RemoteState engine remote)

variable {First Second : Type} {alike : First → Second → Prop} {leftHost : Host First}
  {rightHost : Host Second} {assignment : Assignment}

theorem Machine.host_twins : Machine.host.Twins Machine.host Eq := by
  constructor
  case isFile =>
    rintro path first _ rfl
    exact ⟨rfl, rfl⟩
  case readText =>
    rintro path first _ rfl
    exact ⟨rfl, rfl⟩
  case spawn =>
    rintro line first _ rfl
    exact ⟨rfl, rfl⟩
  case clock =>
    rintro first _ rfl
    rfl

theorem Session.Plain.of_steady {before after : Session} (plain : before.Plain)
    (steady : before.Steady after) : after.Plain := by
  rw [steady]
  exact ⟨plain.quiet, plain.silent, plain.headless, plain.unsampled⟩

namespace Run

structure InStep (assignment : Assignment) (alike : First → Second → Prop)
    (left : Shell First EngineState) (right : Shell Second RemoteState) : Prop where
  twins : Shell.Twins alike (assignment.messages left.store.executed) left right
  plain : left.session.Plain
  executed : left.store.executed = right.store.executed
  leftScripts : left.store.scripts = assignment.engine.scripts
  rightScripts : right.store.scripts = assignment.server.scripts
  rested : right.store.Rested

variable {left : Shell First EngineState} {right : Shell Second RemoteState}

theorem InStep.of_matched {Answer : Type} {first : Answer × Shell First EngineState}
    {second : Answer × Shell Second RemoteState} (inStep : InStep assignment alike left right)
    (matched : Matched (Shell.Twins alike (assignment.messages left.store.executed)) first second)
    (leftSteady : left.Steady first.2) (rightSteady : right.Steady second.2) :
    Matched (InStep assignment alike) first second := by
  refine ⟨matched.answer, ?_, inStep.plain.of_steady leftSteady.session, ?_, ?_, ?_, ?_⟩
  · rw [leftSteady.store]
    exact matched.related
  · rw [leftSteady.store, rightSteady.store]
    exact inStep.executed
  · rw [leftSteady.store]
    exact inStep.leftScripts
  · rw [rightSteady.store]
    exact inStep.rightScripts
  · rw [rightSteady.store]
    exact inStep.rested

theorem InStep.of_answered {statement : String} {session : Session} {world : First}
    {after : Shell Second RemoteState} (inStep : InStep assignment alike left right)
    (sessions : session.Twins after.session
      (assignment.messages left.store.executed ++
        (assignment.verdict statement).message?.toList))
    (plain : session.Plain) (worlds : alike world after.world)
    (answered : right.store.After statement after.store) :
    InStep assignment alike ⟨session, world, Local.afterStatement statement left.store⟩ after where
  twins := by
    have messages : assignment.messages (left.store.executed ++ [statement]) =
        assignment.messages left.store.executed ++
          (assignment.verdict statement).message?.toList := by
      rw [Assignment.messages_append, Assignment.messages_single]
    rw [← messages] at sessions
    exact ⟨sessions, worlds⟩
  plain := plain
  executed := by rw [answered.executed, ← inStep.executed]; rfl
  leftScripts := inStep.leftScripts
  rightScripts := answered.scripts.trans inStep.rightScripts
  rested := answered.rested

theorem query_inStep (hosts : leftHost.Twins rightHost alike)
    (inStep : InStep assignment alike left right) {statement : String}
    (undirected : Directive.ofStatement? statement = none) :
    Matched (InStep assignment alike) (Local.execute leftHost engine statement left)
      (Remote.executeOn remote statement right) := by
  have later := hosts.clock inStep.twins.world
  have scriptLeft : left.store.scriptOf statement =
      (assignment.verdict statement).engineScript := by
    rw [EngineState.scriptOf, inStep.leftScripts, assignment.engine_script]
  have scriptRight : (right.store.scripts.lookup statement).getD {} =
      (assignment.verdict statement).remoteScript := by
    rw [inStep.rightScripts, assignment.server_script]
  rw [Local.execute_plain inStep.plain undirected]
  cases verdict : assignment.verdict statement with
  | rows columns lines =>
      rw [verdict] at scriptLeft scriptRight
      obtain ⟨store, executed, answered⟩ :=
        Remote.executeOn_rows inStep.rested inStep.twins.session.rightOutOpen scriptRight
      rw [executed, Local.runQuery_rows inStep.plain inStep.twins.session.outOpen scriptLeft]
      refine ⟨rfl, inStep.of_answered ?_ ?_ (hosts.clock later) answered⟩
      · rw [verdict]
        simpa [Scripted.Verdict.message?] using inStep.twins.session.withOutput lines
      · exact inStep.plain.of_steady rfl
  | failure code message failing =>
      rw [verdict] at scriptLeft scriptRight
      obtain ⟨store, executed, answered⟩ :=
        Remote.executeOn_failure inStep.rested failing scriptRight
      rw [executed, Local.runQuery_failure inStep.plain failing scriptLeft]
      refine ⟨rfl, inStep.of_answered ?_ ?_ later answered⟩
      · rw [verdict]
        exact inStep.twins.session.reportFailed code message
      · exact inStep.plain.of_steady (.report _ _)

def Undirected (statement : String) : Prop :=
  ∀ query, Command.ofStatement statement = .query query → Directive.ofStatement? query = none

theorem undirected_of_query {statement : String}
    (query : Command.ofStatement statement = .query statement)
    (undirected : Directive.ofStatement? statement = none) : Undirected statement := by
  intro found asked
  cases query.symm.trans asked
  exact undirected

def localPlatform (host : Host First) : Platform First EngineState := ⟨host, .local engine⟩

def remotePlatform (host : Host Second) : Platform Second RemoteState := ⟨host, .remote remote⟩

theorem dispatch_inStep (hosts : leftHost.Twins rightHost alike)
    (inStep : InStep assignment alike left right) {statement : String} (depth : Nat)
    (undirected : Undirected statement) :
    Matched (InStep assignment alike) (dispatch (localPlatform leftHost) statement depth left)
      (dispatch (remotePlatform rightHost) statement depth right) := by
  simp only [dispatch]
  cases command : Command.ofStatement statement with
  | quit => exact ⟨rfl, inStep⟩
  | source path =>
      obtain ⟨answer, left, right, loaded, loaded', inStep⟩ :=
        (inStep.of_matched (loadSource_twins hosts inStep.twins path depth)
          (loadSource_steady leftHost path depth left)
          (loadSource_steady rightHost path depth right)).exists_answer
      simp only [localPlatform, remotePlatform, loaded, loaded']
      cases answer with
      | error failure =>
          have failed := inStep.of_matched (inStep.twins.fail failure) (.report failure left)
            (.report failure right)
          exact ⟨rfl, failed.related⟩
      | ok text => exact ⟨rfl, inStep⟩
  | shell line =>
      have matched := inStep.of_matched (Escape.run_twins hosts inStep.twins line)
        (Escape.run_steady leftHost line left) (Escape.run_steady rightHost line right)
      exact ⟨congrArg Step.done matched.answer, matched.related⟩
  | list kind values =>
      have matched := inStep.of_matched (Listing.run_twins inStep.twins kind values)
        (Listing.run_steady kind values left) (Listing.run_steady kind values right)
      exact ⟨congrArg Step.done matched.answer, matched.related⟩
  | query query =>
      have matched := query_inStep hosts inStep (undirected query command)
      exact ⟨congrArg Step.done matched.answer, matched.related⟩

theorem advance_inStep (hosts : leftHost.Twins rightHost alike)
    (inStep : InStep assignment alike left right) (stack : List Frame)
    (undirected : ∀ event ∈ event? (localPlatform leftHost) stack left,
      Undirected event.statement) :
    Matched (InStep assignment alike) (advance (localPlatform leftHost) stack left)
      (advance (remotePlatform rightHost) stack right) := by
  cases stack with
  | nil => exact ⟨rfl, inStep⟩
  | cons frame outer =>
      cases found : Statement.next? frame.unread with
      | none =>
          simp only [advance, found, ← inStep.twins.session.ignoresErrors_eq]
          by_cases last : outer.isEmpty
          · simp only [last, if_true]
            exact ⟨rfl, inStep⟩
          · simp only [last]
            exact ⟨rfl, inStep⟩
      | some next =>
          obtain ⟨statement, unread⟩ := next
          obtain ⟨step, left, right, asked, asked', inStep⟩ :=
            (dispatch_inStep hosts inStep (outer.length + 1)
              (undirected _ (event?_of_found found rfl))).exists_answer
          simp only [advance, found, List.length_cons, asked, asked']
          cases step with
          | exit code => exact ⟨rfl, inStep⟩
          | enter text => exact ⟨rfl, inStep⟩
          | done code =>
              simp only [← inStep.twins.session.ignoresErrors_eq]
              exact ⟨rfl, inStep⟩

theorem frames_inStep (hosts : leftHost.Twins rightHost alike)
    (inStep : InStep assignment alike left right) (stack : List Frame)
    (undirected : ∀ event ∈ trace (localPlatform leftHost) stack left,
      Undirected event.statement) :
    Matched (InStep assignment alike) (frames (localPlatform leftHost) stack left)
      (frames (remotePlatform rightHost) stack right) := by
  -- The stacks stay equal, so the run in local mode gives the induction for both.
  induction stack, left using frames.induct (localPlatform leftHost) generalizing right with
  | case1 stack left outcome after ended =>
      rw [trace_of_ended ended] at undirected
      have stepped := advance_inStep hosts inStep stack
        (fun event member => undirected event (Option.mem_toList.mpr member))
      obtain ⟨progress, _, after', asked, asked', inStep⟩ := stepped.exists_answer
      cases ended.symm.trans asked
      rw [frames_of_ended ended, frames_of_ended asked']
      exact ⟨rfl, inStep⟩
  | case2 stack left next after running ih =>
      rw [trace_of_running running] at undirected
      have stepped := advance_inStep hosts inStep stack (fun event member =>
        undirected event (List.mem_append_left _ (Option.mem_toList.mpr member)))
      obtain ⟨progress, _, after', asked, asked', inStep⟩ := stepped.exists_answer
      cases running.symm.trans asked
      rw [frames_of_running running, frames_of_running asked']
      exact ih inStep fun event member => undirected event (List.mem_append_right _ member)

/-- A plain session on open sinks runs a text alike in both modes. The outcome, the output and the
executed statements are the same. The errors differ only in the words in front of the messages of
the executed statements that failed. -/
theorem modes_agree (hosts : leftHost.Twins rightHost alike) (assignment : Assignment)
    (session : Session) (host : String) (port : Nat) (first : First) (second : Second)
    (plain : session.Plain) (outOpen : session.out.Open) (errOpen : session.err.Open)
    (worlds : alike first second) (text : String) :
    let left : Shell First EngineState :=
      ⟨{ session with mode := .local }, first, assignment.engine⟩
    let right : Shell Second RemoteState :=
      ⟨{ session with mode := .remote host port }, second, assignment.server⟩
    (∀ event ∈ textTrace (localPlatform leftHost) text left, Undirected event.statement) →
    let ran := Run.text (localPlatform leftHost) text left
    let ran' := Run.text (remotePlatform rightHost) text right
    ran.1 = ran'.1 ∧
      ran.2.session.out.written = ran'.2.session.out.written ∧
      ran.2.store.executed = ran'.2.store.executed ∧
      ErrorTwins ran.2.session.err.written ran'.2.session.err.written
        (assignment.messages ran.2.store.executed) := by
  intro left right undirected ran ran'
  have sessions : left.session.Twins right.session [] :=
    ⟨rfl, outOpen, errOpen, errOpen, .start session.err.written⟩
  have start : InStep assignment alike left right :=
    ⟨⟨sessions, worlds⟩, ⟨plain.quiet, plain.silent, plain.headless, plain.unsampled⟩, rfl, rfl,
      rfl, ⟨rfl, rfl, rfl⟩⟩
  obtain ⟨outcome, inStep⟩ := frames_inStep hosts start [Frame.ofText text] undirected
  exact ⟨outcome, congrArg Sink.written inStep.twins.session.out_eq, inStep.executed,
    inStep.twins.session.errors⟩

theorem modes_agree_up_to_failure :
    let assignment : Assignment :=
      [("one", .rows ["a"] ["1", "2"]), ("two", .failure 7 "bad" (by decide))]
    let session : Session := { silent := true }
    let left : Shell Machine EngineState :=
      ⟨{ session with mode := .local }, {}, assignment.engine⟩
    let right : Shell Machine RemoteState :=
      ⟨{ session with mode := .remote "db" 5432 }, {}, assignment.server⟩
    Machine.host.Twins Machine.host Eq ∧ session.Plain ∧ session.out.Open ∧ session.err.Open ∧
    (∀ event ∈ textTrace (localPlatform Machine.host) "one; two; one" left,
      Undirected event.statement) ∧
    let ran := Run.text (localPlatform Machine.host) "one; two; one" left
    let ran' := Run.text (remotePlatform Machine.host) "one; two; one" right
    ran.1 = ran'.1 ∧
      ran.2.session.out.written = ran'.2.session.out.written ∧
      ran.2.store.executed = ran'.2.store.executed ∧
      ErrorTwins ran.2.session.err.written ran'.2.session.err.written
        (assignment.messages ran.2.store.executed) := by
  intro assignment session left right
  have plain : session.Plain := ⟨rfl, rfl, by decide, by decide⟩
  have takes : session.out.Open ∧ session.err.Open := ⟨fun _ _ => rfl, fun _ _ => rfl⟩
  have undirected : ∀ event ∈ textTrace (localPlatform Machine.host) "one; two; one" left,
      Undirected event.statement := by
    intro event member
    rw [textTrace, trace_of_running rfl, trace_of_ended rfl] at member
    rcases List.mem_append.mp member with member | member
    · cases List.mem_singleton.mp member
      exact undirected_of_query (by decide) (by decide)
    · cases List.mem_singleton.mp member
      exact undirected_of_query (by decide) (by decide)
  exact ⟨Machine.host_twins, plain, takes.1, takes.2, undirected,
    modes_agree Machine.host_twins assignment session "db" 5432 {} {} plain takes.1 takes.2 rfl
      "one; two; one" undirected⟩

end Run

end QueryShell
