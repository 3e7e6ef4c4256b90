import QueryShell.Proofs.Backend.Forwarding
import QueryShell.Proofs.Backend.Rounds
import QueryShell.Proofs.Output.Open
import QueryShell.Proofs.Sampling.Statements
import QueryShell.Proofs.Startup.Settings

/-!
Who changes what in a session. The variables and the resources belong to the directives: a statement
changes them through the one directive that it has the shell carry out, if there is one, and the
rest of a session stays as it was started.
-/

namespace QueryShell

variable {World Store : Type} {host : Host World} {engine : Engine Store}
  {called : Option (Directive × List Char)} {before middle after : Shell World Store}

open Session (Steady)

namespace Session.Steady

variable {before after : Session}

theorem variables_eq (steady : before.Steady after) : after.variables = before.variables := by
  rw [steady]

theorem resources_eq (steady : before.Steady after) : after.resources = before.resources := by
  rw [steady]

end Session.Steady

theorem Session.getElem?_setVariable (key value name : String) (session : Session) :
    (session.setVariable key value).variables[name]? =
      if key = name then some value else session.variables[name]? := by
  rw [setVariable, Std.TreeMap.getElem?_insert]
  simp only [Std.LawfulEqCmp.compare_eq_iff_eq]

namespace Directive

open Text

def assigns (directive : Directive) (arguments : List Char) : Bool :=
  match directive with
  | set => decide ('=' ∈ arguments)
  | reset => true
  | add | delete => false

def registers : Directive → Bool
  | add | delete => true
  | set | reset => false

theorem variables_addValues (host : Host World) (kind : Resource.Kind) (code : Int)
    (values : List String) (shell : Shell World Store) :
    (addValues host kind code values shell).2.session.variables = shell.session.variables := by
  induction values generalizing code shell with
  | nil => rfl
  | cons value rest ih =>
      simp only [addValues]
      split
      · rename_i missing
        rw [ih]
        exact (Shell.Steady.of_withWorld missing).session.variables_eq
      · rename_i found
        have kept := (Shell.Steady.of_withWorld found).session.variables_eq
        rw [ih]
        split
        · exact (Steady.printInfo _ _).variables_eq.trans kept
        · exact kept

theorem variables_run {directive : Directive} {arguments : List Char}
    (other : directive.assigns arguments = false) (host : Host World) (shell : Shell World Store) :
    (directive.run host arguments shell).2.session.variables = shell.session.variables := by
  cases directive with
  | set =>
      have plain : '=' ∉ arguments := of_decide_eq_false other
      have shown : '=' ∉ trim arguments := fun member => plain (mem_of_mem_trim member)
      simp only [run, runSet, if_neg shown]
      split
      · exact (printAll_steady _ shell).session.variables_eq
      · split
        · exact (printAll_steady _ shell).session.variables_eq
        · exact (printAll_steady _ shell).session.variables_eq
  | reset => cases other
  | add =>
      simp only [run, runAdd]
      split
      · split
        · exact variables_addValues host _ 0 _ shell
        · exact (Steady.report _ _).variables_eq
      · exact (Steady.report _ _).variables_eq
  | delete =>
      simp only [run, runDelete]
      split
      · exact (Steady.report _ _).variables_eq
      · split
        · rfl
        · exact (Steady.report _ _).variables_eq

theorem resources_run {directive : Directive} (other : directive.registers = false)
    (host : Host World) (arguments : List Char) (shell : Shell World Store) :
    (directive.run host arguments shell).2.session.resources = shell.session.resources := by
  cases directive with
  | set =>
      simp only [run, runSet]
      split
      · exact (printAll_steady _ shell).session.resources_eq
      · split
        · split
          · exact (Steady.report _ _).resources_eq
          · rfl
        · split
          · exact (printAll_steady _ shell).session.resources_eq
          · exact (printAll_steady _ shell).session.resources_eq
  | reset => rfl
  | add | delete => cases other

theorem printAll_of_open (lines : List String) {shell : Shell World Store}
    (takes : shell.session.out.Open) :
    printAll lines shell = (0, { shell with session := shell.session.withOutput lines }) := by
  induction lines generalizing shell with
  | nil => simp [printAll]
  | cons line rest ih =>
      have printed : shell.printLine line =
          (.ok (), { shell with session := shell.session.withOutput [line] }) := by
        simp only [Shell.printLine, Session.printLine_of_open takes]
      have later := @ih { shell with session := shell.session.withOutput [line] } (takes.extend _)
      simp only [printAll, printed, later, Session.withOutput_withOutput, List.singleton_append]

section Assignment

variable {key : String}

theorem trim_ne_nil (named : isBlankText key = false) : trim key.toList ≠ [] := by
  intro nothing
  rw [isBlankText, List.all_eq_true.mpr (trim_eq_nil_iff.mp nothing)] at named
  cases named

/-- An assignment gives its trimmed value to its trimmed key and does no more. -/
theorem run_assignment (plain : '=' ∉ key.toList) (named : isBlankText key = false)
    (value : String) (host : Host World) (shell : Shell World Store) :
    set.run host (key ++ "=" ++ value).toList shell =
      (0, { shell with session := shell.session.setVariable (trimmed key) (trimmed value) }) := by
  have cut : trim (key ++ "=" ++ value).toList =
      trimStart key.toList ++ '=' :: trimEnd value.toList := by
    rw [String.toList_append, String.toList_append, List.append_assoc]
    exact trim_append_cons (by decide) key.toList value.toList
  have unequal : ∀ char ∈ trimStart key.toList, decide (char ≠ '=') = true := by
    intro char member
    have within : char ∈ key.toList := List.dropWhile_subset _ member
    exact decide_eq_true fun equals => plain (equals ▸ within)
  simp only [run, runSet, cut]
  rw [if_neg (by simp), if_pos (by simp), List.takeWhile_append_of_pos unequal,
    List.dropWhile_append_of_pos unequal, List.takeWhile_cons_of_neg (by simp),
    List.dropWhile_cons_of_neg (by simp), List.append_nil, List.drop_one, List.tail_cons,
    trim_trimStart, trim_trimEnd, if_neg (by simpa using trim_ne_nil named)]
  rfl

theorem run_shown {value : String} (plain : '=' ∉ key.toList) (named : isBlankText key = false)
    (host : Host World) (shell : Shell World Store)
    (assigned : shell.session.variables[trimmed key]? = some value) :
    set.run host key.toList shell = printAll [trimmed key ++ "=" ++ value] shell := by
  have shown : '=' ∉ trim key.toList := fun member => plain (mem_of_mem_trim member)
  simp only [run, runSet]
  rw [if_neg (by simpa using trim_ne_nil named), if_neg shown]
  rw [trimmed] at assigned
  simp only [assigned, trimmed]

end Assignment

end Directive

/-- A session differs from an earlier one by the run of the directive that is called, if there is
one. Its sinks and its log may differ in any case. -/
inductive Shell.Directed (host : Host World) (before after : Shell World Store) :
    Option (Directive × List Char) → Prop
  | alone (steady : before.session.Steady after.session) : Directed host before after none
  | called {directive : Directive} {arguments : List Char} (start : Shell World Store)
      (begun : before.session.Steady start.session)
      (ended : (directive.run host arguments start).2.session.Steady after.session) :
      Directed host before after (some (directive, arguments))

namespace Shell.Directed

theorem trans_steady (directed : Directed host before middle called)
    (steady : middle.session.Steady after.session) : Directed host before after called := by
  cases directed with
  | alone first => exact .alone (first.trans steady)
  | called start begun ended => exact .called start begun (ended.trans steady)

theorem assigns (directed : Directed host before after called)
    (changed : after.session.variables ≠ before.session.variables) :
    ∃ directive arguments, called = some (directive, arguments) ∧
      directive.assigns arguments = true := by
  cases directed with
  | alone steady => exact (changed steady.variables_eq).elim
  | @called directive arguments start begun ended =>
      refine ⟨directive, arguments, rfl, ?_⟩
      by_contra other
      have kept := Directive.variables_run (Bool.eq_false_iff.mpr other) host start
      exact changed (ended.variables_eq.trans (kept.trans begun.variables_eq))

theorem registers (directed : Directed host before after called)
    (changed : after.session.resources ≠ before.session.resources) :
    ∃ directive arguments, called = some (directive, arguments) ∧
      directive.registers = true := by
  cases directed with
  | alone steady => exact (changed steady.resources_eq).elim
  | @called directive arguments start begun ended =>
      refine ⟨directive, arguments, rfl, ?_⟩
      by_contra other
      have kept := Directive.resources_run (Bool.eq_false_iff.mpr other) host arguments start
      exact changed (ended.resources_eq.trans (kept.trans begun.resources_eq))

theorem reset {arguments : List Char}
    (directed : Directed host before after (some (.reset, arguments))) :
    after.session.variables = before.session.initialVariables := by
  cases directed with
  | called start begun ended =>
      have initial : start.session.initialVariables = before.session.initialVariables := by
        rw [begun]
      exact ended.variables_eq.trans initial

end Shell.Directed

open Shell (Directed)

namespace Local

/-- The directive that a statement calls. A biased statement calls that of its key summary, as the
statements derived from the summary are none. -/
def called? (statement : String) (session : Session) : Option (Directive × List Char) :=
  if session.samples && Sample.isBiased statement then
    match Sample.ofStatement statement with
    | .ok sample => Directive.ofStatement? sample.summaryQuery
    | .error _ => none
  else Directive.ofStatement? statement

theorem runStatement_directed (host : Host World) (engine : Engine Store) (statement : String)
    (sideFile : Option String) (shell : Shell World Store) :
    Directed host shell (runStatement host engine statement sideFile shell).2
      (Directive.ofStatement? statement) := by
  simp only [runStatement]
  cases Directive.ofStatement? statement with
  | none => exact .alone (runQuery_serves host engine statement sideFile shell).1
  | some call =>
      obtain ⟨directive, arguments⟩ := call
      refine .called _ ?_ (.refl _)
      split
      · exact (Shell.Steady.echo _ shell).session
      · exact .refl _

theorem runDerived_steady (host : Host World) (engine : Engine Store) {statement : String}
    (query : Directive.ofStatement? statement = none) (shell : Shell World Store) :
    shell.session.Steady (runDerived host engine statement shell).2.session := by
  have echoed := Shell.Steady.echo statement shell
  rw [runDerived, runStatement_of_query none query]
  exact echoed.session.trans (runQuery_serves host engine statement none _).1

theorem buildSamples_steady (sample : Sample) (lines : List String) (code : Int)
    (shell : Shell World Store) :
    shell.session.Steady (buildSamples host engine sample lines code shell).2.session := by
  induction lines generalizing code shell with
  | nil => exact .refl _
  | cons line rest ih =>
      simp only [buildSamples]
      cases made : sample.statementsFor line with
      | error failure => exact .report failure shell.session
      | ok pair =>
          obtain ⟨drop, create⟩ := pair
          have derived : sample.derived line = [drop, create] := by
            simp [Sample.derived, Sample.statements?, made, Except.toOption]
          -- Derived statements begin with `DROP` or `CREATE`, so none of them calls a directive.
          have query {statement : String} (member : statement ∈ [drop, create]) :
              Directive.ofStatement? statement = none :=
            Sample.undirected_of_derived (derived ▸ member)
          have dropped := runDerived_steady host engine (query List.mem_cons_self) shell
          have created := runDerived_steady host engine
            (query (List.mem_cons_of_mem _ List.mem_cons_self))
            (runDerived host engine drop shell).2
          exact (dropped.trans created).trans (ih _ _)

theorem runSample_directed (host : Host World) (engine : Engine Store) {statement : String}
    {sample : Sample} (parsed : Sample.ofStatement statement = .ok sample)
    (shell : Shell World Store) :
    Directed host shell (runSample host engine statement shell).2
      (Directive.ofStatement? sample.summaryQuery) := by
  have summary := runStatement_directed host engine sample.summaryQuery
    (some shell.session.keySummaryFile) shell
  simp only [runSample, parsed]
  generalize runStatement host engine sample.summaryQuery _ shell = result at summary ⊢
  split
  · exact summary
  · split
    · rename_i read
      exact summary.trans_steady ((Shell.Steady.of_withWorld read).session.trans (.report _ _))
    · rename_i read
      exact summary.trans_steady
        ((Shell.Steady.of_withWorld read).session.trans (buildSamples_steady sample _ 0 _))

theorem execute_directed (host : Host World) (engine : Engine Store) (statement : String)
    (shell : Shell World Store) :
    Directed host shell (execute host engine statement shell).2
      (called? statement shell.session) := by
  by_cases biased : (shell.session.samples && Sample.isBiased statement) = true
  · simp only [execute, called?, biased, if_true]
    cases parsed : Sample.ofStatement statement with
    | error failure =>
        simp only [runSample, parsed]
        exact .alone (.report failure shell.session)
    | ok sample => exact runSample_directed host engine parsed shell
  · simp only [execute, called?, biased]
    exact runStatement_directed host engine statement none shell

end Local

namespace Run

variable {platform : Platform World Store} {shell final : Shell World Store}

def called? (platform : Platform World Store) (statement : String) (session : Session) :
    Option (Directive × List Char) :=
  match platform.backend, Command.ofStatement statement with
  | .local _, .query query => Local.called? query session
  | _, _ => none

theorem dispatch_directed (platform : Platform World Store) (statement : String) (depth : Nat)
    (shell : Shell World Store) :
    Directed platform.host shell (dispatch platform statement depth shell).2
      (called? platform statement shell.session) := by
  obtain ⟨host, backend⟩ := platform
  cases backend with
  | remote server => exact .alone (dispatch_remote_steady host server statement depth shell)
  | «local» engine =>
      simp only [called?]
      split
      · rename_i query _ command
        simp only [dispatch, command, finished, Run.query]
        exact Local.execute_directed host engine query shell
      · rename_i other
        have unasked : ¬reachesServer statement = true := by
          intro asked
          rw [reachesServer] at asked
          cases command : Command.ofStatement statement with
          | query query => exact other _ query rfl command
          | quit | source | shell | list => simp [command, Command.isQuery] at asked
        exact .alone (dispatch_steady_of_not_query _ unasked depth shell).session

theorem Linked.directed {events : List (Event World Store)}
    (linked : Linked platform shell events final) :
    ∀ event ∈ events, Directed platform.host event.before event.after
      (called? platform event.statement event.before.session) := by
  intro event member
  have directed := dispatch_directed platform event.statement event.depth event.before
  rw [linked.dispatch_of_mem event member] at directed
  exact directed

theorem series_keeps (platform : Platform World Store) (texts : List String)
    (shell : Shell World Store) :
    shell.session.Keeps (series platform texts shell).session := by
  induction texts generalizing shell with
  | nil => exact .refl _
  | cons text rest ih => exact (textTrace_linked platform text shell).keeps.1.trans (ih _)

theorem text_reset (host : Host World) (engine : Engine Store) (shell : Shell World Store) :
    (Run.text ⟨host, .local engine⟩ "reset" shell).1 = .code 0 ∧
      (Run.text ⟨host, .local engine⟩ "reset" shell).2.session.variables =
        shell.session.initialVariables := by
  have single : Statement.split "reset" = ["reset"] := by decide +kernel
  have command : Command.ofStatement "reset" = .query "reset" := by decide +kernel
  have unbiased : Sample.isBiased "reset" = false := by decide +kernel
  have claimed : Directive.ofStatement? "reset" = some (.reset, []) := by decide +kernel
  have called : called? ⟨host, .local engine⟩ "reset" shell.session = some (.reset, []) := by
    simp [called?, command, Local.called?, unbiased, claimed]
  have done : (dispatch ⟨host, .local engine⟩ "reset" 1 shell).1 = .done 0 := by
    simp [dispatch, command, finished, query, Local.execute, unbiased, Local.runStatement,
      claimed, Directive.run]
  have directed := dispatch_directed ⟨host, .local engine⟩ "reset" 1 shell
  rw [called] at directed
  rw [text_eq_evaluateAll, single, evaluateAll_cons]
  rcases asked : dispatch ⟨host, .local engine⟩ "reset" 1 shell with ⟨step, after⟩
  rw [asked] at done directed
  obtain rfl := done
  simp only [proceed, evaluateAll_nil, ite_self]
  exact ⟨trivial, directed.reset⟩

/-- Whatever a run does, a session keeps what was chosen at its start. Only an assignment or a reset
changes its variables and only a directive on resources changes those, each by its own run, so that
in remote mode none of them changes. An assignment changes one variable, which is then shown as it
was assigned, and a reset after any texts brings the first variables back. -/
theorem session_frame (host : Host World) :
    (∀ (Store : Type) (backend : Backend Store) (text : String) (shell : Shell World Store),
      let platform : Platform World Store := ⟨host, backend⟩
      let final := (Run.text platform text shell).2
      Linked platform shell (textTrace platform text shell) final ∧
      shell.session.Keeps final.session ∧
      ∀ event ∈ textTrace platform text shell,
        let called := called? platform event.statement event.before.session
        shell.session.Keeps event.before.session ∧ shell.session.Keeps event.after.session ∧
        Directed host event.before event.after called ∧
        (event.after.session.variables ≠ event.before.session.variables →
          ∃ directive arguments, called = some (directive, arguments) ∧
            directive.assigns arguments = true) ∧
        (event.after.session.resources ≠ event.before.session.resources →
          ∃ directive arguments, called = some (directive, arguments) ∧
            directive.registers = true)) ∧
    (∀ (Store : Type) (server : Remote Store) (text : String) (shell : Shell World Store),
      let final := (Run.text ⟨host, .remote server⟩ text shell).2
      final.session.variables = shell.session.variables ∧
      final.session.resources = shell.session.resources) ∧
    (∀ (Store : Type) (key value : String) (shell : Shell World Store),
      '=' ∉ key.toList → Text.isBlankText key = false →
      let (code, assigned) := Directive.set.run host (key ++ "=" ++ value).toList shell
      let line := Text.trimmed key ++ "=" ++ Text.trimmed value
      code = 0 ∧
      assigned = { shell with
        session := { shell.session with «variables» := assigned.session.variables } } ∧
      (∀ name, assigned.session.variables[name]? =
        if Text.trimmed key = name then some (Text.trimmed value)
        else shell.session.variables[name]?) ∧
      Directive.set.run host key.toList assigned = Directive.printAll [line] assigned ∧
      (shell.session.out.Open → Directive.set.run host key.toList assigned =
        (0, { assigned with session := assigned.session.withOutput [line] }))) ∧
    ∀ (Store : Type) (engine : Engine Store) (initial : Variables) (texts : List String)
      (session : Session) (world : World) (store : Store),
      let platform : Platform World Store := ⟨host, .local engine⟩
      let final := series platform texts ⟨session.withVariables initial, world, store⟩
      (Run.text platform "reset" final).1 = .code 0 ∧
      (Run.text platform "reset" final).2.session.variables = initial ∧
      ∀ text, ∀ event ∈ textTrace platform text final, ∀ arguments,
        called? platform event.statement event.before.session = some (.reset, arguments) →
        event.after.session.variables = initial := by
  refine ⟨?_, ?_, ?_, ?_⟩
  · intro Store backend text shell platform final
    have linked := textTrace_linked platform text shell
    obtain ⟨ends, during⟩ := linked.keeps
    refine ⟨linked, ends, fun event member => ?_⟩
    have directed := linked.directed event member
    obtain ⟨before, after⟩ := during event member
    exact ⟨before, after, directed, directed.assigns, directed.registers⟩
  · intro Store server text shell final
    have steady := (textTrace_linked ⟨host, .remote server⟩ text shell).steady_of_remote
    exact ⟨steady.variables_eq, steady.resources_eq⟩
  · intro Store key value shell plain named
    rw [Directive.run_assignment plain named]
    have holds (name : String) := shell.session.getElem?_setVariable (Text.trimmed key)
      (Text.trimmed value) name
    have shown := Directive.run_shown plain named host
      { shell with
        session := shell.session.setVariable (Text.trimmed key) (Text.trimmed value) }
      ((holds _).trans (if_pos rfl))
    refine ⟨rfl, rfl, holds, shown, fun takes => ?_⟩
    exact shown.trans (Directive.printAll_of_open _ takes)
  · intro Store engine initial texts session world store platform final
    have kept : final.session.initialVariables = initial := by
      rw [series_keeps platform texts ⟨session.withVariables initial, world, store⟩]
      rfl
    obtain ⟨code, restored⟩ := text_reset host engine final
    refine ⟨code, restored.trans kept, ?_⟩
    intro text event member arguments called
    have linked := textTrace_linked platform text final
    have directed := linked.directed event member
    rw [called] at directed
    rw [directed.reset, (linked.keeps.2 event member).1]
    exact kept

theorem session_frame_set_delete_reset :
    let platform : Platform Machine Scripted.EngineState := ⟨Machine.host, .local Scripted.engine⟩
    let held : Resource.Holdings := (({} : Resource.Holdings).add .jar "a.jar").2
    let start : Shell Machine Scripted.EngineState :=
      ⟨({ resources := held } : Session).withVariables ∅, {}, {}⟩
    let events := textTrace platform "set a = 1; delete jar; reset" start
    (∃ event ∈ events, event.after.session.variables["a"]? = some "1" ∧
      ∃ directive arguments,
        called? platform event.statement event.before.session = some (directive, arguments) ∧
        directive.assigns arguments = true) ∧
    (∃ event ∈ events, event.after.session.resources.isEmpty = true ∧
      ∃ directive arguments,
        called? platform event.statement event.before.session = some (directive, arguments) ∧
        directive.registers = true) ∧
    (∃ event ∈ events, event.before.session.variables["a"]? = some "1" ∧
      event.after.session.variables = ∅) ∧
    (Directive.set.run Machine.host "a ".toList
        (Directive.set.run Machine.host "a = 1".toList start).2).2.session.out.text = "a=1\n" := by
  intro platform held start events
  let assigned : Shell Machine Scripted.EngineState :=
    { start with session := start.session.setVariable "a" "1" }
  let deleted : Shell Machine Scripted.EngineState :=
    { assigned with session := { assigned.session with resources := held.remove .jar [] } }
  have first : advance platform [Frame.ofText "set a = 1; delete jar; reset"] start =
      (.running [{ unread := [" delete jar;".toList, " reset".toList] }], assigned) := rfl
  have second : advance platform [{ unread := [" delete jar;".toList, " reset".toList] }] assigned =
      (.running [{ unread := [" reset".toList] }], deleted) := rfl
  have third : advance platform [{ unread := [" reset".toList] }] deleted =
      (.running [{ unread := [] }],
        { deleted with session := deleted.session.resetVariables }) := rfl
  have traced : events =
      [⟨"set a = 1", 1, start, .done 0, assigned⟩, ⟨"delete jar", 1, assigned, .done 0, deleted⟩,
        ⟨"reset", 1, deleted, .done 0,
          { deleted with session := deleted.session.resetVariables }⟩] := by
    simp only [events]
    rw [textTrace, trace_of_running first, trace_of_running second, trace_of_running third,
      trace_of_ended rfl]
    rfl
  have one : assigned.session.variables["a"]? = some "1" := by decide +kernel
  have emptied : deleted.session.resources.isEmpty = true := by decide +kernel
  have set_changes : assigned.session.variables ≠ start.session.variables := by
    intro same
    have unset : start.session.variables["a"]? = none := by decide +kernel
    rw [same, unset] at one
    cases one
  have delete_changes : deleted.session.resources ≠ assigned.session.resources := by
    intro same
    have filled : assigned.session.resources.isEmpty = false := by decide +kernel
    rw [same, filled] at emptied
    cases emptied
  obtain ⟨frame, -, assigns, resets⟩ := session_frame Machine.host
  obtain ⟨-, -, during⟩ := frame _ (.local Scripted.engine) "set a = 1; delete jar; reset" start
  obtain ⟨-, -, restores⟩ := resets _ Scripted.engine ∅ [] { resources := held } {} {}
  obtain ⟨-, -, -, -, shows⟩ := assigns _ "a " " 1" start (by decide +kernel) (by decide +kernel)
  have set_member : ⟨"set a = 1", 1, start, .done 0, assigned⟩ ∈ events := by simp [traced]
  have delete_member : ⟨"delete jar", 1, assigned, .done 0, deleted⟩ ∈ events := by simp [traced]
  have reset_member : ⟨"reset", 1, deleted, .done 0,
      { deleted with session := deleted.session.resetVariables }⟩ ∈ events := by simp [traced]
  obtain ⟨-, -, -, set_called, -⟩ := during _ set_member
  obtain ⟨-, -, -, -, delete_called⟩ := during _ delete_member
  refine ⟨⟨_, set_member, one, set_called set_changes⟩,
    ⟨_, delete_member, emptied, delete_called delete_changes⟩,
    ⟨_, reset_member, one, restores _ _ reset_member [] (by decide +kernel)⟩, ?_⟩
  have shown := shows fun _ _ => rfl
  have result := congrArg (fun result => result.2.session.out.text) shown
  exact result.trans (by decide +kernel)

end Run

end QueryShell
