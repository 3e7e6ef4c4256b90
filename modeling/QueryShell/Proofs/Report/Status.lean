import QueryShell.Machine
import QueryShell.Proofs.Report.Backend
import QueryShell.Proofs.Run.ErrorPolicy
import QueryShell.Scripted.Remote

/-!
The exit status of a run as evidence of what was reported. While errors count and nothing is
sampled, a run ends with status 0 only if no statement reported a failure of its own, and with
another status only if the last one did or its query was released with that code.
-/

namespace QueryShell.Run

variable {World Store : Type} {platform : Platform World Store}

def Step.code : Step → Int
  | .done code => code
  | .exit code => code
  | .enter _ => 0

theorem reported_loadSource (host : Host World) (path : String) (depth : Nat)
    (shell : Shell World Store) :
    (loadSource host path depth shell).2.session.reported = shell.session.reported := by
  simp only [loadSource]
  split
  · rfl
  · split
    · rename_i asked
      exact Shell.reported_of_withWorld asked
    · rename_i asked
      split
      · rename_i read
        exact (Shell.reported_of_withWorld read).trans (Shell.reported_of_withWorld asked)
      · rename_i read
        exact (Shell.reported_of_withWorld read).trans (Shell.reported_of_withWorld asked)

theorem code_of_loadSource {host : Host World} {path : String} {depth : Nat}
    {shell : Shell World Store} {failure : Failure}
    (failed : (loadSource host path depth shell).1 = .error failure) : failure.code = 1 := by
  simp only [loadSource] at failed
  split at failed
  · cases failed
    rfl
  · split at failed
    · cases failed
      rfl
    · split at failed
      · cases failed
      · cases failed
        rfl

def Graded (platform : Platform World Store) : Prop :=
  ∀ engine, platform.backend = .local engine → engine.Graded

def cleanFailures (platform : Platform World Store) (event : Event World Store) : List Failure :=
  match platform.backend, Command.ofStatement event.statement with
  | .remote server, .query statement => Remote.cleanFailures server statement event.before
  | _, _ => []

def Event.ReleasedWith (platform : Platform World Store) (event : Event World Store)
    (code : Int) : Prop :=
  ∃ engine statement,
    platform.backend = .local engine ∧
    Command.ofStatement event.statement = .query statement ∧
    Directive.ofStatement? statement = none ∧
    (engine.start statement event.before.store).1.response.isOk = true ∧
    (engine.start statement event.before.store).1.closeCode = code

theorem cleanFailures_of_builtin {event : Event World Store}
    (builtin : ∀ statement, Command.ofStatement event.statement ≠ .query statement) :
    cleanFailures platform event = [] := by
  simp only [cleanFailures]
  split
  · rename_i statement _ named
    exact (builtin statement named).elim
  · rfl

theorem cleanFailures_of_local {engine : Engine Store} (event : Event World Store)
    (backend : platform.backend = .local engine) : cleanFailures platform event = [] := by
  simp [cleanFailures, backend]

/-- A statement that reports some failures of its own, and then that of its cleanup. It has none
exactly if its code is 0, unless the code is that of a release. -/
def Event.Reports (platform : Platform World Store) (event : Event World Store)
    (failures : List Failure) : Prop :=
  event.after.session.reported =
      event.before.session.reported ++ failures ++ cleanFailures platform event ∧
    ((event.step.code = 0 ↔ failures = []) ∨
      failures = [] ∧ ∃ code, event.step = .done code ∧ event.ReleasedWith platform code)

theorem Event.reports_of_candid {event : Event World Store}
    {result : Int × Shell World Store} (candid : Candid event.before result)
    (asked : finished result = (event.step, event.after))
    (clean : cleanFailures platform event = []) : ∃ failures, event.Reports platform failures := by
  obtain ⟨failures, reported, zero_iff⟩ := candid
  obtain ⟨step, after⟩ := Prod.mk.inj asked
  refine ⟨failures, ?_, .inl ?_⟩
  · rw [← after, reported, clean, List.append_nil]
  · rw [← step]
    exact zero_iff

theorem Event.reports (graded : Graded platform) (event : Event World Store)
    (asked : dispatch platform event.statement event.depth event.before =
      (event.step, event.after))
    (unsampled : event.before.session.samples = false) :
    ∃ failures, event.Reports platform failures := by
  cases command : Command.ofStatement event.statement with
  | quit =>
      have clean : cleanFailures platform event = [] :=
        cleanFailures_of_builtin (by simp [command])
      simp only [dispatch, command, Prod.mk.injEq] at asked
      obtain ⟨step, after⟩ := asked
      exact ⟨[], by simp [← after, clean], .inl (by simp [← step, Step.code])⟩
  | source path =>
      have clean : cleanFailures platform event = [] :=
        cleanFailures_of_builtin (by simp [command])
      have same := reported_loadSource platform.host path event.depth event.before
      simp only [dispatch, command] at asked
      rcases loaded : loadSource platform.host path event.depth event.before with
        ⟨failure | content, found⟩
      · rw [loaded] at asked same
        have code := code_of_loadSource (congrArg Prod.fst loaded)
        have candid : Candid event.before (found.fail failure) :=
          .of_fail (by simp [code]) same
        exact Event.reports_of_candid candid asked clean
      · rw [loaded] at asked same
        simp only [Prod.mk.injEq] at asked
        obtain ⟨step, after⟩ := asked
        refine ⟨[], ?_, .inl (by simp [← step, Step.code])⟩
        rw [← after, clean]
        simpa using same
  | shell line =>
      simp only [dispatch, command] at asked
      exact Event.reports_of_candid (Escape.run_candid _ line event.before) asked
        (cleanFailures_of_builtin (by simp [command]))
  | list kind values =>
      simp only [dispatch, command] at asked
      exact Event.reports_of_candid (Listing.run_candid kind values event.before) asked
        (cleanFailures_of_builtin (by simp [command]))
  | query statement =>
      simp only [dispatch, command, query] at asked
      cases backend : platform.backend with
      | «local» engine =>
          have clean := cleanFailures_of_local event backend
          rw [backend] at asked
          rcases Local.execute_unsampled platform.host engine (graded engine backend) statement
            event.before unsampled with candid | ⟨undirected, taken, code, silent⟩
          · exact Event.reports_of_candid candid asked clean
          · obtain ⟨step, after⟩ := Prod.mk.inj asked
            refine ⟨[], ?_, .inr ⟨rfl, _, step.symm, ?_⟩⟩
            · rw [← after, silent, clean]
              simp
            · exact ⟨engine, statement, backend, command, undirected, taken, code.symm⟩
      | remote server =>
          have clean : cleanFailures platform event =
              Remote.cleanFailures server statement event.before := by
            simp [cleanFailures, backend, command]
          rw [backend] at asked
          obtain ⟨failures, reported, zero_iff⟩ :=
            Remote.executeOn_reported server statement event.before
          obtain ⟨step, after⟩ := Prod.mk.inj asked
          refine ⟨failures, ?_, .inl ?_⟩
          · rw [← after, reported, clean]
          · rw [← step]
            exact zero_iff

theorem Linked.eq_of_nil {shell final : Shell World Store}
    (linked : Linked platform shell [] final) : final = shell := by
  cases linked
  rfl

theorem Linked.parts {event : Event World Store} {events : List (Event World Store)}
    {shell final : Shell World Store} (linked : Linked platform shell (event :: events) final) :
    event.before = shell ∧ Linked platform event.after events final := by
  cases linked with
  | cons _ _ later => exact ⟨rfl, later⟩

theorem Linked.last {earlier : List (Event World Store)} {event : Event World Store}
    {shell final : Shell World Store}
    (linked : Linked platform shell (earlier ++ [event]) final) :
    Linked platform shell earlier event.before ∧ final = event.after := by
  induction earlier generalizing shell with
  | nil =>
      obtain ⟨rfl, later⟩ := linked.parts
      exact ⟨.nil _, later.eq_of_nil⟩
  | cons first earlier ih =>
      cases linked with
      | cons _ asked later =>
          obtain ⟨front, after⟩ := ih later
          exact ⟨.cons first asked front, after⟩

theorem Linked.reported_clean {events : List (Event World Store)} {shell final : Shell World Store}
    (graded : Graded platform) (linked : Linked platform shell events final)
    (unsampled : ∀ event ∈ events, event.before.session.samples = false)
    (zero : ∀ event ∈ events, event.step.code = 0) :
    final.session.reported = shell.session.reported ++ events.flatMap (cleanFailures platform) := by
  induction linked with
  | nil => simp
  | cons event asked later ih =>
      obtain ⟨failures, reported, told⟩ := event.reports graded asked (unsampled event (by simp))
      have none : failures = [] := by
        rcases told with zero_iff | ⟨none, -⟩
        · exact zero_iff.mp (zero event (by simp))
        · exact none
      have rest := ih (fun event member => unsampled event (List.mem_cons_of_mem _ member))
        (fun event member => zero event (List.mem_cons_of_mem _ member))
      rw [rest, reported, none]
      simp

theorem Linked.reported_last {earlier : List (Event World Store)} {event : Event World Store}
    {shell final : Shell World Store} (graded : Graded platform)
    (linked : Linked platform shell (earlier ++ [event]) final)
    (unsampled : ∀ other ∈ earlier ++ [event], other.before.session.samples = false)
    (zero : ∀ other ∈ earlier, other.step.code = 0) :
    ∃ failures, event.Reports platform failures ∧
      final.session.reported =
        shell.session.reported ++ earlier.flatMap (cleanFailures platform) ++ failures ++
          cleanFailures platform event := by
  have asked := linked.dispatch_of_mem event (by simp)
  obtain ⟨front, rfl⟩ := linked.last
  have before := front.reported_clean graded
    (fun first member => unsampled first (List.mem_append_left _ member)) zero
  obtain ⟨failures, reports⟩ := event.reports graded asked (unsampled event (by simp))
  refine ⟨failures, reports, ?_⟩
  rw [reports.1, before]

theorem InOrder.code_zero {depth : Nat} {statements : List String} {last final : Int}
    {events : List (Event World Store)}
    (inOrder : InOrder platform depth statements last events final)
    (zero : ∀ event ∈ events, event.step.code = 0) (start : last = 0) : final = 0 := by
  induction inOrder with
  | nil => exact start
  | plain event _ _ done later ih =>
      refine ih (fun event member => zero event (List.mem_cons_of_mem _ member)) ?_
      have own := zero event (by simp)
      rwa [done] at own
  | source event _ _ _ _ inner later inner_ih later_ih =>
      have code := inner_ih (fun event member => zero event (by simp [member])) rfl
      exact later_ih (fun event member => zero event (by simp [member])) code

/-- A run that never samples and never ignores an error. -/
def Strict (platform : Platform World Store) (text : String) (shell : Shell World Store) : Prop :=
  ∀ event ∈ textTrace platform text shell,
    event.before.session.samples = false ∧ event.after.session.ignoresErrors = false

theorem Event.code_of_unending {event : Event World Store}
    (unforgiven : event.after.session.ignoresErrors = false) (unending : event.ending? = none) :
    event.step.code = 0 := by
  cases step : event.step with
  | done code =>
      have passed := Event.passes_of_unending unending step
      simpa [Passes, unforgiven, Step.code] using passed
  | exit code => simp [Event.ending_of_exit step] at unending
  | enter content => rfl

theorem Event.status_of_ending {event : Event World Store} {outcome : Outcome}
    (ending : event.ending? = some outcome) : outcome.status = event.step.code := by
  simp only [Event.ending?] at ending
  split at ending
  · rename_i step
    cases ending
    simp [step, Step.code, Outcome.status]
  · cases ending
  · rename_i step
    split at ending
    · cases ending
    · cases ending
      simp [step, Step.code, Outcome.status]

/-- A strict run goes through with code 0 everywhere, or its last statement is the only one with
another code and gives the outcome. -/
theorem Strict.cases {text : String} {shell : Shell World Store}
    (strict : Strict platform text shell) :
    ((∀ event ∈ textTrace platform text shell, event.step.code = 0) ∧
        (Run.text platform text shell).1 = .code 0) ∨
      ∃ earlier event, textTrace platform text shell = earlier ++ [event] ∧
        (∀ other ∈ earlier, other.step.code = 0) ∧
        event.ending? = some (Run.text platform text shell).1 := by
  by_cases ends : ∃ event ∈ textTrace platform text shell, event.ending? ≠ none
  · right
    obtain ⟨event, member, ends⟩ := ends
    obtain ⟨outcome, ending⟩ := Option.ne_none_iff_exists'.mp ends
    obtain ⟨earlier, later, split⟩ := List.append_of_mem member
    obtain ⟨rfl, reached⟩ := trace_ending split ending
    refine ⟨earlier, event, split, ?_, ?_⟩
    · intro first before
      have unforgiven := (strict first (by simp [split, before])).2
      apply Event.code_of_unending unforgiven
      cases stops : first.ending? with
      | none => rfl
      | some stop =>
          obtain ⟨front, back, parts⟩ := List.append_of_mem before
          rw [parts, List.append_assoc, List.cons_append] at split
          have nothing := (trace_ending split stops).1
          simp at nothing
    · rw [ending]
      exact congrArg some reached.symm
  · left
    have unending : ∀ event ∈ textTrace platform text shell, event.ending? = none := by
      intro event member
      by_cases none : event.ending? = none
      · exact none
      · exact (ends ⟨event, member, none⟩).elim
    have zero : ∀ event ∈ textTrace platform text shell, event.step.code = 0 :=
      fun event member => Event.code_of_unending (strict event member).2 (unending event member)
    obtain ⟨final, outcome, unwound⟩ :=
      unwound_of_unending (Frame.ofText text) [] shell (.inl rfl) unending
    obtain ⟨own, next, rest, split, inner, below⟩ := unwound.parts
    cases below
    have code : final = 0 := by
      refine inner.code_zero ?_ rfl
      intro event member
      exact zero event (by simp [textTrace, split, member])
    exact ⟨zero, outcome.trans (by rw [code])⟩

/-- The status of a run and its reports agree. With status 0 the statements reported failures of the
cleanup at most. With another status there are failures besides those, or the last statement is a
query whose release gave the code. -/
structure Truthful (platform : Platform World Store) (text : String) (shell : Shell World Store) :
    Prop where
  success : (Run.text platform text shell).1.status = 0 →
    (Run.text platform text shell).2.session.reported =
      shell.session.reported ++ (textTrace platform text shell).flatMap (cleanFailures platform)
  failure : (Run.text platform text shell).1.status ≠ 0 →
    (∃ earlier own later, own ≠ [] ∧
      earlier ++ later = (textTrace platform text shell).flatMap (cleanFailures platform) ∧
      (Run.text platform text shell).2.session.reported =
        shell.session.reported ++ earlier ++ own ++ later) ∨
    ∃ earlier event code, textTrace platform text shell = earlier ++ [event] ∧
      (Run.text platform text shell).1 = .code code ∧ event.ReleasedWith platform code

theorem Strict.truthful {text : String} {shell : Shell World Store}
    (strict : Strict platform text shell) (graded : Graded platform) :
    Truthful platform text shell := by
  have linked := textTrace_linked platform text shell
  have unsampled : ∀ event ∈ textTrace platform text shell, event.before.session.samples = false :=
    fun event member => (strict event member).1
  rcases strict.cases with ⟨zero, outcome⟩ | ⟨earlier, event, split, zero, ending⟩
  · have clean := linked.reported_clean graded unsampled zero
    exact ⟨fun _ => clean, fun nonzero => (nonzero (by rw [outcome]; rfl)).elim⟩
  · have status := Event.status_of_ending ending
    rw [split] at linked unsampled
    obtain ⟨failures, ⟨-, told⟩, total⟩ := linked.reported_last graded unsampled zero
    have cleaned : (textTrace platform text shell).flatMap (cleanFailures platform) =
        earlier.flatMap (cleanFailures platform) ++ cleanFailures platform event := by
      simp [split]
    refine ⟨?_, ?_⟩
    · intro success
      rw [status] at success
      have none : failures = [] := by
        rcases told with zero_iff | ⟨none, -⟩
        · exact zero_iff.mp success
        · exact none
      rw [total, cleaned, none]
      simp
    · intro nonzero
      rw [status] at nonzero
      rcases told with zero_iff | ⟨-, code, done, released⟩
      · left
        exact ⟨_, failures, _, fun none => nonzero (zero_iff.mpr none), cleaned.symm, total⟩
      · right
        rw [done] at nonzero
        have unforgiven := (strict event (by simp [split])).2
        have failed := Event.ending_of_failed done (not_passes_iff.mpr ⟨nonzero, unforgiven⟩)
        exact ⟨earlier, event, code, split, Option.some.inj (ending.symm.trans failed), released⟩

/-- The status of a strict run can be trusted, with the scripted engine and with any server. -/
theorem status_tells_reports (host : Host World) (text : String) :
    (∀ shell : Shell World Scripted.EngineState,
      Strict ⟨host, .local Scripted.engine⟩ text shell →
        Truthful ⟨host, .local Scripted.engine⟩ text shell) ∧
    (∀ (Store : Type) (server : Remote Store) (shell : Shell World Store),
      Strict ⟨host, .remote server⟩ text shell → Truthful ⟨host, .remote server⟩ text shell) := by
  constructor
  · intro shell strict
    refine strict.truthful ?_
    rintro engine ⟨⟩
    exact Scripted.engine_graded
  · intro Store server shell strict
    refine strict.truthful ?_
    rintro engine ⟨⟩

/-- A failure inside a sourced file, on an engine and on a server whose cleanups all fail. -/
theorem status_tells_reports_of_sourced_failure :
    let machine : Machine := { tree := { Files.Tree.fresh with
      entries := (["inner"], .file "two; bad; three".toUTF8) :: Files.Tree.fresh.entries } }
    let text := "one; source /inner; four"
    let engine : Platform Machine Scripted.EngineState := ⟨Machine.host, .local Scripted.engine⟩
    let onEngine : Shell Machine Scripted.EngineState :=
      ⟨{}, machine, { scripts := [("bad", { rejection := some (7, "no") })] }⟩
    let server : Platform Machine Scripted.RemoteState := ⟨Machine.host, .remote Scripted.remote⟩
    let onServer : Shell Machine Scripted.RemoteState :=
      ⟨{}, machine, {
        scripts := [("bad", { rejection := some (.server 9 "no") })], failsClean := true }⟩
    Strict engine text onEngine ∧ Truthful engine text onEngine ∧
      (Run.text engine text onEngine).1 = .code 7 ∧
      Strict server text onServer ∧ Truthful server text onServer ∧
      (Run.text server text onServer).1 = .code 9 := by
  intro machine text engine onEngine server onServer
  have engine_ends : (iterate engine 4 (.running [Frame.ofText text], onEngine)).1 =
      .ended (.code 7) := by decide +kernel
  have server_ends : (iterate server 4 (.running [Frame.ofText text], onServer)).1 =
      .ended (.code 9) := by decide +kernel
  have strict_engine : Strict engine text onEngine := by
    rw [Strict, textTrace, trace_of_iterate 4 engine_ends]
    decide +kernel
  have strict_server : Strict server text onServer := by
    rw [Strict, textTrace, trace_of_iterate 4 server_ends]
    decide +kernel
  have trusted := status_tells_reports Machine.host text
  exact ⟨strict_engine, trusted.1 onEngine strict_engine,
    congrArg Prod.fst (frames_of_iterate 4 engine_ends), strict_server,
    trusted.2 _ Scripted.remote onServer strict_server,
    congrArg Prod.fst (frames_of_iterate 4 server_ends)⟩

end QueryShell.Run
