import QueryShell.Machine
import QueryShell.Proofs.Remote.Paging
import QueryShell.Scripted.Remote

/-!
What one statement asks of a server, call by call, and what comes of the answers. The statement is
sent, pages are fetched up to the first that is not full, and the server is told to clean up. The
first failure before the cleanup decides the code.
-/

namespace QueryShell.Remote

variable {World Store : Type} {server : Remote Store} {statement : String}

inductive Call where
  | execute (statement : String) (answer : Except Failure Unit)
  | fetch (count : Nat) (answer : Except Failure (List String))
  | clean (answer : Except Failure Unit)

structure Recorded (Store : Type) where
  store : Store
  calls : List Call := []

def recorded (server : Remote Store) : Remote (Recorded Store) where
  execute statement record :=
    let (answer, store) := server.execute statement record.store
    (answer, ⟨store, record.calls ++ [.execute statement answer]⟩)
  fetch count record :=
    let (answer, store) := server.fetch count record.store
    (answer, ⟨store, record.calls ++ [.fetch count answer]⟩)
  clean record :=
    let (answer, store) := server.clean record.store
    (answer, ⟨store, record.calls ++ [.clean answer]⟩)
  backlog record := server.backlog record.store
  backlog_fetch := by
    intro count record after lines fetched positive full
    obtain ⟨answer, rfl⟩ := Prod.mk.inj fetched
    exact server.backlog_fetch (Prod.ext answer rfl) positive full

def failure? {Answer : Type} : Except Failure Answer → Option Failure
  | .ok _ => none
  | .error failure => some failure

inductive Paged : List (Except Failure (List String)) → Prop
  | failed (failure : Failure) : Paged [.error failure]
  | short {lines : List String} (short : lines.length < pageSize) : Paged [.ok lines]
  | full {lines : List String} {rest : List (Except Failure (List String))}
      (full : pageSize ≤ lines.length) (later : Paged rest) : Paged (.ok lines :: rest)

def codeOf : Option Failure → Int
  | none => 0
  | some (.server 0 _) => 0
  | some failure => failure.code

def reportsOf : Option Failure → List Failure
  | none => []
  | some (.server 0 _) => []
  | some failure => [failure]

structure Answers where
  started : Except Failure Unit
  pages : List (Except Failure (List String))
  cleaned : Except Failure Unit

namespace Answers

def calls (statement : String) (answers : Answers) : List Call :=
  .execute statement answers.started ::
    (answers.pages.map (Call.fetch 40) ++ [.clean answers.cleaned])

def Proper (answers : Answers) : Prop :=
  match answers.started with
  | .ok () => Paged answers.pages
  | .error _ => answers.pages = []

def lines (answers : Answers) : List String :=
  answers.pages.flatMap fun page => page.toOption.getD []

def firstFailure? (answers : Answers) : Option Failure :=
  (failure? answers.started).or (answers.pages.findSome? failure?)

def code (answers : Answers) : Int := codeOf answers.firstFailure?

def reports (answers : Answers) : List Failure :=
  reportsOf answers.firstFailure? ++ (failure? answers.cleaned).toList

end Answers

theorem exists_pages_of_server (server : Remote Store) (store : Store) :
    ∃ pages result last, Pages server store pages result last := by
  generalize bound : server.backlog store = backlog
  induction backlog using Nat.strongRecOn generalizing store with
  | ind backlog ih =>
      subst bound
      rcases fetched : server.fetch pageSize store with ⟨failure | lines, after⟩
      · exact ⟨[], .error failure, after, .failed fetched⟩
      · by_cases full : pageSize ≤ lines.length
        · have fewer := server.backlog_fetch fetched (by decide) full
          obtain ⟨pages, result, last, paged⟩ := ih _ fewer after rfl
          exact ⟨lines :: pages, result, last, .full fetched full paged⟩
        · exact ⟨[lines], .ok (), after, .short fetched (by omega)⟩

def answersOf (pages : List (List String)) (result : Except Failure Unit) :
    List (Except Failure (List String)) :=
  pages.map .ok ++ (failure? result).toList.map .error

theorem lines_answersOf (pages : List (List String)) (result : Except Failure Unit) :
    ((answersOf pages result).flatMap fun page => page.toOption.getD []) = pages.flatten := by
  have none_failed : ((failure? result).toList.map Except.error).flatMap
      (fun page : Except Failure (List String) => page.toOption.getD []) = [] := by
    cases result with
    | ok done => rfl
    | error failure => rfl
  rw [answersOf, List.flatMap_append, none_failed, List.append_nil, List.flatMap_map]
  exact List.flatMap_id'

theorem findSome?_answersOf (pages : List (List String)) (result : Except Failure Unit) :
    (answersOf pages result).findSome? failure? = failure? result := by
  induction pages with
  | nil =>
      cases result with
      | ok done => rfl
      | error failure => rfl
  | cons page rest ih => exact ih

theorem error_mem_answersOf {pages : List (List String)} {result : Except Failure Unit}
    {failure : Failure} :
    .error failure ∈ answersOf pages result ↔ failure? result = some failure := by
  simp [answersOf]

namespace Pages

variable {store last : Store} {pages : List (List String)} {result : Except Failure Unit}

theorem paged (given : Pages server store pages result last) : Paged (answersOf pages result) := by
  induction given with
  | failed _ => exact .failed _
  | short _ short => exact .short short
  | full _ full _ ih => exact .full full ih

theorem recorded (given : Pages server store pages result last) (calls : List Call) :
    Pages server.recorded ⟨store, calls⟩ pages result
      ⟨last, calls ++ (answersOf pages result).map (.fetch pageSize)⟩ := by
  induction given generalizing calls with
  | failed fetched =>
      refine .failed ?_
      simp only [Remote.recorded, fetched]
      rfl
  | short fetched short =>
      refine .short ?_ short
      simp only [Remote.recorded, fetched]
      rfl
  | @full store middle _ lines rest result fetched full _ ih =>
      have noted : server.recorded.fetch pageSize ⟨store, calls⟩ =
          (.ok lines, ⟨middle, calls ++ [.fetch pageSize (.ok lines)]⟩) := by
        simp only [Remote.recorded, fetched]
      have later := ih (calls ++ [.fetch pageSize (.ok lines)])
      rw [List.append_assoc] at later
      exact .full noted full later

end Pages

def reportAll (failures : List Failure) (session : Session) : Session :=
  failures.foldl (fun session failure => session.report failure) session

theorem settle_eq (result : Except Failure Unit) (session : Session) :
    settle result session =
      (codeOf (failure? result), reportAll (reportsOf (failure? result)) session) := by
  simp only [settle]
  split
  · rfl
  · rfl
  · rename_i failure marked
    simp only [failure?, codeOf, reportsOf]
    rfl

theorem out_reportAll (failures : List Failure) (session : Session) :
    (reportAll failures session).out = session.out := by
  induction failures generalizing session with
  | nil => rfl
  | cons failure rest ih => exact ih (session.report failure)

theorem executeOn_settled {shell : Shell World Store} {result : Except Failure Unit}
    {printed : Session} {last : Store}
    (ran : run server statement shell.session shell.store = (result, printed, last)) :
    executeOn server statement shell =
      (codeOf (failure? result),
        { shell with
          session := reportAll
            (reportsOf (failure? result) ++ (failure? (server.clean last).1).toList) printed
          store := (server.clean last).2 }) := by
  have settled := settle_eq result printed
  rcases cleaned : server.clean last with ⟨failure | done, after⟩
  · simp only [executeOn, ran, settled, cleaned, failure?, reportAll, List.foldl_append]
    rfl
  · simp only [executeOn, ran, settled, cleaned, failure?, reportAll, List.foldl_append]
    rfl

/-- What a statement comes to on an open sink, with these answers. -/
def answered (answers : Answers) (shell : Shell World Store) (last : Store) :
    Int × Shell World Store :=
  (answers.code,
    { shell with
      session := reportAll answers.reports (shell.session.withOutput answers.lines)
      store := last })

theorem executeOn_refused {shell : Shell World Store} {failure : Failure} {refused : Store}
    (started : server.execute statement shell.store = (.error failure, refused)) :
    executeOn server statement shell =
      answered ⟨.error failure, [], (server.clean refused).1⟩ shell (server.clean refused).2 := by
  have ran : run server statement shell.session shell.store =
      (.error failure, shell.session, refused) := by
    rw [run, started]
  have unprinted : shell.session.withOutput [] = shell.session := Session.withOutput_nil
  rw [executeOn_settled ran, answered, Answers.lines, List.flatMap_nil, unprinted]
  rfl

theorem executeOn_paged {shell : Shell World Store} {begun last : Store}
    {pages : List (List String)} {result : Except Failure Unit}
    (started : server.execute statement shell.store = (.ok (), begun))
    (given : Pages server begun pages result last) (takes : shell.session.out.Open) :
    executeOn server statement shell =
      answered ⟨.ok (), answersOf pages result, (server.clean last).1⟩ shell
        (server.clean last).2 := by
  have printed := given.printPages takes
  have ran : run server statement shell.session shell.store =
      (result, shell.session.withOutput pages.flatten, last) := by
    rw [run, started]
    exact printed
  have first : (Answers.mk (.ok ()) (answersOf pages result) (server.clean last).1).firstFailure? =
      failure? result := by
    rw [Answers.firstFailure?, findSome?_answersOf]
    rfl
  rw [executeOn_settled ran, answered, Answers.code, Answers.reports, Answers.lines, first,
    lines_answersOf]

/-- The calls for a statement on an open sink, and what comes of them; a record of the calls changes
nothing else. -/
theorem exists_answers (server : Remote Store) (statement : String) (shell : Shell World Store)
    (takes : shell.session.out.Open) :
    ∃ answers last, answers.Proper ∧ executeOn server statement shell = answered answers shell last ∧
      ∀ calls, executeOn server.recorded statement
          { shell with store := (⟨shell.store, calls⟩ : Recorded Store) } =
        answered answers { shell with store := ⟨shell.store, calls⟩ }
          ⟨last, calls ++ answers.calls statement⟩ := by
  rcases started : server.execute statement shell.store with ⟨failure | done, begun⟩
  · refine ⟨⟨.error failure, [], (server.clean begun).1⟩, (server.clean begun).2, rfl,
      executeOn_refused started, fun calls => ?_⟩
    have noted : server.recorded.execute statement ⟨shell.store, calls⟩ =
        (.error failure, ⟨begun, calls ++ [.execute statement (.error failure)]⟩) := by
      simp only [recorded, started]
    rw [executeOn_refused noted]
    simp [recorded, Answers.calls]
  · obtain ⟨pages, result, last, given⟩ := exists_pages_of_server server begun
    refine ⟨⟨.ok (), answersOf pages result, (server.clean last).1⟩, (server.clean last).2,
      given.paged, executeOn_paged started given takes, fun calls => ?_⟩
    have noted : server.recorded.execute statement ⟨shell.store, calls⟩ =
        (.ok (), ⟨begun, calls ++ [.execute statement (.ok ())]⟩) := by
      simp only [recorded, started]
    rw [executeOn_paged noted (given.recorded _) takes]
    simp [recorded, Answers.calls, pageSize]

section Scripted

open Scripted (RemoteState RemoteScript)

theorem fetch_held {state : RemoteState} (count : Nat) (held : state.lines ≠ []) :
    state.fetch count = (.ok (state.lines.take count), { state with
      fetchCalls := state.fetchCalls + 1, lines := state.lines.drop count }) := by
  simp only [RemoteState.fetch]
  split
  · rename_i none_held _
    exact (held none_held).elim
  · rfl

theorem exists_last_page {state : RemoteState} (none_held : state.lines = []) :
    ∃ pages result last, Pages Scripted.remote state pages result last ∧
      pages.flatten = [] ∧ failure? result = state.afterLines ∧
      last.fetchCalls = state.fetchCalls + 1 := by
  cases ending : state.afterLines with
  | none =>
      have fetched : Scripted.remote.fetch pageSize state =
          (.ok [], { state with fetchCalls := state.fetchCalls + 1 }) := by
        simp [Scripted.remote, RemoteState.fetch, none_held, ending]
      exact ⟨[[]], .ok (), _, .short fetched (by decide), rfl, rfl, rfl⟩
  | some failure =>
      have fetched : Scripted.remote.fetch pageSize state = (.error failure, { state with
          fetchCalls := state.fetchCalls + 1, afterLines := none }) := by
        simp [Scripted.remote, RemoteState.fetch, none_held, ending]
      exact ⟨[], .error failure, _, .failed fetched, rfl, rfl, rfl⟩

/-- A scripted server has one page more than there are full ones. The failure after the lines is met
only if every page that has lines is full. -/
theorem exists_pages_of_script (state : RemoteState) :
    ∃ pages result last, Pages Scripted.remote state pages result last ∧
      pages.flatten = state.lines ∧
      failure? result = (if 40 ∣ state.lines.length then state.afterLines else none) ∧
      last.fetchCalls = state.fetchCalls + (state.lines.length / 40 + 1) := by
  -- Without lines left the next page is the last; a full page leaves 40 lines fewer.
  generalize count : state.lines.length = length
  induction length using Nat.strongRecOn generalizing state with
  | ind length ih =>
      subst count
      by_cases none_held : state.lines = []
      · obtain ⟨pages, result, last, given, joined, met, calls⟩ := exists_last_page none_held
        rw [none_held]
        exact ⟨pages, result, last, given, joined, met, calls⟩
      · have positive : 0 < state.lines.length := List.length_pos_iff.mpr none_held
        have taken : (state.lines.take 40).length = min 40 state.lines.length := List.length_take
        let after : RemoteState := { state with
          fetchCalls := state.fetchCalls + 1, lines := state.lines.drop 40 }
        have fetched : Scripted.remote.fetch pageSize state = (.ok (state.lines.take 40), after) :=
          fetch_held 40 none_held
        by_cases full : 40 ≤ state.lines.length
        · have rest : after.lines.length = state.lines.length - 40 := List.length_drop
          obtain ⟨pages, result, last, given, joined, met, calls⟩ :=
            ih after.lines.length (by omega) after rfl
          have page : pageSize ≤ (state.lines.take 40).length := by
            rw [taken]
            exact Nat.le_min.mpr ⟨Nat.le_refl 40, full⟩
          refine ⟨_, result, last, .full fetched page given, ?_, ?_, ?_⟩
          · rw [List.flatten_cons, joined, List.take_append_drop]
          · have same : 40 ∣ after.lines.length ↔ 40 ∣ state.lines.length := by omega
            simp only [met, same, after]
          · have one_more : after.fetchCalls = state.fetchCalls + 1 := rfl
            omega
        · have all : state.lines.take 40 = state.lines := List.take_of_length_le (by omega)
          have partly : ¬40 ∣ state.lines.length := by omega
          have page : (state.lines.take 40).length < pageSize := by
            rw [all]
            exact Nat.not_le.mp full
          refine ⟨_, .ok (), after, .short fetched page, ?_, ?_, ?_⟩
          · rw [List.flatten_singleton, all]
          · rw [if_neg partly]
            rfl
          · have one_more : after.fetchCalls = state.fetchCalls + 1 := rfl
            omega

theorem executeOn_script (shell : Shell World (Recorded RemoteState)) {script : RemoteScript}
    (takes : shell.session.out.Open)
    (scripted : (shell.store.store.scripts.lookup statement).getD {} = script)
    (taken : script.rejection = none) :
    ∃ answers last,
      executeOn Scripted.remote.recorded statement shell =
        answered answers shell ⟨last, shell.store.calls ++ answers.calls statement⟩ ∧
      answers.lines = script.lines ∧
      last.fetchCalls = shell.store.store.fetchCalls + (script.lines.length / 40 + 1) ∧
      answers.firstFailure? = (if 40 ∣ script.lines.length then script.afterLines else none) ∧
      ∀ failure, .error failure ∈ answers.pages ↔ answers.firstFailure? = some failure := by
  let begun : RemoteState := { shell.store.store with
    executed := shell.store.store.executed ++ [statement]
    lines := script.lines
    afterLines := script.afterLines }
  obtain ⟨pages, result, last, given, joined, met, fetches⟩ := exists_pages_of_script begun
  have started : Scripted.remote.recorded.execute statement shell.store =
      (.ok (), ⟨begun, shell.store.calls ++ [.execute statement (.ok ())]⟩) := by
    simp only [recorded, Scripted.remote, RemoteState.execute, scripted, taken, begun]
  refine ⟨⟨.ok (), answersOf pages result, (Scripted.remote.clean last).1⟩,
    (Scripted.remote.clean last).2, ?_, ?_, fetches, ?_, fun failure => ?_⟩
  · rw [executeOn_paged started (given.recorded _) takes]
    simp [recorded, Answers.calls, pageSize]
  · exact (lines_answersOf pages result).trans joined
  · exact (findSome?_answersOf pages result).trans met
  · rw [error_mem_answersOf, ← findSome?_answersOf pages result]
    rfl

end Scripted

/-- On an open sink the lines of every page are printed in order. A page is fetched after the
statement was taken and after every full page, and the cleanup comes once and last. The first failure
before it gives the code. From a script, one fetch more is made than there are full pages, and the
failure after the lines is met exactly if every page is full. The server is one that runs out of full
pages, as its `backlog` says; with one that never does, the fetches would not end. -/
theorem results_paged (statement : String) (session : Session) (world : World)
    (takes : session.out.Open) :
    (∀ (Store : Type) (server : Remote Store) (store : Store),
      ∃ answers last, answers.Proper ∧
        executeOn server statement ⟨session, world, store⟩ =
          answered answers ⟨session, world, store⟩ last ∧
        executeOn server.recorded statement ⟨session, world, ⟨store, []⟩⟩ =
          answered answers ⟨session, world, ⟨store, []⟩⟩ ⟨last, answers.calls statement⟩) ∧
    (∀ (state : Scripted.RemoteState) (script : Scripted.RemoteScript),
      (state.scripts.lookup statement).getD {} = script → script.rejection = none →
      let ran := executeOn Scripted.remote.recorded statement ⟨session, world, ⟨state, []⟩⟩
      ran.2.store.store.fetchCalls = state.fetchCalls + (script.lines.length / 40 + 1) ∧
      ran.2.session.out = session.out.extend (Sink.bytesOf script.lines) ∧
      ran.1 = codeOf (if 40 ∣ script.lines.length then script.afterLines else none) ∧
      ∀ failure, script.afterLines = some failure →
        (.fetch 40 (.error failure) ∈ ran.2.store.calls ↔ 40 ∣ script.lines.length)) := by
  refine ⟨fun Store server store => ?_, fun state script scripted taken => ?_⟩
  · obtain ⟨answers, last, proper, plain, noted⟩ :=
      exists_answers server statement ⟨session, world, store⟩ takes
    exact ⟨answers, last, proper, plain, noted []⟩
  · let shell : Shell World (Recorded Scripted.RemoteState) := ⟨session, world, ⟨state, []⟩⟩
    obtain ⟨answers, last, ran, lines, fetches, first, met⟩ :=
      executeOn_script shell takes scripted taken
    have out := out_reportAll answers.reports (session.withOutput answers.lines)
    rw [ran]
    refine ⟨fetches, ?_, congrArg codeOf first, fun failure ending => ?_⟩
    · rw [← lines]
      exact out
    · have noted : Call.fetch 40 (.error failure) ∈ [] ++ answers.calls statement ↔
          .error failure ∈ answers.pages := by
        simp [Answers.calls]
      rw [first, ending] at met
      exact noted.trans ((met failure).trans (by simp))

theorem results_paged_full_page :
    let script : Scripted.RemoteScript :=
      { lines := List.replicate 40 "a", afterLines := some (.server 0 "no more rows") }
    let session : Session := {}
    let ran := executeOn Scripted.remote.recorded "q"
      ⟨session, ({} : Machine), ⟨{ scripts := [("q", script)] }, []⟩⟩
    session.out.Open ∧ ran.2.store.store.fetchCalls = 2 ∧
      ran.2.session.out = session.out.extend (Sink.bytesOf script.lines) ∧
      .fetch 40 (.error (.server 0 "no more rows")) ∈ ran.2.store.calls := by
  intro script session ran
  have takes : session.out.Open := fun _ _ => rfl
  obtain ⟨fetches, printed, -, met⟩ := (results_paged "q" session ({} : Machine) takes).2
    { scripts := [("q", script)] } script rfl rfl
  exact ⟨takes, fetches.trans (by decide), printed, (met _ rfl).mpr (by decide)⟩

end QueryShell.Remote
