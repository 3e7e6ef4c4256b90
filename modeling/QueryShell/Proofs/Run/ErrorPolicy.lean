import QueryShell.Machine
import QueryShell.Proofs.Run.Recursion
import QueryShell.Proofs.Run.Trace
import QueryShell.Scripted.Engine

/-!
The error policy of a run. A failure that is not ignored and a `quit` stop everything that is still
to come, at every depth. Without them each statement of each sourced text is carried out once, in
textual order.
-/

namespace QueryShell.Run

variable {World Store : Type} {platform : Platform World Store}

def Readable (host : Host World) (path content : String) (shell : Shell World Store) : Prop :=
  (host.isFile path shell.world).1 = true ∧
    (host.readText path (host.isFile path shell.world).2).1 = .ok content

theorem loadSource_eq_ok_iff {host : Host World} {path content : String} {depth : Nat}
    {shell : Shell World Store} :
    (loadSource host path depth shell).1 = .ok content ↔
      depth < maxDepth ∧ Readable host path content shell := by
  by_cases deep : maxDepth ≤ depth
  · have not_shallow : ¬depth < maxDepth := by omega
    simp [loadSource, deep, not_shallow]
  · have shallow : depth < maxDepth := by omega
    rcases asked : host.isFile path shell.world with ⟨regular, world⟩
    cases regular with
    | false => simp [loadSource, deep, Readable, Shell.withWorld, asked]
    | true =>
        rcases read : host.readText path world with ⟨reason | text, left⟩
        · simp [loadSource, deep, Readable, Shell.withWorld, asked, read]
        · simp [loadSource, deep, shallow, Readable, Shell.withWorld, asked, read]

section Dispatch

variable {statement : String} {depth : Nat} {shell after : Shell World Store}

theorem enter_iff {content : String} :
    (dispatch platform statement depth shell).1 = .enter content ↔
      ∃ path, Command.ofStatement statement = .source path ∧ depth < maxDepth ∧
        Readable platform.host path content shell := by
  simp only [dispatch]
  cases Command.ofStatement statement with
  | source path =>
      simp only [Command.source.injEq, exists_eq_left', ← loadSource_eq_ok_iff]
      rcases loadSource platform.host path depth shell with ⟨failure | text, loaded⟩
      · simp [finished]
      · simp
  | quit => simp
  | shell line => simp [finished]
  | list kind values => simp [finished]
  | query statement => simp [finished]

theorem exit_iff {code : Int} :
    (dispatch platform statement depth shell).1 = .exit code ↔
      Command.ofStatement statement = .quit ∧ code = 0 := by
  simp only [dispatch]
  cases Command.ofStatement statement with
  | source path =>
      rcases loaded : loadSource platform.host path depth shell with ⟨failure | text, found⟩
      · simp [finished, loaded]
      · simp [loaded]
  | quit => simp [eq_comm]
  | shell line => simp [finished]
  | list kind values => simp [finished]
  | query statement => simp [finished]

theorem not_readable_of_done {code : Int}
    (asked : dispatch platform statement depth shell = (.done code, after)) (path content : String)
    (named : Command.ofStatement statement = .source path) (shallow : depth < maxDepth) :
    ¬Readable platform.host path content shell := by
  intro readable
  have enters := enter_iff.mpr ⟨path, named, shallow, readable⟩
  rw [asked] at enters
  cases enters

end Dispatch

/-- The events of statements at a depth that are carried out in textual order, each once. After the
`source` of a readable file come the events of its text, one level deeper. The numbers are the code
before the statements and the code of the last of them; a `source` has the code of its text. -/
inductive InOrder (platform : Platform World Store) :
    Nat → List String → Int → List (Event World Store) → Int → Prop
  | nil (depth : Nat) (last : Int) : InOrder platform depth [] last [] last
  | plain {depth rest last events code final} (event : Event World Store)
      (level : event.depth = depth)
      (unentered : ∀ path content, Command.ofStatement event.statement = .source path →
        depth < maxDepth → ¬Readable platform.host path content event.before)
      (done : event.step = .done code)
      (later : InOrder platform depth rest code events final) :
      InOrder platform depth (event.statement :: rest) last (event :: events) final
  | source {depth rest last path content own code events final} (event : Event World Store)
      (level : event.depth = depth)
      (named : Command.ofStatement event.statement = .source path)
      (shallow : depth < maxDepth)
      (readable : Readable platform.host path content event.before)
      (inner : InOrder platform (depth + 1) (Statement.split content) 0 own code)
      (later : InOrder platform depth rest code events final) :
      InOrder platform depth (event.statement :: rest) last (event :: (own ++ events)) final

inductive Unwound (platform : Platform World Store) :
    List Frame → Int → List (Event World Store) → Int → Prop
  | nil (code : Int) : Unwound platform [] code [] code
  | cons {frame outer code own next rest final}
      (inner : InOrder platform (outer.length + 1) frame.statements code own next)
      (later : Unwound platform outer next rest final) :
      Unwound platform (frame :: outer) code (own ++ rest) final

theorem Unwound.parts {frame : Frame} {outer : List Frame} {code final : Int}
    {events : List (Event World Store)}
    (unwound : Unwound platform (frame :: outer) code events final) :
    ∃ own next rest, events = own ++ rest ∧
      InOrder platform (outer.length + 1) frame.statements code own next ∧
      Unwound platform outer next rest final := by
  cases unwound with
  | cons inner later => exact ⟨_, _, _, rfl, inner, later⟩

theorem Unwound.of_last {frame : Frame} {outer : List Frame} {last code final : Int}
    {events : List (Event World Store)}
    (unwound : Unwound platform ({ frame with last } :: outer) code events final) :
    Unwound platform (frame :: outer) code events final := by
  cases unwound with
  | cons inner later => exact .cons inner later

theorem Unwound.plain {frame : Frame} {outer : List Frame} {last code final : Int}
    {unread : List (List Char)} {events : List (Event World Store)} (event : Event World Store)
    (found : frame.statements = event.statement :: Frame.statements { frame with unread })
    (level : event.depth = outer.length + 1)
    (unentered : ∀ path content, Command.ofStatement event.statement = .source path →
      outer.length + 1 < maxDepth → ¬Readable platform.host path content event.before)
    (done : event.step = .done code)
    (later : Unwound platform ({ frame with unread } :: outer) code events final) :
    Unwound platform (frame :: outer) last (event :: events) final := by
  obtain ⟨own, next, rest, rfl, inner, below⟩ := later.parts
  have all : InOrder platform (outer.length + 1) frame.statements last (event :: own) next := by
    rw [found]
    exact .plain event level unentered done inner
  exact .cons all below

theorem Unwound.source {frame : Frame} {outer : List Frame} {last final : Int}
    {path content : String} {unread : List (List Char)} {events : List (Event World Store)}
    (event : Event World Store)
    (found : frame.statements = event.statement :: Frame.statements { frame with unread })
    (level : event.depth = outer.length + 1)
    (named : Command.ofStatement event.statement = .source path)
    (shallow : outer.length + 1 < maxDepth)
    (readable : Readable platform.host path content event.before)
    (later : Unwound platform (Frame.ofText content :: { frame with unread } :: outer) 0 events
      final) :
    Unwound platform (frame :: outer) last (event :: events) final := by
  obtain ⟨own, code, others, rfl, inner, beside⟩ := later.parts
  obtain ⟨rest, next, outermost, rfl, same, below⟩ := beside.parts
  rw [Frame.statements_ofText] at inner
  have all : InOrder platform (outer.length + 1) frame.statements last (event :: (own ++ rest))
      next := by
    rw [found]
    exact .source event level named shallow readable inner same
  have joined := Unwound.cons all below
  rwa [List.cons_append, List.append_assoc] at joined

/-- A run without a statement that ends it carries out the rest of every frame in order. The code of
the innermost frame passes, as that of each frame does that went on after a failure. -/
theorem unwound_of_unending (frame : Frame) (outer : List Frame) (shell : Shell World Store)
    (passed : Passes frame.last shell.session.ignoresErrors)
    (unending : ∀ event ∈ trace platform (frame :: outer) shell, event.ending? = none) :
    ∃ final, (frames platform (frame :: outer) shell).1 = .code final ∧
      Unwound platform (frame :: outer) frame.last (trace platform (frame :: outer) shell)
        final := by
  generalize stacked : frame :: outer = stack at unending ⊢
  induction stack, shell using frames.induct platform generalizing frame outer with
  | case1 stack shell outcome after ended =>
      subst stacked
      rw [trace_of_ended ended] at unending ⊢
      rw [frames_of_ended ended]
      cases iteration platform frame outer shell with
      | finished found result =>
          rw [ended] at result
          obtain ⟨settled_eq, rfl⟩ := Prod.mk.inj result
          obtain ⟨rfl, rfl | failed⟩ := settled_eq_ended settled_eq.symm
          · refine ⟨frame.last, rfl, ?_⟩
            rw [event?_of_finished found]
            have own : InOrder platform 1 [] frame.last [] frame.last := .nil 1 frame.last
            rw [← Frame.statements_of_finished found] at own
            exact .cons own (.nil _)
          · exact (failed passed).elim
      | done found asked result =>
          rw [event?_of_found found asked] at unending
          have kept := Event.passes_of_unending (unending _ (List.mem_singleton.mpr rfl)) rfl
          rw [ended, settled_of_passes kept] at result
          cases result
      | exit found asked result =>
          rw [event?_of_found found asked] at unending
          have ends := unending _ (List.mem_singleton.mpr rfl)
          cases ends
      | enter found asked result =>
          rw [ended] at result
          cases result
  | case2 stack shell next after running ih =>
      subst stacked
      rw [trace_of_running running] at unending ⊢
      rw [frames_of_running running]
      have tail_unending : ∀ event ∈ trace platform next after, event.ending? = none :=
        fun event member => unending event (List.mem_append_right _ member)
      cases iteration platform frame outer shell with
      | finished found result =>
          rw [running] at result
          obtain ⟨settled_eq, rfl⟩ := Prod.mk.inj result
          obtain ⟨_, below, rest, rfl, rfl⟩ := settled_eq_running settled_eq.symm
          obtain ⟨final, outcome, unwound⟩ :=
            ih { below with last := frame.last } rest passed rfl tail_unending
          refine ⟨final, outcome, ?_⟩
          rw [event?_of_finished found]
          have own : InOrder platform ((below :: rest).length + 1) [] frame.last [] frame.last :=
            .nil _ frame.last
          rw [← Frame.statements_of_finished found] at own
          exact .cons own unwound.of_last
      | done found asked result =>
          rw [event?_of_found found asked] at unending
          have kept := Event.passes_of_unending
            (unending _ (List.mem_append_left _ (List.mem_singleton.mpr rfl))) rfl
          rw [running, settled_of_passes kept] at result
          cases result
          obtain ⟨final, outcome, unwound⟩ := ih _ _ kept rfl tail_unending
          refine ⟨final, outcome, ?_⟩
          rw [event?_of_found found asked]
          exact .plain _ (Frame.statements_of_found found) rfl (not_readable_of_done asked) rfl
            unwound.of_last
      | exit found asked result =>
          rw [running] at result
          cases result
      | enter found asked result =>
          rw [running] at result
          cases result
          obtain ⟨final, outcome, unwound⟩ := ih _ _ (.inl rfl) rfl tail_unending
          refine ⟨final, outcome, ?_⟩
          rw [event?_of_found found asked]
          obtain ⟨path, named, shallow, readable⟩ := enter_iff.mp (congrArg Prod.fst asked)
          exact .source _ (Frame.statements_of_found found) rfl named shallow readable unwound

theorem textTrace_failed {text : String} {shell : Shell World Store}
    {earlier later : List (Event World Store)} {event : Event World Store} {code : Int}
    (split : textTrace platform text shell = earlier ++ event :: later)
    (done : event.step = .done code) (nonzero : code ≠ 0)
    (unforgiven : event.after.session.ignoresErrors = false) :
    later = [] ∧ (Run.text platform text shell).1 = .code code :=
  trace_ending split (Event.ending_of_failed done (not_passes_iff.mpr ⟨nonzero, unforgiven⟩))

theorem textTrace_quit {text : String} {shell : Shell World Store}
    {earlier later : List (Event World Store)} {event : Event World Store}
    (split : textTrace platform text shell = earlier ++ event :: later)
    (quits : Command.ofStatement event.statement = .quit) :
    later = [] ∧ (Run.text platform text shell).1 = .exit 0 := by
  have member : event ∈ textTrace platform text shell := by simp [split]
  have asked := (textTrace_linked platform text shell).dispatch_of_mem event member
  have exits : (dispatch platform event.statement event.depth event.before).1 = .exit 0 :=
    exit_iff.mpr ⟨quits, rfl⟩
  rw [asked] at exits
  exact trace_ending split (Event.ending_of_exit exits)

theorem textTrace_inOrder {text : String} {shell : Shell World Store}
    (forgiven : ∀ event ∈ textTrace platform text shell, ∀ code, event.step = .done code →
      event.after.session.ignoresErrors = true)
    (stays : ∀ event ∈ textTrace platform text shell, Command.ofStatement event.statement ≠ .quit) :
    ∃ code, (Run.text platform text shell).1 = .code code ∧
      InOrder platform 1 (Statement.split text) 0 (textTrace platform text shell) code := by
  have unending : ∀ event ∈ textTrace platform text shell, event.ending? = none := by
    intro event member
    have asked := (textTrace_linked platform text shell).dispatch_of_mem event member
    cases step : event.step with
    | done code => simp [Event.ending?, step, Passes, forgiven event member code step]
    | enter content => simp [Event.ending?, step]
    | exit code =>
        rw [step] at asked
        exact (stays event member (exit_iff.mp (congrArg Prod.fst asked)).1).elim
  obtain ⟨code, outcome, unwound⟩ :=
    unwound_of_unending (Frame.ofText text) [] shell (.inl rfl) unending
  obtain ⟨own, next, rest, split, inner, below⟩ := unwound.parts
  cases below
  rw [Frame.statements_ofText] at inner
  refine ⟨code, outcome, ?_⟩
  rw [textTrace, split, List.append_nil]
  exact inner

/-- The statements that a run carries out account for all it does to the shell. One that fails while
errors count, at any depth, is the last and gives the outcome; so is one that quits. If errors are
ignored after every statement and none quits, the statements of the text and of every file that it
sources are carried out in order, and the last statement of the text gives the outcome. -/
theorem error_policy (platform : Platform World Store) (text : String)
    (shell : Shell World Store) :
    Linked platform shell (textTrace platform text shell) (Run.text platform text shell).2 ∧
    (∀ earlier event later code, textTrace platform text shell = earlier ++ event :: later →
      event.step = .done code → code ≠ 0 → event.after.session.ignoresErrors = false →
        later = [] ∧ (Run.text platform text shell).1 = .code code) ∧
    (∀ earlier event later, textTrace platform text shell = earlier ++ event :: later →
      Command.ofStatement event.statement = .quit →
        later = [] ∧ (Run.text platform text shell).1 = .exit 0) ∧
    ((∀ event ∈ textTrace platform text shell, ∀ code, event.step = .done code →
        event.after.session.ignoresErrors = true) →
      (∀ event ∈ textTrace platform text shell, Command.ofStatement event.statement ≠ .quit) →
      ∃ code, (Run.text platform text shell).1 = .code code ∧
        InOrder platform 1 (Statement.split text) 0 (textTrace platform text shell) code) := by
  refine ⟨textTrace_linked platform text shell, ?_, ?_, ?_⟩
  · intro earlier event later code split done nonzero unforgiven
    exact textTrace_failed split done nonzero unforgiven
  · intro earlier event later split quits
    exact textTrace_quit split quits
  · intro forgiven stays
    exact textTrace_inOrder forgiven stays

def nestedFiles (inner : String) : Machine :=
  { tree := { Files.Tree.fresh with
      entries := (["outer"], .file "one; source /inner; three".toUTF8) ::
        (["inner"], .file inner.toUTF8) :: Files.Tree.fresh.entries } }

theorem error_policy_in_nested_files :
    let platform : Platform Machine Scripted.EngineState := ⟨Machine.host, .local Scripted.engine⟩
    let text := "source /outer; four"
    let failing : Shell Machine Scripted.EngineState := ⟨{}, nestedFiles "list gizmo; two", {}⟩
    let quitting : Shell Machine Scripted.EngineState := ⟨{}, nestedFiles "quit; two", {}⟩
    let forgiving : Shell Machine Scripted.EngineState :=
      { failing with session := Session.setVariable Variables.ignoreErrors "true" {} }
    (textTrace platform text failing).map Event.statement =
        ["source /outer", "one", "source /inner", "list gizmo"] ∧
      (Run.text platform text failing).1 = .code 1 ∧
      (textTrace platform text quitting).map Event.statement =
        ["source /outer", "one", "source /inner", "quit"] ∧
      (Run.text platform text quitting).1 = .exit 0 ∧
      (textTrace platform text forgiving).map Event.statement =
        ["source /outer", "one", "source /inner", "list gizmo", "two", "three", "four"] ∧
      ∃ code, (Run.text platform text forgiving).1 = .code code ∧
        InOrder platform 1 (Statement.split text) 0 (textTrace platform text forgiving) code := by
  intro platform text failing quitting forgiving
  obtain ⟨-, fails, -, -⟩ := error_policy platform text failing
  obtain ⟨-, -, quits, -⟩ := error_policy platform text quitting
  obtain ⟨-, -, -, goes_on⟩ := error_policy platform text forgiving
  have failed : textTrace platform text failing =
      eventsWithin platform 4 [Frame.ofText text] failing :=
    trace_of_iterate 4 (show _ = Progress.ended (.code 1) by decide +kernel)
  have quit : textTrace platform text quitting =
      eventsWithin platform 4 [Frame.ofText text] quitting :=
    trace_of_iterate 4 (show _ = Progress.ended (.exit 0) by decide +kernel)
  have went : textTrace platform text forgiving =
      eventsWithin platform 10 [Frame.ofText text] forgiving :=
    trace_of_iterate 10 (show _ = Progress.ended (.code 0) by decide +kernel)
  have last_fails : ((eventsWithin platform 4 [Frame.ofText text] failing).getLast?.map
      fun event => (event.step, event.after.session.ignoresErrors)) = some (.done 1, false) := by
    decide +kernel
  have last_quits : ((eventsWithin platform 4 [Frame.ofText text] quitting).getLast?.map
      fun event => Command.ofStatement event.statement) = some .quit := by
    decide +kernel
  rw [← failed, Option.map_eq_some_iff] at last_fails
  rw [← quit, Option.map_eq_some_iff] at last_quits
  obtain ⟨failure, told, step⟩ := last_fails
  obtain ⟨leave, heard, command⟩ := last_quits
  obtain ⟨before_failure, fails_last⟩ := List.getLast?_eq_some_iff.mp told
  obtain ⟨before_leave, leaves_last⟩ := List.getLast?_eq_some_iff.mp heard
  obtain ⟨done, unforgiven⟩ := Prod.mk.inj step
  refine ⟨?_, (fails _ _ _ 1 fails_last done (by decide) unforgiven).2, ?_,
    (quits _ _ _ leaves_last command).2, ?_, goes_on ?_ ?_⟩
  · rw [failed]
    decide +kernel
  · rw [quit]
    decide +kernel
  · rw [went]
    decide +kernel
  · have forgiven : ∀ event ∈ eventsWithin platform 10 [Frame.ofText text] forgiving,
        event.after.session.ignoresErrors = true := by decide +kernel
    rw [went]
    intro event member code _
    exact forgiven event member
  · rw [went]
    decide +kernel

end QueryShell.Run
