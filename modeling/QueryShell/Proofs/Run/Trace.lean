import QueryShell.Proofs.Run.Iteration

/-!
The statements that a run carries out, in order, over all nested texts. Every change of the shell is
due to one of them.
-/

namespace QueryShell.Run

variable {World Store : Type}

structure Event (World Store : Type) where
  statement : String
  depth : Nat
  before : Shell World Store
  step : Step
  after : Shell World Store

namespace Event

def ending? (event : Event World Store) : Option Outcome :=
  match event.step with
  | .exit code => some (.exit code)
  | .enter _ => none
  | .done code =>
      if Passes code event.after.session.ignoresErrors then none else some (.code code)

theorem passes_of_unending {event : Event World Store} {code : Int}
    (unending : event.ending? = none) (done : event.step = .done code) :
    Passes code event.after.session.ignoresErrors := by
  by_cases passed : Passes code event.after.session.ignoresErrors
  · exact passed
  · simp [ending?, done, passed] at unending

theorem ending_of_exit {event : Event World Store} {code : Int} (exits : event.step = .exit code) :
    event.ending? = some (.exit code) := by
  simp [ending?, exits]

theorem ending_of_failed {event : Event World Store} {code : Int} (done : event.step = .done code)
    (failed : ¬Passes code event.after.session.ignoresErrors) :
    event.ending? = some (.code code) := by
  simp [ending?, done, failed]

end Event

def event? (platform : Platform World Store) (stack : List Frame) (shell : Shell World Store) :
    Option (Event World Store) :=
  match stack with
  | [] => none
  | frame :: outer =>
      (Statement.next? frame.unread).map fun (statement, _) =>
        let (step, after) := dispatch platform (String.ofList statement) (outer.length + 1) shell
        { statement := String.ofList statement, depth := outer.length + 1, before := shell, step,
          after }

def trace (platform : Platform World Store) (stack : List Frame) (shell : Shell World Store) :
    List (Event World Store) :=
  (event? platform stack shell).toList ++
    match _step : advance platform stack shell with
    | (.ended _, _) => []
    | (.running next, shell) => trace platform next shell
termination_by weight stack
decreasing_by exact advance_smaller _step

def textTrace (platform : Platform World Store) (text : String) (shell : Shell World Store) :
    List (Event World Store) :=
  trace platform [Frame.ofText text] shell

variable {platform : Platform World Store} {stack : List Frame} {shell after : Shell World Store}
  {event : Event World Store}

theorem trace_of_ended {outcome : Outcome}
    (ended : advance platform stack shell = (.ended outcome, after)) :
    trace platform stack shell = (event? platform stack shell).toList := by
  rw [trace]
  split
  · exact List.append_nil _
  · rename_i step
    rw [ended] at step
    cases step

theorem trace_of_running {next : List Frame}
    (running : advance platform stack shell = (.running next, after)) :
    trace platform stack shell =
      (event? platform stack shell).toList ++ trace platform next after := by
  rw [trace]
  split
  · rename_i step
    rw [running] at step
    cases step
  · rename_i step
    rw [running] at step
    cases step
    rfl

def eventsWithin (platform : Platform World Store) :
    Nat → List Frame → Shell World Store → List (Event World Store)
  | 0, _, _ => []
  | count + 1, stack, shell =>
      (event? platform stack shell).toList ++
        match advance platform stack shell with
        | (.ended _, _) => []
        | (.running next, after) => eventsWithin platform count next after

theorem trace_of_iterate (count : Nat) {outcome : Outcome}
    (reached : (iterate platform count (.running stack, shell)).1 = .ended outcome) :
    trace platform stack shell = eventsWithin platform count stack shell := by
  induction count generalizing stack shell with
  | zero => cases reached
  | succ count ih =>
      rw [iterate] at reached
      rw [eventsWithin]
      rcases step : advance platform stack shell with ⟨next | own, between⟩
      · rw [step] at reached
        rw [trace_of_running step, ih reached]
      · rw [trace_of_ended step, List.append_nil]

section Found

variable {frame : Frame} {outer : List Frame} {statement : List Char} {unread : List (List Char)}

theorem event?_of_finished (finished : Statement.next? frame.unread = none) :
    event? platform (frame :: outer) shell = none := by
  simp [event?, finished]

theorem event?_of_found {step : Step}
    (found : Statement.next? frame.unread = some (statement, unread))
    (asked : dispatch platform (String.ofList statement) (outer.length + 1) shell =
      (step, after)) :
    event? platform (frame :: outer) shell =
      some ⟨String.ofList statement, outer.length + 1, shell, step, after⟩ := by
  simp [event?, found, asked]

end Found

theorem advance_of_ending {outcome : Outcome}
    (some_event : event? platform stack shell = some event)
    (ending : event.ending? = some outcome) :
    advance platform stack shell = (.ended outcome, event.after) := by
  cases stack with
  | nil => cases some_event
  | cons frame outer =>
      cases iteration platform frame outer shell with
      | finished found _ =>
          rw [event?_of_finished found] at some_event
          cases some_event
      | done found asked result =>
          rw [event?_of_found found asked] at some_event
          obtain rfl := Option.some.inj some_event
          simp only [Event.ending?] at ending
          split at ending
          · cases ending
          · rename_i failed
            cases ending
            rw [result, settled_of_not_passes failed]
      | exit found asked result =>
          rw [event?_of_found found asked] at some_event
          obtain rfl := Option.some.inj some_event
          cases ending
          exact result
      | enter found asked _ =>
          rw [event?_of_found found asked] at some_event
          obtain rfl := Option.some.inj some_event
          cases ending

inductive Linked (platform : Platform World Store) :
    Shell World Store → List (Event World Store) → Shell World Store → Prop
  | nil (shell : Shell World Store) : Linked platform shell [] shell
  | cons {events final} (event : Event World Store)
      (asked : dispatch platform event.statement event.depth event.before =
        (event.step, event.after))
      (later : Linked platform event.after events final) :
      Linked platform event.before (event :: events) final

theorem Linked.dispatch_of_mem {events : List (Event World Store)} {final : Shell World Store}
    (linked : Linked platform shell events final) :
    ∀ event ∈ events,
      dispatch platform event.statement event.depth event.before = (event.step, event.after) := by
  induction linked with
  | nil => simp
  | cons _ asked _ ih => simpa [asked] using ih

theorem Linked.single {statement : String} {depth : Nat} {step : Step}
    (asked : dispatch platform statement depth shell = (step, after)) :
    Linked platform shell [⟨statement, depth, shell, step, after⟩] after :=
  .cons ⟨statement, depth, shell, step, after⟩ asked (.nil after)

theorem Linked.append {first second : List (Event World Store)} {middle final : Shell World Store}
    (front : Linked platform shell first middle) (back : Linked platform middle second final) :
    Linked platform shell (first ++ second) final := by
  induction front with
  | nil => exact back
  | cons event asked _ ih => exact .cons event asked (ih back)

theorem advance_linked (platform : Platform World Store) (stack : List Frame)
    (shell : Shell World Store) :
    Linked platform shell (event? platform stack shell).toList
      (advance platform stack shell).2 := by
  cases stack with
  | nil => exact .nil shell
  | cons frame outer =>
      cases iteration platform frame outer shell with
      | finished found result =>
          rw [event?_of_finished found, result]
          exact .nil shell
      | done found asked result | exit found asked result | enter found asked result =>
          rw [event?_of_found found asked, result]
          exact .single asked

theorem trace_linked (platform : Platform World Store) (stack : List Frame)
    (shell : Shell World Store) :
    Linked platform shell (trace platform stack shell) (frames platform stack shell).2 := by
  induction stack, shell using frames.induct platform with
  | case1 stack shell outcome after ended =>
      have link := advance_linked platform stack shell
      rw [ended] at link
      rw [trace_of_ended ended, frames_of_ended ended]
      exact link
  | case2 stack shell next after running ih =>
      have link := advance_linked platform stack shell
      rw [running] at link
      rw [trace_of_running running, frames_of_running running]
      exact link.append ih

theorem textTrace_linked (platform : Platform World Store) (text : String)
    (shell : Shell World Store) :
    Linked platform shell (textTrace platform text shell) (Run.text platform text shell).2 :=
  trace_linked platform [Frame.ofText text] shell

/-- Nothing is carried out after a statement that ends the run, and the outcome is its own. -/
theorem trace_ending {outcome : Outcome} {earlier later : List (Event World Store)}
    (split : trace platform stack shell = earlier ++ event :: later)
    (ending : event.ending? = some outcome) :
    later = [] ∧ (frames platform stack shell).1 = outcome := by
  induction stack, shell using frames.induct platform generalizing earlier with
  | case1 stack shell reached after ended =>
      rw [trace_of_ended ended] at split
      cases happened : event? platform stack shell with
      | none => simp [happened] at split
      | some only =>
          rw [happened, Option.toList_some] at split
          obtain ⟨rfl, single⟩ : earlier = [] ∧ [only] = event :: later := by
            cases earlier with
            | nil => exact ⟨rfl, split⟩
            | cons first earlier => simp at split
          cases single
          have ends := advance_of_ending happened ending
          rw [frames_of_ended ends]
          exact ⟨rfl, rfl⟩
  | case2 stack shell next after running ih =>
      rw [trace_of_running running] at split
      rw [frames_of_running running]
      cases happened : event? platform stack shell with
      | none => exact ih (by simpa [happened] using split)
      | some first =>
          rw [happened, Option.toList_some, List.singleton_append] at split
          cases earlier with
          | nil =>
              cases split
              have ends := advance_of_ending happened ending
              rw [running] at ends
              cases ends
          | cons head earlier => exact ih (List.cons.inj split).2

end QueryShell.Run
