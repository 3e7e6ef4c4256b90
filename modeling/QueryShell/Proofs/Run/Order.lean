import QueryShell.Proofs.Run.Recursion
import QueryShell.Proofs.Run.Trace
import QueryShell.Proofs.Statement.Grammar

/-!
The order in which a run carries out statements, whatever its error policy. The statements of each
text come in textual order, those of a sourced text right after its `source`, and the sequence stops
at the statement that ends the run.
-/

namespace QueryShell.Run

variable {World Store : Type} {platform : Platform World Store} {event : Event World Store}
  {statements rest : List String} {events own : List (Event World Store)} {depth : Nat}
  {stop : Option Outcome}

/-- The events of statements at a depth, in textual order, up to the last statement or to the event
that ends the run with an outcome. -/
inductive Carried : Nat → List String → List (Event World Store) → Option Outcome → Prop
  | nil (depth : Nat) : Carried depth [] [] none
  | plain {depth rest events stop code} (event : Event World Store)
      (level : event.depth = depth) (done : event.step = .done code)
      (unending : event.ending? = none) (later : Carried depth rest events stop) :
      Carried depth (event.statement :: rest) (event :: events) stop
  | last {depth rest outcome} (event : Event World Store) (level : event.depth = depth)
      (ending : event.ending? = some outcome) :
      Carried depth (event.statement :: rest) [event] (some outcome)
  | source {depth rest content own events stop} (event : Event World Store)
      (level : event.depth = depth) (entered : event.step = .enter content)
      (inner : Carried (depth + 1) (Statement.split content) own none)
      (later : Carried depth rest events stop) :
      Carried depth (event.statement :: rest) (event :: (own ++ events)) stop
  | within {depth rest content own outcome} (event : Event World Store)
      (level : event.depth = depth) (entered : event.step = .enter content)
      (inner : Carried (depth + 1) (Statement.split content) own (some outcome)) :
      Carried depth (event.statement :: rest) (event :: own) (some outcome)

/-- Every statement stands as it was split from its text. -/
theorem Carried.trimmed (carried : Carried depth statements events stop)
    (neat : ∀ statement ∈ statements, Text.trimmed statement = statement) :
    ∀ event ∈ events, Text.trimmed event.statement = event.statement := by
  have split_neat (content : String) :
      ∀ statement ∈ Statement.split content, Text.trimmed statement = statement :=
    fun statement member => (Statement.neat_of_mem_split member).2
  induction carried with
  | nil => simp
  | plain first _ _ _ _ ih =>
      have later := ih fun statement member => neat statement (List.mem_cons_of_mem _ member)
      exact List.forall_mem_cons.mpr ⟨neat first.statement List.mem_cons_self, later⟩
  | last only _ _ =>
      exact List.forall_mem_singleton.mpr (neat only.statement List.mem_cons_self)
  | source first _ _ _ _ inner_ih later_ih =>
      have inner := inner_ih (split_neat _)
      have later := later_ih fun statement member => neat statement (List.mem_cons_of_mem _ member)
      exact List.forall_mem_cons.mpr ⟨neat first.statement List.mem_cons_self,
        List.forall_mem_append.mpr ⟨inner, later⟩⟩
  | within first _ _ _ ih =>
      exact List.forall_mem_cons.mpr ⟨neat first.statement List.mem_cons_self, ih (split_neat _)⟩

inductive Emptied : List Frame → List (Event World Store) → Option Outcome → Prop
  | nil : Emptied [] [] none
  | cons {frame outer own rest stop}
      (inner : Carried (outer.length + 1) (Frame.statements frame) own none)
      (later : Emptied outer rest stop) : Emptied (frame :: outer) (own ++ rest) stop
  | within {frame outer own outcome}
      (inner : Carried (outer.length + 1) (Frame.statements frame) own (some outcome)) :
      Emptied (frame :: outer) own (some outcome)

namespace Emptied

variable {frame : Frame} {outer : List Frame} {last : Int} {unread : List (List Char)}

theorem of_last (emptied : Emptied ({ frame with last } :: outer) events stop) :
    Emptied (frame :: outer) events stop := by
  cases emptied with
  | cons inner later => exact .cons inner later
  | within inner => exact .within inner

/-- A frame without statements left has no events. -/
theorem finished (emptied : Emptied outer events stop)
    (found : Statement.next? frame.unread = none) : Emptied (frame :: outer) events stop := by
  have own : Carried (outer.length + 1) frame.statements ([] : List (Event World Store)) none := by
    rw [Frame.statements_of_finished found]
    exact .nil _
  exact .cons own emptied

theorem plain {code : Int}
    (found : frame.statements = event.statement :: Frame.statements { frame with unread })
    (level : event.depth = outer.length + 1) (done : event.step = .done code)
    (unending : event.ending? = none)
    (later : Emptied ({ frame with unread } :: outer) events stop) :
    Emptied (frame :: outer) (event :: events) stop := by
  cases later with
  | cons inner below =>
      have all := Carried.plain event level done unending inner
      rw [← found] at all
      exact .cons all below
  | within inner =>
      have all := Carried.plain event level done unending inner
      rw [← found] at all
      exact .within all

theorem of_ending {outcome : Outcome}
    (found : frame.statements = event.statement :: Frame.statements { frame with unread })
    (level : event.depth = outer.length + 1) (ending : event.ending? = some outcome) :
    Emptied (frame :: outer) [event] (some outcome) := by
  have all : Carried _ (_ :: Frame.statements { frame with unread }) _ _ :=
    .last event level ending
  rw [← found] at all
  exact .within all

theorem source {content : String}
    (found : frame.statements = event.statement :: Frame.statements { frame with unread })
    (level : event.depth = outer.length + 1) (entered : event.step = .enter content)
    (later : Emptied (Frame.ofText content :: { frame with unread } :: outer) events stop) :
    Emptied (frame :: outer) (event :: events) stop := by
  cases later with
  | within inner =>
      rw [Frame.statements_ofText] at inner
      have all : Carried _ (_ :: Frame.statements { frame with unread }) _ _ :=
        .within event level entered inner
      rw [← found] at all
      exact .within all
  | cons inner beside =>
      rw [Frame.statements_ofText] at inner
      cases beside with
      | within same =>
          have all := Carried.source event level entered inner same
          rw [← found] at all
          exact .within all
      | cons same below =>
          have all := Carried.source event level entered inner same
          rw [← found] at all
          have joined := Emptied.cons all below
          rwa [List.cons_append, List.append_assoc] at joined

end Emptied

theorem Event.unending_of_passes {code : Int} (done : event.step = .done code)
    (passed : Passes code event.after.session.ignoresErrors) : event.ending? = none := by
  simp only [Event.ending?, done, if_pos passed]

def Outcome.AtStop (outcome : Outcome) : Option Outcome → Prop
  | some reached => outcome = reached
  | none => ∃ code, outcome = .code code

theorem trace_emptied (platform : Platform World Store) (frame : Frame) (outer : List Frame)
    (shell : Shell World Store)
    (passed : Passes frame.last shell.session.ignoresErrors) :
    ∃ stop, Emptied (frame :: outer) (trace platform (frame :: outer) shell) stop ∧
      Outcome.AtStop (frames platform (frame :: outer) shell).1 stop := by
  -- Along the run the code of the innermost frame passes, so a text ends early only by an event.
  generalize stacked : frame :: outer = stack
  induction stack, shell using frames.induct platform generalizing frame outer with
  | case1 stack shell outcome after ended =>
      subst stacked
      rw [trace_of_ended ended, frames_of_ended ended]
      cases iteration platform frame outer shell with
      | finished found result =>
          rw [ended] at result
          obtain ⟨settled_eq, rfl⟩ := Prod.mk.inj result
          obtain ⟨rfl, rfl | failed⟩ := settled_eq_ended settled_eq.symm
          · have empty : Emptied [] ([] : List (Event World Store)) none := .nil
            rw [event?_of_finished found]
            exact ⟨none, empty.finished found, frame.last, rfl⟩
          · exact (failed passed).elim
      | @done _ _ code _ found asked result =>
          rw [ended] at result
          obtain ⟨settled_eq, rfl⟩ := Prod.mk.inj result
          obtain ⟨rfl, empty | failed⟩ := settled_eq_ended settled_eq.symm
          · cases empty
          · rw [event?_of_found found asked]
            exact ⟨some (.code code), .of_ending (Frame.statements_of_found found) rfl
              (Event.ending_of_failed rfl failed), rfl⟩
      | @exit _ _ code _ found asked result =>
          rw [ended] at result
          obtain ⟨reached, rfl⟩ := Prod.mk.inj result
          obtain rfl := Progress.ended.inj reached
          rw [event?_of_found found asked]
          exact ⟨some (.exit code), .of_ending (Frame.statements_of_found found) rfl
            (Event.ending_of_exit rfl), rfl⟩
      | enter found asked result =>
          rw [ended] at result
          cases result
  | case2 stack shell next after running ih =>
      subst stacked
      rw [trace_of_running running, frames_of_running running]
      cases iteration platform frame outer shell with
      | finished found result =>
          rw [running] at result
          obtain ⟨settled_eq, rfl⟩ := Prod.mk.inj result
          obtain ⟨_, below, rest, rfl, rfl⟩ := settled_eq_running settled_eq.symm
          obtain ⟨stop, emptied, reached⟩ := ih { below with last := frame.last } rest passed rfl
          rw [event?_of_finished found]
          exact ⟨stop, emptied.of_last.finished found, reached⟩
      | done found asked result =>
          rw [running] at result
          obtain ⟨settled_eq, rfl⟩ := Prod.mk.inj result
          obtain ⟨kept, _, _, same, rfl⟩ := settled_eq_running settled_eq.symm
          cases same
          obtain ⟨stop, emptied, reached⟩ := ih _ _ kept rfl
          rw [event?_of_found found asked]
          exact ⟨stop, .plain (Frame.statements_of_found found) rfl rfl
            (Event.unending_of_passes rfl kept) emptied.of_last, reached⟩
      | exit found asked result =>
          rw [running] at result
          cases result
      | enter found asked result =>
          rw [running] at result
          cases result
          obtain ⟨stop, emptied, reached⟩ := ih _ _ (.inl rfl) rfl
          rw [event?_of_found found asked]
          exact ⟨stop, .source (Frame.statements_of_found found) rfl rfl emptied, reached⟩

/-- The run of a text carries out its statements in order, and those of the files that it sources,
up to where it stops. -/
theorem textTrace_carried (platform : Platform World Store) (text : String)
    (shell : Shell World Store) :
    ∃ stop, Carried 1 (Statement.split text) (textTrace platform text shell) stop ∧
      Outcome.AtStop (Run.text platform text shell).1 stop := by
  obtain ⟨stop, emptied, reached⟩ := trace_emptied platform (Frame.ofText text) [] shell (.inl rfl)
  refine ⟨stop, ?_, reached⟩
  rw [← Frame.statements_ofText, textTrace]
  generalize trace platform [Frame.ofText text] shell = events at emptied
  cases emptied with
  | within inner => exact inner
  | cons inner below =>
      cases below
      rw [List.append_nil]
      exact inner

end QueryShell.Run
