import QueryShell.Proofs.Run.Advance
import QueryShell.Proofs.Statement.Grammar

/-!
Runs by recursion. A sourced text is evaluated where its `source` statement stands, one level
deeper, and no stack is kept. The loop over frames gives the same outcome and leaves the same shell.
-/

namespace QueryShell

def Frame.statements (frame : Frame) : List String :=
  (Statement.withRest frame.unread).map fun found => String.ofList found.1

theorem Frame.statements_ofText (text : String) :
    (Frame.ofText text).statements = Statement.split text := by
  simp [Frame.statements, Frame.ofText, Statement.split, Statement.splitChars]

theorem Frame.statements_of_finished {frame : Frame}
    (finished : Statement.next? frame.unread = none) : frame.statements = [] := by
  rw [Frame.statements, Statement.withRest_of_finished finished, List.map_nil]

theorem Frame.statements_of_found {frame : Frame} {statement : List Char}
    {unread : List (List Char)} (found : Statement.next? frame.unread = some (statement, unread)) :
    frame.statements =
      String.ofList statement :: Frame.statements { frame with unread } := by
  rw [Frame.statements, Statement.withRest_of_found found]
  rfl

namespace Run

variable {World Store : Type}

def coded (result : Int × Shell World Store) : Outcome × Shell World Store :=
  (.code result.1, result.2)

/-- Evaluates statements in order at a depth, where `last` is the code so far. The text of a sourced
file is evaluated one level deeper and gives the code of its `source` statement, but not from the
deepest level. After each statement a failing code is returned at once unless errors are ignored
at that moment. -/
def evaluateAll (platform : Platform World Store) (depth : Nat) (statements : List String)
    (last : Int) (shell : Shell World Store) : Outcome × Shell World Store :=
  match statements with
  | [] => (.code last, shell)
  | statement :: rest =>
      let result : Outcome × Shell World Store :=
        match Command.ofStatement statement with
        | .quit => (.exit 0, shell)
        | .source path =>
            if _shallow : depth < maxDepth then
              match loadSource platform.host path depth shell with
              | (.ok text, shell) =>
                  evaluateAll platform (depth + 1) (Statement.split text) 0 shell
              | (.error failure, shell) => coded (shell.fail failure)
            else
              (.code 1, shell.report (.usage
                ("source nested deeper than " ++ toString maxDepth ++ " files at " ++ path)))
        | .shell line => coded (Escape.run platform.host line shell)
        | .list kind values => coded (Listing.run kind values shell)
        | .query statement => coded (query platform statement shell)
      match result with
      | (.exit code, shell) => (.exit code, shell)
      | (.code code, shell) =>
          if code ≠ 0 ∧ shell.session.ignoresErrors = false then (.code code, shell)
          else evaluateAll platform depth rest code shell
termination_by (maxDepth - depth, statements.length)

def evaluate (platform : Platform World Store) (depth : Nat) (text : String)
    (shell : Shell World Store) : Outcome × Shell World Store :=
  evaluateAll platform depth (Statement.split text) 0 shell

def proceed (platform : Platform World Store) (depth : Nat) (rest : List String) :
    Outcome × Shell World Store → Outcome × Shell World Store
  | (.exit code, shell) => (.exit code, shell)
  | (.code code, shell) =>
      if Passes code shell.session.ignoresErrors then evaluateAll platform depth rest code shell
      else (.code code, shell)

def unwind (platform : Platform World Store) :
    List Frame → Outcome × Shell World Store → Outcome × Shell World Store
  | [], result => result
  | frame :: outer, result =>
      unwind platform outer (proceed platform (outer.length + 1) frame.statements result)

def denote (platform : Platform World Store) :
    Progress × Shell World Store → Outcome × Shell World Store
  | (.ended outcome, shell) => (outcome, shell)
  | (.running [], shell) => (.code 0, shell)
  | (.running (frame :: outer), shell) =>
      unwind platform outer
        (evaluateAll platform (outer.length + 1) frame.statements frame.last shell)

variable {platform : Platform World Store} {depth : Nat} {statement : String} {rest : List String}
  {last : Int} {shell : Shell World Store}

theorem evaluateAll_nil : evaluateAll platform depth [] last shell = (.code last, shell) := by
  rw [evaluateAll]

theorem proceed_eq (result : Outcome × Shell World Store) :
    proceed platform depth rest result =
      match result with
      | (.exit code, shell) => (.exit code, shell)
      | (.code code, shell) =>
          if code ≠ 0 ∧ shell.session.ignoresErrors = false then (.code code, shell)
          else evaluateAll platform depth rest code shell := by
  obtain ⟨outcome, shell⟩ := result
  cases outcome with
  | exit code => rfl
  | code code =>
      simp only [proceed]
      by_cases passed : Passes code shell.session.ignoresErrors
      · rw [if_pos passed, if_neg (fun failed => not_passes_iff.mpr failed passed)]
      · rw [if_neg passed, if_pos (not_passes_iff.mp passed)]

theorem evaluateAll_cons :
    evaluateAll platform depth (statement :: rest) last shell =
      proceed platform depth rest
        (match dispatch platform statement depth shell with
          | (.done code, shell) => (.code code, shell)
          | (.exit code, shell) => (.exit code, shell)
          | (.enter text, shell) => evaluate platform (depth + 1) text shell) := by
  rw [evaluateAll, proceed_eq]
  congr 1
  simp only [dispatch]
  cases Command.ofStatement statement with
  | quit => rfl
  | shell line => rfl
  | list kind values => rfl
  | query statement => rfl
  | source path =>
      by_cases shallow : depth < maxDepth
      · simp only [shallow]
        rcases loadSource platform.host path depth shell with ⟨failure | text, loaded⟩
        · rfl
        · rfl
      · have deep : maxDepth ≤ depth := by omega
        simp only [shallow, loadSource, deep]
        rfl

theorem unwind_exit (frames : List Frame) (code : Int) (shell : Shell World Store) :
    unwind platform frames (.exit code, shell) = (.exit code, shell) := by
  induction frames with
  | nil => rfl
  | cons frame outer ih => simpa only [unwind, proceed] using ih

theorem unwind_of_not_passes {code : Int}
    (failed : ¬Passes code shell.session.ignoresErrors) (frames : List Frame) :
    unwind platform frames (.code code, shell) = (.code code, shell) := by
  induction frames with
  | nil => rfl
  | cons frame outer ih => simpa only [unwind, proceed, if_neg failed] using ih

theorem denote_running (frame : Frame) (outer : List Frame) (shell : Shell World Store) :
    denote platform (.running (frame :: outer), shell) =
      unwind platform outer
        (evaluateAll platform (outer.length + 1) frame.statements frame.last shell) := rfl

/-- Settling a code does to the frames what unwinding them with that code comes to. -/
theorem denote_settled (code : Int) (frames : List Frame) (shell : Shell World Store) :
    denote platform (settled code shell.session.ignoresErrors frames, shell) =
      unwind platform frames (.code code, shell) := by
  by_cases passed : Passes code shell.session.ignoresErrors
  · cases frames with
    | nil => rfl
    | cons frame outer =>
        rw [settled_of_passes passed, denote_running]
        simp only [unwind, proceed, if_pos passed]
        rfl
  · rw [settled_of_not_passes passed, unwind_of_not_passes passed]
    rfl

theorem denote_advance (platform : Platform World Store) (stack : List Frame)
    (shell : Shell World Store) :
    denote platform (advance platform stack shell) = denote platform (.running stack, shell) := by
  cases stack with
  | nil => rfl
  | cons frame outer =>
      rw [denote_running]
      cases iteration platform frame outer shell with
      | finished found result =>
          rw [result, denote_settled, Frame.statements_of_finished found, evaluateAll_nil]
      | done found asked result =>
          rw [result, denote_settled, Frame.statements_of_found found, evaluateAll_cons, asked]
          rfl
      | exit found asked result =>
          rw [result, Frame.statements_of_found found, evaluateAll_cons, asked]
          exact (unwind_exit outer _ _).symm
      | enter found asked result =>
          rw [result, denote_running, Frame.statements_ofText, Frame.statements_of_found found,
            evaluateAll_cons, asked]
          rfl

theorem frames_eq_denote (platform : Platform World Store) (stack : List Frame)
    (shell : Shell World Store) :
    frames platform stack shell = denote platform (.running stack, shell) := by
  induction stack, shell using frames.induct platform with
  | case1 stack shell outcome after ended =>
      rw [frames_of_ended ended, ← denote_advance, ended]
      rfl
  | case2 stack shell next after running ih =>
      rw [frames_of_running running, ih, ← denote_advance platform stack, running]

theorem text_eq_evaluateAll (platform : Platform World Store) (text : String)
    (shell : Shell World Store) :
    Run.text platform text shell = evaluateAll platform 1 (Statement.split text) 0 shell := by
  rw [Run.text, frames_eq_denote, denote_running, Frame.statements_ofText]
  rfl

/-- The loop over frames is evaluation from depth 1. -/
theorem text_eq_evaluate (platform : Platform World Store) (text : String)
    (shell : Shell World Store) :
    Run.text platform text shell = evaluate platform 1 text shell := by
  rw [Run.text, frames_eq_denote, denote_running, Frame.statements_ofText]
  rfl

end Run

end QueryShell
