import Mathlib.Data.List.Induction
import QueryShell.Interactive
import QueryShell.Proofs.Backend.Forwarding
import QueryShell.Proofs.Statement.Lines

/-!
The interactive loop, text by text. The texts that the lines are gathered into are run one after the
other up to the first that exits, and a failure of one does not keep the next from running. While
errors are ignored the loop does what one run of all completed lines does.
-/

namespace QueryShell

variable {World Store : Type} {platform : Platform World Store} {shell final : Shell World Store}

theorem Statement.not_isBlankText_of_endedBy {line : String} (ends : endedBy line = true) :
    Text.isBlankText line = false := by
  obtain ⟨body, blank, parts, -, -⟩ := exists_body_of_endedBy ends
  have visible : Text.isBlank terminator = false := by decide
  simp [Text.isBlankText, parts, visible]

namespace LineBuffer

def completed (lines : List String) : List String :=
  lines.rdropWhile fun line => !Statement.endedBy line

variable {buffer : LineBuffer}

theorem pushAll_append (first second : List String) (buffer : LineBuffer) :
    pushAll (first ++ second) buffer =
      ((pushAll first buffer).1 ++ (pushAll second (pushAll first buffer).2).1,
        (pushAll second (pushAll first buffer).2).2) := by
  induction first generalizing buffer with
  | nil => rfl
  | cons line rest ih => simp only [List.cons_append, pushAll, ih, List.append_assoc]

theorem push_of_endedBy {line : String} (ends : Statement.endedBy line = true)
    (buffer : LineBuffer) :
    buffer.push line = (some ("\n".intercalate (buffer.lines ++ [line])), {}) := by
  simp [push, Statement.not_isBlankText_of_endedBy ends, ends]

theorem push_of_unended {line : String} (goes_on : Statement.endedBy line = false)
    (buffer : LineBuffer) : (buffer.push line).1 = none := by
  cases pushed line buffer with
  | dropped _ _ result => rw [result]
  | kept result => rw [result]
  | completed ends _ =>
      rw [goes_on] at ends
      cases ends

/-- The completed lines give the same texts as all lines, and leave nothing over. -/
theorem pushAll_completed (lines : List String) :
    pushAll (completed lines) {} = ((pushAll lines {}).1, {}) := by
  induction lines using List.reverseRecOn with
  | nil => rfl
  | append_singleton earlier line ih =>
      cases ends : Statement.endedBy line with
      | true =>
          have all : completed (earlier ++ [line]) = earlier ++ [line] :=
            List.rdropWhile_concat_neg _ _ _ (by simp [ends])
          rw [all, pushAll_append]
          simp only [pushAll, push_of_endedBy ends]
      | false =>
          have dropped : completed (earlier ++ [line]) = completed earlier :=
            List.rdropWhile_concat_pos _ _ _ (by simp [ends])
          rw [dropped, ih, pushAll_append]
          simp only [pushAll, push_of_unended ends, Option.toList_none, List.append_nil]

/-- The statements of the completed lines are those of the texts that the lines give. -/
theorem split_completed (lines : List String) :
    Statement.split ("\n".intercalate (completed lines)) =
      (pushAll lines {}).1.flatMap Statement.split := by
  have all := splitChars_pushAll (completed lines) {}
  rw [List.nil_append, pushAll_completed] at all
  have nothing : Statement.splitChars ("\n".intercalate ([] : List String)).toList = [] := by
    rw [Statement.splitChars_eq_grouped]
    decide
  rw [Statement.split, all, nothing, List.append_nil, List.map_flatMap]
  rfl

end LineBuffer

namespace Run

section Sequence

variable {depth : Nat} {first second : List String} {last code : Int} {after : Shell World Store}

theorem proceed_append
    (goes_on : ∀ {code : Int} {after : Shell World Store}, Passes code after.session.ignoresErrors →
      evaluateAll platform depth (first ++ second) code after =
        proceed platform depth second (evaluateAll platform depth first code after))
    (result : Outcome × Shell World Store) :
    proceed platform depth (first ++ second) result =
      proceed platform depth second (proceed platform depth first result) := by
  obtain ⟨code | code, after⟩ := result
  · by_cases passed : Passes code after.session.ignoresErrors
    · simp only [proceed, if_pos passed]
      exact goes_on passed
    · simp only [proceed, if_neg passed]
  · rfl

theorem evaluateAll_append (passed : Passes last shell.session.ignoresErrors) :
    evaluateAll platform depth (first ++ second) last shell =
      proceed platform depth second (evaluateAll platform depth first last shell) := by
  induction first generalizing last shell with
  | nil => rw [List.nil_append, evaluateAll_nil, proceed, if_pos passed]
  | cons statement rest ih =>
      rw [List.cons_append, evaluateAll_cons, evaluateAll_cons]
      exact proceed_append ih _

theorem evaluateAll_snd (platform : Platform World Store) (depth : Nat) (statements : List String)
    (last other : Int) (shell : Shell World Store) :
    (evaluateAll platform depth statements last shell).2 =
      (evaluateAll platform depth statements other shell).2 := by
  cases statements with
  | nil => rw [evaluateAll_nil, evaluateAll_nil]
  | cons statement rest => rw [evaluateAll_cons, evaluateAll_cons]

end Sequence

def texts (platform : Platform World Store) (units : List String) (last : Int)
    (shell : Shell World Store) : Outcome × Shell World Store :=
  match units with
  | [] => (.code last, shell)
  | unit :: rest =>
      match Run.text platform unit shell with
      | (.exit code, shell) => (.exit code, shell)
      | (.code code, shell) => texts platform rest code shell

structure TextRun (World Store : Type) where
  text : String
  before : Shell World Store
  outcome : Outcome
  after : Shell World Store

inductive TextRuns (platform : Platform World Store) :
    Shell World Store → List (TextRun World Store) → Shell World Store → Prop
  | nil (shell : Shell World Store) : TextRuns platform shell [] shell
  | cons {runs final} (run : TextRun World Store)
      (ran : Run.text platform run.text run.before = (run.outcome, run.after))
      (later : TextRuns platform run.after runs final) :
      TextRuns platform run.before (run :: runs) final

/-- Either every text was run and none exited, so that the code of the last one counts, or the last
that was run is the only one that exited. -/
def Concluded (last : Int) (runs : List (TextRun World Store)) (later : List String)
    (outcome : Outcome) : Prop :=
  (later = [] ∧ (∀ run ∈ runs, ∃ code, run.outcome = .code code) ∧
    outcome = .code ((runs.getLast?.map fun run => run.outcome.status).getD last)) ∨
  ∃ earlier exiting code, runs = earlier ++ [exiting] ∧
    (∀ run ∈ earlier, ∃ code, run.outcome = .code code) ∧
    exiting.outcome = .exit code ∧ outcome = .exit code

variable {runs : List (TextRun World Store)} {later : List String} {outcome : Outcome}

theorem Concluded.cons {last code : Int} {run : TextRun World Store}
    (concluded : Concluded code runs later outcome) (coded : run.outcome = .code code) :
    Concluded last (run :: runs) later outcome := by
  rcases concluded with ⟨none, all, result⟩ | ⟨earlier, exiting, exit, rfl, all, exits, result⟩
  · refine .inl ⟨none, List.forall_mem_cons.mpr ⟨⟨code, coded⟩, all⟩, ?_⟩
    rw [result, List.getLast?_cons]
    cases runs.getLast? with
    | none => simp [coded, Outcome.status]
    | some final => rfl
  · exact .inr ⟨run :: earlier, exiting, exit, rfl,
      List.forall_mem_cons.mpr ⟨⟨code, coded⟩, all⟩, exits, result⟩

theorem texts_concluded (platform : Platform World Store) (units : List String) (last : Int)
    (shell : Shell World Store) :
    ∃ runs later, runs.map TextRun.text ++ later = units ∧
      TextRuns platform shell runs (texts platform units last shell).2 ∧
      Concluded last runs later (texts platform units last shell).1 := by
  induction units generalizing last shell with
  | nil => exact ⟨[], [], rfl, .nil shell, .inl ⟨rfl, by simp, rfl⟩⟩
  | cons unit rest ih =>
      rcases ran : Run.text platform unit shell with ⟨code | code, after⟩
      · obtain ⟨runs, later, units, linked, concluded⟩ := ih code after
        let run : TextRun World Store := ⟨unit, shell, .code code, after⟩
        simp only [texts, ran]
        exact ⟨run :: runs, later, congrArg (unit :: ·) units, .cons run ran linked,
          concluded.cons rfl⟩
      · let run : TextRun World Store := ⟨unit, shell, .exit code, after⟩
        simp only [texts, ran]
        exact ⟨[run], rest, rfl, .cons run ran (.nil after),
          .inr ⟨[], run, code, rfl, by simp, rfl, rfl⟩⟩

theorem TextRuns.eq_of_nil (linked : TextRuns platform shell [] final) : shell = final := by
  cases linked
  rfl

theorem TextRuns.concat_inv {exiting : TextRun World Store}
    (linked : TextRuns platform shell (runs ++ [exiting]) final) :
    TextRuns platform shell runs exiting.before ∧ exiting.after = final ∧
      Run.text platform exiting.text exiting.before = (exiting.outcome, exiting.after) := by
  induction runs generalizing shell with
  | nil =>
      cases linked with
      | cons _ ran later => exact ⟨.nil _, later.eq_of_nil, ran⟩
  | cons run rest ih =>
      cases linked with
      | cons _ ran later =>
          obtain ⟨earlier, last, exits⟩ := ih later
          exact ⟨.cons run ran earlier, last, exits⟩

theorem evaluateAll_split (text : String) (statements : List String) :
    evaluateAll platform 1 (Statement.split text ++ statements) 0 shell =
      proceed platform 1 statements (Run.text platform text shell) := by
  rw [text_eq_evaluateAll]
  exact evaluateAll_append (.inl rfl)

/-- Texts whose failures are all ignored come to what their statements come to in one run. -/
theorem TextRuns.evaluateAll_snd (linked : TextRuns platform shell runs final)
    (coded : ∀ run ∈ runs, ∃ code, run.outcome = .code code)
    (forgiven : ∀ run ∈ runs, run.outcome.status ≠ 0 → run.after.session.ignoresErrors = true)
    (statements : List String) :
    (evaluateAll platform 1
      ((runs.map TextRun.text).flatMap Statement.split ++ statements) 0 shell).2 =
        (evaluateAll platform 1 statements 0 final).2 := by
  induction linked with
  | nil => rfl
  | @cons rest final run ran later ih =>
      obtain ⟨⟨code, code_eq⟩, coded⟩ := List.forall_mem_cons.mp coded
      obtain ⟨first_forgiven, forgiven⟩ := List.forall_mem_cons.mp forgiven
      have passed : Passes code run.after.session.ignoresErrors := by
        rw [code_eq] at first_forgiven
        exact or_iff_not_imp_left.mpr first_forgiven
      rw [List.map_cons, List.flatMap_cons, List.append_assoc, evaluateAll_split, ran, code_eq,
        proceed, if_pos passed, Run.evaluateAll_snd platform 1 _ code 0]
      exact ih coded forgiven

/-- Texts whose failures are all ignored leave the shell as one run of their statements does. A text
that exits ends that run too, whatever comes after it. -/
theorem TextRuns.final_eq {last : Int} (linked : TextRuns platform shell runs final)
    (concluded : Concluded last runs later outcome)
    (forgiven : ∀ run ∈ runs, run.outcome.status ≠ 0 → run.after.session.ignoresErrors = true) :
    final = (evaluateAll platform 1
      ((runs.map TextRun.text ++ later).flatMap Statement.split) 0 shell).2 := by
  rw [List.flatMap_append]
  rcases concluded with ⟨rfl, coded, -⟩ | ⟨earlier, exiting, code, rfl, coded, exits, -⟩
  · rw [linked.evaluateAll_snd coded forgiven, List.flatMap_nil, evaluateAll_nil]
  · -- The one run stops where the text that exits does, so it never comes to the later texts.
    obtain ⟨before, rfl, ran⟩ := linked.concat_inv
    obtain ⟨forgiven, -⟩ := List.forall_mem_append.mp forgiven
    rw [List.map_append, List.flatMap_append, List.append_assoc,
      before.evaluateAll_snd coded forgiven, List.map_singleton, List.flatMap_singleton,
      evaluateAll_split, ran, exits, proceed]

theorem TextRuns.variables_of_remote {host : Host World} {server : Remote Store}
    (linked : TextRuns ⟨host, .remote server⟩ shell runs final) :
    ∀ run ∈ runs, run.after.session.variables = shell.session.variables := by
  induction linked with
  | nil => simp
  | @cons rest final run ran later ih =>
      have steady := (textTrace_linked ⟨host, .remote server⟩ run.text run.before).steady_of_remote
      rw [ran] at steady
      have kept : run.after.session.variables = run.before.session.variables := by rw [steady]
      exact List.forall_mem_cons.mpr ⟨kept, fun other member => (ih other member).trans kept⟩

end Run

namespace Interactive

open Run

variable {buffer : LineBuffer} {line : String} {rest : List (Except String String)} {last : Int}

theorem runFrom_of_gathering (gathered : (buffer.push line).1 = none) :
    runFrom platform (.ok line :: rest) buffer last shell =
      let (ended, final) := runFrom platform rest (buffer.push line).2 last shell
      (ended.after line, final) := by
  rcases result : buffer.push line with ⟨unit, next⟩
  rw [result] at gathered
  obtain rfl := gathered
  simp only [runFrom, feed, result]

theorem runFrom_of_code {text : String} {next : LineBuffer} {code : Int}
    (completed : buffer.push line = (some text, next))
    (ran : Run.text platform text shell = (.code code, final)) :
    runFrom platform (.ok line :: rest) buffer last shell =
      let (ended, final) := runFrom platform rest next code final
      (ended.after line, final) := by
  simp only [runFrom, feed, completed, ran]

theorem runFrom_of_exit {text : String} {next : LineBuffer} {code : Int}
    (completed : buffer.push line = (some text, next))
    (ran : Run.text platform text shell = (.exit code, final)) :
    runFrom platform (.ok line :: rest) buffer last shell = (⟨.ok (.exit code), [line]⟩, final) := by
  simp only [runFrom, feed, completed, ran]

theorem runFrom_eq_texts (platform : Platform World Store) (lines : List String)
    (buffer : LineBuffer) (last : Int) (shell : Shell World Store) :
    let ended := runFrom platform (lines.map .ok) buffer last shell
    let ran := texts platform (LineBuffer.pushAll lines buffer).1 last shell
    ended.1.result = .ok ran.1 ∧ ended.2 = ran.2 := by
  induction lines generalizing buffer last shell with
  | nil => exact ⟨rfl, rfl⟩
  | cons line rest ih =>
      rw [List.map_cons, LineBuffer.pushAll]
      rcases pushed : buffer.push line with ⟨_ | text, next⟩
      · have gathered : (buffer.push line).1 = none := by rw [pushed]
        rw [runFrom_of_gathering gathered, pushed]
        exact ih next last shell
      · rcases ran : Run.text platform text shell with ⟨code | code, after⟩
        · rw [runFrom_of_code pushed ran]
          simp only [Option.toList_some, List.singleton_append, texts, ran]
          exact ih next code after
        · rw [runFrom_of_exit pushed ran]
          simp only [Option.toList_some, List.singleton_append, texts, ran, and_self]

/-- The loop runs the texts that the lines complete, one after the other up to the first that exits.
Lines after the last completed text make no difference. If errors are ignored after every text that
failed, the loop leaves the shell as one run of the completed lines does. -/
theorem completed_texts_run (platform : Platform World Store) (lines : List String)
    (shell : Shell World Store) :
    let ended := Interactive.run platform (lines.map .ok) shell
    let cut := Interactive.run platform ((LineBuffer.completed lines).map .ok) shell
    (∃ runs later outcome, runs.map TextRun.text ++ later = (LineBuffer.pushAll lines {}).1 ∧
      TextRuns platform shell runs ended.2 ∧
      Concluded 0 runs later outcome ∧ ended.1.result = .ok outcome ∧
      ((∀ run ∈ runs, run.outcome.status ≠ 0 → run.after.session.ignoresErrors = true) →
        ended.2 =
          (Run.text platform ("\n".intercalate (LineBuffer.completed lines)) shell).2)) ∧
    cut.1.result = ended.1.result ∧ cut.2 = ended.2 := by
  intro ended cut
  obtain ⟨result, final⟩ := runFrom_eq_texts platform lines {} 0 shell
  constructor
  · obtain ⟨runs, later, units, linked, concluded⟩ :=
      texts_concluded platform (LineBuffer.pushAll lines {}).1 0 shell
    refine ⟨runs, later, _, units, final ▸ linked, concluded, result, fun forgiven => ?_⟩
    rw [text_eq_evaluateAll, LineBuffer.split_completed, ← units]
    exact final.trans (linked.final_eq concluded forgiven)
  · obtain ⟨cut_result, cut_final⟩ :=
      runFrom_eq_texts platform (LineBuffer.completed lines) {} 0 shell
    rw [LineBuffer.pushAll_completed] at cut_result cut_final
    exact ⟨cut_result.trans result.symm, cut_final.trans final.symm⟩

theorem completed_texts_run_past_failure :
    let platform : Platform Machine Scripted.RemoteState := ⟨Machine.host, .remote Scripted.remote⟩
    let shell : Shell Machine Scripted.RemoteState :=
      ⟨({} : Session).setVariable Variables.ignoreErrors "true", {}, {}⟩
    (Interactive.run platform (["list gizmo;", "", "one;", "two"].map .ok) shell).2 =
      (Run.text platform "list gizmo;\n\none;" shell).2 := by
  intro platform shell
  have forgiving : Variables.flag Variables.ignoreErrors shell.session.variables = true := by
    decide +kernel
  obtain ⟨⟨runs, later, outcome, -, linked, -, -, same⟩, -⟩ :=
    completed_texts_run platform ["list gizmo;", "", "one;", "two"] shell
  refine same fun run member _ => ?_
  rw [Session.ignoresErrors, Session.flag, linked.variables_of_remote run member]
  exact forgiving

end Interactive

end QueryShell
