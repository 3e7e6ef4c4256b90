import QueryShell.Proofs.Command.Routing
import QueryShell.Proofs.Resource.Adding

/-!
What a local session holds and lists. Only words of statements are ever registered, so a list of
values can be printed as lines and is read back from them as it was, and no line means no value.
-/

namespace QueryShell

variable {World Store : Type}

section Statements

open Text

variable {statement : String} {text first word : List Char} {values : List (List Char)}

theorem Command.ofStatement_list (listed : words statement.toList = first :: word :: values)
    (named : lower first = "list".toList) :
    ofStatement statement = .list (some (String.ofList word)) (values.map String.ofList) := by
  obtain ⟨leads, behind⟩ := firstWord_of_words listed
  have lists : lower (firstWord statement.toList).1 = "list".toList := by rw [leads, named]
  rw [ofStatement_of_list lists, behind]
  rfl

end Statements

namespace Resource.Holdings

def Solid (holdings : Holdings) : Prop :=
  ∀ kind, ∀ value ∈ holdings.held kind, Text.IsWord value.toList

variable {holdings : Holdings} {kind : Kind}

theorem solid_of_isEmpty (nothing : holdings.isEmpty = true) : holdings.Solid := by
  intro kind value member
  rw [isEmpty_iff.mp nothing kind] at member
  cases member

theorem Solid.remove (solid : holdings.Solid) (kind : Kind) (values : List String) :
    (holdings.remove kind values).Solid := by
  intro other value member
  rw [held_remove] at member
  exact solid other value (List.mem_of_mem_filter member)

theorem Solid.of_list (solid : holdings.Solid) {filter : Option (List String)} {value : String}
    (member : value ∈ holdings.list kind filter) : Text.IsWord value.toList := by
  cases filter with
  | none => exact solid kind value member
  | some values => exact solid kind value (List.mem_of_mem_filter member)

end Resource.Holdings

namespace Directive

variable {host : Host World} {kind : Resource.Kind} {code : Int} {shell : Shell World Store}

theorem Added.solid {values : List String} {result : Int × Shell World Store}
    (added : Added host kind code values shell result)
    (solid : shell.session.resources.Solid)
    (new : ∀ value ∈ values, Text.IsWord value.toList) :
    result.2.session.resources.Solid := by
  intro other value member
  by_cases same : other = kind
  · subst same
    rw [added.registered] at member
    rcases List.mem_append.mp member with held | registered
    · exact solid other value held
    · rw [List.mem_eraseDups] at registered
      exact new value (Host.mem_of_mem_present (List.mem_of_mem_filter registered))
  · rw [added.others other same] at member
    exact solid other value member

theorem run_solid (directive : Directive) (host : Host World) (arguments : List Char)
    (solid : shell.session.resources.Solid) :
    (directive.run host arguments shell).2.session.resources.Solid := by
  cases directive with
  | set | reset =>
      rw [resources_run rfl]
      exact solid
  | add =>
      simp only [run, runAdd]
      split
      · rename_i first value values listed
        split
        · rename_i kind typed
          refine (addValues_added host kind 0 _ shell).solid solid ?_
          intro text member
          obtain ⟨word, among, rfl⟩ := List.mem_map.mp member
          have within : word ∈ Text.words arguments := by
            rw [listed]
            exact List.mem_cons_of_mem first among
          rw [String.toList_ofList]
          exact Text.isWord_of_mem_words within
        · exact solid
      · exact solid
  | delete =>
      simp only [run, runDelete]
      split
      · exact solid
      · split
        · exact solid.remove _ _
        · exact solid

end Directive

theorem Shell.Directed.solid {host : Host World} {before after : Shell World Store}
    {called : Option (Directive × List Char)} (directed : Directed host before after called)
    (solid : before.session.resources.Solid) : after.session.resources.Solid := by
  cases directed with
  | alone steady =>
      rw [steady.resources_eq]
      exact solid
  | @called directive arguments start begun ended =>
      rw [ended.resources_eq]
      refine directive.run_solid host arguments ?_
      rw [begun.resources_eq]
      exact solid

namespace Run

variable {platform : Platform World Store} {shell final : Shell World Store}

/-- Words are all that is held, before and after every statement. -/
theorem Linked.solid {events : List (Event World Store)}
    (linked : Linked platform shell events final) (solid : shell.session.resources.Solid) :
    final.session.resources.Solid ∧ ∀ event ∈ events,
      event.before.session.resources.Solid ∧ event.after.session.resources.Solid := by
  induction linked with
  | nil => exact ⟨solid, by simp⟩
  | cons event asked _ ih =>
      have directed := dispatch_directed platform event.statement event.depth event.before
      rw [asked] at directed
      have still : event.after.session.resources.Solid := directed.solid solid
      obtain ⟨ends, during⟩ := ih still
      exact ⟨ends, List.forall_mem_cons.mpr ⟨⟨solid, still⟩, during⟩⟩

theorem series_solid (platform : Platform World Store) (texts : List String)
    (solid : shell.session.resources.Solid) :
    (series platform texts shell).session.resources.Solid := by
  induction texts generalizing shell with
  | nil => exact solid
  | cons text rest ih => exact ih ((textTrace_linked platform text shell).solid solid).1

structure Lists (listed : List String) (before : Shell World Store)
    (result : Step × Shell World Store) : Prop where
  nothing : listed = [] → result = (.done 0, before)
  lines : listed ≠ [] → ∃ text : String,
    text.toList.splitOn '\n' = listed.map String.toList ∧
      result = finished (Directive.printAll [text] before) ∧
      (before.session.out.Open →
        result = (.done 0, { before with session := before.session.withOutput [text] }))
  shown : before.session.out.Open →
    (result.2.session.out = before.session.out ↔ listed = [])

theorem lists_of_lines {listed : List String} {text : String} (some_value : listed ≠ [])
    (split : text.toList.splitOn '\n' = listed.map String.toList) (shell : Shell World Store) :
    Lists listed shell (finished (Directive.printAll [text] shell)) := by
  have printed (takes : shell.session.out.Open) : finished (Directive.printAll [text] shell) =
      (.done 0, { shell with session := shell.session.withOutput [text] }) := by
    rw [Directive.printAll_of_open [text] takes]
    rfl
  refine ⟨fun nothing => (some_value nothing).elim, fun _ => ⟨text, split, rfl, printed⟩, ?_⟩
  intro takes
  rw [printed takes]
  refine ⟨fun same => ?_, fun nothing => (some_value nothing).elim⟩
  have written := congrArg (fun sink => sink.written.size) same
  simp [Session.withOutput, Sink.extend, Sink.bytesOf] at written

end Run

namespace Listing

variable {shell : Shell World Store} {kind : Resource.Kind} {listed : List String}

theorem splitOn_joined (some_value : listed ≠ [])
    (words : ∀ value ∈ listed, Text.IsWord value.toList) :
    ("\n".intercalate listed).toList.splitOn '\n' = listed.map String.toList := by
  have joined : ("\n".intercalate listed).toList = ['\n'].intercalate (listed.map String.toList) :=
    String.toList_intercalate
  rw [joined]
  refine List.splitOn_intercalate '\n' ?_ (by simpa using some_value)
  intro line member within
  obtain ⟨value, among, rfl⟩ := List.mem_map.mp member
  exact absurd ((words value among).visible '\n' within) (by decide)

theorem joined_ne_empty (some_value : listed ≠ [])
    (words : ∀ value ∈ listed, Text.IsWord value.toList) :
    ("\n".intercalate listed).isEmpty = false := by
  have split := splitOn_joined some_value words
  refine Bool.eq_false_iff.mpr fun empty => ?_
  rw [String.isEmpty_iff.mp empty] at split
  obtain ⟨value, rest, rfl⟩ := List.exists_cons_of_ne_nil some_value
  have first : [] = value.toList := (List.cons.inj split).1
  exact (words value List.mem_cons_self).filled first.symm

theorem run_lists {word : String} (typed : Resource.Kind.ofWord? word.toList = some kind)
    (values : List String) (solid : shell.session.resources.Solid) :
    let held := shell.session.resources.held kind
    Run.Lists (if values = [] then held else held.filter (· ∈ values)) shell
      (Run.finished (run (some word) values shell)) := by
  intro held
  have listed : shell.session.resources.list kind (if values.isEmpty then none else some values) =
      if values = [] then held else held.filter (· ∈ values) := by
    cases values with
    | nil => rfl
    | cons value rest => rfl
  have words : ∀ value ∈ if values = [] then held else held.filter (· ∈ values),
      Text.IsWord value.toList := by
    intro value among
    rw [← listed] at among
    exact solid.of_list among
  simp only [run, Option.bind_some, typed, listed]
  generalize (if values = [] then held else held.filter (· ∈ values)) = listed at words ⊢
  by_cases nothing : listed = []
  · subst nothing
    have empty : ("\n".intercalate []).isEmpty = true := rfl
    rw [if_pos empty]
    exact ⟨fun _ => rfl, fun some_value => (some_value rfl).elim, fun _ => iff_of_true rfl rfl⟩
  · have filled := joined_ne_empty nothing words
    have lists := Run.lists_of_lines nothing (splitOn_joined nothing words) shell
    simp only [filled, Directive.printAll] at lists ⊢
    exact lists

end Listing

namespace Run

open Text

/-- In every state of a local session that held nothing at first, only words are held, so that a list
of a kind prints the values that are held, or those among the ones that are asked for, as lines that
are the values. Values that are added together are registered in order if they are there, and each
occurrence of a missing one is reported and makes the code 1. -/
theorem resources_listed_and_added (host : Host World) :
    (∀ (Store : Type) (engine : Engine Store) (texts : List String) (text : String)
      (start : Shell World Store), start.session.resources.isEmpty = true →
      let platform : Platform World Store := ⟨host, .local engine⟩
      let shell := series platform texts start
      shell.session.resources.Solid ∧
      ∀ event ∈ textTrace platform text shell,
        event.before.session.resources.Solid ∧ event.after.session.resources.Solid ∧
        ∀ first word values kind, words event.statement.toList = first :: word :: values →
          lower first = "list".toList → Resource.Kind.ofWord? word = some kind →
          let held := event.before.session.resources.held kind
          let filter := values.map String.ofList
          Lists (if filter = [] then held else held.filter (· ∈ filter)) event.before
            (event.step, event.after)) ∧
    (∀ (Store : Type) (engine : Engine Store) (statement : String) (sideFile : Option String)
      (shell : Shell World Store) (first word : List Char) (values : List (List Char))
      (kind : Resource.Kind), words statement.toList = first :: word :: values →
      lower first = "add".toList → values ≠ [] → Resource.Kind.ofWord? word = some kind →
      Directive.Added host kind 0 (values.map String.ofList) shell
        (Local.runStatement host engine statement sideFile shell)) := by
  constructor
  · intro Store engine texts text start nothing platform shell
    have solid : shell.session.resources.Solid :=
      series_solid platform texts (Resource.Holdings.solid_of_isEmpty nothing)
    have linked := textTrace_linked platform text shell
    refine ⟨solid, fun event member => ?_⟩
    obtain ⟨before, after⟩ := (linked.solid solid).2 event member
    refine ⟨before, after, fun first word values kind listed named typed => ?_⟩
    have command := Command.ofStatement_list listed named
    have asked := linked.dispatch_of_mem event member
    simp only [dispatch, command] at asked
    have named_kind : Resource.Kind.ofWord? (String.ofList word).toList = some kind := by
      rw [String.toList_ofList, typed]
    rw [← asked]
    exact Listing.run_lists named_kind (values.map String.ofList) before
  · intro Store engine statement sideFile shell first word values kind listed named some_value typed
    exact Directive.runStatement_added host engine sideFile shell listed named some_value typed

theorem resources_listed_and_added_some_missing :
    let platform : Platform Machine Scripted.EngineState := ⟨Machine.host, .local Scripted.engine⟩
    let start : Shell Machine Scripted.EngineState := ⟨{}, {}, {}⟩
    let ran := Local.runStatement Machine.host Scripted.engine "add file / b.jar . b.jar" none start
    (∃ event ∈ textTrace platform "add jar / . /; list jars . c" start,
      Lists ["."] event.before (event.step, event.after) ∧ event.after.session.out.text = ".\n") ∧
    ran.1 = 1 ∧ ran.2.session.resources.held .file = ["/", "."] ∧
    ran.2.session.reported = [Directive.absent "b.jar", Directive.absent "b.jar"] := by
  intro platform start ran
  let added := (Local.runStatement Machine.host Scripted.engine "add jar / . /" none start).2
  let listed := (Listing.run (some "jars") [".", "c"] added).2
  have first : advance platform [Frame.ofText "add jar / . /; list jars . c"] start =
      (.running [{ unread := [" list jars . c".toList] }], added) := rfl
  have second : advance platform [{ unread := [" list jars . c".toList] }] added =
      (.running [{ unread := [] }], listed) := rfl
  have traced : textTrace platform "add jar / . /; list jars . c" start =
      [⟨"add jar / . /", 1, start, .done 0, added⟩,
        ⟨"list jars . c", 1, added, .done 0, listed⟩] := by
    rw [textTrace, trace_of_running first, trace_of_running second, trace_of_ended rfl]
    rfl
  have member : ⟨"list jars . c", 1, added, .done 0, listed⟩ ∈
      textTrace platform "add jar / . /; list jars . c" start := by simp [traced]
  obtain ⟨lists, adds⟩ := resources_listed_and_added Machine.host
  obtain ⟨-, during⟩ := lists _ Scripted.engine [] "add jar / . /; list jars . c" start rfl
  obtain ⟨-, -, shows⟩ := during _ member
  have shown := shows "list".toList "jars".toList [".".toList, "c".toList] .jar
    (by decide +kernel) (by decide +kernel) (by decide +kernel)
  have held : added.session.resources.held .jar = ["/", "."] := by decide +kernel
  have some_missing := adds _ Scripted.engine "add file / b.jar . b.jar" none start "add".toList
    "file".toList ["/".toList, "b.jar".toList, ".".toList, "b.jar".toList] .file
    (by decide +kernel) (by decide +kernel) (by decide) (by decide +kernel)
  have values : ["/".toList, "b.jar".toList, ".".toList, "b.jar".toList].map String.ofList =
      ["/", "b.jar", ".", "b.jar"] := by decide +kernel
  have present : Machine.host.present ["/", "b.jar", ".", "b.jar"] start.world = ["/", "."] := by
    decide +kernel
  have missing : Machine.host.missing ["/", "b.jar", ".", "b.jar"] start.world =
      ["b.jar", "b.jar"] := by
    decide +kernel
  rw [values] at some_missing
  refine ⟨⟨_, member, ?_, by decide +kernel⟩, ?_, ?_, ?_⟩
  · rw [held] at shown
    exact shown
  · rw [some_missing.code, missing]
    rfl
  · rw [some_missing.registered, present]
    decide +kernel
  · rw [some_missing.reported, missing]
    rfl

end Run

end QueryShell
