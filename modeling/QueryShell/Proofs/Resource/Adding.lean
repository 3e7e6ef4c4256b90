import QueryShell.Proofs.Modes.Twin
import QueryShell.Proofs.Report.Log
import QueryShell.Proofs.Resource.History
import QueryShell.Proofs.Session.Directed
import QueryShell.Proofs.Text.Words

/-!
Values that are added together. Each is looked for on its own: those that are there are registered in
order, and each time that one is missing is reported and fails the statement.
-/

namespace QueryShell

variable {World Store : Type}

namespace Host

def presences (host : Host World) : List String → World → List (String × Bool)
  | [], _ => []
  | value :: rest, world =>
      let (found, world) := host.pathExists value world
      (value, found) :: host.presences rest world

def present (host : Host World) (values : List String) (world : World) : List String :=
  ((host.presences values world).filter fun answer => answer.2).map Prod.fst

def missing (host : Host World) (values : List String) (world : World) : List String :=
  ((host.presences values world).filter fun answer => !answer.2).map Prod.fst

variable {host : Host World} {value : String} {values : List String} {world after : World}

theorem presences_cons {found : Bool} (asked : host.pathExists value world = (found, after)) :
    host.presences (value :: values) world = (value, found) :: host.presences values after := by
  rw [presences, asked]

theorem present_cons_found (asked : host.pathExists value world = (true, after)) :
    host.present (value :: values) world = value :: host.present values after ∧
      host.missing (value :: values) world = host.missing values after := by
  rw [present, missing, presences_cons asked]
  exact ⟨rfl, rfl⟩

theorem present_cons_missing (asked : host.pathExists value world = (false, after)) :
    host.present (value :: values) world = host.present values after ∧
      host.missing (value :: values) world = value :: host.missing values after := by
  rw [present, missing, presences_cons asked]
  exact ⟨rfl, rfl⟩

theorem mem_of_mem_present (member : value ∈ host.present values world) : value ∈ values := by
  induction values generalizing world with
  | nil => cases member
  | cons first rest ih =>
      rcases asked : host.pathExists first world with ⟨found, after⟩
      cases found with
      | false =>
          rw [(present_cons_missing asked).1] at member
          exact List.mem_cons_of_mem first (ih member)
      | true =>
          rw [(present_cons_found asked).1] at member
          rcases List.mem_cons.mp member with rfl | later
          · exact List.mem_cons_self
          · exact List.mem_cons_of_mem first (ih later)

end Host

namespace Directive

def absent (value : String) : Failure := .io (value ++ " does not exist")

def isNotice (line : String) : Bool := "Added resource: ".toList.isPrefixOf line.toList

theorem isNotice_added (value : String) : isNotice ("Added resource: " ++ value) = true := by
  rw [isNotice, List.isPrefixOf_iff_prefix, String.toList_append]
  exact List.prefix_append _ _

theorem not_isNotice_absent (value : String) : isNotice (absent value).message = false := by
  have notice : "Added resource: ".toList.head? = some 'A' := by decide
  have report : "I/O error: ".toList.head? = some 'I' := by decide
  have message : (absent value).message = "I/O error: " ++ (value ++ " does not exist") := rfl
  refine Bool.eq_false_iff.mpr fun starts => ?_
  obtain ⟨rest, parts⟩ := List.isPrefixOf_iff_prefix.mp starts
  have heads := congrArg List.head? parts
  rw [message, String.toList_append, List.head?_append, List.head?_append, notice, report] at heads
  cases heads

/-- What comes of values that are added together: each that is there is held from then on, in the
order of the values, and each occurrence of a missing one is reported and makes the code 1. -/
structure Added (host : Host World) (kind : Resource.Kind) (code : Int) (values : List String)
    (before : Shell World Store) (result : Int × Shell World Store) : Prop where
  registered : result.2.session.resources.held kind = before.session.resources.held kind ++
    ((host.present values before.world).filter
      (· ∉ before.session.resources.held kind)).eraseDups
  others : ∀ other, other ≠ kind →
    result.2.session.resources.held other = before.session.resources.held other
  reported : result.2.session.reported =
    before.session.reported ++ (host.missing values before.world).map absent
  lines : before.session.err.Open → ∃ lines,
    result.2.session.err = before.session.err.extend (Sink.bytesOf lines) ∧
      lines.filter (fun line => !isNotice line) =
        (host.missing values before.world).map fun value => (absent value).message
  code : result.1 = if host.missing values before.world = [] then code else 1

section Steps

variable {host : Host World} {kind : Resource.Kind} {code : Int} {value : String}
  {values held : List String} {shell : Shell World Store} {world : World}

theorem addValues_missing (asked : host.pathExists value shell.world = (false, world)) :
    addValues host kind code (value :: values) shell =
      addValues host kind 1 values ({ shell with world }.report (absent value)) := by
  simp only [addValues, Shell.withWorld, asked, absent]

def registering (kind : Resource.Kind) (value : String) (world : World) (shell : Shell World Store) :
    Shell World Store :=
  let (isNew, resources) := shell.session.resources.add kind value
  let shell := { shell with session := { shell.session with resources }, world }
  if isNew then shell.printInfo ("Added resource: " ++ value) else shell

theorem addValues_found (asked : host.pathExists value shell.world = (true, world)) :
    addValues host kind code (value :: values) shell =
      addValues host kind code values (registering kind value world shell) := by
  simp only [addValues, Shell.withWorld, asked, registering]

theorem resources_registering :
    (registering kind value world shell).session.resources =
      (shell.session.resources.add kind value).2 := by
  simp only [registering]
  split
  · exact (Session.Steady.printInfo _ _).resources_eq
  · rfl

theorem reported_registering :
    (registering kind value world shell).session.reported = shell.session.reported := by
  simp only [registering]
  split
  · exact Shell.reported_printInfo _
  · rfl

theorem world_registering : (registering kind value world shell).world = world := by
  simp only [registering]
  split
  · rfl
  · rfl

theorem err_registering (takes : shell.session.err.Open) : ∃ lines,
    (registering kind value world shell).session.err =
        shell.session.err.extend (Sink.bytesOf lines) ∧
      lines.filter (fun line => !isNotice line) = [] := by
  have nothing : shell.session.err = shell.session.err.extend (Sink.bytesOf []) :=
    Sink.extend_empty.symm
  simp only [registering]
  split
  · simp only [Shell.printInfo, Session.printInfo]
    split
    · exact ⟨[], nothing, rfl⟩
    · refine ⟨["Added resource: " ++ value], ?_, by simp [isNotice_added]⟩
      let registered : Session :=
        { shell.session with resources := (shell.session.resources.add kind value).2 }
      have still : registered.err.Open := takes
      exact congrArg Session.err
        (Session.printError_of_open still ("Added resource: " ++ value))
  · exact ⟨[], nothing, rfl⟩

theorem eraseDups_fresh (fresh : value ∉ held) :
    ((value :: values).filter (· ∉ held)).eraseDups =
      value :: (values.filter (· ∉ held ++ [value])).eraseDups := by
  rw [List.filter_cons_of_pos (by simpa using fresh), List.eraseDups_cons, List.filter_filter]
  refine congrArg (fun rest => value :: rest.eraseDups) (List.filter_congr fun other _ => ?_)
  by_cases same : other = value
  · simp [same]
  · simp [same]

theorem Added.of_missing {result : Int × Shell World Store}
    (asked : host.pathExists value shell.world = (false, world))
    (later : Added host kind 1 values ({ shell with world }.report (absent value)) result) :
    Added host kind code (value :: values) shell result := by
  obtain ⟨present, missing⟩ : host.present (value :: values) shell.world = host.present values world ∧
      host.missing (value :: values) shell.world = value :: host.missing values world :=
    Host.present_cons_missing asked
  constructor
  case registered =>
    rw [present]
    exact later.registered
  case others => exact later.others
  case reported =>
    rw [later.reported, missing, Shell.reported_report, List.append_assoc]
    rfl
  case lines =>
    intro takes
    have told : ({ shell with world }.report (absent value)).session.err =
        shell.session.err.extend (Sink.bytesOf [(absent value).message]) :=
      congrArg Session.err (Session.report_of_open takes (absent value))
    obtain ⟨lines, written, kept⟩ := later.lines (by rw [told]; exact takes.extend _)
    refine ⟨(absent value).message :: lines, ?_, ?_⟩
    · rw [written, told, Sink.extend_extend, ← Sink.bytesOf_append, List.singleton_append]
    · rw [List.filter_cons_of_pos (by rw [not_isNotice_absent]; rfl), kept, missing]
      rfl
  case code =>
    rw [later.code, missing]
    simp

theorem Added.of_found {result : Int × Shell World Store}
    (asked : host.pathExists value shell.world = (true, world))
    (later : Added host kind code values (registering kind value world shell) result) :
    Added host kind code (value :: values) shell result := by
  obtain ⟨present, missing⟩ : host.present (value :: values) shell.world =
        value :: host.present values world ∧
      host.missing (value :: values) shell.world = host.missing values world :=
    Host.present_cons_found asked
  constructor
  case registered =>
    have registered := later.registered
    rw [resources_registering, world_registering, Resource.Holdings.held_add] at registered
    rw [registered, present]
    by_cases held : value ∈ shell.session.resources.held kind
    · simp [Resource.Change.brings, held]
    · rw [eraseDups_fresh held]
      simp [Resource.Change.brings, held]
  case others =>
    intro other differs
    have nothing : ¬(kind = other ∧ value ∉ shell.session.resources.held other) :=
      fun both => differs both.1.symm
    rw [later.others other differs, resources_registering, Resource.Holdings.held_add,
      Resource.Change.brings, if_neg nothing, List.append_nil]
  case reported =>
    rw [later.reported, reported_registering, world_registering, missing]
  case lines =>
    intro takes
    obtain ⟨notices, noted, none_kept⟩ := err_registering takes
    obtain ⟨lines, written, kept⟩ := later.lines (by rw [noted]; exact takes.extend _)
    refine ⟨notices ++ lines, ?_, ?_⟩
    · rw [written, noted, Sink.extend_extend, ← Sink.bytesOf_append]
    · rw [List.filter_append, none_kept, kept, world_registering, missing]
      rfl
  case code =>
    rw [later.code, world_registering, missing]

end Steps

theorem addValues_added (host : Host World) (kind : Resource.Kind) (code : Int)
    (values : List String) (shell : Shell World Store) :
    Added host kind code values shell (addValues host kind code values shell) := by
  induction values generalizing code shell with
  | nil =>
      constructor
      case registered => simp [Host.present, Host.presences, addValues]
      case others => exact fun _ _ => rfl
      case reported => simp [Host.missing, Host.presences, addValues]
      case lines => exact fun _ => ⟨[], Sink.extend_empty.symm, rfl⟩
      case code => rfl
  | cons value rest ih =>
      rcases asked : host.pathExists value shell.world with ⟨found, world⟩
      cases found with
      | false =>
          rw [addValues_missing asked]
          exact .of_missing asked (ih 1 _)
      | true =>
          rw [addValues_found asked]
          exact .of_found asked (ih code _)

section Statements

variable {statement : String} {first word : List Char} {values : List (List Char)}
  {kind : Resource.Kind}

theorem ofStatement?_add (listed : Text.words statement.toList = first :: word :: values)
    (named : Text.lower first = "add".toList) (typed : Resource.Kind.ofWord? word = some kind) :
    ∃ arguments, ofStatement? statement = some (.add, arguments) ∧
      Text.words arguments = word :: values := by
  obtain ⟨leads, behind⟩ := Text.firstWord_of_words listed
  refine ⟨(Text.firstWord statement.toList).2, ?_, behind⟩
  have claims : namesResource (Text.firstWord statement.toList).2 = true := by
    simp only [namesResource, behind, typed, Option.isSome_some]
  have called : ofWords? first (Text.firstWord statement.toList).2 = some .add := by
    simp only [ofWords?, named, claims]
    decide
  simp only [ofStatement?, leads, called, Option.map_some]

theorem runAdd_added (host : Host World) {arguments : List Char} (shell : Shell World Store)
    (listed : Text.words arguments = word :: values) (some_value : values ≠ [])
    (typed : Resource.Kind.ofWord? word = some kind) :
    Added host kind 0 (values.map String.ofList) shell (runAdd host arguments shell) := by
  obtain ⟨value, rest, rfl⟩ := List.exists_cons_of_ne_nil some_value
  simp only [runAdd, listed, typed]
  exact addValues_added host kind 0 ((value :: rest).map String.ofList) shell

theorem Added.of_echo {host : Host World} {code : Int} {line : String} {values : List String}
    {shell : Shell World Store} {result : Int × Shell World Store}
    (added : Added host kind code values (shell.echo line) result) :
    Added host kind code values shell result :=
  ⟨added.registered, added.others, added.reported, added.lines, added.code⟩

/-- Every statement that says `add`, a kind and some values adds these values together. -/
theorem runStatement_added (host : Host World) (engine : Engine Store) (sideFile : Option String)
    (shell : Shell World Store) (listed : Text.words statement.toList = first :: word :: values)
    (named : Text.lower first = "add".toList) (some_value : values ≠ [])
    (typed : Resource.Kind.ofWord? word = some kind) :
    Added host kind 0 (values.map String.ofList) shell
      (Local.runStatement host engine statement sideFile shell) := by
  obtain ⟨arguments, called, behind⟩ := ofStatement?_add listed named typed
  simp only [Local.runStatement, called, run]
  split
  · exact (runAdd_added host _ behind some_value typed).of_echo
  · exact runAdd_added host shell behind some_value typed

end Statements

end Directive

end QueryShell
