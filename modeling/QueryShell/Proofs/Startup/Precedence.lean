import QueryShell.Program

/-!
Where the parts of a connection come from. A connection string stands for all of them. Without one
each part is that of the first of the arguments, the configured connection and the environment that
gives it, whatever becomes of the other parts. What is open after that stays open.
-/

namespace QueryShell

theorem eq_ok_of_toOption {Error Answer : Type} {result : Except Error Answer}
    {answer : Answer} (answered : result.toOption = some answer) : result = .ok answer := by
  cases result with
  | error => cases answered
  | ok => exact congrArg Except.ok (Option.some.inj answered)

inductive Connection.Part where
  | host
  | database
  | user
  | password
deriving DecidableEq, Repr

namespace Connection.Part

def of : Part → Connection → Option String
  | host, connection => connection.host
  | database, connection => connection.database
  | user, connection => connection.user
  | password, connection => connection.password

def variableName : Part → String
  | host => "PGHOST"
  | database => "PGDATABASE"
  | user => "PGUSER"
  | password => "PGPASSWORD"

def flag : Part → Arguments → Option String
  | host, arguments => arguments.host
  | database, arguments => arguments.database
  | user, arguments => arguments.user
  | password, _ => none

@[simp] theorem of_merge (part : Part) (connection other : Connection) :
    part.of (connection.merge other) = (part.of other).or (part.of connection) := by
  cases part with
  | host | database | user | password => rfl

@[simp] theorem of_withDefaults (part : Part) (environment : Environment) (connection : Connection) :
    part.of (connection.withDefaults environment) =
      (part.of connection).or (environment.get? part.variableName) := by
  cases part with
  | host | database | user | password => rfl

end Connection.Part

open Connection (Part)

variable {readUrl : String → Except Url.Fault Url} {environment : Environment}
  {arguments : Arguments} {config : Config}

namespace Arguments

theorem toConnection_of_string {text : String}
    (given : arguments.connectionString = some text) :
    arguments.toConnection readUrl = (Connection.ofText text readUrl).map some := by
  rw [toConnection, given]

theorem no_flags_iff :
    (∀ part : Part, part.flag arguments = none) ↔
      arguments.host = none ∧ arguments.database = none ∧ arguments.user = none := by
  constructor
  · intro open_all
    exact ⟨open_all .host, open_all .database, open_all .user⟩
  · rintro ⟨host, database, user⟩ part
    cases part with
    | host => exact host
    | database => exact database
    | user => exact user
    | password => rfl

def flagged? (arguments : Arguments) : Option Connection :=
  if arguments.host = none ∧ arguments.database = none ∧ arguments.user = none then none
  else some {
    host := arguments.host
    port := arguments.portOrDefault
    database := arguments.database
    user := arguments.user }

theorem flagged?_eq_none_iff :
    arguments.flagged? = none ↔ ∀ part : Part, part.flag arguments = none := by
  rw [no_flags_iff, flagged?]
  split
  · rename_i no_flag
    exact iff_of_true rfl no_flag
  · rename_i some_flag
    exact iff_of_false (fun same => by cases same) some_flag

theorem part_of_flagged? (arguments : Arguments) (part : Part) :
    arguments.flagged?.bind part.of = part.flag arguments := by
  rw [flagged?]
  split
  · rename_i no_flag
    exact (no_flags_iff.mpr no_flag part).symm
  · cases part with
    | host | database | user | password => rfl

theorem toConnection_of_flags (alone : arguments.connectionString = none) :
    arguments.toConnection readUrl = .ok arguments.flagged? := by
  rw [toConnection, alone, flagged?]
  dsimp only
  split
  · rename_i some_flag
    rw [if_neg]
    rintro ⟨host, database, user⟩
    simp [host, database, user] at some_flag
  · rename_i no_flag
    simp only [Bool.or_eq_true, not_or, Option.not_isSome_iff_eq_none] at no_flag
    rw [if_pos ⟨no_flag.1.1, no_flag.1.2, no_flag.2⟩]

end Arguments

def Connection.overlay : (base given : Option Connection) → Option Connection
  | some base, some given => some (base.merge given)
  | some base, none => some base
  | none, given => given

namespace Connection

variable {base given : Option Connection}

theorem overlay_eq_none_iff : overlay base given = none ↔ base = none ∧ given = none := by
  cases base with
  | none => simp [overlay]
  | some base =>
      cases given with
      | none | some => simp [overlay]

theorem part_of_overlay (base given : Option Connection) (part : Part) :
    (overlay base given).bind part.of = (given.bind part.of).or (base.bind part.of) := by
  cases base with
  | none => exact (Option.or_none).symm
  | some base =>
      cases given with
      | none => rfl
      | some given => exact part.of_merge base given

end Connection

def Config.Lacks (config : Config) (arguments : Arguments) (name : String) : Prop :=
  arguments.connection = some name ∧ config.connection (some name) = none

namespace Program

theorem configured_of_found (found : ¬∃ name, config.Lacks arguments name) :
    configured arguments config = .ok (config.connection arguments.connection) := by
  rw [configured]
  cases named : arguments.connection with
  | none => rfl
  | some name =>
      cases known : config.connection (some name) with
      | none => exact (found ⟨name, named, known⟩).elim
      | some connection => simp only [known]

theorem configured_of_lacks {name : String} (lacks : config.Lacks arguments name) :
    configured arguments config =
      .error (.config ("Connection '" ++ name ++ "' not found in config file")) := by
  simp only [configured, lacks.1, lacks.2]

theorem connectionFor_of_string {text : String} (given : arguments.connectionString = some text) :
    connectionFor environment arguments config readUrl =
      (Connection.ofText text readUrl).map fun connection =>
        some (connection.withDefaults environment) := by
  rw [connectionFor, Arguments.toConnection_of_string given, given]
  cases Connection.ofText text readUrl with
  | error failure => rfl
  | ok connection => rfl

section WithoutString

variable (alone : arguments.connectionString = none)

include alone

theorem connectionFor_of_lacks {name : String} (lacks : config.Lacks arguments name) :
    connectionFor environment arguments config readUrl =
      .error (.config ("Connection '" ++ name ++ "' not found in config file")) := by
  rw [connectionFor, Arguments.toConnection_of_flags alone, alone, configured_of_lacks lacks]
  rfl

/-- The flags are laid over the configured connection, and what is open then is left to the
environment. -/
theorem connectionFor_of_found (found : ¬∃ name, config.Lacks arguments name) :
    connectionFor environment arguments config readUrl =
      .ok ((Connection.overlay (config.connection arguments.connection) arguments.flagged?).map
        (Connection.withDefaults environment)) := by
  rw [connectionFor, Arguments.toConnection_of_flags alone, alone, configured_of_found found]
  cases config.connection arguments.connection with
  | none =>
      cases arguments.flagged? with
      | none | some => rfl
  | some base =>
      cases arguments.flagged? with
      | none | some => rfl

theorem connectionFor_eq_error_iff {failure : Failure} :
    connectionFor environment arguments config readUrl = .error failure ↔
      ∃ name, config.Lacks arguments name ∧
        failure = .config ("Connection '" ++ name ++ "' not found in config file") := by
  constructor
  · intro failed
    by_cases found : ∃ name, config.Lacks arguments name
    · obtain ⟨name, lacks⟩ := found
      rw [connectionFor_of_lacks alone lacks] at failed
      exact ⟨name, lacks, (Except.error.inj failed).symm⟩
    · rw [connectionFor_of_found alone found] at failed
      cases failed
  · rintro ⟨name, lacks, rfl⟩
    exact connectionFor_of_lacks alone lacks

theorem exists_overlay {connection : Connection}
    (resolved : connectionFor environment arguments config readUrl = .ok (some connection)) :
    ∃ under, Connection.overlay (config.connection arguments.connection) arguments.flagged? =
      some under ∧ under.withDefaults environment = connection := by
  by_cases found : ∃ name, config.Lacks arguments name
  · obtain ⟨name, lacks⟩ := found
    rw [connectionFor_of_lacks alone lacks] at resolved
    cases resolved
  · rw [connectionFor_of_found alone found] at resolved
    exact Option.map_eq_some_iff.mp (Except.ok.inj resolved)

theorem part_of_connectionFor {connection : Connection}
    (resolved : connectionFor environment arguments config readUrl = .ok (some connection))
    (part : Part) :
    part.of connection =
      (part.flag arguments).or (((config.connection arguments.connection).bind part.of).or
        (environment.get? part.variableName)) := by
  obtain ⟨under, layered, rfl⟩ := exists_overlay alone resolved
  have own := Connection.part_of_overlay (config.connection arguments.connection)
    arguments.flagged? part
  rw [layered, Option.bind_some, arguments.part_of_flagged?] at own
  rw [part.of_withDefaults, own, Option.or_assoc]

end WithoutString

theorem connectionFor_eq_none_iff :
    connectionFor environment arguments config readUrl = .ok none ↔
      arguments.connectionString = none ∧ arguments.connection = none ∧
        config.connection none = none ∧ ∀ part : Part, part.flag arguments = none := by
  cases given : arguments.connectionString with
  | some text =>
      rw [connectionFor_of_string given]
      cases Connection.ofText text readUrl with
      | error | ok => simp [Except.map]
  | none =>
      by_cases found : ∃ name, config.Lacks arguments name
      · obtain ⟨name, lacks⟩ := found
        rw [connectionFor_of_lacks given lacks]
        simp [lacks.1]
      · rw [connectionFor_of_found given found, Except.ok.injEq, Option.map_eq_none_iff,
          Connection.overlay_eq_none_iff, Arguments.flagged?_eq_none_iff]
        cases named : arguments.connection with
        | none => simp
        | some name =>
            have known : config.connection (some name) ≠ none :=
              fun unknown => found ⟨name, named, unknown⟩
            simp [known]

/-- Each part of a connection comes from the first source that gives it. The sources are a connection
string and the environment or, without a connection string, the arguments, the configured connection
and the environment. A session is local if no source but the environment says anything. -/
theorem parts_by_precedence (readUrl : String → Except Url.Fault Url) (environment : Environment)
    (arguments : Arguments) (config : Config) :
    (∀ text, arguments.connectionString = some text →
      (∀ failure, Connection.ofText text readUrl = .error failure →
        connectionFor environment arguments config readUrl = .error failure) ∧
      (∀ given, Connection.ofText text readUrl = .ok given →
        ∃ connection, connectionFor environment arguments config readUrl = .ok (some connection) ∧
          ∀ part : Part,
            part.of connection = (part.of given).or (environment.get? part.variableName)) ∧
      ∀ (others : Arguments) (other : Config), others.connectionString = some text →
        connectionFor environment others other readUrl =
          connectionFor environment arguments config readUrl) ∧
    (arguments.connectionString = none →
      (∀ failure, connectionFor environment arguments config readUrl = .error failure ↔
        ∃ name, (arguments.connection = some name ∧ config.connection (some name) = none) ∧
          failure = .config ("Connection '" ++ name ++ "' not found in config file")) ∧
      ∀ connection, connectionFor environment arguments config readUrl = .ok (some connection) →
        ∀ part : Part, part.of connection =
          (part.flag arguments).or (((config.connection arguments.connection).bind part.of).or
            (environment.get? part.variableName))) ∧
    (connectionFor environment arguments config readUrl = .ok none ↔
      arguments.connectionString = none ∧ arguments.connection = none ∧
        config.connection none = none ∧
        arguments.host = none ∧ arguments.database = none ∧ arguments.user = none) := by
  refine ⟨?_, ?_, ?_⟩
  · intro text given
    rw [connectionFor_of_string given]
    refine ⟨?_, ?_, ?_⟩
    · intro failure rejected
      rw [rejected]
      rfl
    · intro connection accepted
      refine ⟨connection.withDefaults environment, ?_, ?_⟩
      · rw [accepted]
        rfl
      · intro part
        exact part.of_withDefaults environment connection
    · intro others other same
      exact connectionFor_of_string same
  · intro alone
    constructor
    · intro failure
      exact connectionFor_eq_error_iff alone
    · intro connection resolved part
      exact part_of_connectionFor alone resolved part
  · rw [← Arguments.no_flags_iff]
    exact connectionFor_eq_none_iff

theorem parts_by_precedence_of_each_source :
    let environment : Environment := [("PGHOST", "east"), ("PGUSER", "guest"), ("PGPASSWORD", "p")]
    let config : Config :=
      { connections := [("default", { host := some "west", database := some "main" })] }
    let flags : Arguments := { database := some "test" }
    let string : Arguments :=
      { connectionString := some "postgres://me@north/live", host := some "south" }
    (∃ connection, connectionFor environment flags config Url.ofText = .ok (some connection) ∧
      connection.host = some "west" ∧ connection.database = some "test" ∧
      connection.user = some "guest") ∧
    ∃ connection, connectionFor environment string config Url.ofText = .ok (some connection) ∧
      connection.host = some "north" ∧ connection.password = some "p" := by
  intro environment config flags string
  have layered := parts_by_precedence Url.ofText environment flags config
  have direct := parts_by_precedence Url.ofText environment string config
  have read : Connection.ofText "postgres://me@north/live" Url.ofText =
      .ok ⟨some "north", 5432, some "live", some "me", none⟩ :=
    eq_ok_of_toOption (by decide +kernel)
  constructor
  · have parts := (layered.2.1 rfl).2 _ rfl
    exact ⟨_, rfl, parts .host, parts .database, parts .user⟩
  · obtain ⟨connection, resolved, parts⟩ := (direct.1 _ rfl).2.1 _ read
    exact ⟨connection, resolved, parts .host, parts .password⟩

end Program

end QueryShell
