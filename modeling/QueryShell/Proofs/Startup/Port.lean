import QueryShell.Proofs.Startup.Precedence

/-!
Where the port of a connection comes from. A port that equals the default one counts as not given,
so that a source below it may give another, and a port flag counts only beside a flag that tells of a
server. The port is the one of highest precedence exactly if neither makes a difference.
-/

namespace QueryShell

namespace Config

variable {value : Toml.Value} {entries : List (String × Toml.Value)} {config : Config}

def writtenPort? (value : Toml.Value) : Option Nat :=
  (Layout.of? value).bind fun layout => (layout.get? "port" 1).bind port?

def described? (name : Option String) (entries : List (String × Toml.Value)) : Option Toml.Value :=
  (table? "connections" entries).bind fun connections =>
    connections.lookup (name.getD defaultConnection)

theorem entry_eq_getD {Result : Type} {read : Toml.Value → Option Result}
    {default result : Result} {name : String} {place : Nat} {layout : Layout}
    (given : entry read default name place layout = some result) :
    result = ((layout.get? name place).bind read).getD default := by
  rw [entry] at given
  cases found : layout.get? name place with
  | none =>
      rw [found] at given
      exact (Option.some.inj given).symm
  | some value =>
      simp only [found] at given
      rw [Option.bind_some, given]
      rfl

theorem port_of_connection? {connection : Connection} (read : connection? value = some connection) :
    connection.port = (writtenPort? value).getD Connection.defaultPort := by
  simp only [connection?, Option.bind_eq_bind, Option.bind_none, Option.ite_none_left_eq_some,
    Option.bind_eq_some_iff] at read
  obtain ⟨layout, found, -, _, -, port, given, _, -, _, -, _, -, same⟩ := read
  cases same
  rw [writtenPort?, found]
  exact entry_eq_getD given

theorem lookup_of_mapM {Source Result : Type} {read : Source → Option Result}
    {sources : List (String × Source)} {results : List (String × Result)}
    (made : (sources.mapM fun (name, source) => do return (name, ← read source)) = some results)
    (name : String) :
    results.lookup name = (sources.lookup name).bind read ∧
      (results.lookup name = none → sources.lookup name = none) := by
  induction sources generalizing results with
  | nil =>
      cases made
      exact ⟨rfl, fun _ => rfl⟩
  | cons first rest ih =>
      obtain ⟨key, source⟩ := first
      simp only [List.mapM_cons, Option.bind_eq_bind, Option.bind_eq_some_iff] at made
      obtain ⟨_, ⟨result, given, same⟩, others, remaining, all⟩ := made
      cases same
      cases all
      rw [List.lookup_cons, List.lookup_cons]
      split
      · exact ⟨given.symm, fun absent => by cases absent⟩
      · exact ih remaining

theorem connection_of_entries (read : ofEntries? entries = some config) (name : Option String) :
    config.connection name = (described? name entries).bind connection? ∧
      (config.connection name = none → described? name entries = none) := by
  simp only [ofEntries?, Option.bind_eq_bind, Option.bind_eq_some_iff] at read
  obtain ⟨_, -, _, -, _, -, _, -, connections, found, _, -, _, -, _, -, _, -, _, -, _, -, _, listed,
    same⟩ := read
  cases same
  rw [described?, found]
  exact lookup_of_mapM listed _

/-- The port of a configured connection is the one that is written there, or the default one. -/
theorem port_of_entries (read : ofEntries? entries = some config) {name : Option String}
    {connection : Connection} (found : config.connection name = some connection) :
    connection.port = ((described? name entries).bind writtenPort?).getD Connection.defaultPort := by
  rw [(connection_of_entries read name).1] at found
  obtain ⟨value, described, made⟩ := Option.bind_eq_some_iff.mp found
  rw [described]
  exact port_of_connection? made

end Config

def Environment.port? (environment : Environment) : Option Nat :=
  (environment.get? "PGPORT").bind fun text => Decimal.boundedOfText? 65536 text.toList

def Connection.writtenPort? (readUrl : String → Except Url.Fault Url) (text : String) :
    Option Nat :=
  match readUrl text with
  | .ok url => url.port
  | .error _ => none

namespace Connection

variable {readUrl : String → Except Url.Fault Url} {connection other : Connection}
  {ports others : List Nat}

def firstOther (ports : List Nat) : Nat := (ports.find? (· ≠ defaultPort)).getD defaultPort

theorem firstOther_of_option (port : Option Nat) :
    firstOther port.toList = port.getD defaultPort := by
  cases port with
  | none => rfl
  | some port =>
      by_cases same : port = defaultPort
      · simp [firstOther, same]
      · simp [firstOther, same]

theorem firstOther_append (ports others : List Nat) :
    firstOther (ports ++ others) =
      if firstOther ports = defaultPort then firstOther others else firstOther ports := by
  rw [firstOther, List.find?_append]
  cases found : ports.find? (· ≠ defaultPort) with
  | none =>
      have unset : firstOther ports = defaultPort := by
        rw [firstOther, found]
        rfl
      rw [if_pos unset]
      rfl
  | some port =>
      have own : firstOther ports = port := by
        rw [firstOther, found]
        rfl
      have different : port ≠ defaultPort := by simpa using List.find?_some found
      rw [own, if_neg different]
      rfl

theorem firstOther_eq_default_iff :
    firstOther ports = defaultPort ↔ ∀ port ∈ ports, port = defaultPort := by
  constructor
  · intro unset port member
    cases found : ports.find? (· ≠ defaultPort) with
    | none => simpa using List.find?_eq_none.mp found port member
    | some other =>
        have different : other ≠ defaultPort := by simpa using List.find?_some found
        rw [firstOther, found] at unset
        exact (different unset).elim
  · intro all
    have nothing : ports.find? (· ≠ defaultPort) = none := by
      rw [List.find?_eq_none]
      intro port member
      simp [all port member]
    rw [firstOther, nothing]
    rfl

theorem firstOther_eq_iff {port : Nat} (other : port ≠ defaultPort) :
    firstOther ports = port ↔ ports.find? (· ≠ defaultPort) = some port := by
  rw [firstOther]
  cases ports.find? (· ≠ defaultPort) with
  | none => simp [other.symm]
  | some found => simp

/-- The first port of all is also the first other one, unless it is the default one and another one
follows. -/
theorem firstOther_eq_head_iff :
    firstOther ports = ports.head?.getD defaultPort ↔
      (ports.head? = some defaultPort → ∀ port ∈ ports, port = defaultPort) := by
  cases ports with
  | nil => simp [firstOther]
  | cons port rest =>
      rw [List.head?_cons, Option.getD_some]
      by_cases unset : port = defaultPort
      · subst unset
        rw [firstOther_eq_default_iff]
        exact ⟨fun all _ => all, fun all => all rfl⟩
      · have own : firstOther (port :: rest) = port := by simp [firstOther, unset]
        simp [own, unset]

theorem port_merge (own : connection.port = firstOther ports)
    (given : other.port = firstOther others) :
    (connection.merge other).port = firstOther (others ++ ports) := by
  rw [firstOther_append, ← own, ← given]
  rfl

theorem port_withDefaults (own : connection.port = firstOther ports) (environment : Environment) :
    (connection.withDefaults environment).port =
      firstOther (ports ++ environment.port?.toList) := by
  rw [firstOther_append, firstOther_of_option, ← own]
  simp only [withDefaults]
  split
  · rename_i unset
    rw [unset]
    rfl
  · rfl

theorem port_ofText {text : String} (read : ofText text readUrl = .ok connection) :
    connection.port = firstOther (writtenPort? readUrl text).toList := by
  rw [firstOther_of_option, writtenPort?]
  rw [ofText] at read
  split at read
  · cases read
  · rename_i url parsed
    split at read
    · cases read
      rw [parsed]
      rfl
    · cases read

end Connection

namespace Program

variable {readUrl : String → Except Url.Fault Url} {environment : Environment}
  {arguments : Arguments} {config : Config} {entries : List (String × Toml.Value)}
  {connection : Connection}

def portsWith (readUrl : String → Except Url.Fault Url) (flag : Option Nat)
    (environment : Environment) (arguments : Arguments) (entries : List (String × Toml.Value)) :
    List Nat :=
  (match arguments.connectionString with
    | some text => (Connection.writtenPort? readUrl text).toList
    | none => flag.toList ++
        ((Config.described? arguments.connection entries).bind Config.writtenPort?).toList) ++
    environment.port?.toList

def portsGiven (readUrl : String → Except Url.Fault Url) (environment : Environment)
    (arguments : Arguments) (entries : List (String × Toml.Value)) : List Nat :=
  portsWith readUrl arguments.port environment arguments entries

/-- The ports that are heeded: that of the flag only beside a flag that tells of a server. -/
def portsHeeded (readUrl : String → Except Url.Fault Url) (environment : Environment)
    (arguments : Arguments) (entries : List (String × Toml.Value)) : List Nat :=
  portsWith readUrl (arguments.flagged?.bind fun _ => arguments.port) environment arguments entries

theorem port_of_flagged? {flags : Connection} (flagged : arguments.flagged? = some flags) :
    flags.port = Connection.firstOther arguments.port.toList := by
  rw [Arguments.flagged?] at flagged
  split at flagged
  · cases flagged
  · cases flagged
    exact (Connection.firstOther_of_option arguments.port).symm

/-- The port is the first one heeded that is not the default one. -/
theorem port_of_connectionFor (read : Config.ofEntries? entries = some config)
    (resolved : connectionFor environment arguments config readUrl = .ok (some connection)) :
    connection.port = Connection.firstOther (portsHeeded readUrl environment arguments entries) := by
  rw [portsHeeded, portsWith]
  cases given : arguments.connectionString with
  | some text =>
      rw [connectionFor_of_string given] at resolved
      cases parsed : Connection.ofText text readUrl with
      | error failure =>
          rw [parsed] at resolved
          cases resolved
      | ok written =>
          rw [parsed] at resolved
          cases resolved
          exact Connection.port_withDefaults (Connection.port_ofText parsed) environment
  | none =>
      obtain ⟨under, layered, rfl⟩ := exists_overlay given resolved
      refine Connection.port_withDefaults ?_ environment
      cases flagged : arguments.flagged? with
      | none =>
          rw [flagged] at layered
          cases found : config.connection arguments.connection with
          | none =>
              rw [found] at layered
              cases layered
          | some base =>
              rw [found] at layered
              cases layered
              simp only [Option.bind_none, Option.toList_none, List.nil_append,
                Connection.firstOther_of_option]
              exact Config.port_of_entries read found
      | some flags =>
          have own := port_of_flagged? flagged
          rw [flagged] at layered
          cases found : config.connection arguments.connection with
          | none =>
              rw [found] at layered
              cases layered
              rw [(Config.connection_of_entries read _).2 found]
              simpa using own
          | some base =>
              rw [found] at layered
              cases layered
              refine Connection.port_merge ?_ own
              rw [Connection.firstOther_of_option]
              exact Config.port_of_entries read found

/-- A port flag without a connection string and without a flag that tells of a server. -/
def LonePort (arguments : Arguments) (port : Nat) : Prop :=
  arguments.connectionString = none ∧ arguments.port = some port ∧ arguments.flagged? = none

theorem portsGiven_of_lone {port : Nat} (lone : LonePort arguments port) :
    portsGiven readUrl environment arguments entries =
      port :: portsHeeded readUrl environment arguments entries := by
  obtain ⟨alone, given, unflagged⟩ := lone
  simp [portsGiven, portsHeeded, portsWith, alone, given, unflagged]

theorem portsGiven_of_not_lone (beside : ¬∃ port, LonePort arguments port) :
    portsGiven readUrl environment arguments entries =
      portsHeeded readUrl environment arguments entries := by
  rw [portsGiven, portsHeeded]
  cases alone : arguments.connectionString with
  | some text => simp only [portsWith, alone]
  | none =>
      cases flagged : arguments.flagged? with
      | some flags => rfl
      | none =>
          cases given : arguments.port with
          | none => rfl
          | some port => exact (beside ⟨port, alone, given, flagged⟩).elim

/-- The port is the first one heeded that is not the default one. It is the given one of highest
precedence, unless that is the default one and another one is heeded, or a lone flag gives it and the
rest gives another one. -/
theorem port_by_precedence (read : Config.ofEntries? entries = some config)
    (resolved : connectionFor environment arguments config readUrl = .ok (some connection)) :
    let given := portsGiven readUrl environment arguments entries
    let heeded := portsHeeded readUrl environment arguments entries
    connection.port = (heeded.find? (· ≠ Connection.defaultPort)).getD Connection.defaultPort ∧
    (connection.port = given.head?.getD Connection.defaultPort ↔
      (given.head? = some Connection.defaultPort →
        ∀ port ∈ heeded, port = Connection.defaultPort) ∧
      ∀ port, LonePort arguments port → port ≠ Connection.defaultPort →
        heeded.find? (· ≠ Connection.defaultPort) = some port) := by
  intro given heeded
  have port : connection.port = Connection.firstOther heeded := port_of_connectionFor read resolved
  refine ⟨port, ?_⟩
  rw [port]
  by_cases lone : ∃ port, LonePort arguments port
  · obtain ⟨port, lone⟩ := lone
    have above : given = port :: heeded := portsGiven_of_lone lone
    have only (other : Nat) (also : LonePort arguments other) : other = port :=
      Option.some.inj (also.2.1.symm.trans lone.2.1)
    rw [above, List.head?_cons, Option.getD_some]
    by_cases unset : port = Connection.defaultPort
    · rw [unset, Connection.firstOther_eq_default_iff]
      constructor
      · intro all
        refine ⟨fun _ => all, ?_⟩
        intro other also different
        exact (different ((only other also).trans unset)).elim
      · rintro ⟨all, -⟩
        exact all rfl
    · rw [Connection.firstOther_eq_iff unset]
      constructor
      · intro first
        refine ⟨fun same => (unset (Option.some.inj same)).elim, ?_⟩
        intro other also _
        rw [only other also]
        exact first
      · rintro ⟨-, first⟩
        exact first port lone unset
  · have same : given = heeded := portsGiven_of_not_lone lone
    rw [same, Connection.firstOther_eq_head_iff]
    constructor
    · intro all
      exact ⟨all, fun port also => (lone ⟨port, also⟩).elim⟩
    · exact And.left

section Runs

def westernEntries : List (String × Toml.Value) :=
  [("connections", .table [("default", .table [("host", .string "west"), ("port", .integer 6000)])])]

def westernConfig : Config :=
  { connections := [("default", { host := some "west", port := 6000 })] }

theorem port_by_precedence_beside_host :
    let environment : Environment := [("PGPORT", "8000")]
    let arguments : Arguments := { host := some "east", port := some 7000 }
    Config.ofEntries? westernEntries = some westernConfig ∧
    ∃ connection,
      connectionFor environment arguments westernConfig Url.ofText = .ok (some connection) ∧
      portsGiven Url.ofText environment arguments westernEntries = [7000, 6000, 8000] ∧
      connection.port = 7000 := by
  intro environment arguments
  have read : Config.ofEntries? westernEntries = some westernConfig := rfl
  have given : portsGiven Url.ofText environment arguments westernEntries = [7000, 6000, 8000] := by
    decide +kernel
  have heeded :
      portsHeeded Url.ofText environment arguments westernEntries = [7000, 6000, 8000] := by
    decide +kernel
  have resolved : connectionFor environment arguments westernConfig Url.ofText =
      .ok (some { host := some "east", port := 7000 }) := rfl
  obtain ⟨port, -⟩ := port_by_precedence read resolved
  rw [heeded] at port
  exact ⟨read, _, resolved, given, port⟩

/-- The default port of a connection string, the default port of a flag beside another flag and any
port of a lone flag give way to what a lower source says. -/
theorem given_port_passed_over :
    let environment : Environment := [("PGPORT", "7000")]
    let string : Arguments := { connectionString := some "postgres://me@north:5432/live" }
    let flags : Arguments := { host := some "east", port := some 5432 }
    let lone : Arguments := { port := some 9000 }
    ((portsGiven Url.ofText environment string []).head? = some 5432 ∧
      Config.ofEntries? [] = some {} ∧
      ∃ connection, connectionFor environment string {} Url.ofText = .ok (some connection) ∧
        connection.port = 7000) ∧
    Config.ofEntries? westernEntries = some westernConfig ∧
    ((portsGiven Url.ofText environment flags westernEntries).head? = some 5432 ∧
      ∃ connection,
        connectionFor environment flags westernConfig Url.ofText = .ok (some connection) ∧
        connection.port = 6000) ∧
    (portsGiven Url.ofText environment lone westernEntries).head? = some 9000 ∧
      ∃ connection,
        connectionFor environment lone westernConfig Url.ofText = .ok (some connection) ∧
        connection.port = 6000 := by
  intro environment string flags lone
  have written : Connection.ofText "postgres://me@north:5432/live" Url.ofText =
      .ok ⟨some "north", 5432, some "live", some "me", none⟩ :=
    eq_ok_of_toOption (by decide +kernel)
  have overridden : connectionFor environment string {} Url.ofText =
      .ok (some ⟨some "north", 7000, some "live", some "me", none⟩) := by
    rw [connectionFor_of_string rfl, written]
    rfl
  refine ⟨⟨?_, rfl, _, overridden, rfl⟩, rfl, ⟨?_, _, rfl, rfl⟩, ?_, _, rfl, rfl⟩
  · decide +kernel
  · decide +kernel
  · decide +kernel

end Runs

end Program

end QueryShell
