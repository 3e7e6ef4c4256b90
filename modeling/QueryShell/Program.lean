import QueryShell.Arguments
import QueryShell.Config
import QueryShell.Environment.Definitions
import QueryShell.History
import QueryShell.Interactive
import QueryShell.Postgres.Client
import QueryShell.Postgres.Dial
import QueryShell.Postgres.Login

/-!
The shell as a program: from the arguments and the environment it was started with to its exit
status. A session is opened on a local database or on a server, its init files are run, and then
either the batch input or the lines of the standard input.
-/

namespace QueryShell

/-- How the texts around the program are read, each in a format that is not its own. -/
structure Readers where
  arguments : Environment → List String → Except Arguments.Stop Arguments := Arguments.ofList
  definitions : String → Environment → Environment := Environment.withDefinitions
  document : List Char → Option (List (String × Toml.Value)) := Toml.Document.ofText?
  url : String → Except Url.Fault Url := Url.ofText
  login : Environment → String → Except Failure Postgres.Login := Postgres.Login.ofText
  kind : String → Sql.Kind := Sql.Kind.ofText

structure Services (World Network Database Server : Type) where
  host : Host World
  openDatabase : String → World → Except String Database × World
  engine : Engine Database
  dialer : Postgres.Login → Postgres.Dialer Network Server
  wire : Postgres.Wire Server
  readers : Readers := {}

namespace Services

variable {World Network Database Server : Type}

def localPlatform (services : Services World Network Database Server) : Platform World Database :=
  ⟨services.host, .local services.engine⟩

def remotePlatform (services : Services World Network Database Server) :
    Platform World (Postgres.Client Server) :=
  ⟨services.host, .remote (Postgres.Client.remote services.wire services.readers.kind)⟩

end Services

inductive AnyShell (World Database Server : Type) where
  | local (shell : Shell World Database)
  | remote (shell : Shell World (Postgres.Client Server))

namespace AnyShell

variable {World Network Database Server : Type}

def session : AnyShell World Database Server → Session
  | .local shell => shell.session
  | .remote shell => shell.session

def world : AnyShell World Database Server → World
  | .local shell => shell.world
  | .remote shell => shell.world

def withWorld (world : World) : AnyShell World Database Server → AnyShell World Database Server
  | .local shell => .local { shell with world }
  | .remote shell => .remote { shell with world }

def server? : AnyShell World Database Server → Option Server
  | .local _ => none
  | .remote shell => some shell.store.store

def report (failure : Failure) :
    AnyShell World Database Server → AnyShell World Database Server
  | .local shell => .local (shell.report failure)
  | .remote shell => .remote (shell.report failure)

def act {Answer : Type} (services : Services World Network Database Server)
    (action : {Store : Type} → Platform World Store → Shell World Store →
      Answer × Shell World Store) :
    AnyShell World Database Server → Answer × AnyShell World Database Server
  | .local shell =>
      let (answer, shell) := action services.localPlatform shell
      (answer, .local shell)
  | .remote shell =>
      let (answer, shell) := action services.remotePlatform shell
      (answer, .remote shell)

def readLines (services : Services World Network Database Server) (input : ByteArray)
    (shell : AnyShell World Database Server) :
    Interactive.Ended × AnyShell World Database Server :=
  shell.act services fun platform shell =>
    Interactive.run platform (Interactive.inputLines input) shell

end AnyShell

namespace Program

variable {World Network Database Server : Type}

structure Invocation where
  arguments : List String := []
  environment : Environment := []

structure Ended (World Network Server : Type) where
  code : Int
  out : Sink
  err : Sink
  world : World
  network : Network
  server : Option Server := none

namespace Ended

def status (ended : Ended World Network Server) : Nat := (ended.code % 256).toNat

end Ended

structure Waiting (World Network Database Server : Type) where
  shell : AnyShell World Database Server
  network : Network
  prompt : Prompt
  historyPath : Option String

inductive Begun (World Network Database Server : Type) where
  | ended (ended : Ended World Network Server)
  | waiting (waiting : Waiting World Network Database Server)

def name : String := "qsh"

def versionText : String := name ++ " 0.1.0\n"

def usageText : String := "Usage: " ++ name ++ " [OPTIONS] [CONNECTION_STRING]\n"

def helpText : String :=
  "An interactive query shell with local and remote execution\n\n" ++ usageText ++ "\n" ++
  "Options:\n" ++
  "  -H, --host <HOST>              Remote database host\n" ++
  "  -p, --port <PORT>              Remote database port [default: 5432]\n" ++
  "  -d, --database <DATABASE>      Remote database name\n" ++
  "  -U, --user <USER>              Remote database user\n" ++
  "  -c, --connection <NAME>        Use named connection from config\n" ++
  "  -e <QUOTED_QUERY_STRING>       SQL from command line\n" ++
  "  -f <FILENAME>                  SQL from file\n" ++
  "  -i <FILENAME>                  Init file to run before anything else (repeatable)\n" ++
  "  -S, --silent                   Silent mode: no timing or informational messages\n" ++
  "  -v, --verbose                  Verbose mode: echo executed statements\n" ++
  "      --set <KEY=VALUE>          Set a session variable (repeatable)\n" ++
  "      --config <PATH>            Config file path\n" ++
  "      --local-db <PATH>          Local database file (default: in-memory)\n" ++
  "      --log-stderr               Write logs to stderr instead of the log file\n" ++
  "  -h, --help                     Print help\n" ++
  "  -V, --version                  Print version\n"

def stopText : Arguments.Stop → String
  | .help => helpText
  | .version => versionText
  | .unknownArgument => "error: unexpected argument found\n\n" ++ usageText
  | .missingValue => "error: a value is required for an option\n\n" ++ usageText
  | .invalidValue => "error: invalid value for an option\n\n" ++ usageText
  | .conflict => "error: arguments cannot be used with each other\n\n" ++ usageText
  | .surplusValue => "error: unexpected value for a switch\n\n" ++ usageText

def sinkOf (text : String) : Sink := { written := text.toUTF8 }

def environmentWithFile (services : Services World Network Database Server)
    (environment : Environment) (world : World) : Environment × World :=
  match services.host.isFile ".env" world with
  | (false, world) => (environment, world)
  | (true, world) =>
      match services.host.readText ".env" world with
      | (.ok text, world) => (services.readers.definitions text environment, world)
      | (.error _, world) => (environment, world)

def makeLogDirectory (host : Host World) (path : String) (world : World) :
    Except Failure Unit × World :=
  match Path.parent? path with
  | none => (.ok (), world)
  | some directory =>
      if directory.isEmpty then (.ok (), world)
      else match host.makeDirectories directory world with
        | (.ok (), world) => (.ok (), world)
        | (.error reason, world) =>
            (.error (.io ("Could not create log directory " ++ directory ++ ": " ++ reason)), world)

def openLog (host : Host World) (path : String) (world : World) : Except Failure Unit × World :=
  match makeLogDirectory host path world with
  | (.error failure, world) => (.error failure, world)
  | (.ok (), world) =>
      match host.createFile path world with
      | (.ok (), world) => (.ok (), world)
      | (.error reason, world) =>
          (.error (.io ("Could not create log file " ++ path ++ ": " ++ reason)), world)

def configured (arguments : Arguments) (config : Config) : Except Failure (Option Connection) :=
  match arguments.connection with
  | none => .ok (config.connection none)
  | some name =>
      match config.connection (some name) with
      | some connection => .ok (some connection)
      | none => .error (.config ("Connection '" ++ name ++ "' not found in config file"))

/-- The connection of the session; without one it is local. A connection string stands for itself,
and single arguments override a configured connection. -/
def connectionFor (environment : Environment) (arguments : Arguments) (config : Config)
    (readUrl : String → Except Url.Fault Url := Url.ofText) :
    Except Failure (Option Connection) := do
  let given ← arguments.toConnection readUrl
  if arguments.connectionString.isSome then
    return given.map (Connection.withDefaults environment)
  let base ← configured arguments config
  let connection := match base, given with
    | some base, some given => some (base.merge given)
    | some base, none => some base
    | none, given => given
  return connection.map (Connection.withDefaults environment)

def sessionFor (arguments : Arguments) (config : Config) (mode : Mode) (err : Sink) : Session :=
  let initial := arguments.set.foldl (fun merged (name, value) => merged.insert name value)
    config.variables
  Session.withVariables initial {
    mode, err
    verbose := arguments.verbose
    silent := arguments.silent
    initFiles := arguments.init
    execString := arguments.execute
    fileName := arguments.file
    keySummaryFile := config.keySummaryFile }

def connect (services : Services World Network Database Server) (environment : Environment)
    (connection : Connection) (network : Network) : Except Failure Server × Network :=
  match connection.text.bind (services.readers.login environment) with
  | .error failure => (.error failure, network)
  | .ok login =>
      (services.dialer login).connect
        ⟨connection.hostName, connection.port, connection.user.getD "unknown"⟩ network

def openSession (services : Services World Network Database Server) (environment : Environment)
    (arguments : Arguments) (config : Config) (err : Sink) (world : World) (network : Network) :
    Except (Failure × World) (AnyShell World Database Server) × Network :=
  match connectionFor environment arguments config services.readers.url with
  | .error failure => (.error (failure, world), network)
  | .ok (some connection) =>
      match connect services environment connection network with
      | (.error failure, network) => (.error (failure, world), network)
      | (.ok server, network) =>
          let mode := Mode.remote connection.hostName connection.port
          let session := sessionFor arguments config mode err
          (.ok (.remote ⟨session, world, { store := server }⟩), network)
  | .ok none =>
      let path := arguments.localDatabase.getD config.localDatabase
      match services.openDatabase path world with
      | (.error reason, world) =>
          (.error (.query ("Failed to open local database: " ++ reason), world), network)
      | (.ok store, world) =>
          (.ok (.local ⟨sessionFor arguments config .local err, world, store⟩), network)

def startupFailureCode : Int := 2

def finish (shell : AnyShell World Database Server) (network : Network) (code : Int) :
    Ended World Network Server :=
  { code, out := shell.session.out, err := shell.session.err, world := shell.world, network,
    server := shell.server? }

structure Opened (World Network Database Server : Type) where
  environment : Environment
  prompt : String
  shell : AnyShell World Database Server
  network : Network

def openedWith (services : Services World Network Database Server) (environment : Environment)
    (arguments : Arguments) (world : World) (network : Network) :
    Except (Ended World Network Server) (Opened World Network Database Server) :=
  let (log, world) :=
    if arguments.logsToStderr then (.ok (), world)
    else openLog services.host (Startup.logPath environment) world
  let err : Sink := match log with
    | .ok () => {}
    | .error failure => sinkOf ("Warning: " ++ failure.message ++ "\n")
  let refuse (failure : Failure) (world : World) (network : Network) :
      Except (Ended World Network Server) (Opened World Network Database Server) :=
    .error { code := startupFailureCode, out := {}, err := (err.writeLine failure.message).2,
             world, network }
  match arguments.validate with
  | .error failure => refuse failure world network
  | .ok () =>
      match Config.load services.host (arguments.configPath environment) world
          services.readers.document with
      | (.error failure, world) => refuse failure world network
      | (.ok config, world) =>
          match openSession services environment arguments config err world network with
          | (.error (failure, world), network) => refuse failure world network
          | (.ok shell, network) => .ok { environment, prompt := config.prompt, shell, network }

def opened (services : Services World Network Database Server) (invocation : Invocation)
    (world : World) (network : Network) :
    Except (Ended World Network Server) (Opened World Network Database Server) :=
  let (environment, world) := environmentWithFile services invocation.environment world
  match services.readers.arguments environment invocation.arguments with
  | .ok arguments => openedWith services environment arguments world network
  | .error stop =>
      let text := sinkOf (stopText stop)
      .error {
        code := stop.exitCode
        out := if stop.exitCode = 0 then text else {}
        err := if stop.exitCode = 0 then {} else text
        world, network }

def prepare (services : Services World Network Database Server) (environment : Environment)
    (shell : AnyShell World Database Server) : Outcome × AnyShell World Database Server :=
  shell.act services fun platform shell =>
    Run.initFiles platform
      (Startup.defaultInitFiles (Startup.root? environment) (Startup.home? environment)) shell

def enter (services : Services World Network Database Server)
    (session : Opened World Network Database Server) (ready : AnyShell World Database Server) :
    Begun World Network Database Server :=
  match ready.act services Run.batch with
  | (some outcome, shell) => .ended (finish shell session.network outcome.status)
  | (none, shell) =>
      .waiting {
        shell, network := session.network
        prompt := Prompt.ofMode session.prompt shell.session.mode
        historyPath := Startup.historyPath? session.environment }

def beginSession (services : Services World Network Database Server)
    (session : Opened World Network Database Server) : Begun World Network Database Server :=
  match prepare services session.environment session.shell with
  | (.exit code, shell) => .ended (finish shell session.network code)
  | (.code _, shell) => enter services session shell

def start (services : Services World Network Database Server) (invocation : Invocation)
    (world : World) (network : Network) : Begun World Network Database Server :=
  match opened services invocation world network with
  | .error ended => .ended ended
  | .ok session => beginSession services session

def conclude (services : Services World Network Database Server)
    (waiting : Waiting World Network Database Server) (lines : Interactive.Ended) :
    Ended World Network Server :=
  let shell := match waiting.historyPath with
    | some path =>
        waiting.shell.withWorld (History.save services.host path lines.entered waiting.shell.world)
    | none => waiting.shell
  match lines.result with
  | .ok outcome => finish shell waiting.network outcome.status
  | .error failure => finish (shell.report failure) waiting.network failure.code

def completed (services : Services World Network Database Server) (input : ByteArray) :
    Begun World Network Database Server → Ended World Network Server
  | .ended ended => ended
  | .waiting waiting =>
      let (lines, shell) := waiting.shell.readLines services input
      conclude services { waiting with shell } lines

def run (services : Services World Network Database Server) (invocation : Invocation)
    (input : ByteArray) (world : World) (network : Network) : Ended World Network Server :=
  completed services input (start services invocation world network)

end Program

end QueryShell
