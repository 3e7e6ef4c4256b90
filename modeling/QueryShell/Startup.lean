import QueryShell.Environment
import QueryShell.Path

/-!
Where the shell looks for its files when it starts.
-/

namespace QueryShell.Startup

def initFileName : String := ".qshrc"

def defaultInitFiles (root home : Option String) : List String :=
  (root.map fun root => Path.join (Path.join root "bin") initFileName).toList ++
    (home.map fun home => Path.join home initFileName).toList

def home? (environment : Environment) : Option String := environment.nonempty? "HOME"

def root? (environment : Environment) : Option String := environment.get? "QSH_HOME"

def baseDirectory? (name underHome : String) (environment : Environment) : Option String :=
  ((environment.get? name).filter Path.isAbsolute).or
    ((home? environment).map fun home => Path.join home underHome)

def stateDirectory? : Environment → Option String :=
  baseDirectory? "XDG_STATE_HOME" ".local/state"

def configDirectory? : Environment → Option String := baseDirectory? "XDG_CONFIG_HOME" ".config"

def temporaryDirectory (environment : Environment) : String :=
  (environment.get? "TMPDIR").getD "/tmp"

def logPath (environment : Environment) : String :=
  match environment.nonempty? "QSH_LOG_FILE" with
  | some path => path
  | none =>
      match (stateDirectory? environment).or (configDirectory? environment) with
      | some directory => Path.join (Path.join directory "qsh") "qsh.log"
      | none => Path.join (temporaryDirectory environment) "qsh.log"

def configPath (environment : Environment) : String :=
  Path.join (Path.join ((configDirectory? environment).getD ".") "qsh") "config.toml"

def historyPath? (environment : Environment) : Option String :=
  (home? environment).map fun home => Path.join home ".qsh_history"

end QueryShell.Startup
