import QueryShell.Backend
import QueryShell.Connection
import QueryShell.Host
import QueryShell.Session
import QueryShell.Toml.Document

/-!
The configuration of the shell: a TOML document with optional sections. What it does not say keeps
its default, and what the shell does not know is left aside.
-/

namespace QueryShell

structure Config where
  printsHeader : Bool := false
  ignoresErrors : Bool := false
  prompt : String := "qsh"
  localDatabase : String := memoryDatabase
  samples : Bool := false
  keySummaryFile : String := "_temp_key_summary.dat"
  settings : List (String × Toml.Value) := []
  connections : List (String × Connection) := []

namespace Config

inductive Layout where
  | named (entries : List (String × Toml.Value))
  | ordered (items : List Toml.Value)

def Layout.of? : Toml.Value → Option Layout
  | .array items => some (.ordered items)
  | value => value.entries?.map .named

def Layout.get? (name : String) (place : Nat) : Layout → Option Toml.Value
  | named entries => entries.lookup name
  | ordered items => items[place]?

def boolean? : Toml.Value → Option Bool
  | .boolean value => some value
  | _ => none

def string? : Toml.Value → Option String
  | .string text => some text
  | _ => none

def port? : Toml.Value → Option Nat
  | .integer value => if 0 ≤ value && value < 65536 then some value.toNat else none
  | _ => none

def entry {Result : Type} (read : Toml.Value → Option Result) (default : Result) (name : String)
    (place : Nat) (layout : Layout) : Option Result :=
  match layout.get? name place with
  | none => some default
  | some value => read value

def section? (name : String) (entries : List (String × Toml.Value)) : Option Layout :=
  match entries.lookup name with
  | none => some (.named [])
  | some value => Layout.of? value

def table? (name : String) (entries : List (String × Toml.Value)) :
    Option (List (String × Toml.Value)) :=
  match entries.lookup name with
  | none => some []
  | some value => value.entries?

def connection? (value : Toml.Value) : Option Connection := do
  let layout ← Layout.of? value
  let isShort := match layout with
    | .named _ => false
    | .ordered items => items.length < 5
  if isShort then none
  let optional (value : Toml.Value) : Option (Option String) := (string? value).map some
  return {
    host := ← entry optional none "host" 0 layout
    port := ← entry port? Connection.defaultPort "port" 1 layout
    database := ← entry optional none "database" 2 layout
    user := ← entry optional none "user" 3 layout
    password := ← entry optional none "password" 4 layout }

def ofEntries? (entries : List (String × Toml.Value)) : Option Config := do
  let cli ← section? "cli" entries
  let database ← section? "local" entries
  let sampling ← section? "sampling" entries
  let settings ← table? "settings" entries
  let connections ← table? "connections" entries
  let defaults : Config := {}
  return {
    printsHeader := ← entry boolean? defaults.printsHeader "print_header" 0 cli
    ignoresErrors := ← entry boolean? defaults.ignoresErrors "ignore_errors" 1 cli
    prompt := ← entry string? defaults.prompt "prompt" 2 cli
    localDatabase := ← entry string? defaults.localDatabase "database" 0 database
    samples := ← entry boolean? defaults.samples "enabled" 0 sampling
    keySummaryFile := ← entry string? defaults.keySummaryFile "key_summary_file" 1 sampling
    settings
    connections := ← connections.mapM fun (name, value) => do return (name, ← connection? value) }

def ofText (path text : String)
    (readDocument : List Char → Option (List (String × Toml.Value)) := Toml.Document.ofText?) :
    Except Failure Config :=
  let invalid (reason : String) : Failure :=
    .config ("Invalid config file " ++ path ++ ":\n  " ++ reason)
  match readDocument text.toList with
  | none => .error (invalid "not a TOML document")
  | some entries =>
      match ofEntries? entries with
      | none => .error (invalid "an entry has an unexpected type")
      | some config => .ok config

def unreadable (reason : String) : Failure := .config ("Failed to read config file: " ++ reason)

def load {World : Type} (host : Host World) (path : String) (world : World)
    (readDocument : List Char → Option (List (String × Toml.Value)) := Toml.Document.ofText?) :
    Except Failure Config × World :=
  match host.pathExists path world with
  | (false, world) => (.ok {}, world)
  | (true, world) =>
      match host.readText path world with
      | (.error reason, world) => (.error (unreadable reason), world)
      | (.ok text, world) => (ofText path text readDocument, world)

def defaultConnection : String := "default"

def connection (name : Option String) (config : Config) : Option Connection :=
  config.connections.lookup (name.getD defaultConnection)

def flagText (value : Bool) : String := if value then "true" else "false"

def «variables» (config : Config) : Variables :=
  let typed : Variables := Std.TreeMap.ofList [
    (Variables.printHeader, flagText config.printsHeader),
    (Variables.ignoreErrors, flagText config.ignoresErrors),
    (Variables.samplingEnabled, flagText config.samples)]
  config.settings.foldl (fun merged (name, value) => merged.insert name value.setting) typed

end Config

end QueryShell
