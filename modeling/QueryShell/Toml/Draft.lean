import QueryShell.Toml.Value

/-!
Documents in the making. How a table came about decides what may still be added to it.
-/

namespace QueryShell.Toml

inductive Form where
  | implied
  | dotted
  | headed
deriving DecidableEq, Repr

inductive Draft where
  | value (value : Value)
  | table (form : Form) (entries : List (String × Draft))
  | tables (earlier : List (List (String × Draft))) (latest : List (String × Draft))
deriving Repr

namespace Draft

abbrev Entries := List (String × Draft)

def put (name : String) (draft : Draft) : Entries → Entries
  | [] => [(name, draft)]
  | (other, old) :: rest =>
      if other = name then (name, draft) :: rest else (other, old) :: put name draft rest

/-- Adds a value under dotted keys. It may go through tables without a header, and into a table of
dotted keys. -/
def define (value : Value) : List String → Entries → Option Entries
  | [], _ => none
  | [name], entries =>
      match entries.lookup name with
      | some _ => none
      | none => some (put name (.value value) entries)
  | name :: rest, entries =>
      let isLast := rest.length = 1
      match entries.lookup name with
      | none => (define value rest []).map fun inner => put name (.table .dotted inner) entries
      | some (.value _) => none
      | some (.tables earlier latest) =>
          if isLast then none
          else (define value rest latest).map fun inner => put name (.tables earlier inner) entries
      | some (.table form inner) =>
          if form = .headed || (form = .implied && isLast) then none
          else (define value rest inner).map fun inner => put name (.table form inner) entries

def within (change : Entries → Option Entries) : List String → Entries → Option Entries
  | [], entries => change entries
  | name :: rest, entries =>
      match entries.lookup name with
      | none => (within change rest []).map fun inner => put name (.table .implied inner) entries
      | some (.value _) => none
      | some (.tables earlier latest) =>
          (within change rest latest).map fun inner => put name (.tables earlier inner) entries
      | some (.table form inner) =>
          (within change rest inner).map fun inner => put name (.table form inner) entries

def head (name : String) (entries : Entries) : Option Entries :=
  match entries.lookup name with
  | none => some (put name (.table .headed []) entries)
  | some (.table .implied inner) => some (put name (.table .headed inner) entries)
  | some _ => none

def extend (name : String) (entries : Entries) : Option Entries :=
  match entries.lookup name with
  | none => some (put name (.tables [] []) entries)
  | some (.tables earlier latest) => some (put name (.tables (earlier ++ [latest]) []) entries)
  | some _ => none

mutual

def toValue : Draft → Value
  | .value content => content
  | table _ entries => .table (toEntries entries)
  | tables earlier latest => .array (toTables earlier ++ [.table (toEntries latest)])

def toEntries : List (String × Draft) → List (String × Value)
  | [] => []
  | (name, draft) :: rest => (name, draft.toValue) :: toEntries rest

def toTables : List (List (String × Draft)) → List Value
  | [] => []
  | entries :: rest => .table (toEntries entries) :: toTables rest

end

end Draft

end QueryShell.Toml
