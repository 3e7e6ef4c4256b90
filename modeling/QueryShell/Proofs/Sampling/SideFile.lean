import QueryShell.Machine
import QueryShell.Proofs.Files.Write
import QueryShell.Proofs.Output.Streaming

/-!
The copy of the rows of a statement in a side file. On a host where the file can be written, and with
an output sink that takes everything, the file has all rows once the statement is done.
-/

namespace QueryShell

def fileText (lines : List String) : String := String.join (lines.map fun line => line ++ "\n")

theorem fileText_concat (lines : List String) (line : String) :
    fileText (lines ++ [line]) = fileText lines ++ (line ++ "\n") := by
  simp [fileText]

/-- What a host promises of a file. Added lines need not be in the file until it is flushed. -/
structure Host.SideFile {World : Type} (host : Host World) (path : String) where
  Writable : World → Prop
  Pending : List String → World → Prop
  Stored : List String → World → Prop
  writable_clock : ∀ {world}, Writable world → Writable (host.clock world).2
  create : ∀ {world}, Writable world →
    ∃ after, host.createFile path world = (.ok (), after) ∧ Pending [] after
  append : ∀ {lines world} (line : String), Pending lines world →
    ∃ after, host.appendLine path line world = (.ok (), after) ∧ Pending (lines ++ [line]) after
  flush : ∀ {lines world}, Pending lines world →
    ∃ after, host.flushFile path world = (.ok (), after) ∧ Stored lines after
  stored_clock : ∀ {lines world}, Stored lines world → Stored lines (host.clock world).2
  read : ∀ {lines world}, Stored lines world → (host.readText path world).1 = .ok (fileText lines)

section Machine

open Files (Tree)

theorem Machine.exists_append {path : String} {machine : Machine} {lines : List String}
    (found : machine.tree.find path = .ok (.file (fileText lines).toUTF8)) (line : String) :
    ∃ after, host.appendLine path line machine = (.ok (), after) ∧
      after.tree.find path = .ok (.file (fileText (lines ++ [line])).toUTF8) := by
  have room : machine.isFullDevice path = false := by simp [isFullDevice, found]
  obtain ⟨after, written, holds⟩ := Tree.exists_write_of_file found
    ((fileText lines).toUTF8 ++ (line ++ "\n").toUTF8)
  have longer : (fileText lines).toUTF8 ++ (line ++ "\n").toUTF8 =
      (fileText (lines ++ [line])).toUTF8 := by
    rw [fileText_concat]
    exact String.toByteArray_append.symm
  rw [longer] at holds
  refine ⟨{ machine with tree := after }, ?_, holds⟩
  simp only [host, room, Bool.false_eq_true, if_false, Tree.append, found, written, change]

def Machine.sideFile (path : String) : Machine.host.SideFile path where
  Writable machine := ∃ tree, machine.tree.write path .empty = .ok tree ∧
    tree.find path = .ok (.file .empty)
  Pending lines machine := machine.tree.find path = .ok (.file (fileText lines).toUTF8)
  Stored lines machine := machine.tree.find path = .ok (.file (fileText lines).toUTF8)
  writable_clock writable := writable
  create := by
    rintro machine ⟨tree, written, found⟩
    exact ⟨{ machine with tree, overfull := false }, by simp [host, written, change], found⟩
  append line pending := exists_append pending line
  flush := by
    intro lines machine pending
    have room : machine.isFullDevice path = false := by simp [isFullDevice, pending]
    exact ⟨machine, by simp [host, room], pending⟩
  stored_clock stored := stored
  read := by
    intro lines machine stored
    have decoded : String.fromUTF8? (fileText lines).toUTF8 = some (fileText lines) := by
      rw [String.fromUTF8?, String.toUTF8_eq_toByteArray, dif_pos (fileText lines).isValidUTF8]
      rfl
    simp only [host, Tree.readText, Tree.read, stored, bind, Except.bind, decoded, explain]

end Machine

variable {World Store : Type} {host : Host World} {engine : Engine Store} {path : String}

namespace Local

section Open

variable {shell : Shell World Store}

theorem echo_of_open (takes : shell.session.out.Open) (line : String) :
    shell.echo line = { shell with session := shell.session.withOutput [line] } := by
  simp only [Shell.echo, Shell.printLine, Session.printLine_of_open takes]

theorem out_printElapsed (host : Host World) (start : Nat) (shell : Shell World Store) :
    (printElapsed host start shell).session.out = shell.session.out := by
  have informed (line : String) (session : Session) :
      (session.printInfo line).out = session.out := by
    simp only [Session.printInfo]
    split
    · rfl
    · rfl
  simp only [printElapsed]
  split
  · exact informed _ shell.session
  · rfl

theorem world_printElapsed (host : Host World) (start : Nat) (shell : Shell World Store) :
    (printElapsed host start shell).world = (host.clock shell.world).2 := by
  simp only [printElapsed]
  split
  · rfl
  · rfl

theorem runQuery_open (host : Host World) (engine : Engine Store) (statement : String)
    (sideFile : Option String) (takes : shell.session.out.Open) :
    (runQuery host engine statement sideFile shell).2.session.out.Open := by
  by_cases ok : (engine.start statement shell.store).1.response.isOk = true
  · rw [runQuery_streamed_open sideFile ok takes, out_printElapsed, reportAll_eq]
    exact takes.extend _
  · rw [runQuery_of_refused sideFile ok, started, begun_eq, takes.writeLines]
    exact takes.extend _

end Open

section Stored

variable {shell : Shell World Store} {lines : List String} {world : World}

theorem exists_appended (file : host.SideFile path) (rows : List String)
    (pending : file.Pending lines world) :
    ∃ after, attempt (rows.map (host.appendLine path)) world = (.ok (), after) ∧
      file.Pending (lines ++ rows) after := by
  induction rows generalizing lines world with
  | nil => exact ⟨world, rfl, by rwa [List.append_nil]⟩
  | cons row rest ih =>
      obtain ⟨between, appended, noted⟩ := file.append row pending
      obtain ⟨after, rest_appended, later⟩ := ih noted
      refine ⟨after, ?_, ?_⟩
      · simp only [List.map_cons, attempt, appended, rest_appended]
      · rwa [List.append_assoc, List.singleton_append] at later

theorem stored_copied (file : host.SideFile path) (rows : List String)
    (failure? : Option Failure) (ready : file.Writable world) :
    file.Stored rows (copied host (some path) rows failure? world).world := by
  obtain ⟨created, made, empty⟩ := file.create ready
  obtain ⟨written, appended, pending⟩ := exists_appended file rows empty
  obtain ⟨flushed, brought, stored⟩ := file.flush pending
  have wrote : attempt (writing host path rows) world = (.ok (), written) := by
    simp only [writing, attempt, made, appended]
  simp only [copied, wrote, brought]
  exact stored

/-- A statement that ends with code 0 leaves all its rows in the side file. -/
theorem runQuery_stored (file : host.SideFile path) {statement : String}
    (takes : shell.session.out.Open) (ready : file.Writable shell.world)
    (zero : (runQuery host engine statement (some path) shell).1 = 0) :
    file.Stored (engine.start statement shell.store).1.results.rows
      (runQuery host engine statement (some path) shell).2.world := by
  by_cases ok : (engine.start statement shell.store).1.response.isOk = true
  · rw [runQuery_streamed_open (some path) ok takes, world_printElapsed]
    exact file.stored_clock (stored_copied file _ _ (file.writable_clock ready))
  · rw [runQuery_of_refused (some path) ok] at zero
    exact (ok (decide_eq_true zero)).elim

end Stored

end Local

end QueryShell
