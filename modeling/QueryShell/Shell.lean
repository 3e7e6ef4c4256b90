import QueryShell.Backend
import QueryShell.Host
import QueryShell.Session

/-!
A running shell: the session, the state of the machine and the store of the backend.
-/

namespace QueryShell

structure Platform (World Store : Type) where
  host : Host World
  backend : Backend Store

structure Shell (World Store : Type) where
  session : Session
  world : World
  store : Store

namespace Shell

variable {World Store : Type}

def report (failure : Failure) (shell : Shell World Store) : Shell World Store :=
  { shell with session := shell.session.report failure }

def fail (failure : Failure) (shell : Shell World Store) : Int × Shell World Store :=
  (failure.code, shell.report failure)

def printInfo (line : String) (shell : Shell World Store) : Shell World Store :=
  { shell with session := shell.session.printInfo line }

def printLine (line : String) (shell : Shell World Store) :
    Except String Unit × Shell World Store :=
  let (result, session) := shell.session.printLine line
  (result, { shell with session := session })

def echo (line : String) (shell : Shell World Store) : Shell World Store :=
  (shell.printLine line).2

def withWorld {Answer : Type} (action : World → Answer × World) (shell : Shell World Store) :
    Answer × Shell World Store :=
  let (answer, world) := action shell.world
  (answer, { shell with world := world })

def withStore {Answer : Type} (action : Store → Answer × Store) (shell : Shell World Store) :
    Answer × Shell World Store :=
  let (answer, store) := action shell.store
  (answer, { shell with store := store })

end Shell

end QueryShell
