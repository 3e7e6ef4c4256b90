/-!
The variables of the environment that a program is started in.
-/

namespace QueryShell

abbrev Environment := List (String × String)

namespace Environment

def get? (name : String) (environment : Environment) : Option String :=
  environment.reverse.lookup name

def nonempty? (name : String) (environment : Environment) : Option String :=
  (environment.get? name).filter fun value => !value.isEmpty

end Environment

end QueryShell
