/-!
# Environment variables

The variables of the surroundings a command runs in, each name once.
-/

namespace PageInjection

/-- Variables and their values. -/
structure Environment where
  entries : List (String × String) := []
deriving DecidableEq, Repr

namespace Environment

def get? (environment : Environment) (name : String) : Option String :=
  environment.entries.lookup name

/-- The value of a variable that is set to something. -/
def filled? (environment : Environment) (name : String) : Option String :=
  (environment.get? name).filter (!·.isEmpty)

def set (environment : Environment) (name value : String) : Environment :=
  ⟨environment.entries.filter (·.1 != name) ++ [(name, value)]⟩

def unset (environment : Environment) (name : String) : Environment :=
  ⟨environment.entries.filter (·.1 != name)⟩

/-- Variables from texts in which an equals sign stands between name and value. -/
def ofEntries (entries : List (List Char)) : Environment :=
  entries.foldl
    (fun environment entry =>
      match entry.span (· != '=') with
      | (name, _ :: value) => environment.set (String.ofList name) (String.ofList value)
      | (_, []) => environment)
    {}

end Environment

end PageInjection
