import ObjectIntake.Json.Reader
import ObjectIntake.Settings.DotEnv
import ObjectIntake.Text.Lowercase

/-! Where settings that are not given come from: the environment, and a file of assignments. -/
namespace ObjectIntake

/-- The value of the first key that is `key` in lower case. -/
def Keyed.getFolded? {α : Type} (m : Keyed α) (key : String) : Option α :=
  (m.find? fun (k, _) => Text.lowercase k = key).map (·.2)

namespace Settings

/-- What the environment and the file of assignments say. -/
structure Surroundings where
  environment : List (String × String)
  file : Option String
  /-- How deep the texts of groups of settings may nest values. -/
  depth : Nat := Json.usualDepth

namespace Surroundings

/-- The value of the last variable with this name in lower case. -/
def pick (given : List (String × Option String)) (name : String) : Option String :=
  ((given.reverse.find? fun (k, _) => Text.lowercase k = name).map (·.2)).join

def inEnvironment (s : Surroundings) (name : String) : Option String :=
  pick (s.environment.map fun (k, v) => (k, some v)) name

def inFile (s : Surroundings) (name : String) : Option String :=
  match s.file with
  | none => none
  | some text => pick (DotEnv.assigned s.environment text) name

/-- The environment goes before the file. -/
def value? (s : Surroundings) (name : String) : Option String :=
  match s.inEnvironment name with
  | some v => some v
  | none => s.inFile name

end Surroundings
end Settings
end ObjectIntake
