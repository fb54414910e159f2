import ObjectIntake.Failure
import ObjectIntake.Settings.Deployment
import ObjectIntake.Text.Uppercase

/-! The level from which records are written, chosen by name. -/
namespace ObjectIntake.Journal

/-- The number of a named level, in any case; names that are not known mean the level of information. -/
def threshold (name : String) : Except Failure Int :=
  match Text.uppercase name with
  | "CRITICAL" => .ok 50
  | "FATAL" => .ok 50
  | "ERROR" => .ok 40
  | "WARNING" => .ok 30
  | "WARN" => .ok 30
  | "DEBUG" => .ok 10
  | "NOTSET" => .ok 0
  | "BASIC_FORMAT" => .error (.levelNotANumber "%(levelname)s:%(name)s:%(message)s")
  | "_STYLES" => .error .levelNotComparable
  | _ => .ok 20

/-- The level that is asked for; none by an empty name. -/
def asked? : Option String → Option String
  | some name => if name = "" then none else some name
  | none => none

/-- The threshold asked for. Without a name it is the one in the settings. -/
def choose (asked : Option String) (d : Settings.Deployment) : Except Failure Int := do
  match asked? asked with
  | some name => threshold name
  | none => threshold (← Settings.Application.load (← d.surroundings)).logLevel

end ObjectIntake.Journal
