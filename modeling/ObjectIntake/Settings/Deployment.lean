import ObjectIntake.Settings.Application
import ObjectIntake.Settings.Session
import ObjectIntake.Text.Utf8

/-!
Where a program runs: an environment, and the bytes of a file of assignments. The file is read each time that
settings are built.
-/
namespace ObjectIntake.Settings
open Text

structure Deployment where
  environment : List (String × String)
  /-- The bytes of the file of assignments, if there is one. -/
  file : Option (List UInt8)
  /-- How deep the texts of groups of settings may nest values. -/
  depth : Nat := Json.usualDepth

/-- What is said there. The file has to be a text, whatever is looked for in it. -/
def Deployment.surroundings (d : Deployment) : Except Failure Surroundings :=
  match d.file with
  | none => .ok ⟨d.environment, none, d.depth⟩
  | some bytes =>
      match Utf8.decode bytes with
      | some text => .ok ⟨d.environment, some (String.ofList text), d.depth⟩
      | none => .error .notUtf8

namespace SourceSettings

/-- Settings from fields by name. -/
def fromFields (fields : Keyed Json) (d : Deployment) : Except Failure SourceSettings := do
  match ofFields fields (← d.surroundings) with
  | .ok s => return s
  | .error issues => throw (.invalidSettings issues)

/-- An unknown key is found out before the file is read. -/
def checkKeys (properties : Keyed Json) : Except Failure Unit :=
  match fieldsOf [] properties with
  | .ok _ => .ok ()
  | .error e => .error (.configuration e)

/-- Settings from dotted keys. -/
def fromProperties (properties : Keyed Json) (d : Deployment) : Except Failure SourceSettings := do
  checkKeys properties
  match ofProperties properties (← d.surroundings) with
  | .ok s => return s
  | .error e => throw (.configuration e)

end SourceSettings

def SessionSettings.fromFields (fields : Keyed Json) (d : Deployment) : Except Failure SessionSettings := do
  match build fields (← d.surroundings) with
  | .ok s => return s
  | .error issues => throw (.invalidSettings issues)

end ObjectIntake.Settings
