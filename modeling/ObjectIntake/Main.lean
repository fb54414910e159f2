import ObjectIntake.ChangeLog.Lakehouse
import ObjectIntake.Command.Run
import ObjectIntake.Journal.Line

/-!
The command line. A run takes its settings from the environment and from the file `.env`, and sees the files that
its arguments and settings name. The engine has no tables of its own.
-/
namespace ObjectIntake.Main
open Settings

/-- The variables that settings are read from. -/
def variableNames : List String :=
  SourceField.all.map (Text.uppercase ·.variableName) ++ ["METRICS_PORT", "LOG_LEVEL", "CHECKPOINT_FILE"]

def readEnvironment : IO (List (String × String)) := do
  let values ← variableNames.mapM fun name => do return (← IO.getEnv name).map fun value => (name, value)
  return values.filterMap id

/-- The paths that a run may touch. -/
def namedPaths (environment : List (String × String)) (arguments : List String) : List String :=
  [".env", ".s3incr_checkpoint.json"] ++ environment.map (·.2) ++
    arguments.flatMap fun a => [a, String.ofList ((a.toList.dropWhile (· ≠ '=')).drop 1)]

/-- The tree with what is on disk at a path. -/
def addPath (tree : FileTree) (path : String) : IO FileTree := do
  try
    let content ← IO.FS.readBinFile path
    return (tree.plant path content.toList).1
  catch _ => return tree

/-- Writes the files that a run has changed. -/
def writeChanges (old new : FileTree) : IO Unit := do
  for (place, content) in new.files do
    if old.content? place ≠ some content then
      match place with
      | "/" :: names => IO.FS.writeBinFile ("/" ++ "/".intercalate names) ⟨content.toArray⟩
      | names =>
          IO.FS.createDirAll (if names.dropLast.isEmpty then "." else "/".intercalate names.dropLast)
          IO.FS.writeBinFile ("/".intercalate names) ⟨content.toArray⟩

/-- Seconds and microseconds since the start of 1970, as a new file is dated. -/
def clock : IO (Int × Nat) := do
  let (_, path) ← IO.FS.createTempFile
  let moment := (← path.metadata).modified
  IO.FS.removeFile path
  return (moment.sec, moment.nsec.toNat / 1000)

/-- The line of a record that is written at a moment. -/
def recordLine (now : Int × Nat) (r : Record) : String :=
  let entry : Journal.Entry :=
    { channel := r.channel, level := r.level.name, path := none, line := .null, template := r.message
      arguments := [], function := .null, seconds := now.1, millis := now.2 / 1000, error := none
      extra := r.extra }
  match Journal.line entry with
  | .ok line => line
  | .error _ => r.message

def start (arguments : List String) : IO UInt32 := do
  let environment ← readEnvironment
  let tree ← (namedPaths environment arguments).foldlM addPath {}
  let now ← clock
  let context : Command.Context Lakehouse.Engine Lakehouse.Frame Dataset.Table :=
    ⟨Lakehouse.host, { environment := environment, file := tree.content? [".env"] }, Journal.stampText now.1 now.2⟩
  let desk : Command.Desk Lakehouse.Engine := { engine := {}, tree := tree }
  let (result, scene) := (Command.run context arguments).runIn (Scene.start desk)
  IO.print (String.join scene.world.screen)
  for notice in scene.world.notices do IO.eprintln notice
  for r in Command.Desk.logged scene do IO.eprintln (recordLine now r)
  writeChanges tree scene.world.tree
  match result with
  | .ok exit =>
      for line in exit.report do IO.eprintln line
      return exit.code.toUInt32
  | .error failure =>
      IO.eprintln failure.message
      return 1

end ObjectIntake.Main

def main (arguments : List String) : IO UInt32 := ObjectIntake.Main.start arguments
