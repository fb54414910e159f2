import ObjectIntake.FileTree
import ObjectIntake.Text.Newline
import ObjectIntake.Work

/-!
The last checkpoint, kept in a JSON file. It is written to a file beside it, which then takes its place, so the
old checkpoint stays until the new one is complete.
-/
namespace ObjectIntake.Checkpoint.Store
open Text

def channel : String := "src.sources.checkpoint_store"

/-- The checkpoint in the text of a file, which may nest values up to `depth`. -/
def checkpointIn (depth : Nat) (path : FilePath) (text : String) : Except Failure Json :=
  match Json.read depth text with
  | .ok (.obj members) => .ok ((Keyed.get? members "checkpoint").getD .null)
  | .ok _ => .error (.configuration (.checkpointNotObject path.text))
  | .error ⟨.integerTooLong digits, _⟩ => .error (.numeralTooLong digits)
  | .error ⟨.nestedTooDeep, _⟩ => .error .nestedTooDeep
  | .error fault => .error (.configuration (.checkpointUnreadable path.text text fault))

/-- The stored checkpoint; null if there is no file. -/
def load (depth : Nat) (t : FileTree) (path : FilePath) : Except Failure Json :=
  match t.find path.steps with
  | .ok (.vacant _ _) => .ok .null
  | .error .notFound => .ok .null
  | .error .notDirectory => .ok .null
  | .error .nullInName => .ok .null
  | .error e => .error (.file e)
  | .ok (.directory _) => .error (.file .isDirectory)
  | .ok (.file _ content) =>
      match Utf8.decode content with
      | some s => checkpointIn depth path (String.ofList (unifyNewlines s))
      | none => .error .notUtf8

/-- The text of the file for a checkpoint that is saved at the time `stamp`. -/
def fileText (checkpoint : Json) (stamp : String) : String :=
  Json.text Json.ascii (.obj [("checkpoint", checkpoint), ("updated_at", .str stamp)])

/-- The steps of saving that may fail whatever the tree holds. -/
inductive Step where
  | create
  | write
  | replace
  deriving DecidableEq

/-- What goes wrong at a step, if anything. -/
abbrev Hazards := Step → Option FileFault

def calm : Hazards := fun _ => none

/-- The name of the temporary file: that of the checkpoint file between dots, and eight characters. -/
def temporaryName (name : String) (n : Nat) : String :=
  let digits := Nat.toDigits 10 n
  "." ++ name ++ "." ++ String.ofList (List.replicate (8 - digits.length) '0' ++ digits)

/-- The first temporary name that is not taken. -/
def freeName (t : FileTree) (directory : Place) (name : String) : (fuel n : Nat) → String
  | 0, n => temporaryName name n
  | fuel + 1, n =>
      let candidate := temporaryName name n
      if (t.content? (directory ++ [candidate])).isSome || t.isDirectory (directory ++ [candidate]) then
        freeName t directory name fuel (n + 1)
      else candidate

/-- An empty temporary file beside the checkpoint file. -/
def createTemporary (t : FileTree) (path : FilePath) : Except FileFault (FileTree × Place) :=
  match t.find path.parentSteps with
  | .ok (.directory directory) =>
      let name := freeName t directory path.name (t.files.length + t.directories.length + 1) 0
      if FileTree.hasNull name then .error .nullInName
      else if !FileTree.fits name then .error .nameTooLong
      else .ok (t.write (directory ++ [name]) [], directory ++ [name])
  | .ok _ => .error .notDirectory
  | .error e => .error e

def attempt {α : Type} (hazards : Hazards) (step : Step) (result : Except FileFault α) :
    Except FileFault α :=
  match hazards step with
  | some e => .error e
  | none => result

/-- Fills the temporary file and puts it in place; if either fails the temporary file is removed. -/
def fillAndReplace (hazards : Hazards) (t : FileTree) (path : FilePath) (temporary : Place)
    (content : List UInt8) : FileTree × Except FileFault Unit :=
  match attempt hazards .write (.ok (t.write temporary content)) with
  | .error e => (t.remove temporary, .error e)
  | .ok t =>
      match attempt hazards .replace (t.replace temporary path.steps) with
      | .error e => (t.remove temporary, .error e)
      | .ok t => (t, .ok ())

def saveIn (hazards : Hazards) (t : FileTree) (path : FilePath) (checkpoint : Json) (stamp : String) :
    FileTree × Except FileFault Unit :=
  match t.ensureDirectory path.parentSteps with
  | (t, .error e) => (t, .error e)
  | (t, .ok _) =>
      match attempt hazards .create (createTemporary t path) with
      | .error e => (t, .error e)
      | .ok (t, temporary) =>
          fillAndReplace hazards t path temporary (Utf8.encode (fileText checkpoint stamp).toList)

/-- The record of a saved checkpoint. -/
def savedRecord (path : FilePath) (checkpoint : Json) : Record where
  channel := channel
  level := .info
  message := "Saved checkpoint " ++ checkpoint.plainText ++ " to " ++ path.text

def save (path : FilePath) (checkpoint : Json) (stamp : String) : Work FileTree Unit := fun scene =>
  let (tree, result) := saveIn calm scene.world path checkpoint stamp
  match result with
  | .ok _ =>
      (.ok (), { scene with
        world := tree
        journal := scene.journal ++ [savedRecord path checkpoint] })
  | .error e => (.error (.file e), { scene with world := tree })

end ObjectIntake.Checkpoint.Store
