import ObjectIntake.ChangeLog.Platform
import ObjectIntake.Command.Options
import ObjectIntake.Command.Verb
import ObjectIntake.Console.Grid
import ObjectIntake.FileTree

/-! What the commands work on: an engine, a tree of files, a screen and the metrics servers that were started. -/
namespace ObjectIntake.Command
open Settings

structure Desk (W : Type) where
  engine : W
  tree : FileTree
  /-- The texts printed so far. -/
  screen : List String := []
  /-- The ports of the servers. -/
  servers : List Int := []
  /-- The rank from which records are logged, once it is chosen. -/
  threshold : Option Int := none
  /-- Warnings from before, which are told as they are. -/
  notices : List String := []
  /-- The settings of the application, once they have been read. -/
  application : Option Application := none

/-- How a run ends: its code, and the lines written about it. -/
structure Exit where
  code : Nat
  report : List String
  deriving DecidableEq, Repr

namespace Exit

def done : Exit := ⟨0, []⟩

def aborted : Exit := ⟨1, ["Aborted!"]⟩

def misused (scope : Scope) (misuse : Misuse) : Exit := ⟨2, scope.report misuse⟩

end Exit

namespace Desk

variable {W Rows Data α : Type}

def onEngine (work : Work W α) : Work (Desk W) α :=
  Work.within Desk.engine (fun engine d => { d with engine := engine }) work

def onTree (work : Work FileTree α) : Work (Desk W) α :=
  Work.within Desk.tree (fun tree d => { d with tree := tree }) work

def print (text : String) : Work (Desk W) Unit :=
  Work.change fun d => { d with screen := d.screen ++ [text] }

def printLines (lines : List String) : Work (Desk W) Unit := print (String.join (lines.map (· ++ "\n")))

/-- Prints a text with markup. -/
def say (text : String) : Work (Desk W) Unit := do print (← Work.ofExcept (Console.printed text))

def draw (grid : Console.Grid) : Work (Desk W) Unit := do print (← Work.ofExcept grid.text)

def serve (port : Int) : Work (Desk W) Unit :=
  Work.change fun d => { d with servers := d.servers ++ [port] }

/-- Work in a session, which is closed in any case. -/
def inSession (host : Host W Rows Data) (work : Work (Desk W) α) : Work (Desk W) α := do
  onEngine host.openSession
  Work.closing work (onEngine host.closeSession)

/-- The channel of the reader of files of assignments. -/
def fileChannel : String := "dotenv.main"

def warn (message : String) : Work (Desk W) Unit := do
  match (← Work.world).threshold with
  | none => Work.change fun d => { d with notices := d.notices ++ [message] }
  | some _ => Work.log fileChannel .warning message

/-- Warns of each statement in the file of assignments that cannot be read, each time the file is read. -/
def noteReadings (around : Surroundings) (times : Nat) : Work (Desk W) Unit := do
  let lines := (around.file.map DotEnv.unreadableLines).getD []
  for _ in List.range times do
    for line in lines do
      warn ("python-dotenv could not parse statement starting at line " ++ toString line)

/-- The settings of the application, which are read until that has succeeded once. -/
def settings (d : Deployment) : Work (Desk W) Application := do
  match (← Work.world).application with
  | some application => return application
  | none =>
      let around ← Work.ofExcept d.surroundings
      noteReadings around (Application.readings around)
      let application ← Work.ofExcept (Application.load around)
      Work.change fun d => { d with application := some application }
      return application

/-- The settings of the source that the options give. -/
def sourceSettings (items : List String) (d : Deployment) : Work (Desk W) SourceSettings := do
  let given ← Work.ofExcept (properties [] items)
  if given.isEmpty then return (← settings d).source
  Work.ofExcept (SourceSettings.checkKeys (given.map fun (k, v) => (k, .str v)))
  let around ← Work.ofExcept d.surroundings
  noteReadings around 1
  Work.ofExcept (Command.sourceSettings items around)

/-- The records that are logged. -/
def logged (scene : Scene (Desk W)) : List Record :=
  scene.journal.filter fun r => scene.world.threshold.all (· ≤ r.level.rank)

end Desk
end ObjectIntake.Command
