import ObjectIntake.Checkpoint.Store
import ObjectIntake.Command.Desk
import ObjectIntake.Command.Options
import ObjectIntake.Fetch

/-! What the commands do. -/
namespace ObjectIntake.Command
open Settings

variable {W Rows Data : Type}

/-- What a command depends on beside its options. -/
structure Context (W Rows Data : Type) where
  host : Host W Rows Data
  place : Deployment
  /-- The time that is noted in a saved checkpoint. -/
  stamp : String

structure FetchOptions where
  conf : List String := []
  checkpoint : Option String := none
  checkpointFile : Option String := none
  limit : Int := 0
  save : Bool := true
  shownRows : Int := 0
  serveMetrics : Bool := false
  deriving DecidableEq, Repr

structure ResolveOptions where
  conf : List String := []
  checkpoint : Option String := none
  checkpointFile : Option String := none
  deriving DecidableEq, Repr

/-- Reported failures end a command with a message, and malformed properties as a misuse. Others stay failures. -/
def reporting (v : Verb) (what : String) (work : Work (Desk W) Unit) : Work (Desk W) Exit :=
  tryCatch (do work; return .done) fun failure =>
    match failure with
    | .malformedOption _ => return .misused (.verb v) (.malformed failure.message)
    | failure =>
        if failure.isReported then do
          Desk.say ("[red]✗ " ++ what ++ ": " ++ failure.message ++ "[/red]")
          return .aborted
        else throw failure

/-- The checkpoint file that is given, or else the one in the settings. -/
def storePath (d : Deployment) (given : Option String) : Work (Desk W) FilePath := do
  match given with
  | some path => if path = "" then ofSettings else return FilePath.ofText path
  | none => ofSettings
where
  ofSettings : Work (Desk W) FilePath := do
    return FilePath.ofText (← Desk.settings d).checkpointFile

/-- The checkpoint that is given, or else the stored one. -/
def startingPoint (depth : Nat) (path : FilePath) (given : Option String) : Work (Desk W) Json := do
  match given with
  | some checkpoint => return .str checkpoint
  | none => Work.ofExcept (Checkpoint.Store.load depth (← Work.world).tree path)

def sourceChannel : String := "src.sources.s3events.source"

def buildSource (host : Host W Rows Data) (s : SourceSettings) (metered : Bool) :
    Work (Desk W) (Source W Rows Data) :=
  Work.ofExcept (Source.build (host.platform s.commitColumn) s.checkExistence s.live sourceChannel metered)

def valueText : Json → String
  | .null => "-"
  | j => j.plainText

def configGrid (s : SourceSettings) : Console.Grid where
  heads := ["Property", "Value"]
  rows := s.toProperties.map fun (key, j) => [key, valueText j]

def config (context : Context W Rows Data) (conf : List String) : Work (Desk W) Exit :=
  reporting .config "Invalid configuration" do
    let s ← Desk.sourceSettings conf context.place
    Desk.draw (configGrid s)

/-- A checkpoint in a grid. Only texts can be displayed. -/
def checkpointCell : Json → Except Failure String
  | .null => .ok "-"
  | .str s => .ok s
  | _ => .error .notDisplayable

def fetchGrid (previous next : String) (rows : Nat) : Console.Grid where
  heads := ["Previous checkpoint", "New checkpoint", "Rows loaded"]
  rows := [[previous, next, toString rows]]

/-- Fetches a batch and shows it. -/
def fetchBatch (context : Context W Rows Data) (o : FetchOptions) (s : SourceSettings) (last : Json) :
    Work (Desk W) (Batch Data) := do
  let application ← Desk.settings context.place
  if o.serveMetrics then Desk.serve (application.exporterPort none)
  let source ← buildSource context.host s true
  let batch ← Desk.onEngine (source.fetch s.live last (.int o.limit))
  let rows ←
    match batch.data with
    | some data => Desk.onEngine (context.host.countRows data)
    | none => pure 0
  let previous ← Work.ofExcept (checkpointCell last)
  Desk.draw (fetchGrid previous batch.token rows)
  match batch.data with
  | some data => if 0 < o.shownRows then Desk.onEngine (context.host.display data o.shownRows)
  | none => pure ()
  return batch

/-- Saves the checkpoint of a batch that is complete. -/
def saveToken (context : Context W Rows Data) (path : FilePath) (token : String) : Work (Desk W) Unit := do
  Desk.onTree (Checkpoint.Store.save path (.str token) context.stamp)
  Desk.say ("[green]✓ Checkpoint " ++ token ++ " saved to " ++ path.text ++ "[/green]")

def fetch (context : Context W Rows Data) (o : FetchOptions) : Work (Desk W) Exit := do
  let path ← storePath context.place o.checkpointFile
  reporting .fetch "Fetch failed" do
    let last ← startingPoint context.place.depth path o.checkpoint
    Desk.say ("\n[bold blue]Fetching batch after checkpoint " ++ last.literal ++ "[/bold blue]\n")
    let s ← Desk.sourceSettings o.conf context.place
    Desk.inSession context.host do
      let batch ← fetchBatch context o s last
      if o.save then saveToken context path batch.token

def resolveGrid (last : Json) (r : Checkpoint.Resolved) : Console.Grid where
  heads := ["Field", "Value"]
  rows :=
    [["Last checkpoint", match last with | .null => "-" | j => j.literal],
      ["Read mode", r.mode.name],
      ["Begin version (exclusive)", Numeral.text r.range.lower],
      ["End version (inclusive)", Numeral.text r.range.upper],
      ["Caught up", if r.range.caughtUp then "[yellow]yes[/yellow]" else "[green]no[/green]"]]

def resolve (context : Context W Rows Data) (o : ResolveOptions) : Work (Desk W) Exit := do
  let path ← storePath context.place o.checkpointFile
  reporting .resolve "Failed to resolve checkpoint" do
    let last ← startingPoint context.place.depth path o.checkpoint
    let s ← Desk.sourceSettings o.conf context.place
    let resolved ← Desk.inSession context.host do
      let source ← buildSource context.host s false
      Desk.onEngine (source.resolve s.live last)
    Desk.draw (resolveGrid last resolved)

end ObjectIntake.Command
