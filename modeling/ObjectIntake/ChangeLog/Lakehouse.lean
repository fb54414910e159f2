import ObjectIntake.ChangeLog.Frame
import ObjectIntake.ChangeLog.Platform
import ObjectIntake.Dataset.Table

/-!
A change log kept as a versioned table of an engine. New versions are read from its change feed, and older
states as a snapshot. Every call on the engine is noted.
-/
namespace ObjectIntake.Lakehouse
open Event ObjectPath Dataset

inductive Call where
  | openSession
  | stop
  | format (name : String)
  | option (key : String) (value : Json)
  | options (given : Keyed Json)
  | loadTable (path : String)
  | loadFiles (paths : List String)
  | filter (condition : String)
  | select (columns : List String)
  | selectAs (columns : List (String × String))
  | distinct
  | collect
  | isEmpty
  | count
  | withColumn (name value : String)
  | display (rows : Int) (truncate : Bool)
  | forPath (path : String)
  | history

/-- An entry of a table's history, as the engine gives it. -/
structure HistoryEntry where
  version : Int
  timestamp : String
  operation : String
  metrics : Option (Keyed String)

/-- A table: what reading its history gives, newest first, or why that fails, and all changes ever written. -/
structure LakeTable where
  history : Except String (List HistoryEntry)
  changes : List Change
  commitColumn : Option String

/-- A table that has been opened. It stays so, whatever becomes of the path by which it was found. -/
structure Handle where
  location : String
  deriving DecidableEq

/-- The tables of an engine as they are at a moment. -/
structure Catalog where
  tables : Keyed LakeTable := []
  /-- The paths at which no table can be opened, though there may be one, and why. -/
  refused : Keyed String := []

structure Engine extends Catalog where
  files : Files := []
  existing : List String := []
  failing : List String := []
  /-- The change logs that were asked for, and the tables that they hold. -/
  tracked : List String := []
  found : List Handle := []
  /-- How deep the texts that are read may nest values. -/
  depth : Nat := Json.usualDepth
  calls : List Call := []
  probed : List String := []

/-- A version of a table. -/
structure VersionInfo where
  version : Int
  timestamp : String
  operation : String
  metrics : Keyed String

def trackerChannel : String := "src.sources.changelog.version_tracker"
def tableChannel : String := "src.sources.changelog.delta_changelog"

def call (c : Call) : Work Engine Unit := Work.change fun e => { e with calls := e.calls ++ [c] }

def callAll (cs : List Call) : Work Engine Unit := Work.change fun e => { e with calls := e.calls ++ cs }

def announceTracker (path : String) : Work Engine Unit :=
  Work.log trackerChannel .info ("Initialized VersionTracker for " ++ path)

/-- What the engine says of a path or a table that is not one. -/
def notATable (path : String) : String := path ++ " is not a Delta table"

/-- The table at a path, if the engine opens it. -/
def Catalog.opened (catalog : Catalog) (path : String) : Except String Handle :=
  match catalog.refused.get? path with
  | some reason => .error reason
  | none => if (catalog.tables.get? path).isSome then .ok ⟨path⟩ else .error (notATable path)

/-- The history of an open table as it is now, or why it cannot be read. -/
def Catalog.historyNow (catalog : Catalog) (handle : Handle) : Except String (List HistoryEntry) :=
  match catalog.tables.get? handle.location with
  | some table => table.history
  | none => .error (notATable handle.location)

def findTable (path : String) : Work Engine Handle := do
  call (.forPath path)
  match (← Work.world).opened path with
  | .ok handle => return handle
  | .error reason => throw (.resolution (.tableUnreadable path reason))

def HistoryEntry.info (entry : HistoryEntry) : VersionInfo :=
  ⟨entry.version, entry.timestamp, entry.operation, entry.metrics.getD []⟩

/-- The history of a table, as it is listed. -/
def historyOf (handle : Handle) : Work Engine (List VersionInfo) := do
  call .history
  match (← Work.world).historyNow handle with
  | .ok entries =>
      callAll [.select ["version", "timestamp", "operation", "operationMetrics"], .collect]
      return entries.map HistoryEntry.info
  | .error reason => throw (.engine reason)

/-- The history of the table at a path that is looked at for the first time. -/
def history (path : String) : Work Engine (List VersionInfo) := do
  announceTracker path
  historyOf (← findTable path)

/-- The table that a change log holds. It is looked up until it has been found once, and held from then on. -/
def heldTable (path : String) : Work Engine Handle := do
  match (← Work.world).found.find? fun handle => handle.location = path with
  | some handle => return handle
  | none =>
      let handle ← findTable path
      Work.change fun e => { e with found := handle :: e.found }
      return handle

/-- The table of a change log, which is announced when it is first asked for. -/
def trackedTable (path : String) : Work Engine Handle := do
  if !(← Work.world).tracked.contains path then
    announceTracker path
    Work.change fun e => { e with tracked := path :: e.tracked }
  heldTable path

def versions (path : String) : Work Engine (List Int) := do
  let infos ← historyOf (← trackedTable path)
  return Version.ascending (infos.map (·.version))

def loadTable (path : String) : Work Engine LakeTable := do
  call (.loadTable path)
  match (← Work.world).tables.get? path with
  | some table => return table
  | none => throw .noSuchTable

/-- The kinds of change that leave a row in its current state. -/
def currentKinds : List String := ["insert", "update_postimage"]

def filter (f : Frame) (condition : Condition) : Work Engine Frame := do
  call (.filter condition.text)
  Work.ofExcept (f.filter condition)

/-- The changes of the versions from `first` to `last`. -/
def LakeTable.feed (t : LakeTable) (first last : Int) : Frame :=
  ⟨t.changes.filter fun c => first ≤ c.version && c.version ≤ last, none, true⟩

/-- The rows of all versions up to `last`. -/
def LakeTable.snapshot (t : LakeTable) (last : Int) : Frame :=
  ⟨t.changes.filter fun c => c.version ≤ last && currentKinds.contains c.kind, t.commitColumn, false⟩

def readFeed (path : String) (range : VersionRange) : Work Engine Frame := do
  Work.tell tableChannel .info do
    return "Reading change feed of " ++ path ++ " for versions " ++ (← range.written)
  callAll [.format "delta", .option "readChangeFeed" (.str "true"),
    .option "startingVersion" (.int (range.lower + 1)), .option "endingVersion" (.int range.upper)]
  let table ← loadTable path
  filter (table.feed (range.lower + 1) range.upper) (.oneOf Frame.kindColumn currentKinds)

/-- The snapshot at the end of a range, without the rows up to its beginning. -/
def readSnapshot (commitColumn path : String) (range : VersionRange) : Work Engine Frame := do
  Work.tell tableChannel .info do
    return "Reading snapshot of " ++ path ++ " at version " ++ (← Numeral.written range.upper) ++
      " with commit > " ++ (← Numeral.written range.lower)
  callAll [.format "delta", .option "versionAsOf" (.int range.upper)]
  let table ← loadTable path
  let frame := table.snapshot range.upper
  if range.lower = VersionRange.origin then return frame
  tryCatch (filter frame (.above commitColumn range.lower)) fun e =>
    throw (.resolution (.snapshotUnfiltered path commitColumn e.message))

def read (commitColumn : String) (mode : ReadMode) (path : String) (range : VersionRange) :
    Work Engine Frame :=
  match mode with
  | .incremental => readFeed path range
  | .snapshot => readSnapshot commitColumn path range

def isEmpty (f : Frame) : Work Engine Bool := do
  call .isEmpty
  return f.changes.isEmpty

def count (f : Frame) : Work Engine Nat := do
  call .count
  return f.changes.length

def references (predicate : Predicate) (f : Frame) : Work Engine (List Reference) := do
  let kept ← filter f predicate.condition
  callAll [.selectAs [(Row.bucketColumn, "bucket_name"), (Row.keyColumn, "object_key")],
    .distinct, .collect]
  return kept.references

def Engine.presence (e : Engine) (path : String) : Presence :=
  if e.failing.contains path then
    .unreachable ("Failed to check existence of " ++ path ++ ": java.io.IOException: reset")
  else if e.existing.contains path then .present
  else .absent

/-- The name by which a reader refers to itself, which no option can have. -/
def selfOption : String := "self"

def load (format : String) (options : Keyed Json) (paths : List String) : Work Engine Table := do
  call (.format format)
  if (options.get? selfOption).isSome then throw .reservedOption
  if !options.isEmpty then call (.options options)
  call (.loadFiles paths)
  return Table.load (← Work.world).files format options paths

def derive (column : PartitionColumn) (table : Table) : Work Engine Table := do
  call (.withColumn column.name "udf[StringType](input_file_name())")
  return table.derive column

def countRows (table : Table) : Work Engine Nat := do
  call .count
  return table.count

def display (_ : Table) (rows : Int) : Work Engine Unit := call (.display rows false)

/-- Adds an entry to the front of a table's history, with the changes that it stands for. -/
def Engine.write (e : Engine) (path : String) (entry : HistoryEntry) (changes : List Change) : Engine :=
  let table := (e.tables.get? path).getD ⟨.ok [], [], none⟩
  let table := { table with history := table.history.map (entry :: ·), changes := table.changes ++ changes }
  { e with tables := e.tables.put path table }

def platform (commitColumn : String) : Platform Engine Frame Table where
  versions := versions
  read := read commitColumn
  isEmpty := isEmpty
  references := references
  presence := Engine.presence
  noteProbes := fun paths e => { e with probed := e.probed ++ paths }
  depth := Engine.depth
  load := load
  derive := derive

def host : Host Engine Frame Table where
  platform := platform
  openSession := call .openSession
  closeSession := call .stop
  countRows := countRows
  display := display

end ObjectIntake.Lakehouse
