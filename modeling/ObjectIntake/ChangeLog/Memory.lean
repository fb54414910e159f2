import ObjectIntake.ChangeLog.Platform
import ObjectIntake.Dataset.Table

/-! A change log, a file system and a loader held in memory. -/
namespace ObjectIntake.Memory
open Event ObjectPath Dataset

/-- The rows of each version. Versions below `retainedFrom` are no longer listed, but their rows stay. -/
structure Log where
  commits : List (Int × List Row)
  retainedFrom : Int

namespace Log

def empty : Log := ⟨[], 0⟩

def versions (log : Log) : List Int :=
  Version.ascending ((log.commits.map (·.1)).filter (log.retainedFrom ≤ ·))

/-- Sets the rows of a version; commits stay in the order of their versions. -/
def putInto (version : Int) (rows : List Row) : List (Int × List Row) → List (Int × List Row)
  | [] => [(version, rows)]
  | (v, old) :: rest =>
      if v = version then (version, rows) :: rest
      else if version < v then (version, rows) :: (v, old) :: rest
      else (v, old) :: putInto version rows rest

def put (log : Log) (version : Int) (rows : List Row) : Log :=
  { log with commits := putInto version rows log.commits }

/-- The version after the last one; the first is zero. -/
def next (log : Log) : Int :=
  match (log.commits.map (·.1)).max? with
  | some v => v + 1
  | none => 0

def commit (log : Log) (rows : List Row) : Log := log.put log.next rows

def retain (log : Log) (least : Int) : Log := { log with retainedFrom := least }

/-- The rows of the versions in the range, by version. -/
def rows (log : Log) (range : VersionRange) : List Row :=
  (log.commits.filter fun c => range.holds c.1).flatMap (·.2)

end Log

/-- A probe that knows the paths that exist and those it cannot reach. -/
structure Probe where
  existing : List String
  failing : List String

def Probe.presence (p : Probe) (path : String) : Presence :=
  if p.failing.contains path then .unreachable ("connection reset while probing " ++ path)
  else if p.existing.contains path then .present
  else .absent

structure Site where
  log : Log := Log.empty
  probe : Probe := ⟨[], []⟩
  files : Files := []
  /-- How deep the texts that are read may nest values. -/
  depth : Nat := Json.usualDepth
  /-- What was read, probed and loaded so far. -/
  reads : List (ReadMode × VersionRange) := []
  probed : List String := []
  loaded : List (List String) := []

namespace Site

def noteRead (mode : ReadMode) (range : VersionRange) (s : Site) : Site :=
  { s with reads := s.reads ++ [(mode, range)] }

def noteProbes (paths : List String) (s : Site) : Site := { s with probed := s.probed ++ paths }

def noteLoad (paths : List String) (s : Site) : Site := { s with loaded := s.loaded ++ [paths] }

end Site

def versions (_ : String) : Work Site (List Int) := do
  return (← Work.world).log.versions

def read (mode : ReadMode) (_ : String) (range : VersionRange) : Work Site (List Row) := do
  Work.change (Site.noteRead mode range)
  return (← Work.world).log.rows range

def load (format : String) (options : Keyed Json) (paths : List String) : Work Site Table := do
  Work.change (Site.noteLoad paths)
  return Table.load (← Work.world).files format options paths

def platform : Platform Site (List Row) Table where
  versions := versions
  read := read
  isEmpty := fun rows => return rows.isEmpty
  references := fun predicate rows => Work.ofExcept (predicate.references rows)
  presence := fun site => site.probe.presence
  noteProbes := Site.noteProbes
  depth := Site.depth
  load := load
  derive := fun column table => return table.derive column

end ObjectIntake.Memory
