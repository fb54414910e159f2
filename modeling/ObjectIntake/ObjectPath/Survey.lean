import ObjectIntake.Journal
import ObjectIntake.ObjectPath.Form
import ObjectIntake.Text.Lowercase

/-!
From references to paths that can be loaded. The references are cut into contiguous parts, one for each
worker, and what the workers find is put together in the order of the parts.
-/
namespace ObjectIntake.ObjectPath
open Event

/-- What a probe says about a path. -/
inductive Presence where
  | present
  | absent
  | unreachable (reason : String)
  deriving DecidableEq

/-- How many references were dropped, by reason. -/
structure Dropped where
  undecodable : Nat := 0
  unreachable : Nat := 0
  missing : Nat := 0
  deriving DecidableEq

namespace Dropped

def add (a b : Dropped) : Dropped :=
  ⟨a.undecodable + b.undecodable, a.unreachable + b.unreachable, a.missing + b.missing⟩

def total (d : Dropped) : Nat := d.undecodable + d.unreachable + d.missing

/-- The counts by the name of the reason, without zeros. -/
def counts (d : Dropped) : List (String × Nat) :=
  [("decode_failed", d.undecodable), ("probe_failed", d.unreachable), ("not_found", d.missing)].filter
    (·.2 ≠ 0)

end Dropped

/-- What became of references: the paths kept, the drops, the paths probed and the records written. -/
structure Survey where
  paths : List String := []
  dropped : Dropped := {}
  probed : List String := []
  records : List Record := []

namespace Survey

def append (a b : Survey) : Survey :=
  ⟨a.paths ++ b.paths, a.dropped.add b.dropped, a.probed ++ b.probed, a.records ++ b.records⟩

end Survey

structure Surveyor where
  scheme : String
  /-- The probe, if paths are kept only where it finds them. -/
  checks : Bool
  workers : Int
  channel : String

namespace Surveyor

/-- A surveyor with the scheme in lower case. It can only check paths with a probe. -/
def make (scheme : String) (checks hasProbe : Bool) (workers : Int) (channel : String) :
    Except Failure Surveyor :=
  if checks && !hasProbe then .error (.configuration .noProbe)
  else .ok ⟨Text.lowercase scheme, checks, workers, channel⟩

def undecodable (s : Surveyor) (raw : String) (failure : Failure) : Survey where
  dropped := { undecodable := 1 }
  records :=
    [{ channel := s.channel, level := .warning, byWorker := true,
       message := "Failed to add cloud file: Failed to decode " ++ raw ++ ": " ++ failure.message }]

def unreachable (s : Surveyor) (path reason : String) : Survey where
  dropped := { unreachable := 1 }
  probed := [path]
  records :=
    [{ channel := s.channel, level := .error, byWorker := true,
       message := "Error while checking path exists for " ++ path ++ ": " ++ reason }]

/-- What becomes of one reference. -/
def inspect (s : Surveyor) (probe : String → Presence) (r : Reference) : Survey :=
  match decode (build s.scheme r) with
  | .error e => s.undecodable (build s.scheme r) e
  | .ok path =>
      if s.checks then
        match probe path with
        | .present => { paths := [path], probed := [path] }
        | .absent => { dropped := { missing := 1 }, probed := [path] }
        | .unreachable reason => s.unreachable path reason
      else { paths := [path] }

def inspectAll (s : Surveyor) (probe : String → Presence) (refs : List Reference) : Survey :=
  refs.foldr (fun r found => (s.inspect probe r).append found) {}

end Surveyor

/-- Cuts a list into pieces of the given sizes. -/
def cut {α : Type} : List Nat → List α → List (List α)
  | [], _ => []
  | n :: sizes, l => l.take n :: cut sizes (l.drop n)

/-- The sizes of `parts` parts of `total` items, the larger ones first. -/
def partSizes (total parts : Nat) : List Nat :=
  (List.range parts).map fun i => total / parts + if i < total % parts then 1 else 0

/-- One part for each worker, and none empty. -/
def parts {α : Type} (workers : Int) (l : List α) : List (List α) :=
  cut (partSizes l.length (min (max 1 workers).toNat l.length)) l

namespace Surveyor

/-- The survey of all references, each part by a worker of its own. -/
def survey (s : Surveyor) (probe : String → Presence) (refs : List Reference) : Survey :=
  if refs.isEmpty then {}
  else
    let found := ((parts s.workers refs).map (s.inspectAll probe)).foldr Survey.append {}
    let summary : Record :=
      { channel := s.channel, level := .info,
        message := "Materialized " ++ toString found.paths.length ++ " of " ++ toString refs.length ++
          " paths (existence check " ++ (if s.checks then "on" else "off") ++ ")" }
    { found with records := found.records ++ [summary] }

end Surveyor
end ObjectIntake.ObjectPath
