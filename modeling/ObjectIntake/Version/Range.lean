/-!
Which versions of a change log are read next. A range holds the versions above `lower` up to and including
`upper`.
-/
namespace ObjectIntake

/-- What to read when there is no checkpoint. -/
inductive Strategy where
  | latest
  | uptoLatest
  deriving DecidableEq

namespace Strategy

def name : Strategy → String
  | latest => "READ_LATEST"
  | uptoLatest => "READ_UPTO_LATEST_COMMIT"

def ofName? (s : String) : Option Strategy :=
  if s = latest.name then some latest
  else if s = uptoLatest.name then some uptoLatest
  else none

theorem ofName?_name (s : Strategy) : ofName? s.name = some s := by cases s <;> decide

end Strategy

inductive ReadMode where
  | incremental
  | snapshot
  deriving DecidableEq

def ReadMode.name : ReadMode → String
  | incremental => "incremental"
  | snapshot => "snapshot_with_filter"

structure VersionRange where
  lower : Int
  upper : Int
  deriving DecidableEq

namespace VersionRange

def caughtUp (r : VersionRange) : Bool := r.lower = r.upper

def holds (r : VersionRange) (v : Int) : Bool := r.lower < v && v ≤ r.upper

/-- Below every committed version, so that a range from here on covers the whole table. -/
def origin : Int := -1

end VersionRange

namespace Version

inductive Unresolved where
  | noVersions
  | noStrategy
  deriving DecidableEq

structure Plan where
  mode : ReadMode
  range : VersionRange
  /-- The oldest listed version, if versions before it may be missing from the range. -/
  truncatedAt : Option Int
  deriving DecidableEq

def ascending (versions : List Int) : List Int := versions.mergeSort fun a b => decide (a ≤ b)

/-- The first `count` items; a negative count leaves that many out at the end. -/
def firstItems {α : Type} (count : Int) (l : List α) : List α :=
  if 0 ≤ count then l.take count.toNat else l.take (l.length - count.natAbs)

/-- The end of a range of at most `count` listed versions after `lower`. -/
def upperAfter (listed : List Int) (count lower : Int) : Int :=
  ((firstItems count (listed.filter (lower < ·))).getLast?).getD lower

/-- The range after `lower`; a snapshot is needed if versions in between are no longer listed. -/
def planAfter (listed : List Int) (oldest count lower : Int) : Plan :=
  let range := ⟨lower, upperAfter listed count lower⟩
  if lower < oldest - 1 then ⟨.snapshot, range, some oldest⟩ else ⟨.incremental, range, none⟩

/-- The range without a starting point. -/
def planAfresh (newest : Int) : Strategy → Plan
  | .latest => ⟨.incremental, ⟨newest, newest⟩, none⟩
  | .uptoLatest => ⟨.snapshot, ⟨VersionRange.origin, newest⟩, none⟩

def plan (versions : List Int) (count : Int) (lower : Option Int) (strategy : Option Strategy) :
    Except Unresolved Plan :=
  let listed := ascending versions
  match listed.head?, listed.getLast? with
  | some oldest, some newest =>
      match lower with
      | some lower => .ok (planAfter listed oldest count lower)
      | none =>
          match strategy with
          | some strategy => .ok (planAfresh newest strategy)
          | none => .error .noStrategy
  | _, _ => .error .noVersions

end Version
end ObjectIntake
