import ObjectIntake.Failure
import ObjectIntake.Text.Search

/-! Columns whose value stands in the directory `name=value` of a file's path. -/
namespace ObjectIntake.Dataset
open Text

structure PartitionColumn where
  name : String
  deriving DecidableEq

namespace PartitionColumn

def marker (c : PartitionColumn) : String := c.name ++ "="

/-- The text after the first marker, up to the end of its segment. -/
def value? (c : PartitionColumn) (path : String) : Option String :=
  (after? c.marker.toList path.toList).map fun rest => String.ofList (rest.takeWhile (· ≠ '/'))

/-- The segments of a path that hold the marker. -/
def segments (c : PartitionColumn) (path : String) : List String :=
  (split '/' path).filter fun segment => contains segment c.marker

/-- The column of a batch, told from one of its paths: there, one segment holds the marker. -/
def infer (name path : String) : Except ConfigurationFault (Option PartitionColumn) :=
  let column : PartitionColumn := ⟨name⟩
  match column.segments path with
  | [] => .ok none
  | [_] => .ok (some column)
  | _ => .error (.manyPartitionLevels name path)

end PartitionColumn
end ObjectIntake.Dataset
