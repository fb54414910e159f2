import ObjectIntake.Dataset.Partition

/-! Loaded rows, each with the file that it comes from. -/
namespace ObjectIntake.Dataset

/-- The rows in each file. A file that is not listed holds one row, which names its path. -/
abbrev Files := Keyed (List (Keyed Json))

def rowsOf (files : Files) (path : String) : List (Keyed Json) :=
  (files.get? path).getD [[("path", .str path)]]

structure Table where
  format : String
  options : Keyed Json
  /-- Rows with the path of their file. -/
  rows : List (String × Keyed Json)

namespace Table

def load (files : Files) (format : String) (options : Keyed Json) (paths : List String) : Table :=
  ⟨format, options, paths.flatMap fun path => (rowsOf files path).map fun row => (path, row)⟩

/-- Each row with the column's value for its own file. -/
def derive (column : PartitionColumn) (t : Table) : Table :=
  { t with rows := t.rows.map fun (path, row) =>
      (path, row.put column.name (.ofOption (column.value? path))) }

def count (t : Table) : Nat := t.rows.length

end Table
end ObjectIntake.Dataset
