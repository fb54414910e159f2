import ObjectIntake.Event.Condition

/-! Frames: rows of a table as an engine loads and filters them. -/
namespace ObjectIntake.Lakehouse
open Event

/-- A row with the version that wrote it and the kind of change it was. -/
structure Change where
  version : Int
  row : Row
  kind : String

structure Frame where
  changes : List Change
  /-- The column that holds the version of each row, if the frame has one. -/
  commitColumn : Option String
  /-- The frame has a column for the kind of change. -/
  feed : Bool

namespace Frame

def kindColumn : String := "_change_type"

def cell? (f : Frame) (c : Change) (column : String) : Option Cell :=
  if f.commitColumn = some column then some (.whole c.version)
  else if f.feed && column = kindColumn then some (.text c.kind)
  else c.row.cell? column

def hasColumn (f : Frame) (column : String) : Bool :=
  (f.cell? ⟨0, ⟨none, none, .null⟩, ""⟩ column).isSome

def keep (f : Frame) (condition : Condition) : List Change → Except Failure (List Change)
  | [] => .ok []
  | c :: rest => do
      let truth ← condition.eval (fun column => (f.cell? c column).getD .null)
      let kept ← f.keep condition rest
      return if truth = some true then c :: kept else kept

/-- The rows on which a condition is true. All its columns have to be there. -/
def filter (f : Frame) (condition : Condition) : Except Failure Frame :=
  match condition.columns.find? fun column => !f.hasColumn column with
  | some column => .error (.engine ("cannot resolve " ++ column))
  | none => do return { f with changes := ← f.keep condition f.changes }

/-- The text of a cell that holds a text or a version. -/
def text? (f : Frame) (c : Change) (column : String) : Option String :=
  match f.cell? c column with
  | some (.text s) => some s
  | some (.whole n) => some (Numeral.text n)
  | _ => none

/-- The objects that the rows refer to, each once. -/
def references (f : Frame) : List Reference :=
  (f.changes.filterMap fun c =>
    match f.text? c Row.bucketColumn, f.text? c Row.keyColumn with
    | some bucket, some key => some ⟨bucket, key⟩
    | _, _ => none).eraseDups

end Frame
end ObjectIntake.Lakehouse
