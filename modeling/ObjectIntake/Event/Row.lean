import ObjectIntake.Failure

/-! Event rows of the change log, the cells in them, and the objects that they refer to. -/
namespace ObjectIntake.Event

/-- A cell of a row. -/
inductive Cell where
  | null
  | text (s : String)
  | whole (n : Int)
  | real (x : Float)
  /-- A list or a record, by the name of its kind. -/
  | compound (kind : String)

namespace Cell

def ofJson : Json → Cell
  | .null => null
  | .str s => text s
  | .int n => whole n
  | .bool b => whole (if b then 1 else 0)
  | .float x => real x
  | .arr _ => compound "list"
  | .obj _ => compound "dict"

def ofText : Option String → Cell
  | none => null
  | some s => text s

def isNull : Cell → Bool
  | null => true
  | _ => false

def incomparable (sign kind : String) : Failure :=
  .wrongKind ("'" ++ sign ++ "' not supported between instances of '" ++ kind ++ "' and 'int'")

/-- Whether a number is above `bound`; null is neither above nor not above. -/
def above (bound : Int) : Cell → Except Failure (Option Bool)
  | null => .ok none
  | whole n => .ok (some (bound < n))
  | real x => .ok (some (Float.ofInt bound < x))
  | text _ => .error (incomparable ">" "str")
  | compound kind => .error (incomparable ">" kind)

/-- Whether a number is zero or less. -/
def exhausted : Cell → Except Failure Bool
  | null => .ok true
  | whole n => .ok (n ≤ 0)
  | real x => .ok (x ≤ 0)
  | text _ => .error (incomparable "<=" "str")
  | compound kind => .error (incomparable "<=" kind)

end Cell

structure Row where
  bucket : Option String
  key : Option String
  size : Cell

namespace Row

def bucketColumn : String := "s3.bucket.name"
def keyColumn : String := "s3.object.key"
def sizeColumn : String := "s3.object.size"

/-- The cell of a column by name. -/
def cell? (r : Row) (column : String) : Option Cell :=
  if column = bucketColumn then some (.ofText r.bucket)
  else if column = keyColumn then some (.ofText r.key)
  else if column = sizeColumn then some r.size
  else none

end Row

/-- An object in the object store. -/
structure Reference where
  bucket : String
  key : String
  deriving DecidableEq

namespace Reference

def precedes (a b : Reference) : Bool :=
  a.bucket < b.bucket || (a.bucket = b.bucket && a.key < b.key)

/-- Puts a reference into its place in an ascending list that does not hold it yet. -/
def insert (r : Reference) : List Reference → List Reference
  | [] => [r]
  | s :: rest =>
      if r = s then s :: rest
      else if r.precedes s then r :: s :: rest
      else s :: insert r rest

/-- The distinct references by bucket, then key. -/
def ascending (refs : List Reference) : List Reference := refs.foldr insert []

theorem mem_insert {r s : Reference} {l : List Reference} : s ∈ insert r l ↔ s = r ∨ s ∈ l := by
  induction l with
  | nil => simp [insert]
  | cons t rest ih =>
      rw [insert]
      split
      · next h => subst h; simp
      · split
        · simp
        · simp only [List.mem_cons, ih]
          exact or_left_comm

theorem mem_ascending {s : Reference} {l : List Reference} : s ∈ ascending l ↔ s ∈ l := by
  induction l with
  | nil => simp [ascending]
  | cons t rest ih =>
      simp only [ascending, List.foldr_cons, mem_insert, List.mem_cons] at ih ⊢
      rw [ih]

end Reference
end ObjectIntake.Event
