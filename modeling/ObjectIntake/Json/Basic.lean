import ObjectIntake.Keyed

/-! JSON values. Integers and floating point numbers are different values. -/
namespace ObjectIntake

inductive Json where
  | null
  | bool (b : Bool)
  | int (n : Int)
  | float (x : Float)
  | str (s : String)
  | arr (items : List Json)
  | obj (members : List (String × Json))
  deriving Inhabited

namespace Json

def isNull : Json → Bool
  | .null => true
  | _ => false

/-- The text of a string; none for any other value. -/
def str? : Json → Option String
  | .str s => some s
  | _ => none

def bool? : Json → Option Bool
  | .bool b => some b
  | _ => none

def int? : Json → Option Int
  | .int n => some n
  | _ => none

def arr? : Json → Option (List Json)
  | .arr items => some items
  | _ => none

def obj? : Json → Option (Keyed Json)
  | .obj members => some members
  | _ => none

/-- Whether a value counts as one: it is not null, false, zero or empty. -/
def isTruthy : Json → Bool
  | .null => false
  | .bool b => b
  | .int n => n ≠ 0
  | .float x => x != 0.0
  | .str s => s ≠ ""
  | .arr items => !items.isEmpty
  | .obj members => !members.isEmpty

/-- The member `key`, null if there is none. -/
def get (j : Json) (key : String) : Json :=
  match j with
  | .obj members => (Keyed.get? members key).getD .null
  | _ => .null

def ofOption : Option String → Json
  | none => .null
  | some s => .str s

end Json
end ObjectIntake
