import ObjectIntake.Event.Row

/-!
Conditions on columns as an engine evaluates them, in three-valued logic: a condition on a null cell is
neither true nor false.
-/
namespace ObjectIntake.Event

inductive Condition where
  | present (column : String)
  | above (column : String) (bound : Int)
  | startsWith (column text : String)
  | contains (column text : String)
  | endsWith (column text : String)
  | oneOf (column : String) (texts : List String)
  | both (a b : Condition)
  | either (a b : Condition)
  | opposite (a : Condition)

/-- True, false, or none where it is neither. -/
abbrev Truth := Option Bool

namespace Truth

def and : Truth → Truth → Truth
  | some false, _ => some false
  | _, some false => some false
  | some true, b => b
  | a, some true => a
  | none, none => none

def or : Truth → Truth → Truth
  | some true, _ => some true
  | _, some true => some true
  | some false, b => b
  | a, some false => a
  | none, none => none

def not : Truth → Truth := Option.map (!·)

end Truth

namespace Condition

def literal (s : String) : String := Json.stringText Json.unicode s

def call (function column text : String) : String :=
  function ++ "(" ++ column ++ ", " ++ literal text ++ ")"

def text : Condition → String
  | present column => "(" ++ column ++ " IS NOT NULL)"
  | above column bound => "(" ++ column ++ " > " ++ Numeral.text bound ++ ")"
  | startsWith column s => call "startswith" column s
  | contains column s => call "contains" column s
  | endsWith column s => call "endswith" column s
  | oneOf column texts => "(" ++ column ++ " IN [" ++ Text.join ", " (texts.map literal) ++ "])"
  | both a b => "(" ++ a.text ++ " AND " ++ b.text ++ ")"
  | either a b => "(" ++ a.text ++ " OR " ++ b.text ++ ")"
  | opposite a => "(NOT " ++ a.text ++ ")"

/-- The columns that a condition reads. -/
def columns : Condition → List String
  | present column => [column]
  | above column _ => [column]
  | startsWith column _ => [column]
  | contains column _ => [column]
  | endsWith column _ => [column]
  | oneOf column _ => [column]
  | both a b => a.columns ++ b.columns
  | either a b => a.columns ++ b.columns
  | opposite a => a.columns

def onText (cell : Cell) (test : String → Bool) : Except Failure Truth :=
  match cell with
  | .null => .ok none
  | .text s => .ok (some (test s))
  | _ => .error (.wrongKind "")

/-- The value on a row. Both sides of a connective are evaluated. -/
def eval (cell : String → Cell) : Condition → Except Failure Truth
  | present column => .ok (some !(cell column).isNull)
  | above column bound => (cell column).above bound
  | startsWith column s => onText (cell column) (Text.startsWith · s)
  | contains column s => onText (cell column) (Text.contains · s)
  | endsWith column s => onText (cell column) (Text.endsWith · s)
  | oneOf column texts => onText (cell column) texts.contains
  | both a b => do
      let x ← a.eval cell
      let y ← b.eval cell
      return x.and y
  | either a b => do
      let x ← a.eval cell
      let y ← b.eval cell
      return x.or y
  | opposite a => do
      let x ← a.eval cell
      return x.not

end Condition
end ObjectIntake.Event
