import ObjectIntake.Event.Condition
import ObjectIntake.Settings.Source
import ObjectIntake.Text.Search

/-!
Which events count: those with a bucket, a key and a positive size whose key passes the configured filters.
The test is made row by row, or by the engine with the condition that states it.
-/
namespace ObjectIntake.Event

/-- Filters on object keys; one that is absent or empty lets all keys pass. -/
structure Predicate where
  keyStart : Option String := none
  ignoredKeyStart : Option String := none
  ignoredKeyPart : Option String := none
  extensions : List String := []

namespace Predicate

def ofSettings (s : Settings.SourceSettings) : Predicate where
  keyStart := s.keyStart
  ignoredKeyStart := s.ignoredKeyStart
  ignoredKeyPart := s.ignoredKeyPart
  extensions := s.extensions

/-- The text of a filter that is in force. -/
def active : Option String → Option String
  | some s => if s = "" then none else some s
  | none => none

def acceptsStart (p : Predicate) (key : String) : Bool :=
  (active p.keyStart).all fun s => Text.startsWith key s

def avoidsStart (p : Predicate) (key : String) : Bool :=
  (active p.ignoredKeyStart).all fun s => !Text.startsWith key s

def avoidsPart (p : Predicate) (key : String) : Bool :=
  (active p.ignoredKeyPart).all fun s => !Text.contains key s

def acceptsEnd (p : Predicate) (key : String) : Bool :=
  p.extensions.isEmpty || p.extensions.any fun s => Text.endsWith key s

def acceptsKey (p : Predicate) (key : String) : Bool :=
  p.acceptsStart key && p.avoidsStart key && p.avoidsPart key && p.acceptsEnd key

/-- Whether a row passes. The size is looked at only if bucket and key are present. -/
def accepts (p : Predicate) (r : Row) : Except Failure Bool :=
  match r.bucket, r.key with
  | some _, some key => do
      if ← r.size.exhausted then return false else return p.acceptsKey key
  | _, _ => .ok false

/-- The objects of the rows that pass, in row order. -/
def references (p : Predicate) : List Row → Except Failure (List Reference)
  | [] => .ok []
  | r :: rest => do
      let passes ← p.accepts r
      let others ← p.references rest
      match passes, r.bucket, r.key with
      | true, some bucket, some key => return ⟨bucket, key⟩ :: others
      | _, _, _ => return others

/-- One of the extensions, the first ones innermost. -/
def anyExtension : List String → Option Condition
  | [] => none
  | e :: rest =>
      some (rest.foldl (fun c e => .either c (.endsWith Row.keyColumn e)) (.endsWith Row.keyColumn e))

/-- The conditions of the filters in force. -/
def filters (p : Predicate) : List Condition :=
  ((active p.keyStart).map (Condition.startsWith Row.keyColumn)).toList ++
    ((active p.ignoredKeyStart).map fun s => .opposite (.startsWith Row.keyColumn s)).toList ++
    ((active p.ignoredKeyPart).map fun s => .opposite (.contains Row.keyColumn s)).toList ++
    (anyExtension p.extensions).toList

/-- The predicate as a condition for the engine. -/
def condition (p : Predicate) : Condition :=
  p.filters.foldl .both
    (.both (.both (.present Row.bucketColumn) (.present Row.keyColumn)) (.above Row.sizeColumn 0))

def describe (p : Predicate) : String :=
  let clause (words s : String) : String := Row.keyColumn ++ words ++ "'" ++ s ++ "'"
  let clauses :=
    [Row.bucketColumn ++ " is not null", Row.keyColumn ++ " is not null", Row.sizeColumn ++ " > 0"] ++
      ((active p.keyStart).map (clause " starts with ")).toList ++
      ((active p.ignoredKeyStart).map (clause " not starts with ")).toList ++
      ((active p.ignoredKeyPart).map (clause " not contains ")).toList ++
      (if p.extensions.isEmpty then []
        else [Row.keyColumn ++ " ends with " ++
          Text.join " or " (p.extensions.map fun e => "'" ++ e ++ "'")])
  Text.join " and " clauses

end Predicate
end ObjectIntake.Event
