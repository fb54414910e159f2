import ObjectIntake.Failure
import ObjectIntake.Journal.Moment

/-! One line of JSON for a log record. -/
namespace ObjectIntake.Journal
open Text

/-- A record as it reaches the formatter. -/
structure Entry where
  channel : String
  /-- The name of its level. -/
  level : String
  path : Option String
  line : Json
  template : String
  arguments : List Json
  function : Json
  seconds : Int
  millis : Int
  /-- The error that the record reports, as it is written out. -/
  error : Option String
  extra : Keyed Json

def rankNames : List (Int × String) :=
  [(0, "NOTSET"), (10, "DEBUG"), (20, "INFO"), (30, "WARNING"), (40, "ERROR"), (50, "CRITICAL")]

/-- The integer that a rank equals, if there is one. -/
def rankNumber? : Json → Option Int
  | .int n => some n
  | .bool b => some (if b then 1 else 0)
  | .float x => if Numeral.Binary64.isIntegral x then Numeral.Binary64.truncate? x else none
  | _ => none

/-- The name of a rank. Any number may be one, and those without a name are written out. -/
def rankName (rank : Json) : String :=
  match (rankNumber? rank).bind fun n => rankNames.lookup n with
  | some name => name
  | none => "Level " ++ rank.plainText

/-- The last segment of a path without its last suffix. Dots at its start begin none. -/
def moduleName (path : Option String) : String :=
  match path with
  | none => "Unknown module"
  | some path =>
      let base := (path.toList.reverse.takeWhile (· ≠ '/')).reverse
      let dots := base.takeWhile (· = '.')
      let rest := base.dropWhile (· = '.')
      match rest.reverse.dropWhile (· ≠ '.') with
      | _ :: stem => String.ofList (dots ++ stem.reverse)
      | [] => String.ofList base

def message (e : Entry) : Except Failure String :=
  if e.arguments.isEmpty then .ok e.template
  else match Template.expand e.template e.arguments with
    | .ok s => .ok s
    | .error m => .error (.templateMismatch m)

/-- How an error is written out that has a kind and a message, and was raised nowhere. -/
def errorText (kind message : String) : String := if message = "" then kind else kind ++ ": " ++ message

/-- The standard fields of a record. -/
def fields (e : Entry) (message : String) : Keyed Json :=
  [("timestamp", .str (momentText e.seconds e.millis)),
    ("level", .str e.level),
    ("logger", .str e.channel),
    ("message", .str message),
    ("module", .str (moduleName e.path)),
    ("function", e.function),
    ("line", e.line)] ++
  (e.error.map fun text => ("exception", .str text)).toList

/-- The line of a record: its fields, and the extra ones in their place. -/
def line (e : Entry) : Except Failure String := do
  check e.seconds
  let message ← message e
  (Json.obj ((fields e message).merge e.extra)).writtenAs (Json.text Json.ascii)

end ObjectIntake.Journal
