import ObjectIntake.Checkpoint.Resolution

/-!
The range after a value of any kind. It may be a number that is no version, and then lies among the versions where
the greatest integer up to it does; versions may also be texts, which are in an order of their own.
-/
namespace ObjectIntake.Checkpoint

/-- A plan whose bounds are values as they were given. -/
structure GivenPlan where
  mode : ReadMode
  lower : Json
  upper : Json
  caughtUp : Bool

/-- Versions that are compared among each other: their ranks, and the value of each rank. -/
structure Ranking where
  ranks : List Int
  value : Int → Json
  /-- The versions are texts, to which no number can be compared. -/
  textual : Bool

def rank (versions : List Json) : Ranking :=
  match versions.filterMap Json.str? with
  | [] => ⟨versions.filterMap Json.int?, .int, false⟩
  | texts =>
      let labels := texts.mergeSort fun a b => decide (a ≤ b)
      ⟨(List.range labels.length).map Int.ofNat,
        fun n => if n < 0 then .int n else .str (labels[n.toNat]?.getD ""), true⟩

/-- The greatest integer up to a number, or for one that is not finite an integer beyond all versions. -/
def floorOf (versions : List Int) : Json → Option Int
  | .int n => some n
  | .bool b => some (if b then 1 else 0)
  | .float x =>
      let beyond : Int := 2 + (versions.map Int.natAbs).foldl max 0
      some ((Numeral.Binary64.truncate? x.floor).getD (if x < 0.0 then -beyond else beyond))
  | _ => none

/-- How many versions to take; all of them where nothing is given. The count is looked at only after a start. -/
def countOf (versions : List Json) (count start : Json) : Except Failure Int :=
  match count, start with
  | .int n, _ => .ok n
  | .bool b, _ => .ok (if b then 1 else 0)
  | .null, _ => .ok versions.length
  | _, .null => .ok 0
  | _, _ => if versions.isEmpty then .ok 0 else .error (.wrongKind "the count is not a whole number")

/-- The plan for the versions given. A number that is none equals nothing, and never catches up. -/
def planGiven (versions : List Json) (count start : Json) (strategy : Option Strategy) (basePath : Json) :
    Work Unit GivenPlan := do
  let ranking := rank versions
  let count ← Work.ofExcept (countOf versions count start)
  let lower := floorOf ranking.ranks start
  if !versions.isEmpty && !start.isNull && (ranking.textual || lower.isNone) then
    throw (.wrongKind "the start cannot be compared to the versions")
  let plan ← planRange ranking.ranks count lower strategy basePath
  let bound (n : Int) : Json := if lower = some n then start else ranking.value n
  let comparable :=
    match start with
    | .float x => !x.isNaN
    | _ => true
  return ⟨plan.mode, bound plan.range.lower, bound plan.range.upper, plan.range.caughtUp && comparable⟩

end ObjectIntake.Checkpoint
