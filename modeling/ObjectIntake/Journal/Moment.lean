import ObjectIntake.Failure

/-! Points in time, counted in seconds from the start of 1970, and their dates in the Gregorian calendar. -/
namespace ObjectIntake.Journal

structure Date where
  year : Int
  month : Nat
  day : Nat
  deriving DecidableEq, Repr

/-- The date of a day. Years are counted from March, in eras of 400 years. -/
def Date.ofDay (day : Int) : Date :=
  let shifted := day + 719468
  let era := shifted.fdiv 146097
  let dayOfEra := (shifted - era * 146097).toNat
  let yearOfEra := (dayOfEra - dayOfEra / 1460 + dayOfEra / 36524 - dayOfEra / 146096) / 365
  let dayOfYear := dayOfEra - (365 * yearOfEra + yearOfEra / 4 - yearOfEra / 100)
  let m := (5 * dayOfYear + 2) / 153
  let month := if m < 10 then m + 3 else m - 9
  ⟨yearOfEra + era * 400 + (if month ≤ 2 then 1 else 0), month, dayOfYear - (153 * m + 2) / 5 + 1⟩

/-- The first second of the first year and the last one of the last year that have a number, counted from 1900, in 32
bits. -/
def firstSecond : Int := -67768040609740800
def lastSecond : Int := 67768036191676799

/-- The last year that can be written. -/
def lastYear : Int := 2147483647

/-- The second in which a point in time lies, that is given as a number of seconds. -/
def second : Json → Except Failure Int
  | .int n => .ok n
  | .bool b => .ok (if b then 1 else 0)
  | .float x =>
      if x.isNaN then .error .momentNotANumber
      else match Numeral.Binary64.truncate? x.floor with
        | some n => .ok n
        | none => .error .tooLarge
  | _ => .error (.wrongKind "a point in time is no number")

/-- Whether a point in time has a date that can be written. -/
def check (seconds : Int) : Except Failure Unit :=
  if seconds < -(Numeral.twoTo 63 : Nat) ∨ (Numeral.twoTo 63 : Nat) ≤ seconds then .error .tooLarge
  else if seconds < firstSecond ∨ lastSecond < seconds then .error .noSuchMoment
  else if lastYear < (Date.ofDay (seconds.fdiv 86400)).year then .error .tooLarge
  else .ok ()

def padded (width n : Nat) : String :=
  let digits := toString n
  String.ofList (List.replicate (width - digits.length) '0') ++ digits

def dateText (seconds : Int) : String :=
  let date := Date.ofDay (seconds.fdiv 86400)
  toString date.year ++ "-" ++ padded 2 date.month ++ "-" ++ padded 2 date.day

/-- The time of day. -/
def timeText (seconds : Int) : String :=
  let time := (seconds.fmod 86400).toNat
  padded 2 (time / 3600) ++ ":" ++ padded 2 (time / 60 % 60) ++ ":" ++ padded 2 (time % 60)

/-- Date and time of day, with the milliseconds as they are counted. -/
def momentText (seconds : Int) (millis : Int) : String :=
  let fraction := if millis < 0 then "-" ++ padded 2 millis.natAbs else padded 3 millis.natAbs
  dateText seconds ++ " " ++ timeText seconds ++ "," ++ fraction

/-- Date and time of day to the microsecond, as they are saved with a checkpoint. -/
def stampText (seconds : Int) (micros : Nat) : String :=
  dateText seconds ++ "T" ++ timeText seconds ++ "." ++ padded 6 micros

end ObjectIntake.Journal
