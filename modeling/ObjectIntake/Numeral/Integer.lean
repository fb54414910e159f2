import ObjectIntake.Text.Blank
import ObjectIntake.Text.Digit

/-! Decimal texts of integers, in both directions limited to 4300 digits. -/
namespace ObjectIntake.Numeral
open Text

def digitLimit : Nat := 4300

/-- Digits of any script; single underscores may stand between them. -/
def digitRun? : (afterDigit : Bool) → List Char → Option (List Nat)
  | true, [] => some []
  | false, [] => none
  | afterDigit, c :: r =>
      if afterDigit && c = '_' then digitRun? false r
      else do
        let d ← digitValue? c
        return d :: (← digitRun? true r)

def ofDigits (ds : List Nat) : Nat := ds.foldl (fun n d => 10 * n + d) 0

def unsigned? (s : List Char) : Option Nat := do
  let ds ← digitRun? false s
  if ds.length ≤ digitLimit then some (ofDigits ds) else none

/-- The integer that `s` spells: white space at the ends, a sign, digits. -/
def read? (s : List Char) : Option Int :=
  match trim isSpace s with
  | '-' :: r => (unsigned? r).map fun n => -Int.ofNat n
  | '+' :: r => (unsigned? r).map Int.ofNat
  | r => (unsigned? r).map Int.ofNat

/-- The canonical text: a minus sign if below zero, then ASCII digits without leading zeros. -/
def text (n : Int) : String := toString n

def digitCount (n : Int) : Nat := (Nat.toDigits 10 n.natAbs).length

/-- What is said of an integer that has too many digits to be written. -/
def limitMessage : String :=
  "Exceeds the limit (4300 digits) for integer string conversion; " ++
    "use sys.set_int_max_str_digits() to increase the limit"

/-- The canonical text, unless it has too many digits. -/
def write? (n : Int) : Option String :=
  if digitCount n ≤ digitLimit then some (text n) else none

end ObjectIntake.Numeral
