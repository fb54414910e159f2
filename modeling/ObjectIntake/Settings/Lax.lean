import ObjectIntake.Json.Basic
import ObjectIntake.Numeral.Binary64
import ObjectIntake.Numeral.Integer
import ObjectIntake.Settings.Violation
import ObjectIntake.Text.Blank
import ObjectIntake.Text.Digit
import ObjectIntake.Text.Search

/-! Reading settings from values of other types: numbers and truth values may be spelt as texts. -/
namespace ObjectIntake.Settings.Lax
open Text

/-- The text from its first nonzero digit or minus sign on. An all-zero text keeps its last character. -/
def skipZeros (last : Char) : List Char → Option (List Char)
  | [] => some [last]
  | c :: rest =>
      if c = '0' || c = '_' then skipZeros c rest
      else if c = '.' then some (last :: c :: rest)
      else if c.isDigit || c = '-' then some (c :: rest)
      else none

def withoutLeadingZeros? (s : List Char) : Option (List Char) :=
  match s with
  | [] => none
  | '0' :: rest => skipZeros '0' rest
  | c :: rest => if c.isDigit then some (c :: rest) else none

/-- The text before a decimal point that only zeros follow. -/
def withoutDecimalZeros? (s : List Char) : Option (List Char) :=
  match s.dropWhile (· ≠ '.') with
  | [] => some s
  | _ :: places =>
      if !places.isEmpty && places.all (· = '0') then some (s.takeWhile (· ≠ '.')) else none

/-- The text without underscores, which may stand only one at a time and not at the ends. -/
def withoutUnderscores (s : List Char) : List Char :=
  if s.head? = some '_' || s.getLast? = some '_' || isInfix ['_', '_'] s then s
  else s.filter (· ≠ '_')

/-- What the text says after its sign, in plain spelling. -/
def plainMagnitude? (s : List Char) : Option (List Char) := do
  return withoutUnderscores (← withoutDecimalZeros? (← withoutLeadingZeros? s))

/-- The plain spelling of an integer with blanks, signs, zeros and underscores that need not be there. -/
def plainSpelling? (s : List Char) : Option (List Char) :=
  match trim isSpace s with
  | '+' :: '-' :: _ => none
  | '+' :: rest => plainMagnitude? rest
  | '-' :: rest => (plainMagnitude? rest).map ('-' :: ·)
  | s => plainMagnitude? s

/-- A minus sign or none, and what follows it. -/
def afterMinus (s : List Char) : Bool × List Char :=
  match s with
  | '-' :: rest => (true, rest)
  | _ => (false, s)

/-- The integer of a plain spelling: no digit before which a zero stands at the start. -/
def ofPlain? (s : List Char) : Option Int :=
  let (negative, ds) := afterMinus s
  if ds.isEmpty || (ds.head? = some '0' && 1 < ds.length) then none
  else do
    let ds ← ds.mapM asciiDigit?
    let n := (Numeral.ofDigits ds : Int)
    return if negative then -n else n

/-- Whether more digits than the limit stand at the start, the first of them not zero. -/
def isOverlong (s : List Char) : Bool :=
  let (_, ds) := afterMinus s
  ds.head? ≠ some '0' && Numeral.digitLimit < (ds.takeWhile Char.isDigit).length

/-- The integer that a text spells: a sign, digits, and possibly a point with zeros. -/
def integerOfText (s : List Char) : Except Violation Int :=
  let plain := (plainSpelling? s).getD []
  if isOverlong s || isOverlong plain then .error .integerTooLarge
  else match ofPlain? plain with
    | some n => .ok n
    | none => .error .integerSpelling

def integer (j : Json) : Except Violation Int :=
  match j with
  | .int n => .ok n
  | .bool b => .ok (if b then 1 else 0)
  | .str s => integerOfText s.toList
  | .float x =>
      match Numeral.Binary64.truncate? x with
      | none => .error .notFinite
      | some n =>
          if !Numeral.Binary64.isIntegral x then .error .fractionalPart
          else if Numeral.twoTo 63 ≤ n.natAbs then .error .integerTooLarge
          else .ok n
  | _ => .error .integerExpected

/-- An integer of at least one. -/
def positive (j : Json) : Except Violation Int := do
  let n ← integer j
  if n < 1 then .error .belowOne else .ok n

def truthOfText? (s : String) : Option Bool :=
  let lower := s.map Char.toLower
  if ["1", "on", "t", "true", "y", "yes"].contains lower then some true
  else if ["0", "off", "f", "false", "n", "no"].contains lower then some false
  else none

/-- Zero and one are truth values, and other words of 64 bits are misspelt ones. -/
def truthOfInteger (n : Int) : Except Violation Bool :=
  if n = 0 then .ok false
  else if n = 1 then .ok true
  else if n < -(Numeral.twoTo 63 : Nat) ∨ (Numeral.twoTo 63 : Nat) ≤ n then .error .booleanExpected
  else .error .booleanSpelling

def truth (j : Json) : Except Violation Bool :=
  match j with
  | .bool b => .ok b
  | .int n => truthOfInteger n
  | .str s =>
      match truthOfText? s with
      | some b => .ok b
      | none => .error .booleanSpelling
  | .float x =>
      match Numeral.Binary64.truncate? x with
      | none => .error .booleanExpected
      | some n => if Numeral.Binary64.isIntegral x then truthOfInteger n else .error .booleanExpected
  | _ => .error .booleanExpected

def text (j : Json) : Except Violation String :=
  match j with
  | .str s => .ok s
  | _ => .error .textExpected

/-- Null for a text of blanks. -/
def blankAsNull (j : Json) : Json :=
  match j with
  | .str s => if isBlankText s then .null else j
  | _ => j

/-- A setting that may be absent: null and a text of blanks leave it so. -/
def optional {α : Type} (read : Json → Except Violation α) (j : Json) : Except Violation (Option α) :=
  match blankAsNull j with
  | .null => .ok none
  | j => (read j).map some

end ObjectIntake.Settings.Lax
