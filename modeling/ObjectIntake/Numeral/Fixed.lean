import ObjectIntake.Numeral.Shortest

/-! Doubles with a given number of digits, rounded from their exact values. -/
namespace ObjectIntake.Numeral.Fixed
open Binary64

/-- A decimal that is not positional by itself: its digits and the exponent of the first of them. -/
structure Scientific where
  digits : List Char
  exponent : Int

def ratio (m : Nat) (e : Int) : Shortest.Ratio :=
  if 0 ≤ e then ⟨m * twoTo e.toNat, 1⟩ else ⟨m, twoTo (-e).toNat⟩

/-- The value rounded to `places` digits after the point. Without any the point stands only if it is `kept`. -/
def positional (v : Shortest.Ratio) (places : Nat) (kept : Bool) : String :=
  let n := roundDiv (v.num * tenTo places) v.den
  let whole := toString (n / tenTo places)
  if places = 0 then if kept then whole ++ "." else whole
  else
    let fraction := toString (n % tenTo places)
    whole ++ "." ++ String.ofList (List.replicate (places - fraction.length) '0') ++ fraction

/-- The value rounded to `places + 1` digits. -/
def scientific (v : Shortest.Ratio) (places : Nat) : Scientific :=
  if v.num = 0 then ⟨List.replicate (places + 1) '0', 0⟩
  else
    let top := v.decimalExponent
    let scaled := v.inPowers (top - places)
    let n := roundDiv scaled.num scaled.den
    let digits := Nat.toDigits 10 n
    if places + 1 < digits.length then ⟨digits.take (places + 1), top + 1⟩ else ⟨digits, top⟩

def scientificText (s : Scientific) (kept : Bool) : String :=
  let point : List Char := if s.digits.length ≤ 1 && !kept then [] else ['.']
  String.ofList (s.digits.take 1 ++ point ++ s.digits.drop 1 ++ 'e' :: Shortest.exponentText 2 s.exponent)

def dropPlaces (s : String) : String :=
  if s.toList.contains '.' then
    let kept := s.toList.reverse.dropWhile (· = '0')
    String.ofList (match kept with
      | '.' :: rest => rest.reverse
      | _ => kept.reverse)
  else s

/-- At most `precision` digits, in the shorter of the two forms, without trailing zeros unless they are `kept`. -/
def general (v : Shortest.Ratio) (precision : Nat) (kept : Bool) : String :=
  let p := max 1 precision
  let s := scientific v (p - 1)
  if -4 ≤ s.exponent ∧ s.exponent < p then
    let text := positional v (p - 1 - s.exponent).toNat kept
    if kept then text else dropPlaces text
  else if kept then scientificText s true
  else scientificText { s with digits := s.digits.take 1 ++ Shortest.dropZeros (s.digits.drop 1) } false

end ObjectIntake.Numeral.Fixed
