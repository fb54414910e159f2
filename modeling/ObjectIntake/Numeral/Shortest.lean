import ObjectIntake.Numeral.Binary64

/-! The shortest decimal that reads back as a given double, and its layout as a text. -/
namespace ObjectIntake.Numeral.Shortest
open Binary64

/-- The positive fraction `num / den`. -/
structure Ratio where
  num : Nat
  den : Nat

/-- The value in units of `10 ^ p`. -/
def Ratio.inPowers (v : Ratio) (p : Int) : Ratio :=
  if 0 ≤ p then ⟨v.num, v.den * tenTo p.toNat⟩ else ⟨v.num * tenTo (-p).toNat, v.den⟩

/-- The least number of decimal digits that all numbers below `n` fit in. -/
def digitsBelow (n : Nat) : Nat := if n ≤ 1 then 0 else (Nat.toDigits 10 (n - 1)).length

/-- The `e` with `10 ^ e ≤ v < 10 ^ (e + 1)`. -/
def Ratio.decimalExponent (v : Ratio) : Int :=
  if v.den ≤ v.num then (Nat.toDigits 10 (v.num / v.den)).length - 1
  else -Int.ofNat (digitsBelow ((v.den + v.num - 1) / v.num))

/-- The reals that round to `mantissa * 2 ^ exponent`, four units being one mantissa step. -/
structure Interval where
  low : Ratio
  value : Ratio
  high : Ratio
  closed : Bool

def interval (m : Nat) (e : Int) : Interval :=
  let unit (k : Nat) : Ratio :=
    if 2 ≤ e then ⟨k * twoTo (e - 2).toNat, 1⟩ else ⟨k, twoTo (2 - e).toNat⟩
  let below := if m = twoTo 52 ∧ e ≠ -1074 then 1 else 2
  ⟨unit (4 * m - below), unit (4 * m), unit (4 * m + 2), m % 2 = 0⟩

/-- `d * 10 ^ p` lies in the interval. -/
def Interval.holds (i : Interval) (d : Nat) (p : Int) : Bool :=
  let l := i.low.inPowers p
  let h := i.high.inPowers p
  if i.closed then l.num ≤ d * l.den && d * h.den ≤ h.num
  else l.num < d * l.den && d * h.den < h.num

/-- The neighbour of the value on the grid of `10 ^ p` that lies in the interval, the nearer of two. -/
def Interval.neighbour? (i : Interval) (p : Int) : Option Nat :=
  let v := i.value.inPowers p
  let d := v.num / v.den
  match i.holds d p, i.holds (d + 1) p with
  | true, true => some (roundDiv v.num v.den)
  | true, false => some d
  | false, true => some (d + 1)
  | false, false => none

/-- Digits and power of ten on the coarsest grid, from `count` digits on, that has a neighbour. -/
def Interval.search (i : Interval) (top : Int) : (fuel count : Nat) → Nat × Int
  | 0, count => (roundDiv (i.value.inPowers (top + 1 - count)).num
      (i.value.inPowers (top + 1 - count)).den, top + 1 - count)
  | fuel + 1, count =>
      match i.neighbour? (top + 1 - count) with
      | some d => (d, top + 1 - count)
      | none => i.search top fuel (count + 1)

/-- Digits and power of ten of the shortest decimal for `m * 2 ^ e`; seventeen digits suffice. -/
def digits (m : Nat) (e : Int) : Nat × Int :=
  let i := interval m e
  i.search i.value.decimalExponent 16 1

/-- How a decimal is laid out. -/
structure Layout where
  /-- Exponents from this one up to and including `maxPlain` are written positionally. -/
  minPlain : Int
  maxPlain : Int
  exponentWidth : Nat
  nan : String
  infinity : String

/-- Positional from 1e-4 up to 1e16, else with an exponent of two digits or more. -/
def plain : Layout := ⟨-4, 15, 2, "nan", "inf"⟩

def dropZeros (ds : List Char) : List Char := (ds.reverse.dropWhile (· = '0')).reverse

def exponentText (width : Nat) (e : Int) : List Char :=
  let ds := Nat.toDigits 10 e.natAbs
  (if e < 0 then '-' else '+') :: (List.replicate (width - ds.length) '0' ++ ds)

/-- The digits `ds` with the decimal point after the first `e + 1` of them. -/
def layOut (style : Layout) (ds : List Char) (e : Int) : List Char :=
  if style.minPlain ≤ e ∧ e ≤ style.maxPlain then
    if e < 0 then '0' :: '.' :: (List.replicate (-e - 1).toNat '0' ++ ds)
    else
      let whole := e.toNat + 1
      let fraction := ds.drop whole
      ds.take whole ++ List.replicate (whole - ds.length) '0' ++
        '.' :: (if fraction.isEmpty then ['0'] else fraction)
  else
    ds.take 1 ++ (if ds.length ≤ 1 then [] else '.' :: ds.drop 1) ++
      'e' :: exponentText style.exponentWidth e

def text (style : Layout) (x : Float) : String :=
  match shape x with
  | .nan => style.nan
  | .infinite negative => (if negative then "-" else "") ++ style.infinity
  | .finite negative m e =>
      let sign := if negative then "-" else ""
      if m = 0 then sign ++ "0.0"
      else
        let (d, p) := digits m e
        let all := Nat.toDigits 10 d
        let top := p + all.length - 1
        sign ++ String.ofList (layOut style (dropZeros all) top)

end ObjectIntake.Numeral.Shortest
