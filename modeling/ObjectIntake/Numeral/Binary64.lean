import ObjectIntake.Numeral.Power

/-! Double precision numbers as exact mantissas and exponents, and rounding to them. -/
namespace ObjectIntake.Numeral.Binary64

inductive Shape where
  | nan
  | infinite (negative : Bool)
  /-- The value `± mantissa * 2 ^ exponent`. -/
  | finite (negative : Bool) (mantissa : Nat) (exponent : Int)
  deriving DecidableEq

def shapeOfBits (bits : Nat) : Shape :=
  let negative := decide (twoTo 63 ≤ bits)
  let e : Nat := bits / twoTo 52 % 2048
  let f : Nat := bits % twoTo 52
  if e = 2047 then (if f = 0 then .infinite negative else .nan)
  else if e = 0 then .finite negative f (-1074)
  else .finite negative (twoTo 52 + f) ((e : Int) - 1075)

def shape (x : Float) : Shape := shapeOfBits x.toBits.toNat

/-- The quotient `num / den` to the nearest integer, a half to the even neighbour. -/
def roundDiv (num den : Nat) : Nat :=
  let q := num / den
  let r := num % den
  if 2 * r < den then q
  else if den < 2 * r then q + 1
  else q + q % 2

/-- `num / den` in units of `2 ^ e`, as a fraction. -/
def inUnits (num den : Nat) (e : Int) : Nat × Nat :=
  if 0 ≤ e then (num, den * twoTo e.toNat) else (num * twoTo (-e).toNat, den)

/-- The exponent at which the mantissa of `num / den` has 53 bits, or the least one there is. -/
def unitExponent (num den : Nat) : Int :=
  let guess : Int := (num.log2 : Int) - den.log2 - 52
  let (n, d) := inUnits num den guess
  max (-1074) (if n / d < twoTo 52 then guess - 1 else guess)

/-- Bits of the double nearest to `num / den`, ties to even; too large a value is infinite. -/
def bitsOfRatio (num den : Nat) : Nat :=
  if num = 0 then 0
  else
    let e := unitExponent num den
    let (n, d) := inUnits num den e
    let m := roundDiv n d
    if m < twoTo 52 then m
    else min ((e + 1074).toNat * twoTo 52 + m) (2047 * twoTo 52)

def ofRatio (negative : Bool) (num den : Nat) : Float :=
  Float.ofBits (UInt64.ofNat (bitsOfRatio num den + if negative then twoTo 63 else 0))

/-- The double nearest to `± digits * 10 ^ exponent`. -/
def ofDecimal (negative : Bool) (digits : Nat) (exponent : Int) : Float :=
  let size : Int := exponent + (Nat.toDigits 10 digits).length
  if digits = 0 || size < -400 then ofRatio negative 0 1
  else if 400 < size then ofRatio negative (twoTo 1100) 1
  else if 0 ≤ exponent then ofRatio negative (digits * tenTo exponent.toNat) 1
  else ofRatio negative digits (tenTo (-exponent).toNat)

/-- The integer nearest to `n` among the doubles. -/
def roundNat (n : Nat) : Nat :=
  if n < twoTo 53 then n
  else
    let unit := twoTo (n.log2 - 52)
    roundDiv n unit * unit

theorem roundNat_of_lt {n : Nat} (h : n < twoTo 53) : roundNat n = n := if_pos h

/-- The double nearest to `n` as an integer; none if it is beyond all of them. -/
def roundInt? (n : Int) : Option Int :=
  let r := roundNat n.natAbs
  if r < twoTo 1024 then some (if n < 0 then -(r : Int) else r) else none

theorem roundInt?_of_natAbs_lt {n : Int} (h : n.natAbs < twoTo 53) : roundInt? n = some n := by
  have hb := Nat.lt_trans h (twoTo_lt_twoTo (show 53 < 1024 by decide))
  rw [roundInt?, roundNat_of_lt h, if_pos hb]
  split <;> congr 1 <;> omega

/-- Truncation toward zero; none for what is not finite. -/
def truncate? (x : Float) : Option Int :=
  match shape x with
  | .finite negative m e =>
      let n := if 0 ≤ e then m * twoTo e.toNat else m / twoTo (-e).toNat
      some (if negative then -(n : Int) else n)
  | _ => none

def isIntegral (x : Float) : Bool :=
  match shape x with
  | .finite _ m e => 0 ≤ e || m % twoTo (-e).toNat = 0
  | _ => false

end ObjectIntake.Numeral.Binary64
