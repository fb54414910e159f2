/-! Sets of characters given by the code points at which membership changes. -/
namespace ObjectIntake.Text

/-- Membership of `n`, for ascending `flips` and the membership `inside` below the first of them. -/
def isInside (n : Nat) : (inside : Bool) → (flips : List Nat) → Bool
  | inside, [] => inside
  | inside, b :: bs => if n < b then inside else isInside n (!inside) bs

end ObjectIntake.Text
