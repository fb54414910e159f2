import ObjectIntake.Failure
import ObjectIntake.Numeral.Power

/-!
Which integers and ranges have a text. Whatever mentions one that has too many digits cannot be written either.
-/
namespace ObjectIntake

namespace Numeral

variable {a b c n : Int}

/-- The integer has no more digits than can be written. -/
def Writable (n : Int) : Prop := n.natAbs < tenTo digitLimit

instance : DecidablePred Writable := fun n => inferInstanceAs (Decidable (n.natAbs < tenTo digitLimit))

theorem lt_tenTo_iff {k : Nat} (hk : 0 < k) : n.natAbs < tenTo k ↔ digitCount n ≤ k :=
  (Nat.length_toDigits_le_iff (by decide) hk).symm

theorem writable_iff : Writable n ↔ digitCount n ≤ digitLimit := lt_tenTo_iff (by decide)

theorem Writable.of_le (ha : Writable a) (hc : Writable c) (hab : a ≤ b) (hbc : b ≤ c) : Writable b := by
  unfold Writable at *
  generalize tenTo digitLimit = bound at *
  omega

theorem written_of_writable (h : Writable n) : written n = .ok (text n) := by
  rw [written, write?, if_pos (writable_iff.mp h)]

theorem written_of_not_writable (h : ¬ Writable n) : written n = .error .integerTooLong := by
  rw [written, write?, if_neg (mt writable_iff.mpr h)]

theorem written_eq_ok_iff {s : String} : written n = .ok s ↔ Writable n ∧ text n = s := by
  by_cases h : Writable n
  · simp [written_of_writable h, h]
  · simp [written_of_not_writable h, h]

theorem written_failure {e : Failure} (h : written n = .error e) : e = .integerTooLong := by
  by_cases hn : Writable n
  · cases h.symm.trans (written_of_writable hn)
  · cases h.symm.trans (written_of_not_writable hn)
    rfl

/-- A text that mentions two integers needs both of them written. -/
theorem written_two (f : String → String → String) (a b : Int) :
    (do return f (← written a) (← written b)) =
      if Writable a ∧ Writable b then .ok (f (text a) (text b)) else .error .integerTooLong := by
  by_cases ha : Writable a
  · by_cases hb : Writable b
    · rw [written_of_writable ha, written_of_writable hb, if_pos ⟨ha, hb⟩]
      rfl
    · rw [written_of_writable ha, written_of_not_writable hb, if_neg fun h => hb h.2]
      rfl
  · rw [written_of_not_writable ha, if_neg fun h => ha h.1]
    rfl

end Numeral

namespace VersionRange

/-- Both bounds of the range can be written. -/
def Writable (r : VersionRange) : Prop := Numeral.Writable r.lower ∧ Numeral.Writable r.upper

instance : DecidablePred Writable := fun r => inferInstanceAs (Decidable (Numeral.Writable r.lower ∧ _))

theorem written_eq (r : VersionRange) :
    r.written = if r.Writable then .ok ("(" ++ Numeral.text r.lower ++ ", " ++ Numeral.text r.upper ++ "]")
      else .error .integerTooLong :=
  Numeral.written_two (fun lower upper => "(" ++ lower ++ ", " ++ upper ++ "]") _ _

end VersionRange

namespace Json

theorem writtenAs_of_isWritable {j : Json} (h : j.isWritable = true) (text : Json → String) :
    j.writtenAs text = .ok (text j) := if_pos h

theorem writtenAs_of_not_isWritable {j : Json} (h : j.isWritable = false) (text : Json → String) :
    j.writtenAs text = .error .integerTooLong := if_neg (by simp [h])

end Json
end ObjectIntake
