import ObjectIntake.Proofs.Checkpoint.Resolution
import ObjectIntake.Proofs.Numeral.Spelling

/-!
Checkpoint tokens and versions. A text that is a token at all stands for one version, whose own token is the
canonical spelling of it.
-/
namespace ObjectIntake.Checkpoint
open Numeral

variable {v : Int} {token : String}

theorem format_eq_ok_iff : format v = .ok token ↔ Writable v ∧ text v = token := written_eq_ok_iff

theorem format_injective {w : Int} (hv : format v = .ok token) (hw : format w = .ok token) : v = w :=
  Except.ok.inj ((parse_format hv).symm.trans (parse_format hw))

theorem canonical_of_format (h : format v = .ok token) : Canonical token.toList := by
  rw [← (format_eq_ok_iff.mp h).2]
  exact canonical_text v

/-- Either a text is no token, or it has a version that has a token. -/
theorem parse_str_cases (t : String) :
    parse (.str t) = .error (.resolution (.notAToken (.str t))) ∨
      ∃ v, parse (.str t) = .ok v ∧ format v = .ok (text v) := by
  cases hread : read? t.toList with
  | none =>
    left
    simp only [parse, hread]
  | some v =>
    refine .inr ⟨v, ?_, format_eq_ok_iff.mpr ⟨writable_of_read? hread, rfl⟩⟩
    simp only [parse, hread]

end ObjectIntake.Checkpoint
