import Mathlib.Data.Nat.Digits.Defs
import ObjectIntake.Proofs.Numeral.Canonical
import ObjectIntake.Proofs.Written

/-!
The many spellings of an integer that are read, and the one that is written. What is read is small enough to be
written again, however it was spelled.
-/
namespace ObjectIntake.Numeral
open Text

/-- Digits of a positive number: ASCII digits without a zero in front. -/
structure Proper (s : List Char) : Prop where
  nonempty : s ≠ []
  digits : ∀ c ∈ s, c.isDigit = true
  head : s.head? ≠ some '0'

/-- The spelling that is written: zero, or proper digits with a minus sign in front or none. -/
inductive Canonical : List Char → Prop
  | zero : Canonical ['0']
  | positive {s : List Char} (h : Proper s) : Canonical s
  | negative {s : List Char} (h : Proper s) : Canonical ('-' :: s)

theorem proper_toDigits {n : Nat} (hn : 0 < n) : Proper (Nat.toDigits 10 n) where
  nonempty := Nat.toDigits_ne_nil
  digits _ hc := isDigit_of_mem hc
  head := head?_toDigits hn

theorem canonical_text (n : Int) : Canonical (text n).toList := by
  cases n with
  | ofNat n =>
    rw [toList_text_ofNat]
    rcases Nat.eq_zero_or_pos n with rfl | hn
    · exact .zero
    · exact .positive (proper_toDigits hn)
  | negSucc n =>
    rw [toList_text_negSucc]
    exact .negative (proper_toDigits n.succ_pos)

theorem lt_ten_of_digitValue? {c : Char} {d : Nat} (h : digitValue? c = some d) : d < 10 := by
  obtain ⟨first, hfind, rfl⟩ := Option.map_eq_some_iff.mp h
  have hblock := List.find?_some hfind
  simp only [Bool.and_eq_true, decide_eq_true_eq] at hblock
  omega

/-- The values of a run of digits are digits, in whatever script they are spelled. -/
theorem lt_ten_of_digitRun? {afterDigit : Bool} {s : List Char} {ds : List Nat}
    (h : digitRun? afterDigit s = some ds) : ∀ d ∈ ds, d < 10 := by
  induction s generalizing afterDigit ds with
  | nil =>
    cases afterDigit with
    | true => cases h; simp
    | false => cases h
  | cons c rest ih =>
    rw [digitRun?] at h
    split at h
    next => exact ih h
    next =>
      obtain ⟨d, hd, h⟩ := Option.bind_eq_some_iff.mp h
      obtain ⟨ds, hds, h⟩ := Option.bind_eq_some_iff.mp h
      cases h
      simpa using ⟨lt_ten_of_digitValue? hd, ih hds⟩

theorem ofDigits_eq (ds : List Nat) : ofDigits ds = Nat.ofDigits 10 ds.reverse := by
  rw [Nat.ofDigits_eq_foldr, List.foldr_reverse, ofDigits]
  simp only [Nat.cast_id, Nat.add_comm]

theorem ofDigits_lt {ds : List Nat} (h : ∀ d ∈ ds, d < 10) : ofDigits ds < tenTo ds.length := by
  rw [ofDigits_eq, ← List.length_reverse]
  exact Nat.ofDigits_lt_base_pow_length (by decide) fun d hd => h d (List.mem_reverse.mp hd)

theorem unsigned?_lt {s : List Char} {n : Nat} (h : unsigned? s = some n) : n < tenTo digitLimit := by
  obtain ⟨ds, hrun, h⟩ := Option.bind_eq_some_iff.mp h
  split at h
  next hlength =>
    cases h
    calc
      _ < tenTo ds.length := ofDigits_lt (lt_ten_of_digitRun? hrun)
      _ ≤ tenTo digitLimit := tenTo_le_tenTo hlength
  next => cases h

/-- What was read has no more digits than can be written. -/
theorem writable_of_read? {s : List Char} {v : Int} (h : read? s = some v) : Writable v := by
  unfold read? at h
  split at h
  next =>
    obtain ⟨n, hn, rfl⟩ := Option.map_eq_some_iff.mp h
    rw [Writable, Int.natAbs_neg]
    exact unsigned?_lt hn
  next =>
    obtain ⟨n, hn, rfl⟩ := Option.map_eq_some_iff.mp h
    exact unsigned?_lt hn
  next =>
    obtain ⟨n, hn, rfl⟩ := Option.map_eq_some_iff.mp h
    exact unsigned?_lt hn

end ObjectIntake.Numeral
