import Mathlib.Data.List.TakeWhile
import ObjectIntake.Proofs.Numeral.Canonical
import ObjectIntake.Settings.Lax

/-! Positive integers are read from their decimal texts, and what is optional is blank or read as it is. -/
namespace ObjectIntake.Settings.Lax
open Text

variable {n : Nat}

theorem toDigits_eq_cons (hn : 0 < n) : ∃ d rest, Nat.toDigits 10 n = d :: rest ∧ d.isDigit = true ∧ d ≠ '0' := by
  obtain ⟨d, rest, h, hd⟩ := Numeral.exists_toDigits n
  refine ⟨d, rest, h, hd, ?_⟩
  rintro rfl
  exact Numeral.head?_toDigits hn (by rw [h, List.head?_cons])

/-- Plain digits are a magnitude as they stand. -/
theorem plainMagnitude?_toDigits (hn : 0 < n) : plainMagnitude? (Nat.toDigits 10 n) = some (Nat.toDigits 10 n) := by
  have hzeros : withoutLeadingZeros? (Nat.toDigits 10 n) = some (Nat.toDigits 10 n) := by
    obtain ⟨d, rest, h, hdigit, hzero⟩ := toDigits_eq_cons hn
    rw [h]
    unfold withoutLeadingZeros?
    split
    next heq => cases heq
    next heq => exact absurd (List.cons.inj heq).1 hzero
    next heq =>
      cases heq
      rw [if_pos hdigit]
  have hpoint : withoutDecimalZeros? (Nat.toDigits 10 n) = some (Nat.toDigits 10 n) := by
    have hdrop : (Nat.toDigits 10 n).dropWhile (· ≠ '.') = [] := by
      rw [List.dropWhile_eq_nil_iff]
      intro c hc
      exact decide_eq_true (Numeral.ne_of_isDigit (Numeral.isDigit_of_mem hc) rfl)
    unfold withoutDecimalZeros?
    rw [hdrop]
  have hunder : withoutUnderscores (Nat.toDigits 10 n) = Nat.toDigits 10 n := by
    unfold withoutUnderscores
    split
    next => rfl
    next =>
      rw [List.filter_eq_self]
      intro c hc
      exact decide_eq_true (Numeral.ne_of_isDigit (Numeral.isDigit_of_mem hc) rfl)
  unfold plainMagnitude?
  simp only [hzeros, hpoint, Option.bind_eq_bind, Option.bind_some, hunder]
  rfl

theorem plainSpelling?_toDigits (hn : 0 < n) : plainSpelling? (Nat.toDigits 10 n) = some (Nat.toDigits 10 n) := by
  have htrim : trim isSpace (Nat.toDigits 10 n) = Nat.toDigits 10 n :=
    Numeral.trim_eq_self (fun c hc => Numeral.isSpace_of_isDigit (Numeral.isDigit_of_mem (List.mem_of_mem_head? hc)))
      (Numeral.isSpace_getLast?_toDigits n [])
  obtain ⟨d, rest, h, hdigit, -⟩ := toDigits_eq_cons hn
  have hplain := plainMagnitude?_toDigits hn
  unfold plainSpelling?
  rw [htrim]
  rw [h] at hplain ⊢
  split
  next heq => exact absurd (List.cons.inj heq).1 (Numeral.ne_of_isDigit hdigit rfl)
  next heq => exact absurd (List.cons.inj heq).1 (Numeral.ne_of_isDigit hdigit rfl)
  next heq => exact absurd (List.cons.inj heq).1 (Numeral.ne_of_isDigit hdigit rfl)
  next => exact hplain

theorem afterMinus_toDigits : afterMinus (Nat.toDigits 10 n) = (false, Nat.toDigits 10 n) := by
  unfold afterMinus
  split
  next heq =>
    have hminus : '-' ∈ Nat.toDigits 10 n := heq ▸ List.mem_cons_self ..
    exact absurd (Numeral.isDigit_of_mem hminus) (by decide)
  next => rfl

theorem isOverlong_toDigits (h : (Nat.toDigits 10 n).length ≤ Numeral.digitLimit) :
    isOverlong (Nat.toDigits 10 n) = false := by
  have hall : (Nat.toDigits 10 n).takeWhile Char.isDigit = Nat.toDigits 10 n := by
    rw [List.takeWhile_eq_self_iff]
    intro c hc
    exact Numeral.isDigit_of_mem hc
  unfold isOverlong
  rw [afterMinus_toDigits]
  simp only [hall, Nat.not_lt.mpr h, decide_false, Bool.and_false]

theorem mapM_asciiDigit? {ds : List Char} (h : ∀ d ∈ ds, d.isDigit = true) :
    ds.mapM asciiDigit? = some (ds.map fun d => d.toNat - 48) := by
  induction ds with
  | nil => rfl
  | cons d ds ih =>
    have hd : asciiDigit? d = some (d.toNat - 48) := if_pos (h d (List.mem_cons_self ..))
    rw [List.mapM_cons, hd, ih fun c hc => h c (List.mem_cons_of_mem _ hc)]
    rfl

theorem ofPlain?_toDigits (hn : 0 < n) : ofPlain? (Nat.toDigits 10 n) = some (n : Int) := by
  have hdigits := mapM_asciiDigit? fun d hd => Numeral.isDigit_of_mem (n := n) hd
  have hfirst : (Nat.toDigits 10 n).isEmpty = false := by
    rw [List.isEmpty_eq_false_iff]
    exact Nat.toDigits_ne_nil
  have hvalue : Numeral.ofDigits ((Nat.toDigits 10 n).map fun d => d.toNat - 48) = n := by
    rw [Numeral.ofDigits_map_toNat, Nat.ofDigitChars_ten_toDigits]
  unfold ofPlain?
  rw [afterMinus_toDigits]
  simp only [hfirst, Numeral.head?_toDigits hn, decide_false, Bool.false_and, Bool.or_self, hdigits,
    Option.bind_eq_bind, Option.bind_some, hvalue]
  rfl

/-- A positive integer within the limit of digits is read from its decimal text. -/
theorem integerOfText_text {n : Int} (hn : 1 ≤ n) (h : Numeral.digitCount n ≤ Numeral.digitLimit) :
    integerOfText (Numeral.text n).toList = .ok n := by
  obtain ⟨m, rfl⟩ := Int.eq_ofNat_of_zero_le (show 0 ≤ n by omega)
  have hm : 0 < m := by omega
  have htext : (Numeral.text m).toList = Nat.toDigits 10 m := Numeral.toList_text_ofNat m
  have hlength : (Nat.toDigits 10 m).length ≤ Numeral.digitLimit := h
  unfold integerOfText
  rw [htext, plainSpelling?_toDigits hm, Option.getD_some]
  simp only [isOverlong_toDigits hlength, Bool.or_self, ofPlain?_toDigits hm]
  rfl

theorem blankAsNull_str {s : String} (h : isBlankText s = false) : blankAsNull (.str s) = .str s := by
  simp [blankAsNull, h]

/-- What is read as an optional value is blank, or is read as a value. -/
theorem optional_eq_ok {α : Type} {read : Json → Except Violation α} {j : Json} {a : Option α}
    (h : optional read j = .ok a) : a = none ∨ ∃ b, a = some b ∧ blankAsNull j = j ∧ read j = .ok b := by
  unfold optional at h
  split at h
  next =>
    cases h
    exact .inl rfl
  next hnull =>
    have hself : blankAsNull j = j := by
      unfold blankAsNull at hnull ⊢
      split at hnull
      next =>
        split at hnull
        next => exact absurd rfl hnull
        next hblank => rw [if_neg hblank]
      next => rfl
    rw [hself] at h
    cases hread : read j with
    | error v =>
      rw [hread] at h
      cases h
    | ok b =>
      rw [hread] at h
      cases h
      exact .inr ⟨b, rfl, hself, rfl⟩

end ObjectIntake.Settings.Lax
