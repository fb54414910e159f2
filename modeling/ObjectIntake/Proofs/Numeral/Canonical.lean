import ObjectIntake.Numeral.Integer

/-! The canonical text of an integer is read back as that integer. -/
namespace ObjectIntake.Numeral
open Text

theorem toNat_of_isDigit {c : Char} (h : c.isDigit = true) : 48 ≤ c.toNat ∧ c.toNat ≤ 57 := by
  simp only [Char.isDigit, ge_iff_le, Bool.and_eq_true, decide_eq_true_eq,
    UInt32.le_iff_toNat_le] at h
  exact h

theorem ne_of_isDigit {d c : Char} (hd : d.isDigit = true) (hc : c.isDigit = false) : d ≠ c := by
  rintro rfl
  cases hd.symm.trans hc

theorem isDigit_of_mem {n : Nat} {c : Char} (h : c ∈ Nat.toDigits 10 n) : c.isDigit = true :=
  Nat.isDigit_of_mem_toDigits (by decide) (by decide) h

theorem exists_toDigits (n : Nat) : ∃ d rest, Nat.toDigits 10 n = d :: rest ∧ d.isDigit = true := by
  obtain ⟨d, rest, h⟩ := List.exists_cons_of_ne_nil (Nat.toDigits_ne_nil (n := n) (b := 10))
  exact ⟨d, rest, h, isDigit_of_mem (h ▸ List.mem_cons_self ..)⟩

/-- Only zero is written with a zero in front. -/
theorem head?_toDigits {n : Nat} (hn : 0 < n) : (Nat.toDigits 10 n).head? ≠ some '0' := by
  induction n using Nat.strongRecOn with
  | ind n ih =>
    by_cases hsmall : n < 10
    · rw [Nat.toDigits_of_lt_base hsmall]
      intro h
      have hzero : n.digitChar = '0' := Option.some.inj h
      rw [Nat.digitChar_eq_zero] at hzero
      omega
    · have hhead := ih (n / 10) (by omega) (by omega)
      rw [Nat.toDigits_of_base_le (by decide) (by omega), List.head?_append]
      cases hdigits : Nat.toDigits 10 (n / 10) with
      | nil => exact absurd hdigits Nat.toDigits_ne_nil
      | cons d rest =>
        rw [hdigits] at hhead
        exact hhead

theorem isSpace_of_isDigit {c : Char} (h : c.isDigit = true) : isSpace c = false := by
  have hc := toNat_of_isDigit h
  simp only [isSpace, Bool.or_eq_false_iff, Bool.and_eq_false_iff, decide_eq_false_iff_not]
  omega

theorem digitValue?_of_isDigit {c : Char} (h : c.isDigit = true) :
    digitValue? c = some (c.toNat - 48) := by
  have hc := toNat_of_isDigit h
  have hz : (decide (48 ≤ c.toNat) && decide (c.toNat < 48 + 10)) = true := by
    simp only [Bool.and_eq_true, decide_eq_true_eq]
    omega
  have hfind : zeros.find? (fun z => decide (z ≤ c.toNat) && decide (c.toNat < z + 10)) = some 48 :=
    List.find?_cons_of_pos hz
  rw [digitValue?, hfind, Option.map_some]

/-- A run of ASCII digits, which may follow a digit that was read before. -/
theorem digitRun?_of_isDigit {cs : List Char} (h : ∀ c ∈ cs, c.isDigit = true)
    {afterDigit : Bool} (hne : afterDigit = true ∨ cs ≠ []) :
    digitRun? afterDigit cs = some (cs.map fun c => c.toNat - 48) := by
  induction cs generalizing afterDigit with
  | nil =>
    rcases hne with rfl | hne
    · rfl
    · exact absurd rfl hne
  | cons c cs ih =>
    have hc := h c (List.mem_cons_self ..)
    have hrest := ih (fun d hd => h d (List.mem_cons_of_mem _ hd)) (Or.inl rfl)
    have hu : c ≠ '_' := by
      rintro rfl
      exact absurd hc (by decide)
    have hskip : (afterDigit && decide (c = '_')) = false := by
      rw [decide_eq_false hu, Bool.and_false]
    rw [digitRun?, hskip, if_neg Bool.false_ne_true, digitValue?_of_isDigit hc, hrest]
    rfl

theorem ofDigits_map_toNat (cs : List Char) :
    ofDigits (cs.map fun c => c.toNat - 48) = Nat.ofDigitChars 10 cs 0 := by
  rw [Nat.ofDigitChars_eq_foldl, ofDigits, List.foldl_map]
  rfl

theorem unsigned?_toDigits {n : Nat} (h : (Nat.toDigits 10 n).length ≤ digitLimit) :
    unsigned? (Nat.toDigits 10 n) = some n := by
  have hdigits : ∀ c ∈ Nat.toDigits 10 n, c.isDigit = true := fun c hc => isDigit_of_mem hc
  have hrun : digitRun? false (Nat.toDigits 10 n) = some _ :=
    digitRun?_of_isDigit hdigits (Or.inr Nat.toDigits_ne_nil)
  rw [unsigned?, hrun]
  simp only [Option.bind_eq_bind, Option.bind_some, List.length_map]
  rw [if_pos h, ofDigits_map_toNat, Nat.ofDigitChars_ten_toDigits]

/-- Nothing is cut off where neither end is white space. -/
theorem trim_eq_self {p : Char → Bool} {s : List Char}
    (hfirst : ∀ c ∈ s.head?, p c = false) (hlast : ∀ c ∈ s.getLast?, p c = false) :
    trim p s = s := by
  have hleft : s.dropWhile p = s := by
    cases s with
    | nil => rfl
    | cons c r =>
      exact List.dropWhile_cons_of_neg (by rw [hfirst c rfl]; exact Bool.false_ne_true)
  have hright : s.reverse.dropWhile p = s.reverse := by
    cases hs : s.reverse with
    | nil => rfl
    | cons c r =>
      have hc : s.getLast? = some c := by rw [← List.head?_reverse, hs, List.head?_cons]
      exact List.dropWhile_cons_of_neg (by rw [hlast c hc]; exact Bool.false_ne_true)
  rw [trim, trimLeft, hleft, trimRight, hright, List.reverse_reverse]

theorem isSpace_getLast?_toDigits (n : Nat) (s : List Char) :
    ∀ c ∈ (s ++ Nat.toDigits 10 n).getLast?, isSpace c = false := by
  intro c hc
  rw [List.getLast?_append, List.getLast?_eq_some_getLast Nat.toDigits_ne_nil, Option.some_or] at hc
  cases hc
  exact isSpace_of_isDigit (isDigit_of_mem (List.getLast_mem Nat.toDigits_ne_nil))

theorem read?_toDigits {n : Nat} (h : (Nat.toDigits 10 n).length ≤ digitLimit) :
    read? (Nat.toDigits 10 n) = some (n : Int) := by
  have hdigits : ∀ c ∈ Nat.toDigits 10 n, c.isDigit = true := fun c hc => isDigit_of_mem hc
  have htrim : trim isSpace (Nat.toDigits 10 n) = Nat.toDigits 10 n :=
    trim_eq_self (fun c hc => isSpace_of_isDigit (hdigits c (List.mem_of_head? hc)))
      (isSpace_getLast?_toDigits n [])
  have hun := unsigned?_toDigits h
  unfold read?
  rw [htrim]
  -- The text starts with a digit, so it carries no sign.
  split
  next r hr => exact absurd (hdigits '-' (by rw [hr]; exact List.mem_cons_self ..)) (by decide)
  next r hr => exact absurd (hdigits '+' (by rw [hr]; exact List.mem_cons_self ..)) (by decide)
  next => rw [hun]; rfl

theorem read?_neg_toDigits {n : Nat} (h : (Nat.toDigits 10 n).length ≤ digitLimit) :
    read? ('-' :: Nat.toDigits 10 n) = some (-(n : Int)) := by
  have htrim : trim isSpace ('-' :: Nat.toDigits 10 n) = '-' :: Nat.toDigits 10 n := by
    apply trim_eq_self
    · intro c hc
      cases hc
      decide
    · exact isSpace_getLast?_toDigits n ['-']
  unfold read?
  rw [htrim]
  simp only [unsigned?_toDigits h, Option.map_some]
  rfl

theorem toList_text_ofNat (n : Nat) : (text (Int.ofNat n)).toList = Nat.toDigits 10 n := Nat.toList_repr

theorem toList_text_negSucc (n : Nat) : (text (Int.negSucc n)).toList = '-' :: Nat.toDigits 10 (n + 1) := by
  change ("-" ++ Nat.repr (n + 1)).toList = _
  rw [String.toList_append, Nat.toList_repr]
  rfl

/-- What is written within the limit of digits reads back. -/
theorem read?_write? {n : Int} {s : String} (h : write? n = some s) : read? s.toList = some n := by
  unfold write? digitCount at h
  split at h
  next hlen =>
    cases h
    cases n with
    | ofNat n =>
      rw [toList_text_ofNat]
      exact read?_toDigits hlen
    | negSucc n =>
      rw [toList_text_negSucc]
      exact read?_neg_toDigits hlen
  next => exact absurd h (by simp)

end ObjectIntake.Numeral
