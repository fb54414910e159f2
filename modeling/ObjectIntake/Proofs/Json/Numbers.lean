import ObjectIntake.Proofs.Json.Members
import ObjectIntake.Proofs.Numeral.Canonical

/-! Whole numbers are read digit by digit, and refused where they have too many digits. -/
namespace ObjectIntake.Json
open Text

/-- The text goes on with nothing that belongs to a number. -/
def EndsNumber (rest : List Char) : Prop :=
  ∀ c ∈ rest.head?, c.isDigit = false ∧ c ≠ '.' ∧ c ≠ 'e' ∧ c ≠ 'E'

variable {ds rest : List Char} (hds : ∀ d ∈ ds, d.isDigit = true) (hrest : EndsNumber rest)

omit hrest in
include hds in
theorem digitsOf_append (hrest : ∀ c ∈ rest.head?, c.isDigit = false) : digitsOf (ds ++ rest) = (ds, rest) := by
  unfold digitsOf
  rw [List.takeWhile_append_of_pos hds, List.dropWhile_append_of_pos hds]
  cases rest with
  | nil => simp
  | cons c rest =>
    have hc := hrest c rfl
    simp [hc]

include hrest in
theorem fractionOf_end : fractionOf rest = none := by
  cases rest with
  | nil => rfl
  | cons c rest =>
    have hc := (hrest c rfl).2.1
    unfold fractionOf
    split
    next h => exact absurd (List.cons.inj h).1 hc
    next => rfl

include hrest in
theorem exponentOf_end : exponentOf rest = none := by
  cases rest with
  | nil => rfl
  | cons c rest =>
    have hc := (hrest c rfl).2.2
    simp [exponentOf, hc]

include hds hrest in
/-- A number with too many digits is refused where it starts. -/
theorem readUnsigned_tooLong (hfirst : ds.head? ≠ some '0') (hlength : Numeral.digitLimit < ds.length)
    (start : List Char) (negative : Bool) :
    readUnsigned start negative (ds ++ rest) = faultAt (.integerTooLong ds.length) start := by
  obtain ⟨d, tail, rfl⟩ := List.exists_cons_of_ne_nil (show ds ≠ [] by rintro rfl; simp at hlength)
  have hd : d ≠ '0' := fun h => hfirst (congrArg some h)
  have hdigits := digitsOf_append hds fun c hc => (hrest c hc).1
  rw [List.cons_append] at hdigits ⊢
  simp only [List.length_cons] at hlength
  simp [readUnsigned, hd, hdigits, fractionOf_end hrest, exponentOf_end hrest, hlength]

section Values

omit hds hrest

variable {d : Char} (hd : d.isDigit = true) (rest : List Char)
include hd

theorem word?_of_isDigit : word? (d :: rest) = none := by
  have hne {c : Char} (hc : c.isDigit = false) : c ≠ d := (Numeral.ne_of_isDigit hd hc).symm
  simp [word?, hne]

/-- A value that starts with a digit is a number. -/
theorem readValue_of_isDigit (depth : Nat) :
    readValue depth (d :: rest) = readUnsigned (d :: rest) false (d :: rest) := by
  rw [readValue.eq_def]
  simp [word?_of_isDigit hd, Numeral.ne_of_isDigit hd]

end Values

section Members

omit hds hrest

variable (key : String) {value : List Char} {fault : Fault}

theorem readMembers_fault {item : List Char → Except Fault (Json × List Char)}
    (h : item (skipGap value) = .error fault) (fuel : Nat) (done : Keyed Json) :
    readMembers item (fuel + 1) done ('"' :: (key.toList.flatMap (escape ascii) ++ '"' :: ':' :: value)) =
      .error fault := by
  have hkey := readString_stringText key ('"' :: (key.toList.flatMap (escape ascii) ++ '"' :: ':' :: value))
    (':' :: value)
  simp only [readMembers, hkey, bind, Except.bind, skipGap_cons (show isGap ':' = false by decide), h]

/-- An object is refused where its first value is. -/
theorem readValue_obj_fault {depth : Nat} (h : readValue depth (skipGap value) = .error fault) :
    readValue (depth + 1) ('\x7b' :: ((stringText ascii key).toList ++ ':' :: value)) = .error fault := by
  have htext : (stringText ascii key).toList ++ ':' :: value =
      '"' :: (key.toList.flatMap (escape ascii) ++ '"' :: ':' :: value) := by
    simp [toList_stringText]
  have hmembers := readMembers_fault key h (key.toList.flatMap (escape ascii) ++ '"' :: ':' :: value).length.succ []
  rw [htext]
  unfold readValue
  simp only [skipGap_cons (show isGap '"' = false by decide)]
  change (readMembers (readValue depth) _ [] _ >>= _) = _
  rw [List.length_cons, hmembers]
  rfl

end Members

include hds hrest in
/-- An object whose first value is a number with too many digits is refused. -/
theorem read_tooLong (depth : Nat) (key : String) (hfirst : ds.head? ≠ some '0')
    (hlength : Numeral.digitLimit < ds.length) :
    ∃ left, read (depth + 1) (String.ofList ('\x7b' :: ((stringText ascii key).toList ++ ':' :: (ds ++ rest)))) =
      .error ⟨.integerTooLong ds.length, left⟩ := by
  have hvalue := readUnsigned_tooLong hds hrest hfirst hlength (ds ++ rest) false
  obtain ⟨d, tail, rfl⟩ := List.exists_cons_of_ne_nil (show ds ≠ [] by rintro rfl; simp at hlength)
  have hd : d.isDigit = true := hds d (List.mem_cons_self ..)
  have hgap : isGap d = false := by simp [isGap, Numeral.ne_of_isDigit hd]
  have hread : readValue depth (skipGap (d :: tail ++ rest)) =
      .error ⟨.integerTooLong (d :: tail).length, (d :: tail ++ rest).length⟩ := by
    rw [List.cons_append, skipGap_cons hgap, readValue_of_isDigit hd]
    exact hvalue
  have hobject := readValue_obj_fault key hread
  refine ⟨(d :: tail ++ rest).length, ?_⟩
  unfold read readWithin
  simp only [String.toList_ofList, skipGap_cons (show isGap '\x7b' = false by decide), hobject, bind, Except.bind]
  rfl

end ObjectIntake.Json
