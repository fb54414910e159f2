import ObjectIntake.Proofs.Json.Numbers

/-!
What the reader accepts is what the grammar says, and it gives up early only on texts with very long numbers or with
very many brackets.
-/
namespace ObjectIntake.Json

/-- The reader gives up, though what follows may be well formed. -/
def FaultKind.isLimit : FaultKind → Bool
  | .integerTooLong _ => true
  | .nestedTooDeep => true
  | _ => false

theorem FaultKind.isLimit_iff {kind : FaultKind} :
    kind.isLimit = true ↔ (∃ n, kind = .integerTooLong n) ∨ kind = .nestedTooDeep := by
  cases kind <;> simp [isLimit]

/-- A number of `n` digits that cannot be read stands in the text. -/
def LongNumber (n : Nat) (s : List Char) : Prop :=
  Numeral.digitLimit < n ∧ ∃ ds, ds <:+: s ∧ (∀ d ∈ ds, d.isDigit = true) ∧ ds.length = n

/-- How many brackets open an array or an object, those in strings included. -/
def openings (s : List Char) : Nat := s.countP fun c => c = '[' || c = '\x7b'

/-- A reason for giving up lies in the text. -/
def Excused (depth : Nat) (s : List Char) (fault : Fault) : Prop :=
  match fault.kind with
  | .integerTooLong n => LongNumber n s
  | .nestedTooDeep => depth < openings s
  | _ => True

section Strings

variable {s rest start done : List Char} {n fuel : Nat} {text : String}

theorem isLimit_of_readUnit {after : List Char} {fault : Fault} (h : readUnit after s = .error fault) :
    fault.kind.isLimit = false := by
  unfold readUnit at h
  split at h <;> cases h
  rfl

theorem isLimit_of_readLow {fault : Fault} (h : readLow s = .error fault) : fault.kind.isLimit = false := by
  unfold readLow at h
  split at h
  next tail =>
    split at h
    next => cases h
    next =>
      rcases Work.bind_eq_error.mp h with hunit | ⟨answer, -, hthen⟩
      · exact isLimit_of_readUnit hunit
      · cases hthen
  next => cases h

theorem isLimit_of_readString {fault : Fault} (h : readString start fuel done s = .error fault) :
    fault.kind.isLimit = false := by
  induction fuel generalizing done s with
  | zero => cases h; rfl
  | succ fuel ih =>
    cases s with
    | nil => cases h; rfl
    | cons c tail =>
      unfold readString at h
      split at h
      next => cases h
      split at h
      next => cases h; rfl
      split at h
      next =>
        split at h
        next => cases h; rfl
        next digits =>
          rcases Work.bind_eq_error.mp h with hunit | ⟨answer, -, hthen⟩
          · exact isLimit_of_readUnit hunit
          · dsimp only at hthen
            split at hthen
            next =>
              rcases Work.bind_eq_error.mp hthen with hlow | ⟨low, -, hlast⟩
              · exact isLimit_of_readLow hlow
              · split at hlast <;> exact ih hlast
            next => exact ih hthen
        next =>
          split at h
          next => exact ih h
          next => cases h; rfl
      next => exact ih h

end Strings

section Numbers

variable {s rest start : List Char} {negative : Bool} {j : Json} {fault : Fault}

theorem digitsOf_fst_append_snd (s : List Char) : (digitsOf s).1 ++ (digitsOf s).2 = s :=
  List.takeWhile_append_dropWhile

theorem isDigit_of_mem_digitsOf {d : Char} (h : d ∈ (digitsOf s).1) : d.isDigit = true :=
  List.all_eq_true.mp List.all_takeWhile d h

theorem fractionOf_eq_some {places : List Char} (h : fractionOf s = some (places, rest)) :
    places ≠ [] ∧ (∀ d ∈ places, d.isDigit = true) ∧ s = fractionText places ++ rest := by
  unfold fractionOf at h
  split at h
  next tail =>
    split at h
    next => cases h
    next hne =>
      have hplaces := Option.some.inj h
      have hne : places ≠ [] := by simpa [hplaces] using hne
      refine ⟨hne, fun d hd => ?_, ?_⟩
      · exact isDigit_of_mem_digitsOf (s := tail) (by rw [hplaces]; exact hd)
      · have htail := digitsOf_fst_append_snd tail
        rw [hplaces] at htail
        rw [fractionText, if_neg hne, List.cons_append, htail]
  next => cases h

theorem exponentOf_eq_some {exponent : Int} (h : exponentOf s = some (exponent, rest)) :
    ∃ text, text ≠ [] ∧ ExponentText exponent text ∧ s = text ++ rest := by
  unfold exponentOf at h
  split at h
  next e tail =>
    split at h
    next he =>
      have he : e = 'e' ∨ e = 'E' := by simpa using he
      have hdigits (r : List Char) : ∀ d ∈ (digitsOf r).1, d.isDigit = true := fun d hd => isDigit_of_mem_digitsOf hd
      split at h
      next negative r hsign =>
      dsimp only at h
      split at h
      next => cases h
      next hne =>
      rw [List.isEmpty_iff] at hne
      cases h
      split at hsign
      next r =>
        cases hsign
        refine ⟨e :: '-' :: (digitsOf r).1, List.cons_ne_nil _ _, .negative he hne (hdigits r), ?_⟩
        simp [digitsOf_fst_append_snd]
      next r =>
        cases hsign
        refine ⟨e :: (['+'] ++ (digitsOf r).1), List.cons_ne_nil _ _, .positive he (.inr rfl) hne (hdigits r), ?_⟩
        simp [digitsOf_fst_append_snd]
      next =>
        cases hsign
        refine ⟨e :: ([] ++ (digitsOf tail).1), List.cons_ne_nil _ _, .positive he (.inl rfl) hne (hdigits tail), ?_⟩
        simp [digitsOf_fst_append_snd]
    next => cases h
  next => cases h

/-- The digits before the point as they are read. -/
def wholeOf (s : List Char) : List Char × List Char :=
  match s with
  | '0' :: rest => (['0'], rest)
  | _ => digitsOf s

theorem wholeOf_fst_append_snd (s : List Char) : (wholeOf s).1 ++ (wholeOf s).2 = s := by
  unfold wholeOf
  split
  · rfl
  · exact digitsOf_fst_append_snd _

theorem wholeText_wholeOf (h : (wholeOf s).1 ≠ []) : WholeText (wholeOf s).1 := by
  unfold wholeOf at h ⊢
  split at h
  next => exact ⟨h, fun d hd => by rw [List.mem_singleton.mp hd]; rfl, fun _ => rfl⟩
  next hzero =>
    refine ⟨h, fun d hd => isDigit_of_mem_digitsOf hd, fun hhead => ?_⟩
    obtain ⟨d, tail, htail⟩ := List.exists_cons_of_ne_nil h
    have hs := digitsOf_fst_append_snd s
    rw [htail] at hhead hs
    cases hhead
    exact absurd hs.symm (hzero _)

theorem readUnsigned_eq (start : List Char) (negative : Bool) (s : List Char) :
    readUnsigned start negative s =
      if (wholeOf s).1.isEmpty then faultAt .expectingValue start
      else
        let fraction := fractionOf (wholeOf s).2
        let rest := (fraction.map (·.2)).getD (wholeOf s).2
        let exponent := exponentOf rest
        let rest := (exponent.map (·.2)).getD rest
        if fraction.isNone && exponent.isNone then
          if Numeral.digitLimit < (wholeOf s).1.length then faultAt (.integerTooLong (wholeOf s).1.length) start
          else .ok (.int (if negative then -(natOf (wholeOf s).1 : Int) else natOf (wholeOf s).1), rest)
        else
          let places := (fraction.map (·.1)).getD []
          .ok (.float (Numeral.Binary64.ofDecimal negative (natOf ((wholeOf s).1 ++ places))
            ((exponent.map (·.1)).getD 0 - places.length)), rest) := rfl

theorem fraction_split (s : List Char) :
    s = fractionText (((fractionOf s).map (·.1)).getD []) ++ ((fractionOf s).map (·.2)).getD s ∧
      (∀ d ∈ ((fractionOf s).map (·.1)).getD [], d.isDigit = true) ∧
      ((fractionOf s).isNone = true ↔ ((fractionOf s).map (·.1)).getD [] = []) := by
  cases h : fractionOf s with
  | none => exact ⟨rfl, List.forall_mem_nil _, by simp⟩
  | some answer =>
    obtain ⟨hne, hdigits, hs⟩ := fractionOf_eq_some h
    exact ⟨hs, hdigits, by simpa using hne⟩

theorem exponent_split (s : List Char) :
    ∃ text, s = text ++ ((exponentOf s).map (·.2)).getD s ∧
      ExponentText (((exponentOf s).map (·.1)).getD 0) text ∧ ((exponentOf s).isNone = true ↔ text = []) := by
  cases h : exponentOf s with
  | none => exact ⟨[], rfl, .absent, by simp⟩
  | some answer =>
    obtain ⟨text, hne, htext, hs⟩ := exponentOf_eq_some h
    exact ⟨text, hs, htext, by simpa using hne⟩

theorem unsignedText_of_readUnsigned (h : readUnsigned start negative s = .ok (j, rest)) :
    ∃ text, s = text ++ rest ∧ UnsignedText negative j text := by
  rw [readUnsigned_eq] at h
  split at h
  next => cases h
  next hne =>
  rw [List.isEmpty_iff] at hne
  have hwhole := wholeText_wholeOf hne
  have hs := wholeOf_fst_append_snd s
  obtain ⟨hfraction, hplaces, hnoFraction⟩ := fraction_split (wholeOf s).2
  dsimp only at h
  generalize ((fractionOf (wholeOf s).2).map (·.2)).getD (wholeOf s).2 = tail at *
  generalize ((fractionOf (wholeOf s).2).map (·.1)).getD [] = places at *
  obtain ⟨exponentChars, hexponent, hexponentText, hnoExponent⟩ := exponent_split tail
  split at h
  next hint =>
    rw [Bool.and_eq_true] at hint
    split at h
    next => cases h
    next =>
      obtain rfl := hnoFraction.mp hint.1
      obtain rfl := hnoExponent.mp hint.2
      cases h
      refine ⟨(wholeOf s).1, ?_, .int hwhole⟩
      have htail : (wholeOf s).2 = tail := hfraction
      rw [List.nil_append] at hexponent
      rw [← hexponent, ← htail, hs]
  next hfloat =>
    cases h
    refine ⟨(wholeOf s).1 ++ (fractionText places ++ exponentChars), ?_, .float hwhole hplaces hexponentText ?_⟩
    · rw [List.append_assoc, List.append_assoc, ← hexponent, ← hfraction, hs]
    · by_contra hnone
      rw [not_or, not_not, not_not] at hnone
      rw [hnoFraction.mpr hnone.1, hnoExponent.mpr hnone.2] at hfloat
      exact hfloat rfl

/-- Digits that are too many to be read stand at the start of the number. -/
theorem excused_of_readUnsigned (h : readUnsigned start negative s = .error fault) :
    fault.kind.isLimit = false ∨ ∃ n, fault.kind = .integerTooLong n ∧ LongNumber n s := by
  rw [readUnsigned_eq] at h
  split at h
  next => cases h; exact .inl rfl
  next hne =>
  rw [List.isEmpty_iff] at hne
  dsimp only at h
  split at h
  next =>
    split at h
    next hlong =>
      cases h
      refine .inr ⟨_, rfl, hlong, (wholeOf s).1, ⟨[], (wholeOf s).2, ?_⟩, (wholeText_wholeOf hne).digits, rfl⟩
      exact wholeOf_fst_append_snd s
    next => cases h
  next => cases h

end Numbers

section Excuses

variable {depth : Nat} {s s' : List Char} {fault : Fault}

theorem excused_of_not_limit (h : fault.kind.isLimit = false) : Excused depth s fault := by
  unfold Excused
  cases hkind : fault.kind <;> first | trivial | (rw [hkind] at h; cases h)

theorem openings_le (h : s <:+: s') : openings s ≤ openings s' := h.sublist.countP_le

theorem LongNumber.mono {n : Nat} (h : LongNumber n s) (hs : s <:+: s') : LongNumber n s' := by
  obtain ⟨hn, ds, hds, hdigits, hlength⟩ := h
  exact ⟨hn, ds, hds.trans hs, hdigits, hlength⟩

theorem Excused.mono (h : Excused depth s fault) (hs : s <:+: s') : Excused depth s' fault := by
  unfold Excused at h ⊢
  split at h
  next => exact h.mono hs
  next => exact Nat.lt_of_lt_of_le h (openings_le hs)
  next => trivial

/-- One level further out there is one bracket more. -/
theorem Excused.nested {c : Char} (h : Excused depth s fault) (hc : c = '[' ∨ c = '\x7b') :
    Excused (depth + 1) (c :: s) fault := by
  unfold Excused at h ⊢
  split at h
  next => exact h.mono (List.suffix_cons c s).isInfix
  next =>
    have hcount : openings (c :: s) = openings s + 1 := List.countP_cons_of_pos (by simpa using hc)
    rw [hcount]
    exact Nat.succ_lt_succ h
  next => trivial

end Excuses

theorem skipGap_split (s : List Char) : ∃ gap, Gap gap ∧ s = gap ++ skipGap s :=
  ⟨s.takeWhile isGap, fun c hc => List.all_eq_true.mp List.all_takeWhile c hc, List.takeWhile_append_dropWhile.symm⟩

theorem skipGap_isInfix (s : List Char) : skipGap s <:+: s := (List.dropWhile_suffix isGap).isInfix

/-- A reader of values gives those that the grammar gives, and has its reasons to give up. -/
structure Sound (depth : Nat) (grammar : Json → List Char → Prop)
    (item : List Char → Except Fault (Json × List Char)) : Prop where
  spelled : ∀ {s j rest}, item s = .ok (j, rest) → ∃ text, s = text ++ rest ∧ grammar j text
  excused : ∀ {s fault}, item s = .error fault → Excused depth s fault

section Lists

variable {depth fuel : Nat} {grammar : Json → List Char → Prop} {item : List Char → Except Fault (Json × List Char)}
  {s rest : List Char} {fault : Fault}

theorem separatedText_of_readItems (hitem : Sound depth grammar item) {done items : List Json}
    (h : readItems item fuel done s = .ok (items, rest)) :
    ∃ new body, s = body ++ ']' :: rest ∧ SeparatedText grammar new body ∧ items = done.reverse ++ new := by
  induction fuel generalizing done s with
  | zero => cases h
  | succ fuel ih =>
    unfold readItems at h
    obtain ⟨⟨j, tail⟩, hread, hthen⟩ := Work.bind_eq_ok.mp h
    obtain ⟨text, rfl, htext⟩ := hitem.spelled hread
    obtain ⟨before, hbefore, htail⟩ := skipGap_split tail
    dsimp only at hthen
    split at hthen
    next rest' hskip =>
      cases hthen
      rw [hskip] at htail
      exact ⟨[j], text ++ before, by rw [htail, List.append_assoc], .last htext hbefore, by simp⟩
    next rest' hskip =>
      rw [hskip] at htail
      obtain ⟨after, hafter, hrest'⟩ := skipGap_split rest'
      obtain ⟨new, body, hbody, hnew, rfl⟩ := ih hthen
      refine ⟨j :: new, text ++ (before ++ ',' :: (after ++ body)), ?_, .cons htext hbefore hafter hnew, by simp⟩
      rw [htail, hrest', hbody]
      simp
    next => cases hthen

theorem excused_of_readItems (hitem : Sound depth grammar item) {done : List Json}
    (h : readItems item fuel done s = .error fault) : Excused depth s fault := by
  induction fuel generalizing done s with
  | zero => cases h; trivial
  | succ fuel ih =>
    unfold readItems at h
    rcases Work.bind_eq_error.mp h with hread | ⟨⟨j, tail⟩, hread, hthen⟩
    · exact hitem.excused hread
    · obtain ⟨text, rfl, -⟩ := hitem.spelled hread
      dsimp only at hthen
      split at hthen
      next => cases hthen
      next rest' hskip =>
        have hpart : skipGap rest' <:+: tail :=
          (skipGap_isInfix rest').trans ((hskip ▸ (List.suffix_cons ',' rest').isInfix).trans (skipGap_isInfix tail))
        exact (ih hthen).mono (hpart.trans (List.suffix_append text tail).isInfix)
      next => cases hthen; trivial

theorem separatedText_of_readMembers (hitem : Sound depth grammar item) {done members : Keyed Json}
    (h : readMembers item fuel done s = .ok (members, rest)) :
    ∃ new body, s = body ++ '\x7d' :: rest ∧ SeparatedText (MemberText grammar) new body ∧
      members = new.foldl (fun m e => Keyed.put m e.1 e.2) done := by
  induction fuel generalizing done s with
  | zero => cases h
  | succ fuel ih =>
    unfold readMembers at h
    split at h
    next quoted =>
      obtain ⟨⟨key, tail⟩, hkey, hthen⟩ := Work.bind_eq_ok.mp h
      obtain ⟨cs, keyText, rfl, hkeyText, hcs⟩ := stringText_of_readString hkey
      obtain rfl : key = String.ofList cs := hcs
      obtain ⟨before, hbefore, htail⟩ := skipGap_split tail
      dsimp only at hthen
      split at hthen
      next valued hcolon =>
        rw [hcolon] at htail
        obtain ⟨after, hafter, hvalued⟩ := skipGap_split valued
        obtain ⟨⟨j, left⟩, hread, hlast⟩ := Work.bind_eq_ok.mp hthen
        obtain ⟨text, hvalue, htext⟩ := hitem.spelled hread
        have hmember : MemberText grammar (String.ofList cs, j)
            ('"' :: (keyText ++ '"' :: (before ++ ':' :: (after ++ text)))) := .mk hkeyText hbefore hafter htext
        obtain ⟨gap, hgap, hleft⟩ := skipGap_split left
        dsimp only at hlast
        split at hlast
        next rest' hskip =>
          cases hlast
          rw [hskip] at hleft
          refine ⟨[(String.ofList cs, j)], _, ?_, .last hmember hgap, rfl⟩
          rw [htail, hvalued, hvalue, hleft]
          simp
        next rest' hskip =>
          rw [hskip] at hleft
          obtain ⟨next, hnext, hrest'⟩ := skipGap_split rest'
          obtain ⟨new, body, hbody, hnew, rfl⟩ := ih hlast
          refine ⟨(String.ofList cs, j) :: new, _, ?_, .cons hmember hgap hnext hnew, rfl⟩
          rw [htail, hvalued, hvalue, hleft, hrest', hbody]
          simp
        next => cases hlast
      next => cases hthen
    next => cases h

theorem excused_of_readMembers (hitem : Sound depth grammar item) {done : Keyed Json}
    (h : readMembers item fuel done s = .error fault) : Excused depth s fault := by
  induction fuel generalizing done s with
  | zero => cases h; trivial
  | succ fuel ih =>
    unfold readMembers at h
    split at h
    next quoted =>
      rcases Work.bind_eq_error.mp h with hkey | ⟨⟨key, tail⟩, hkey, hthen⟩
      · exact excused_of_not_limit (isLimit_of_readString hkey)
      obtain ⟨cs, keyText, rfl, -, -⟩ := stringText_of_readString hkey
      have htail : tail <:+: '"' :: (keyText ++ '"' :: tail) := ⟨'"' :: (keyText ++ ['"']), [], by simp⟩
      dsimp only at hthen
      split at hthen
      next valued hcolon =>
        have hvalued : skipGap valued <:+: tail :=
          (skipGap_isInfix valued).trans ((hcolon ▸ (List.suffix_cons ':' valued).isInfix).trans (skipGap_isInfix tail))
        rcases Work.bind_eq_error.mp hthen with hread | ⟨⟨j, left⟩, hread, hlast⟩
        · exact (hitem.excused hread).mono (hvalued.trans htail)
        obtain ⟨text, hvalue, -⟩ := hitem.spelled hread
        dsimp only at hlast
        split at hlast
        next => cases hlast
        next rest' hskip =>
          have hleft : left <:+: skipGap valued := hvalue ▸ (List.suffix_append text left).isInfix
          have hrest' : skipGap rest' <:+: left :=
            (skipGap_isInfix rest').trans ((hskip ▸ (List.suffix_cons ',' rest').isInfix).trans (skipGap_isInfix left))
          exact (ih hlast).mono (hrest'.trans (hleft.trans (hvalued.trans htail)))
        next => cases hlast; trivial
      next => cases hthen; trivial
    next => cases h; trivial

end Lists

theorem word?_eq (s : List Char) :
    word? s = words.findSome? fun w => if w.1.toList.isPrefixOf s then some (w.2, s.drop w.1.length) else none := rfl

theorem scalarText_of_word? {s rest : List Char} {j : Json} (h : word? s = some (j, rest)) :
    ∃ text, s = text ++ rest ∧ ScalarText j text := by
  rw [word?_eq] at h
  obtain ⟨⟨w, i⟩, hw, hsome⟩ := List.exists_of_findSome?_eq_some h
  dsimp only at hsome
  split at hsome
  next hprefix =>
    cases hsome
    obtain ⟨tail, rfl⟩ := List.isPrefixOf_iff_prefix.mp hprefix
    refine ⟨w.toList, ?_, .word hw⟩
    rw [← String.length_toList, List.drop_left]
  next => cases hsome

section Values

variable {s rest : List Char} {j : Json} {fault : Fault}

/-- A string, after the quote that opens it. -/
def readQuoted (quoted : List Char) : Except Fault (Json × List Char) := do
  let (text, rest) ← readString ('"' :: quoted) (quoted.length + 1) [] quoted
  return (.str text, rest)

theorem scalarText_of_readQuoted {quoted : List Char} (h : readQuoted quoted = .ok (j, rest)) :
    ∃ text, '"' :: quoted = text ++ rest ∧ ScalarText j text := by
  unfold readQuoted at h
  obtain ⟨⟨text, left⟩, hread, hthen⟩ := Work.bind_eq_ok.mp h
  cases hthen
  obtain ⟨cs, body, rfl, hbody, hcs⟩ := stringText_of_readString hread
  rw [hcs]
  exact ⟨'"' :: (body ++ ['"']), by simp, .string hbody⟩

theorem isLimit_of_readQuoted {quoted : List Char} (h : readQuoted quoted = .error fault) :
    fault.kind.isLimit = false := by
  unfold readQuoted at h
  rcases Work.bind_eq_error.mp h with hread | ⟨answer, -, hthen⟩
  · exact isLimit_of_readString hread
  · cases hthen

/-- A number or a word. -/
def readScalar (s : List Char) : Except Fault (Json × List Char) :=
  match word? s with
  | some answer => .ok answer
  | none =>
      match s with
      | '-' :: rest => readUnsigned s true rest
      | s => readUnsigned s false s

theorem scalarText_of_readScalar (h : readScalar s = .ok (j, rest)) : ∃ text, s = text ++ rest ∧ ScalarText j text := by
  unfold readScalar at h
  split at h
  next hword =>
    cases h
    exact scalarText_of_word? hword
  next =>
    split at h
    next tail =>
      obtain ⟨text, rfl, htext⟩ := unsignedText_of_readUnsigned h
      exact ⟨signText true ++ text, rfl, .number htext⟩
    next =>
      obtain ⟨text, rfl, htext⟩ := unsignedText_of_readUnsigned h
      exact ⟨text, rfl, .number htext⟩

theorem excused_of_readScalar {depth : Nat} (h : readScalar s = .error fault) : Excused depth s fault := by
  have hnumber {negative : Bool} {start tail : List Char} (h : readUnsigned start negative tail = .error fault)
      (hs : tail <:+: s) : Excused depth s fault := by
    rcases excused_of_readUnsigned h with hlimit | ⟨n, hkind, hlong⟩
    · exact excused_of_not_limit hlimit
    · unfold Excused
      rw [hkind]
      exact hlong.mono hs
  unfold readScalar at h
  split at h
  next => cases h
  next =>
    split at h
    next => exact hnumber h (List.suffix_cons _ _).isInfix
    next => exact hnumber h (List.infix_refl _)

theorem ScalarText.value {text : List Char} (h : ScalarText j text) (depth : Nat) : ValueText depth j text := by
  cases depth with
  | zero => exact h
  | succ depth => exact .scalar h

theorem excused_of_nestedTooDeep {c : Char} {tail : List Char} (hc : c = '[' ∨ c = '\x7b') :
    Excused 0 (c :: tail) ⟨.nestedTooDeep, (c :: tail).length⟩ := by
  have hcount : openings (c :: tail) = openings tail + 1 := List.countP_cons_of_pos (by simpa using hc)
  change 0 < openings (c :: tail)
  omega

section Brackets

variable {depth : Nat} {grammar : Json → List Char → Prop} {item : List Char → Except Fault (Json × List Char)}
  {tail : List Char}

/-- An array, after its opening bracket. -/
def readArray (item : List Char → Except Fault (Json × List Char)) (tail : List Char) :
    Except Fault (Json × List Char) :=
  match skipGap tail with
  | ']' :: rest => .ok (.arr [], rest)
  | rest => do
      let (items, rest) ← readItems item (rest.length + 1) [] rest
      return (.arr items, rest)

/-- An object, after its opening bracket. -/
def readObject (item : List Char → Except Fault (Json × List Char)) (tail : List Char) :
    Except Fault (Json × List Char) :=
  match skipGap tail with
  | '\x7d' :: rest => .ok (.obj [], rest)
  | rest => do
      let (members, rest) ← readMembers item (rest.length + 1) [] rest
      return (.obj members, rest)

theorem nestedText_of_readArray (hitem : Sound depth grammar item) (h : readArray item tail = .ok (j, rest)) :
    ∃ text, '[' :: tail = text ++ rest ∧ NestedText grammar j text := by
  obtain ⟨gap, hgap, htail⟩ := skipGap_split tail
  unfold readArray at h
  split at h
  next left hskip =>
    cases h
    rw [hskip] at htail
    exact ⟨'[' :: (gap ++ [']']), by rw [htail]; simp, .noItems hgap⟩
  next =>
    obtain ⟨⟨items, left⟩, hitems, hthen⟩ := Work.bind_eq_ok.mp h
    cases hthen
    obtain ⟨new, body, hbody, hsep, hnew⟩ := separatedText_of_readItems hitem hitems
    rw [hnew]
    exact ⟨'[' :: (gap ++ (body ++ [']'])), by rw [htail, hbody]; simp, .items hgap hsep⟩

theorem nestedText_of_readObject (hitem : Sound depth grammar item) (h : readObject item tail = .ok (j, rest)) :
    ∃ text, '\x7b' :: tail = text ++ rest ∧ NestedText grammar j text := by
  obtain ⟨gap, hgap, htail⟩ := skipGap_split tail
  unfold readObject at h
  split at h
  next left hskip =>
    cases h
    rw [hskip] at htail
    exact ⟨'\x7b' :: (gap ++ ['\x7d']), by rw [htail]; simp, .noMembers hgap⟩
  next =>
    obtain ⟨⟨members, left⟩, hmembers, hthen⟩ := Work.bind_eq_ok.mp h
    cases hthen
    obtain ⟨new, body, hbody, hsep, hnew⟩ := separatedText_of_readMembers hitem hmembers
    rw [hnew]
    exact ⟨'\x7b' :: (gap ++ (body ++ ['\x7d'])), by rw [htail, hbody]; simp, .members hgap hsep⟩

theorem excused_of_readArray (hitem : Sound depth grammar item) (h : readArray item tail = .error fault) :
    Excused depth tail fault := by
  unfold readArray at h
  split at h
  next => cases h
  next =>
    rcases Work.bind_eq_error.mp h with hitems | ⟨answer, -, hthen⟩
    · exact (excused_of_readItems hitem hitems).mono (skipGap_isInfix tail)
    · cases hthen

theorem excused_of_readObject (hitem : Sound depth grammar item) (h : readObject item tail = .error fault) :
    Excused depth tail fault := by
  unfold readObject at h
  split at h
  next => cases h
  next =>
    rcases Work.bind_eq_error.mp h with hmembers | ⟨answer, -, hthen⟩
    · exact (excused_of_readMembers hitem hmembers).mono (skipGap_isInfix tail)
    · cases hthen

end Brackets

theorem sound_readValue (depth : Nat) : Sound depth (ValueText depth) (readValue depth) := by
  induction depth with
  | zero =>
    constructor
    · intro s j rest h
      unfold readValue at h
      split at h
      next => exact scalarText_of_readQuoted h
      next => cases h
      next => cases h
      next => exact scalarText_of_readScalar h
    · intro s fault h
      unfold readValue at h
      split at h
      next => exact excused_of_not_limit (isLimit_of_readQuoted h)
      next => cases h; exact excused_of_nestedTooDeep (.inl rfl)
      next => cases h; exact excused_of_nestedTooDeep (.inr rfl)
      next => exact excused_of_readScalar h
  | succ depth ih =>
    have hscalar {s rest : List Char} {j : Json} (h : ∃ text, s = text ++ rest ∧ ScalarText j text) :
        ∃ text, s = text ++ rest ∧ ValueText (depth + 1) j text := h.imp fun text h => ⟨h.1, h.2.value _⟩
    constructor
    · intro s j rest h
      unfold readValue at h
      split at h
      next => exact hscalar (scalarText_of_readQuoted h)
      next => exact nestedText_of_readArray ih h
      next => exact nestedText_of_readObject ih h
      next => exact hscalar (scalarText_of_readScalar h)
    · intro s fault h
      unfold readValue at h
      split at h
      next => exact excused_of_not_limit (isLimit_of_readQuoted h)
      next => exact (excused_of_readArray ih h).nested (.inl rfl)
      next => exact (excused_of_readObject ih h).nested (.inr rfl)
      next => exact excused_of_readScalar h

end Values

/-- What is read is a document for its value. -/
theorem document_of_readWithin {depth : Nat} {s : List Char} {j : Json} (h : readWithin depth s = .ok j) :
    Document s j := by
  unfold readWithin at h
  split at h
  next => cases h
  next =>
    obtain ⟨⟨i, rest⟩, hvalue, hthen⟩ := Work.bind_eq_ok.mp h
    dsimp only at hthen
    split at hthen
    next hskip =>
      cases hthen
      obtain ⟨before, hbefore, hs⟩ := skipGap_split s
      obtain ⟨body, hbody, htext⟩ := (sound_readValue depth).spelled hvalue
      obtain ⟨after, hafter, hrest⟩ := skipGap_split rest
      rw [hskip, List.append_nil] at hrest
      subst hrest
      exact ⟨depth, before, body, rest, htext, hbefore, hafter, by rw [hs, hbody]⟩
    next => cases hthen

theorem excused_of_readWithin {depth : Nat} {s : List Char} {fault : Fault} (h : readWithin depth s = .error fault) :
    Excused depth s fault := by
  unfold readWithin at h
  split at h
  next => cases h; trivial
  next =>
    rcases Work.bind_eq_error.mp h with hvalue | ⟨⟨i, rest⟩, -, hthen⟩
    · exact ((sound_readValue depth).excused hvalue).mono (skipGap_isInfix s)
    · dsimp only at hthen
      split at hthen
      next => cases hthen
      next => cases hthen; trivial

end ObjectIntake.Json
