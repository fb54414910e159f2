import ObjectIntake.Proofs.Json.Soundness

/-!
What the grammar gives the reader accepts, unless it gives up on a number that is too long or on brackets that are
too deep.
-/
namespace ObjectIntake.Json

/-- The answer is `a`, or the reader has given up. -/
def Answers {α : Type} (r : Except Fault α) (a : α) : Prop :=
  r = .ok a ∨ ∃ fault, r = .error fault ∧ fault.kind.isLimit = true

theorem Answers.bind {α β : Type} {r : Except Fault α} {a : α} {f : α → Except Fault β} {b : β} (h : Answers r a)
    (hf : Answers (f a) b) : Answers (r >>= f) b := by
  rcases h with rfl | ⟨fault, rfl, hlimit⟩
  · exact hf
  · exact .inr ⟨fault, rfl, hlimit⟩

/-- The end of the text, or something that may follow a value. -/
def Follows (rest : List Char) : Prop := ∀ c ∈ rest.head?, isGap c = true ∨ c = ',' ∨ c = ']' ∨ c = '\x7d'

theorem Follows.endsNumber {rest : List Char} (h : Follows rest) : EndsNumber rest := by
  intro c hc
  rcases h c hc with hgap | rfl | rfl | rfl
  · simp only [isGap, Bool.or_eq_true, decide_eq_true_eq] at hgap
    rcases hgap with ((rfl | rfl) | rfl) | rfl <;> decide
  · decide
  · decide
  · decide

theorem follows_of_gap {gap rest : List Char} (hgap : Gap gap) (hrest : Follows rest) : Follows (gap ++ rest) := by
  cases gap with
  | nil => exact hrest
  | cons c gap =>
    intro d hd
    cases hd
    exact .inl (hgap c (List.mem_cons_self ..))

theorem skipGap_append {gap : List Char} (hgap : Gap gap) (rest : List Char) : skipGap (gap ++ rest) = skipGap rest :=
  List.dropWhile_append_of_pos hgap

section Numbers

variable {ds places rest exponentChars : List Char} {exponent : Int} {negative : Bool} {j : Json} {text : List Char}

theorem wholeOf_append (h : WholeText ds) (hrest : ∀ c ∈ rest.head?, c.isDigit = false) :
    wholeOf (ds ++ rest) = (ds, rest) := by
  obtain ⟨d, tail, rfl⟩ := List.exists_cons_of_ne_nil h.ne_nil
  by_cases hzero : d = '0'
  · obtain ⟨rfl, rfl⟩ : d = '0' ∧ tail = [] := by simpa using h.leading (congrArg some hzero)
    rfl
  · unfold wholeOf
    split
    next heq => exact absurd (List.cons.inj heq).1 hzero
    next => exact digitsOf_append h.digits hrest

theorem ExponentText.head_not_digit (h : ExponentText exponent exponentChars) (hrest : EndsNumber rest) :
    ∀ c ∈ (exponentChars ++ rest).head?, c.isDigit = false ∧ c ≠ '.' := by
  have he {e : Char} (he : e = 'e' ∨ e = 'E') : e.isDigit = false ∧ e ≠ '.' := by
    rcases he with rfl | rfl <;> decide
  intro c hc
  cases h with
  | absent => exact ⟨(hrest c hc).1, (hrest c hc).2.1⟩
  | negative he' => cases hc; exact he he'
  | positive he' => cases hc; exact he he'

theorem exponentOf_exponentText (h : ExponentText exponent exponentChars) (hrest : EndsNumber rest) :
    exponentOf (exponentChars ++ rest) = if exponentChars = [] then none else some (exponent, rest) := by
  have hdigits {ds : List Char} (hds : ∀ d ∈ ds, d.isDigit = true) : digitsOf (ds ++ rest) = (ds, rest) :=
    digitsOf_append hds fun c hc => (hrest c hc).1
  cases h with
  | absent => exact exponentOf_end hrest
  | negative he hne hds => simp [exponentOf, he, hdigits hds, hne]
  | @positive e sign ds he hsign hne hds =>
    rcases hsign with rfl | rfl
    · obtain ⟨d, tail, rfl⟩ := List.exists_cons_of_ne_nil hne
      have hd := hds d (List.mem_cons_self ..)
      have hread := hdigits hds
      rw [List.cons_append] at hread
      have hminus : d ≠ '-' := Numeral.ne_of_isDigit hd rfl
      have hplus : d ≠ '+' := Numeral.ne_of_isDigit hd rfl
      simp [exponentOf, he, hread, hminus, hplus]
    · simp [exponentOf, he, hdigits hds, hne]

theorem fractionOf_fractionText (hplaces : ∀ d ∈ places, d.isDigit = true)
    (hrest : ∀ c ∈ rest.head?, c.isDigit = false ∧ c ≠ '.') :
    fractionOf (fractionText places ++ rest) = if places = [] then none else some (places, rest) := by
  unfold fractionText
  split
  next hnil =>
    unfold fractionOf
    split
    next tail heq => exact absurd rfl (hrest '.' (by rw [List.nil_append] at heq; rw [heq]; rfl)).2
    next => rfl
  next hne =>
    have hdigits := digitsOf_append hplaces fun c hc => (hrest c hc).1
    simp [fractionOf, hdigits, hne]

/-- A whole number is read, unless it has too many digits. -/
theorem readUnsigned_of_wholeText (h : WholeText ds) (hrest : EndsNumber rest) (start : List Char) (negative : Bool) :
    readUnsigned start negative (ds ++ rest) =
      if Numeral.digitLimit < ds.length then faultAt (.integerTooLong ds.length) start
      else .ok (.int (if negative then -(natOf ds : Int) else natOf ds), rest) := by
  have hempty : ds.isEmpty ≠ true := fun hnil => h.ne_nil (List.isEmpty_iff.mp hnil)
  rw [readUnsigned_eq, wholeOf_append h fun c hc => (hrest c hc).1]
  dsimp only
  rw [if_neg hempty, fractionOf_end hrest]
  simp only [Option.map_none, Option.getD_none, exponentOf_end hrest, Option.isNone_none, Bool.and_self, if_true]

theorem readUnsigned_of_unsignedText (h : UnsignedText negative j text) (start : List Char) (hrest : EndsNumber rest) :
    Answers (readUnsigned start negative (text ++ rest)) (j, rest) := by
  cases h with
  | int hwhole =>
    rw [readUnsigned_of_wholeText hwhole hrest]
    split
    · exact .inr ⟨_, rfl, rfl⟩
    · exact .inl rfl
  | @float ds places exponentChars exponent hwhole hplaces hexponent hsome =>
    have hempty : ds.isEmpty ≠ true := fun h => hwhole.ne_nil (List.isEmpty_iff.mp h)
    have hafter := hexponent.head_not_digit hrest
    have hnext : ∀ c ∈ (fractionText places ++ (exponentChars ++ rest)).head?, c.isDigit = false := by
      unfold fractionText
      split
      · exact fun c hc => (hafter c hc).1
      · intro c hc
        cases hc
        rfl
    rw [readUnsigned_eq, List.append_assoc, List.append_assoc, wholeOf_append hwhole hnext]
    dsimp only
    rw [if_neg hempty, fractionOf_fractionText hplaces hafter]
    have hexponentOf := exponentOf_exponentText hexponent hrest
    by_cases hnone : places = []
    · subst hnone
      have hchars : exponentChars ≠ [] := hsome.resolve_left (fun h => h rfl)
      rw [if_neg hchars] at hexponentOf
      left
      simp [fractionText, hexponentOf]
    · left
      by_cases hchars : exponentChars = []
      · subst hchars
        cases hexponent
        simp [hnone, exponentOf_end hrest]
      · rw [if_neg hchars] at hexponentOf
        simp [hnone, hexponentOf]

end Numbers

/-- The text starts with a character that ends nothing and is no gap. -/
def Begins (text : List Char) : Prop :=
  ∃ c tail, text = c :: tail ∧ isGap c = false ∧ c ≠ ']' ∧ c ≠ '\x7d' ∧ c ≠ '\uFEFF'

theorem begins_cons {c : Char} (h : isGap c = false ∧ c ≠ ']' ∧ c ≠ '\x7d' ∧ c ≠ '\uFEFF') (tail : List Char) :
    Begins (c :: tail) := ⟨c, tail, rfl, h⟩

section Scalars

variable {j : Json} {text rest : List Char}

theorem begins_of_isDigit {d : Char} (hd : d.isDigit = true) (tail : List Char) : Begins (d :: tail) := by
  have hne {c : Char} (hc : c.isDigit = false) : d ≠ c := Numeral.ne_of_isDigit hd hc
  refine ⟨d, tail, rfl, ?_, hne rfl, hne rfl, hne rfl⟩
  simp [isGap, hne]

theorem UnsignedText.exists_cons {negative : Bool} (h : UnsignedText negative j text) :
    ∃ d tail, text = d :: tail ∧ d.isDigit = true := by
  have hwhole {ds : List Char} (h : WholeText ds) : ∃ d tail, ds = d :: tail ∧ d.isDigit = true := by
    obtain ⟨d, tail, rfl⟩ := List.exists_cons_of_ne_nil h.ne_nil
    exact ⟨d, tail, rfl, h.digits d (List.mem_cons_self ..)⟩
  cases h with
  | int h => exact hwhole h
  | float h =>
    obtain ⟨d, tail, rfl, hd⟩ := hwhole h
    exact ⟨d, _, List.cons_append .., hd⟩

theorem ScalarText.begins (h : ScalarText j text) : Begins text := by
  cases h with
  | word h =>
    simp only [words, List.mem_cons, Prod.mk.injEq, List.not_mem_nil, or_false] at h
    rcases h with ⟨rfl, -⟩ | ⟨rfl, -⟩ | ⟨rfl, -⟩ | ⟨rfl, -⟩ | ⟨rfl, -⟩ | ⟨rfl, -⟩ <;>
      exact begins_cons (by decide) _
  | @number negative _ _ h =>
    cases negative with
    | true => exact begins_cons (by decide) _
    | false =>
      obtain ⟨d, tail, rfl, hd⟩ := h.exists_cons
      exact begins_of_isDigit hd tail
  | string => exact begins_cons (by decide) _

theorem word?_of_mem {w : String} (h : (w, j) ∈ words) (rest : List Char) :
    word? (w.toList ++ rest) = some (j, rest) := by
  simp only [words, List.mem_cons, Prod.mk.injEq, List.not_mem_nil, or_false] at h
  rcases h with ⟨rfl, rfl⟩ | ⟨rfl, rfl⟩ | ⟨rfl, rfl⟩ | ⟨rfl, rfl⟩ | ⟨rfl, rfl⟩ | ⟨rfl, rfl⟩ <;> rfl

theorem word?_minus {d : Char} (hd : d.isDigit = true) (tail : List Char) : word? ('-' :: d :: tail) = none := by
  have hne : 'I' ≠ d := (Numeral.ne_of_isDigit hd rfl).symm
  simp [word?, hne]

theorem readValue_eq_readScalar {c : Char} {tail : List Char} (hquote : c ≠ '"') (harray : c ≠ '[')
    (hobject : c ≠ '\x7b') (depth : Nat) : readValue depth (c :: tail) = readScalar (c :: tail) := by
  rw [readValue.eq_def]
  simp only [List.cons.injEq, hquote, harray, hobject, false_and, imp_self, implies_true]
  rfl

theorem readValue_of_word {w : String} (h : (w, j) ∈ words) (rest : List Char) (depth : Nat) :
    readValue depth (w.toList ++ rest) = .ok (j, rest) := by
  have hscalar : readScalar (w.toList ++ rest) = .ok (j, rest) := by
    unfold readScalar
    rw [word?_of_mem h]
  have hvalue : readValue depth (w.toList ++ rest) = readScalar (w.toList ++ rest) := by
    simp only [words, List.mem_cons, Prod.mk.injEq, List.not_mem_nil, or_false] at h
    rcases h with ⟨rfl, -⟩ | ⟨rfl, -⟩ | ⟨rfl, -⟩ | ⟨rfl, -⟩ | ⟨rfl, -⟩ | ⟨rfl, -⟩ <;>
      exact readValue_eq_readScalar (by decide) (by decide) (by decide) depth
  exact hvalue.trans hscalar

theorem readValue_of_scalarText (h : ScalarText j text) (hrest : Follows rest) (depth : Nat) :
    Answers (readValue depth (text ++ rest)) (j, rest) := by
  cases h with
  | word h => exact .inl (readValue_of_word h rest depth)
  | @number negative _ _ h =>
    obtain ⟨d, tail, rfl, hd⟩ := h.exists_cons
    cases negative with
    | true =>
      have hread := readUnsigned_of_unsignedText h ('-' :: d :: (tail ++ rest)) hrest.endsNumber
      change Answers (readValue depth ('-' :: d :: (tail ++ rest))) _
      rw [readValue_eq_readScalar (by decide) (by decide) (by decide), readScalar, word?_minus hd]
      exact hread
    | false =>
      have hread := readUnsigned_of_unsignedText h (d :: (tail ++ rest)) hrest.endsNumber
      change Answers (readValue depth (d :: (tail ++ rest))) _
      rw [readValue_of_isDigit hd]
      exact hread
  | @string cs body h =>
    have hread := readString_of_stringText h ('"' :: (body ++ '"' :: rest)) rest
      (show body.length < (body ++ '"' :: rest).length + 1 by rw [List.length_append]; omega) []
    left
    rw [List.cons_append, List.append_assoc, List.singleton_append]
    unfold readValue
    simp only [hread, bind, Except.bind]
    rfl

end Scalars

/-- A reader of values accepts what the grammar gives. -/
structure Complete (grammar : Json → List Char → Prop) (item : List Char → Except Fault (Json × List Char)) : Prop where
  reads : ∀ {j text rest}, grammar j text → Follows rest → Answers (item (text ++ rest)) (j, rest)
  begins : ∀ {j text}, grammar j text → Begins text

theorem Begins.append {text : List Char} (h : Begins text) (rest : List Char) : Begins (text ++ rest) := by
  obtain ⟨c, tail, rfl, hc⟩ := h
  exact ⟨c, tail ++ rest, rfl, hc⟩

theorem Begins.skipGap_eq {text : List Char} (h : Begins text) : skipGap text = text := by
  obtain ⟨c, tail, rfl, hc, -⟩ := h
  exact skipGap_cons hc tail

theorem SeparatedText.begins {α : Type} {grammar : α → List Char → Prop} {items : List α} {body : List Char}
    (hitem : ∀ {a text}, grammar a text → Begins text) (h : SeparatedText grammar items body) : Begins body := by
  cases h with
  | last h => exact (hitem h).append _
  | cons h => exact (hitem h).append _

theorem MemberText.begins {grammar : Json → List Char → Prop} {m : String × Json} {text : List Char}
    (h : MemberText grammar m text) : Begins text := by
  cases h
  exact begins_cons (by decide) _

section Lists

variable {grammar : Json → List Char → Prop} {item : List Char → Except Fault (Json × List Char)} {body : List Char}
  {fuel : Nat}

theorem readItems_of_separatedText (hitem : Complete grammar item) {items : List Json}
    (h : SeparatedText grammar items body) (hfuel : body.length < fuel) (done : List Json) (rest : List Char) :
    Answers (readItems item fuel done (body ++ ']' :: rest)) (done.reverse ++ items, rest) := by
  induction h generalizing fuel done with
  | @last j text gap h hgap =>
    obtain ⟨fuel, rfl⟩ := Nat.exists_eq_succ_of_ne_zero (show fuel ≠ 0 by omega)
    have hfollows : Follows (gap ++ ']' :: rest) :=
      follows_of_gap hgap fun c hc => by cases hc; exact .inr (.inr (.inl rfl))
    rw [List.append_assoc, readItems]
    refine (hitem.reads h hfollows).bind ?_
    simp only [skipGap_append hgap, skipGap_cons (show isGap ']' = false by decide)]
    exact .inl (by simp [pure, Except.pure])
  | @cons j items text before after tail h hbefore hafter htail ih =>
    obtain ⟨fuel, rfl⟩ := Nat.exists_eq_succ_of_ne_zero (show fuel ≠ 0 by omega)
    have hfollows : Follows (before ++ ',' :: (after ++ (tail ++ ']' :: rest))) :=
      follows_of_gap hbefore fun c hc => by cases hc; exact .inr (.inl rfl)
    have hfuel' : tail.length < fuel := by
      simp only [List.length_append, List.length_cons] at hfuel
      omega
    have hnext := ih hfuel' (j :: done)
    have hskip : skipGap (after ++ (tail ++ ']' :: rest)) = tail ++ ']' :: rest := by
      rw [skipGap_append hafter, ((htail.begins hitem.begins).append _).skipGap_eq]
    have hassoc : text ++ (before ++ ',' :: (after ++ tail)) ++ ']' :: rest =
        text ++ (before ++ ',' :: (after ++ (tail ++ ']' :: rest))) := by simp
    rw [hassoc, readItems]
    refine (hitem.reads h hfollows).bind ?_
    simp only [skipGap_append hbefore, skipGap_cons (show isGap ',' = false by decide), hskip]
    simpa using hnext

/-- One member is read, and then what follows it. -/
theorem readMembers_member (hitem : Complete grammar item) {key : String} {j : Json} {text tail : List Char}
    (h : MemberText grammar (key, j) text) (htail : Follows tail) {done : Keyed Json}
    {answer : Keyed Json × List Char}
    (hnext : Answers (match skipGap tail with
      | '\x7d' :: rest => .ok (done.put key j, rest)
      | ',' :: rest => readMembers item fuel (done.put key j) (skipGap rest)
      | rest => faultAt .expectingComma rest) answer) :
    Answers (readMembers item (fuel + 1) done (text ++ tail)) answer := by
  cases h with
  | @mk cs keyText before after valueText _ hkey hbefore hafter hvalue =>
    have hassoc : '"' :: (keyText ++ '"' :: (before ++ ':' :: (after ++ valueText))) ++ tail =
        '"' :: (keyText ++ '"' :: (before ++ ':' :: (after ++ (valueText ++ tail)))) := by simp
    have hread := readString_of_stringText hkey
      ('"' :: (keyText ++ '"' :: (before ++ ':' :: (after ++ (valueText ++ tail)))))
      (before ++ ':' :: (after ++ (valueText ++ tail)))
      (show keyText.length < (keyText ++ '"' :: (before ++ ':' :: (after ++ (valueText ++ tail)))).length + 1 by
        rw [List.length_append]
        omega) []
    have hskip : skipGap (after ++ (valueText ++ tail)) = valueText ++ tail := by
      rw [skipGap_append hafter, ((hitem.begins hvalue).append tail).skipGap_eq]
    rw [hassoc]
    simp only [readMembers, hread, bind, Except.bind, skipGap_append hbefore,
      skipGap_cons (show isGap ':' = false by decide), hskip]
    exact (hitem.reads hvalue htail).bind hnext

theorem readMembers_of_separatedText (hitem : Complete grammar item) {members : List (String × Json)}
    (h : SeparatedText (MemberText grammar) members body) (hfuel : body.length < fuel) (done : Keyed Json)
    (rest : List Char) :
    Answers (readMembers item fuel done (body ++ '\x7d' :: rest))
      (members.foldl (fun m e => Keyed.put m e.1 e.2) done, rest) := by
  induction h generalizing fuel done with
  | @last m text gap h hgap =>
    obtain ⟨fuel, rfl⟩ := Nat.exists_eq_succ_of_ne_zero (show fuel ≠ 0 by omega)
    have hfollows : Follows (gap ++ '\x7d' :: rest) :=
      follows_of_gap hgap fun c hc => by cases hc; exact .inr (.inr (.inr rfl))
    rw [List.append_assoc]
    refine readMembers_member hitem h hfollows ?_
    simp only [skipGap_append hgap, skipGap_cons (show isGap '\x7d' = false by decide)]
    exact .inl rfl
  | @cons m members text before after tail h hbefore hafter htail ih =>
    obtain ⟨fuel, rfl⟩ := Nat.exists_eq_succ_of_ne_zero (show fuel ≠ 0 by omega)
    have hfollows : Follows (before ++ ',' :: (after ++ (tail ++ '\x7d' :: rest))) :=
      follows_of_gap hbefore fun c hc => by cases hc; exact .inr (.inl rfl)
    have hfuel' : tail.length < fuel := by
      simp only [List.length_append, List.length_cons] at hfuel
      omega
    have hskip : skipGap (after ++ (tail ++ '\x7d' :: rest)) = tail ++ '\x7d' :: rest := by
      rw [skipGap_append hafter, ((htail.begins MemberText.begins).append _).skipGap_eq]
    have hassoc : text ++ (before ++ ',' :: (after ++ tail)) ++ '\x7d' :: rest =
        text ++ (before ++ ',' :: (after ++ (tail ++ '\x7d' :: rest))) := by simp
    rw [hassoc]
    refine readMembers_member hitem h hfollows ?_
    simp only [skipGap_append hbefore, skipGap_cons (show isGap ',' = false by decide), hskip]
    exact ih hfuel' (done.put m.1 m.2)

end Lists

section Values

variable {grammar : Json → List Char → Prop} {item : List Char → Except Fault (Json × List Char)} {j : Json}
  {text rest : List Char}

theorem NestedText.begins (h : NestedText grammar j text) : Begins text := by
  cases h with
  | scalar h => exact h.begins
  | noItems | items => exact begins_cons (by decide) _
  | noMembers | members => exact begins_cons (by decide) _

theorem ValueText.begins {depth : Nat} (h : ValueText depth j text) : Begins text := by
  cases depth with
  | zero => exact ScalarText.begins h
  | succ depth => exact NestedText.begins h

theorem readArray_noItems {gap : List Char} (hgap : Gap gap) (rest : List Char) :
    readArray item (gap ++ ']' :: rest) = .ok (.arr [], rest) := by
  unfold readArray
  rw [skipGap_append hgap, skipGap_cons (by decide)]
  rfl

/-- An array that goes on with a value is read item by item. -/
theorem readArray_of_begins {tail : List Char} (h : Begins tail) :
    readArray item tail =
      readItems item (tail.length + 1) [] tail >>= fun answer => .ok (.arr answer.1, answer.2) := by
  unfold readArray
  rw [h.skipGap_eq]
  obtain ⟨c, tail, rfl, -, hne, -⟩ := h
  split
  next heq => exact absurd (List.cons.inj heq).1 hne
  next => rfl

theorem readArray_items (hitem : Complete grammar item) {gap body : List Char} {items : List Json} (hgap : Gap gap)
    (h : SeparatedText grammar items body) (rest : List Char) :
    Answers (readArray item (gap ++ (body ++ ']' :: rest))) (.arr items, rest) := by
  have hbegins := (h.begins hitem.begins).append (']' :: rest)
  have hread := readItems_of_separatedText hitem h
    (show body.length < (body ++ ']' :: rest).length + 1 by rw [List.length_append]; omega) [] rest
  have hgapped : readArray item (gap ++ (body ++ ']' :: rest)) = readArray item (body ++ ']' :: rest) := by
    unfold readArray
    rw [skipGap_append hgap]
  rw [hgapped, readArray_of_begins hbegins]
  exact hread.bind (.inl rfl)

theorem readObject_noMembers {gap : List Char} (hgap : Gap gap) (rest : List Char) :
    readObject item (gap ++ '\x7d' :: rest) = .ok (.obj [], rest) := by
  unfold readObject
  rw [skipGap_append hgap, skipGap_cons (by decide)]
  rfl

theorem readObject_members (hitem : Complete grammar item) {gap body : List Char} {members : List (String × Json)}
    (hgap : Gap gap) (h : SeparatedText (MemberText grammar) members body) (rest : List Char) :
    Answers (readObject item (gap ++ (body ++ '\x7d' :: rest))) (.obj (Keyed.ofList members), rest) := by
  have hbegins := (h.begins MemberText.begins).append ('\x7d' :: rest)
  have hread := readMembers_of_separatedText hitem h
    (show body.length < (body ++ '\x7d' :: rest).length + 1 by rw [List.length_append]; omega) [] rest
  unfold readObject
  rw [skipGap_append hgap, hbegins.skipGap_eq]
  obtain ⟨c, tail, hbody, -, -, hne, -⟩ := hbegins
  rw [hbody] at hread ⊢
  split
  next heq => exact absurd (List.cons.inj heq).1 hne
  next => exact hread.bind (.inl rfl)

theorem readValue_of_nestedText {depth : Nat} (hitem : Complete grammar (readValue depth))
    (h : NestedText grammar j text) (hrest : Follows rest) :
    Answers (readValue (depth + 1) (text ++ rest)) (j, rest) := by
  cases h with
  | scalar h => exact readValue_of_scalarText h hrest (depth + 1)
  | noItems hgap =>
    rw [List.cons_append, List.append_assoc]
    exact .inl (readArray_noItems hgap rest)
  | items hgap h =>
    rw [List.cons_append, List.append_assoc, List.append_assoc]
    exact readArray_items hitem hgap h rest
  | noMembers hgap =>
    rw [List.cons_append, List.append_assoc]
    exact .inl (readObject_noMembers hgap rest)
  | members hgap h =>
    rw [List.cons_append, List.append_assoc, List.append_assoc]
    exact readObject_members hitem hgap h rest

/-- Without a level left only scalars are read. -/
theorem readValue_zero_of_nestedText (h : NestedText grammar j text) (hrest : Follows rest) :
    Answers (readValue 0 (text ++ rest)) (j, rest) := by
  cases h with
  | scalar h => exact readValue_of_scalarText h hrest 0
  | noItems | items | noMembers | members => exact .inr ⟨_, rfl, rfl⟩

/-- Whatever the depth of a value and the depth to which the reader goes. -/
theorem complete_readValue (levels depth : Nat) : Complete (ValueText levels) (readValue depth) := by
  induction levels generalizing depth with
  | zero => exact ⟨fun h hrest => readValue_of_scalarText h hrest depth, fun h => ScalarText.begins h⟩
  | succ levels ih =>
    refine ⟨fun h hrest => ?_, fun h => NestedText.begins h⟩
    cases depth with
    | zero => exact readValue_zero_of_nestedText h hrest
    | succ depth => exact readValue_of_nestedText (ih depth) h hrest

end Values

theorem readWithin_of_document {s : List Char} {j : Json} (h : Document s j) (depth : Nat) :
    Answers (readWithin depth s) j := by
  obtain ⟨levels, before, body, after, hbody, hbefore, hafter, rfl⟩ := h
  have hbegins : Begins body := hbody.begins
  have hskip : skipGap (before ++ (body ++ after)) = body ++ after := by
    rw [skipGap_append hbefore, (hbegins.append after).skipGap_eq]
  have hfollows : Follows after := by
    rw [← List.append_nil after]
    exact follows_of_gap hafter fun c hc => by cases hc
  have hend : skipGap after = [] := by
    rw [← List.append_nil after, skipGap_append hafter]
    rfl
  unfold readWithin
  split
  next tail heq =>
    -- Neither a gap nor a value starts with a byte order mark.
    cases before with
    | nil =>
      obtain ⟨c, tail', rfl, -, -, -, hmark⟩ := hbegins
      exact absurd (List.cons.inj heq).1 hmark
    | cons c before =>
      have hc := hbefore c (List.mem_cons_self ..)
      rw [(List.cons.inj heq).1] at hc
      cases hc
  next =>
    rw [hskip]
    refine ((complete_readValue levels depth).reads hbody hfollows).bind ?_
    simp only [hend]
    exact .inl rfl

end ObjectIntake.Json
