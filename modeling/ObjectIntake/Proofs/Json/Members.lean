import ObjectIntake.Proofs.Json.Strings

/-!
An object that was written is read back member by member, where the values in it are.
-/
namespace ObjectIntake.Json
open Text

/-- What may follow a value in an object or an array. -/
def Delimited (rest : List Char) : Prop := ∃ c tail, rest = c :: tail ∧ (c = ',' ∨ c = ']' ∨ c = '\x7d')

/-- The reader gives the value back that was written, and what follows it. -/
def Restores (item : List Char → Except Fault (Json × List Char)) (j : Json) : Prop :=
  ∀ rest, Delimited rest → item (skipGap ((text ascii j).toList ++ rest)) = .ok (j, rest)

theorem delimited_brace (rest : List Char) : Delimited ('\x7d' :: rest) := ⟨_, _, rfl, .inr (.inr rfl)⟩

theorem delimited_comma (rest : List Char) : Delimited (',' :: rest) := ⟨_, _, rfl, .inl rfl⟩

theorem itemTexts_eq_map (set : Charset) (items : List Json) : itemTexts set items = items.map (text set) := by
  induction items with
  | nil => rfl
  | cons j items ih => rw [itemTexts, ih, List.map_cons]

theorem memberTexts_eq_map (set : Charset) (members : List (String × Json)) :
    memberTexts set members = members.map fun m => stringText set m.1 ++ ": " ++ text set m.2 := by
  induction members with
  | nil => rfl
  | cons m members ih => rw [memberTexts, ih, List.map_cons]

theorem toList_join (part next : String) (parts : List String) :
    (join ", " (part :: next :: parts)).toList =
      part.toList ++ ',' :: ' ' :: (join ", " (next :: parts)).toList := by
  simp [join]

theorem length_le_length_join (parts : List String) : parts.length ≤ (join ", " parts).toList.length + 1 := by
  induction parts with
  | nil => exact Nat.zero_le _
  | cons part parts ih =>
    cases parts with
    | nil => simp
    | cons next parts =>
      rw [toList_join, List.length_append, List.length_cons, List.length_cons]
      simp only [List.length_cons] at ih ⊢
      omega

theorem toList_stringText (s : String) :
    (stringText ascii s).toList = '"' :: (s.toList.flatMap (escape ascii) ++ ['"']) := by
  simp [stringText, stringChars]

theorem skipGap_cons {c : Char} (h : isGap c = false) (rest : List Char) : skipGap (c :: rest) = c :: rest := by
  simp [skipGap, h]

theorem skipGap_blank (rest : List Char) : skipGap (' ' :: rest) = skipGap rest := by
  simp [skipGap, isGap]

theorem readValue_text_str (depth : Nat) (s : String) (rest : List Char) :
    readValue depth ((text ascii (.str s)).toList ++ rest) = .ok (.str s, rest) := by
  have htext : (text ascii (.str s)).toList ++ rest =
      '"' :: (s.toList.flatMap (escape ascii) ++ '"' :: rest) := by
    simp [text, toList_stringText]
  have hread := readString_stringText s ('"' :: (s.toList.flatMap (escape ascii) ++ '"' :: rest)) rest
  rw [htext]
  unfold readValue
  simp only [hread, bind, Except.bind]
  rfl

theorem readValue_str (depth : Nat) (s : String) : Restores (readValue depth) (.str s) := by
  intro rest _
  have hread := readValue_text_str depth s rest
  rw [text, toList_stringText, List.cons_append] at hread ⊢
  rw [skipGap_cons (by decide)]
  exact hread

section Members

variable {item : List Char → Except Fault (Json × List Char)}

/-- One member and what follows it: the end of the object, or a comma and further members. -/
theorem readMembers_cons {key : String} {j : Json} (hj : Restores item j) (fuel : Nat) (done : Keyed Json)
    {tail : List Char} (htail : Delimited tail) :
    readMembers item (fuel + 1) done ((stringText ascii key ++ ": " ++ text ascii j).toList ++ tail) =
      match skipGap tail with
      | '\x7d' :: rest => .ok (done.put key j, rest)
      | ',' :: rest => readMembers item fuel (done.put key j) (skipGap rest)
      | rest => faultAt .expectingComma rest := by
  have htext : (stringText ascii key ++ ": " ++ text ascii j).toList ++ tail =
      '"' :: (key.toList.flatMap (escape ascii) ++ '"' :: ':' :: ' ' :: ((text ascii j).toList ++ tail)) := by
    simp [toList_stringText]
  have hkey := readString_stringText key
    ('"' :: (key.toList.flatMap (escape ascii) ++ '"' :: ':' :: ' ' :: ((text ascii j).toList ++ tail)))
    (':' :: ' ' :: ((text ascii j).toList ++ tail))
  have hvalue := hj tail htail
  rw [htext]
  simp only [readMembers, hkey, bind, Except.bind, skipGap_cons (show isGap ':' = false by decide), skipGap_blank,
    hvalue]
  rfl

omit item in
/-- The text of members starts with the quote of the first key. -/
theorem exists_memberTexts (key : String) (j : Json) (members : List (String × Json)) :
    ∃ tail, (join ", " (memberTexts ascii ((key, j) :: members))).toList = '"' :: tail := by
  cases members with
  | nil => simp [memberTexts, join, toList_stringText]
  | cons m members =>
    obtain ⟨k, i⟩ := m
    simp [memberTexts, join, toList_stringText]

omit item in
theorem skipGap_memberTexts (key : String) (j : Json) (members : List (String × Json)) (rest : List Char) :
    skipGap ((join ", " (memberTexts ascii ((key, j) :: members))).toList ++ rest) =
      (join ", " (memberTexts ascii ((key, j) :: members))).toList ++ rest := by
  obtain ⟨tail, htail⟩ := exists_memberTexts key j members
  rw [htail, List.cons_append, skipGap_cons (by decide)]

/-- The members are read in their order, each put after those before it. -/
theorem readMembers_memberTexts {members : List (String × Json)} (hne : members ≠ [])
    (hitem : ∀ m ∈ members, Restores item m.2) {fuel : Nat} (hfuel : members.length ≤ fuel) (done : Keyed Json)
    (rest : List Char) :
    readMembers item fuel done ((join ", " (memberTexts ascii members)).toList ++ '\x7d' :: rest) =
      .ok (members.foldl (fun m e => Keyed.put m e.1 e.2) done, rest) := by
  induction members generalizing fuel done with
  | nil => exact absurd rfl hne
  | cons m members ih =>
    obtain ⟨key, j⟩ := m
    obtain ⟨fuel, rfl⟩ := Nat.exists_eq_succ_of_ne_zero (show fuel ≠ 0 by simp at hfuel; omega)
    have hj : Restores item j := hitem (key, j) (List.mem_cons_self ..)
    cases members with
    | nil =>
      have htext : join ", " (memberTexts ascii [(key, j)]) = stringText ascii key ++ ": " ++ text ascii j := by
        simp [memberTexts, join]
      rw [htext, Nat.succ_eq_add_one, readMembers_cons hj fuel done (delimited_brace rest),
        skipGap_cons (by decide)]
      rfl
    | cons next members =>
      obtain ⟨k, i⟩ := next
      have hfuel' : ((k, i) :: members).length ≤ fuel := by simpa using hfuel
      have hrest := ih (by simp) (fun m hm => hitem m (List.mem_cons_of_mem _ hm)) hfuel' (done.put key j)
      have htext : (join ", " (memberTexts ascii ((key, j) :: (k, i) :: members))).toList ++ '\x7d' :: rest =
          (stringText ascii key ++ ": " ++ text ascii j).toList ++
            ',' :: ' ' :: ((join ", " (memberTexts ascii ((k, i) :: members))).toList ++ '\x7d' :: rest) := by
        simp [memberTexts, join]
      rw [htext, Nat.succ_eq_add_one, readMembers_cons hj fuel done (delimited_comma _), skipGap_cons (by decide)]
      simp only [skipGap_blank, skipGap_memberTexts]
      exact hrest

end Members

/-- An object that is not empty is read back where its values are. -/
theorem readValue_obj {depth : Nat} {members : List (String × Json)} (hne : members ≠ [])
    (hitem : ∀ m ∈ members, Restores (readValue depth) m.2) (rest : List Char) :
    readValue (depth + 1) ((text ascii (.obj members)).toList ++ rest) = .ok (.obj (Keyed.ofList members), rest) := by
  obtain ⟨⟨key, j⟩, tail, rfl⟩ := List.exists_cons_of_ne_nil hne
  have htext : (text ascii (.obj ((key, j) :: tail))).toList ++ rest =
      '\x7b' :: ((join ", " (memberTexts ascii ((key, j) :: tail))).toList ++ '\x7d' :: rest) := by
    simp [text]
  have hlength : ((key, j) :: tail).length ≤
      ((join ", " (memberTexts ascii ((key, j) :: tail))).toList ++ '\x7d' :: rest).length + 1 := by
    have hmembers := length_le_length_join (memberTexts ascii ((key, j) :: tail))
    rw [memberTexts_eq_map, List.length_map, ← memberTexts_eq_map] at hmembers
    rw [List.length_append]
    omega
  have hread := readMembers_memberTexts hne hitem hlength [] rest
  obtain ⟨chars, hchars⟩ := exists_memberTexts key j tail
  rw [hchars] at hread
  rw [htext, hchars, List.cons_append]
  unfold readValue
  simp only [skipGap_cons (show isGap '"' = false by decide)]
  rw [List.cons_append] at hread
  change (readMembers (readValue depth) _ [] _ >>= _) = _
  rw [hread]
  rfl

/-- An object that is not empty is read back from its text. -/
theorem read_obj {depth : Nat} {members : List (String × Json)} (hne : members ≠ [])
    (hitem : ∀ m ∈ members, Restores (readValue depth) m.2) :
    read (depth + 1) (text ascii (.obj members)) = .ok (.obj (Keyed.ofList members)) := by
  have hvalue := readValue_obj hne hitem []
  have htext : (text ascii (.obj members)).toList =
      '\x7b' :: ((join ", " (memberTexts ascii members)).toList ++ ['\x7d']) := by
    simp [text]
  rw [List.append_nil, htext] at hvalue
  unfold read readWithin
  simp only [htext, skipGap_cons (show isGap '\x7b' = false by decide), hvalue, bind, Except.bind]
  rfl

end ObjectIntake.Json
