import ObjectIntake.Proofs.Json.Completeness
import ObjectIntake.Proofs.Keyed

/-!
Plain values hold no floating point number: they are built from words, integers within the limit of digits and strings,
and none of their objects names a key twice. The text of a plain value is printable ASCII, and it is read back as that
value by every reader that goes deep enough.
-/
namespace ObjectIntake.Json
open Text

/-- A plain value, nested to at most `depth` levels. -/
inductive Plain : (depth : Nat) → Json → Prop where
  | null {depth : Nat} : Plain depth .null
  | bool {depth : Nat} (b : Bool) : Plain depth (.bool b)
  | int {depth : Nat} {n : Int} (h : Numeral.digitCount n ≤ Numeral.digitLimit) : Plain depth (.int n)
  | str {depth : Nat} (s : String) : Plain depth (.str s)
  | arr {depth : Nat} {items : List Json} (h : ∀ j ∈ items, Plain depth j) : Plain (depth + 1) (.arr items)
  | obj {depth : Nat} {members : List (String × Json)} (hkeys : (Keyed.keys members).Nodup)
      (h : ∀ m ∈ members, Plain depth m.2) : Plain (depth + 1) (.obj members)

section Reading

variable {item : List Char → Except Fault (Json × List Char)} {j : Json} {depth : Nat}

/-- What is written for a value begins as a value does, and is read as that value, whatever may follow it. -/
structure ReadsBack (item : List Char → Except Fault (Json × List Char)) (j : Json) : Prop where
  begins : Begins (text ascii j).toList
  reads : ∀ rest, Follows rest → item ((text ascii j).toList ++ rest) = .ok (j, rest)

theorem follows_of_delimited {rest : List Char} (h : Delimited rest) : Follows rest := by
  obtain ⟨c, tail, rfl, hc⟩ := h
  intro d hd
  cases hd
  exact .inr hc

theorem ReadsBack.restores (h : ReadsBack item j) : Restores item j := by
  intro rest hrest
  rw [(h.begins.append rest).skipGap_eq]
  exact h.reads rest (follows_of_delimited hrest)

theorem readsBack_word {w : String} (h : (w, j) ∈ words) (htext : text ascii j = w) (depth : Nat) :
    ReadsBack (readValue depth) j where
  begins := htext ▸ (ScalarText.word h).begins
  reads := fun rest _ => htext ▸ readValue_of_word h rest depth

theorem readsBack_str (s : String) (depth : Nat) : ReadsBack (readValue depth) (.str s) := by
  refine ⟨?_, fun rest _ => readValue_text_str depth s rest⟩
  rw [text, toList_stringText]
  exact begins_cons (by decide) _

section Integers

theorem wholeText_toDigits (n : Nat) : WholeText (Nat.toDigits 10 n) where
  ne_nil := Nat.toDigits_ne_nil
  digits := fun _ hd => Numeral.isDigit_of_mem hd
  leading := by
    intro h
    rcases Nat.eq_zero_or_pos n with rfl | hn
    · rfl
    · exact absurd h (Numeral.head?_toDigits hn)

theorem natOf_toDigits (n : Nat) : natOf (Nat.toDigits 10 n) = n := by
  have hfold : natOf (Nat.toDigits 10 n) = Nat.ofDigitChars 10 (Nat.toDigits 10 n) 0 := by
    rw [Nat.ofDigitChars_eq_foldl]
    rfl
  rw [hfold, Nat.ofDigitChars_ten_toDigits]

theorem readUnsigned_toDigits {n : Nat} (h : (Nat.toDigits 10 n).length ≤ Numeral.digitLimit) {rest : List Char}
    (hrest : EndsNumber rest) (start : List Char) (negative : Bool) :
    readUnsigned start negative (Nat.toDigits 10 n ++ rest) =
      .ok (.int (if negative then -(n : Int) else n), rest) := by
  rw [readUnsigned_of_wholeText (wholeText_toDigits n) hrest, if_neg (Nat.not_lt_of_le h), natOf_toDigits]

theorem readsBack_int {n : Int} (h : Numeral.digitCount n ≤ Numeral.digitLimit) (depth : Nat) :
    ReadsBack (readValue depth) (.int n) := by
  cases n with
  | ofNat n =>
    have htext : (text ascii (.int (Int.ofNat n))).toList = Nat.toDigits 10 n := Numeral.toList_text_ofNat n
    obtain ⟨d, tail, hdigits, hd⟩ := Numeral.exists_toDigits n
    refine ⟨by rw [htext, hdigits]; exact begins_of_isDigit hd tail, fun rest hrest => ?_⟩
    have hread := readUnsigned_toDigits (n := n) h hrest.endsNumber (Nat.toDigits 10 n ++ rest) false
    rw [htext]
    rw [hdigits, List.cons_append] at hread ⊢
    rw [readValue_of_isDigit hd]
    exact hread
  | negSucc n =>
    have htext : (text ascii (.int (Int.negSucc n))).toList = '-' :: Nat.toDigits 10 (n + 1) :=
      Numeral.toList_text_negSucc n
    obtain ⟨d, tail, hdigits, hd⟩ := Numeral.exists_toDigits (n + 1)
    refine ⟨by rw [htext]; exact begins_cons (by decide) _, fun rest hrest => ?_⟩
    have hread := readUnsigned_toDigits (n := n + 1) h hrest.endsNumber ('-' :: (Nat.toDigits 10 (n + 1) ++ rest)) true
    rw [htext, List.cons_append]
    rw [hdigits, List.cons_append] at hread ⊢
    rw [readValue_eq_readScalar (by decide) (by decide) (by decide), readScalar, word?_minus hd]
    exact hread

end Integers

section Arrays

theorem begins_itemTexts (hj : Begins (text ascii j).toList) (items : List Json) :
    Begins (join ", " (itemTexts ascii (j :: items))).toList := by
  cases items with
  | nil => simpa [itemTexts, join] using hj
  | cons next items =>
    rw [itemTexts, itemTexts, toList_join]
    exact hj.append _

/-- The items are read in their order, each put behind those before it. -/
theorem readItems_itemTexts {items : List Json} (hne : items ≠ []) (hitem : ∀ j ∈ items, ReadsBack item j) {fuel : Nat}
    (hfuel : items.length ≤ fuel) (done : List Json) (rest : List Char) :
    readItems item fuel done ((join ", " (itemTexts ascii items)).toList ++ ']' :: rest) =
      .ok (done.reverse ++ items, rest) := by
  induction items generalizing fuel done with
  | nil => exact absurd rfl hne
  | cons j items ih =>
    obtain ⟨fuel, rfl⟩ := Nat.exists_eq_succ_of_ne_zero (show fuel ≠ 0 by simp at hfuel; omega)
    have hj : ReadsBack item j := hitem j (List.mem_cons_self ..)
    cases items with
    | nil =>
      have htext : join ", " (itemTexts ascii [j]) = text ascii j := by simp [itemTexts, join]
      have hread := hj.reads (']' :: rest) (follows_of_delimited ⟨_, _, rfl, .inr (.inl rfl)⟩)
      rw [htext, readItems]
      simp only [hread, bind, Except.bind, skipGap_cons (show isGap ']' = false by decide)]
      simp [pure, Except.pure]
    | cons next items =>
      have hnext : ∀ i ∈ next :: items, ReadsBack item i := fun i hi => hitem i (List.mem_cons_of_mem _ hi)
      have hbegins := begins_itemTexts (hnext next (List.mem_cons_self ..)).begins items
      have hrest := ih (List.cons_ne_nil _ _) hnext (Nat.le_of_succ_le_succ hfuel) (j :: done)
      have hread := hj.reads (',' :: ' ' :: ((join ", " (itemTexts ascii (next :: items))).toList ++ ']' :: rest))
        (follows_of_delimited (delimited_comma _))
      have hassoc : (join ", " (itemTexts ascii (j :: next :: items))).toList ++ ']' :: rest =
          (text ascii j).toList ++
            ',' :: ' ' :: ((join ", " (itemTexts ascii (next :: items))).toList ++ ']' :: rest) := by
        rw [itemTexts, itemTexts, toList_join, List.append_assoc]
        rfl
      rw [hassoc, readItems]
      simp only [hread, bind, Except.bind, skipGap_cons (show isGap ',' = false by decide), skipGap_blank,
        (hbegins.append _).skipGap_eq, hrest]
      simp

theorem readsBack_arr {items : List Json} (hitem : ∀ j ∈ items, ReadsBack (readValue depth) j) :
    ReadsBack (readValue (depth + 1)) (.arr items) := by
  have htext (rest : List Char) : (text ascii (.arr items)).toList ++ rest =
      '[' :: ((join ", " (itemTexts ascii items)).toList ++ ']' :: rest) := by
    simp [text]
  constructor
  · rw [← List.append_nil (text ascii (.arr items)).toList, htext]
    exact begins_cons (by decide) _
  intro rest _
  rw [htext]
  change readArray (readValue depth) _ = _
  cases items with
  | nil =>
    have hread : readArray (readValue depth) ([] ++ ']' :: rest) = .ok (.arr [], rest) :=
      readArray_noItems (List.forall_mem_nil _) rest
    exact hread
  | cons j items =>
    have hbegins := begins_itemTexts (hitem j (List.mem_cons_self ..)).begins items
    have hlength : (j :: items).length ≤
        ((join ", " (itemTexts ascii (j :: items))).toList ++ ']' :: rest).length + 1 := by
      have hitems := length_le_length_join (itemTexts ascii (j :: items))
      rw [itemTexts_eq_map, List.length_map, ← itemTexts_eq_map] at hitems
      rw [List.length_append]
      omega
    rw [readArray_of_begins (hbegins.append _),
      readItems_itemTexts (List.cons_ne_nil _ _) hitem hlength [] rest]
    rfl

end Arrays

/-- An object that names no key twice. -/
theorem readsBack_obj {members : List (String × Json)} (hkeys : (Keyed.keys members).Nodup)
    (hitem : ∀ m ∈ members, ReadsBack (readValue depth) m.2) : ReadsBack (readValue (depth + 1)) (.obj members) := by
  have htext (rest : List Char) : (text ascii (.obj members)).toList ++ rest =
      '\x7b' :: ((join ", " (memberTexts ascii members)).toList ++ '\x7d' :: rest) := by
    simp [text]
  constructor
  · rw [← List.append_nil (text ascii (.obj members)).toList, htext]
    exact begins_cons (by decide) _
  intro rest _
  cases members with
  | nil =>
    have hread : readObject (readValue depth) ([] ++ '\x7d' :: rest) = .ok (.obj [], rest) :=
      readObject_noMembers (List.forall_mem_nil _) rest
    rw [htext]
    exact hread
  | cons m members =>
    rw [readValue_obj (List.cons_ne_nil _ _) (fun m hm => (hitem m hm).restores) rest, Keyed.ofList_eq_self hkeys]

/-- A plain value is read back by a reader that goes as deep as it is nested. -/
theorem Plain.readsBack {limit : Nat} (h : Plain depth j) (hlimit : depth ≤ limit) : ReadsBack (readValue limit) j := by
  induction h generalizing limit with
  | null => exact readsBack_word (w := "null") (by simp [words]) rfl limit
  | bool b =>
    cases b with
    | true => exact readsBack_word (w := "true") (by simp [words]) rfl limit
    | false => exact readsBack_word (w := "false") (by simp [words]) rfl limit
  | int h => exact readsBack_int h limit
  | str s => exact readsBack_str s limit
  -- A value with brackets is nested at least once, so the reader may go in.
  | arr _ ih =>
    obtain ⟨limit, rfl⟩ := Nat.exists_eq_succ_of_ne_zero (Nat.ne_zero_of_lt hlimit)
    exact readsBack_arr fun j hj => ih j hj (Nat.le_of_succ_le_succ hlimit)
  | obj hkeys _ ih =>
    obtain ⟨limit, rfl⟩ := Nat.exists_eq_succ_of_ne_zero (Nat.ne_zero_of_lt hlimit)
    exact readsBack_obj hkeys fun m hm => ih m hm (Nat.le_of_succ_le_succ hlimit)

/-- The text of a plain value holds that value and nothing else. -/
theorem Plain.readWithin_text {limit : Nat} (h : Plain depth j) (hlimit : depth ≤ limit) :
    readWithin limit (text ascii j).toList = .ok j := by
  obtain ⟨hbegins, hreads⟩ := h.readsBack hlimit
  obtain ⟨c, tail, htext, hgap, -, -, hmark⟩ := hbegins
  have hread := hreads [] fun c hc => by cases hc
  rw [List.append_nil, htext] at hread
  rw [htext]
  unfold readWithin
  split
  next heq => exact absurd (List.cons.inj heq).1 hmark
  next =>
    rw [skipGap_cons hgap]
    simp only [hread, bind, Except.bind]
    rfl

end Reading

section Writing

theorem areWritable_iff {items : List Json} : areWritable items = true ↔ ∀ j ∈ items, isWritable j = true := by
  induction items with
  | nil => simp [areWritable]
  | cons j rest ih => simp [areWritable, ih]

theorem haveWritable_iff {members : List (String × Json)} :
    haveWritable members = true ↔ ∀ m ∈ members, isWritable m.2 = true := by
  induction members with
  | nil => simp [haveWritable]
  | cons m rest ih => simp [haveWritable, ih]

/-- A plain value can be written. -/
theorem Plain.isWritable {depth : Nat} {j : Json} (h : Plain depth j) : j.isWritable = true := by
  induction h with
  | null => rfl
  | bool => rfl
  | int h => rw [Json.isWritable, Numeral.write?, if_pos h, Option.isSome_some]
  | str => rfl
  | arr _ ih => exact areWritable_iff.mpr ih
  | obj _ _ ih => exact haveWritable_iff.mpr ih

/-- A character of ASCII that is no control character. -/
def PrintableAscii (c : Char) : Prop := 0x20 ≤ c.toNat ∧ c.toNat ≤ 0x7E

instance : DecidablePred PrintableAscii := fun c => inferInstanceAs (Decidable (0x20 ≤ c.toNat ∧ c.toNat ≤ 0x7E))

theorem printable_toList {s : String} (h : s.toList.all (PrintableAscii ·) = true) :
    ∀ c ∈ s.toList, PrintableAscii c := fun c hc => of_decide_eq_true (List.all_eq_true.mp h c hc)

theorem printable_hexDigits (width n : Nat) : ∀ c ∈ hexDigits width n, PrintableAscii c := by
  have hchar (n : Nat) : PrintableAscii (hexChar n) := by
    have h : n % 16 < 16 := Nat.mod_lt _ (by decide)
    unfold hexChar
    generalize n % 16 = d at h
    revert d
    decide
  induction width generalizing n with
  | zero => exact List.forall_mem_nil _
  | succ width ih => exact List.forall_mem_append.mpr ⟨ih (n / 16), List.forall_mem_singleton.mpr (hchar n)⟩

theorem printable_unitEscape (n : Nat) : ∀ c ∈ unitEscape n, PrintableAscii c :=
  List.forall_mem_cons.mpr ⟨by decide, List.forall_mem_cons.mpr ⟨by decide, printable_hexDigits 4 n⟩⟩

/-- Whatever a character is, its escape is printable. -/
theorem printable_escape (c : Char) : ∀ d ∈ escape ascii c, PrintableAscii d := by
  unfold escape
  cases hshort : shortEscape? c with
  | some e =>
    have he : PrintableAscii e := by
      unfold shortEscape? at hshort
      split at hshort <;> cases hshort
      all_goals decide
    exact List.forall_mem_cons.mpr ⟨by decide, List.forall_mem_singleton.mpr he⟩
  | none =>
    dsimp only
    split
    next hplain =>
      simp only [ascii, Bool.and_eq_true, decide_eq_true_eq] at hplain
      exact List.forall_mem_singleton.mpr hplain
    next =>
      unfold unicodeEscape
      dsimp only
      split
      next => exact printable_unitEscape _
      next => exact List.forall_mem_append.mpr ⟨printable_unitEscape _, printable_unitEscape _⟩

theorem printable_stringText (s : String) : ∀ c ∈ (stringText ascii s).toList, PrintableAscii c := by
  have hescapes : ∀ c ∈ s.toList.flatMap (escape ascii), PrintableAscii c := by
    intro c hc
    obtain ⟨d, -, hd⟩ := List.mem_flatMap.mp hc
    exact printable_escape d c hd
  rw [toList_stringText]
  exact List.forall_mem_cons.mpr
    ⟨by decide, List.forall_mem_append.mpr ⟨hescapes, List.forall_mem_singleton.mpr (by decide)⟩⟩

theorem printable_join {parts : List String} (h : ∀ part ∈ parts, ∀ c ∈ part.toList, PrintableAscii c) :
    ∀ c ∈ (join ", " parts).toList, PrintableAscii c := by
  induction parts with
  | nil => simp [join]
  | cons part parts ih =>
    obtain ⟨hpart, hrest⟩ := List.forall_mem_cons.mp h
    cases parts with
    | nil => simpa [join] using hpart
    | cons next parts =>
      rw [toList_join]
      exact List.forall_mem_append.mpr
        ⟨hpart, List.forall_mem_cons.mpr ⟨by decide, List.forall_mem_cons.mpr ⟨by decide, ih hrest⟩⟩⟩

theorem printable_int (n : Int) : ∀ c ∈ (Numeral.text n).toList, PrintableAscii c := by
  have hdigits (n : Nat) : ∀ c ∈ Nat.toDigits 10 n, PrintableAscii c := by
    intro c hc
    have hc := Numeral.toNat_of_isDigit (Numeral.isDigit_of_mem hc)
    unfold PrintableAscii
    omega
  cases n with
  | ofNat n =>
    rw [Numeral.toList_text_ofNat]
    exact hdigits n
  | negSucc n =>
    rw [Numeral.toList_text_negSucc]
    exact List.forall_mem_cons.mpr ⟨by decide, hdigits (n + 1)⟩

theorem printable_brackets {opening closing : String} {parts : List String}
    (hopening : opening.toList.all (PrintableAscii ·) = true) (hclosing : closing.toList.all (PrintableAscii ·) = true)
    (h : ∀ part ∈ parts, ∀ c ∈ part.toList, PrintableAscii c) :
    ∀ c ∈ (opening ++ join ", " parts ++ closing).toList, PrintableAscii c := by
  rw [String.toList_append, String.toList_append]
  exact List.forall_mem_append.mpr
    ⟨List.forall_mem_append.mpr ⟨printable_toList hopening, printable_join h⟩, printable_toList hclosing⟩

/-- The text of a plain value is a single line of printable characters. -/
theorem Plain.printable {depth : Nat} {j : Json} (h : Plain depth j) :
    ∀ c ∈ (text ascii j).toList, PrintableAscii c := by
  induction h with
  | null => exact printable_toList (by decide)
  | bool b => cases b <;> exact printable_toList (by decide)
  | int => exact printable_int _
  | str s => exact printable_stringText s
  | @arr _ items _ ih =>
    rw [text, itemTexts_eq_map]
    refine printable_brackets (by decide) (by decide) ?_
    exact List.forall_mem_map.mpr ih
  | @obj _ members _ _ ih =>
    rw [text, memberTexts_eq_map]
    refine printable_brackets (by decide) (by decide) (List.forall_mem_map.mpr fun m hm => ?_)
    rw [String.toList_append, String.toList_append]
    exact List.forall_mem_append.mpr
      ⟨List.forall_mem_append.mpr ⟨printable_stringText m.1, printable_toList (by decide)⟩, ih m hm⟩

end Writing

end ObjectIntake.Json
