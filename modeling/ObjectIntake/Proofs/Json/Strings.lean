import Mathlib.Data.List.Basic
import ObjectIntake.Json.Printer
import ObjectIntake.Proofs.Json.Grammar
import ObjectIntake.Proofs.Work

/-!
Strings are read as the grammar says, and the grammar gives what is written: each character its own escape, those
beyond the first plane the escapes of their two surrogates. So what is written is read back.
-/
namespace ObjectIntake.Json
open Text

section Units

variable {s rest start done : List Char} {n fuel : Nat} {text : String}

theorem unit?_cons (a b c d : Char) (rest : List Char) :
    unit? (a :: b :: c :: d :: rest) = (unit? [a, b, c, d]).map fun u => (u.1, rest) := by
  simp only [unit?, Option.bind_eq_bind, Option.map_bind, Function.comp_def, Option.pure_def, Option.map_some]

theorem exists_of_unit? (h : unit? s = some (n, rest)) :
    ∃ a b c d, s = a :: b :: c :: d :: rest ∧ UnitDigits [a, b, c, d] n := by
  match s with
  | a :: b :: c :: d :: tail =>
    rw [unit?_cons] at h
    obtain ⟨⟨m, rest'⟩, hunit, heq⟩ := Option.map_eq_some_iff.mp h
    cases heq
    obtain rfl : rest' = [] := by
      unfold unit? at hunit
      obtain ⟨_, -, hunit⟩ := Option.bind_eq_some_iff.mp hunit
      obtain ⟨_, -, hunit⟩ := Option.bind_eq_some_iff.mp hunit
      obtain ⟨_, -, hunit⟩ := Option.bind_eq_some_iff.mp hunit
      obtain ⟨_, -, hunit⟩ := Option.bind_eq_some_iff.mp hunit
      cases hunit
      rfl
    exact ⟨a, b, c, d, rfl, hunit⟩
  | [] | [_] | [_, _] | [_, _, _] => cases h

theorem UnitDigits.eq_four {digits : List Char} (h : UnitDigits digits n) : ∃ a b c d, digits = [a, b, c, d] := by
  obtain ⟨a, b, c, d, hdigits, -⟩ := exists_of_unit? h
  exact ⟨a, b, c, d, hdigits⟩

theorem unit?_eq_some_iff : unit? s = some (n, rest) ↔ ∃ digits, s = digits ++ rest ∧ UnitDigits digits n := by
  constructor
  · intro h
    obtain ⟨a, b, c, d, rfl, hunit⟩ := exists_of_unit? h
    exact ⟨[a, b, c, d], rfl, hunit⟩
  · rintro ⟨digits, rfl, h⟩
    obtain ⟨a, b, c, d, rfl⟩ := h.eq_four
    have hunit : unit? [a, b, c, d] = some (n, []) := h
    rw [List.cons_append, List.cons_append, List.cons_append, List.cons_append, List.nil_append, unit?_cons, hunit]
    rfl

/-- A unit is read where its digits are followed by something. -/
theorem readUnit_eq_ok_iff {after : List Char} : readUnit after s = .ok (n, rest) ↔
    rest ≠ [] ∧ ∃ digits, s = digits ++ rest ∧ UnitDigits digits n := by
  rw [← unit?_eq_some_iff]
  unfold readUnit
  constructor
  · intro h
    split at h
    next hunit =>
      cases h
      exact ⟨List.cons_ne_nil _ _, hunit⟩
    next => cases h
  · rintro ⟨hne, hunit⟩
    obtain ⟨c, tail, rfl⟩ := List.exists_cons_of_ne_nil hne
    rw [hunit]

/-- An escape that is followed by something is looked at in full. -/
theorem readLow_escape {digits : List Char} (h : UnitDigits digits n) (hrest : rest ≠ []) :
    readLow ('\\' :: 'u' :: (digits ++ rest)) = .ok (if isLowUnit n then some (n, rest) else none) := by
  have hlength : ¬ (digits ++ rest).length < 5 := by
    obtain ⟨a, b, c, d, rfl⟩ := h.eq_four
    have hpos := List.length_pos_iff.mpr hrest
    rw [List.length_append]
    simp only [List.length_cons, List.length_nil]
    omega
  have hunit : readUnit ('u' :: (digits ++ rest)) (digits ++ rest) = .ok (n, rest) :=
    readUnit_eq_ok_iff.mpr ⟨hrest, digits, rfl, h⟩
  simp only [readLow, if_neg hlength, hunit, bind, Except.bind, pure, Except.pure]

theorem readLow_eq_some (h : readLow s = .ok (some (n, rest))) :
    isLowUnit n = true ∧ ∃ digits, s = '\\' :: 'u' :: (digits ++ rest) ∧ UnitDigits digits n := by
  unfold readLow at h
  split at h
  next tail =>
    split at h
    next => cases h
    next =>
      obtain ⟨⟨m, tail'⟩, hunit, hthen⟩ := Work.bind_eq_ok.mp h
      have hsome := Except.ok.inj hthen
      split at hsome
      next hlow =>
        cases hsome
        obtain ⟨-, digits, rfl, hdigits⟩ := readUnit_eq_ok_iff.mp hunit
        exact ⟨hlow, digits, rfl, hdigits⟩
      next => cases hsome
  next => cases h

theorem stringText_of_readString (h : readString start fuel done s = .ok (text, rest)) :
    ∃ cs body, s = body ++ '"' :: rest ∧ StringText cs body ∧ text = String.ofList (done.reverse ++ cs) := by
  induction fuel generalizing done s with
  | zero => cases h
  | succ fuel ih =>
    cases s with
    | nil => cases h
    | cons c tail =>
      unfold readString at h
      split at h
      next hquote =>
        cases h
        exact ⟨[], [], by rw [hquote]; rfl, .nil, by simp⟩
      next hquote =>
      split at h
      next => cases h
      next hcontrol =>
      split at h
      next hslash =>
        subst hslash
        split at h
        next => cases h
        next digits =>
          obtain ⟨⟨n, tail⟩, hunit, hthen⟩ := Work.bind_eq_ok.mp h
          obtain ⟨-, digits', rfl, hdigits⟩ := readUnit_eq_ok_iff.mp hunit
          dsimp only at hthen
          split at hthen
          next hhigh =>
            obtain ⟨low, hlow, hlast⟩ := Work.bind_eq_ok.mp hthen
            split at hlast
            next low tail' =>
              obtain ⟨hisLow, lowDigits, rfl, hlowDigits⟩ := readLow_eq_some hlow
              obtain ⟨cs, body, rfl, hbody, rfl⟩ := ih hlast
              refine ⟨pairChar n low :: cs, '\\' :: 'u' :: (digits' ++ '\\' :: 'u' :: (lowDigits ++ body)), ?_,
                .pair hdigits hhigh hlowDigits hisLow hbody, by simp⟩
              simp
            next =>
              obtain ⟨cs, body, rfl, hbody, rfl⟩ := ih hlast
              refine ⟨unitChar n :: cs, '\\' :: 'u' :: (digits' ++ body), by simp, .unit hdigits ?_ hbody, by simp⟩
              rintro - ⟨lowDigits, low, after, rfl, hlowDigits, hisLow⟩
              have hfound := readLow_escape hlowDigits
                (List.append_ne_nil_of_right_ne_nil after (List.cons_ne_nil '"' rest))
              rw [← List.append_assoc, if_pos hisLow] at hfound
              simp only [List.cons_append] at hlow
              rw [hfound] at hlow
              cases hlow
          next hhigh =>
            obtain ⟨cs, body, rfl, hbody, rfl⟩ := ih hthen
            exact ⟨unitChar n :: cs, '\\' :: 'u' :: (digits' ++ body), by simp,
              .unit hdigits (fun htrue => absurd htrue hhigh) hbody, by simp⟩
        next e tail _ =>
          split at h
          next d hd =>
            obtain ⟨cs, body, rfl, hbody, rfl⟩ := ih h
            exact ⟨d :: cs, '\\' :: e :: body, rfl, .short hd hbody, by simp⟩
          next => cases h
      next hslash =>
        obtain ⟨cs, body, rfl, hbody, rfl⟩ := ih h
        exact ⟨c :: cs, c :: body, rfl, .plain (Nat.le_of_not_lt hcontrol) hquote hslash hbody, by simp⟩

end Units

section Accepting

variable {cs body : List Char}

theorem unescape?_ne_u {e c : Char} (h : unescape? e = some c) : e ≠ 'u' := by
  rintro rfl
  cases h

/-- Where no low surrogate follows none is found. -/
theorem readLow_of_not_startsLow (h : StringText cs body) (hlow : ¬ StartsLow body) (rest : List Char) :
    readLow (body ++ '"' :: rest) = .ok none := by
  have hunit {digits body : List Char} {n : Nat} (hdigits : UnitDigits digits n)
      (hlow : ¬ StartsLow ('\\' :: 'u' :: (digits ++ body))) :
      readLow ('\\' :: 'u' :: (digits ++ (body ++ '"' :: rest))) = .ok none := by
    have hne : body ++ '"' :: rest ≠ [] := List.append_ne_nil_of_right_ne_nil _ (List.cons_ne_nil _ _)
    have hno : isLowUnit n ≠ true := fun htrue => hlow ⟨digits, n, body, rfl, hdigits, htrue⟩
    rw [readLow_escape hdigits hne, if_neg hno]
  cases h with
  | nil => rfl
  | plain _ _ hslash =>
    unfold readLow
    split
    next heq => exact absurd (List.cons.inj heq).1 hslash
    next => rfl
  | short h =>
    have hu := unescape?_ne_u h
    unfold readLow
    split
    next heq => exact absurd (List.cons.inj (List.cons.inj heq).2).1 hu
    next => rfl
  | unit hdigits =>
    rw [List.cons_append, List.cons_append, List.append_assoc]
    exact hunit hdigits hlow
  | pair hdigits _ _ _ _ =>
    rw [List.cons_append, List.cons_append, List.append_assoc]
    exact hunit hdigits hlow

theorem readString_of_stringText (h : StringText cs body) (start rest : List Char) {fuel : Nat}
    (hfuel : body.length < fuel) (done : List Char) :
    readString start fuel done (body ++ '"' :: rest) = .ok (String.ofList (done.reverse ++ cs), rest) := by
  induction h generalizing fuel done with
  | nil =>
    obtain ⟨fuel, rfl⟩ := Nat.exists_eq_succ_of_ne_zero (show fuel ≠ 0 by omega)
    simp [readString]
  | @plain c cs body hcontrol hquote hslash _ ih =>
    obtain ⟨fuel, rfl⟩ := Nat.exists_eq_succ_of_ne_zero (show fuel ≠ 0 by omega)
    have hfuel' : body.length < fuel := by simpa using hfuel
    rw [List.cons_append, readString.eq_def]
    simp only [if_neg hquote, if_neg (Nat.not_lt_of_le hcontrol), if_neg hslash]
    rw [ih hfuel']
    simp
  | @short e c cs body h _ ih =>
    obtain ⟨fuel, rfl⟩ := Nat.exists_eq_succ_of_ne_zero (show fuel ≠ 0 by omega)
    have hfuel' : body.length < fuel := by
      simp only [List.length_cons] at hfuel
      omega
    have hu := unescape?_ne_u h
    rw [List.cons_append, List.cons_append, readString.eq_def]
    simp [h, ih hfuel']
  | @unit digits cs body n hdigits hlone hbody ih =>
    obtain ⟨fuel, rfl⟩ := Nat.exists_eq_succ_of_ne_zero (show fuel ≠ 0 by omega)
    have hfuel' : body.length < fuel := by
      simp only [List.length_cons, List.length_append] at hfuel
      omega
    have hne : body ++ '"' :: rest ≠ [] := List.append_ne_nil_of_right_ne_nil _ (List.cons_ne_nil _ _)
    have hread (after : List Char) : readUnit after (digits ++ (body ++ '"' :: rest)) = .ok (n, body ++ '"' :: rest) :=
      readUnit_eq_ok_iff.mpr ⟨hne, digits, rfl, hdigits⟩
    rw [List.cons_append, List.cons_append, List.append_assoc, readString.eq_def]
    cases hhigh : isHighUnit n with
    | false => simp [hread, hhigh, bind, Except.bind, ih hfuel']
    | true =>
      have hnone := readLow_of_not_startsLow hbody (hlone hhigh) rest
      simp [hread, hhigh, hnone, bind, Except.bind, ih hfuel']
  | @pair highDigits lowDigits cs body high low hdigits hhigh hnext hlow _ ih =>
    obtain ⟨fuel, rfl⟩ := Nat.exists_eq_succ_of_ne_zero (show fuel ≠ 0 by omega)
    have hfuel' : body.length < fuel := by
      simp only [List.length_cons, List.length_append] at hfuel
      omega
    have hne : body ++ '"' :: rest ≠ [] := List.append_ne_nil_of_right_ne_nil _ (List.cons_ne_nil _ _)
    have hread (after : List Char) :
        readUnit after (highDigits ++ '\\' :: 'u' :: (lowDigits ++ (body ++ '"' :: rest))) =
          .ok (high, '\\' :: 'u' :: (lowDigits ++ (body ++ '"' :: rest))) :=
      readUnit_eq_ok_iff.mpr ⟨List.cons_ne_nil _ _, highDigits, rfl, hdigits⟩
    have hsome := readLow_escape hnext hne
    rw [if_pos hlow] at hsome
    rw [List.cons_append, List.cons_append, List.append_assoc, List.cons_append, List.cons_append, List.append_assoc,
      readString.eq_def]
    simp [hread, hhigh, hsome, bind, Except.bind, ih hfuel']

end Accepting

/-- A character that is no part of a line end. -/
def Inline (c : Char) : Prop := c ≠ '\n' ∧ c ≠ '\r'

instance : DecidablePred Inline := fun c => inferInstanceAs (Decidable (c ≠ '\n' ∧ c ≠ '\r'))

theorem inline_of_all {text : List Char} (h : text.all (Inline ·) = true) : ∀ c ∈ text, Inline c :=
  fun c hc => of_decide_eq_true (List.all_eq_true.mp h c hc)

section Inline

variable {cs text digits : List Char} {n : Nat}

theorem UnitDigits.inline (h : UnitDigits digits n) : ∀ c ∈ digits, Inline c := by
  have hdigit {c : Char} {n : Nat} (h : hexDigit? c = some n) : Inline c := by
    constructor <;> (rintro rfl; cases h)
  obtain ⟨a, b, c, d, rfl⟩ := h.eq_four
  unfold UnitDigits unit? at h
  obtain ⟨_, ha, h⟩ := Option.bind_eq_some_iff.mp h
  obtain ⟨_, hb, h⟩ := Option.bind_eq_some_iff.mp h
  obtain ⟨_, hc, h⟩ := Option.bind_eq_some_iff.mp h
  obtain ⟨_, hd, h⟩ := Option.bind_eq_some_iff.mp h
  simp only [List.forall_mem_cons, List.not_mem_nil, false_imp_iff, implies_true, and_true]
  exact ⟨hdigit ha, hdigit hb, hdigit hc, hdigit hd⟩

theorem StringText.inline (h : StringText cs text) : ∀ c ∈ text, Inline c := by
  have hslash : Inline '\\' := by decide
  have hu : Inline 'u' := by decide
  induction h with
  | nil => exact List.forall_mem_nil _
  | plain hcontrol _ _ _ ih =>
    refine List.forall_mem_cons.mpr ⟨?_, ih⟩
    constructor <;> (rintro rfl; exact absurd hcontrol (by decide))
  | @short e c _ _ h _ ih =>
    have he : Inline e := by
      constructor <;> (rintro rfl; cases h)
    exact List.forall_mem_cons.mpr ⟨hslash, List.forall_mem_cons.mpr ⟨he, ih⟩⟩
  | unit h _ _ ih =>
    refine List.forall_mem_cons.mpr ⟨hslash, List.forall_mem_cons.mpr ⟨hu, ?_⟩⟩
    exact List.forall_mem_append.mpr ⟨h.inline, ih⟩
  | pair h _ hnext _ _ ih =>
    refine List.forall_mem_cons.mpr ⟨hslash, List.forall_mem_cons.mpr ⟨hu, List.forall_mem_append.mpr ⟨h.inline, ?_⟩⟩⟩
    refine List.forall_mem_cons.mpr ⟨hslash, List.forall_mem_cons.mpr ⟨hu, ?_⟩⟩
    exact List.forall_mem_append.mpr ⟨hnext.inline, ih⟩

end Inline

section Writing

theorem hexDigits_four (n : Nat) :
    hexDigits 4 n = [hexChar (n / 16 / 16 / 16), hexChar (n / 16 / 16), hexChar (n / 16), hexChar n] := by
  simp [hexDigits]

/-- Four hexadecimal digits hold the last sixteen bits of a number. -/
theorem unit?_hexDigits (n : Nat) (rest : List Char) :
    unit? (hexDigits 4 n ++ rest) = some (n % 65536, rest) := by
  have hsum : ((n / 16 / 16 / 16 % 16 * 16 + n / 16 / 16 % 16) * 16 + n / 16 % 16) * 16 + n % 16 = n % 65536 := by
    omega
  rw [hexDigits_four]
  simp [unit?, hexDigit?_hexChar, hsum]

theorem unitDigits_hexDigits {n : Nat} (hn : n < 65536) : UnitDigits (hexDigits 4 n) n := by
  have hunit := unit?_hexDigits n []
  rwa [List.append_nil, Nat.mod_eq_of_lt hn] at hunit

/-- The code point of a character is no surrogate. -/
theorem toNat_cases (c : Char) : c.toNat < 0xD800 ∨ 0xE000 ≤ c.toNat ∧ c.toNat < 0x110000 := by
  have hvalid : c.toNat < 0xD800 ∨ 0xDFFF < c.toNat ∧ c.toNat < 0x110000 := c.valid
  omega

theorem isHighUnit_toNat (c : Char) : isHighUnit c.toNat = false := by
  have hcases := toNat_cases c
  simp only [isHighUnit, Bool.and_eq_false_iff, decide_eq_false_iff_not]
  omega

theorem unitChar_toNat (c : Char) : unitChar c.toNat = c := by
  have hcases := toNat_cases c
  have hlow : isLowUnit c.toNat = false := by
    simp only [isLowUnit, Bool.and_eq_false_iff, decide_eq_false_iff_not]
    omega
  simp [unitChar, isHighUnit_toNat, hlow, Char.ofNat_toNat]

variable (c : Char) {cs body : List Char}

/-- The escape of a character puts that character in front. -/
theorem stringText_unicodeEscape (h : StringText cs body) : StringText (c :: cs) (unicodeEscape c ++ body) := by
  have hcases := toNat_cases c
  unfold unicodeEscape
  dsimp only
  split
  next hplane =>
    have hhigh : isHighUnit c.toNat = true → ¬ StartsLow body := by simp [isHighUnit_toNat]
    have htext : StringText (unitChar c.toNat :: cs) ('\\' :: 'u' :: (hexDigits 4 c.toNat ++ body)) :=
      .unit (unitDigits_hexDigits hplane) hhigh h
    rwa [unitChar_toNat] at htext
  next hplane =>
    obtain ⟨n, hn⟩ : ∃ n, c.toNat = 0x10000 + n := ⟨c.toNat - 0x10000, by omega⟩
    have hoffset : c.toNat - 0x10000 = n := by omega
    have hbound : n < 0x100000 := by omega
    rw [hoffset]
    have hhigh : isHighUnit (0xD800 + n / 1024) = true := by
      simp only [isHighUnit, Bool.and_eq_true, decide_eq_true_eq]
      omega
    have hlow : isLowUnit (0xDC00 + n % 1024) = true := by
      simp only [isLowUnit, Bool.and_eq_true, decide_eq_true_eq]
      omega
    have hpair : pairChar (0xD800 + n / 1024) (0xDC00 + n % 1024) = c := by
      have hsum : 0x10000 + (0xD800 + n / 1024 - 0xD800) * 1024 + (0xDC00 + n % 1024 - 0xDC00) = c.toNat := by omega
      rw [pairChar, hsum, Char.ofNat_toNat]
    have htext := StringText.pair (unitDigits_hexDigits (show 0xD800 + n / 1024 < 65536 by omega)) hhigh
      (unitDigits_hexDigits (show 0xDC00 + n % 1024 < 65536 by omega)) hlow h
    rw [hpair] at htext
    rw [unitEscape, unitEscape, List.append_assoc]
    exact htext

theorem stringText_escape (h : StringText cs body) : StringText (c :: cs) (escape ascii c ++ body) := by
  unfold escape
  cases hshort : shortEscape? c with
  | some e =>
    have hunescape : unescape? e = some c := by
      unfold shortEscape? at hshort
      split at hshort <;> cases hshort
      all_goals rfl
    exact .short hunescape h
  | none =>
    dsimp only
    split
    next hplain =>
      have hprintable : 32 ≤ c.toNat := by
        simp only [ascii, Bool.and_eq_true, decide_eq_true_eq] at hplain
        exact hplain.1
      refine .plain hprintable ?_ ?_ h
      all_goals
        rintro rfl
        cases hshort
    next => exact stringText_unicodeEscape c h

theorem stringText_escapes (cs : List Char) : StringText cs (cs.flatMap (escape ascii)) := by
  induction cs with
  | nil => exact .nil
  | cons c cs ih =>
    rw [List.flatMap_cons]
    exact stringText_escape c ih

/-- A string that was written is read back, with what follows it. -/
theorem readString_stringText (s : String) (start rest : List Char) :
    readString start ((s.toList.flatMap (escape ascii) ++ '"' :: rest).length + 1) []
      (s.toList.flatMap (escape ascii) ++ '"' :: rest) = .ok (s, rest) := by
  have hread := readString_of_stringText (stringText_escapes s.toList) start rest
    (show (s.toList.flatMap (escape ascii)).length <
        (s.toList.flatMap (escape ascii) ++ '"' :: rest).length + 1 by
      rw [List.length_append]
      omega) []
  simpa using hread

/-- A carriage return is escaped like all control characters. -/
theorem return_notMem_stringText (s : String) : '\r' ∉ (stringText ascii s).toList := by
  intro h
  simp only [stringText, String.toList_ofList, stringChars, List.mem_append, List.mem_cons, List.not_mem_nil,
    or_false] at h
  rcases h with (h | h) | h
  · cases h
  · exact ((stringText_escapes s.toList).inline _ h).2 rfl
  · cases h

end Writing

end ObjectIntake.Json
