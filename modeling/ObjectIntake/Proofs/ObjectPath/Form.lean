import Mathlib.Data.List.Forall2
import ObjectIntake.ObjectPath.Form
import ObjectIntake.Proofs.Text.Utf8

/-!
The form encodings of a text, and that they are what decodes: each character stands for itself, a plus sign for a
space, or the escapes of all bytes of a character for that character. Everything else is refused.
-/
namespace ObjectIntake.ObjectPath
open Text

/-- A hexadecimal digit, of either case, and its value. -/
def IsHexDigit (c : Char) (x : Nat) : Prop :=
  "0123456789abcdef".toList[x]? = some c ∨ "0123456789ABCDEF".toList[x]? = some c

/-- A percent sign and two hexadecimal digits that write a byte. -/
def Escapes (b : UInt8) (text : List Char) : Prop :=
  ∃ high low x y, text = ['%', high, low] ∧ IsHexDigit high x ∧ IsHexDigit low y ∧ b.toNat = 16 * x + y

/-- What a piece of a form encoding stands for. -/
inductive StandsFor : List Char → Char → Prop
  | itself {c : Char} (hpercent : c ≠ '%') (hplus : c ≠ '+') : StandsFor [c] c
  | space : StandsFor ['+'] ' '
  | escaped {c : Char} {texts : List (List Char)} (h : List.Forall₂ Escapes (String.utf8EncodeChar c) texts) :
      StandsFor texts.flatten c

/-- The path can be cut into pieces that stand for the characters of the text. -/
def Spells (path text : List Char) : Prop :=
  ∃ pieces : List (List Char), pieces.flatten = path ∧ List.Forall₂ StandsFor pieces text

section Pieces

variable {c : Char} {b : UInt8} {piece rest : List Char}

theorem hexDigit?_eq_some_iff {x : Nat} : hexDigit? c = some x ↔ IsHexDigit c x := by
  constructor
  · intro h
    have hbelow : c.toNat < 103 := by
      unfold hexDigit? at h
      simp only [Bool.and_eq_true, decide_eq_true_eq] at h
      by_contra hbeyond
      rw [if_neg (by omega), if_neg (by omega), if_neg (by omega)] at h
      cases h
    have hall : ∀ n < 103, ∀ x ∈ hexDigit? (Char.ofNat n),
        "0123456789abcdef".toList[x]? = some (Char.ofNat n) ∨
          "0123456789ABCDEF".toList[x]? = some (Char.ofNat n) := by
      decide +kernel
    have hone := hall c.toNat hbelow
    rw [Char.ofNat_toNat] at hone
    exact hone x h
  · have hlower : ∀ x : Fin 16, hexDigit? "0123456789abcdef".toList[x] = some x.1 := by decide +kernel
    have hupper : ∀ x : Fin 16, hexDigit? "0123456789ABCDEF".toList[x] = some x.1 := by decide +kernel
    rintro (h | h)
    · obtain ⟨hlt, rfl⟩ := List.getElem?_eq_some_iff.mp h
      exact hlower ⟨x, hlt⟩
    · obtain ⟨hlt, rfl⟩ := List.getElem?_eq_some_iff.mp h
      exact hupper ⟨x, hlt⟩

theorem IsHexDigit.lt {x : Nat} (h : IsHexDigit c x) : x < 16 := by
  rcases h with h | h
  · exact (List.getElem?_eq_some_iff.mp h).1
  · exact (List.getElem?_eq_some_iff.mp h).1

theorem hexDigit?_ne_percent {x : Nat} (h : hexDigit? c = some x) : c ≠ '%' := by
  rintro rfl
  cases h

theorem wellEscaped_cons (h : c ≠ '%') (rest : List Char) : wellEscaped (c :: rest) = wellEscaped rest := by
  simp [wellEscaped, h]

theorem bytes_cons (hpercent : c ≠ '%') (hplus : c ≠ '+') (rest : List Char) :
    bytes (c :: rest) = Utf8.encodeChar c ++ bytes rest := by
  rw [bytes.eq_def]
  split
  next h => cases h
  next h => exact absurd (List.cons.inj h).1 hplus
  next h =>
    cases h
    exact (List.append_nil _).symm
  next h =>
    cases h
    rfl
  next h =>
    cases h
    exact if_neg hpercent

theorem wellEscaped_escape (h : Escapes b piece) (rest : List Char) :
    wellEscaped (piece ++ rest) = wellEscaped rest := by
  obtain ⟨high, low, x, y, rfl, hhigh, hlow, -⟩ := h
  rw [← hexDigit?_eq_some_iff] at hhigh hlow
  have hdigits := wellEscaped_cons (hexDigit?_ne_percent hhigh) (low :: rest)
  rw [wellEscaped_cons (hexDigit?_ne_percent hlow)] at hdigits
  change ((decide ('%' ≠ '%') || (hexDigit? high).isSome && (hexDigit? low).isSome) &&
    wellEscaped (high :: low :: rest)) = _
  rw [hdigits, hhigh, hlow]
  rfl

theorem bytes_escape (h : Escapes b piece) (rest : List Char) : bytes (piece ++ rest) = b :: bytes rest := by
  obtain ⟨high, low, x, y, rfl, hhigh, hlow, hb⟩ := h
  rw [← hexDigit?_eq_some_iff] at hhigh hlow
  have hbyte : Utf8.byte (16 * x + y) = b := by
    rw [← hb]
    exact UInt8.ofNat_toNat
  have hbytes : bytes ('%' :: high :: low :: rest) = Utf8.byte (16 * x + y) :: bytes rest := by
    rw [bytes.eq_def]
    simp [hhigh, hlow]
  rw [← hbyte]
  exact hbytes

/-- How a path that is well escaped begins. -/
inductive Begins : List Char → Prop
  | empty : Begins []
  | plus {rest : List Char} (h : wellEscaped rest = true) : Begins ('+' :: rest)
  | plain {c : Char} {rest : List Char} (hpercent : c ≠ '%') (hplus : c ≠ '+') (h : wellEscaped rest = true) :
      Begins (c :: rest)
  | escape {b : UInt8} {piece rest : List Char} (hpiece : Escapes b piece) (h : wellEscaped rest = true) :
      Begins (piece ++ rest)

theorem begins_of_wellEscaped {path : List Char} (h : wellEscaped path = true) : Begins path := by
  cases path with
  | nil => exact .empty
  | cons c rest =>
    by_cases hpercent : c = '%'
    · subst hpercent
      match rest, h with
      | a :: b :: rest, h =>
        obtain ⟨hdigits, hrest⟩ := Bool.and_eq_true_iff.mp h
        obtain ⟨hhigh, hlow⟩ : (hexDigit? a).isSome = true ∧ (hexDigit? b).isSome = true := by simpa using hdigits
        obtain ⟨x, hx⟩ := Option.isSome_iff_exists.mp hhigh
        obtain ⟨y, hy⟩ := Option.isSome_iff_exists.mp hlow
        have hfirst := hexDigit?_eq_some_iff.mp hx
        have hsecond := hexDigit?_eq_some_iff.mp hy
        have hxlt := hfirst.lt
        have hylt := hsecond.lt
        have hescapes : Escapes (Utf8.byte (16 * x + y)) ['%', a, b] :=
          ⟨a, b, x, y, rfl, hfirst, hsecond, Utf8.toNat_byte (by omega)⟩
        rw [wellEscaped_cons (hexDigit?_ne_percent hx), wellEscaped_cons (hexDigit?_ne_percent hy)] at hrest
        exact .escape hescapes hrest
    · rw [wellEscaped_cons hpercent] at h
      by_cases hplus : c = '+'
      · subst hplus
        exact .plus h
      · exact .plain hpercent hplus h

/-- The bytes of a piece are those of the character that it stands for, whatever follows. -/
theorem StandsFor.bytes_append (h : StandsFor piece c) (rest : List Char) :
    wellEscaped (piece ++ rest) = wellEscaped rest ∧ bytes (piece ++ rest) = Utf8.encodeChar c ++ bytes rest := by
  cases h with
  | itself hpercent hplus => exact ⟨wellEscaped_cons hpercent rest, bytes_cons hpercent hplus rest⟩
  | space => exact ⟨wellEscaped_cons (by decide) rest, by rw [List.singleton_append, bytes.eq_def]; rfl⟩
  | @escaped _ texts htexts =>
    rw [Utf8.encodeChar_eq_utf8EncodeChar]
    generalize String.utf8EncodeChar c = bs at htexts
    induction htexts with
    | nil => exact ⟨rfl, rfl⟩
    | cons hescapes _ ih =>
      rw [List.flatten_cons, List.append_assoc, wellEscaped_escape hescapes, bytes_escape hescapes, ih.1, ih.2]
      exact ⟨rfl, rfl⟩

end Pieces

/-- Every form encoding of a text decodes to it. -/
theorem decodeChars_of_spells {path text : List Char} (h : Spells path text) :
    wellEscaped path = true ∧ decodeChars path = some text := by
  obtain ⟨pieces, rfl, hpieces⟩ := h
  induction hpieces with
  | nil => exact ⟨rfl, rfl⟩
  | @cons piece c pieces text hpiece _ ih =>
    obtain ⟨hwell, hbytes⟩ := hpiece.bytes_append pieces.flatten
    obtain ⟨ihwell, ihdecode⟩ := ih
    rw [List.flatten_cons]
    refine ⟨hwell.trans ihwell, ?_⟩
    unfold decodeChars at ihdecode ⊢
    rw [hbytes, Utf8.decode_encodeChar, ihdecode]
    rfl

/-- Bytes that go on with a character can only be written as escapes. -/
theorem escapes_of_tails {tails after : List UInt8} {path : List Char} (hwell : wellEscaped path = true)
    (hbytes : bytes path = tails ++ after) (htails : ∀ b ∈ tails, Utf8.IsTail b) :
    ∃ texts rest, List.Forall₂ Escapes tails texts ∧ path = texts.flatten ++ rest ∧ wellEscaped rest = true ∧
      bytes rest = after := by
  induction tails generalizing path with
  | nil => exact ⟨[], path, .nil, rfl, hwell, hbytes⟩
  | cons b tails ih =>
    have hb := htails b (List.mem_cons_self ..)
    cases begins_of_wellEscaped hwell with
    | empty => cases hbytes
    | plus h =>
      rw [bytes.eq_def] at hbytes
      obtain rfl := (List.cons.inj hbytes).1
      exact absurd hb (by decide)
    | @plain c rest hpercent hplus h =>
      obtain ⟨lead, more, hchar, hlead, -⟩ := Utf8.encodeChar_eq_cons c
      rw [bytes_cons hpercent hplus, hchar] at hbytes
      obtain rfl := (List.cons.inj hbytes).1
      exact absurd hb hlead
    | @escape b' piece rest hpiece h =>
      rw [bytes_escape hpiece] at hbytes
      obtain ⟨rfl, hrest⟩ := List.cons.inj hbytes
      obtain ⟨texts, rest', htexts, rfl, hwell', hafter⟩ := ih h hrest fun b hb => htails b (List.mem_cons_of_mem _ hb)
      exact ⟨piece :: texts, rest', .cons hpiece htexts, (List.append_assoc ..).symm, hwell', hafter⟩

theorem Spells.cons {piece rest text : List Char} {c : Char} (hpiece : StandsFor piece c) (hrest : Spells rest text) :
    Spells (piece ++ rest) (c :: text) := by
  obtain ⟨pieces, rfl, hpieces⟩ := hrest
  exact ⟨piece :: pieces, rfl, .cons hpiece hpieces⟩

theorem length_pos_of_standsFor {piece : List Char} {c : Char} (h : StandsFor piece c) : 0 < piece.length := by
  cases h with
  | itself => exact Nat.one_pos
  | space => exact Nat.one_pos
  | @escaped _ texts htexts =>
    obtain ⟨lead, tails, hchar, -⟩ := Utf8.encodeChar_eq_cons c
    rw [← Utf8.encodeChar_eq_utf8EncodeChar, hchar] at htexts
    cases htexts with
    | cons hfirst _ =>
      obtain ⟨high, low, x, y, rfl, -⟩ := hfirst
      exact Nat.succ_pos _

/-- A path that is not empty and whose bytes decode begins with a piece that stands for the first character. -/
theorem exists_piece {path text : List Char} (hwell : wellEscaped path = true) (hne : path ≠ [])
    (h : Utf8.decode (bytes path) = some text) :
    ∃ piece c rest after, StandsFor piece c ∧ path = piece ++ rest ∧ text = c :: after ∧
      wellEscaped rest = true ∧ Utf8.decode (bytes rest) = some after := by
  have hsingle {piece : List Char} {c : Char} {rest : List Char} (hpiece : StandsFor piece c)
      (hrest : wellEscaped rest = true) (hdecode : Utf8.decode (bytes (piece ++ rest)) = some text) :
      ∃ after, text = c :: after ∧ wellEscaped rest = true ∧ Utf8.decode (bytes rest) = some after := by
    rw [(hpiece.bytes_append rest).2, Utf8.decode_encodeChar] at hdecode
    obtain ⟨after, hafter, htext⟩ := Option.map_eq_some_iff.mp hdecode
    exact ⟨after, htext.symm, hrest, hafter⟩
  cases begins_of_wellEscaped hwell with
  | empty => exact absurd rfl hne
  | @plus rest hrest =>
    obtain ⟨after, hafter⟩ := hsingle .space hrest h
    exact ⟨_, _, rest, after, .space, rfl, hafter⟩
  | @plain c rest hpercent hplus hrest =>
    obtain ⟨after, hafter⟩ := hsingle (.itself hpercent hplus) hrest h
    exact ⟨_, _, rest, after, .itself hpercent hplus, rfl, hafter⟩
  | @escape b piece rest hpiece hrest =>
    -- The escape writes the first byte of a character, and the bytes after it are written as escapes too.
    rw [bytes_escape hpiece] at h
    obtain ⟨c, left, after, hbytes, hleft, rfl⟩ := Utf8.opens_of_decode h
    obtain ⟨lead, tails, hchar, -, htails⟩ := Utf8.encodeChar_eq_cons c
    rw [hchar] at hbytes
    obtain ⟨rfl, hmore⟩ := List.cons.inj hbytes
    obtain ⟨texts, rest, htexts, rfl, hwell, rfl⟩ := escapes_of_tails hrest hmore htails
    have hwritten : List.Forall₂ Escapes (String.utf8EncodeChar c) (piece :: texts) := by
      rw [← Utf8.encodeChar_eq_utf8EncodeChar, hchar]
      exact .cons hpiece htexts
    exact ⟨_, c, rest, after, .escaped hwritten, (List.append_assoc ..).symm, rfl, hwell, hleft⟩

/-- What decodes is a form encoding of what it decodes to. -/
theorem spells_of_decodeChars {path text : List Char} (hwell : wellEscaped path = true)
    (h : decodeChars path = some text) : Spells path text := by
  unfold decodeChars at h
  induction hlength : path.length using Nat.strongRecOn generalizing path text with
  | ind n ih =>
    by_cases hne : path = []
    · subst hne
      cases h
      exact ⟨[], rfl, .nil⟩
    obtain ⟨piece, c, rest, after, hpiece, rfl, rfl, hrest, hafter⟩ := exists_piece hwell hne h
    have hpos := length_pos_of_standsFor hpiece
    rw [List.length_append] at hlength
    exact (ih rest.length (by omega) hrest hafter rfl).cons hpiece

theorem decode_eq_ok_iff {path text : String} :
    decode path = .ok text ↔ wellEscaped path.toList = true ∧ decodeChars path.toList = some text.toList := by
  unfold decode
  by_cases hwell : wellEscaped path.toList = true
  · rw [if_pos hwell]
    cases hdecode : decodeChars path.toList with
    | none => simp
    | some s => simp [hwell, String.ext_iff, eq_comm]
  · rw [if_neg hwell]
    simp [hwell]

theorem decode_eq_ok_iff_spells {path text : String} : decode path = .ok text ↔ Spells path.toList text.toList := by
  rw [decode_eq_ok_iff]
  exact ⟨fun h => spells_of_decodeChars h.1 h.2, decodeChars_of_spells⟩

/-- A path decodes to a text exactly where it is a form encoding of it, whichever characters are escaped there. Any
other path is refused for an escape that is malformed or for bytes that are not UTF-8. -/
theorem decodes_iff_spells (path : String) :
    (∀ text : String, decode path = .ok text ↔ Spells path.toList text.toList) ∧
      ((decode path = .error (.malformedEscape path) ∨ decode path = .error .notUtf8) ↔
        ¬ ∃ text : String, Spells path.toList text.toList) := by
  refine ⟨fun text => decode_eq_ok_iff_spells, ?_⟩
  simp only [← decode_eq_ok_iff_spells]
  unfold decode
  split
  next =>
    split
    next s hs => simp
    next => simp
  next => simp

/-- Of the three bytes of a sign one may be escaped in lower case, but no letter may come between them. -/
example : decodeChars "+%E2%82%aCé".toList = some " €é".toList ∧ decodeChars "%C3é".toList = none := by
  decide +kernel

/-- The path of the object that a reference names under a scheme: the one that its address spells. -/
def Locates (scheme : String) (ref : Event.Reference) (path : String) : Prop :=
  Spells (scheme ++ "://" ++ ref.bucket ++ "/" ++ ref.key).toList path.toList

theorem decode_build_eq_ok_iff {scheme path : String} {ref : Event.Reference} :
    decode (build scheme ref) = .ok path ↔ Locates scheme ref path := decode_eq_ok_iff_spells

end ObjectIntake.ObjectPath
