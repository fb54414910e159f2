import ObjectIntake.Json.Reader

/-!
What a JSON text is, apart from how it is read: scalars, and arrays and objects of values that are nested less deep,
with gaps between the tokens. The words for numbers that are none count as scalars, numbers may have any length, and
of the members with one key the last one counts.
-/
namespace ObjectIntake.Json

/-- The four hexadecimal digits of a UTF-16 unit. -/
def UnitDigits (digits : List Char) (n : Nat) : Prop := unit? digits = some (n, [])

/-- The text goes on with the escape of a low surrogate. -/
def StartsLow (text : List Char) : Prop :=
  ∃ digits n rest, text = '\\' :: 'u' :: (digits ++ rest) ∧ UnitDigits digits n ∧ isLowUnit n = true

def startsLow (text : List Char) : Bool :=
  match text with
  | '\\' :: 'u' :: rest => (unit? rest).any fun (n, _) => isLowUnit n
  | _ => false

/-- Somewhere in the text a surrogate is escaped that is not one of a pair. -/
def hasLoneSurrogate (text : List Char) : Bool :=
  match text with
  | '\\' :: 'u' :: rest =>
      match unit? rest with
      | some (n, after) =>
          -- An escape has four digits after its start, and one of a pair is followed by another.
          if isHighUnit n then !startsLow after || hasLoneSurrogate (rest.drop 10)
          else isLowUnit n || hasLoneSurrogate (rest.drop 4)
      | none => hasLoneSurrogate rest
  | '\\' :: _ :: rest => hasLoneSurrogate rest
  | _ :: rest => hasLoneSurrogate rest
  | [] => false
termination_by text.length

/-- What stands between the quotes for some characters. -/
inductive StringText : (cs text : List Char) → Prop where
  | nil : StringText [] []
  | plain {c : Char} {cs text : List Char} (hcontrol : 32 ≤ c.toNat) (hquote : c ≠ '"') (hslash : c ≠ '\\')
      (rest : StringText cs text) : StringText (c :: cs) (c :: text)
  | short {e c : Char} {cs text : List Char} (h : unescape? e = some c) (rest : StringText cs text) :
      StringText (c :: cs) ('\\' :: e :: text)
  /-- A high surrogate stands alone only where no low one follows. -/
  | unit {digits cs text : List Char} {n : Nat} (h : UnitDigits digits n)
      (hlone : isHighUnit n = true → ¬ StartsLow text) (rest : StringText cs text) :
      StringText (unitChar n :: cs) ('\\' :: 'u' :: (digits ++ text))
  | pair {highDigits lowDigits cs text : List Char} {high low : Nat} (h : UnitDigits highDigits high)
      (hhigh : isHighUnit high = true) (hnext : UnitDigits lowDigits low) (hlow : isLowUnit low = true)
      (rest : StringText cs text) :
      StringText (pairChar high low :: cs) ('\\' :: 'u' :: (highDigits ++ '\\' :: 'u' :: (lowDigits ++ text)))

/-- Digits without a leading zero, unless zero is meant. -/
structure WholeText (ds : List Char) : Prop where
  ne_nil : ds ≠ []
  digits : ∀ d ∈ ds, d.isDigit = true
  leading : ds.head? = some '0' → ds = ['0']

/-- The places after the point, and no point where there are none. -/
def fractionText (places : List Char) : List Char := if places = [] then [] else '.' :: places

inductive ExponentText : Int → List Char → Prop where
  | absent : ExponentText 0 []
  | negative {e : Char} {ds : List Char} (he : e = 'e' ∨ e = 'E') (hne : ds ≠ []) (hds : ∀ d ∈ ds, d.isDigit = true) :
      ExponentText (-(natOf ds : Int)) (e :: '-' :: ds)
  | positive {e : Char} {sign ds : List Char} (he : e = 'e' ∨ e = 'E') (hsign : sign = [] ∨ sign = ['+'])
      (hne : ds ≠ []) (hds : ∀ d ∈ ds, d.isDigit = true) : ExponentText (natOf ds) (e :: (sign ++ ds))

def signText (negative : Bool) : List Char := if negative then ['-'] else []

/-- A number without its sign, which is given. -/
inductive UnsignedText (negative : Bool) : Json → List Char → Prop where
  | int {ds : List Char} (h : WholeText ds) :
      UnsignedText negative (.int (if negative then -(natOf ds : Int) else natOf ds)) ds
  | float {ds places exponentChars : List Char} {exponent : Int} (h : WholeText ds)
      (hplaces : ∀ d ∈ places, d.isDigit = true) (hexponent : ExponentText exponent exponentChars)
      (hsome : places ≠ [] ∨ exponentChars ≠ []) :
      UnsignedText negative
        (.float (Numeral.Binary64.ofDecimal negative (natOf (ds ++ places)) (exponent - places.length)))
        (ds ++ (fractionText places ++ exponentChars))

def words : List (String × Json) :=
  [("null", .null), ("true", .bool true), ("false", .bool false), ("NaN", .float (0.0 / 0.0)),
    ("Infinity", .float (1.0 / 0.0)), ("-Infinity", .float (-1.0 / 0.0))]

inductive ScalarText : Json → List Char → Prop where
  | word {w : String} {j : Json} (h : (w, j) ∈ words) : ScalarText j w.toList
  | number {negative : Bool} {j : Json} {text : List Char} (h : UnsignedText negative j text) :
      ScalarText j (signText negative ++ text)
  | string {cs text : List Char} (h : StringText cs text) :
      ScalarText (.str (String.ofList cs)) ('"' :: (text ++ ['"']))

def Gap (s : List Char) : Prop := ∀ c ∈ s, isGap c = true

/-- Texts of items, at least one, each before a gap, with commas and gaps between them. -/
inductive SeparatedText {α : Type} (item : α → List Char → Prop) : List α → List Char → Prop where
  | last {a : α} {text gap : List Char} (h : item a text) (hgap : Gap gap) : SeparatedText item [a] (text ++ gap)
  | cons {a : α} {items : List α} {text before after rest : List Char} (h : item a text) (hbefore : Gap before)
      (hafter : Gap after) (hrest : SeparatedText item items rest) :
      SeparatedText item (a :: items) (text ++ (before ++ ',' :: (after ++ rest)))

/-- A key, a colon and a value. -/
inductive MemberText (item : Json → List Char → Prop) : String × Json → List Char → Prop where
  | mk {cs key before after text : List Char} {j : Json} (hkey : StringText cs key) (hbefore : Gap before)
      (hafter : Gap after) (h : item j text) :
      MemberText item (String.ofList cs, j) ('"' :: (key ++ '"' :: (before ++ ':' :: (after ++ text))))

/-- A scalar, or an array or object of such values as `item` gives. -/
inductive NestedText (item : Json → List Char → Prop) : Json → List Char → Prop where
  | scalar {j : Json} {text : List Char} (h : ScalarText j text) : NestedText item j text
  | noItems {gap : List Char} (hgap : Gap gap) : NestedText item (.arr []) ('[' :: (gap ++ [']']))
  | items {gap body : List Char} {items : List Json} (hgap : Gap gap) (h : SeparatedText item items body) :
      NestedText item (.arr items) ('[' :: (gap ++ (body ++ [']'])))
  | noMembers {gap : List Char} (hgap : Gap gap) : NestedText item (.obj []) ('\x7b' :: (gap ++ ['\x7d']))
  | members {gap body : List Char} {members : List (String × Json)} (hgap : Gap gap)
      (h : SeparatedText (MemberText item) members body) :
      NestedText item (.obj (Keyed.ofList members)) ('\x7b' :: (gap ++ (body ++ ['\x7d'])))

/-- The texts of a value that is nested to at most `depth` levels. -/
def ValueText : (depth : Nat) → Json → List Char → Prop
  | 0 => ScalarText
  | depth + 1 => NestedText (ValueText depth)

/-- A text that holds one value, however deep it is nested, with nothing but gaps around it. -/
def Document (text : List Char) (j : Json) : Prop :=
  ∃ depth before body after, ValueText depth j body ∧ Gap before ∧ Gap after ∧ text = before ++ (body ++ after)

end ObjectIntake.Json
