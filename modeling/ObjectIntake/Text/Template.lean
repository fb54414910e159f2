import ObjectIntake.Json.Printer
import ObjectIntake.Numeral.Fixed
import ObjectIntake.Text.Digit

/-! Templates: texts with conversions, each of which starts with a percent sign and takes an argument. -/
namespace ObjectIntake.Text.Template

inductive Mismatch where
  | tooFewArguments
  | tooManyArguments
  | mappingExpected
  | unknownKey
  | numberExpected
  | characterExpected
  | widthExpected
  | notANumber
  | infinite
  /-- A number that is too large for its conversion. -/
  | outOfRange
  | widthTooLarge
  | precisionTooLarge
  | incomplete
  | incompleteKey
  | unknownConversion (c : Char) (index : Nat)
  /-- An integer has more digits than can be written. -/
  | integerTooLong
  deriving DecidableEq

/-- The message of a mismatch, where it needs one. -/
def Mismatch.message : Mismatch → String
  | notANumber => "cannot convert float NaN to integer"
  | widthTooLarge => "width too big"
  | precisionTooLarge => "precision too big"
  | incomplete => "incomplete format"
  | incompleteKey => "incomplete format key"
  | unknownConversion c index =>
      "unsupported format character '" ++
        (if 31 ≤ c.toNat && c.toNat < 127 then String.singleton c else "?") ++ "' (0x" ++
        String.ofList (Nat.toDigits 16 c.toNat) ++ ") at index " ++ toString index
  | integerTooLong => Numeral.limitMessage
  | _ => ""

/-- The arguments: in order, or by name. -/
structure Arguments where
  left : List Json
  named : Option (Keyed Json)

structure Conversion where
  minus : Bool := false
  plus : Bool := false
  blank : Bool := false
  alternate : Bool := false
  zero : Bool := false
  width : Nat := 0
  precision : Option Nat := none

abbrev Answer (α : Type) := Except Mismatch α

def next (a : Arguments) : Answer (Json × Arguments) :=
  match a.left with
  | j :: rest => .ok (j, { a with left := rest })
  | [] => .error .tooFewArguments

def flags : List Char → Conversion → Conversion × List Char
  | '-' :: rest, c => flags rest { c with minus := true }
  | '+' :: rest, c => flags rest { c with plus := true }
  | ' ' :: rest, c => flags rest { c with blank := true }
  | '#' :: rest, c => flags rest { c with alternate := true }
  | '0' :: rest, c => flags rest { c with zero := true }
  | rest, c => (c, rest)

def number (s : List Char) : Nat × List Char :=
  ((s.takeWhile Char.isDigit).foldl (fun n d => 10 * n + (d.toNat - 48)) 0, s.dropWhile Char.isDigit)

def widthLimit : Nat := Numeral.twoTo 63 - 1
def precisionLimit : Nat := Numeral.twoTo 31 - 1

/-- A width or precision that is given as an argument. -/
def star (limit : Nat) (a : Arguments) : Answer (Int × Arguments) := do
  let (j, a) ← next a
  let n ←
    match j with
    | .int n => pure n
    | .bool b => pure (if b then 1 else 0)
    | _ => throw .widthExpected
  if n < -limit - 1 || limit < n then throw .outOfRange
  return (n, a)

def readWidth (s : List Char) (c : Conversion) (a : Arguments) :
    Answer (Conversion × List Char × Arguments) :=
  match s with
  | '*' :: rest => do
      let (n, a) ← star widthLimit a
      return ({ c with minus := c.minus || n < 0, width := n.natAbs }, rest, a)
  | s => do
      if widthLimit < (number s).1 then throw .widthTooLarge
      return ({ c with width := (number s).1 }, (number s).2, a)

def readPrecision (s : List Char) (c : Conversion) (a : Arguments) :
    Answer (Conversion × List Char × Arguments) :=
  match s with
  | '.' :: '*' :: rest => do
      let (n, a) ← star precisionLimit a
      return ({ c with precision := some n.toNat }, rest, a)
  | '.' :: rest => do
      if precisionLimit < (number rest).1 then throw .precisionTooLarge
      return ({ c with precision := some (number rest).1 }, (number rest).2, a)
  | s => return (c, s, a)

/-- A text filled up to the width; zeros go between the sign and the digits. -/
def pad (c : Conversion) (numeric : Bool) (sign body : String) : String :=
  let missing := c.width - (sign.length + body.length)
  let fill (ch : Char) : String := String.ofList (List.replicate missing ch)
  if c.minus then sign ++ body ++ fill ' '
  else if numeric && c.zero then sign ++ fill '0' ++ body
  else fill ' ' ++ sign ++ body

def signOf (c : Conversion) (negative : Bool) : String :=
  if negative then "-" else if c.plus then "+" else if c.blank then " " else ""

def asciiLiteral (s : String) : String :=
  String.ofList (s.toList.flatMap fun ch =>
    let n := ch.toNat
    if n < 128 then [ch]
    else if n < 0x100 then '\\' :: 'x' :: hexDigits 2 n
    else if n < 0x10000 then '\\' :: 'u' :: hexDigits 4 n
    else '\\' :: 'U' :: hexDigits 8 n)

def integerOf : Json → Answer Int
  | .int n => .ok n
  | .bool b => .ok (if b then 1 else 0)
  | _ => .error .numberExpected

def truncated : Json → Answer Int
  | .float x =>
      match Numeral.Binary64.truncate? x with
      | some n => .ok n
      | none => .error (if x.isNaN then .notANumber else .infinite)
  | j => integerOf j

/-- A text for an argument, if its integers can be written. -/
def written (text : Json → String) (j : Json) : Answer String :=
  if j.isWritable then .ok (text j) else .error .integerTooLong

/-- The integer that is written in decimal digits. -/
def decimal (j : Json) : Answer Int := do
  let n ← truncated j
  if (Numeral.write? n).isSome then return n else throw .integerTooLong

def floatOf : Json → Answer Float
  | .float x => .ok x
  | j => do
      let n ← integerOf j
      let x := Numeral.Binary64.ofRatio (n < 0) n.natAbs 1
      if x.isInf then .error .outOfRange else .ok x

def writeInteger (c : Conversion) (base : Nat) (mark : String) (n : Int) : String :=
  let digits := String.ofList (Nat.toDigits base n.natAbs)
  let body := String.ofList (List.replicate (c.precision.getD 0 - digits.length) '0') ++ digits
  pad c true (signOf c (n < 0) ++ if c.alternate then mark else "") body

def writeFloat (c : Conversion) (kind : Char) (x : Float) : String :=
  match Numeral.Binary64.shape x with
  | .nan => pad c true (signOf c false) "nan"
  | .infinite negative => pad c true (signOf c negative) "inf"
  | .finite negative m e =>
      let v := Numeral.Fixed.ratio m e
      let precision := c.precision.getD 6
      let body :=
        if kind = 'f' then Numeral.Fixed.positional v precision c.alternate
        else if kind = 'e' then
          Numeral.Fixed.scientificText (Numeral.Fixed.scientific v precision) c.alternate
        else Numeral.Fixed.general v precision c.alternate
      pad c true (signOf c negative) body

def writeText (c : Conversion) (s : String) : String :=
  pad c false "" (match c.precision with
    | some n => String.ofList (s.toList.take n)
    | none => s)

def upper (s : String) : String := s.map Char.toUpper

/-- The text of an argument in the conversion `kind`; `index` is where that stands. -/
def convert (c : Conversion) (kind : Char) (index : Nat) (j : Json) : Answer String :=
  if kind = 's' then do return writeText c (← written Json.plainText j)
  else if kind = 'r' then do return writeText c (← written Json.literal j)
  else if kind = 'a' then do return writeText c (asciiLiteral (← written Json.literal j))
  else if kind = 'd' || kind = 'i' || kind = 'u' then do
    return writeInteger { c with alternate := false } 10 "" (← decimal j)
  else if kind = 'o' then do return writeInteger c 8 "0o" (← integerOf j)
  else if kind = 'x' then do return writeInteger c 16 "0x" (← integerOf j)
  else if kind = 'X' then do return upper (writeInteger c 16 "0x" (← integerOf j))
  else if kind = 'f' || kind = 'e' || kind = 'g' then do return writeFloat c kind (← floatOf j)
  else if kind = 'F' || kind = 'E' || kind = 'G' then do
    return upper (writeFloat c kind.toLower (← floatOf j))
  else if kind = 'c' then
    match j with
    | .str s => if s.length = 1 then .ok (pad c false "" s) else .error .characterExpected
    | .int n =>
        if 0 ≤ n ∧ n < 0x110000 then .ok (pad c false "" (String.singleton (Char.ofNat n.toNat)))
        else .error .outOfRange
    | .bool b => .ok (pad c false "" (String.singleton (if b then '\x01' else '\x00')))
    | _ => .error .characterExpected
  else .error (.unknownConversion kind index)

/-- The text up to the parenthesis that closes `depth` open ones, and the text after it. -/
def keyUpTo (depth : Nat) : List Char → Option (List Char × List Char)
  | [] => none
  | c :: rest =>
      if c = ')' && depth = 0 then some ([], rest)
      else
        let depth := if c = '(' then depth + 1 else if c = ')' then depth - 1 else depth
        (keyUpTo depth rest).map fun (key, after) => (c :: key, after)

/-- The key in parentheses after the percent sign, and the value under it. -/
def readKey (s : List Char) (a : Arguments) : Answer (List Char × Arguments) :=
  match s with
  | '(' :: rest =>
      match a.named with
      | none => .error .mappingExpected
      | some named =>
          match keyUpTo 0 rest with
          | none => .error .incompleteKey
          | some (key, after) =>
              match named.get? (String.ofList key) with
              | some j => .ok (after, ⟨[j], some named⟩)
              | none => .error .unknownKey
  | s => .ok (s, a)

/-- Letters for the size of an argument have no effect. -/
def skipSize (s : List Char) : List Char :=
  match s with
  | c :: rest => if c = 'l' || c = 'h' || c = 'L' then rest else s
  | [] => []

def expandFrom (total : Nat) : (fuel : Nat) → List Char → Arguments → Answer String
  | 0, _, _ => .ok ""
  | _ + 1, [], a =>
      match a.left, a.named with
      | _ :: _, none => .error .tooManyArguments
      | _, _ => .ok ""
  | fuel + 1, '%' :: '%' :: rest, a => do return "%" ++ (← expandFrom total fuel rest a)
  | fuel + 1, c :: rest, a =>
      if c = '%' then do
        let (rest, a) ← readKey rest a
        let (conversion, rest) := flags rest {}
        let (conversion, rest, a) ← readWidth rest conversion a
        let (conversion, rest, a) ← readPrecision rest conversion a
        match skipSize rest with
        | [] => throw .incomplete
        | kind :: rest =>
            let (j, a) ← next a
            let text ← convert conversion kind (total - rest.length - 1) j
            return text ++ (← expandFrom total fuel rest a)
      else return String.singleton c ++ (← expandFrom total fuel rest a)

/-- The template with its arguments put in. A single mapping gives arguments by name. -/
def expand (template : String) (arguments : List Json) : Answer String :=
  let a : Arguments :=
    match arguments with
    | [.obj members] => if members.isEmpty then ⟨arguments, none⟩ else ⟨[.obj members], some members⟩
    | _ => ⟨arguments, none⟩
  expandFrom template.length (template.length + 1) template.toList a

end ObjectIntake.Text.Template
