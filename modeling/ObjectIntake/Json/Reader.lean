import ObjectIntake.Json.Basic
import ObjectIntake.Numeral.Binary64
import ObjectIntake.Numeral.Integer
import ObjectIntake.Text.Digit

/-!
Reading JSON. Each reader takes the characters that are left and gives the value with those left after it;
a fault says how many were left where it lies.
-/
namespace ObjectIntake.Json
open Text

inductive FaultKind where
  | byteOrderMark
  | expectingValue
  | expectingKey
  | expectingColon
  | expectingComma
  | trailingText
  | unterminatedString
  | controlCharacter
  | unknownEscape
  | malformedUnicodeEscape
  /-- An integer has more digits than the limit. -/
  | integerTooLong (digits : Nat)
  | nestedTooDeep
  deriving DecidableEq, Repr

structure Fault where
  kind : FaultKind
  left : Nat
  deriving DecidableEq, Repr

def faultAt {α : Type} (kind : FaultKind) (rest : List Char) : Except Fault α :=
  .error ⟨kind, rest.length⟩

/-- Blanks between the tokens. -/
def isGap (c : Char) : Bool := c = ' ' || c = '\t' || c = '\n' || c = '\r'

def skipGap (s : List Char) : List Char := s.dropWhile isGap

/-- The value of the four hexadecimal digits that `s` starts with. -/
def unit? (s : List Char) : Option (Nat × List Char) :=
  match s with
  | a :: b :: c :: d :: rest => do
      let a ← hexDigit? a
      let b ← hexDigit? b
      let c ← hexDigit? c
      let d ← hexDigit? d
      return (((a * 16 + b) * 16 + c) * 16 + d, rest)
  | _ => none

def isHighUnit (n : Nat) : Bool := 0xD800 ≤ n && n < 0xDC00

def isLowUnit (n : Nat) : Bool := 0xDC00 ≤ n && n < 0xE000

/-- The character of one unit. A surrogate without its partner is none, and the replacement character stands for it. -/
def unitChar (n : Nat) : Char :=
  if isHighUnit n || isLowUnit n then Char.ofNat 0xFFFD else Char.ofNat n

def pairChar (high low : Nat) : Char :=
  Char.ofNat (0x10000 + (high - 0xD800) * 1024 + (low - 0xDC00))

/-- A unicode escape after its `u`, followed by at least one more character. -/
def readUnit (afterBackslash : List Char) (s : List Char) : Except Fault (Nat × List Char) :=
  match unit? s with
  | some (n, c :: rest) => .ok (n, c :: rest)
  | _ => faultAt .malformedUnicodeEscape afterBackslash

/-- The low surrogate whose escape `s` starts with, if it can be the second half of a pair. -/
def readLow (s : List Char) : Except Fault (Option (Nat × List Char)) :=
  match s with
  | '\\' :: 'u' :: rest =>
      if rest.length < 5 then .ok none
      else do
        let (n, rest') ← readUnit ('u' :: rest) rest
        return if isLowUnit n then some (n, rest') else none
  | _ => .ok none

def unescape? (c : Char) : Option Char :=
  match c with
  | '"' => some '"'
  | '\\' => some '\\'
  | '/' => some '/'
  | 'b' => some '\x08'
  | 'f' => some '\x0c'
  | 'n' => some '\n'
  | 'r' => some '\r'
  | 't' => some '\t'
  | _ => none

/-- The characters up to the closing quote, in reverse order before `done`; `start` is the opening one. -/
def readString (start : List Char) :
    (fuel : Nat) → (done : List Char) → List Char → Except Fault (String × List Char)
  | 0, _, _ => faultAt .unterminatedString start
  | _ + 1, _, [] => faultAt .unterminatedString start
  | fuel + 1, done, c :: rest =>
      if c = '"' then .ok (String.ofList done.reverse, rest)
      else if c.toNat < 32 then faultAt .controlCharacter (c :: rest)
      else if c = '\\' then
        match rest with
        | [] => faultAt .unterminatedString start
        | 'u' :: digits => do
            let (n, rest') ← readUnit rest digits
            if isHighUnit n then
              match ← readLow rest' with
              | some (low, rest'') => readString start fuel (pairChar n low :: done) rest''
              | none => readString start fuel (unitChar n :: done) rest'
            else readString start fuel (unitChar n :: done) rest'
        | e :: rest' =>
            match unescape? e with
            | some c => readString start fuel (c :: done) rest'
            | none => faultAt .unknownEscape (c :: rest)
      else readString start fuel (c :: done) rest

/-- The digits that `s` starts with. -/
def digitsOf (s : List Char) : List Char × List Char := (s.takeWhile Char.isDigit, s.dropWhile Char.isDigit)

def natOf (ds : List Char) : Nat := ds.foldl (fun n d => 10 * n + (d.toNat - 48)) 0

/-- The digits after a decimal point, which belongs to the number only if there are some. -/
def fractionOf (s : List Char) : Option (List Char × List Char) :=
  match s with
  | '.' :: rest => if (digitsOf rest).1.isEmpty then none else some (digitsOf rest)
  | _ => none

/-- The exponent, which belongs to the number only if it has digits. -/
def exponentOf (s : List Char) : Option (Int × List Char) :=
  match s with
  | e :: rest =>
      if e = 'e' || e = 'E' then
        let (negative, rest) :=
          match rest with
          | '-' :: r => (true, r)
          | '+' :: r => (false, r)
          | r => (false, r)
        let (ds, rest) := digitsOf rest
        if ds.isEmpty then none
        else some (if negative then -(natOf ds : Int) else natOf ds, rest)
      else none
  | [] => none

/-- A number without its sign, which has already been read; `start` is where it began. -/
def readUnsigned (start : List Char) (negative : Bool) (s : List Char) :
    Except Fault (Json × List Char) :=
  let whole :=
    match s with
    | '0' :: rest => (['0'], rest)
    | _ => digitsOf s
  if whole.1.isEmpty then faultAt .expectingValue start
  else
    let fraction := fractionOf whole.2
    let rest := (fraction.map (·.2)).getD whole.2
    let exponent := exponentOf rest
    let rest := (exponent.map (·.2)).getD rest
    if fraction.isNone && exponent.isNone then
      if Numeral.digitLimit < whole.1.length then faultAt (.integerTooLong whole.1.length) start
      else .ok (.int (if negative then -(natOf whole.1 : Int) else natOf whole.1), rest)
    else
      let places := (fraction.map (·.1)).getD []
      .ok (.float (Numeral.Binary64.ofDecimal negative (natOf (whole.1 ++ places))
        ((exponent.map (·.1)).getD 0 - places.length)), rest)

/-- The value of a word that stands for one. -/
def word? (s : List Char) : Option (Json × List Char) :=
  let words : List (String × Json) :=
    [("null", .null), ("true", .bool true), ("false", .bool false), ("NaN", .float (0.0 / 0.0)),
      ("Infinity", .float (1.0 / 0.0)), ("-Infinity", .float (-1.0 / 0.0))]
  words.findSome? fun (w, j) =>
    if w.toList.isPrefixOf s then some (j, s.drop w.length) else none

/-- What follows the first item of an array. -/
def readItems (item : List Char → Except Fault (Json × List Char)) :
    (fuel : Nat) → (done : List Json) → List Char → Except Fault (List Json × List Char)
  | 0, _, s => faultAt .expectingComma s
  | fuel + 1, done, s => do
      let (j, rest) ← item s
      match skipGap rest with
      | ']' :: rest => return ((j :: done).reverse, rest)
      | ',' :: rest => readItems item fuel (j :: done) (skipGap rest)
      | rest => faultAt .expectingComma rest

def readMembers (item : List Char → Except Fault (Json × List Char)) :
    (fuel : Nat) → (done : Keyed Json) → List Char → Except Fault (Keyed Json × List Char)
  | 0, _, s => faultAt .expectingComma s
  | fuel + 1, done, s =>
      match s with
      | '"' :: rest => do
          let (key, rest) ← readString s (rest.length + 1) [] rest
          match skipGap rest with
          | ':' :: rest =>
              let (j, rest) ← item (skipGap rest)
              let done := done.put key j
              match skipGap rest with
              | '\x7d' :: rest => return (done, rest)
              | ',' :: rest => readMembers item fuel done (skipGap rest)
              | rest => faultAt .expectingComma rest
          | rest => faultAt .expectingColon rest
      | s => faultAt .expectingKey s

/-- The value that `s` starts with, nested to at most `depth` levels. -/
def readValue : (depth : Nat) → List Char → Except Fault (Json × List Char)
  | depth, s =>
      match s with
      | '"' :: rest => do
          let (text, rest) ← readString s (rest.length + 1) [] rest
          return (.str text, rest)
      | '[' :: rest =>
          match depth with
          | 0 => faultAt .nestedTooDeep s
          | depth + 1 =>
              match skipGap rest with
              | ']' :: rest => .ok (.arr [], rest)
              | rest => do
                  let (items, rest) ← readItems (readValue depth) (rest.length + 1) [] rest
                  return (.arr items, rest)
      | '\x7b' :: rest =>
          match depth with
          | 0 => faultAt .nestedTooDeep s
          | depth + 1 =>
              match skipGap rest with
              | '\x7d' :: rest => .ok (.obj [], rest)
              | rest => do
                  let (members, rest) ← readMembers (readValue depth) (rest.length + 1) [] rest
                  return (.obj members, rest)
      | s =>
          match word? s with
          | some answer => .ok answer
          | none =>
              match s with
              | '-' :: rest => readUnsigned s true rest
              | s => readUnsigned s false s

/-- How deep values may be nested in a text, where nothing else is said. -/
def usualDepth : Nat := 990

/-- The one value that `s` holds, with nothing but gaps around it. -/
def readWithin (depth : Nat) (s : List Char) : Except Fault Json :=
  match s with
  | '\uFEFF' :: _ => faultAt .byteOrderMark s
  | _ => do
      let (j, rest) ← readValue depth (skipGap s)
      match skipGap rest with
      | [] => return j
      | rest => faultAt .trailingText rest

def read (depth : Nat) (s : String) : Except Fault Json := readWithin depth s.toList

def FaultKind.message : FaultKind → String
  | .byteOrderMark => "Unexpected UTF-8 BOM (decode using utf-8-sig)"
  | .expectingValue => "Expecting value"
  | .expectingKey => "Expecting property name enclosed in double quotes"
  | .expectingColon => "Expecting ':' delimiter"
  | .expectingComma => "Expecting ',' delimiter"
  | .trailingText => "Extra data"
  | .unterminatedString => "Unterminated string starting at"
  | .controlCharacter => "Invalid control character at"
  | .unknownEscape => "Invalid \\escape"
  | .malformedUnicodeEscape => "Invalid \\uXXXX escape"
  | .integerTooLong digits =>
      "Exceeds the limit (4300 digits) for integer string conversion: value has " ++
        toString digits ++ " digits; use sys.set_int_max_str_digits() to increase the limit"
  | .nestedTooDeep => "maximum recursion depth exceeded while decoding a JSON array from a unicode string"

/-- The fault with the line, the column and the offset at which it lies in `s`. -/
def Fault.describe (fault : Fault) (s : String) : String :=
  let before := s.toList.take (s.length - fault.left)
  let line := before.count '\n' + 1
  let column := (before.reverse.takeWhile (· ≠ '\n')).length + 1
  fault.kind.message ++ ": line " ++ toString line ++ " column " ++ toString column ++
    " (char " ++ toString before.length ++ ")"

end ObjectIntake.Json
