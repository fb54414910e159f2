import ObjectIntake.Json.Basic
import ObjectIntake.Numeral.Integer
import ObjectIntake.Numeral.Shortest
import ObjectIntake.Text.Search
import ObjectIntake.Text.Quoted

/-! Texts of JSON values: JSON itself, and the literals that messages quote them with. -/
namespace ObjectIntake.Json
open Text

/-- The escape of the UTF-16 unit `n`. -/
def unitEscape (n : Nat) : List Char := '\\' :: 'u' :: hexDigits 4 n

/-- The escape of a character by its units: one, or the two of a surrogate pair. -/
def unicodeEscape (c : Char) : List Char :=
  let n := c.toNat
  if n < 0x10000 then unitEscape n
  else unitEscape (0xD800 + (n - 0x10000) / 1024) ++ unitEscape (0xDC00 + (n - 0x10000) % 1024)

def shortEscape? (c : Char) : Option Char :=
  match c with
  | '"' => some '"'
  | '\\' => some '\\'
  | '\n' => some 'n'
  | '\r' => some 'r'
  | '\t' => some 't'
  | '\x08' => some 'b'
  | '\x0c' => some 'f'
  | _ => none

/-- Which characters a string literal holds as they are, quote and backslash apart. -/
structure Charset where
  plain : Char → Bool

/-- The printable characters of ASCII. -/
def ascii : Charset := ⟨fun c => 32 ≤ c.toNat && c.toNat ≤ 126⟩

/-- All but the control characters. -/
def unicode : Charset := ⟨fun c => 32 ≤ c.toNat⟩

def escape (set : Charset) (c : Char) : List Char :=
  match shortEscape? c with
  | some e => ['\\', e]
  | none => if set.plain c then [c] else unicodeEscape c

def stringChars (set : Charset) (s : List Char) : List Char :=
  '"' :: s.flatMap (escape set) ++ ['"']

def stringText (set : Charset) (s : String) : String := String.ofList (stringChars set s.toList)

/-- The names of the numbers that are none. -/
def numberLayout : Numeral.Shortest.Layout :=
  { Numeral.Shortest.plain with nan := "NaN", infinity := "Infinity" }

mutual

/-- The value on one line, a space after each comma and colon. -/
def text (set : Charset) : Json → String
  | .null => "null"
  | .bool b => if b then "true" else "false"
  | .int n => Numeral.text n
  | .float x => Numeral.Shortest.text numberLayout x
  | .str s => stringText set s
  | .arr items => "[" ++ join ", " (itemTexts set items) ++ "]"
  | .obj members => "\x7b" ++ join ", " (memberTexts set members) ++ "\x7d"

def itemTexts (set : Charset) : List Json → List String
  | [] => []
  | j :: rest => text set j :: itemTexts set rest

def memberTexts (set : Charset) : List (String × Json) → List String
  | [] => []
  | (k, j) :: rest => (stringText set k ++ ": " ++ text set j) :: memberTexts set rest

end

mutual

/-- The value as a quoted literal. -/
def literal : Json → String
  | .null => "None"
  | .bool b => if b then "True" else "False"
  | .int n => Numeral.text n
  | .float x => Numeral.Shortest.text Numeral.Shortest.plain x
  | .str s => quoted s
  | .arr items => "[" ++ join ", " (itemLiterals items) ++ "]"
  | .obj members => "\x7b" ++ join ", " (memberLiterals members) ++ "\x7d"

def itemLiterals : List Json → List String
  | [] => []
  | j :: rest => literal j :: itemLiterals rest

def memberLiterals : List (String × Json) → List String
  | [] => []
  | (k, j) :: rest => (quoted k ++ ": " ++ literal j) :: memberLiterals rest

end

/-- A string as it is, and any other value as its literal. -/
def plainText : Json → String
  | .str s => s
  | j => literal j

mutual

/-- No integer in the value has more digits than can be written. -/
def isWritable : Json → Bool
  | .int n => (Numeral.write? n).isSome
  | .arr items => areWritable items
  | .obj members => haveWritable members
  | _ => true

def areWritable : List Json → Bool
  | [] => true
  | j :: rest => isWritable j && areWritable rest

def haveWritable : List (String × Json) → Bool
  | [] => true
  | (_, j) :: rest => isWritable j && haveWritable rest

end

end ObjectIntake.Json
