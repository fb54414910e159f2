import ObjectIntake.Event.Row
import ObjectIntake.Text.Digit
import ObjectIntake.Text.Utf8

/-!
Object paths in form encoding: a plus sign stands for a space, and a percent sign with two hexadecimal digits
for a byte. Together the bytes are UTF-8.
-/
namespace ObjectIntake.ObjectPath
open Text Event

/-- The path of an object, as it is encoded. -/
def build (scheme : String) (r : Reference) : String := scheme ++ "://" ++ r.bucket ++ "/" ++ r.key

/-- Every percent sign starts an escape. -/
def wellEscaped : List Char → Bool
  | [] => true
  | c :: rest =>
      (c ≠ '%' || match rest with
        | a :: b :: _ => (hexDigit? a).isSome && (hexDigit? b).isSome
        | _ => false) && wellEscaped rest

/-- The bytes that the characters and escapes stand for. -/
def bytes : List Char → List UInt8
  | [] => []
  | '+' :: rest => Utf8.byte 32 :: bytes rest
  | c :: [] => Utf8.encodeChar c
  | c :: d :: [] => Utf8.encodeChar c ++ bytes [d]
  | c :: a :: b :: rest =>
      if c = '%' then
        match hexDigit? a, hexDigit? b with
        | some x, some y => Utf8.byte (16 * x + y) :: bytes rest
        | _, _ => Utf8.encodeChar c ++ bytes (a :: b :: rest)
      else Utf8.encodeChar c ++ bytes (a :: b :: rest)

def decodeChars (s : List Char) : Option (List Char) := Utf8.decode (bytes s)

/-- The decoded path. A malformed escape is reported before bytes that are not UTF-8. -/
def decode (path : String) : Except Failure String :=
  if wellEscaped path.toList then
    match decodeChars path.toList with
    | some s => .ok (String.ofList s)
    | none => .error .notUtf8
  else .error (.malformedEscape path)

end ObjectIntake.ObjectPath
