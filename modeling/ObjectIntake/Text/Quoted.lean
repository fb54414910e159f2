import ObjectIntake.Text.Digit
import ObjectIntake.Text.Printable

/-! Quoted literals: a text between quotes in which every unprintable character is escaped. -/
namespace ObjectIntake.Text

/-- Single quotes, unless the text holds one and no double quote. -/
def quoteFor (s : List Char) : Char :=
  if s.contains '\'' && !s.contains '"' then '"' else '\''

def escapeChar (quote c : Char) : List Char :=
  let n := c.toNat
  if c = quote || c = '\\' then ['\\', c]
  else if c = '\t' then ['\\', 't']
  else if c = '\n' then ['\\', 'n']
  else if c = '\r' then ['\\', 'r']
  else if isPrintable c then [c]
  else if n < 0x100 then '\\' :: 'x' :: hexDigits 2 n
  else if n < 0x10000 then '\\' :: 'u' :: hexDigits 4 n
  else '\\' :: 'U' :: hexDigits 8 n

def quotedChars (s : List Char) : List Char :=
  quoteFor s :: s.flatMap (escapeChar (quoteFor s)) ++ [quoteFor s]

/-- The text as a quoted literal. -/
def quoted (s : String) : String := String.ofList (quotedChars s.toList)

end ObjectIntake.Text
