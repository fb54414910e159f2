/-! White space around and inside texts. -/
namespace ObjectIntake.Text

/-- The characters of the Unicode property `White_Space`. -/
def isSpace (c : Char) : Bool :=
  let n := c.toNat
  (9 ≤ n && n ≤ 13) || n = 32 || n = 0x85 || n = 0xA0 || n = 0x1680 ||
    (0x2000 ≤ n && n ≤ 0x200A) || n = 0x2028 || n = 0x2029 || n = 0x202F || n = 0x205F || n = 0x3000

/-- White space or one of the four information separators. -/
def isBlank (c : Char) : Bool :=
  isSpace c || (28 ≤ c.toNat && c.toNat ≤ 31)

def trimLeft (p : Char → Bool) (s : List Char) : List Char := s.dropWhile p

def trimRight (p : Char → Bool) (s : List Char) : List Char := (s.reverse.dropWhile p).reverse

def trim (p : Char → Bool) (s : List Char) : List Char := trimRight p (trimLeft p s)

/-- The text without blanks at its ends. -/
def strip (s : String) : String := String.ofList (trim isBlank s.toList)

def isBlankText (s : String) : Bool := s.toList.all isBlank

end ObjectIntake.Text
