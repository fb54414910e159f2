/-! Upper case of the letters whose capitals are in ASCII. -/
namespace ObjectIntake.Text

/-- Dotless i, long s and sharp s, and the ligatures, are written with the capitals of ASCII. -/
def capitals (c : Char) : List Char :=
  match c with
  | 'ı' => ['I']
  | 'ſ' => ['S']
  | 'ß' => ['S', 'S']
  | 'ﬀ' => ['F', 'F']
  | 'ﬁ' => ['F', 'I']
  | 'ﬂ' => ['F', 'L']
  | 'ﬃ' => ['F', 'F', 'I']
  | 'ﬄ' => ['F', 'F', 'L']
  | 'ﬅ' => ['S', 'T']
  | 'ﬆ' => ['S', 'T']
  | c => [c.toUpper]

def uppercase (s : String) : String := String.ofList (s.toList.flatMap capitals)

end ObjectIntake.Text
