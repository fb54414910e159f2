/-! Literal search in texts: starts, ends, parts and cuts at a separator. -/
namespace ObjectIntake.Text

def isInfix (needle : List Char) : List Char → Bool
  | [] => needle.isEmpty
  | c :: r => needle.isPrefixOf (c :: r) || isInfix needle r

/-- The text after the first occurrence of `needle`. -/
def after? (needle : List Char) : List Char → Option (List Char)
  | [] => if needle.isEmpty then some [] else none
  | c :: r =>
      if needle.isPrefixOf (c :: r) then some ((c :: r).drop needle.length) else after? needle r

/-- The pieces between the occurrences of `sep`; there is one more of them than of `sep`. -/
def pieces (sep : Char) : List Char → List (List Char)
  | [] => [[]]
  | c :: r =>
      if c = sep then [] :: pieces sep r
      else match pieces sep r with
        | [] => [[c]]
        | p :: ps => (c :: p) :: ps

def startsWith (s start : String) : Bool := start.toList.isPrefixOf s.toList

def endsWith (s ending : String) : Bool := ending.toList.isSuffixOf s.toList

def contains (s part : String) : Bool := isInfix part.toList s.toList

def split (sep : Char) (s : String) : List String := (pieces sep s.toList).map String.ofList

def join (sep : String) (parts : List String) : String := String.intercalate sep parts

theorem isInfix_iff {needle s : List Char} : isInfix needle s = true ↔ needle <:+: s := by
  induction s with
  | nil => simp [isInfix]
  | cons c r ih =>
      simp only [isInfix, Bool.or_eq_true, List.isPrefixOf_iff_prefix, ih, List.infix_cons_iff]

end ObjectIntake.Text
