/-!
How alike two texts are: twice the length of their matching blocks over the length of both. The longest common
block is taken first, then those of the parts on its left and on its right.
-/
namespace ObjectIntake.Text

def commonStart : List Char → List Char → Nat
  | a :: s, b :: t => if a = b then commonStart s t + 1 else 0
  | _, _ => 0

/-- A block of equal characters: where it starts in both texts, and its length. -/
structure Block where
  left : Nat
  right : Nat
  size : Nat
  deriving DecidableEq, Repr

/-- The longest block; of several the one that starts first in `s`, and then in `t`. -/
def longestBlock (s t : List Char) : Block :=
  let starts := (List.range s.length).flatMap fun i => (List.range t.length).map fun j => (i, j)
  starts.foldl (fun best (i, j) =>
    let size := commonStart (s.drop i) (t.drop j)
    if best.size < size then ⟨i, j, size⟩ else best) ⟨0, 0, 0⟩

/-- The characters in matching blocks. Each block has one at least, so `fuel` need not exceed either length. -/
def matchingWithin : (fuel : Nat) → List Char → List Char → Nat
  | 0, _, _ => 0
  | fuel + 1, s, t =>
      let b := longestBlock s t
      if b.size = 0 then 0
      else matchingWithin fuel (s.take b.left) (t.take b.right) + b.size +
        matchingWithin fuel (s.drop (b.left + b.size)) (t.drop (b.right + b.size))

def matching (s t : List Char) : Nat := matchingWithin s.length s t

/-- A candidate for a misspelt word: the characters that match and those of both texts. -/
structure Candidate where
  word : String
  matched : Nat
  total : Nat

def Candidate.of (word typed : String) : Candidate :=
  ⟨word, matching word.toList typed.toList, word.length + typed.length⟩

/-- The likeness is six tenths or more. -/
def Candidate.isClose (c : Candidate) : Bool := 6 * c.total ≤ 20 * c.matched

/-- The more alike goes first, of two equally alike ones the later word. -/
def Candidate.precedes (a b : Candidate) : Bool :=
  b.matched * a.total < a.matched * b.total ||
    (b.matched * a.total = a.matched * b.total && b.word ≤ a.word)

/-- The words that are close to the typed one, three at most, in alphabetical order. -/
def closeWords (words : List String) (typed : String) : List String :=
  let close := (words.map fun w => Candidate.of w typed).filter Candidate.isClose
  (((close.mergeSort Candidate.precedes).take 3).map (·.word)).mergeSort fun a b => decide (a ≤ b)

end ObjectIntake.Text
