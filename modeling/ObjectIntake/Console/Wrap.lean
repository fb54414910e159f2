import ObjectIntake.Console.CellWidth
import ObjectIntake.Text.Blank
import ObjectIntake.Text.Search

/-!
Breaking texts into lines of a given width. A line ends before a word that does not fit; a word that is longer
than a line is folded or cut off.
-/
namespace ObjectIntake.Console
open Text

/-- What happens to a word that is wider than a line. -/
inductive Overflow where
  | fold
  | ellipsis
  deriving DecidableEq

/--
The words of a text, each with the blanks after it and the first one also with those before it; `word` is the
one that is being read, in reverse, and `begun` says that it has a character that is not blank.
-/
def wordsFrom (begun : Bool) (word : List Char) : List Char → List (List Char)
  | [] => [word.reverse]
  | c :: rest =>
      if isBlank c then wordsFrom begun (c :: word) rest
      else if begun && word.head?.any isBlank then word.reverse :: wordsFrom true [c] rest
      else wordsFrom true (c :: word) rest

def words (s : List Char) : List (List Char) := wordsFrom false [] s

/-- Lines that are being filled: the finished ones in reverse, the last one and its width. -/
structure Fill where
  done : List (List Char) := []
  line : List Char := []
  width : Nat := 0

namespace Fill

/-- A new line with a text in it, unless the lines are all empty. -/
def onNewLine (f : Fill) (s : List Char) : Fill :=
  if f.done.isEmpty && f.line.isEmpty then { line := s, width := cellWidth s }
  else { done := f.line :: f.done, line := s, width := cellWidth s }

def add (overflow : Overflow) (width : Nat) (f : Fill) (word : List Char) : Fill :=
  let needed := cellWidth (trimRight isBlank word)
  if f.width + needed ≤ width then
    { f with line := f.line ++ word, width := f.width + cellWidth word }
  else if needed ≤ width || overflow = .ellipsis then f.onNewLine word
  else (chop width word).foldl onNewLine f

def lines (f : Fill) : List (List Char) := (f.line :: f.done).reverse

end Fill

/-- The parts of a line, broken where a word does not fit. -/
def brokenLines (overflow : Overflow) (width : Nat) (s : List Char) : List (List Char) :=
  ((words s).foldl (Fill.add overflow width) {}).lines

/-- The line without the blanks at its end, as far as it has more characters than the width. -/
def trimExcess (width : Nat) (s : List Char) : List Char :=
  let blanks := s.length - (trimRight isBlank s).length
  s.take (s.length - min blanks (s.length - width))

/-- A line that is too wide is cut, and an ellipsis may tell so. -/
def cut (overflow : Overflow) (width : Nat) (s : List Char) : List Char :=
  if cellWidth s ≤ width then s
  else match overflow with
    | .fold => takeColumns width s
    | .ellipsis => takeColumns (width - 1) s ++ ['…']

/-- A tab as blanks: at least one, and then up to a column that is a multiple of eight. -/
def expandTabs (column : Nat) : List (List Char) → List Char
  | [] => []
  | [last] => last
  | part :: rest =>
      let part := part ++ [' ']
      let column := column + cellWidth part
      let blanks := (8 - column % 8) % 8
      part ++ List.replicate blanks ' ' ++ expandTabs (column + blanks) rest

/-- The lines of a text in a given width. -/
def wrap (overflow : Overflow) (width : Nat) (s : List Char) : List (List Char) :=
  (pieces '\n' s).flatMap fun line =>
    (brokenLines overflow width (expandTabs 0 (pieces '\t' line))).map fun part =>
      cut overflow width (trimExcess width part)

end ObjectIntake.Console
