import ObjectIntake.Console.Markup
import ObjectIntake.Console.Wrap

/-! Grids of cells drawn with box lines, a heavy frame around the heads of the columns. -/
namespace ObjectIntake.Console
open Text

/-- The columns of the terminal. -/
def screenWidth : Nat := 10000

/-- What printing a text with markup puts on the screen. -/
def printed (s : String) : Except Failure String := do
  return String.ofList ((wrap .fold screenWidth (← plain s)).flatMap (· ++ ['\n']))

structure Grid where
  heads : List String
  rows : List (List String)

namespace Grid

/-- Characters that end a line wherever texts are measured. -/
def endsLine (c : Char) : Bool :=
  let n := c.toNat
  (10 ≤ n && n ≤ 13) || (28 ≤ n && n ≤ 30) || n = 0x85 || n = 0x2028 || n = 0x2029

/-- The width of the widest line. -/
def textWidth (s : List Char) : Nat :=
  ((pieces '\n' (s.map fun c => if endsLine c then '\n' else c)).map cellWidth).foldl max 0

/-- The widths of the columns, each that of its widest cell and the blanks beside it. -/
def naturalWidths (room : Nat) : List (List (List Char)) → List Nat
  | [] => []
  | row :: rest =>
      List.zipWith max (row.map fun cell => min (textWidth cell + 2) room)
        (naturalWidths room rest ++ List.replicate row.length 0)

def total (widths : List Nat) : Nat := widths.foldl (· + ·) 0

/-- A quotient, rounded to the nearest number and from the middle to the even one. -/
def roundedQuotient (n d : Nat) : Nat :=
  let q := n / d
  let r := 2 * (n % d)
  if r < d || (r = d && q % 2 = 0) then q else q + 1

/-- Takes `excess` off the widths that are marked, in equal shares of at most `most`; `marked` counts them. -/
def share (most : Nat) : (marked excess : Nat) → List (Bool × Nat) → List Nat
  | _, _, [] => []
  | marked, excess, (true, width) :: rest =>
      let part := min most (roundedQuotient excess marked)
      (width - part) :: share most (marked - 1) (excess - part) rest
  | marked, excess, (false, width) :: rest => width :: share most marked excess rest

/-- Narrows the widest columns until they are as wide as the next ones, or all columns fit into the room. -/
def narrow (room : Nat) : (fuel : Nat) → List Nat → List Nat
  | 0, widths => widths
  | fuel + 1, widths =>
      let excess := total widths - room
      let widest := widths.foldl max 0
      if excess = 0 || widest = 0 then widths
      else
        let second := (widths.filter (· ≠ widest)).foldl max 0
        let marked := widths.map fun width => (decide (width = widest), width)
        narrow room fuel (share (min excess (widest - second)) (marked.countP (·.1)) excess marked)

/-- The widths of the columns on the screen, where lines stand between and around them. -/
def widths (cells : List (List (List Char))) (columns : Nat) : List Nat :=
  let room := screenWidth - (columns + 1)
  let natural := naturalWidths room cells
  narrow room (total natural) natural

def rule (left middle right line : Char) (widths : List Nat) : List Char :=
  left :: List.intercalate [middle] (widths.map fun w => List.replicate w line) ++ [right]

/-- The lines of a cell in a column. -/
def cellLines (width : Nat) (cell : List Char) : List (List Char) :=
  (wrap .ellipsis (width - 2) cell).map fun line => [' '] ++ padRight (width - 2) line ++ [' ']

/-- The lines of a row; cells with fewer lines are filled up with empty ones. -/
def rowLines (bar : Char) (widths : List Nat) (row : List (List Char)) : List (List Char) :=
  let cells := List.zipWith cellLines widths row
  let height := (cells.map List.length).foldl max 0
  (List.range height).map fun i =>
    bar :: List.intercalate [bar]
      (List.zipWith (fun width lines => (lines[i]?).getD (List.replicate width ' ')) widths cells) ++ [bar]

/-- What printing a grid puts on the screen. -/
def text (g : Grid) : Except Failure String := do
  let heads ← g.heads.mapM plain
  let rows ← g.rows.mapM fun row => row.mapM plain
  let widths := widths (heads :: rows) heads.length
  let lines := [rule '┏' '┳' '┓' '━' widths] ++ rowLines '┃' widths heads ++
    [rule '┡' '╇' '┩' '━' widths] ++ rows.flatMap (rowLines '│' widths) ++ [rule '└' '┴' '┘' '─' widths]
  return String.ofList (lines.flatMap (· ++ ['\n']))

end Grid
end ObjectIntake.Console
