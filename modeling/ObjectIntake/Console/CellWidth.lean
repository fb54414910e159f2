import ObjectIntake.Console.CharWidth

/-!
The columns that a text fills on a terminal, and cuts of a text by columns. A joiner draws the next character
into the one before it, and a selector may have a character drawn as a picture, which fills two columns.
-/
namespace ObjectIntake.Console

def joiner : Char := '\u200d'

def selector : Char := '\ufe0f'

/-- The columns of a text; `last` is the last character that fills any, if a selector may still widen it. -/
def widthAfter (last : Option Char) : List Char → Nat
  | [] => 0
  | c :: rest =>
      if c = joiner then
        match rest with
        | [] => 0
        | _ :: rest => widthAfter last rest
      else if c = selector then
        (if last.any isPicturable then 1 else 0) + widthAfter none rest
      else if charWidth c = 0 then widthAfter last rest
      else charWidth c + widthAfter (some c) rest

def cellWidth (s : List Char) : Nat := widthAfter none s

/-- Characters that are drawn as one, and the columns that they fill together. -/
structure Cluster where
  chars : List Char
  width : Nat

/-- Adds characters to the last of the clusters, which are in reverse order. -/
def attach (chars : List Char) (wider : Nat) : List Cluster → List Cluster
  | [] => [⟨chars, wider⟩]
  | k :: done => ⟨k.chars ++ chars, k.width + wider⟩ :: done

/-- The clusters of a text after those in `done`, which are in reverse order. -/
def clustersAfter (done : List Cluster) (last : Option Char) : List Char → List Cluster
  | [] => done.reverse
  | c :: rest =>
      if c = joiner && !done.isEmpty then
        match rest with
        | [] => (attach [c] 0 done).reverse
        | d :: rest => clustersAfter (attach [c, d] 0 done) last rest
      else if c = selector && !done.isEmpty then
        if last.any isPicturable then clustersAfter (attach [c] 1 done) none rest
        else clustersAfter (attach [c] 0 done) last rest
      else if c = joiner || c = selector then clustersAfter [⟨[c], 0⟩] last rest
      else if charWidth c = 0 then clustersAfter (attach [c] 0 done) last rest
      else clustersAfter (⟨[c], charWidth c⟩ :: done) (some c) rest

def clusters (s : List Char) : List Cluster := clustersAfter [] none s

/-- The clusters that fit into the columns, and a blank in place of one that only half fits. -/
def takeClusters : (columns : Nat) → List Cluster → List Char
  | 0, _ => []
  | _, [] => []
  | columns + 1, k :: rest =>
      if k.width ≤ columns + 1 then k.chars ++ takeClusters (columns + 1 - k.width) rest else [' ']

/-- The text cut to the columns. -/
def takeColumns (columns : Nat) (s : List Char) : List Char := takeClusters columns (clusters s)

def padRight (columns : Nat) (s : List Char) : List Char :=
  s ++ List.replicate (columns - cellWidth s) ' '

/-- The clusters in lines of at most so many columns; `line` is the one that is being filled. -/
def chopClusters (columns : Nat) (line : List Char) (filled : Nat) : List Cluster → List (List Char)
  | [] => [line]
  | k :: rest =>
      if columns < filled + k.width then line :: chopClusters columns k.chars k.width rest
      else chopClusters columns (line ++ k.chars) (filled + k.width) rest

def chop (columns : Nat) (s : List Char) : List (List Char) := chopClusters columns [] 0 (clusters s)

end ObjectIntake.Console
