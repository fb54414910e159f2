import ObjectIntake.Console.Literal
import ObjectIntake.Console.Picture
import ObjectIntake.Console.Style

/-!
Texts with markup, as they show on a terminal without colours. A tag in square brackets opens a style, one that
starts with a slash closes it, and a backslash before a tag makes it text.
-/
namespace ObjectIntake.Console
open Text

inductive Piece where
  | text (s : List Char)
  /-- What stands between the brackets. -/
  | tag (s : List Char)
  deriving DecidableEq, Repr

def startsTag (c : Char) : Bool := ('a' ≤ c && c ≤ 'z') || c = '#' || c = '/' || c = '@'

/-- The text up to a closing bracket, which no opening one comes before, and the text after it. -/
def upToBracket : List Char → Option (List Char × List Char)
  | [] => none
  | c :: rest =>
      if c = ']' then some ([], rest)
      else if c = '[' then none
      else (upToBracket rest).map fun (inside, after) => (c :: inside, after)

/-- The tag after an opening bracket, and the text after the tag. -/
def tag? : List Char → Option (List Char × List Char)
  | [] => none
  | c :: rest =>
      if startsTag c then (upToBracket rest).map fun (inside, after) => (c :: inside, after) else none

theorem length_upToBracket {s inside after : List Char} (h : upToBracket s = some (inside, after)) :
    after.length < s.length := by
  induction s generalizing inside with
  | nil => simp [upToBracket] at h
  | cons c rest ih =>
      rw [upToBracket] at h
      split at h
      · simp only [Option.some.injEq, Prod.mk.injEq] at h
        simp [h.2]
      · split at h
        · simp at h
        · simp only [Option.map_eq_some_iff, Prod.mk.injEq] at h
          obtain ⟨⟨i, a⟩, hi, -, rfl⟩ := h
          exact Nat.lt_succ_of_lt (ih hi)

theorem length_tag? {s inside after : List Char} (h : tag? s = some (inside, after)) :
    after.length < s.length := by
  cases s with
  | nil => simp [tag?] at h
  | cons c rest =>
      rw [tag?] at h
      split at h
      · simp only [Option.map_eq_some_iff, Prod.mk.injEq] at h
        obtain ⟨⟨i, a⟩, hi, -, rfl⟩ := h
        exact Nat.lt_succ_of_lt (length_upToBracket hi)
      · simp at h

/-- A bracket after a backslash is text. -/
def unescape : List Char → List Char
  | [] => []
  | '\\' :: '[' :: rest => '[' :: unescape rest
  | c :: rest => c :: unescape rest

def slashes (n : Nat) : List Char := List.replicate n '\\'

/--
The pieces of a text, after `before` in reverse and then `escapes` backslashes. Of the backslashes before a tag
every second one is text; an odd one makes the tag text.
-/
def piecesFrom (before : List Char) (escapes : Nat) (s : List Char) : List Piece :=
  match s with
  | [] => [.text (unescape (before.reverse ++ slashes escapes))]
  | c :: rest =>
      if c = '\\' then piecesFrom before (escapes + 1) rest
      else if c = '[' then
        match _h : tag? rest with
        | some (inside, after) =>
            .text (unescape before.reverse) :: .text (slashes (escapes / 2)) ::
              (if escapes % 2 = 1 then .text ('[' :: inside ++ [']']) else .tag inside) ::
              piecesFrom [] 0 after
        | none => piecesFrom (c :: slashes escapes ++ before) 0 rest
      else piecesFrom (c :: slashes escapes ++ before) 0 rest
  termination_by s.length
  decreasing_by
    all_goals simp_wf
    have := length_tag? _h
    omega

def markupPieces (s : List Char) : List Piece := piecesFrom [] 0 s

/-- The name in a tag, without what it is set to. -/
def tagName (inside : List Char) : List Char := inside.takeWhile (· ≠ '=')

/-- Characters that a terminal acts on: bell, backspace, vertical tab, form feed and carriage return. -/
def isControl (c : Char) : Bool := [7, 8, 11, 12, 13].contains c.toNat

/-- A tag whose style is open: the name of the style, and what it is set to. -/
structure OpenTag where
  name : String
  parameters : Option (List Char)

def OpenTag.ofInside (inside : List Char) : Except Failure OpenTag := do
  return ⟨← Style.nameOf (tagName inside), (inside.dropWhile (· ≠ '=')).tail?⟩

/-- Signs among the first letters beyond ASCII. -/
def signs : List Nat := [0xAB, 0xAC, 0xAD, 0xAE, 0xAF, 0xB0, 0xB1, 0xB4, 0xB6, 0xB7, 0xB8, 0xBB, 0xBF, 0xD7, 0xF7]

/-- The characters of the name of a handler, beside points. Beyond ASCII, blocks of signs are left out. -/
def isHandlerChar (c : Char) : Bool :=
  let n := c.toNat
  c.isAlphanum || c = '_' || c = '.' ||
    (0xAA ≤ n && !signs.contains n && !(0x2000 ≤ n && n ≤ 0x2BFF) && !(0x3000 ≤ n && n ≤ 0x3004) &&
      !(0x1F000 ≤ n && n ≤ 0x1FAFF))

/-- The value that the parameters of a handler write: they may be its name, with a value in brackets after it. -/
def handlerValue (parameters : List Char) : List Char :=
  match parameters.dropWhile isHandlerChar with
  | [] => ['(', ')']
  | '(' :: rest =>
      if rest.getLast? = some ')' && !rest.contains '\n' then '(' :: rest else parameters
  | _ => parameters

/-- Closes a tag. One whose name starts with an at sign has a value for parameters, if it has any. -/
def OpenTag.close (tag : OpenTag) : Except Failure Unit :=
  match tag.parameters with
  | some (c :: rest) =>
      if tag.name.toList.head? = some '@' then
        let parameters := trim isBlank (c :: rest)
        if Literal.writesValue (handlerValue parameters) then .ok ()
        else .error (.unreadableMarkup (String.ofList parameters))
      else .ok ()
  | _ => .ok ()

/-- The shown text of pieces, where `tags` are open. A tag without a name closes the last one. -/
def shown (tags : List OpenTag) : List Piece → Except Failure (List Char)
  | [] => .ok []
  | .text s :: rest => do return (withPictures s).filter (!isControl ·) ++ (← shown tags rest)
  | .tag inside :: rest =>
      let stray : Failure := .strayMarkup (String.ofList ('[' :: inside ++ [']']))
      match tagName inside with
      | '/' :: name =>
          if name.all isBlank then
            match tags with
            | [] => .error stray
            | tag :: tags => do
                tag.close
                shown tags rest
          else do
            let name ← Style.nameOf name
            match tags.find? (·.name = name) with
            | none => throw stray
            | some tag => do
                tag.close
                shown (tags.eraseP (·.name = name)) rest
      | _ => do
          let tag ← OpenTag.ofInside inside
          shown (tag :: tags) rest

/-- The text that a text with markup shows. -/
def plain (s : String) : Except Failure (List Char) := shown [] (markupPieces s.toList)

end ObjectIntake.Console
