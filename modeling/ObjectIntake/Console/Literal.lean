import ObjectIntake.Text.Blank
import ObjectIntake.Text.Digit
import ObjectIntake.Text.Search

/-!
Texts that write a value: a number, a text, some bytes, a truth value or nothing, and tuples, sets and maps of
values. What value it is does not matter here, only whether there is one.
-/
namespace ObjectIntake.Console.Literal
open Text

/-- What a value may be used for. -/
inductive Kind where
  /-- A number without a sign; an imaginary one may be added to a real one. -/
  | number (imaginary : Bool)
  | signed (imaginary : Bool)
  /-- A text or some bytes, which may be continued by more of the same. -/
  | chars (bytes : Bool)
  /-- A value that sets may hold. -/
  | fixed
  /-- A value that sets cannot hold. -/
  | fluid
  deriving DecidableEq

def Kind.isFixed (k : Kind) : Bool := k ≠ .fluid

/-- The text without the blanks before it. Inside brackets, line ends and comments are blanks. -/
def skip (nested : Bool) : (comment : Bool) → List Char → List Char
  | _, [] => []
  | true, c :: rest => skip nested (c ≠ '\n') rest
  | false, c :: rest =>
      if c = ' ' || c = '\t' || c = '\x0c' then skip nested false rest
      else if nested && (c = '\n' || c = '\r') then skip nested false rest
      else if nested && c = '#' then skip nested true rest
      else match c, rest with
        | '\\', '\n' :: rest => skip nested false rest
        | _, _ => c :: rest

def blanks (nested : Bool) (s : List Char) : List Char := skip nested false s

/-- Digits, with single underscores between them and possibly before them, and the text after them. -/
def moreDigits (p : Char → Bool) : List Char → List Char × List Char
  | [] => ([], [])
  | '_' :: d :: rest =>
      if p d then
        let (digits, after) := moreDigits p rest
        (d :: digits, after)
      else ([], '_' :: d :: rest)
  | d :: rest =>
      if p d then
        let (digits, after) := moreDigits p rest
        (d :: digits, after)
      else ([], d :: rest)

def digits (s : List Char) : List Char × List Char :=
  if s.head?.any Char.isDigit then moreDigits Char.isDigit s else ([], s)

def radixDigits? (p : Char → Bool) (s : List Char) : Option (Kind × List Char) :=
  match moreDigits p s with
  | ([], _) => none
  | (_, rest) => some (.number false, rest)

/-- The text after an exponent, if there is one. -/
def afterExponent? (s : List Char) : Option (List Char) :=
  match s with
  | c :: rest =>
      if c = 'e' || c = 'E' then
        let rest := if rest.head? = some '+' || rest.head? = some '-' then rest.drop 1 else rest
        match digits rest with
        | ([], _) => none
        | (_, rest) => some rest
      else none
  | [] => none

/-- A number in decimal digits. A whole one has no needless zeros before it and at most 4300 digits. -/
def decimal? (s : List Char) : Option (Kind × List Char) :=
  let (whole, rest) := digits s
  let (pointed, part, rest) :=
    match rest with
    | '.' :: rest =>
        let (part, rest) := digits rest
        (true, part, rest)
    | rest => (false, [], rest)
  if whole.isEmpty && part.isEmpty then none
  else
    let (scaled, rest) :=
      match afterExponent? rest with
      | some rest => (true, rest)
      | none => (false, rest)
    match rest with
    | 'j' :: rest => some (.number true, rest)
    | 'J' :: rest => some (.number true, rest)
    | rest =>
        if pointed || scaled then some (.number false, rest)
        else if whole.length ≤ 4300 && (whole.head? ≠ some '0' || whole.all (· = '0')) then
          some (.number false, rest)
        else none

def number? (s : List Char) : Option (Kind × List Char) :=
  match s with
  | '0' :: c :: rest =>
      if c = 'x' || c = 'X' then radixDigits? (fun d => (hexDigit? d).isSome) rest
      else if c = 'o' || c = 'O' then radixDigits? (fun d => '0' ≤ d && d ≤ '7') rest
      else if c = 'b' || c = 'B' then radixDigits? (fun d => d = '0' || d = '1') rest
      else decimal? s
  | s => decimal? s

/-- The text up to the closing quote, or to three of them, and the text after it. -/
def quotedBody (quote : Char) (triple : Bool) : List Char → Option (List Char × List Char)
  | [] => none
  | [c] => if c = quote && !triple then some ([], []) else none
  | c :: d :: rest =>
      if c = '\\' then (quotedBody quote triple rest).map fun (body, after) => (c :: d :: body, after)
      else if c = quote && !triple then some ([], d :: rest)
      else if c = quote && d = quote && rest.head? = some quote then some ([], rest.drop 1)
      else if (c = '\n' || c = '\r') && !triple then none
      else (quotedBody quote triple (d :: rest)).map fun (body, after) => (c :: body, after)

def hexValue? (s : List Char) : Option Nat :=
  (s.mapM hexDigit?).map fun ds => ds.foldl (fun n d => 16 * n + d) 0

/-- Whether all escapes in a quoted text are complete. -/
def escapesAreWhole (bytes : Bool) : List Char → Bool
  | '\\' :: 'x' :: a :: b :: rest => (hexValue? [a, b]).isSome && escapesAreWhole bytes rest
  | ['\\', 'x', _] => false
  | ['\\', 'x'] => false
  | '\\' :: c :: rest =>
      let ok :=
        if bytes then true
        else if c = 'u' then 4 ≤ rest.length && (hexValue? (rest.take 4)).isSome
        else if c = 'U' then 8 ≤ rest.length && (hexValue? (rest.take 8)).any (· ≤ 0x10FFFF)
        else if c = 'N' then rest.head? = some '\x7b' && rest.contains '\x7d'
        else true
      ok && escapesAreWhole bytes rest
  | _ :: rest => escapesAreWhole bytes rest
  | [] => true

/-- The marks before a quote: the text is raw, or it stands for bytes. -/
def marks? (s : List Char) : Option (Bool × Bool) :=
  match s.map Char.toLower with
  | [] => some (false, false)
  | ['u'] => some (false, false)
  | ['r'] => some (true, false)
  | ['b'] => some (false, true)
  | ['b', 'r'] => some (true, true)
  | ['r', 'b'] => some (true, true)
  | _ => none

def isQuote (c : Char) : Bool := c = '\'' || c = '"'

def quoted? (s : List Char) : Option (Kind × List Char) := do
  let (raw, bytes) ← marks? (s.takeWhile Char.isAlpha)
  match s.dropWhile Char.isAlpha with
  | [] => none
  | quote :: rest =>
      if !isQuote quote then none
      else
        let triple := rest.take 2 = [quote, quote]
        let (body, after) ← quotedBody quote triple (if triple then rest.drop 2 else rest)
        if bytes && body.any (128 ≤ ·.toNat) then none
        else if !raw && !escapesAreWhole bytes body then none
        else some (.chars bytes, after)

/-- The text after more quoted texts of the same sort. -/
def afterQuoted? (nested bytes : Bool) : (fuel : Nat) → List Char → Option (List Char)
  | 0, _ => none
  | fuel + 1, s =>
      let next := blanks nested s
      if next.head?.any isQuote || ((next.dropWhile Char.isAlpha).head?.any isQuote) then
        match quoted? next with
        | some (.chars b, rest) => if b = bytes then afterQuoted? nested bytes fuel rest else none
        | _ => none
      else some s

def isNameChar (c : Char) : Bool := c.isAlphanum || c = '_' || 128 ≤ c.toNat

/-- A value that has a name, or the empty set. -/
def named? (nested : Bool) (s : List Char) : Option (Kind × List Char) :=
  let rest := s.dropWhile isNameChar
  match String.ofList (s.takeWhile isNameChar) with
  | "True" => some (.fixed, rest)
  | "False" => some (.fixed, rest)
  | "None" => some (.fixed, rest)
  | "set" =>
      match blanks nested rest with
      | '(' :: rest =>
          match blanks true rest with
          | ')' :: rest => some (.fluid, rest)
          | _ => none
      | _ => none
  | _ => none

/-- Values up to the closing bracket, each read by `read`: whether each may stand in a set, and the text after. -/
def elements (read : List Char → Option (Bool × List Char)) (close : Char) :
    (fuel : Nat) → List Char → Option (List Bool × List Char)
  | 0, _ => none
  | fuel + 1, s =>
      match blanks true s with
      | [] => none
      | c :: rest =>
          if c = close then some ([], rest)
          else do
            let (fixed, after) ← read (c :: rest)
            match blanks true after with
            | ',' :: after =>
                let (more, after) ← elements read close fuel after
                return (fixed :: more, after)
            | d :: after => if d = close then return ([fixed], after) else none
            | [] => none

/-- Values for a tuple or a set, each with whether a set may hold it. -/
def plainElement (read : List Char → Option (Kind × List Char)) (s : List Char) : Option (Bool × List Char) :=
  (read s).map fun (kind, rest) => (kind.isFixed, rest)

/-- What stands between round brackets: one value in brackets, or a tuple. -/
def group? (read : List Char → Option (Kind × List Char)) (s : List Char) : Option (Kind × List Char) :=
  match blanks true s with
  | ')' :: rest => some (.fixed, rest)
  | s => do
      let (kind, rest) ← read s
      match blanks true rest with
      | ')' :: rest => return (match kind with | .chars _ => .fixed | kind => kind, rest)
      | ',' :: rest =>
          let (fixed, rest) ← elements (plainElement read) ')' (rest.length + 1) rest
          return (if kind.isFixed && fixed.all id then .fixed else .fluid, rest)
      | _ => none

/-- A member of a map: a value that sets may hold, a colon and any value. -/
def member? (read : List Char → Option (Kind × List Char)) (s : List Char) : Option (Bool × List Char) := do
  let (key, rest) ← read s
  match blanks true rest with
  | ':' :: rest =>
      let (_, rest) ← read (blanks true rest)
      if key.isFixed then return (true, rest) else none
  | _ => none

/-- The text after the members of a map, from after the key of the first one. -/
def afterMembers? (read : List Char → Option (Kind × List Char)) (s : List Char) : Option (List Char) := do
  let (_, rest) ← read (blanks true s)
  match blanks true rest with
  | '\x7d' :: rest => return rest
  | ',' :: rest => return (← elements (member? read) '\x7d' (rest.length + 1) rest).2
  | _ => none

/-- What stands between curly brackets: a map or a set. -/
def collection? (read : List Char → Option (Kind × List Char)) (s : List Char) : Option (Kind × List Char) :=
  match blanks true s with
  | '\x7d' :: rest => some (.fluid, rest)
  | s => do
      let (kind, rest) ← read s
      if !kind.isFixed then none
      else match blanks true rest with
        | ':' :: rest => return (.fluid, ← afterMembers? read rest)
        | '\x7d' :: rest => return (.fluid, rest)
        | ',' :: rest =>
            let (fixed, rest) ← elements (plainElement read) '\x7d' (rest.length + 1) rest
            if fixed.all id then return (.fluid, rest) else none
        | _ => none

/-- A value without a sign; `read` reads the values in its brackets. -/
def atom? (read : List Char → Option (Kind × List Char)) (nested : Bool) (s : List Char) :
    Option (Kind × List Char) :=
  match s with
  | [] => none
  | '(' :: rest => group? read rest
  | '\x7b' :: rest => collection? read rest
  | '.' :: '.' :: '.' :: rest => some (.fixed, rest)
  | c :: _ =>
      if c.isDigit || c = '.' then number? s
      else
        match quoted? s with
        | some (.chars bytes, rest) =>
            (afterQuoted? nested bytes (s.length + 1) rest).map fun rest => (.chars bytes, rest)
        | _ => named? nested s

def isSign (c : Char) : Bool := c = '+' || c = '-'

/-- A value after which a sign may add an imaginary number to a real one. -/
def sum? (read : List Char → Option (Kind × List Char)) (nested : Bool) (kind : Kind) (s : List Char) :
    Option (Kind × List Char) :=
  match blanks nested s with
  | [] => some (kind, s)
  | c :: rest =>
      if isSign c then
        if kind = .number false || kind = .signed false then
          match atom? read nested (blanks nested rest) with
          | some (.number true, after) =>
              if (blanks nested after).head?.any isSign then none else some (.fixed, after)
          | _ => none
        else none
      else some (kind, s)

/-- One value, of at most so many brackets in each other. -/
def value? : (depth : Nat) → (nested : Bool) → List Char → Option (Kind × List Char)
  | 0, _, _ => none
  | depth + 1, nested, s =>
      match s with
      | [] => none
      | c :: rest =>
          if isSign c then
            match atom? (value? depth true) nested (blanks nested rest) with
            | some (.number imaginary, rest) => sum? (value? depth true) nested (.signed imaginary) rest
            | _ => none
          else
            match atom? (value? depth true) nested s with
            | some (kind, rest) => sum? (value? depth true) nested kind rest
            | none => none

/-- Values between commas, up to the end of the text. -/
def valuesToEnd : (fuel : Nat) → List Char → Bool
  | 0, _ => false
  | fuel + 1, s =>
      match value? 201 false s with
      | none => false
      | some (_, rest) =>
          match blanks false rest with
          | ',' :: rest => (blanks true rest).isEmpty || valuesToEnd fuel (blanks false rest)
          | rest => (blanks true rest).isEmpty

def writesValue (s : List Char) : Bool := valuesToEnd (s.length + 1) (blanks true s)

end ObjectIntake.Console.Literal
