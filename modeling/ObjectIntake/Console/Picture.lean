import ObjectIntake.Console.PictureNames
import ObjectIntake.Text.Blank
import ObjectIntake.Text.Digit
import ObjectIntake.Text.Lowercase
import ObjectIntake.Text.Search

/-! Pictures in texts, each written as its name between colons. -/
namespace ObjectIntake.Console
open Text

/-- A picture with its names. A name of a skin's tone stands for nothing else. -/
structure Picture where
  /-- The code points; none is the place of the tone. -/
  codes : List (Option Nat)
  names : List String

namespace Picture

/-- The tones of a skin, as names end with them. -/
def tones : List (String × Nat) :=
  [("_light_skin_tone", 0x1F3FB), ("_medium-light_skin_tone", 0x1F3FC), ("_medium_skin_tone", 0x1F3FD),
    ("_medium-dark_skin_tone", 0x1F3FE), ("_dark_skin_tone", 0x1F3FF)]

def codeOf (s : List Char) : Option Nat :=
  if s = ['*'] then none else some (s.foldl (fun n c => 16 * n + (hexDigit? c).getD 0) 0)

def ofEntry (entry : List Char) : Picture :=
  match pieces ':' entry with
  | [] => ⟨[], []⟩
  | codes :: names => ⟨(pieces '-' codes).map codeOf, names.map String.ofList⟩

def all : List Picture :=
  ((pieces ' ' (pictureList.toList.map fun c => if c = '\n' then ' ' else c)).filter (· ≠ [])).map ofEntry

def hasTone (p : Picture) : Bool := p.codes.any (·.isNone)

def chars (p : Picture) (tone : Nat) : List Char := p.codes.map fun code => Char.ofNat (code.getD tone)

/-- The picture of a name, in the tone that the name may end with. -/
def ofName? (name : String) : Option (List Char) :=
  match all.find? fun p => !p.hasTone && p.names.contains name with
  | some p => some (p.chars 0)
  | none =>
      tones.findSome? fun (ending, tone) =>
        if endsWith name ending then
          let stem := String.ofList (name.toList.take (name.length - ending.length))
          (all.find? fun p => p.hasTone && p.names.contains stem).map (·.chars tone)
        else none

/-- How a picture is drawn, if its name ends in a hyphen and one of these. -/
def variants : List (String × Char) := [("-emoji", '\ufe0f'), ("-text", '\ufe0e')]

/-- The picture of the text between two colons. -/
def ofCode? (code : List Char) : Option (List Char) :=
  let name := lowercase (String.ofList code)
  match variants.find? fun (ending, _) => ending.toList.isSuffixOf code with
  | some (ending, variant) =>
      (ofName? (lowercase (String.ofList (code.take (code.length - ending.length))))).map (· ++ [variant])
  | none => ofName? name

end Picture

/-- The text up to a colon, which no blank comes before, and the text after it. -/
def upToColon : List Char → Option (List Char × List Char)
  | [] => none
  | c :: rest =>
      if c = ':' then some ([], rest)
      else if isBlank c then none
      else (upToColon rest).map fun (code, after) => (c :: code, after)

theorem length_upToColon {s code after : List Char} (h : upToColon s = some (code, after)) :
    after.length < s.length := by
  induction s generalizing code with
  | nil => simp [upToColon] at h
  | cons c rest ih =>
      rw [upToColon] at h
      split at h
      · simp only [Option.some.injEq, Prod.mk.injEq] at h
        simp [h.2]
      · split at h
        · simp at h
        · simp only [Option.map_eq_some_iff, Prod.mk.injEq] at h
          obtain ⟨⟨i, a⟩, hi, -, rfl⟩ := h
          exact Nat.lt_succ_of_lt (ih hi)

/-- The text with each name between colons replaced by its picture. Between colons, other texts stay. -/
def withPictures (s : List Char) : List Char :=
  match s with
  | [] => []
  | c :: rest =>
      if c = ':' then
        match _h : upToColon rest with
        | some (code, after) =>
            (match Picture.ofCode? code with
              | some picture => picture
              | none => ':' :: code ++ [':']) ++ withPictures after
        | none => c :: withPictures rest
      else c :: withPictures rest
  termination_by s.length
  decreasing_by
    all_goals simp_wf
    have := length_upToColon _h
    omega

end ObjectIntake.Console
