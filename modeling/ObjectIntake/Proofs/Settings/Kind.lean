import ObjectIntake.Proofs.Settings.Lax
import ObjectIntake.Proofs.Work
import ObjectIntake.Settings.Source

/-!
The kinds of settings, and the texts that spell their values. A value that was read is read back, as it is and
from the text that spells it.
-/
namespace ObjectIntake.Settings
open Text

/-- The ways in which settings are read. -/
inductive Kind where
  | text
  | optionalText
  | optionalStrategy
  | truth
  | positive
  deriving DecidableEq

/-- The value that a setting of this kind has when `j` is given for it. -/
def Kind.read (k : Kind) (j : Json) : Except Violation Json :=
  match k with
  | .text => (Lax.text j).map Json.str
  | .optionalText => (Lax.optional Lax.text j).map Json.ofOption
  | .optionalStrategy => (Lax.optional SourceSettings.strategyOf j).map fun s => Json.ofOption (s.map (·.name))
  | .truth => (Lax.truth j).map Json.bool
  | .positive => (Lax.positive j).map Json.int

/-- The text that spells a value: nothing for null, a text itself, and the literal of any other. -/
def spelling : Json → String
  | .null => ""
  | j => j.plainText

/-- An integer can be spelled within the limit of digits. -/
def Spellable (j : Json) : Prop := ∀ n, j = .int n → Numeral.digitCount n ≤ Numeral.digitLimit

/-- The values that a setting can have. -/
inductive Kind.Has : Kind → Json → Prop
  | text (s : String) : Kind.Has .text (.str s)
  | noText : Kind.Has .optionalText .null
  | someText {s : String} (h : isBlankText s = false) : Kind.Has .optionalText (.str s)
  | noStrategy : Kind.Has .optionalStrategy .null
  | someStrategy (s : Strategy) : Kind.Has .optionalStrategy (.str s.name)
  | truth (b : Bool) : Kind.Has .truth (.bool b)
  | positive {n : Int} (h : 1 ≤ n) : Kind.Has .positive (.int n)

namespace Kind

theorem map_eq_ok {α β : Type} {x : Except Violation α} {f : α → β} {b : β} (h : x.map f = .ok b) :
    ∃ a, x = .ok a ∧ f a = b := by
  cases x with
  | error v => cases h
  | ok a =>
    cases h
    exact ⟨a, rfl, rfl⟩

theorem map_eq_error {α β : Type} {x : Except Violation α} {f : α → β} {v : Violation} (h : x.map f = .error v) :
    x = .error v := by
  cases x with
  | error w =>
    cases h
    rfl
  | ok a => cases h

/-- Whatever is given, a value that the setting can have is read or none. -/
theorem has_of_read {k : Kind} {j v : Json} (h : k.read j = .ok v) : k.Has v := by
  cases k with
  | text =>
    obtain ⟨s, -, rfl⟩ := map_eq_ok h
    exact .text s
  | optionalText =>
    obtain ⟨a, ha, rfl⟩ := map_eq_ok h
    rcases Lax.optional_eq_ok ha with rfl | ⟨s, rfl, hself, hread⟩
    · exact .noText
    · cases j with
      | str t =>
        cases hread
        refine .someText ?_
        simpa [Lax.blankAsNull] using hself
      | _ => cases hread
  | optionalStrategy =>
    obtain ⟨a, ha, rfl⟩ := map_eq_ok h
    cases a with
    | none => exact .noStrategy
    | some s => exact .someStrategy s
  | truth =>
    obtain ⟨b, -, rfl⟩ := map_eq_ok h
    exact .truth b
  | positive =>
    obtain ⟨n, hn, rfl⟩ := map_eq_ok h
    refine .positive ?_
    unfold Lax.positive at hn
    obtain ⟨m, -, hm⟩ := Work.bind_eq_ok.mp hn
    split at hm
    next => cases hm
    next hone =>
      cases hm
      omega

/-- A value that the setting can have is read as it is. -/
theorem Has.read {k : Kind} {v : Json} (h : k.Has v) : k.read v = .ok v := by
  cases h with
  | text s => rfl
  | noText => rfl
  | someText h => simp [Kind.read, Lax.optional, Lax.blankAsNull_str h, Lax.text, Except.map, Json.ofOption]
  | noStrategy => rfl
  | someStrategy s => cases s <;> rfl
  | truth b => rfl
  | positive h => simp [Kind.read, Lax.positive, Lax.integer, bind, Except.bind, Except.map, Int.not_lt.mpr h]

theorem Has.read_spelling {k : Kind} {v : Json} (h : k.Has v) (hspell : Spellable v) :
    k.read (.str (spelling v)) = .ok v := by
  cases h with
  | text s => rfl
  | noText => rfl
  | someText h => exact (Has.someText h).read
  | noStrategy => rfl
  | someStrategy s => exact (Has.someStrategy s).read
  | truth b =>
    have htruth : Lax.truthOfText? (spelling (.bool b)) = some b := by cases b <;> decide +kernel
    simp [Kind.read, Lax.truth, htruth, Except.map]
  | @positive n h =>
    have htext : Lax.integerOfText (Numeral.text n).toList = .ok n := Lax.integerOfText_text h (hspell n rfl)
    change (Lax.positive (.str (Numeral.text n))).map Json.int = _
    simp [Lax.positive, Lax.integer, htext, bind, Except.bind, Except.map, Int.not_lt.mpr h]

end Kind

end ObjectIntake.Settings
