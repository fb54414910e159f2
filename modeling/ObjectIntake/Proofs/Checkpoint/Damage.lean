import ObjectIntake.Checkpoint.Store
import ObjectIntake.Proofs.Json.Completeness
import ObjectIntake.Proofs.Json.Lines
import ObjectIntake.Proofs.Text.Utf8

/-!
What comes of loading, for each content that the file can have. A file that is damaged is reported with its name,
except where its bytes are no text, where the reader gives up, and where the checkpoint in it is neither a string nor
null.
-/
namespace ObjectIntake.Checkpoint.Store
open Json Text

variable {depth : Nat} {t : FileTree} {path : FilePath} {place : Place} {content : List UInt8}

/-- The checkpoint in an object; null if it has none. -/
def memberOf (members : Keyed Json) : Json := (Keyed.get? members "checkpoint").getD .null

/-- Both values are null, or both are strings, or both neither of these. -/
def SameKind (j other : Json) : Prop :=
  (j = .null ↔ other = .null) ∧ ((∃ text, j = .str text) ↔ ∃ text, other = .str text)

/-- What the content of the file leads to, for a reader that goes to some depth. -/
inductive Verdict (depth : Nat) (path : FilePath) (content : List UInt8) : Except Failure Json → Prop where
  | member {s : List Char} {members : Keyed Json} (hs : content = Utf8.encode s) (hpaired : hasLoneSurrogate s = false)
      (h : Document s (.obj members)) : Verdict depth path content (.ok (memberOf members))
  /-- A surrogate without its partner is no character, so which ones the checkpoint has is left open. -/
  | unpaired {s : List Char} {members : Keyed Json} {j : Json} (hs : content = Utf8.encode s)
      (hlone : hasLoneSurrogate s = true) (h : Document s (.obj members)) (hj : SameKind j (memberOf members)) :
      Verdict depth path content (.ok j)
  | notObject {s : List Char} {j : Json} (hs : content = Utf8.encode s) (h : Document s j)
      (hj : ∀ members, j ≠ .obj members) :
      Verdict depth path content (.error (.configuration (.checkpointNotObject path.text)))
  | unreadable {s : List Char} {text : String} {fault : Fault} (hs : content = Utf8.encode s)
      (h : ∀ j, ¬ Document s j) :
      Verdict depth path content (.error (.configuration (.checkpointUnreadable path.text text fault)))
  | notText (h : ∀ s, content ≠ Utf8.encode s) : Verdict depth path content (.error .notUtf8)
  | longNumber {s : List Char} {n : Nat} (hs : content = Utf8.encode s) (h : LongNumber n s) :
      Verdict depth path content (.error (.numeralTooLong n))
  | nestedDeep {s : List Char} (hs : content = Utf8.encode s) (h : depth < openings s) :
      Verdict depth path content (.error .nestedTooDeep)

/-- The text that is read from characters of the file. -/
def readText (depth : Nat) (s : List Char) : Except Fault Json := Json.read depth (String.ofList (unifyNewlines s))

/-- The reader gives up on the text. -/
def GivesUp (depth : Nat) (s : List Char) : Prop :=
  ∃ fault, readText depth s = .error fault ∧ fault.kind.isLimit = true

theorem document_of_readText {s : List Char} {j : Json} (h : readText depth s = .ok j) : Document s j := by
  rw [readText, Json.read, String.toList_ofList] at h
  exact document_unifyNewlines_iff.mp (document_of_readWithin h)

theorem readText_of_document {s : List Char} {j : Json} (h : Document s j) (hup : ¬ GivesUp depth s) :
    readText depth s = .ok j := by
  have hanswers : Answers (readText depth s) j := by
    rw [readText, Json.read, String.toList_ofList]
    exact readWithin_of_document (document_unifyNewlines_iff.mpr h) depth
  exact hanswers.resolve_right hup

theorem excused_of_readText {s : List Char} {fault : Fault} (h : readText depth s = .error fault) :
    Excused depth (unifyNewlines s) fault := by
  rw [readText, Json.read, String.toList_ofList] at h
  exact excused_of_readWithin h

/-- Without long numbers and with few brackets no text is given up. -/
theorem not_givesUp {s : List Char} (hlong : ∀ n, ¬ LongNumber n s) (hopenings : openings s ≤ depth) :
    ¬ GivesUp depth s := by
  rintro ⟨fault, hread, hlimit⟩
  have hexcused := excused_of_readText hread
  unfold Excused at hexcused
  rcases FaultKind.isLimit_iff.mp hlimit with ⟨n, hkind⟩ | hkind
  · rw [hkind] at hexcused
    exact hlong n hexcused.of_unifyNewlines
  · rw [hkind, openings_unifyNewlines] at hexcused
    exact absurd hexcused (Nat.not_lt_of_le hopenings)

theorem load_of_file (h : t.find path.steps = .ok (.file place content)) :
    load depth t path = match Utf8.decode content with
      | some s => checkpointIn depth path (String.ofList (unifyNewlines s))
      | none => .error .notUtf8 := by
  unfold load
  generalize t.find path.steps = answer at h
  subst h
  rfl

section Outcomes

variable {s : List Char}

theorem checkpointIn_of_object {members : Keyed Json} (h : readText depth s = .ok (.obj members)) :
    checkpointIn depth path (String.ofList (unifyNewlines s)) = .ok (memberOf members) := by
  unfold readText at h
  rw [checkpointIn, h]
  rfl

theorem checkpointIn_of_value {j : Json} (h : readText depth s = .ok j) (hj : ∀ members, j ≠ .obj members) :
    checkpointIn depth path (String.ofList (unifyNewlines s)) =
      .error (.configuration (.checkpointNotObject path.text)) := by
  unfold readText at h
  rw [checkpointIn, h]
  cases j with
  | obj members => exact absurd rfl (hj members)
  | _ => rfl

theorem checkpointIn_of_fault {fault : Fault} (h : readText depth s = .error fault) :
    checkpointIn depth path (String.ofList (unifyNewlines s)) =
      match fault.kind with
      | .integerTooLong n => .error (.numeralTooLong n)
      | .nestedTooDeep => .error .nestedTooDeep
      | _ => .error (.configuration (.checkpointUnreadable path.text (String.ofList (unifyNewlines s)) fault)) := by
  unfold readText at h
  rw [checkpointIn, h]
  obtain ⟨kind, left⟩ := fault
  cases kind <;> rfl

end Outcomes

theorem verdict_load (h : t.find path.steps = .ok (.file place content)) :
    Verdict depth path content (load depth t path) := by
  rw [load_of_file h]
  cases hdecode : Utf8.decode content with
  | none =>
    refine .notText fun s hs => ?_
    rw [Utf8.decode_eq_some_iff.mpr hs] at hdecode
    cases hdecode
  | some s =>
    have hs := Utf8.decode_eq_some_iff.mp hdecode
    dsimp only
    cases hread : readText depth s with
    | ok j =>
      have hdocument := document_of_readText hread
      by_cases hobject : ∃ members, j = .obj members
      · obtain ⟨members, rfl⟩ := hobject
        rw [checkpointIn_of_object hread]
        cases hlone : hasLoneSurrogate s with
        | false => exact .member hs hlone hdocument
        | true => exact .unpaired hs hlone hdocument ⟨Iff.rfl, Iff.rfl⟩
      · rw [not_exists] at hobject
        rw [checkpointIn_of_value hread hobject]
        exact .notObject hs hdocument hobject
    | error fault =>
      have hexcused := excused_of_readText hread
      rw [checkpointIn_of_fault hread]
      unfold Excused at hexcused
      split
      next n hkind =>
        rw [hkind] at hexcused
        exact .longNumber hs hexcused.of_unifyNewlines
      next hkind =>
        rw [hkind, openings_unifyNewlines] at hexcused
        exact .nestedDeep hs hexcused
      next hno hnested =>
        refine .unreadable hs fun j hj => ?_
        have hup : ¬ GivesUp depth s := by
          rintro ⟨fault', hread', hlimit⟩
          rw [hread] at hread'
          cases hread'
          rcases FaultKind.isLimit_iff.mp hlimit with ⟨n, hkind⟩ | hkind
          · exact hno n hkind
          · exact hnested hkind
        rw [readText_of_document hj hup] at hread
        cases hread

/-- The answer is null or a token, or a fault of the configuration that names the file. -/
def Reported (path : FilePath) : Except Failure Json → Prop
  | .ok j => j = .null ∨ ∃ token, j = .str token
  | .error (.configuration fault) => path.text.toList <:+: (Failure.configuration fault).message.toList
  | .error _ => False

/-- An object in the text has a token for a checkpoint, or none. -/
def HoldsToken (s : List Char) : Prop :=
  ∀ members, Document s (.obj members) → memberOf members = .null ∨ ∃ token, memberOf members = .str token

theorem names_checkpointNotObject (path : FilePath) :
    path.text.toList <:+: (Failure.configuration (.checkpointNotObject path.text)).message.toList := by
  have hmessage : (Failure.configuration (.checkpointNotObject path.text)).message =
      "Checkpoint file " ++ path.text ++ " must hold a JSON object" := rfl
  rw [hmessage, String.toList_append, String.toList_append]
  exact ⟨_, _, rfl⟩

theorem names_checkpointUnreadable (path : FilePath) (text : String) (fault : Fault) :
    path.text.toList <:+: (Failure.configuration (.checkpointUnreadable path.text text fault)).message.toList := by
  have hmessage : (Failure.configuration (.checkpointUnreadable path.text text fault)).message =
      "Checkpoint file " ++ path.text ++ " is not valid JSON" ++ ": " ++ fault.describe text := rfl
  rw [hmessage, String.toList_append, String.toList_append, String.toList_append, String.toList_append,
    List.append_assoc, List.append_assoc]
  exact ⟨_, _, rfl⟩

theorem reported_load_iff (h : t.find path.steps = .ok (.file place content)) :
    Reported path (load depth t path) ↔ ∃ s, content = Utf8.encode s ∧ ¬ GivesUp depth s ∧ HoldsToken s := by
  rw [load_of_file h]
  constructor
  · intro hreported
    cases hdecode : Utf8.decode content with
    | none =>
      rw [hdecode] at hreported
      exact hreported.elim
    | some s =>
      rw [hdecode] at hreported
      dsimp only at hreported
      have hup : ¬ GivesUp depth s := by
        rintro ⟨fault, hread, hlimit⟩
        rw [checkpointIn_of_fault hread] at hreported
        rcases FaultKind.isLimit_iff.mp hlimit with ⟨n, hkind⟩ | hkind
        · rw [hkind] at hreported
          exact hreported
        · rw [hkind] at hreported
          exact hreported
      refine ⟨s, Utf8.decode_eq_some_iff.mp hdecode, hup, fun members hdocument => ?_⟩
      rw [checkpointIn_of_object (readText_of_document hdocument hup)] at hreported
      exact hreported
  · rintro ⟨s, hs, hup, hmembers⟩
    rw [Utf8.decode_eq_some_iff.mpr hs]
    dsimp only
    cases hread : readText depth s with
    | ok j =>
      by_cases hobject : ∃ members, j = .obj members
      · obtain ⟨members, rfl⟩ := hobject
        rw [checkpointIn_of_object hread]
        exact hmembers members (document_of_readText hread)
      · rw [not_exists] at hobject
        rw [checkpointIn_of_value hread hobject]
        exact names_checkpointNotObject path
    | error fault =>
      rw [checkpointIn_of_fault hread]
      split
      next n hkind => exact absurd ⟨fault, hread, FaultKind.isLimit_iff.mpr (.inl ⟨n, hkind⟩)⟩ hup
      next hkind => exact absurd ⟨fault, hread, FaultKind.isLimit_iff.mpr (.inr hkind)⟩ hup
      next => exact names_checkpointUnreadable path _ fault

/-- What a file leads to, and exactly when that is the checkpoint or a report that names the file: when its bytes are
a text on which the reader does not give up, and which holds a token if it holds an object. It gives up on no text
with short numbers and few brackets. -/
theorem damage_reported_iff (depth : Nat) (h : t.find path.steps = .ok (.file place content)) :
    Verdict depth path content (load depth t path) ∧
      (Reported path (load depth t path) ↔ ∃ s, content = Utf8.encode s ∧ ¬ GivesUp depth s ∧ HoldsToken s) ∧
      ∀ s, content = Utf8.encode s → (∀ n, ¬ LongNumber n s) → openings s ≤ depth → HoldsToken s →
        Reported path (load depth t path) :=
  ⟨verdict_load h, reported_load_iff h, fun s hs hlong hopenings htoken =>
    (reported_load_iff h).mpr ⟨s, hs, not_givesUp hlong hopenings, htoken⟩⟩

/-- A tree with one file. -/
def fileWith (content : List UInt8) : FileTree := { files := [(["c"], content)] }

def pathOfFile : FilePath := ⟨"", ["c"]⟩

/-- Of an object only the opening bracket was written. -/
theorem damage_reported_iff_truncated : Verdict 1 pathOfFile [0x7b] (load 1 (fileWith [0x7b]) pathOfFile) ∧
    Reported pathOfFile (load 1 (fileWith [0x7b]) pathOfFile) := by
  have hfile : (fileWith [0x7b]).find pathOfFile.steps = .ok (.file ["c"] [0x7b]) := rfl
  have hlong (n : Nat) : ¬ LongNumber n ['\x7b'] := by
    rintro ⟨hn, ds, hds, -, rfl⟩
    have hlength := hds.length_le
    unfold Numeral.digitLimit at hn
    simp only [List.length_singleton] at hlength
    omega
  have hup : ¬ GivesUp 1 ['\x7b'] := not_givesUp hlong (by decide)
  have hread : (readText 1 ['\x7b']).isOk = false := by decide +kernel
  obtain ⟨hverdict, -, hreported⟩ := damage_reported_iff 1 hfile
  refine ⟨hverdict, hreported ['\x7b'] (by decide) hlong (by decide) fun members hdocument => ?_⟩
  rw [readText_of_document hdocument hup] at hread
  cases hread

/-- Bytes that are no text are not reported, and a number is a checkpoint like any other. -/
theorem damage_unreported :
    ((fileWith [0xff]).find pathOfFile.steps = .ok (.file ["c"] [0xff]) ∧
      load usualDepth (fileWith [0xff]) pathOfFile = .error .notUtf8 ∧
      ¬ Reported pathOfFile (load usualDepth (fileWith [0xff]) pathOfFile)) ∧
    (load usualDepth (fileWith (Utf8.encode "\x7b\"checkpoint\": 3\x7d".toList)) pathOfFile).toOption.bind
      Json.int? = some 3 :=
  ⟨⟨rfl, rfl, id⟩, by decide +kernel⟩

end ObjectIntake.Checkpoint.Store
