import ObjectIntake.Journal.Line
import ObjectIntake.Proofs.Json.Plain

/-!
What a line of the journal says. It is one line of printable ASCII, whatever the texts of the record hold, and it is
read back as the standard fields of the record, one under each of their keys, with the extra ones in their place.
-/
namespace ObjectIntake.Journal

variable {e : Entry} {depth : Nat}

theorem nodup_keys_fields (e : Entry) (message : String) : (Keyed.keys (fields e message)).Nodup := by
  cases herror : e.error <;> simp [fields, herror, Keyed.keys]

theorem plain_fields (hfunction : Json.Plain depth e.function) (hline : Json.Plain depth e.line) (message : String) :
    ∀ m ∈ fields e message, Json.Plain depth m.2 := by
  have herror : ∀ m ∈ (e.error.map fun text => ("exception", Json.str text)).toList,
      Json.Plain depth m.2 := by
    cases e.error with
    | none => exact List.forall_mem_nil _
    | some text => exact List.forall_mem_singleton.mpr (.str _)
  refine List.forall_mem_append.mpr ⟨?_, herror⟩
  simp only [List.forall_mem_cons, List.not_mem_nil, false_imp_iff, implies_true, and_true]
  exact ⟨.str _, .str _, .str _, .str _, .str _, hfunction, hline⟩

/-- The members of a line are plain where the extra fields are. -/
theorem plain_members (hfunction : Json.Plain depth e.function) (hline : Json.Plain depth e.line)
    (hextra : Json.Plain (depth + 1) (.obj e.extra)) (message : String) :
    Json.Plain (depth + 1) (.obj ((fields e message).merge e.extra)) := by
  cases hextra with
  | obj _ hvalues =>
    refine .obj (Keyed.nodup_keys_merge (nodup_keys_fields e message)) fun m hm => ?_
    rcases Keyed.mem_merge hm with hm | hm
    · exact plain_fields hfunction hline message m hm
    · exact hvalues m hm

/-- What the line of a record whose message is `text` shows under a key that no extra field has. -/
def standard? (e : Entry) (text key : String) : Option Json :=
  match key with
  | "timestamp" => some (.str (momentText e.seconds e.millis))
  | "level" => some (.str e.level)
  | "logger" => some (.str e.channel)
  | "message" => some (.str text)
  | "module" => some (.str (moduleName e.path))
  | "function" => some e.function
  | "line" => some e.line
  | "exception" => e.error.map .str
  | _ => none

theorem get?_fields (e : Entry) (text key : String) : (fields e text).get? key = standard? e text key := by
  unfold standard?
  split
  case h_8 =>
    rw [fields]
    cases e.error <;> rfl
  case h_9 htimestamp hlevel hlogger hmessage hmodule hfunction hline hexception =>
    refine Keyed.get?_eq_none_iff.mpr ?_
    cases herror : e.error with
    | none =>
      simp only [fields, herror, Keyed.keys, Option.map_none, Option.toList_none, List.append_nil, List.map_cons,
        List.map_nil, List.mem_cons, List.not_mem_nil, or_false, not_or]
      exact ⟨htimestamp, hlevel, hlogger, hmessage, hmodule, hfunction, hline⟩
    | some =>
      simp only [fields, herror, Keyed.keys, Option.map_some, Option.toList_some, List.map_cons, List.map_nil,
        List.cons_append, List.nil_append, List.mem_cons, List.not_mem_nil, or_false, not_or]
      exact ⟨htimestamp, hlevel, hlogger, hmessage, hmodule, hfunction, hline, hexception⟩
  all_goals rfl

/-- A record that has a date and whose message can be written gives a line of printable ASCII. To a reader that goes
deep enough the line is one object: under each key the extra field, and a standard one where there is no such extra. -/
theorem line_reads_back {text : String} (hmoment : check e.seconds = .ok ()) (hmessage : message e = .ok text)
    (hfunction : Json.Plain depth e.function) (hline : Json.Plain depth e.line)
    (hextra : Json.Plain (depth + 1) (.obj e.extra)) :
    ∃ written, line e = .ok written ∧ (∀ c ∈ written.toList, 0x20 ≤ c.toNat ∧ c.toNat ≤ 0x7E) ∧
      ∀ limit, depth < limit → ∃ members : Keyed Json, Json.readWithin limit written.toList = .ok (.obj members) ∧
        members.keys.Nodup ∧ ∀ key, members.get? key = (e.extra.get? key).or (standard? e text key) := by
  have hplain := plain_members hfunction hline hextra text
  have hkeys : (Keyed.keys e.extra).Nodup := by
    cases hextra with
    | obj hkeys => exact hkeys
  refine ⟨Json.text Json.ascii (.obj ((fields e text).merge e.extra)), ?_, hplain.printable, fun limit hlimit => ?_⟩
  · simp only [line, hmoment, hmessage, bind, Except.bind]
    exact if_pos hplain.isWritable
  · refine ⟨(fields e text).merge e.extra, hplain.readWithin_text hlimit,
      Keyed.nodup_keys_merge (nodup_keys_fields e text), fun key => ?_⟩
    rw [Keyed.get?_merge hkeys key, get?_fields]

/-- A record that would pass for two: its message goes on with a line of its own, and its extra fields name a level. -/
def disguised : Entry where
  channel := "intake"
  level := "WARNING"
  path := some "/srv/intake/source.py"
  line := .int 7
  template := "dropped %s\n\x7b\"level\": \"ERROR\"\x7d"
  arguments := [.str "a\\b\x7f"]
  function := .str "fetch"
  seconds := 1704067200
  millis := 5
  error := some "Traceback (most recent call last):\nKeyError: 'a\\\\b\x7f'"
  extra := [("level", .str "😀"), ("batch", .arr [.obj [("size", .int (-12)), ("next", .null)], .bool true])]

theorem line_reads_back_disguised :
    ∃ written, line disguised = .ok written ∧ (∀ c ∈ written.toList, 0x20 ≤ c.toNat ∧ c.toNat ≤ 0x7E) ∧
      ∃ members : Keyed Json, Json.readWithin 3 written.toList = .ok (.obj members) ∧ members.keys.Nodup ∧
        (members.get? "timestamp" = some (.str "2024-01-01 00:00:00,005") ∧
          members.get? "level" = some (.str "😀") ∧
          members.get? "logger" = some (.str "intake") ∧
          members.get? "message" = some (.str "dropped a\\b\x7f\n\x7b\"level\": \"ERROR\"\x7d") ∧
          members.get? "module" = some (.str "source") ∧
          members.get? "function" = some (.str "fetch") ∧
          members.get? "line" = some (.int 7) ∧
          members.get? "exception" =
            some (.str "Traceback (most recent call last):\nKeyError: 'a\\\\b\x7f'") ∧
          members.get? "thread" = none) := by
  have hmoment : check disguised.seconds = .ok () := Work.eq_ok_of_toOption (by decide +kernel)
  have hmessage : message disguised = .ok "dropped a\\b\x7f\n\x7b\"level\": \"ERROR\"\x7d" :=
    Work.eq_ok_of_toOption (by decide +kernel)
  have hinner : Json.Plain 1 (.obj [("size", .int (-12)), ("next", .null)]) := by
    refine .obj (by decide) ?_
    simp only [List.forall_mem_cons, List.not_mem_nil, false_imp_iff, implies_true, and_true]
    exact ⟨.int (by decide), .null⟩
  have hextra : Json.Plain 3 (.obj disguised.extra) := by
    refine .obj (by decide) ?_
    simp only [disguised, List.forall_mem_cons, List.not_mem_nil, false_imp_iff, implies_true, and_true]
    refine ⟨.str _, .arr ?_⟩
    simp only [List.forall_mem_cons, List.not_mem_nil, false_imp_iff, implies_true, and_true]
    exact ⟨hinner, .bool true⟩
  obtain ⟨written, hwritten, hprintable, hread⟩ :=
    line_reads_back hmoment hmessage (.str "fetch") (.int (by decide)) hextra
  obtain ⟨members, hmembers, hkeys, hlookup⟩ := hread 3 (by decide)
  have hmodule : moduleName disguised.path = "source" := by decide +kernel
  have htime : momentText disguised.seconds disguised.millis = "2024-01-01 00:00:00,005" := by decide +kernel
  refine ⟨written, hwritten, hprintable, members, hmembers, hkeys, ?_, hlookup "level", hlookup "logger",
    hlookup "message", ?_, hlookup "function", hlookup "line", hlookup "exception", hlookup "thread"⟩
  · rw [← htime]
    exact hlookup "timestamp"
  · rw [← hmodule]
    exact hlookup "module"

end ObjectIntake.Journal
