import ObjectIntake.ChangeLog.Frame
import ObjectIntake.Proofs.Event.Predicate

/-!
The condition of a predicate is true on the rows that pass, and on no others. On all others it is false or,
where a cell is null, neither; a frame keeps none of them.
-/
namespace ObjectIntake.Event

namespace Condition

variable {cell : String → Cell}

def Evaluates (c : Condition) (cell : String → Cell) : Prop := ∃ t, c.eval cell = .ok t

def IsTrue (c : Condition) (cell : String → Cell) : Prop := c.eval cell = .ok (some true)

theorem and_eq_true {a b : Truth} : a.and b = some true ↔ a = some true ∧ b = some true := by
  rcases a with _ | _ | _ <;> rcases b with _ | _ | _ <;> decide

theorem or_eq_true {a b : Truth} : a.or b = some true ↔ a = some true ∨ b = some true := by
  rcases a with _ | _ | _ <;> rcases b with _ | _ | _ <;> decide

theorem eval_both {a b : Condition} {x y : Truth} (ha : a.eval cell = .ok x) (hb : b.eval cell = .ok y) :
    (both a b).eval cell = .ok (x.and y) := by
  rw [eval, ha, hb]
  rfl

theorem eval_either {a b : Condition} {x y : Truth} (ha : a.eval cell = .ok x)
    (hb : b.eval cell = .ok y) : (either a b).eval cell = .ok (x.or y) := by
  rw [eval, ha, hb]
  rfl

theorem isTrue_both {a b : Condition} (ha : a.Evaluates cell) (hb : b.Evaluates cell) :
    (both a b).Evaluates cell ∧ ((both a b).IsTrue cell ↔ a.IsTrue cell ∧ b.IsTrue cell) := by
  obtain ⟨x, hx⟩ := ha
  obtain ⟨y, hy⟩ := hb
  have hboth := eval_both hx hy
  refine ⟨⟨_, hboth⟩, ?_⟩
  simp only [IsTrue, hboth, hx, hy, Except.ok.injEq, and_eq_true]

theorem IsTrue.of_both {a b : Condition} (h : (both a b).IsTrue cell) : a.IsTrue cell ∧ b.IsTrue cell := by
  rw [IsTrue, eval, Work.bind_eq_ok] at h
  obtain ⟨x, hx, h⟩ := h
  obtain ⟨y, hy, h⟩ := Work.bind_eq_ok.mp h
  obtain ⟨rfl, rfl⟩ := and_eq_true.mp (Except.ok.inj h)
  exact ⟨hx, hy⟩

theorem IsTrue.of_foldl_both {conditions : List Condition} {first : Condition}
    (h : (conditions.foldl both first).IsTrue cell) : first.IsTrue cell ∧ ∀ c ∈ conditions, c.IsTrue cell := by
  induction conditions generalizing first with
  | nil => exact ⟨h, fun c hc => absurd hc List.not_mem_nil⟩
  | cons c rest ih =>
    obtain ⟨hboth, hrest⟩ := ih h
    obtain ⟨hfirst, hc⟩ := hboth.of_both
    exact ⟨hfirst, List.forall_mem_cons.mpr ⟨hc, hrest⟩⟩

theorem isTrue_either {a b : Condition} (ha : a.Evaluates cell) (hb : b.Evaluates cell) :
    (either a b).Evaluates cell ∧ ((either a b).IsTrue cell ↔ a.IsTrue cell ∨ b.IsTrue cell) := by
  obtain ⟨x, hx⟩ := ha
  obtain ⟨y, hy⟩ := hb
  have heither := eval_either hx hy
  refine ⟨⟨_, heither⟩, ?_⟩
  simp only [IsTrue, heither, hx, hy, Except.ok.injEq, or_eq_true]

/-- Conditions that are put behind a first one all have to be true with it. -/
theorem isTrue_foldl_both {conditions : List Condition} {first : Condition}
    (hfirst : first.Evaluates cell) (h : ∀ c ∈ conditions, c.Evaluates cell) :
    (conditions.foldl both first).Evaluates cell ∧
      ((conditions.foldl both first).IsTrue cell ↔
        first.IsTrue cell ∧ ∀ c ∈ conditions, c.IsTrue cell) := by
  induction conditions generalizing first with
  | nil => exact ⟨hfirst, by simp only [List.foldl_nil, List.not_mem_nil, false_implies, implies_true, and_true]⟩
  | cons c rest ih =>
    obtain ⟨heval, htrue⟩ := isTrue_both hfirst (h c (List.mem_cons_self ..))
    obtain ⟨hall, hiff⟩ := ih heval fun d hd => h d (List.mem_cons_of_mem _ hd)
    refine ⟨hall, ?_⟩
    rw [List.foldl_cons, hiff, htrue, List.forall_mem_cons, and_assoc]

/-- Of conditions that are alternatives to a first one, one has to be true. -/
theorem isTrue_foldl_either {α : Type} (make : α → Condition) (items : List α) {first : Condition}
    (hfirst : first.Evaluates cell) (h : ∀ a ∈ items, (make a).Evaluates cell) :
    (items.foldl (fun c a => either c (make a)) first).Evaluates cell ∧
      ((items.foldl (fun c a => either c (make a)) first).IsTrue cell ↔
        first.IsTrue cell ∨ ∃ a ∈ items, (make a).IsTrue cell) := by
  induction items generalizing first with
  | nil => exact ⟨hfirst, by simp only [List.foldl_nil, List.not_mem_nil, false_and, exists_false, or_false]⟩
  | cons a rest ih =>
    obtain ⟨heval, htrue⟩ := isTrue_either hfirst (h a (List.mem_cons_self ..))
    obtain ⟨hall, hiff⟩ := ih heval fun b hb => h b (List.mem_cons_of_mem _ hb)
    refine ⟨hall, ?_⟩
    simp only [List.foldl_cons, hiff, htrue, List.mem_cons, or_and_right, exists_or, exists_eq_left,
      or_assoc]

/-- Only these columns are read. -/
def Reads (c : Condition) (columns : List String) : Prop := ∀ column ∈ c.columns, column ∈ columns

theorem reads_foldl {α : Type} {columns : List String} {join : Condition → α → Condition}
    {items : List α} {first : Condition} (hfirst : first.Reads columns)
    (h : ∀ a ∈ items, ∀ c : Condition, c.Reads columns → (join c a).Reads columns) :
    (items.foldl join first).Reads columns := by
  induction items generalizing first with
  | nil => exact hfirst
  | cons a rest ih =>
    exact ih (h a (List.mem_cons_self ..) first hfirst) fun b hb => h b (List.mem_cons_of_mem _ hb)

theorem Reads.append {a b : Condition} {columns : List String} (ha : a.Reads columns)
    (hb : b.Reads columns) : ∀ column ∈ a.columns ++ b.columns, column ∈ columns := by
  intro column h
  rcases List.mem_append.mp h with h | h
  · exact ha column h
  · exact hb column h

/-- The value depends only on the cells of the columns that are read. -/
theorem Reads.eval_congr {c : Condition} {columns : List String} (h : c.Reads columns)
    {cell other : String → Cell} (hcells : ∀ column ∈ columns, cell column = other column) :
    c.eval cell = c.eval other := by
  induction c with
  | present column => simp [eval, hcells column (h column (by simp [Condition.columns]))]
  | above column bound => simp [eval, hcells column (h column (by simp [Condition.columns]))]
  | startsWith column text => simp [eval, hcells column (h column (by simp [Condition.columns]))]
  | contains column text => simp [eval, hcells column (h column (by simp [Condition.columns]))]
  | endsWith column text => simp [eval, hcells column (h column (by simp [Condition.columns]))]
  | oneOf column texts => simp [eval, hcells column (h column (by simp [Condition.columns]))]
  | both a b iha ihb =>
    have ha := iha fun column hcolumn => h column (List.mem_append_left _ hcolumn)
    have hb := ihb fun column hcolumn => h column (List.mem_append_right _ hcolumn)
    simp [eval, ha, hb]
  | either a b iha ihb =>
    have ha := iha fun column hcolumn => h column (List.mem_append_left _ hcolumn)
    have hb := ihb fun column hcolumn => h column (List.mem_append_right _ hcolumn)
    simp [eval, ha, hb]
  | opposite a ih => simp [eval, ih h]

/-- A test of a cell that holds a text or null: it is true only of a text that passes it. -/
theorem onText_ofText (o : Option String) (test : String → Bool) :
    onText (.ofText o) test = .ok (o.map test) := by
  cases o <;> rfl

theorem map_eq_true {o : Option String} {test : String → Bool} :
    o.map test = some true ↔ ∃ s, o = some s ∧ test s = true := Option.map_eq_some_iff

theorem not_map_eq_true {o : Option String} {test : String → Bool} :
    Truth.not (o.map test) = some true ↔ ∃ s, o = some s ∧ test s = false := by
  rw [Truth.not, Option.map_map, Option.map_eq_some_iff]
  simp only [Function.comp_apply, Bool.not_eq_true']

end Condition

/-- The cells that an engine shows for a row are those of the row. -/
structure Shows (cell : String → Cell) (r : Row) : Prop where
  bucket : cell Row.bucketColumn = .ofText r.bucket
  key : cell Row.keyColumn = .ofText r.key
  size : cell Row.sizeColumn = r.size

namespace Predicate
open Condition

variable {cell : String → Cell} {r : Row}

theorem present_isTrue {column : String} {o : Option String} (h : cell column = .ofText o) :
    (present column).Evaluates cell ∧ ((present column).IsTrue cell ↔ ∃ s, o = some s) := by
  have heval : (present column).eval cell = .ok (some !(Cell.ofText o).isNull) := by rw [eval, h]
  refine ⟨⟨_, heval⟩, ?_⟩
  rw [IsTrue, heval]
  cases o with
  | none => simp [Cell.ofText, Cell.isNull]
  | some s => simp [Cell.ofText, Cell.isNull]

theorem above_isTrue {column : String} (hsized : r.Sized) (h : cell column = r.size) :
    (above column 0).Evaluates cell ∧
      ((above column 0).IsTrue cell ↔ ∃ n, r.size = .whole n ∧ 0 < n) := by
  have heval : (above column 0).eval cell = r.size.above 0 := by rw [eval, h]
  unfold Evaluates IsTrue
  rw [heval]
  rcases hsized with hs | ⟨n, hs⟩
  · rw [hs]
    exact ⟨⟨none, rfl⟩, by simp [Cell.above]⟩
  · rw [hs]
    exact ⟨⟨some (decide (0 < n)), rfl⟩, by simp [Cell.above]⟩

theorem test_isTrue {c : Condition} {o : Option String} {test : String → Bool}
    (h : c.eval cell = onText (.ofText o) test) :
    c.Evaluates cell ∧ (c.IsTrue cell ↔ ∃ s, o = some s ∧ test s = true) := by
  rw [onText_ofText] at h
  exact ⟨⟨_, h⟩, by rw [IsTrue, h, Except.ok.injEq, map_eq_true]⟩

theorem opposite_isTrue {c : Condition} {o : Option String} {test : String → Bool}
    (h : c.eval cell = onText (.ofText o) test) :
    (opposite c).Evaluates cell ∧
      ((opposite c).IsTrue cell ↔ ∃ s, o = some s ∧ test s = false) := by
  rw [onText_ofText] at h
  have heval : (opposite c).eval cell = .ok (Truth.not (o.map test)) := by
    rw [eval, h]
    rfl
  exact ⟨⟨_, heval⟩, by rw [IsTrue, heval, Except.ok.injEq, not_map_eq_true]⟩

/-- What holds of all filters in force holds of each kind of filter. -/
theorem forall_filters {p : Predicate} {q : Condition → Prop} :
    (∀ c ∈ p.filters, q c) ↔
      (∀ s, p.keyStart = some s → s ≠ "" → q (.startsWith Row.keyColumn s)) ∧
      (∀ s, p.ignoredKeyStart = some s → s ≠ "" → q (.opposite (.startsWith Row.keyColumn s))) ∧
      (∀ s, p.ignoredKeyPart = some s → s ≠ "" → q (.opposite (.contains Row.keyColumn s))) ∧
      ∀ c, anyExtension p.extensions = some c → q c := by
  have hoption {o : Option String} {make : String → Condition} :
      (∀ c, (active o).map make = some c → q c) ↔ ∀ s, o = some s → s ≠ "" → q (make s) := by
    simp only [Option.map_eq_some_iff, active_eq_some]
    constructor
    · intro h s hs hne
      exact h _ ⟨s, ⟨hs, hne⟩, rfl⟩
    · rintro h _ ⟨s, ⟨hs, hne⟩, rfl⟩
      exact h s hs hne
  simp only [filters, List.forall_mem_append, hoption, Option.mem_toList, and_assoc]

theorem anyExtension_isTrue {o : Option String} (h : cell Row.keyColumn = .ofText o)
    {extensions : List String} {c : Condition} (hc : anyExtension extensions = some c) :
    c.Evaluates cell ∧
      (c.IsTrue cell ↔ ∃ key, o = some key ∧ ∃ e ∈ extensions, e.toList <:+ key.toList) := by
  cases extensions with
  | nil => cases hc
  | cons e rest =>
    cases hc
    have hends (t : String) : (endsWith Row.keyColumn t).Evaluates cell ∧
        ((endsWith Row.keyColumn t).IsTrue cell ↔
          ∃ key, o = some key ∧ Text.endsWith key t = true) :=
      test_isTrue (by rw [eval, h])
    obtain ⟨heval, hiff⟩ := isTrue_foldl_either (endsWith Row.keyColumn) rest (hends e).1
      fun t _ => (hends t).1
    refine ⟨heval, hiff.trans ?_⟩
    simp only [hends, endsWith_iff, List.mem_cons]
    constructor
    · rintro (⟨key, hkey, he⟩ | ⟨t, ht, key, hkey, he⟩)
      · exact ⟨key, hkey, e, Or.inl rfl, he⟩
      · exact ⟨key, hkey, t, Or.inr ht, he⟩
    · rintro ⟨key, hkey, t, rfl | ht, he⟩
      · exact Or.inl ⟨key, hkey, he⟩
      · exact Or.inr ⟨t, ht, key, hkey, he⟩

theorem evaluates_filters {o : Option String} (h : cell Row.keyColumn = .ofText o) (p : Predicate) :
    ∀ c ∈ p.filters, c.Evaluates cell := by
  rw [forall_filters]
  refine ⟨fun s _ _ => ?_, fun s _ _ => ?_, fun s _ _ => ?_, fun c hc => (anyExtension_isTrue h hc).1⟩
  · exact (test_isTrue (by rw [eval, h])).1
  · exact (opposite_isTrue (by rw [eval, h])).1
  · exact (opposite_isTrue (by rw [eval, h])).1

theorem isTrue_filters {key : String} (h : cell Row.keyColumn = .ofText (some key)) (p : Predicate) :
    (∀ c ∈ p.filters, c.IsTrue cell) ↔ p.PassesKey key := by
  have hstarts (s : String) : (startsWith Row.keyColumn s).IsTrue cell ↔ s.toList <+: key.toList := by
    rw [(test_isTrue (by rw [eval, h])).2]
    simp only [Option.some.injEq, exists_eq_left', startsWith_iff]
  have hother (s : String) : (opposite (startsWith Row.keyColumn s)).IsTrue cell ↔
      ¬ s.toList <+: key.toList := by
    rw [(opposite_isTrue (by rw [eval, h])).2]
    simp only [Option.some.injEq, exists_eq_left', ← startsWith_iff, Bool.not_eq_true]
  have hpart (s : String) : (opposite (contains Row.keyColumn s)).IsTrue cell ↔
      ¬ s.toList <:+: key.toList := by
    rw [(opposite_isTrue (by rw [eval, h])).2]
    simp only [Option.some.injEq, exists_eq_left', ← contains_iff, Bool.not_eq_true]
  have hending : (∀ c, anyExtension p.extensions = some c → c.IsTrue cell) ↔
      (p.extensions ≠ [] → ∃ e ∈ p.extensions, e.toList <:+ key.toList) := by
    cases hext : p.extensions with
    | nil => simp only [anyExtension, reduceCtorEq, false_implies, implies_true, ne_eq, not_true_eq_false]
    | cons e rest =>
      obtain ⟨c, hc⟩ : ∃ c, anyExtension (e :: rest) = some c := ⟨_, rfl⟩
      have hiff := (anyExtension_isTrue h hc).2
      simp only [Option.some.injEq, exists_eq_left'] at hiff
      simp only [hc, Option.some.injEq, forall_eq', hiff, ne_eq, reduceCtorEq, not_false_eq_true,
        true_implies]
  rw [forall_filters]
  simp only [hstarts, hother, hpart, hending]
  exact ⟨fun ⟨ha, hb, hc, hd⟩ => ⟨ha, hb, hc, hd⟩, fun ⟨ha, hb, hc, hd⟩ => ⟨ha, hb, hc, hd⟩⟩

/-- The condition has a value on every row, and is true on those that pass. -/
theorem condition_isTrue (p : Predicate) (hs : Shows cell r) (hsized : r.Sized) :
    p.condition.Evaluates cell ∧ (p.condition.IsTrue cell ↔ p.Passes r) := by
  obtain ⟨hbucket, hbucketTrue⟩ := present_isTrue hs.bucket
  obtain ⟨hkey, hkeyTrue⟩ := present_isTrue hs.key
  obtain ⟨hsize, hsizeTrue⟩ := above_isTrue hsized hs.size
  obtain ⟨hnamed, hnamedTrue⟩ := isTrue_both hbucket hkey
  obtain ⟨hbase, hbaseTrue⟩ := isTrue_both hnamed hsize
  obtain ⟨heval, htrue⟩ := isTrue_foldl_both hbase (evaluates_filters hs.key p)
  refine ⟨heval, htrue.trans ?_⟩
  rw [hbaseTrue, hnamedTrue, hbucketTrue, hkeyTrue, hsizeTrue, Passes]
  constructor
  · rintro ⟨⟨⟨hb, key, hk⟩, hn⟩, hf⟩
    exact ⟨hb, ⟨key, hk, (isTrue_filters (hk ▸ hs.key) p).mp hf⟩, hn⟩
  · rintro ⟨hb, ⟨key, hk, hp⟩, hn⟩
    exact ⟨⟨⟨hb, key, hk⟩, hn⟩, (isTrue_filters (hk ▸ hs.key) p).mpr hp⟩

/-- Where the condition is true, the key has one of the endings, whatever the size is. -/
theorem ending_of_isTrue {p : Predicate} (h : p.condition.IsTrue cell) (hkey : cell Row.keyColumn = .ofText r.key)
    (hne : p.extensions ≠ []) : ∃ key, r.key = some key ∧ ∃ e ∈ p.extensions, e.toList <:+ key.toList := by
  obtain ⟨e, rest, hext⟩ := List.exists_cons_of_ne_nil hne
  obtain ⟨c, hc⟩ : ∃ c, anyExtension p.extensions = some c := by
    rw [hext]
    exact ⟨_, rfl⟩
  have hfilters := (forall_filters.mp (h.of_foldl_both).2).2.2.2 c hc
  exact (anyExtension_isTrue hkey hc).2.mp hfilters

/-- The columns that hold a row. -/
def eventColumns : List String := [Row.bucketColumn, Row.keyColumn, Row.sizeColumn]

theorem reads_filters (p : Predicate) : ∀ c ∈ p.filters, c.Reads eventColumns := by
  have hkey : ∀ column ∈ [Row.keyColumn], column ∈ eventColumns := by decide
  rw [forall_filters]
  refine ⟨fun s _ _ => hkey, fun s _ _ => hkey, fun s _ _ => hkey, fun c hc => ?_⟩
  cases hext : p.extensions with
  | nil =>
    rw [hext] at hc
    cases hc
  | cons e rest =>
    rw [hext] at hc
    cases hc
    exact reads_foldl hkey fun t _ c hc => hc.append (b := .endsWith Row.keyColumn t) hkey

/-- The condition reads the columns that hold a row, and no others. -/
theorem reads_condition (p : Predicate) : p.condition.Reads eventColumns := by
  apply reads_foldl
  · exact fun column h => h
  · intro c hc first hfirst
    exact hfirst.append (reads_filters p c hc)

end Predicate
end ObjectIntake.Event
