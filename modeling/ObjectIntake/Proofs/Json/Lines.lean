import ObjectIntake.Proofs.Json.Soundness
import ObjectIntake.Proofs.Text.Newline

/-!
A JSON text means the same however its lines end: line ends stand in gaps only, since strings cannot hold them as they
are. The grammar is carried over from one text to the other along any relation that keeps other characters and takes
gaps to gaps.
-/
namespace ObjectIntake.Json
open Text

theorem inline_of_isDigit {d : Char} (h : d.isDigit = true) : Inline d :=
  ⟨Numeral.ne_of_isDigit h rfl, Numeral.ne_of_isDigit h rfl⟩

section Inline

variable {cs text digits : List Char} {n : Nat}

theorem UnsignedText.inline {negative : Bool} {j : Json} (h : UnsignedText negative j text) :
    ∀ c ∈ text, Inline c := by
  have hdigits {ds : List Char} (hds : ∀ d ∈ ds, d.isDigit = true) : ∀ c ∈ ds, Inline c :=
    fun c hc => inline_of_isDigit (hds c hc)
  have he {e : Char} (he : e = 'e' ∨ e = 'E') : Inline e := by
    rcases he with rfl | rfl <;> decide
  cases h with
  | int h => exact hdigits h.digits
  | @float ds places exponentChars exponent h hplaces hexponent _ =>
    refine List.forall_mem_append.mpr ⟨hdigits h.digits, List.forall_mem_append.mpr ⟨?_, ?_⟩⟩
    · unfold fractionText
      split
      · exact List.forall_mem_nil _
      · exact List.forall_mem_cons.mpr ⟨by decide, hdigits hplaces⟩
    · cases hexponent with
      | absent => exact List.forall_mem_nil _
      | negative he' _ hds =>
        exact List.forall_mem_cons.mpr ⟨he he', List.forall_mem_cons.mpr ⟨by decide, hdigits hds⟩⟩
      | positive he' hsign _ hds =>
        refine List.forall_mem_cons.mpr ⟨he he', List.forall_mem_append.mpr ⟨?_, hdigits hds⟩⟩
        rcases hsign with rfl | rfl <;> exact inline_of_all rfl

theorem ScalarText.inline {j : Json} (h : ScalarText j text) : ∀ c ∈ text, Inline c := by
  cases h with
  | word h =>
    simp only [words, List.mem_cons, Prod.mk.injEq, List.not_mem_nil, or_false] at h
    rcases h with ⟨rfl, -⟩ | ⟨rfl, -⟩ | ⟨rfl, -⟩ | ⟨rfl, -⟩ | ⟨rfl, -⟩ | ⟨rfl, -⟩ <;> exact inline_of_all rfl
  | @number negative _ _ h =>
    refine List.forall_mem_append.mpr ⟨?_, h.inline⟩
    cases negative <;> exact inline_of_all rfl
  | string h =>
    exact List.forall_mem_cons.mpr ⟨by decide, List.forall_mem_append.mpr ⟨h.inline, inline_of_all rfl⟩⟩

end Inline

/-- Characters that are in no line end are kept, and gaps are kept as gaps. -/
structure Transports (R : List Char → List Char → Prop) : Prop where
  inline : ∀ {c x y}, Inline c → R (c :: x) y → ∃ y', y = c :: y' ∧ R x y'
  gap : ∀ {gap x y}, Gap gap → R (gap ++ x) y → ∃ gap' y', y = gap' ++ y' ∧ Gap gap' ∧ R x y'

section Transport

variable {R : List Char → List Char → Prop} {x y text : List Char}

theorem Transports.append (hR : Transports R) (htext : ∀ c ∈ text, Inline c) (h : R (text ++ x) y) :
    ∃ y', y = text ++ y' ∧ R x y' := by
  induction text generalizing y with
  | nil => exact ⟨y, rfl, h⟩
  | cons c text ih =>
    obtain ⟨hc, htext⟩ := List.forall_mem_cons.mp htext
    obtain ⟨z, rfl, hz⟩ := hR.inline hc h
    obtain ⟨y', rfl, hy⟩ := ih htext hz
    exact ⟨y', rfl, hy⟩

/-- The texts of a grammar are carried over whatever follows them. -/
def Carried {α : Type} (R : List Char → List Char → Prop) (grammar : α → List Char → Prop) : Prop :=
  ∀ a body x y, grammar a body → R (body ++ x) y → ∃ body' y', y = body' ++ y' ∧ grammar a body' ∧ R x y'

theorem carried_scalarText (hR : Transports R) : Carried R ScalarText := by
  intro j body x y h hxy
  obtain ⟨y', rfl, hy⟩ := hR.append h.inline hxy
  exact ⟨body, y', rfl, h, hy⟩

theorem carried_memberText {grammar : Json → List Char → Prop} (hR : Transports R) (hg : Carried R grammar) :
    Carried R (MemberText grammar) := by
  intro m body x y h hxy
  cases h with
  | @mk cs key before after text j hkey hbefore hafter hvalue =>
    have hassoc : '"' :: (key ++ '"' :: (before ++ ':' :: (after ++ text))) ++ x =
        ('"' :: (key ++ ['"'])) ++ (before ++ ':' :: (after ++ (text ++ x))) := by simp
    rw [hassoc] at hxy
    have hquoted : ∀ c ∈ '"' :: (key ++ ['"']), Inline c :=
      List.forall_mem_cons.mpr ⟨by decide, List.forall_mem_append.mpr ⟨hkey.inline, inline_of_all rfl⟩⟩
    obtain ⟨y₁, rfl, hy₁⟩ := hR.append hquoted hxy
    obtain ⟨before', y₂, rfl, hbefore', hy₂⟩ := hR.gap hbefore hy₁
    obtain ⟨y₃, rfl, hy₃⟩ := hR.inline (show Inline ':' by decide) hy₂
    obtain ⟨after', y₄, rfl, hafter', hy₄⟩ := hR.gap hafter hy₃
    obtain ⟨text', y₅, rfl, htext', hy₅⟩ := hg _ _ _ _ hvalue hy₄
    exact ⟨_, y₅, by simp, .mk hkey hbefore' hafter' htext', hy₅⟩

theorem carried_separatedText {α : Type} {grammar : α → List Char → Prop} {items : List α} {body : List Char}
    (hR : Transports R) (hg : Carried R grammar) (h : SeparatedText grammar items body) (hxy : R (body ++ x) y) :
    ∃ body' y', y = body' ++ y' ∧ SeparatedText grammar items body' ∧ R x y' := by
  induction h generalizing y with
  | @last a text gap h hgap =>
    rw [List.append_assoc] at hxy
    obtain ⟨text', y₁, rfl, htext', hy₁⟩ := hg _ _ _ _ h hxy
    obtain ⟨gap', y₂, rfl, hgap', hy₂⟩ := hR.gap hgap hy₁
    exact ⟨text' ++ gap', y₂, by simp, .last htext' hgap', hy₂⟩
  | @cons a items text before after tail h hbefore hafter htail ih =>
    have hassoc : text ++ (before ++ ',' :: (after ++ tail)) ++ x =
        text ++ (before ++ ',' :: (after ++ (tail ++ x))) := by simp
    rw [hassoc] at hxy
    obtain ⟨text', y₁, rfl, htext', hy₁⟩ := hg _ _ _ _ h hxy
    obtain ⟨before', y₂, rfl, hbefore', hy₂⟩ := hR.gap hbefore hy₁
    obtain ⟨y₃, rfl, hy₃⟩ := hR.inline (show Inline ',' by decide) hy₂
    obtain ⟨after', y₄, rfl, hafter', hy₄⟩ := hR.gap hafter hy₃
    obtain ⟨tail', y₅, rfl, htail', hy₅⟩ := ih hy₄
    exact ⟨_, y₅, by simp, .cons htext' hbefore' hafter' htail', hy₅⟩

/-- Brackets are carried over with a gap between them. -/
theorem carried_emptyBrackets {opening closing : Char} {gap : List Char} (hR : Transports R) (hopening : Inline opening)
    (hclosing : Inline closing) (hgap : Gap gap) (hxy : R (opening :: (gap ++ [closing]) ++ x) y) :
    ∃ gap' y', y = opening :: (gap' ++ [closing]) ++ y' ∧ Gap gap' ∧ R x y' := by
  rw [List.cons_append, List.append_assoc, List.singleton_append] at hxy
  obtain ⟨y₁, rfl, hy₁⟩ := hR.inline hopening hxy
  obtain ⟨gap', y₂, rfl, hgap', hy₂⟩ := hR.gap hgap hy₁
  obtain ⟨y₃, rfl, hy₃⟩ := hR.inline hclosing hy₂
  exact ⟨gap', y₃, by simp, hgap', hy₃⟩

/-- Brackets are carried over with a gap and items between them. -/
theorem carried_brackets {α : Type} {grammar : α → List Char → Prop} {items : List α} {opening closing : Char}
    {gap body : List Char} (hR : Transports R) (hg : Carried R grammar) (hopening : Inline opening)
    (hclosing : Inline closing) (hgap : Gap gap) (h : SeparatedText grammar items body)
    (hxy : R (opening :: (gap ++ (body ++ [closing])) ++ x) y) :
    ∃ gap' body' y', y = opening :: (gap' ++ (body' ++ [closing])) ++ y' ∧ Gap gap' ∧
      SeparatedText grammar items body' ∧ R x y' := by
  rw [List.cons_append, List.append_assoc, List.append_assoc, List.singleton_append] at hxy
  obtain ⟨y₁, rfl, hy₁⟩ := hR.inline hopening hxy
  obtain ⟨gap', y₂, rfl, hgap', hy₂⟩ := hR.gap hgap hy₁
  obtain ⟨body', y₃, rfl, hbody', hy₃⟩ := carried_separatedText hR hg h hy₂
  obtain ⟨y₄, rfl, hy₄⟩ := hR.inline hclosing hy₃
  exact ⟨gap', body', y₄, by simp, hgap', hbody', hy₄⟩

theorem carried_nestedText {grammar : Json → List Char → Prop} (hR : Transports R) (hg : Carried R grammar) :
    Carried R (NestedText grammar) := by
  intro j body x y h hxy
  cases h with
  | scalar h =>
    obtain ⟨body', y', rfl, hbody', hy'⟩ := carried_scalarText hR _ _ _ _ h hxy
    exact ⟨body', y', rfl, .scalar hbody', hy'⟩
  | noItems hgap =>
    obtain ⟨gap', y', rfl, hgap', hy'⟩ := carried_emptyBrackets hR (by decide) (by decide) hgap hxy
    exact ⟨_, y', rfl, .noItems hgap', hy'⟩
  | items hgap h =>
    obtain ⟨gap', body', y', rfl, hgap', hbody', hy'⟩ := carried_brackets hR hg (by decide) (by decide) hgap h hxy
    exact ⟨_, y', rfl, .items hgap' hbody', hy'⟩
  | noMembers hgap =>
    obtain ⟨gap', y', rfl, hgap', hy'⟩ := carried_emptyBrackets hR (by decide) (by decide) hgap hxy
    exact ⟨_, y', rfl, .noMembers hgap', hy'⟩
  | members hgap h =>
    obtain ⟨gap', body', y', rfl, hgap', hbody', hy'⟩ :=
      carried_brackets hR (carried_memberText hR hg) (by decide) (by decide) hgap h hxy
    exact ⟨_, y', rfl, .members hgap' hbody', hy'⟩

theorem carried_valueText (hR : Transports R) (depth : Nat) : Carried R (ValueText depth) := by
  induction depth with
  | zero => exact carried_scalarText hR
  | succ depth ih => exact carried_nestedText hR ih

theorem Document.transport {j : Json} (hR : Transports R) (hend : ∀ y, R [] y → y = []) (h : Document x j)
    (hxy : R x y) : Document y j := by
  obtain ⟨depth, before, body, after, hbody, hbefore, hafter, rfl⟩ := h
  obtain ⟨before', y₁, rfl, hbefore', hy₁⟩ := hR.gap hbefore hxy
  obtain ⟨body', y₂, rfl, hbody', hy₂⟩ := carried_valueText hR depth _ _ _ _ hbody hy₁
  rw [← List.append_nil after] at hy₂
  obtain ⟨after', y₃, rfl, hafter', hy₃⟩ := hR.gap hafter hy₂
  rw [hend y₃ hy₃, List.append_nil]
  exact ⟨depth, before', body', after', hbody', hbefore', hafter', rfl⟩

end Transport

theorem gap_unifyNewlines {gap x : List Char} (hgap : Gap gap) :
    ∃ gap', unifyNewlines (gap ++ x) = gap' ++ unifyNewlines x ∧ Gap gap' := by
  induction gap with
  | nil => exact ⟨[], rfl, List.forall_mem_nil _⟩
  | cons c gap ih =>
    obtain ⟨hc, hgap⟩ := List.forall_mem_cons.mp hgap
    obtain ⟨gap', hgap', hall⟩ := ih hgap
    by_cases hreturn : c = '\r'
    · subst hreturn
      by_cases hnext : (gap ++ x).head? = some '\n'
      · -- The two are one line end, which the rest of the gap starts with already.
        obtain ⟨tail, htail⟩ : ∃ tail, gap ++ x = '\n' :: tail := by
          cases hlist : gap ++ x with
          | nil => rw [hlist] at hnext; cases hnext
          | cons d tail => rw [hlist] at hnext; cases hnext; exact ⟨tail, rfl⟩
        refine ⟨gap', ?_, hall⟩
        rw [List.cons_append, htail, unifyNewlines_return_lineFeed, ← htail, hgap']
      · refine ⟨'\n' :: gap', ?_, List.forall_mem_cons.mpr ⟨rfl, hall⟩⟩
        have hreturn : unifyNewlines ('\r' :: (gap ++ x)) = '\n' :: unifyNewlines (gap ++ x) :=
          unifyNewlines_return fun c hc heq => hnext (heq ▸ hc)
        rw [List.cons_append, hreturn, hgap', List.cons_append]
    · refine ⟨c :: gap', ?_, List.forall_mem_cons.mpr ⟨hc, hall⟩⟩
      rw [List.cons_append, unifyNewlines_cons hreturn, hgap', List.cons_append]

theorem transports_unifyNewlines : Transports fun x y => unifyNewlines x = y where
  inline {c x y} hc h := ⟨unifyNewlines x, by rw [← h, unifyNewlines_cons hc.2], rfl⟩
  gap {gap x y} hgap h := by
    obtain ⟨gap', hgap', hall⟩ := gap_unifyNewlines hgap
    exact ⟨gap', unifyNewlines x, h ▸ hgap', hall, rfl⟩

theorem transports_of_unifyNewlines : Transports fun x y => unifyNewlines y = x where
  inline {c x y} hc h := by
    rcases unifyNewlines_eq_cons h with ⟨y', rfl, -, hy'⟩ | ⟨rfl, -⟩
    · exact ⟨y', rfl, hy'⟩
    · exact absurd rfl hc.1
  gap {gap x y} hgap h := by
    induction gap generalizing y with
    | nil => exact ⟨[], y, rfl, List.forall_mem_nil _, h⟩
    | cons c gap ih =>
      obtain ⟨hc, hrest⟩ := List.forall_mem_cons.mp hgap
      rcases unifyNewlines_eq_cons h with ⟨y', rfl, -, hy'⟩ | ⟨rfl, y', rfl | rfl, hy'⟩
      · obtain ⟨gap', z, rfl, hall, hz⟩ := ih hrest hy'
        exact ⟨c :: gap', z, rfl, List.forall_mem_cons.mpr ⟨hc, hall⟩, hz⟩
      · obtain ⟨gap', z, rfl, hall, hz⟩ := ih hrest hy'
        exact ⟨'\r' :: gap', z, rfl, List.forall_mem_cons.mpr ⟨rfl, hall⟩, hz⟩
      · obtain ⟨gap', z, rfl, hall, hz⟩ := ih hrest hy'
        exact ⟨'\r' :: '\n' :: gap', z, rfl,
          List.forall_mem_cons.mpr ⟨rfl, List.forall_mem_cons.mpr ⟨rfl, hall⟩⟩, hz⟩

/-- A text is a document for the same values when its line ends are unified. -/
theorem document_unifyNewlines_iff {s : List Char} {j : Json} : Document (unifyNewlines s) j ↔ Document s j := by
  constructor
  · intro h
    exact h.transport transports_of_unifyNewlines (fun y hy => unifyNewlines_eq_nil hy) rfl
  · intro h
    exact h.transport transports_unifyNewlines (fun y hy => hy.symm) rfl

theorem openings_unifyNewlines (s : List Char) : openings (unifyNewlines s) = openings s := by
  induction s using unifyNewlines.induct with
  | case1 => rfl
  | case2 rest ih => simpa [unifyNewlines, openings] using ih
  | case3 rest hnext ih =>
    rw [unifyNewlines_return fun c hc heq => ?_]
    · simpa [openings] using ih
    · subst heq
      obtain ⟨tail, rfl⟩ := List.head?_eq_some_iff.mp hc
      exact hnext tail rfl
  | case4 c rest _ hreturn ih =>
    rw [unifyNewlines_cons hreturn]
    unfold openings at ih ⊢
    rw [List.countP_cons, List.countP_cons, ih]

/-- What follows in the unified text comes from what follows in the text. -/
theorem exists_of_unifyNewlines_append {s before after : List Char} (h : unifyNewlines s = before ++ after) :
    ∃ first rest, s = first ++ rest ∧ unifyNewlines rest = after := by
  induction before generalizing s with
  | nil => exact ⟨[], s, rfl, h⟩
  | cons c before ih =>
    rcases unifyNewlines_eq_cons h with ⟨s', rfl, -, hs'⟩ | ⟨-, s', rfl | rfl, hs'⟩
    · obtain ⟨first, rest, rfl, hrest⟩ := ih hs'
      exact ⟨c :: first, rest, rfl, hrest⟩
    · obtain ⟨first, rest, rfl, hrest⟩ := ih hs'
      exact ⟨'\r' :: first, rest, rfl, hrest⟩
    · obtain ⟨first, rest, rfl, hrest⟩ := ih hs'
      exact ⟨'\r' :: '\n' :: first, rest, rfl, hrest⟩

theorem LongNumber.of_unifyNewlines {n : Nat} {s : List Char} (h : LongNumber n (unifyNewlines s)) :
    LongNumber n s := by
  obtain ⟨hn, ds, ⟨before, after, hunified⟩, hdigits, hlength⟩ := h
  rw [List.append_assoc] at hunified
  obtain ⟨first, rest, rfl, hrest⟩ := exists_of_unifyNewlines_append hunified.symm
  obtain ⟨tail, rfl, -⟩ :=
    transports_of_unifyNewlines.append (fun d hd => inline_of_isDigit (hdigits d hd)) hrest
  exact ⟨hn, ds, ⟨first, tail, List.append_assoc ..⟩, hdigits, hlength⟩

end ObjectIntake.Json
