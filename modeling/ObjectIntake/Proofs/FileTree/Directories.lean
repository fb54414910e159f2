import ObjectIntake.Proofs.FileTree
import ObjectIntake.Text.Search

/-! Making directories leaves the files alone, and made once more they change nothing. -/
namespace ObjectIntake.FileTree
open Text

variable {t u : FileTree} {start : Place} {steps : List String} {found : Found}

/-- The name leads from the directory `start` to another directory. -/
inductive Enters (t : FileTree) (start : Place) : String → Place → Prop where
  | root : Enters t start "/" FileTree.root
  | up : Enters t start ".." (above start)
  | down {name : String} (hroot : name ≠ "/") (hup : name ≠ "..") (hfits : fits name = true)
      (hdirectory : t.isDirectory (start ++ [name]) = true) : Enters t start name (start ++ [name])

/-- The name is the last of a way, and nothing that it could name is a directory. -/
structure Ends (t : FileTree) (start : Place) (name : String) : Prop where
  root : name ≠ "/"
  up : name ≠ ".."
  fits : fits name = true
  directory : t.isDirectory (start ++ [name]) = false

/-- What a last name that is not a directory names. -/
def endOf (t : FileTree) (start : Place) (name : String) : Found :=
  match t.content? (start ++ [name]) with
  | some content => .file (start ++ [name]) content
  | none => .vacant start name

theorem Enters.walk_eq {name : String} {next : Place} (h : Enters t start name next) (rest : List String) :
    t.walk start (name :: rest) = t.walk next rest := by
  cases h with
  | root => simp [walk]
  | up => simp [walk]
  | down hroot hup hfits hdirectory => simp [walk, hroot, hup, hfits, hdirectory]

theorem Ends.walk_eq {name : String} (h : Ends t start name) : t.walk start [name] = .ok (t.endOf start name) := by
  unfold walk endOf
  rw [if_neg h.root, if_neg h.up, h.fits, h.directory]
  cases t.content? (start ++ [name]) <;> rfl

/-- Every name on a way that leads somewhere leads to a directory, the last one apart. -/
theorem walk_cons_eq_ok {name : String} {rest : List String} (h : t.walk start (name :: rest) = .ok found) :
    (∃ next, Enters t start name next ∧ t.walk next rest = .ok found) ∨
      rest = [] ∧ Ends t start name ∧ found = t.endOf start name := by
  by_cases hroot : name = "/"
  · subst hroot
    exact .inl ⟨_, .root, Enters.root.walk_eq rest ▸ h⟩
  by_cases hup : name = ".."
  · subst hup
    exact .inl ⟨_, .up, Enters.up.walk_eq rest ▸ h⟩
  cases hfits : fits name with
  | false => simp [walk, hroot, hup, hfits] at h
  | true =>
    cases hdirectory : t.isDirectory (start ++ [name]) with
    | true =>
      have henters := Enters.down hroot hup hfits hdirectory
      exact .inl ⟨_, henters, henters.walk_eq rest ▸ h⟩
    | false =>
      have hends : Ends t start name := ⟨hroot, hup, hfits, hdirectory⟩
      cases rest with
      | nil =>
        rw [hends.walk_eq] at h
        cases h
        exact .inr ⟨rfl, hends, rfl⟩
      | cons next rest =>
        unfold walk at h
        rw [if_neg hroot, if_neg hup, hfits, hdirectory] at h
        cases hcontent : t.content? (start ++ [name]) <;> simp [hcontent] at h

theorem Enters.mono {name : String} {next : Place} (h : Enters t start name next)
    (hgrow : ∀ p, t.isDirectory p = true → u.isDirectory p = true) : Enters u start name next := by
  cases h with
  | root => exact .root
  | up => exact .up
  | down hroot hup hfits hdirectory => exact .down hroot hup hfits (hgrow _ hdirectory)

theorem walk_of_concat {name : String} (h : t.walk start (steps ++ [name]) = .ok found) :
    ∃ place, t.walk start steps = .ok (.directory place) := by
  induction steps generalizing start with
  | nil => exact ⟨start, rfl⟩
  | cons first rest ih =>
    obtain ⟨next, henters, hrest⟩ | ⟨hnil, -, -⟩ := walk_cons_eq_ok h
    · obtain ⟨place, hplace⟩ := ih hrest
      exact ⟨place, henters.walk_eq rest ▸ hplace⟩
    · simp at hnil

/-- Where a name was free there is the directory with that name once it is made. -/
theorem walk_of_vacant {place : Place} {name : String} (h : t.walk start steps = .ok (.vacant place name))
    (hgrow : ∀ p, t.isDirectory p = true → u.isDirectory p = true) (hmade : u.isDirectory (place ++ [name]) = true) :
    u.walk start steps = .ok (.directory (place ++ [name])) := by
  induction steps generalizing start with
  | nil => cases h
  | cons first rest ih =>
    obtain ⟨next, henters, hrest⟩ | ⟨rfl, hends, hend⟩ := walk_cons_eq_ok h
    · rw [(henters.mono hgrow).walk_eq rest]
      exact ih hrest
    · unfold endOf at hend
      split at hend <;> cases hend
      exact (Enters.down hends.root hends.up hends.fits hmade).walk_eq []

theorem join_prefix_join_concat (names : List String) (name : String) :
    (join "/" names).toList <+: (join "/" (names ++ [name])).toList := by
  induction names with
  | nil => simp [join]
  | cons first rest ih =>
    cases rest with
    | nil => simp [join, String.intercalate_cons_cons]
    | cons next rest =>
      simp only [join, List.cons_append, String.intercalate_cons_cons, String.toList_append] at ih ⊢
      exact (List.prefix_append_right_inj _).mpr ih

theorem pathFits_of_concat {name : String} (h : pathFits (steps ++ [name]) = true) : pathFits steps = true := by
  obtain ⟨tail, htail⟩ := join_prefix_join_concat steps name
  simp only [pathFits, decide_eq_true_eq, Utf8.encode, ← htail, List.flatMap_append, List.length_append] at h
  exact decide_eq_true (Nat.le_of_add_right_le h)

/-- A path is looked up name by name unless it cannot be one. -/
theorem find_eq_ok_iff : t.find steps = .ok found ↔
    steps.any hasNull = false ∧ pathFits steps = true ∧ t.walk [] steps = .ok found := by
  unfold find
  cases steps.any hasNull <;> cases pathFits steps <;> simp

/-- What has a name lies in a directory. -/
theorem find_of_concat {name : String} (h : t.find (steps ++ [name]) = .ok found) :
    ∃ place, t.find steps = .ok (.directory place) := by
  obtain ⟨hnull, hfits, hwalk⟩ := find_eq_ok_iff.mp h
  obtain ⟨place, hplace⟩ := walk_of_concat hwalk
  simp only [List.any_append, Bool.or_eq_false_iff] at hnull
  exact ⟨place, find_eq_ok_iff.mpr ⟨hnull.1, pathFits_of_concat hfits, hplace⟩⟩

theorem isDirectoryAt_iff : t.isDirectoryAt steps = true ↔ ∃ place, t.find steps = .ok (.directory place) := by
  unfold isDirectoryAt
  constructor
  · intro h
    split at h
    next place hfind => exact ⟨place, hfind⟩
    next => cases h
  · rintro ⟨place, hfind⟩
    rw [hfind]

/-- A directory is made where a name is free. -/
theorem makeDirectory_eq_ok_iff : t.makeDirectory steps = .ok u ↔
    ∃ place name, t.find steps = .ok (.vacant place name) ∧
      u = { t with directories := (place ++ [name]) :: t.directories } := by
  unfold makeDirectory
  constructor
  · intro h
    split at h
    next => cases h
    next place name hfind =>
      cases h
      exact ⟨place, name, hfind, rfl⟩
    next => cases h
  · rintro ⟨place, name, hfind, rfl⟩
    rw [hfind]

theorem isDirectoryAt_makeDirectory (h : t.makeDirectory steps = .ok u) : u.isDirectoryAt steps = true := by
  obtain ⟨place, name, hfind, rfl⟩ := makeDirectory_eq_ok_iff.mp h
  obtain ⟨hnull, hfits, hwalk⟩ := find_eq_ok_iff.mp hfind
  refine isDirectoryAt_iff.mpr ⟨place ++ [name], find_eq_ok_iff.mpr ⟨hnull, hfits, walk_of_vacant hwalk ?_ ?_⟩⟩
  · intro p hp
    simp only [isDirectory, Bool.or_eq_true, List.contains_cons] at hp ⊢
    exact hp.imp_right .inr
  · simp [isDirectory]

/-- How a directory comes to be ensured, and what the answer is. -/
inductive Ensures (t : FileTree) (name : String) (rest : List String) :
    FileTree → Except FileFault Unit → Prop where
  | made {u : FileTree} (h : t.makeDirectory (name :: rest).reverse = .ok u) : Ensures t name rest u (.ok ())
  | kept {e : FileFault} {r : Except FileFault Unit} (h : t.makeDirectory (name :: rest).reverse = .error e)
      (hother : e ≠ .notFound) (hr : r = if t.isDirectoryAt (name :: rest).reverse then .ok () else .error e) :
      Ensures t name rest t r
  | blocked {u : FileTree} {e : FileFault} (h : t.makeDirectory (name :: rest).reverse = .error .notFound)
      (habove : t.ensureAbove rest = (u, .error e)) : Ensures t name rest u (.error e)
  | madeBelow {u v : FileTree} (h : t.makeDirectory (name :: rest).reverse = .error .notFound)
      (habove : t.ensureAbove rest = (v, .ok ())) (hbelow : v.makeDirectory (name :: rest).reverse = .ok u) :
      Ensures t name rest u (.ok ())
  | keptBelow {u : FileTree} {e : FileFault} {r : Except FileFault Unit}
      (h : t.makeDirectory (name :: rest).reverse = .error .notFound) (habove : t.ensureAbove rest = (u, .ok ()))
      (hbelow : u.makeDirectory (name :: rest).reverse = .error e)
      (hr : r = if u.isDirectoryAt (name :: rest).reverse then .ok () else .error e) : Ensures t name rest u r

theorem ensures_of_ensureAbove {name : String} {rest : List String} {r : Except FileFault Unit}
    (h : t.ensureAbove (name :: rest) = (u, r)) : Ensures t name rest u r := by
  unfold ensureAbove at h
  dsimp only at h
  split at h
  next hmade =>
    cases h
    exact .made hmade
  next hmade =>
    split at h
    next habove =>
      cases h
      exact .blocked hmade habove
    next habove =>
      split at h
      next hbelow =>
        cases h
        exact .madeBelow hmade habove hbelow
      next hbelow =>
        cases h
        exact .keptBelow hmade habove hbelow rfl
  next hother hmade =>
    cases h
    exact .kept hmade hother rfl

/-- No file is made, changed or lost. -/
theorem files_ensureAbove (t : FileTree) (reversed : List String) : (t.ensureAbove reversed).1.files = t.files := by
  have hmake {t u : FileTree} {steps : List String} (h : t.makeDirectory steps = .ok u) : u.files = t.files := by
    obtain ⟨place, name, -, rfl⟩ := makeDirectory_eq_ok_iff.mp h
    rfl
  induction reversed with
  | nil => rfl
  | cons name rest ih =>
    rcases hresult : t.ensureAbove (name :: rest) with ⟨u, r⟩
    cases ensures_of_ensureAbove hresult with
    | made h => exact hmake h
    | kept => rfl
    | blocked _ habove => rw [habove] at ih; exact ih
    | madeBelow _ habove hbelow => rw [habove] at ih; exact (hmake hbelow).trans ih
    | keptBelow _ habove => rw [habove] at ih; exact ih

theorem isDirectoryAt_of_error {reversed : List String} {e : FileFault}
    (h : t.ensureAbove reversed = (u, .error e)) : u.isDirectoryAt reversed.reverse = false := by
  induction reversed generalizing u e with
  | nil => cases h
  | cons name rest ih =>
    cases ensures_of_ensureAbove h with
    | kept _ _ hr =>
      split at hr
      next => cases hr
      next hno => exact Bool.eq_false_iff.mpr hno
    | blocked _ habove =>
      -- What is not a directory has nothing below it.
      have hno := ih habove
      rw [Bool.eq_false_iff, Ne, isDirectoryAt_iff] at hno ⊢
      rintro ⟨place, hfind⟩
      rw [List.reverse_cons] at hfind
      exact hno (find_of_concat hfind)
    | keptBelow _ _ _ hr =>
      split at hr
      next => cases hr
      next hno => exact Bool.eq_false_iff.mpr hno

theorem ensureAbove_of_isDirectoryAt {reversed : List String} (h : t.isDirectoryAt reversed.reverse = true) :
    t.ensureAbove reversed = (t, .ok ()) := by
  cases reversed with
  | nil => rfl
  | cons name rest =>
    obtain ⟨place, hfind⟩ := isDirectoryAt_iff.mp h
    have hmake : t.makeDirectory (name :: rest).reverse = .error .exists := by
      rw [makeDirectory, hfind]
    simp only [ensureAbove, hmake, h, if_true]

theorem fst_ensureAbove_of_error {name : String} {rest : List String} {e : FileFault}
    (h : t.makeDirectory (name :: rest).reverse = .error e) (habove : (t.ensureAbove rest).1 = t) :
    (t.ensureAbove (name :: rest)).1 = t := by
  rcases hresult : t.ensureAbove (name :: rest) with ⟨u, r⟩
  cases ensures_of_ensureAbove hresult with
  | made hmade => rw [h] at hmade; cases hmade
  | kept => rfl
  | blocked _ hrest => rw [hrest] at habove; exact habove
  | madeBelow _ hrest hbelow =>
    rw [hrest] at habove
    subst habove
    rw [h] at hbelow
    cases hbelow
  | keptBelow _ hrest => rw [hrest] at habove; exact habove

/-- What could be made was made the first time. -/
theorem ensureAbove_idempotent (t : FileTree) (reversed : List String) :
    ((t.ensureAbove reversed).1.ensureAbove reversed).1 = (t.ensureAbove reversed).1 := by
  induction reversed with
  | nil => rfl
  | cons name rest ih =>
    rcases hresult : t.ensureAbove (name :: rest) with ⟨u, r⟩
    cases ensures_of_ensureAbove hresult with
    | made h => rw [ensureAbove_of_isDirectoryAt (isDirectoryAt_makeDirectory h)]
    | kept => rw [hresult]
    | blocked _ habove =>
      rw [habove] at ih
      have hno := isDirectoryAt_of_error habove
      cases hmake : u.makeDirectory (name :: rest).reverse with
      | error e => exact fst_ensureAbove_of_error hmake ih
      | ok v =>
        obtain ⟨place, free, hfind, -⟩ := makeDirectory_eq_ok_iff.mp hmake
        rw [List.reverse_cons] at hfind
        rw [isDirectoryAt_iff.mpr (find_of_concat hfind)] at hno
        cases hno
    | madeBelow _ _ hbelow => rw [ensureAbove_of_isDirectoryAt (isDirectoryAt_makeDirectory hbelow)]
    | keptBelow _ habove hbelow =>
      rw [habove] at ih
      exact fst_ensureAbove_of_error hbelow ih

end ObjectIntake.FileTree
