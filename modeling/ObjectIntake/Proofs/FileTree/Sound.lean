import Mathlib.Data.List.Induction
import ObjectIntake.Proofs.FileTree.Directories

/-!
Where files and directories lie in directories, a way that only leads down ends at the place that it spells. The
directories that are made on such a way are above that place, so nothing comes to be at its end.
-/
namespace ObjectIntake.FileTree

variable {t u : FileTree} {start : Place} {steps names : List String} {found : Found} {content : List UInt8}

/-- Each file and each directory lies in a directory, and nothing is both. -/
structure Sound (t : FileTree) : Prop where
  above_directory : ∀ p name, t.isDirectory (p ++ [name]) = true → t.isDirectory p = true
  above_file : ∀ p name content, t.content? (p ++ [name]) = some content → t.isDirectory p = true
  apart : ∀ p content, t.content? p = some content → t.isDirectory p = false

theorem sound_empty : Sound {} where
  above_directory p name h := by
    have hroot : p ++ [name] = root := by simpa [isDirectory] using h
    have hlength := congrArg List.length hroot
    have hnil : p = [] := by simpa [root] using hlength
    rw [hnil]
    rfl
  above_file p name content h := by cases h
  apart p content h := by cases h

/-- Names that lead down. -/
def Descends (names : List String) : Prop := ∀ name ∈ names, name ≠ "/" ∧ name ≠ ".."

/-- A path that can be looked up: its names and the whole of it are not too long. -/
structure Fits (steps : List String) : Prop where
  names : ∀ name ∈ steps, fits name = true
  path : pathFits steps = true

/-- There is neither a file nor a directory. -/
def Absent (t : FileTree) (steps : List String) : Prop :=
  ∀ found, t.find steps = .ok found → ∃ above name, found = .vacant above name

def Found.place : Found → Place
  | .directory place => place
  | .file place _ => place
  | .vacant above name => above ++ [name]

theorem place_endOf (t : FileTree) (start : Place) (name : String) :
    (t.endOf start name).place = start ++ [name] := by
  unfold endOf
  split <;> rfl

section Walks

theorem walk_append {place : Place} (h : t.walk start names = .ok (.directory place)) (rest : List String) :
    t.walk start (names ++ rest) = t.walk place rest := by
  induction names generalizing start with
  | nil => cases h; rfl
  | cons name names ih =>
    obtain ⟨next, henters, hnext⟩ | ⟨rfl, -, hend⟩ := walk_cons_eq_ok h
    · rw [List.cons_append, henters.walk_eq]
      exact ih hnext
    · unfold endOf at hend
      split at hend <;> cases hend

theorem content?_of_walk {place : Place} (h : t.walk start names = .ok (.file place content)) :
    t.content? place = some content := by
  induction names generalizing start with
  | nil => cases h
  | cons name names ih =>
    obtain ⟨next, -, hnext⟩ | ⟨rfl, -, hend⟩ := walk_cons_eq_ok h
    · exact ih hnext
    · unfold endOf at hend
      split at hend
      next hcontent => cases hend; exact hcontent
      next => cases hend

theorem place_of_walk (hdown : Descends names) (h : t.walk start names = .ok found) :
    found.place = start ++ names := by
  induction names generalizing start with
  | nil => cases h; simp [Found.place]
  | cons name names ih =>
    obtain ⟨hname, hnames⟩ := List.forall_mem_cons.mp hdown
    obtain ⟨next, henters, hnext⟩ | ⟨rfl, -, rfl⟩ := walk_cons_eq_ok h
    · cases henters with
      | root => exact absurd rfl hname.1
      | up => exact absurd rfl hname.2
      | down => simpa using ih hnames hnext
    · exact place_endOf t start name

theorem isDirectory_of_walk {place : Place} (hdown : Descends names) (hstart : t.isDirectory start = true)
    (h : t.walk start names = .ok (.directory place)) : t.isDirectory place = true := by
  induction names generalizing start with
  | nil => cases h; exact hstart
  | cons name names ih =>
    obtain ⟨hname, hnames⟩ := List.forall_mem_cons.mp hdown
    obtain ⟨next, henters, hnext⟩ | ⟨rfl, -, hend⟩ := walk_cons_eq_ok h
    · cases henters with
      | root => exact absurd rfl hname.1
      | up => exact absurd rfl hname.2
      | down _ _ _ hdirectory => exact ih hnames hdirectory hnext
    · unfold endOf at hend
      split at hend <;> cases hend

/-- The way down to a directory is open. -/
theorem Sound.walk_directory (hsound : t.Sound) (hdown : Descends names) (hfits : ∀ name ∈ names, fits name = true)
    (h : t.isDirectory (start ++ names) = true) : t.walk start names = .ok (.directory (start ++ names)) := by
  induction names using List.reverseRecOn with
  | nil => rw [List.append_nil]; rfl
  | append_singleton names name ih =>
    rw [← List.append_assoc] at h ⊢
    have habove := ih (fun n hn => hdown n (List.mem_append_left _ hn))
      (fun n hn => hfits n (List.mem_append_left _ hn))
      (hsound.above_directory _ _ h)
    have hlast : name ∈ names ++ [name] := List.mem_append_right _ (List.mem_singleton_self _)
    rw [walk_append habove, (Enters.down (hdown name hlast).1 (hdown name hlast).2 (hfits name hlast) h).walk_eq []]
    rfl

/-- The way down to a file is open. -/
theorem Sound.walk_file (hsound : t.Sound) (hdown : Descends names) (hfits : ∀ name ∈ names, fits name = true)
    (hstart : t.isDirectory start = true) (h : t.content? (start ++ names) = some content) :
    t.walk start names = .ok (.file (start ++ names) content) := by
  have hne : names ≠ [] := by
    rintro rfl
    rw [List.append_nil] at h
    exact Bool.false_ne_true ((hsound.apart _ _ h).symm.trans hstart)
  obtain ⟨names, name, rfl⟩ := (List.eq_nil_or_concat names).resolve_left hne
  rw [List.concat_eq_append] at *
  rw [← List.append_assoc] at h ⊢
  have habove := hsound.walk_directory (fun n hn => hdown n (List.mem_append_left _ hn))
    (fun n hn => hfits n (List.mem_append_left _ hn)) (hsound.above_file _ _ _ h)
  have hlast : name ∈ names ++ [name] := List.mem_append_right _ (List.mem_singleton_self _)
  have hends : Ends t (start ++ names) name :=
    ⟨(hdown name hlast).1, (hdown name hlast).2, hfits name hlast, hsound.apart _ _ h⟩
  rw [walk_append habove, hends.walk_eq, endOf, h]

end Walks

/-- Steps that lead down, from the root if they begin with it. -/
def Downward (steps : List String) : Prop := Descends steps ∨ ∃ names, steps = "/" :: names ∧ Descends names

theorem Downward.of_concat {name : String} (h : Downward (steps ++ [name])) : Downward steps := by
  have hinit {names : List String} (hnames : Descends (names ++ [name])) : Descends names :=
    fun n hn => hnames n (List.mem_append_left _ hn)
  rcases h with h | ⟨names, hsteps, hnames⟩
  · exact .inl (hinit h)
  · cases steps with
    | nil => exact .inl (List.forall_mem_nil _)
    | cons first rest =>
      rw [List.cons_append, List.cons.injEq] at hsteps
      obtain ⟨rfl, rfl⟩ := hsteps
      exact .inr ⟨rest, rfl, hinit hnames⟩

/-- Where such steps start, and the names that follow. -/
theorem Downward.exists_start (h : Downward steps) : ∃ start names, steps = start ++ names ∧ Descends names ∧
    ∀ t : FileTree, t.isDirectory start = true ∧ t.walk [] steps = t.walk start names := by
  rcases h with h | ⟨names, rfl, h⟩
  · exact ⟨[], steps, rfl, h, fun t => ⟨rfl, rfl⟩⟩
  · exact ⟨root, names, rfl, h, fun t => ⟨rfl, Enters.root.walk_eq names⟩⟩

theorem place_of_find (hdown : Downward steps) (h : t.find steps = .ok found) : found.place = steps := by
  obtain ⟨start, names, rfl, hnames, hwalk⟩ := hdown.exists_start
  obtain ⟨-, -, h⟩ := find_eq_ok_iff.mp h
  rw [(hwalk t).2] at h
  exact place_of_walk hnames h

/-- Where nothing is too long a path leads nowhere for want of something on it. -/
theorem find_eq_error {e : FileFault} (hfits : Fits steps) (h : t.find steps = .error e) :
    e = .nullInName ∨ e = .notDirectory ∨ e = .notFound := by
  have hwalk {names : List String} (hfits : ∀ name ∈ names, fits name = true) {start : Place}
      (h : t.walk start names = .error e) : e = .notDirectory ∨ e = .notFound := by
    induction names generalizing start with
    | nil => cases h
    | cons name rest ih =>
      obtain ⟨hname, hrest⟩ := List.forall_mem_cons.mp hfits
      unfold walk at h
      rw [hname] at h
      split at h
      next => exact ih hrest h
      split at h
      next => exact ih hrest h
      split at h
      next hlong => cases hlong
      split at h
      next => exact ih hrest h
      split at h <;> cases h
      · exact .inl rfl
      · exact .inr rfl
  unfold find at h
  rw [hfits.path] at h
  split at h
  next => cases h; exact .inl rfl
  next =>
    split at h
    next hlong => cases hlong
    next => exact .inr (hwalk hfits.names h)

/-- In a sound tree what is there is found. -/
theorem Sound.exists_find (hsound : t.Sound) (hdown : Downward steps) (hfits : Fits steps)
    (hnull : steps.any hasNull = false) (h : t.isDirectory steps = true ∨ (t.content? steps).isSome = true) :
    t.find steps = .ok (.directory steps) ∨ ∃ content, t.find steps = .ok (.file steps content) := by
  obtain ⟨start, names, rfl, hnames, hwalk⟩ := hdown.exists_start
  have hnamesFit : ∀ name ∈ names, fits name = true := fun n hn => hfits.names n (List.mem_append_right _ hn)
  simp only [find_eq_ok_iff, hnull, hfits.path, (hwalk t).2, true_and]
  rcases h with h | h
  · exact .inl (hsound.walk_directory hnames hnamesFit h)
  · obtain ⟨content, hcontent⟩ := Option.isSome_iff_exists.mp h
    exact .inr ⟨content, hsound.walk_file hnames hnamesFit (hwalk t).1 hcontent⟩

/-- The directories that are made on the way to a directory have no longer names than it. -/
theorem isDirectory_ensureAbove {reversed : List String} (hdown : Downward reversed.reverse) {p : Place}
    (h : (t.ensureAbove reversed).1.isDirectory p = true) : t.isDirectory p = true ∨ p.length ≤ reversed.length := by
  have hmake {t u : FileTree} {steps : List String} (hdown : Downward steps) (hmade : t.makeDirectory steps = .ok u)
      (h : u.isDirectory p = true) : t.isDirectory p = true ∨ p.length ≤ steps.length := by
    obtain ⟨above, name, hfind, rfl⟩ := makeDirectory_eq_ok_iff.mp hmade
    have hplace : above ++ [name] = steps := place_of_find hdown hfind
    simp only [isDirectory, Bool.or_eq_true, List.contains_cons, hplace] at h ⊢
    rcases h with h | h | h
    · exact .inl (.inl h)
    · exact .inr (beq_iff_eq.mp h ▸ Nat.le_refl _)
    · exact .inl (.inr h)
  induction reversed with
  | nil => exact .inl h
  | cons name rest ih =>
    have hrest : Downward rest.reverse := (List.reverse_cons ▸ hdown).of_concat
    have hlonger {t : FileTree} (h : t.isDirectory p = true ∨ p.length ≤ rest.length) :
        t.isDirectory p = true ∨ p.length ≤ (name :: rest).length := h.imp_right (Nat.le_succ_of_le ·)
    have hmakeHere {t u : FileTree} (hmade : t.makeDirectory (name :: rest).reverse = .ok u)
        (h : u.isDirectory p = true) : t.isDirectory p = true ∨ p.length ≤ (name :: rest).length := by
      rw [← @List.length_reverse _ (name :: rest)]
      exact hmake hdown hmade h
    rcases hresult : t.ensureAbove (name :: rest) with ⟨u, r⟩
    rw [hresult] at h
    cases ensures_of_ensureAbove hresult with
    | made hmade => exact hmakeHere hmade h
    | kept => exact .inl h
    | blocked _ habove => rw [habove] at ih; exact hlonger (ih hrest h)
    | madeBelow _ habove hbelow =>
      rw [habove] at ih
      rcases hmakeHere hbelow h with h | h
      · exact hlonger (ih hrest h)
      · exact .inr h
    | keptBelow _ habove => rw [habove] at ih; exact hlonger (ih hrest h)

/-- Nothing comes to be at the end of a way when the directories on it are made. -/
theorem Absent.ensureDirectory {name : String} (habsent : t.Absent (steps ++ [name])) (hsound : t.Sound)
    (hdown : Downward (steps ++ [name])) (hfits : Fits (steps ++ [name])) :
    (t.ensureDirectory steps).1.Absent (steps ++ [name]) := by
  intro found hfind
  have hthere (h : t.isDirectory (steps ++ [name]) = true ∨ (t.content? (steps ++ [name])).isSome = true) : False := by
    rcases hsound.exists_find hdown hfits (find_eq_ok_iff.mp hfind).1 h with h | ⟨content, h⟩
    · obtain ⟨above, free, heq⟩ := habsent _ h
      cases heq
    · obtain ⟨above, free, heq⟩ := habsent _ h
      cases heq
  obtain ⟨start, names, hsteps, hnames, hwalk⟩ := hdown.exists_start
  have hway := (find_eq_ok_iff.mp hfind).2.2
  rw [(hwalk _).2] at hway
  have hplace := place_of_walk hnames hway
  rw [← hsteps] at hplace
  cases found with
  | vacant above free => exact ⟨above, free, rfl⟩
  | directory place =>
    obtain rfl : place = steps ++ [name] := hplace
    have hmade := isDirectory_of_walk hnames (hwalk _).1 hway
    rcases isDirectory_ensureAbove (by rw [List.reverse_reverse]; exact hdown.of_concat) hmade with h | h
    · exact absurd (.inl h) hthere
    · simp only [List.length_append, List.length_singleton, List.length_reverse] at h
      omega
  | file place content =>
    obtain rfl : place = steps ++ [name] := hplace
    have hcontent := content?_of_walk hway
    rw [FileTree.content?, FileTree.ensureDirectory, files_ensureAbove] at hcontent
    exact absurd (.inr (Option.isSome_of_eq_some hcontent)) hthere

end ObjectIntake.FileTree
