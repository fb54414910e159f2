import Mathlib.Data.List.Nodup
import ObjectIntake.Keyed

/-! Which entries stay in their places where values are put under keys one after the other. -/
namespace ObjectIntake.Keyed

variable {α : Type}

theorem merge_concat (m n : Keyed α) (key : String) (value : α) :
    m.merge (n ++ [(key, value)]) = (m.merge n).put key value := by
  rw [merge, merge, List.foldl_append]
  rfl

/-- Putting under a key that is kept is putting among what is kept. -/
theorem filter_put (p : String → Bool) (m : Keyed α) (key : String) (value : α) :
    (m.put key value).filter (fun e => p e.1) =
      if p key then Keyed.put (m.filter fun e => p e.1) key value else m.filter fun e => p e.1 := by
  induction m with
  | nil => cases hp : p key <;> simp [put, hp]
  | cons e rest ih =>
    obtain ⟨k, v⟩ := e
    by_cases hk : k = key
    · subst hk
      cases hp : p k <;> simp [put, hp]
    · cases hp : p k <;> cases hkey : p key <;> simp_all [put]

/-- What is kept of a merge is what is kept, merged. -/
theorem filter_merge (p : String → Bool) (m n : Keyed α) :
    (m.merge n).filter (fun e => p e.1) = Keyed.merge (m.filter fun e => p e.1) (n.filter fun e => p e.1) := by
  induction n generalizing m with
  | nil => rfl
  | cons e rest ih =>
    change ((m.put e.1 e.2).merge rest).filter _ = _
    rw [ih, filter_put]
    cases hp : p e.1 with
    | true =>
      simp only [List.filter_cons, hp, if_true]
      rfl
    | false =>
      simp only [List.filter_cons, hp]
      rfl

theorem mem_keys_merge {m n : Keyed α} {key : String} : key ∈ (m.merge n).keys ↔ key ∈ m.keys ∨ key ∈ n.keys := by
  induction n generalizing m with
  | nil => simp [merge, keys]
  | cons e rest ih =>
    change key ∈ (Keyed.merge (m.put e.1 e.2) rest).keys ↔ _
    rw [ih, keys_put]
    by_cases hmem : e.1 ∈ m.keys
    · rw [if_pos hmem]
      constructor
      · rintro (h | h)
        · exact .inl h
        · exact .inr (List.mem_cons_of_mem _ h)
      · rintro (h | h)
        · exact .inl h
        · rcases List.mem_cons.mp h with rfl | h
          · exact .inl hmem
          · exact .inr h
    · rw [if_neg hmem, List.mem_append, List.mem_singleton, or_assoc]
      exact or_congr_right List.mem_cons.symm

theorem get?_eq_none_iff {m : Keyed α} {key : String} : m.get? key = none ↔ key ∉ m.keys := by
  simp only [get?, keys, List.lookup_eq_none_iff, List.mem_map, not_exists, not_and, bne_iff_ne]
  exact forall₂_congr fun e _ => ⟨Ne.symm, Ne.symm⟩

/-- Where no key is put twice, what was put last counts. -/
theorem get?_merge {m n : Keyed α} (hn : n.keys.Nodup) (key : String) :
    (m.merge n).get? key = (n.get? key).or (m.get? key) := by
  induction n generalizing m with
  | nil => rfl
  | cons e rest ih =>
    obtain ⟨k, v⟩ := e
    obtain ⟨hk, hrest⟩ := List.nodup_cons.mp hn
    change (Keyed.merge (m.put k v) rest).get? key = _
    rw [ih hrest, get?_put]
    by_cases hkey : key = k
    · subst hkey
      have hnone : Keyed.get? rest key = none := get?_eq_none_iff.mpr hk
      rw [hnone, if_pos rfl]
      simp [get?]
    · simp [hkey, get?, List.lookup_cons, beq_eq_false_iff_ne.mpr hkey]

theorem nodup_keys_merge {m n : Keyed α} (hm : m.keys.Nodup) : (m.merge n).keys.Nodup := by
  induction n generalizing m with
  | nil => exact hm
  | cons e rest ih =>
    refine ih (m := m.put e.1 e.2) ?_
    rw [keys_put]
    split
    next => exact hm
    next hmem =>
      rw [← List.concat_eq_append]
      exact hm.concat hmem

theorem mem_put {m : Keyed α} {key : String} {value : α} {e : String × α} (h : e ∈ m.put key value) :
    e = (key, value) ∨ e ∈ m := by
  induction m with
  | nil => exact .inl (List.mem_singleton.mp h)
  | cons first rest ih =>
    unfold put at h
    split at h
    next hkey =>
      rcases List.mem_cons.mp h with h | h
      · exact .inl (hkey ▸ h)
      · exact .inr (List.mem_cons_of_mem _ h)
    next =>
      rcases List.mem_cons.mp h with rfl | h
      · exact .inr (List.mem_cons_self ..)
      · exact (ih h).imp_right (List.mem_cons_of_mem _)

theorem mem_merge {m n : Keyed α} {e : String × α} (h : e ∈ m.merge n) : e ∈ m ∨ e ∈ n := by
  induction n generalizing m with
  | nil => exact .inl h
  | cons first rest ih =>
    rcases ih (m := m.put first.1 first.2) h with h | h
    · rcases mem_put h with rfl | h
      · exact .inr (List.mem_cons_self ..)
      · exact .inl h
    · exact .inr (List.mem_cons_of_mem _ h)

theorem put_of_notMem {m : Keyed α} {key : String} (h : key ∉ m.keys) (value : α) :
    m.put key value = m ++ [(key, value)] := by
  induction m with
  | nil => rfl
  | cons e rest ih =>
    obtain ⟨hne, hrest⟩ : key ≠ e.1 ∧ key ∉ keys rest := not_or.mp fun hmem => h (List.mem_cons.mpr hmem)
    rw [put, if_neg (Ne.symm hne), ih hrest]
    rfl

theorem merge_of_disjoint {m n : Keyed α} (hn : n.keys.Nodup) (h : ∀ key ∈ n.keys, key ∉ m.keys) :
    m.merge n = m ++ n := by
  induction n generalizing m with
  | nil => exact (List.append_nil m).symm
  | cons e rest ih =>
    obtain ⟨hk, hrest⟩ := List.nodup_cons.mp hn
    have hput : m.put e.1 e.2 = m ++ [e] := put_of_notMem (h e.1 (List.mem_cons_self ..)) e.2
    change Keyed.merge (m.put e.1 e.2) rest = _
    rw [hput, ih hrest ?_, List.append_assoc]
    · rfl
    intro key hkey hmem
    rw [keys, List.map_append, List.mem_append] at hmem
    rcases hmem with hmem | hmem
    · exact h key (List.mem_cons_of_mem _ hkey) hmem
    · exact hk (List.mem_singleton.mp hmem ▸ hkey)

/-- A list that names no key twice is the collection of its entries. -/
theorem ofList_eq_self {m : Keyed α} (h : m.keys.Nodup) : ofList m = m :=
  merge_of_disjoint (m := []) h fun _ _ hmem => absurd hmem List.not_mem_nil

end ObjectIntake.Keyed
