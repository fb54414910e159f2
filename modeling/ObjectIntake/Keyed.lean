/-! Lists of values under text keys, in the order in which the keys were first put. -/
namespace ObjectIntake

abbrev Keyed (α : Type) := List (String × α)

namespace Keyed

def get? {α : Type} (m : Keyed α) (key : String) : Option α := m.lookup key

/-- The key keeps its place if it has one, and else goes to the end. -/
def put {α : Type} (m : Keyed α) (key : String) (value : α) : Keyed α :=
  match m with
  | [] => [(key, value)]
  | (k, v) :: rest => if k = key then (k, value) :: rest else (k, v) :: put rest key value

def ofList {α : Type} (entries : List (String × α)) : Keyed α :=
  entries.foldl (fun m e => put m e.1 e.2) []

def keys {α : Type} (m : Keyed α) : List String := m.map (·.1)

def merge {α : Type} (m n : Keyed α) : Keyed α := n.foldl (fun m e => put m e.1 e.2) m

theorem get?_put {α : Type} (m : Keyed α) (key : String) (value : α) (k : String) :
    (m.put key value).get? k = if k = key then some value else m.get? k := by
  induction m with
  | nil =>
      by_cases h : k = key
      · simp [put, get?, h]
      · simp [put, get?, h, List.lookup_cons, beq_eq_false_iff_ne.2 h]
  | cons e rest ih =>
      obtain ⟨j, v⟩ := e
      simp only [get?] at ih
      by_cases hj : j = key
      · subst hj
        by_cases h : k = j <;> simp [put, get?, List.lookup_cons, h, beq_eq_false_iff_ne.2]
      · by_cases h : k = j
        · subst h
          simp [put, get?, hj]
        · simp [put, get?, List.lookup_cons, hj, ih, beq_eq_false_iff_ne.2 h]

theorem keys_put {α : Type} (m : Keyed α) (key : String) (value : α) :
    (m.put key value).keys = if key ∈ m.keys then m.keys else m.keys ++ [key] := by
  induction m with
  | nil => simp [put, keys]
  | cons e rest ih =>
      obtain ⟨j, v⟩ := e
      simp only [keys] at ih
      by_cases hj : j = key
      · simp [put, keys, hj]
      · simp only [put, if_neg hj, keys, List.map_cons, ih, List.mem_cons, Ne.symm hj, false_or]
        by_cases h : key ∈ rest.map (·.1) <;> simp [h]

end Keyed
end ObjectIntake
