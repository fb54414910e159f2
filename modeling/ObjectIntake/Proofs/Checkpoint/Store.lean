import ObjectIntake.Proofs.Checkpoint.Saving
import ObjectIntake.Proofs.Json.Members
import ObjectIntake.Proofs.Text.Newline
import ObjectIntake.Proofs.Text.Utf8

/-! A checkpoint that was saved is loaded again. -/
namespace ObjectIntake.Checkpoint.Store
open Text

section Text

variable (depth : Nat) (path : FilePath) (token stamp : String)

theorem checkpointIn_fileText : checkpointIn (depth + 1) path (fileText (.str token) stamp) = .ok (.str token) := by
  have hitem : ∀ m ∈ [("checkpoint", Json.str token), ("updated_at", Json.str stamp)],
      Json.Restores (Json.readValue depth) m.2 := by
    intro m hm
    rcases List.mem_pair.mp hm with rfl | rfl
    · exact Json.readValue_str depth token
    · exact Json.readValue_str depth stamp
  have hread := Json.read_obj (List.cons_ne_nil _ _) hitem
  unfold checkpointIn fileText
  rw [hread]
  rfl

theorem return_notMem_fileText : '\r' ∉ (fileText (.str token) stamp).toList := by
  simp [fileText, Json.text, Json.memberTexts, Text.join, Json.return_notMem_stringText]

theorem load_of_find {t : FileTree} {place : Place}
    (h : t.find path.steps = .ok (.file place (Utf8.encode (fileText (.str token) stamp).toList))) :
    load (depth + 1) t path = .ok (.str token) := by
  unfold load
  rw [h]
  simp only [Utf8.decode_encode, unifyNewlines_eq_self (return_notMem_fileText token stamp), String.ofList_toList,
    checkpointIn_fileText]

end Text

/-- What was saved is loaded from then on. -/
theorem load_saveIn (depth : Nat) {hazards : Hazards} {t u : FileTree} {path : FilePath} {token stamp : String}
    (h : saveIn hazards t path (.str token) stamp = (u, .ok ())) :
    load (depth + 1) u path = .ok (.str token) := by
  cases saves_of_saveIn h with
  | replaced hfind => exact load_of_find depth path token stamp hfind

theorem load_save (depth : Nat) {path : FilePath} {token stamp : String} {scene : Scene FileTree}
    (h : ((save path (.str token) stamp).runIn scene).1 = .ok ()) :
    load (depth + 1) ((save path (.str token) stamp).runIn scene).2.world path = .ok (.str token) := by
  change (save path (.str token) stamp scene).1 = _ at h
  change load (depth + 1) (save path (.str token) stamp scene).2.world path = _
  unfold save at h ⊢
  cases hresult : saveIn calm scene.world path (.str token) stamp with
  | mk tree result =>
    rw [hresult] at h
    cases result with
    | ok _ => exact load_saveIn depth hresult
    | error e => cases h

end ObjectIntake.Checkpoint.Store
