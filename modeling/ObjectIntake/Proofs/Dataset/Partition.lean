import ObjectIntake.Dataset.Partition
import ObjectIntake.Proofs.Text.Search
import ObjectIntake.Settings.Source

/-!
Partition columns. A column is told from the segments of one path, and its values are found in the whole text of
every path. Both mean the same segment: a marker that some segment holds has no slash in it.
-/
namespace ObjectIntake.Dataset
open Text Settings

/-- How many segments of a path hold the marker of a key. -/
def levels (key path : String) : Nat := ((split '/' path).filter fun segment => contains segment (key ++ "=")).length

namespace PartitionColumn

variable {c : PartitionColumn} {path key : String}

/-- What a path says of a column: the text after the first marker in the first of its segments that holds one. -/
inductive Says (c : PartitionColumn) (path : String) : Option String → Prop where
  | value {before after : List String} {segment value : String} {start : List Char}
      (hpath : split '/' path = before ++ segment :: after)
      (hbefore : ∀ other ∈ before, contains other c.marker = false)
      (hvalue : FirstAfter c.marker.toList segment.toList start value.toList) : Says c path (some value)
  | nothing (h : ∀ segment ∈ split '/' path, contains segment c.marker = false) : Says c path none

theorem contains_ofList {marker : String} {piece : List Char} (h : after? marker.toList piece = none) :
    contains (String.ofList piece) marker = false := by
  rw [contains, String.toList_ofList, ← Bool.not_eq_true, isInfix_iff]
  exact after?_eq_none_iff.mp h

/-- The value that is found in the whole path is the one that the path says, if no slash stands in the marker. -/
theorem says_value? (h : '/' ∉ c.marker.toList) (path : String) : c.Says path (c.value? path) := by
  have hvalue : c.value? path =
      ((pieces '/' path.toList).findSome? (after? c.marker.toList)).map String.ofList := by
    rw [← takeWhile_after? h, Option.map_map]
    rfl
  rw [hvalue]
  cases hfound : (pieces '/' path.toList).findSome? (after? c.marker.toList) with
  | none =>
    refine .nothing fun segment hsegment => ?_
    obtain ⟨piece, hpiece, rfl⟩ := List.mem_map.mp hsegment
    exact contains_ofList (List.findSome?_eq_none_iff.mp hfound piece hpiece)
  | some value =>
    obtain ⟨before, piece, after, hpieces, hpiece, hbefore⟩ := List.findSome?_eq_some_iff.mp hfound
    obtain ⟨start, hfirst⟩ := firstAfter_of_after? hpiece
    have hsegment : FirstAfter c.marker.toList (String.ofList piece).toList start (String.ofList value).toList := by
      rwa [String.toList_ofList, String.toList_ofList]
    have hsplit : split '/' path =
        before.map String.ofList ++ String.ofList piece :: after.map String.ofList := by
      rw [split, hpieces, List.map_append, List.map_cons]
    refine .value hsplit (fun other hother => ?_) hsegment
    obtain ⟨p, hp, rfl⟩ := List.mem_map.mp hother
    exact contains_ofList (hbefore p hp)

/-- A marker that a segment holds has no slash in it, as the segment has none. -/
theorem slash_notMem_marker (h : 0 < levels c.name path) : '/' ∉ c.marker.toList := by
  obtain ⟨segment, hsegment⟩ := List.exists_mem_of_length_pos h
  obtain ⟨hsplit, hholds⟩ := List.mem_filter.mp hsegment
  obtain ⟨piece, hpiece, rfl⟩ := List.mem_map.mp hsplit
  rw [contains, String.toList_ofList, isInfix_iff] at hholds
  exact fun hslash => notMem_of_mem_pieces hpiece (hholds.subset hslash)

/-- A column is told from a path by the number of segments that hold the marker. -/
theorem infer_eq (key path : String) :
    infer key path =
      match levels key path with
      | 0 => .ok none
      | 1 => .ok (some ⟨key⟩)
      | _ => .error (.manyPartitionLevels key path) := by
  have hlevels : levels key path = (segments ⟨key⟩ path).length := rfl
  rw [hlevels]
  unfold infer
  dsimp only
  cases segments ⟨key⟩ path with
  | nil => rfl
  | cons segment others =>
    cases others with
    | nil => rfl
    | cons _ _ => rfl

end PartitionColumn
end ObjectIntake.Dataset

namespace ObjectIntake.Settings.SourceSettings
open Text

variable {s : SourceSettings} {key : String}

/-- A partition column is to be attached, whose key stands before the first colon of the partition field. -/
def PartitionsBy (s : SourceSettings) (key : String) : Prop :=
  s.attachPartition = true ∧ key ≠ "" ∧ ':' ∉ key.toList ∧
    ∃ field, s.partitionField = some field ∧ (field = key ∨ ∃ kind, field = key ++ ":" ++ kind)

theorem partitionKey_eq_some_iff : s.partitionKey = some key ↔ key ≠ "" ∧ ':' ∉ key.toList ∧
    ∃ field, s.partitionField = some field ∧ (field = key ∨ ∃ kind, field = key ++ ":" ++ kind) := by
  have hstart {field : String} (h : field = key ∨ ∃ kind, field = key ++ ":" ++ kind) (hcolon : ':' ∉ key.toList) :
      field.toList.takeWhile (· ≠ ':') = key.toList := by
    rcases h with rfl | ⟨kind, rfl⟩
    · exact takeWhile_eq_self hcolon
    · have hparts : (key ++ ":" ++ kind).toList = key.toList ++ ':' :: kind.toList := by simp
      rw [hparts, takeWhile_append_cons hcolon]
  unfold partitionKey
  cases s.partitionField with
  | none => simp
  | some field =>
    dsimp only
    constructor
    · intro h
      obtain ⟨hne, hkey⟩ := Option.ite_none_left_eq_some.mp h
      obtain rfl := Option.some.inj hkey
      refine ⟨hne, ?_, field, rfl, ?_⟩
      · rw [String.toList_ofList]
        intro hcolon
        simpa using List.mem_takeWhile_imp hcolon
      · by_cases hcolon : ':' ∈ field.toList
        · obtain ⟨start, kind, hfield, hnot⟩ := List.eq_append_cons_of_mem hcolon
          refine .inr ⟨String.ofList kind, ?_⟩
          rw [hfield, takeWhile_append_cons hnot, ← String.toList_inj, hfield]
          simp
        · left
          rw [takeWhile_eq_self hcolon, String.ofList_toList]
    · rintro ⟨hne, hcolon, _, hfield, h⟩
      obtain rfl := Option.some.inj hfield
      rw [hstart h hcolon, String.ofList_toList, if_neg hne]

theorem partitionsBy_iff : s.PartitionsBy key ↔ s.attachPartition = true ∧ s.partitionKey = some key := by
  rw [partitionKey_eq_some_iff]
  rfl

theorem PartitionsBy.unique {other : String} (h : s.PartitionsBy key) (hother : s.PartitionsBy other) : key = other :=
  Option.some.inj ((partitionsBy_iff.mp h).2.symm.trans (partitionsBy_iff.mp hother).2)

end ObjectIntake.Settings.SourceSettings
