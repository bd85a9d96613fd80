import Mathlib.Data.List.Sort
import Mathlib.Data.String.Basic
import CyberNetizen.Domain.Conversation
import CyberNetizen.Lib.Table

namespace CyberNetizen.Infrastructure

open Domain KeyedTable

structure StoredObjectEntry where
  objectKey : String
  sizeBytes : ℤ
  lastModified : Datetime
  deriving DecidableEq

structure StoredObject extends StoredObjectEntry where
  contentType : String
  sha256 : String
  metadataSha256 : Option String
  /-- The type that the content is found to have, or none if the content is refused. -/
  detectedContentType : Option String
  deriving DecidableEq

abbrev ObjectTable := Table fun item : StoredObject ↦ item.objectKey

inductive ObjectStorageError
  | notFound (objectKey : String)
  | inspection (message : String)
  deriving DecidableEq

structure StoredObjectInfo where
  sizeBytes : ℤ
  contentType : String
  sha256 : String
  metadataSha256 : Option String
  detectedContentType : String
  deriving DecidableEq

def inspectObject (objects : ObjectTable) (objectKey : String) (maxBytes : ℤ) :
    Except ObjectStorageError StoredObjectInfo :=
  match objects.find? objectKey with
  | none => .error (.notFound objectKey)
  | some item =>
    if maxBytes < item.sizeBytes then .error (.inspection "对象超过预留大小")
    else match item.detectedContentType with
      | none => .error (.inspection "对象内容未通过检查")
      | some detectedContentType => .ok
          { sizeBytes := item.sizeBytes
            contentType := item.contentType
            sha256 := item.sha256
            metadataSha256 := item.metadataSha256
            detectedContentType }

/-- `delete_object`: nothing is said of an object that does not exist. -/
def deleteObject (objects : ObjectTable) (objectKey : String) : ObjectTable :=
  objects.deleteWhere fun item ↦ item.objectKey = objectKey

def Listed (a b : StoredObjectEntry) : Prop := a.objectKey ≤ b.objectKey

instance (a b : StoredObjectEntry) : Decidable (Listed a b) :=
  inferInstanceAs (Decidable (a.objectKey ≤ b.objectKey))

instance : Std.Total Listed := ⟨fun a b ↦ le_total a.objectKey b.objectKey⟩

instance : IsTrans StoredObjectEntry Listed := ⟨fun _ _ _ h h' ↦ le_trans h h'⟩

def isUnder (start objectKey : String) : Bool := start.toList.isPrefixOf objectKey.toList

/-- All objects whose keys begin with `start`, in the order of their keys. -/
def objectsUnder (objects : ObjectTable) (start : String) : List StoredObjectEntry :=
  ((objects.rows.map StoredObject.toStoredObjectEntry).filter fun item ↦
    isUnder start item.objectKey).insertionSort Listed

def listObjects (objects : ObjectTable) (start : String) (limit : ℤ) : List StoredObjectEntry :=
  (objectsUnder objects start).take limit.toNat

theorem mem_deleteObject {objects : ObjectTable} {objectKey : String} {item : StoredObject} :
    item ∈ deleteObject objects objectKey ↔ item ∈ objects ∧ item.objectKey ≠ objectKey := by
  unfold deleteObject
  rw [Table.mem_deleteWhere, decide_eq_false_iff_not]

theorem mem_objectsUnder {objects : ObjectTable} {start : String} {entry : StoredObjectEntry} :
    entry ∈ objectsUnder objects start ↔
      (∃ item ∈ objects, item.toStoredObjectEntry = entry) ∧ isUnder start entry.objectKey := by
  unfold objectsUnder
  rw [List.mem_insertionSort, List.mem_filter, List.mem_map]
  rfl

theorem nodup_objectsUnder (objects : ObjectTable) (start : String) :
    ((objectsUnder objects start).map (·.objectKey)).Nodup := by
  have hperm := (List.perm_insertionSort Listed ((objects.rows.map
    StoredObject.toStoredObjectEntry).filter fun item ↦ isUnder start item.objectKey)).map
      (·.objectKey)
  refine hperm.nodup_iff.mpr ((List.filter_sublist.map _).nodup ?_)
  rw [List.map_map]
  exact objects.nodup

theorem sorted_objectsUnder (objects : ObjectTable) (start : String) :
    (objectsUnder objects start).Pairwise Listed :=
  List.pairwise_insertionSort _ _

/-- A deletion takes the object from the listing and leaves the rest as it is. -/
theorem objectsUnder_deleteObject (objects : ObjectTable) (start objectKey : String) :
    objectsUnder (deleteObject objects objectKey) start =
      (objectsUnder objects start).filter fun entry ↦ entry.objectKey ≠ objectKey := by
  have hunique : ∀ a b : StoredObjectEntry, a ∈ objectsUnder objects start →
      b ∈ objectsUnder objects start → Listed a b → Listed b a → a = b := by
    intro a b ha hb hab hba
    exact List.inj_on_of_nodup_map (nodup_objectsUnder objects start) ha hb (le_antisymm hab hba)
  have hsub : ∀ a, a ∈ objectsUnder (deleteObject objects objectKey) start →
      a ∈ objectsUnder objects start := by
    intro a ha
    obtain ⟨⟨item, hitem, rfl⟩, hunder⟩ := mem_objectsUnder.mp ha
    exact mem_objectsUnder.mpr ⟨⟨item, (mem_deleteObject.mp hitem).1, rfl⟩, hunder⟩
  refine List.Perm.eq_of_pairwise (fun a b ha hb ↦ hunique a b (hsub a ha)
    (List.mem_of_mem_filter hb)) (sorted_objectsUnder _ _)
    ((sorted_objectsUnder objects start).filter _) ?_
  unfold objectsUnder deleteObject Table.deleteWhere
  refine (List.perm_insertionSort _ _).trans ?_
  refine List.Perm.trans ?_ ((List.perm_insertionSort _ _).filter _).symm
  rw [List.filter_map, List.filter_map, List.filter_map, List.filter_filter, List.filter_filter]
  refine (List.Perm.of_eq ?_).map _
  apply List.filter_congr
  intro item _
  simp only [Function.comp_apply, ne_eq, decide_not, Bool.and_comm]

end CyberNetizen.Infrastructure
