import CyberNetizen.Application.TaskService
import CyberNetizen.Infrastructure.ConfigurationRepository
import CyberNetizen.Lib.Overlay

namespace CyberNetizen.Application

open Domain Infrastructure KeyedTable

namespace ConfigurationService

abbrev Rules := List ConfigEntry → Option ConfigurationError

def duplicateValue (key : String) : ConfigurationError := .conflict ("同一作用域存在重复配置值：" ++ key)

def firstRepeated : List ConfigIdentity → List ConfigEntry → Option ConfigEntry
  | _, [] => none
  | seen, entry :: entries =>
    if entry.identity ∈ seen then some entry else firstRepeated (entry.identity :: seen) entries

/-- The checks of `create_draft` before it calls the repository. -/
def checkDraft (rules : Rules) (values : List ConfigEntry) : Option ConfigurationError :=
  match firstRepeated [] values with
  | some entry => some (duplicateValue entry.key)
  | none => rules values

def normalizedNote (note : Option String) : Option String :=
  note.bind fun text ↦ if strip text = "" then none else some (strip text)

section derived

/-- `_entry_map`: of several entries for one setting, the last stays. -/
def entryMap (values : List ConfigEntry) : Table ConfigEntry.identity := Overlay.dict _ values

def baseChanged (expected current : ℕ) : ConfigurationError :=
  .conflict s!"生效配置已从 v{expected} 变更为 v{current}，请重新分析"

def scopeText (entry : ConfigEntry) : String :=
  match entry.scopeId with
  | none => ""
  | some id => uuidString id

/-- The order of `(key, scope_type.value, str(scope_id or ""))`. -/
def byIdentity (a b : ConfigEntry) : Bool :=
  a.key < b.key || a.key = b.key &&
    (a.scopeType.value < b.scopeType.value || a.scopeType.value = b.scopeType.value &&
      scopeText a ≤ scopeText b)

def mergedValues (published overrides : List ConfigEntry) : List ConfigEntry :=
  (overrides.foldl Table.put (entryMap published)).rows.insertionSort fun a b ↦ byIdentity a b

/-- `create_derived_draft` between its read of the published version and its own `create_draft`. -/
def derive (published : Option ConfigVersion) (expectedBaseVersion : ℕ)
    (overrides : List ConfigEntry) : Except ConfigurationError (List ConfigEntry) :=
  let currentVersion := (published.map ConfigVersion.version).getD 0
  if currentVersion ≠ expectedBaseVersion then .error (baseChanged expectedBaseVersion currentVersion)
  else .ok (mergedValues ((published.map ConfigVersion.values).getD []) overrides)

end derived

/-- The checks of `publish` on what it has read. -/
def checkPublish (rules : Rules) (versionId : UUID) : Option ConfigVersion → Option ConfigurationError
  | none => some (versionNotFound versionId)
  | some target =>
    if target.status ≠ .draft then some onlyDraftsPublish else rules target.values

/-- The checks of `rollback` on what it has read. -/
def checkRollback (rules : Rules) (versionId : UUID) : Option ConfigVersion → Option ConfigurationError
  | none => some (versionNotFound versionId)
  | some target =>
    if target.status = .draft then some draftNoRollback else rules target.values

end ConfigurationService

end CyberNetizen.Application
