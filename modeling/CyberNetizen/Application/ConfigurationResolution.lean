import Mathlib.Logic.Function.Basic
import CyberNetizen.Application.ConfigurationService

/-! # Effective configurations and differences between versions -/

namespace CyberNetizen.Domain

def JsonValue.number? : JsonValue → Option ℚ
  | .bool b => some (if b then 1 else 0)
  | .int n => some n
  | .float x => some x
  | _ => none

mutual

/-- `==` on values: numbers and booleans by their value, objects in any order. -/
def JsonValue.equal : JsonValue → JsonValue → Bool
  | .null, .null => true
  | .str s, .str t => s = t
  | .list xs, .list ys => JsonValue.equalElements xs ys
  | .dict entries, .dict others =>
    entries.length = others.length && JsonValue.equalEntries entries others
  | .bool b, y => (JsonValue.bool b).number? = y.number?
  | .int n, y => (JsonValue.int n).number? = y.number?
  | .float x, y => (JsonValue.float x).number? = y.number?
  | _, _ => false

def JsonValue.equalElements : List JsonValue → List JsonValue → Bool
  | [], [] => true
  | x :: xs, y :: ys => JsonValue.equal x y && JsonValue.equalElements xs ys
  | _, _ => false

/-- Each entry has an equal one under its key. -/
def JsonValue.equalEntries : List (String × JsonValue) → List (String × JsonValue) → Bool
  | [], _ => true
  | (key, x) :: entries, others =>
    (match others.lookup key with
      | some y => JsonValue.equal x y
      | none => false) && JsonValue.equalEntries entries others

end

structure ConfigDefinition where
  key : String
  default : JsonValue
  secret : Bool

inductive ConfigDiffKind
  | added | changed | removed
  deriving DecidableEq

/-- An absent value is shown as null, as in the source. -/
structure ConfigDifference where
  key : String
  scopeType : ConfigScope
  scopeId : Option UUID
  kind : ConfigDiffKind
  before : JsonValue
  after : JsonValue

def ConfigDifference.identity (change : ConfigDifference) : ConfigIdentity :=
  (change.key, change.scopeType, change.scopeId)

structure EffectiveConfigSource where
  scopeType : Option ConfigScope
  scopeId : Option UUID
  version : ℕ

def ConfigScope.all : List ConfigScope := [.system, .tenant, .agent, .channel, .user]

end CyberNetizen.Domain

namespace CyberNetizen.Application.ConfigurationService

open Domain Infrastructure KeyedTable

structure ConfigurationRegistry where
  definitions : List ConfigDefinition
  nodup : (definitions.map (·.key)).Nodup

/-- The mappings are functions that give nothing for a key that is not there. -/
structure EffectiveConfigurationSnapshot where
  version : ℕ
  values : String → Option JsonValue
  sources : String → Option EffectiveConfigSource

/-- The arguments of `resolve_effective` but for the version. -/
structure ResolveTarget where
  tenantId : UUID
  agentId : Option UUID
  channelId : Option UUID
  userId : Option UUID

/-- `targets` -/
def ResolveTarget.id (target : ResolveTarget) : ConfigScope → Option UUID
  | .system => none
  | .tenant => some target.tenantId
  | .agent => target.agentId
  | .channel => target.channelId
  | .user => target.userId

/-- The values before the entries are looked at. -/
def defaultSnapshot (registry : ConfigurationRegistry) (version : ℕ) :
    EffectiveConfigurationSnapshot :=
  let shown := registry.definitions.filter fun definition ↦ !definition.secret
  { version
    values := fun key ↦ (shown.find? fun definition ↦ definition.key = key).map (·.default)
    sources := fun key ↦ (shown.find? fun definition ↦ definition.key = key).map
      fun _ ↦ ⟨none, none, 0⟩ }

def EffectiveConfigurationSnapshot.put (s : EffectiveConfigurationSnapshot) (entry : ConfigEntry) :
    EffectiveConfigurationSnapshot :=
  { s with
    values := Function.update s.values entry.key (some entry.value)
    sources := Function.update s.sources entry.key
      (some ⟨some entry.scopeType, entry.scopeId, s.version⟩) }

def resolveStored (registry : ConfigurationRegistry) (target : ResolveTarget)
    (stored : ConfigVersion) : EffectiveConfigurationSnapshot :=
  ConfigScope.all.foldl (fun s scope ↦ stored.values.foldl (fun s entry ↦
    if entry.scopeType = scope ∧ entry.scopeId = target.id scope then s.put entry else s) s)
    (defaultSnapshot registry stored.version)

/-- `resolve_effective`, with the two reads of the repository. -/
def resolveEffective (registry : ConfigurationRegistry) (published : Option ConfigVersion)
    (versionNumber : ℕ → Option ConfigVersion) (target : ResolveTarget) (version : Option ℕ) :
    Except ConfigurationError EffectiveConfigurationSnapshot :=
  match version with
  | some 0 => .ok (defaultSnapshot registry 0)
  | none => .ok (match published with
    | none => defaultSnapshot registry 0
    | some stored => resolveStored registry target stored)
  | some version =>
    match versionNumber version with
    | none => .error (.notFound s!"配置版本不存在：v{version}")
    | some stored => .ok (resolveStored registry target stored)

section diff

def valueAt (values : List ConfigEntry) (identity : ConfigIdentity) : Option JsonValue :=
  ((entryMap values).find? identity).map (·.value)

def identityText (identity : ConfigIdentity) : String :=
  match identity.2.2 with
  | none => ""
  | some id => uuidString id

def identityBefore (a b : ConfigIdentity) : Bool :=
  a.1 < b.1 || a.1 = b.1 && (a.2.1.value < b.2.1.value || a.2.1.value = b.2.1.value &&
    identityText a ≤ identityText b)

/-- `sorted(base_values.keys() | target_values.keys())` -/
def identitiesOf (base target : List ConfigEntry) : List ConfigIdentity :=
  let ofBase := (entryMap base).rows.map (·.identity)
  let ofTarget := (entryMap target).rows.map (·.identity)
  (ofBase ++ ofTarget.filter fun identity ↦ !ofBase.contains identity).insertionSort
    fun a b ↦ identityBefore a b

/-- The change at an identity, if there is one. -/
def differenceAt (base target : List ConfigEntry) (identity : ConfigIdentity) :
    Option ConfigDifference :=
  let difference kind before after : ConfigDifference :=
    ⟨identity.1, identity.2.1, identity.2.2, kind, before, after⟩
  match valueAt base identity, valueAt target identity with
  | some before, some after =>
    if before.equal after then none else some (difference .changed before after)
  | none, some after => some (difference .added .null after)
  | some before, none => some (difference .removed before .null)
  | none, none => some (difference .removed .null .null)

/-- The changes of `preview_diff`. -/
def changesOf (base target : List ConfigEntry) : List ConfigDifference :=
  (identitiesOf base target).filterMap (differenceAt base target)

/-- The base that `preview_diff` compares with; a published version is not compared with itself. -/
def diffBase (target : ConfigVersion) (published given : Option ConfigVersion) :
    Option ConfigVersion :=
  match given with
  | some base => some base
  | none => published.filter fun base ↦ base.id ≠ target.id

structure ConfigurationDiffPreview where
  baseVersion : ℕ
  targetVersion : ℕ
  changes : List ConfigDifference

/-- `preview_diff`, once its versions are found. -/
def previewDiff (target : ConfigVersion) (base : Option ConfigVersion) :
    ConfigurationDiffPreview where
  baseVersion := (base.map (·.version)).getD 0
  targetVersion := target.version
  changes := changesOf ((base.map (·.values)).getD []) target.values

end diff

end CyberNetizen.Application.ConfigurationService
