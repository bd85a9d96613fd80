import CyberNetizen.Application.ChannelService
import CyberNetizen.Lib.Checks
import CyberNetizen.Lib.Worklist

namespace CyberNetizen.Application

open Domain

/-- `_SENSITIVE_KEY_PARTS`, the same in both services. -/
def sensitiveKeyParts : List String := ["password", "secret", "token", "api_key", "credential"]

/-- `any(part in key.casefold() for part in _SENSITIVE_KEY_PARTS)` -/
def sensitiveKey (casefold : String → String) (key : String) : Bool :=
  sensitiveKeyParts.any fun part ↦ decide (part.toList <:+: (casefold key).toList)

def asDict : JsonValue → Option JsonObject
  | .dict entries => some entries
  | _ => none

/-- The objects that an item puts on `pending`. -/
def nestedObjects : JsonValue → List JsonObject
  | .dict entries => [entries]
  | .list xs => xs.filterMap asDict
  | _ => []

section walk

variable {ε : Type} (casefold : String → String) (refusal : String → ε)

/-- The loop over `current.items()`. -/
def visitEntries : JsonObject → Except ε (List JsonObject)
  | [] => .ok []
  | (key, item) :: entries =>
    if sensitiveKey casefold key then .error (refusal key)
    else (visitEntries entries).map fun pushed ↦ nestedObjects item ++ pushed

theorem sum_sizeOf_nestedObjects (item : JsonValue) :
    ((nestedObjects item).map sizeOf).sum < 1 + sizeOf item := by
  have hlist : ∀ xs : List JsonValue, ((xs.filterMap asDict).map sizeOf).sum < sizeOf xs := by
    intro xs
    induction xs with
    | nil => simp
    | cons x xs ih =>
      cases x <;> simp only [List.filterMap_cons, asDict, List.map_cons, List.sum_cons,
        List.cons.sizeOf_spec, JsonValue.dict.sizeOf_spec] <;> omega
  cases item with
  | dict entries =>
    simp only [nestedObjects, List.map_cons, List.map_nil, List.sum_cons, List.sum_nil,
      JsonValue.dict.sizeOf_spec]
    omega
  | list xs =>
    have := hlist xs
    simp only [nestedObjects, JsonValue.list.sizeOf_spec]
    omega
  | _ => simp [nestedObjects]

theorem visitEntries_eq_ok {entries : JsonObject} {pushed : List JsonObject} :
    visitEntries casefold refusal entries = .ok pushed ↔
      (∀ entry ∈ entries, sensitiveKey casefold entry.1 = false) ∧
        pushed = entries.flatMap fun entry ↦ nestedObjects entry.2 := by
  induction entries generalizing pushed with
  | nil =>
    rw [visitEntries, Except.ok.injEq]
    exact ⟨fun h ↦ ⟨fun _ h ↦ absurd h List.not_mem_nil, h.symm⟩, fun h ↦ h.2.symm⟩
  | cons entry entries ih =>
    obtain ⟨key, item⟩ := entry
    rw [visitEntries, List.forall_mem_cons, List.flatMap_cons]
    cases hkey : sensitiveKey casefold key with
    | true => simp
    | false =>
      cases hrest : visitEntries casefold refusal entries with
      | error e =>
        refine iff_of_false (nofun) fun ⟨hall, _⟩ ↦ ?_
        have hok := ih.mpr ⟨hall.2, rfl⟩
        rw [hrest] at hok
        cases hok
      | ok later =>
        obtain ⟨hall, rfl⟩ := ih.mp hrest
        constructor
        · intro h
          cases h
          exact ⟨⟨rfl, hall⟩, rfl⟩
        · rintro ⟨-, rfl⟩
          rfl

theorem sum_sizeOf_pushed (entries : JsonObject) :
    ((entries.flatMap fun entry ↦ nestedObjects entry.2).map sizeOf).sum < sizeOf entries := by
  induction entries with
  | nil => simp
  | cons entry entries ih =>
    obtain ⟨key, item⟩ := entry
    have hitem := sum_sizeOf_nestedObjects item
    rw [List.flatMap_cons, List.map_append, List.sum_append, List.cons.sizeOf_spec,
      Prod.mk.sizeOf_spec]
    dsimp only
    omega

/-- The loop over `pending`, whose last element is popped first. -/
def keyWalk : Worklist.Visitor JsonObject ε where
  visit := visitEntries casefold refusal
  smaller := by
    refine ⟨sizeOf, fun entries pushed h ↦ ?_⟩
    obtain ⟨-, rfl⟩ := (visitEntries_eq_ok casefold refusal).mp h
    exact sum_sizeOf_pushed entries

end walk

variable (casefold : String → String)

def BackgroundTaskService.rejectSensitiveKeys (value : JsonObject) : Except TaskError Unit :=
  (keyWalk casefold fun key ↦ TaskError.validation s!"任务载荷禁止包含疑似密钥字段：{key}").run [value]

def ChannelService.settings (value : JsonObject) : Except ChannelError JsonObject := do
  (keyWalk casefold fun key ↦
    ChannelError.validation s!"渠道公开设置禁止包含疑似密钥字段：{key}").run [value]
  return value

end CyberNetizen.Application
