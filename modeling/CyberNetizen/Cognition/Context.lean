import Mathlib.Data.List.Sort
import Mathlib.Data.List.TakeWhile
import CyberNetizen.Application.TaskService
import CyberNetizen.Lib.Packing

namespace CyberNetizen.Cognition

open Application (isSpace strip strip_ne_empty)

inductive ContextFragmentKind
  | system | persona | workingMemory | longTermMemory | conversationSummary | recentMessage
  | userContext
  deriving DecidableEq

inductive ContextRole
  | system | user | assistant
  deriving DecidableEq

def isAscii (c : Char) : Bool := c.toNat < 128

def estimateChars (chars : List Char) : ℕ :=
  let asciiCount := chars.countP isAscii
  if chars.isEmpty then 0 else max 1 ((asciiCount + 3) / 4 + (chars.length - asciiCount))

def estimateTokens (content : String) : ℕ := estimateChars content.toList

def marker : String := "\n[…内容因上下文预算截断…]\n"

/-- The first and the last characters of a text, `kept` in all, around the marker. -/
def candidate (content : List Char) (kept : ℕ) : List Char :=
  let head := max 1 (kept * 3 / 5)
  let tail := max 1 (kept - head)
  content.take head ++ marker.toList ++ content.drop (content.length - tail)

theorem candidate_cut {content : List Char} (hcontent : content ≠ []) (kept : ℕ) :
    ∃ head tail, head ≠ [] ∧ head <+: content ∧ tail ≠ [] ∧ tail <:+ content ∧
      candidate content kept = head ++ marker.toList ++ tail := by
  have hlength : 0 < content.length := List.length_pos_iff.mpr hcontent
  refine ⟨content.take (max 1 (kept * 3 / 5)),
    content.drop (content.length - max 1 (kept - max 1 (kept * 3 / 5))), ?_,
    List.take_prefix _ _, ?_, List.drop_suffix _ _, rfl⟩
  · refine List.ne_nil_of_length_pos ?_
    rw [List.length_take]
    omega
  · refine List.ne_nil_of_length_pos ?_
    rw [List.length_drop]
    omega

def searchKept (content : List Char) (tokenBudget : ℕ) (low high : ℤ) (best : List Char) :
    List Char :=
  if low ≤ high then
    let kept := (low + high) / 2
    if estimateChars (candidate content kept.toNat) ≤ tokenBudget then
      searchKept content tokenBudget (kept + 1) high (candidate content kept.toNat)
    else searchKept content tokenBudget low (kept - 1) best
  else best
termination_by (high + 1 - low).toNat

def truncateToTokenBudget (content : String) (tokenBudget : ℕ) : String :=
  if tokenBudget < estimateTokens marker + 2 then ""
  else String.ofList (searchKept content.toList tokenBudget 1 content.toList.length [])

section truncation

variable {content : String} {tokenBudget : ℕ}

theorem estimateTokens_pos (h : content ≠ "") : 0 < estimateTokens content := by
  unfold estimateTokens estimateChars
  rw [if_neg]
  · omega
  · rw [List.isEmpty_iff, String.toList_eq_nil_iff]
    exact h

theorem searchKept_eq (content best : List Char) (tokenBudget : ℕ) (low high : ℤ) :
    searchKept content tokenBudget low high best = best ∨
      ∃ kept, searchKept content tokenBudget low high best = candidate content kept ∧
        estimateChars (candidate content kept) ≤ tokenBudget := by
  fun_induction searchKept content tokenBudget low high best with
  | case1 low high best hle kept hfits ih =>
    rcases ih with h | h
    · exact .inr ⟨_, h, hfits⟩
    · exact .inr h
  | case2 low high best hle kept hfits ih => exact ih
  | case3 low high best hle => exact .inl rfl

theorem truncateToTokenBudget_eq (h : truncateToTokenBudget content tokenBudget ≠ "") :
    ∃ kept, (truncateToTokenBudget content tokenBudget).toList = candidate content.toList kept ∧
      estimateTokens (truncateToTokenBudget content tokenBudget) ≤ tokenBudget := by
  unfold truncateToTokenBudget at h ⊢
  split at h
  · exact absurd rfl h
  · rename_i hbudget
    rw [if_neg hbudget]
    unfold estimateTokens
    rw [String.toList_ofList]
    rcases searchKept_eq content.toList [] tokenBudget 1 content.toList.length with hs | ⟨kept, hs, hle⟩
    · exact absurd (congrArg String.ofList hs) h
    · exact ⟨kept, hs, hs ▸ hle⟩

theorem truncateToTokenBudget_shown (h : truncateToTokenBudget content tokenBudget ≠ "") :
    strip (truncateToTokenBudget content tokenBudget) ≠ "" := by
  obtain ⟨kept, heq, -⟩ := truncateToTokenBudget_eq h
  have hc : isSpace '[' = false := by decide
  refine strip_ne_empty ?_ hc
  rw [heq]
  unfold candidate
  exact List.mem_append_left _ (List.mem_append_right _ (by decide))

end truncation

/-- A fragment that `__post_init__` lets pass. -/
structure ContextFragment where
  fragmentId : String
  kind : ContextFragmentKind
  role : ContextRole
  content : String
  priority : ℕ
  required : Bool := false
  ordinal : ℤ := 0
  sourceId : Option String := none
  tokenEstimate : Option ℕ := none
  summaryLevel : ℕ := 0
  sourceCount : ℕ := 1
  id_shown : strip fragmentId ≠ ""
  content_shown : strip content ≠ ""
  priority_le : priority ≤ 100
  estimate_pos : ∀ n ∈ tokenEstimate, 0 < n
  source_pos : 0 < sourceCount
  level_pos : kind = .conversationSummary ↔ 0 < summaryLevel
  deriving DecidableEq

theorem recentMessage_level : ContextFragmentKind.recentMessage = .conversationSummary ↔ 0 < 0 := by
  decide

theorem message_one_shown : strip "message-1" ≠ "" := by decide

theorem message_two_shown : strip "message-2" ≠ "" := by decide

namespace ContextFragment

def tokens (fragment : ContextFragment) : ℕ :=
  fragment.tokenEstimate.getD (estimateTokens fragment.content)

theorem content_ne_nil (f : ContextFragment) : f.content.toList ≠ [] := by
  intro hnil
  refine f.content_shown ?_
  rw [String.toList_eq_nil_iff.mp hnil]
  decide

theorem estimate_some_pos {content : String} (h : content ≠ "") :
    ∀ n ∈ some (estimateTokens content), 0 < n := by
  intro n hn
  rw [← Option.mem_some_iff.mp hn]
  exact estimateTokens_pos h

def clip (tokenBudget : ℕ) (fragment : ContextFragment) : Option ContextFragment :=
  let content := truncateToTokenBudget fragment.content tokenBudget
  if h : content = "" then none
  else some
    { fragment with
      content
      tokenEstimate := some (estimateTokens content)
      content_shown := truncateToTokenBudget_shown h
      estimate_pos := estimate_some_pos h }

/-- `g` is `f` with the middle of its content replaced by the marker. -/
structure IsTruncation (f g : ContextFragment) : Prop where
  cut : ∃ head tail, head ≠ [] ∧ head <+: f.content.toList ∧ tail ≠ [] ∧
    tail <:+ f.content.toList ∧ g.content.toList = head ++ marker.toList ++ tail
  estimate : g.tokenEstimate = some (estimateTokens g.content)
  rest : g.fragmentId = f.fragmentId ∧ g.kind = f.kind ∧ g.role = f.role ∧
    g.priority = f.priority ∧ g.required = f.required ∧ g.ordinal = f.ordinal ∧
    g.sourceId = f.sourceId ∧ g.summaryLevel = f.summaryLevel ∧ g.sourceCount = f.sourceCount

theorem clip_eq_some {tokenBudget : ℕ} {f g : ContextFragment} (h : f.clip tokenBudget = some g) :
    IsTruncation f g ∧ g.tokens ≤ tokenBudget := by
  unfold clip at h
  dsimp only at h
  split at h
  · cases h
  · rename_i hne
    obtain ⟨kept, heq, hle⟩ := truncateToTokenBudget_eq hne
    obtain rfl := Option.some.inj h
    refine ⟨⟨?_, rfl, ⟨rfl, rfl, rfl, rfl, rfl, rfl, rfl, rfl, rfl⟩⟩, hle⟩
    dsimp only
    rw [heq]
    exact candidate_cut f.content_ne_nil kept

end ContextFragment

end CyberNetizen.Cognition
