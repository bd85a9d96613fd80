import CyberNetizen.Application.SensitiveKeys

namespace CyberNetizen.Tasks.SensitivePayloads

open Domain Application

/-- One step down into a JSON value. -/
inductive Step
  | key (name : String)
  | index (i : ℕ)
  deriving DecidableEq

/-- The value that lies at the end of a path. -/
inductive At : JsonValue → List Step → JsonValue → Prop
  | here (v : JsonValue) : At v [] v
  | entry {entries : List (String × JsonValue)} {name : String} {x y : JsonValue}
      {path : List Step} (h : (name, x) ∈ entries) (hx : At x path y) :
      At (.dict entries) (.key name :: path) y
  | element {xs : List JsonValue} {i : ℕ} {x y : JsonValue} {path : List Step}
      (h : xs[i]? = some x) (hx : At x path y) : At (.list xs) (.index i :: path) y

def throughNestedList : List Step → Bool
  | .index _ :: .index _ :: _ => true
  | _ :: path => throughNestedList path
  | [] => false

theorem throughNestedList_append_key (path tail : List Step) (name : String) :
    throughNestedList (path ++ .key name :: tail) =
      (throughNestedList path || throughNestedList tail) := by
  induction path using throughNestedList.induct with
  | case1 i j path => rfl
  | case2 step path hstep ih =>
    cases path with
    | nil => cases step <;> simp [throughNestedList]
    | cons next path =>
      cases step <;> cases next <;> simp_all [throughNestedList]
  | case3 => simp [throughNestedList]

theorem At.trans {v x y : JsonValue} {path path' : List Step} (h : At v path x)
    (h' : At x path' y) : At v (path ++ path') y := by
  induction h with
  | here v => exact h'
  | entry hmem _ ih => exact .entry hmem (ih h')
  | element hmem _ ih => exact .element hmem (ih h')

variable (casefold : String → String)

def SensitiveAt (payload : JsonObject) (path : List Step) : Prop :=
  ∃ entries, At (.dict payload) path (.dict entries) ∧
    ∃ entry ∈ entries, sensitiveKey casefold entry.1 = true

variable {ε : Type} {refusal : String → ε} {casefold} {payload : JsonObject}

/-- What comes to lie on the stack lies in the payload, and not in a list in a list. -/
theorem path_of_reaches {entries : JsonObject}
    (h : (keyWalk casefold refusal).Reaches [payload] entries) :
    ∃ path, At (.dict payload) path (.dict entries) ∧ throughNestedList path = false := by
  induction h with
  | start hmem =>
    obtain rfl := List.mem_singleton.mp hmem
    exact ⟨[], .here _, rfl⟩
  | pushed _ hvisit hb ih =>
    obtain ⟨path, hat, hpath⟩ := ih
    obtain ⟨-, rfl⟩ := (visitEntries_eq_ok casefold refusal).mp hvisit
    obtain ⟨⟨name, item⟩, hentry, hnested⟩ := List.mem_flatMap.mp hb
    cases item with
    | dict inner =>
      obtain rfl := List.mem_singleton.mp hnested
      refine ⟨path ++ [.key name], hat.trans (.entry hentry (.here _)), ?_⟩
      rw [throughNestedList_append_key, hpath]
      rfl
    | list xs =>
      obtain ⟨x, hx, hdict⟩ := List.mem_filterMap.mp hnested
      obtain ⟨i, hi⟩ := List.mem_iff_getElem?.mp hx
      cases x with
      | dict inner =>
        cases hdict
        refine ⟨path ++ [.key name, .index i],
          hat.trans (.entry hentry (.element hi (.here _))), ?_⟩
        rw [throughNestedList_append_key, hpath]
        rfl
      | _ => cases hdict
    | _ => cases hnested

/-- An object that does not lie in a list in a list comes to lie on the stack, if none is refused. -/
theorem reaches_of_path {start entries : JsonObject} {path : List Step}
    (hclean : ∀ a, (keyWalk casefold refusal).Reaches [payload] a →
      ∃ pushed, visitEntries casefold refusal a = .ok pushed)
    (hstart : (keyWalk casefold refusal).Reaches [payload] start)
    (hat : At (.dict start) path (.dict entries)) (hpath : throughNestedList path = false) :
    (keyWalk casefold refusal).Reaches [payload] entries := by
  cases hat with
  | here => exact hstart
  | @entry _ name item _ rest hentry hitem =>
    obtain ⟨pushed, hvisit⟩ := hclean start hstart
    have hpushed := ((visitEntries_eq_ok casefold refusal).mp hvisit).2
    have hnext : ∀ next, next ∈ nestedObjects item →
        (keyWalk casefold refusal).Reaches [payload] next := by
      intro next hmem
      apply Worklist.Visitor.Reaches.pushed hstart hvisit
      rw [hpushed]
      exact List.mem_flatMap.mpr ⟨_, hentry, hmem⟩
    have hrest : throughNestedList rest = false := by
      simpa [throughNestedList] using hpath
    cases item with
    | dict inner => exact reaches_of_path hclean (hnext inner List.mem_cons_self) hitem hrest
    | list xs =>
      cases hitem with
      | @element _ i x _ tail hi hx =>
        cases x with
        | dict inner =>
          have hmem : inner ∈ nestedObjects (.list xs) :=
            List.mem_filterMap.mpr ⟨_, List.mem_of_getElem? hi, rfl⟩
          refine reaches_of_path hclean (hnext inner hmem) hx ?_
          cases hx with
          | here => rfl
          | entry _ _ => simpa [throughNestedList] using hrest
        | list ys =>
          cases hx with
          | element hj hy => simp [throughNestedList] at hrest
        | _ => cases hx
    | _ => cases hitem
  termination_by path.length

theorem walk_eq_ok (casefold : String → String) (refusal : String → ε) (payload : JsonObject) :
    (keyWalk casefold refusal).run [payload] = .ok () ↔
      ∀ path, throughNestedList path = false → ¬SensitiveAt casefold payload path := by
  rw [Worklist.run_eq_ok]
  constructor
  · rintro hclean path hpath ⟨entries, hat, entry, hentry, hkey⟩
    have hreach := reaches_of_path hclean (.start List.mem_cons_self) hat hpath
    obtain ⟨pushed, hvisit⟩ := hclean entries hreach
    rw [((visitEntries_eq_ok casefold refusal).mp hvisit).1 entry hentry] at hkey
    cases hkey
  · intro hclean entries hreach
    obtain ⟨path, hat, hpath⟩ := path_of_reaches hreach
    refine ⟨_, (visitEntries_eq_ok casefold refusal).mpr ⟨fun entry hentry ↦ ?_, rfl⟩⟩
    cases hkey : sensitiveKey casefold entry.1 with
    | false => rfl
    | true => exact absurd ⟨entries, hat, entry, hentry, hkey⟩ (hclean path hpath)

theorem of_walk_eq_error (casefold : String → String) (refusal : String → ε) (payload : JsonObject)
    {e : ε} (h : (keyWalk casefold refusal).run [payload] = .error e) :
    ∃ path entries name, At (.dict payload) path (.dict entries) ∧
      name ∈ entries.map Prod.fst ∧ sensitiveKey casefold name = true ∧ e = refusal name := by
  obtain ⟨entries, hreach, hvisit⟩ := Worklist.of_run_eq_error _ _ h
  obtain ⟨path, hat, -⟩ := path_of_reaches hreach
  have hname : ∀ entries : JsonObject, visitEntries casefold refusal entries = .error e →
      ∃ name ∈ entries.map Prod.fst, sensitiveKey casefold name = true ∧ e = refusal name := by
    intro entries
    induction entries with
    | nil => exact fun h ↦ (nomatch h)
    | cons entry entries ih =>
      obtain ⟨key, item⟩ := entry
      intro h
      rw [visitEntries] at h
      cases hkey : sensitiveKey casefold key with
      | true =>
        rw [hkey] at h
        cases h
        exact ⟨key, List.mem_cons_self, hkey, rfl⟩
      | false =>
        rw [hkey] at h
        cases hrest : visitEntries casefold refusal entries with
        | ok pushed =>
          rw [hrest] at h
          cases h
        | error e' =>
          rw [hrest] at h
          cases h
          obtain ⟨name, hmem, hsensitive⟩ := ih hrest
          exact ⟨name, List.mem_cons_of_mem _ hmem, hsensitive⟩
  obtain ⟨name, hmem, hsensitive, rfl⟩ := hname entries hvisit
  exact ⟨path, entries, name, hat, hmem, hsensitive, rfl⟩

theorem settings_eq_ok (casefold : String → String) (value stored : JsonObject) :
    ChannelService.settings casefold value = .ok stored ↔
      stored = value ∧ ∀ path, throughNestedList path = false → ¬SensitiveAt casefold value path := by
  unfold ChannelService.settings
  rw [Checks.bind_eq_ok]
  constructor
  · rintro ⟨_, hwalk, hvalue⟩
    cases hvalue
    exact ⟨rfl, (walk_eq_ok casefold _ value).mp hwalk⟩
  · rintro ⟨rfl, hclean⟩
    exact ⟨(), (walk_eq_ok casefold _ stored).mpr hclean, rfl⟩

/-- Both checks refuse a payload only for a sensitive key that it has, which their error names. -/
theorem refusal_names_key (casefold : String → String) (payload : JsonObject) :
    (∀ e, BackgroundTaskService.rejectSensitiveKeys casefold payload = .error e →
      ∃ path entries key, At (.dict payload) path (.dict entries) ∧
        key ∈ entries.map Prod.fst ∧ sensitiveKey casefold key = true ∧
        e = .validation s!"任务载荷禁止包含疑似密钥字段：{key}") ∧
    (∀ e, ChannelService.settings casefold payload = .error e →
      ∃ path entries key, At (.dict payload) path (.dict entries) ∧
        key ∈ entries.map Prod.fst ∧ sensitiveKey casefold key = true ∧
        e = .validation s!"渠道公开设置禁止包含疑似密钥字段：{key}") := by
  constructor
  · intro e h
    exact of_walk_eq_error casefold _ payload h
  · intro e h
    unfold ChannelService.settings at h
    rcases Checks.bind_eq_error.mp h with hwalk | ⟨_, -, hreturned⟩
    · exact of_walk_eq_error casefold _ payload hwalk
    · cases hreturned

/-- What a check accepts is free of sensitive keys at every depth exactly if those that the payload
has are not all inside lists that are elements of lists. -/
theorem accepted_clean_iff (casefold : String → String) (payload : JsonObject) :
    ((BackgroundTaskService.rejectSensitiveKeys casefold payload = .ok () →
        ∀ path, ¬SensitiveAt casefold payload path) ↔
      ((∃ path, SensitiveAt casefold payload path) →
        ∃ path, throughNestedList path = false ∧ SensitiveAt casefold payload path)) ∧
    ((∀ stored, ChannelService.settings casefold payload = .ok stored →
        ∀ path, ¬SensitiveAt casefold stored path) ↔
      ((∃ path, SensitiveAt casefold payload path) →
        ∃ path, throughNestedList path = false ∧ SensitiveAt casefold payload path)) := by
  have hmain : ((∀ path, throughNestedList path = false → ¬SensitiveAt casefold payload path) →
      ∀ path, ¬SensitiveAt casefold payload path) ↔
      ((∃ path, SensitiveAt casefold payload path) →
        ∃ path, throughNestedList path = false ∧ SensitiveAt casefold payload path) := by
    constructor
    · rintro h ⟨path, hsensitive⟩
      by_contra hnone
      exact h (fun path hpath hs ↦ hnone ⟨path, hpath, hs⟩) path hsensitive
    · rintro h hclean path hsensitive
      obtain ⟨path', hpath, hs⟩ := h ⟨path, hsensitive⟩
      exact hclean path' hpath hs
  constructor
  · rw [BackgroundTaskService.rejectSensitiveKeys, walk_eq_ok, hmain]
  · rw [← hmain]
    constructor
    · intro h hclean
      exact h payload ((settings_eq_ok casefold payload payload).mpr ⟨rfl, hclean⟩)
    · rintro h stored hstored
      obtain ⟨rfl, hclean⟩ := (settings_eq_ok casefold payload stored).mp hstored
      exact h hclean

def hiddenPassword : JsonObject :=
  [("rows", .list [.list [.dict [("password", .str "hunter2")]]])]

/-- Both checks accept a payload with a password in it. -/
theorem hiddenPassword_accepted :
    ¬(∀ payload, (BackgroundTaskService.rejectSensitiveKeys (·.map Char.toLower) payload = .ok () →
        ∀ path, ¬SensitiveAt (·.map Char.toLower) payload path)) ∧
    ¬(∀ payload stored, ChannelService.settings (·.map Char.toLower) payload = .ok stored →
        ∀ path, ¬SensitiveAt (·.map Char.toLower) stored path) := by
  have hat : SensitiveAt (·.map Char.toLower) hiddenPassword [.key "rows", .index 0, .index 0] :=
    ⟨_, .entry List.mem_cons_self (.element rfl (.element rfl (.here _))), _, List.mem_cons_self,
      by decide +kernel⟩
  have hclean : ∀ {ε} (refusal : String → ε),
      (keyWalk (·.map Char.toLower) refusal).run [hiddenPassword] = .ok () := by
    intro ε refusal
    have hvisit : visitEntries (·.map Char.toLower) refusal hiddenPassword = .ok [] := by
      rw [visitEntries_eq_ok]
      exact ⟨by decide +kernel, rfl⟩
    rw [Worklist.run_cons_ok hvisit]
    exact Worklist.run_nil
  constructor
  · intro h
    exact h hiddenPassword (hclean _) _ hat
  · intro h
    refine h hiddenPassword hiddenPassword ?_ _ hat
    unfold ChannelService.settings
    rw [hclean]
    rfl

end CyberNetizen.Tasks.SensitivePayloads
