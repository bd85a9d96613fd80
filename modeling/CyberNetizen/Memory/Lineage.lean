import CyberNetizen.Lib.VersionChain
import CyberNetizen.Memory.LongTermTables

namespace CyberNetizen.Memory

open Domain Infrastructure Application.LongTermMemory KeyedTable VersionChain
open SqlAlchemyLongTermMemory Application

def lineage (memories : Table Memory.id) (lineageId : UUID) : List Memory :=
  memories.rows.filter fun row ↦ row.lineageId = lineageId

def Supersedes (links : Table MemoryLink.id) (newId oldId : UUID) : Prop :=
  ∃ link ∈ links, link.kind = .supersedes ∧ link.sourceMemoryId = newId ∧
    link.targetMemoryId = oldId

def Live (memory : Memory) : Prop := memory.status = .active

structure LineagesChained (memories : Table Memory.id) (links : Table MemoryLink.id) : Prop where
  chain : ∀ lineageId, Chain Memory.version Live (lineage memories lineageId)
  supersedes : ∀ new ∈ memories, ∀ old ∈ memories,
    Supersedes links new.id old.id ↔
      new.lineageId = old.lineageId ∧ new.version = old.version + 1
  /-- A lineage is named after a memory. -/
  rooted : ∀ memory ∈ memories, ∃ root ∈ memories, root.id = memory.lineageId
  ends : ∀ newId oldId, Supersedes links newId oldId →
    (∃ new ∈ memories, new.id = newId) ∧ ∃ old ∈ memories, old.id = oldId

section tables

variable {memories memories' : Table Memory.id} {links links' : Table MemoryLink.id}

theorem mem_lineage {memory : Memory} {lineageId : UUID} :
    memory ∈ lineage memories lineageId ↔ memory ∈ memories ∧ memory.lineageId = lineageId := by
  unfold lineage
  rw [List.mem_filter, decide_eq_true_eq, Table.mem_rows]

theorem lineagesChained_empty : LineagesChained .empty .empty where
  chain := fun _ ↦ Chain.nil
  supersedes := fun _ h ↦ absurd h (Table.not_mem_empty _)
  rooted := fun _ h ↦ absurd h (Table.not_mem_empty _)
  ends := fun _ _ ⟨link, h, _⟩ ↦ absurd h (Table.not_mem_empty link)

theorem LineagesChained.eq_of_version (h : LineagesChained memories links) {a b : Memory}
    (ha : a ∈ memories) (hb : b ∈ memories) (hl : a.lineageId = b.lineageId)
    (hv : a.version = b.version) : a = b :=
  (h.chain b.lineageId).eq_of_version (mem_lineage.mpr ⟨ha, hl⟩) (mem_lineage.mpr ⟨hb, rfl⟩) hv

theorem LineagesChained.successor_unique (h : LineagesChained memories links) {a b old : Memory}
    (ha : a ∈ memories) (hb : b ∈ memories) (hold : old ∈ memories)
    (hsa : Supersedes links a.id old.id) (hsb : Supersedes links b.id old.id) : a = b := by
  obtain ⟨hla, hva⟩ := (h.supersedes a ha old hold).mp hsa
  obtain ⟨hlb, hvb⟩ := (h.supersedes b hb old hold).mp hsb
  exact h.eq_of_version ha hb (hla.trans hlb.symm) (hva.trans hvb.symm)

/-- An update that leaves the place of a memory in its lineage alone and revives nothing. -/
structure KeepsPlace (f : Update Memory.id) : Prop where
  lineageId : ∀ row, (f row).lineageId = row.lineageId
  version : ∀ row, (f row).version = row.version
  status : ∀ row, (f row).status = .active → row.status = .active

def changeMemory (memories : Table Memory.id) (memoryId : UUID) (f : Update Memory.id) :
    Table Memory.id :=
  memories.updateWhere (fun row ↦ row.id = memoryId) f

theorem LineagesChained.changeMemory (h : LineagesChained memories links) (memoryId : UUID)
    {f : Update Memory.id} (hf : KeepsPlace f) :
    LineagesChained (Memory.changeMemory memories memoryId f) links := by
  have hrow : ∀ row ∈ Memory.changeMemory memories memoryId f, ∃ old ∈ memories,
      old.id = row.id ∧ old.lineageId = row.lineageId ∧ old.version = row.version := by
    intro row hr
    obtain ⟨old, hold, rfl⟩ := Table.mem_updateWhere.mp hr
    refine ⟨old, hold,
      (Table.key_update (fun row ↦ decide (row.id = memoryId)) f old).symm, ?_⟩
    split
    · exact ⟨(hf.lineageId old).symm, (hf.version old).symm⟩
    · exact ⟨rfl, rfl⟩
  have hkept : ∀ old ∈ memories, ∃ row ∈ Memory.changeMemory memories memoryId f,
      row.id = old.id := fun old hold ↦
    ⟨_, Table.mem_updateWhere.mpr ⟨old, hold, rfl⟩,
      Table.key_update (fun row ↦ decide (row.id = memoryId)) f old⟩
  constructor
  · intro lineageId
    have hfilter : lineage (Memory.changeMemory memories memoryId f) lineageId =
        (lineage memories lineageId).map fun row ↦ if decide (row.id = memoryId) then f row else row :=
      Table.filter_updateWhere _ fun row _ _ ↦ by rw [hf.lineageId]
    rw [hfilter]
    refine (h.chain lineageId).map (fun row _ ↦ ?_) fun row _ hlive ↦ ?_
    · split
      · exact hf.version row
      · rfl
    · split at hlive
      · exact hf.status row hlive
      · exact hlive
  · intro new hnew old hold
    obtain ⟨new', hnew', hid, hl, hv⟩ := hrow new hnew
    obtain ⟨old', hold', hid', hl', hv'⟩ := hrow old hold
    rw [← hid, ← hid', ← hl, ← hl', ← hv, ← hv']
    exact h.supersedes new' hnew' old' hold'
  · intro row hr
    obtain ⟨old, hold, -, hl, -⟩ := hrow row hr
    obtain ⟨root, hroot, hid⟩ := h.rooted old hold
    obtain ⟨root', hroot', hid'⟩ := hkept root hroot
    exact ⟨root', hroot', hid'.trans (hid.trans hl)⟩
  · intro newId oldId hs
    obtain ⟨⟨new, hnew, hid⟩, old, hold, hid'⟩ := h.ends newId oldId hs
    obtain ⟨new', hnew', hn⟩ := hkept new hnew
    obtain ⟨old', hold', ho⟩ := hkept old hold
    exact ⟨⟨new', hnew', hn.trans hid⟩, old', hold', ho.trans hid'⟩

theorem lineage_of_added {memory : Memory} (hadded : memories.insert? memory = some memories')
    (lineageId : UUID) :
    lineage memories' lineageId =
      lineage memories lineageId ++ if memory.lineageId = lineageId then [memory] else [] := by
  unfold lineage
  rw [(Table.insert?_eq_some hadded).2, List.filter_append]
  congr 1
  by_cases hl : memory.lineageId = lineageId
  · simp [hl]
  · simp [hl]

/-- A first version under a new id. -/
theorem LineagesChained.create (h : LineagesChained memories links) {memory : Memory}
    (hadded : memories.insert? memory = some memories') (hversion : memory.version = 1)
    (hlineage : memory.lineageId = memory.id) : LineagesChained memories' links := by
  have hfresh := (Table.insert?_eq_some hadded).1
  have hmem : ∀ x, x ∈ memories' ↔ x ∈ memories ∨ x = memory :=
    fun x ↦ Table.mem_insert? hadded
  have hempty : ∀ row ∈ memories, row.lineageId ≠ memory.id := by
    intro row hrow he
    obtain ⟨root, hroot, hid⟩ := h.rooted row hrow
    exact hfresh root hroot (hid.trans he)
  constructor
  · intro lineageId
    rw [lineage_of_added hadded]
    by_cases hl : memory.lineageId = lineageId
    · have hnil : lineage memories lineageId = [] := by
        refine List.eq_nil_iff_forall_not_mem.mpr fun row hrow ↦ ?_
        obtain ⟨hrow, hid⟩ := mem_lineage.mp hrow
        exact hempty row hrow (hid.trans (hl.symm.trans hlineage))
      rw [hnil, if_pos hl]
      exact Chain.singleton hversion
    · rw [if_neg hl, List.append_nil]
      exact h.chain lineageId
  · intro new hnew old hold
    rcases (hmem new).mp hnew with hnew | rfl
    · rcases (hmem old).mp hold with hold | rfl
      · exact h.supersedes new hnew old hold
      · refine iff_of_false (fun hs ↦ ?_) fun hv ↦ ?_
        · obtain ⟨-, row, hrow, hid⟩ := h.ends _ _ hs
          exact hfresh row hrow hid
        · exact hempty new hnew (hv.1.trans hlineage)
    · refine iff_of_false (fun hs ↦ ?_) fun hv ↦ ?_
      · obtain ⟨⟨row, hrow, hid⟩, -⟩ := h.ends _ _ hs
        exact hfresh row hrow hid
      · rcases (hmem old).mp hold with hold | rfl
        · exact hempty old hold (hv.1.symm.trans hlineage)
        · omega
  · intro row hr
    rcases (hmem row).mp hr with hr | rfl
    · obtain ⟨root, hroot, hid⟩ := h.rooted row hr
      exact ⟨root, (hmem root).mpr (.inl hroot), hid⟩
    · exact ⟨row, (hmem row).mpr (.inr rfl), hlineage.symm⟩
  · intro newId oldId hs
    obtain ⟨⟨new, hnew, hid⟩, old, hold, hid'⟩ := h.ends newId oldId hs
    exact ⟨⟨new, (hmem new).mpr (.inl hnew), hid⟩, old, (hmem old).mpr (.inl hold), hid'⟩

/-- The next version, after no version of its lineage is active any more. -/
theorem LineagesChained.extend (h : LineagesChained memories links) (source : Memory)
    {replacement : Memory} {link : MemoryLink}
    (hadded : memories.insert? replacement = some memories')
    (hlink : links.insert? link = some links') (hkind : link.kind = .supersedes)
    (hsourceId : link.sourceMemoryId = replacement.id) (htarget : link.targetMemoryId = source.id)
    (hsource : source ∈ memories) (hlineage : replacement.lineageId = source.lineageId)
    (hversion : replacement.version = source.version + 1)
    (hlast : source.version = (lineage memories source.lineageId).length)
    (hdead : ∀ row ∈ lineage memories source.lineageId, ¬Live row) :
    LineagesChained memories' links' := by
  have hfresh := (Table.insert?_eq_some hadded).1
  have hmem : ∀ x, x ∈ memories' ↔ x ∈ memories ∨ x = replacement :=
    fun x ↦ Table.mem_insert? hadded
  have hle : ∀ row ∈ memories, row.lineageId = source.lineageId →
      row.version ≤ source.version := by
    intro row hrow hl
    have hpos := (h.chain source.lineageId).version_pos (mem_lineage.mpr ⟨hrow, hl⟩)
    omega
  have hsup : ∀ newId oldId, Supersedes links' newId oldId ↔
      Supersedes links newId oldId ∨ newId = replacement.id ∧ oldId = source.id := by
    intro newId oldId
    unfold Supersedes
    constructor
    · rintro ⟨l, hl, hk, hn, ho⟩
      rcases (Table.mem_insert? hlink).mp hl with hl | rfl
      · exact .inl ⟨l, hl, hk, hn, ho⟩
      · exact .inr ⟨hn.symm.trans hsourceId, ho.symm.trans htarget⟩
    · rintro (⟨l, hl, hrest⟩ | ⟨rfl, rfl⟩)
      · exact ⟨l, (Table.mem_insert? hlink).mpr (.inl hl), hrest⟩
      · exact ⟨link, (Table.mem_insert? hlink).mpr (.inr rfl), hkind, hsourceId, htarget⟩
  have hold : ∀ newId oldId, Supersedes links newId oldId →
      newId ≠ replacement.id ∧ oldId ≠ replacement.id := by
    intro newId oldId hs
    obtain ⟨⟨new, hnew, rfl⟩, old, hold, rfl⟩ := h.ends newId oldId hs
    exact ⟨hfresh new hnew, hfresh old hold⟩
  constructor
  · intro lineageId
    rw [lineage_of_added hadded]
    by_cases hl : replacement.lineageId = lineageId
    · rw [if_pos hl, ← hl, hlineage]
      exact (h.chain source.lineageId).concat hdead (by omega)
    · rw [if_neg hl, List.append_nil]
      exact h.chain lineageId
  · intro new hnew old holdMem
    rw [hsup]
    rcases (hmem new).mp hnew with hnew | rfl
    · have hne : new.id ≠ replacement.id := hfresh new hnew
      rcases (hmem old).mp holdMem with holdMem | rfl
      · rw [h.supersedes new hnew old holdMem]
        exact or_iff_left fun he ↦ hne he.1
      · refine iff_of_false ?_ fun hv ↦ ?_
        · rintro (hs | ⟨he, -⟩)
          · exact (hold _ _ hs).2 rfl
          · exact hne he
        · have hbound := hle new hnew (hv.1.trans hlineage)
          omega
    · rcases (hmem old).mp holdMem with holdMem | rfl
      · constructor
        · rintro (hs | ⟨-, he⟩)
          · exact absurd rfl (hold _ _ hs).1
          · rw [Table.eq_of_key_eq holdMem hsource he]
            exact ⟨hlineage, hversion⟩
        · rintro ⟨hl, hv⟩
          have hsame : old = source :=
            h.eq_of_version holdMem hsource (hl.symm.trans hlineage) (by omega)
          exact .inr ⟨rfl, by rw [hsame]⟩
      · refine iff_of_false ?_ fun hv ↦ by omega
        rintro (hs | ⟨-, he⟩)
        · exact (hold _ _ hs).1 rfl
        · exact hfresh source hsource he.symm
  · intro row hr
    rcases (hmem row).mp hr with hr | rfl
    · obtain ⟨root, hroot, hid⟩ := h.rooted row hr
      exact ⟨root, (hmem root).mpr (.inl hroot), hid⟩
    · obtain ⟨root, hroot, hid⟩ := h.rooted source hsource
      exact ⟨root, (hmem root).mpr (.inl hroot), hid.trans hlineage.symm⟩
  · intro newId oldId hs
    rcases (hsup _ _).mp hs with hs | ⟨rfl, rfl⟩
    · obtain ⟨⟨new, hnew, hid⟩, old, hold, hid'⟩ := h.ends newId oldId hs
      exact ⟨⟨new, (hmem new).mpr (.inl hnew), hid⟩, old, (hmem old).mpr (.inl hold), hid'⟩
    · exact ⟨⟨replacement, (hmem replacement).mpr (.inr rfl), rfl⟩, source,
        (hmem source).mpr (.inl hsource), rfl⟩

def Extends (memories memories' : Table Memory.id) : Prop :=
  ∀ id row, memories.find? id = some row → ∃ row', memories'.find? id = some row' ∧
    row'.lineageId = row.lineageId ∧ row'.version = row.version ∧ (Live row' → Live row)

theorem Extends.refl (memories : Table Memory.id) : Extends memories memories :=
  fun _ row h ↦ ⟨row, h, rfl, rfl, id⟩

theorem Extends.trans {memories'' : Table Memory.id} (h : Extends memories memories')
    (h' : Extends memories' memories'') : Extends memories memories'' := by
  intro id row hrow
  obtain ⟨row₁, hrow₁, hl₁, hv₁, ha₁⟩ := h id row hrow
  obtain ⟨row₂, hrow₂, hl₂, hv₂, ha₂⟩ := h' id row₁ hrow₁
  exact ⟨row₂, hrow₂, hl₂.trans hl₁, hv₂.trans hv₁, ha₁ ∘ ha₂⟩

theorem extends_changeMemory {memoryId : UUID} {f : Update Memory.id} (hf : KeepsPlace f) :
    Extends memories (changeMemory memories memoryId f) := by
  intro id row hrow
  have hfind : (changeMemory memories memoryId f).find? id =
      some (if decide (row.id = memoryId) then f row else row) := by
    unfold changeMemory
    rw [Table.find?_updateWhere, hrow]
    rfl
  refine ⟨_, hfind, ?_⟩
  split
  · exact ⟨hf.lineageId row, hf.version row, hf.status row⟩
  · exact ⟨rfl, rfl, fun h ↦ h⟩

theorem extends_added {memory : Memory} (hadded : memories.insert? memory = some memories') :
    Extends memories memories' := by
  intro id row hrow
  have hne : id ≠ memory.id := by
    intro he
    have habsent := (Table.insert?_eq_some hadded).1 row (Table.mem_of_find? hrow)
    exact habsent ((Table.key_of_find? hrow).trans he)
  refine ⟨row, ?_, rfl, rfl, fun h ↦ h⟩
  rw [Table.find?_insert? hadded, if_neg hne, hrow]

def Continues (memories : Table Memory.id) : Write → Prop
  | .correctMemory sourceMemoryId replacement _ _ _ =>
    ∃ row, memories.find? sourceMemoryId = some row ∧
      replacement.lineageId = row.lineageId ∧ replacement.version = row.version + 1
  | _ => True

theorem Continues.extends {write : Write} (h : Continues memories write)
    (hs : Extends memories memories') : Continues memories' write := by
  cases write with
  | correctMemory sourceMemoryId replacement source embedding link =>
    obtain ⟨row, hrow, hl, hv⟩ := h
    obtain ⟨row', hrow', hl', hv', -⟩ := hs _ row hrow
    exact ⟨row', hrow', hl.trans hl'.symm, hv.trans (by rw [hv'])⟩
  | _ => trivial

theorem keepsPlace_confirmed (confirmation : MemoryConfirmation) (confidence : ℚ)
    (updatedAt : Datetime) : KeepsPlace (confirmed confirmation confidence updatedAt) :=
  ⟨fun _ ↦ rfl, fun _ ↦ rfl, fun _ h ↦ h⟩

theorem keepsPlace_superseded (updatedAt : Datetime) : KeepsPlace (superseded updatedAt) :=
  ⟨fun _ ↦ rfl, fun _ ↦ rfl, fun _ h ↦ nomatch h⟩

theorem keepsPlace_forgotten (updatedAt : Datetime) : KeepsPlace (forgotten updatedAt) :=
  ⟨fun _ ↦ rfl, fun _ ↦ rfl, fun _ h ↦ nomatch h⟩

theorem keepsPlace_reembedded (embeddingVersion : String) (updatedAt : Datetime) :
    KeepsPlace (reembedded embeddingVersion updatedAt) :=
  ⟨fun _ ↦ rfl, fun _ ↦ rfl, fun _ h ↦ h⟩

/-- What a correction that goes through does: it has found its source active, and supersedes it. -/
structure Corrected (memories memories' : Table Memory.id) (links links' : Table MemoryLink.id)
    (sourceMemoryId : UUID) (replacement : Memory) (link : MemoryLink) : Prop where
  source : ∃ row, memories.find? sourceMemoryId = some row ∧ Live row
  memories : (changeMemory memories sourceMemoryId (superseded replacement.updatedAt)).insert?
    replacement = some memories'
  links : links.insert? link = some links'

def LineageEffect (memories memories' : Table Memory.id) (links links' : Table MemoryLink.id) :
    Write → Answer → Prop
  | .createMemory memory _ _, _ =>
    (memories' = memories ∨ memories.insert? memory = some memories') ∧ links' = links
  | .correctMemory sourceMemoryId replacement _ _ link, answer =>
    (answer = .none ∧ memories' = memories ∧ links' = links) ∨
      Corrected memories memories' links links' sourceMemoryId replacement link
  | _, _ =>
    (memories' = memories ∨ ∃ memoryId f, KeepsPlace f ∧
      memories' = changeMemory memories memoryId f) ∧ links' = links

/-- A correction that goes through supersedes the active version, which is the last. -/
theorem LineagesChained.correct (h : LineagesChained memories links) {sourceMemoryId : UUID}
    {replacement : Memory} {source : MemorySource} {embedding : MemoryEmbedding} {link : MemoryLink}
    (hformed : WellFormed (.correctMemory sourceMemoryId replacement source embedding link))
    (hcontinues : Continues memories
      (.correctMemory sourceMemoryId replacement source embedding link))
    (hcorrected : Corrected memories memories' links links' sourceMemoryId replacement link) :
    LineagesChained memories' links' := by
  obtain ⟨-, -, -, hkind, hsourceId, htarget⟩ := hformed
  obtain ⟨⟨row, hrow, hlive⟩, hadded, hlink⟩ := hcorrected
  obtain ⟨row', hrow', hlineage, hversion⟩ := hcontinues
  obtain rfl : row = row' := Option.some.inj (hrow.symm.trans hrow')
  have hupdated := h.changeMemory sourceMemoryId
    (keepsPlace_superseded replacement.updatedAt)
  have hmem : row ∈ lineage memories row.lineageId := mem_lineage.mpr ⟨Table.mem_of_find? hrow, rfl⟩
  have hlast := (h.chain row.lineageId).version_of_live hmem hlive
  have hid : row.id = sourceMemoryId := Table.key_of_find? hrow
  have hmap : lineage (Memory.changeMemory memories sourceMemoryId
      (superseded replacement.updatedAt)) row.lineageId =
        (lineage memories row.lineageId).map fun r ↦
          if decide (r.id = sourceMemoryId) then superseded replacement.updatedAt r else r :=
    Table.filter_updateWhere _ fun r _ _ ↦ rfl
  have hafter : superseded replacement.updatedAt row ∈
      Memory.changeMemory memories sourceMemoryId (superseded replacement.updatedAt) :=
    Table.mem_updateWhere.mpr ⟨row, Table.mem_of_find? hrow, if_pos (by simpa using hid)⟩
  refine hupdated.extend (superseded replacement.updatedAt row) hadded hlink hkind
    hsourceId (htarget.trans hid.symm) hafter hlineage hversion ?_ ?_
  · show row.version = (lineage _ row.lineageId).length
    rw [hmap, List.length_map, hlast]
  · show ∀ r ∈ lineage _ row.lineageId, ¬Live r
    rw [hmap]
    intro r hr hliveR
    obtain ⟨old, hold, rfl⟩ := List.mem_map.mp hr
    split at hliveR
    · cases hliveR
    · rename_i hne
      have hsame := (h.chain row.lineageId).eq_of_live hold hmem hliveR hlive
      exact hne (by simpa [hsame] using hid)

theorem lineages_effect {write : Write} {answer : Answer} (h : LineagesChained memories links)
    (hformed : WellFormed write) (hcontinues : Continues memories write)
    (heffect : LineageEffect memories memories' links links' write answer) :
    LineagesChained memories' links' ∧ Extends memories memories' := by
  have hkept : (memories' = memories ∨ ∃ memoryId f, KeepsPlace f ∧
      memories' = changeMemory memories memoryId f) ∧ links' = links →
        LineagesChained memories' links' ∧ Extends memories memories' := by
    rintro ⟨rfl | ⟨memoryId, f, hf, rfl⟩, rfl⟩
    · exact ⟨h, Extends.refl _⟩
    · exact ⟨h.changeMemory memoryId hf, extends_changeMemory hf⟩
  cases write with
  | createMemory memory sources embedding =>
    obtain ⟨rfl | hadded, rfl⟩ := heffect
    · exact ⟨h, Extends.refl _⟩
    · exact ⟨h.create hadded hformed.2.1 hformed.2.2.1, extends_added hadded⟩
  | correctMemory sourceMemoryId replacement source embedding link =>
    rcases heffect with ⟨-, rfl, rfl⟩ | hcorrected
    · exact ⟨h, Extends.refl _⟩
    · have hplace := keepsPlace_superseded replacement.updatedAt
      exact ⟨h.correct hformed hcontinues hcorrected,
        (extends_changeMemory hplace).trans (extends_added hcorrected.memories)⟩
  | setConfirmation | forgetMemory | createIndexJob | updateIndexJob | replaceEmbedding =>
    exact hkept heffect

end tables

section effects

theorem sql_effect {s s' : LongTermStore} {write : Write} {answer : Answer}
    (hformed : WellFormed write)
    (hok : SqlAlchemyLongTermMemory.write write s = .ok (answer, s')) :
    LineageEffect s.memories s'.memories s.links s'.links write answer := by
  cases write with
  | createMemory memory sources embedding =>
    obtain ⟨-, -, -, -, hid, -⟩ := hformed
    obtain rfl := createMemory_cases hid hok
    exact ⟨.inl rfl, rfl⟩
  | setConfirmation memoryId tenantId agentId confirmation confidence updatedAt =>
    rcases setConfirmation_cases hok with rfl | ⟨-, rfl⟩
    · exact ⟨.inl rfl, rfl⟩
    · exact ⟨.inr ⟨memoryId, _, keepsPlace_confirmed .., rfl⟩, rfl⟩
  | correctMemory sourceMemoryId replacement source embedding link =>
    obtain ⟨-, -, ⟨hid, -⟩, -⟩ := hformed
    obtain ⟨rfl, rfl⟩ := correctMemory_cases hid hok
    exact .inl ⟨rfl, rfl, rfl⟩
  | forgetMemory memoryId tenantId agentId updatedAt =>
    rcases forgetMemory_cases hok with rfl | ⟨-, rfl⟩
    · exact ⟨.inl rfl, rfl⟩
    · exact ⟨.inr ⟨memoryId, _, keepsPlace_forgotten updatedAt, rfl⟩, rfl⟩
  | createIndexJob job =>
    obtain ⟨indexJobs, rfl⟩ := createIndexJob_tables hok
    exact ⟨.inl rfl, rfl⟩
  | updateIndexJob job =>
    obtain ⟨indexJobs, rfl⟩ := updateIndexJob_tables hok
    exact ⟨.inl rfl, rfl⟩
  | replaceEmbedding memoryId tenantId embedding updatedAt =>
    rcases replaceEmbedding_cases hok with rfl | ⟨-, ⟨embeddings, rfl⟩, -⟩
    · exact ⟨.inl rfl, rfl⟩
    · exact ⟨.inr ⟨memoryId, _, keepsPlace_reembedded .., rfl⟩, rfl⟩

def storesNew (s : MemoryDictionaries) : Write → Bool
  | .createMemory memory _ _ => (s.memories.find? memory.id).isNone
  | .correctMemory _ replacement _ _ link =>
    (s.memories.find? replacement.id).isNone && (s.links.find? link.id).isNone
  | _ => true

theorem put_changed {memories : Table Memory.id} {memoryId : UUID} {memory : Memory}
    {f : Update Memory.id} (hmemory : memories.find? memoryId = some memory) (hf : KeepsPlace f) :
    ∃ memoryId f', KeepsPlace f' ∧
      memories.put (f memory) = changeMemory memories memoryId f' :=
  ⟨memoryId, f, hf, Table.put_eq_updateWhere f hmemory⟩

theorem inMemory_effect {s : MemoryDictionaries} {write : Write}
    (hnew : storesNew s write = true) :
    LineageEffect s.memories (InMemoryLongTermMemory.write write s).2.memories s.links
      (InMemoryLongTermMemory.write write s).2.links write
      (InMemoryLongTermMemory.write write s).1 := by
  cases write with
  | createMemory memory sources embedding =>
    exact ⟨.inr (Table.insert?_put (Option.isNone_iff_eq_none.mp hnew)), rfl⟩
  | setConfirmation memoryId tenantId agentId confirmation confidence updatedAt =>
    simp only [InMemoryLongTermMemory.write, InMemoryLongTermMemory.setConfirmation]
    split
    · exact ⟨.inl rfl, rfl⟩
    · rename_i memory hmemory
      split
      · exact ⟨.inl rfl, rfl⟩
      · have hfind := (Option.filter_eq_some_iff.mp hmemory).1
        exact ⟨.inr (put_changed hfind (keepsPlace_confirmed ..)), rfl⟩
  | correctMemory sourceMemoryId replacement source embedding link =>
    simp only [storesNew, Bool.and_eq_true, Option.isNone_iff_eq_none] at hnew
    obtain ⟨hreplacement, hlink⟩ := hnew
    simp only [InMemoryLongTermMemory.write, InMemoryLongTermMemory.correctMemory]
    split
    · exact .inl ⟨rfl, rfl, rfl⟩
    · rename_i memory hmemory
      split
      · exact .inl ⟨rfl, rfl, rfl⟩
      · rename_i hactive
        refine .inr ⟨⟨memory, hmemory, not_not.mp hactive⟩, ?_, Table.insert?_put hlink⟩
        rw [Table.put_eq_updateWhere (superseded replacement.updatedAt) hmemory]
        refine Table.insert?_put ?_
        unfold changeMemory
        rw [Table.find?_updateWhere, hreplacement]
        rfl
  | forgetMemory memoryId tenantId agentId updatedAt =>
    simp only [InMemoryLongTermMemory.write, InMemoryLongTermMemory.forgetMemory]
    split
    · exact ⟨.inl rfl, rfl⟩
    · rename_i memory hmemory
      have hfind := (Option.filter_eq_some_iff.mp hmemory).1
      exact ⟨.inr (put_changed hfind (keepsPlace_forgotten _)), rfl⟩
  | createIndexJob job | updateIndexJob job => exact ⟨.inl rfl, rfl⟩
  | replaceEmbedding memoryId tenantId embedding updatedAt =>
    simp only [InMemoryLongTermMemory.write, InMemoryLongTermMemory.replaceEmbedding]
    split
    · exact ⟨.inl rfl, rfl⟩
    · rename_i memory hmemory
      have hfind := (Option.filter_eq_some_iff.mp hmemory).1
      exact ⟨.inr (put_changed hfind (keepsPlace_reembedded ..)), rfl⟩

end effects

/-- What holds of a correction under way: it writes a correction of its memory, and once it has
returned that memory is no longer active. -/
def CorrectionKept (memories : Table Memory.id) (command : CorrectMemory) : Phase → Prop
  | .start | .raised _ => True
  | .write write => ∃ replacement source embedding link,
      write = .correctMemory command.memoryId replacement source embedding link
  | .returned _ => ∃ row, memories.find? command.memoryId = some row ∧ ¬Live row
  | _ => False

theorem CorrectionKept.extends {t t' : Table Memory.id} {command : CorrectMemory} {phase : Phase}
    (h : CorrectionKept t command phase) (hs : Extends t t') : CorrectionKept t' command phase := by
  cases phase with
  | returned answer =>
    obtain ⟨row, hrow, hdead⟩ := h
    obtain ⟨row', hrow', -, -, hlive⟩ := hs _ row hrow
    exact ⟨row', hrow', fun h ↦ hdead (hlive h)⟩
  | _ => exact h

variable {σ : Type} {uuid5 : UUID → String → UUID} {encoder : EmbeddingEncoder}
  {repository : MemoryRepository σ} {memories : σ → Table Memory.id}
  {links : σ → Table MemoryLink.id} {s s' : σ}

section calls

theorem conclude_ne_write {request : Request} {answer : Answer} {write : Write} :
    conclude request answer ≠ .write write := by
  unfold conclude
  split <;> exact fun h ↦ nomatch h

theorem nextMemory_ne_write {running : MemoryIndexJob} {now : Datetime} {l : List Memory}
    {write : Write} : nextMemory running now l ≠ .write write := by
  induction l with
  | nil =>
    intro h
    cases h
  | cons memory l ih =>
    unfold nextMemory
    cases memory.content with
    | none => exact ih
    | some content =>
      intro h
      cases h

theorem begin_continues (hr : Reads repository memories) {request : Request} {choice : Choice}
    {write : Write} (h : begin uuid5 encoder repository request choice s = .write write) :
    Continues (memories s) write := by
  cases request with
  | createMemory command =>
    cases hp : prepareCreate uuid5 encoder command choice.clock with
    | error error => simp [begin, hp, Except.mapError, proceed] at h
    | ok write' =>
      obtain ⟨normalized, sources, rfl, -⟩ := prepareCreate_eq_ok hp
      simp only [begin, hp, Except.mapError, proceed, Phase.write.injEq] at h
      obtain rfl := h
      trivial
  | setConfirmation memoryId tenantId agentId confirmation =>
    cases hp : prepareConfirmation memoryId tenantId agentId confirmation choice.clock
      (repository.getMemoryDetail memoryId tenantId agentId s) with
    | error error => simp [begin, hp, proceed] at h
    | ok write' =>
      obtain ⟨confidence, rfl⟩ := prepareConfirmation_eq_ok hp
      simp only [begin, hp, proceed, Phase.write.injEq] at h
      obtain rfl := h
      trivial
  | correctMemory command =>
    cases hp : prepareCorrect uuid5 encoder command choice.clock
      (repository.getMemoryDetail command.memoryId command.tenantId command.agentId s) with
    | error error => simp [begin, hp, proceed] at h
    | ok write' =>
      obtain ⟨source, normalized, note, hdetail, -, rfl⟩ := prepareCorrect_eq_ok hp
      simp only [begin, hp, proceed, Phase.write.injEq] at h
      obtain rfl := h
      exact ⟨source.memory, (hr.detail hdetail).1, rfl, rfl⟩
  | forgetMemory memoryId tenantId agentId =>
    obtain rfl := Phase.write.inj h
    trivial
  | requestEmbeddingRebuild tenantId agentId userId actorId jobId =>
    obtain rfl := Phase.write.inj h
    trivial
  | runEmbeddingRebuild tenantId agentId jobId =>
    unfold begin at h
    dsimp only at h
    split at h
    · cases h
    · split at h <;> cases h

/-- Whatever a call is about to write continues the lineage it is for. -/
theorem advance_continues (hr : Reads repository memories) {call call' : Call} {choice : Choice}
    {write : Write} (hcall : ∀ write, call.phase = .write write → Continues (memories s) write)
    (h : advance uuid5 encoder repository call choice s = (call', s'))
    (hphase : call'.phase = .write write) : Continues (memories s) write := by
  unfold advance at h
  cases hissued : issued uuid5 encoder call.phase choice with
  | some issuedWrite =>
    have hresume : ∀ outcome, resume call choice outcome ≠ .write write := by
      intro outcome
      unfold resume
      cases hold : call.phase with
      | start | listMemories | returned | raised =>
        rw [hold] at hissued
        cases hissued
      | write =>
        cases outcome with
        | error error => exact fun h ↦ nomatch h
        | ok answer => exact conclude_ne_write
      | startJob | recordProgress =>
        cases outcome with
        | error error => exact fun h ↦ nomatch h
        | ok answer => exact nextMemory_ne_write
      | replaceEmbedding | completeJob | failJob => cases outcome <;> exact fun h ↦ nomatch h
    rw [hissued] at h
    dsimp only at h
    split at h
    · obtain ⟨rfl, -⟩ := Prod.mk.inj h
      exact absurd hphase (hresume _)
    · obtain ⟨rfl, -⟩ := Prod.mk.inj h
      exact absurd hphase (hresume _)
  | none =>
    rw [hissued] at h
    cases hold : call.phase with
    | start =>
      rw [hold] at h
      obtain ⟨rfl, -⟩ := Prod.mk.inj h
      exact begin_continues hr hphase
    | listMemories job =>
      rw [hold] at h
      obtain ⟨rfl, -⟩ := Prod.mk.inj h
      cases hphase
    | returned | raised =>
      rw [hold] at h
      obtain ⟨rfl, -⟩ := Prod.mk.inj h
      exact hcall write hphase
    | write | startJob | replaceEmbedding | recordProgress | completeJob | failJob =>
      rw [hold] at hissued
      cases hissued

theorem begin_correction {command : CorrectMemory} {choice : Choice} :
    CorrectionKept (memories s) command
      (begin uuid5 encoder repository (.correctMemory command) choice s) := by
  unfold begin
  dsimp only
  cases hp : prepareCorrect uuid5 encoder command choice.clock
    (repository.getMemoryDetail command.memoryId command.tenantId command.agentId s) with
  | error error => trivial
  | ok write =>
    obtain ⟨source, normalized, note, -, -, rfl⟩ := prepareCorrect_eq_ok hp
    exact ⟨_, _, _, _, rfl⟩

def Effective (uuid5 : UUID → String → UUID) (encoder : EmbeddingEncoder)
    (repository : MemoryRepository σ) (memories : σ → Table Memory.id)
    (links : σ → Table MemoryLink.id) (call : Call) (choice : Choice) (s : σ) : Prop :=
  ∀ write answer store, choice.faulty = false → issued uuid5 encoder call.phase choice = some write →
    WellFormed write → repository.write write s = .ok (answer, store) →
      LineageEffect (memories s) (memories store) (links s) (links store) write answer

/-- A correction that returns has found its memory active. -/
theorem advance_correction {call call' : Call} {choice : Choice} {command : CorrectMemory}
    (heffect : Effective uuid5 encoder repository memories links call choice s)
    (hformed : PhaseKept call.phase) (hrequest : call.request = .correctMemory command)
    (hkept : CorrectionKept (memories s) command call.phase)
    (h : advance uuid5 encoder repository call choice s = (call', s')) :
    CorrectionKept (memories s') command call'.phase ∧
      ∀ answer, call'.phase = .returned answer → call.phase = .returned answer ∨
        ∃ row, (memories s).find? command.memoryId = some row ∧ Live row := by
  obtain ⟨request, phase⟩ := call
  obtain rfl : request = .correctMemory command := hrequest
  cases phase with
  | start =>
    obtain ⟨rfl, rfl⟩ := Prod.mk.inj h
    have hbegin : CorrectionKept (memories s) command
        (begin uuid5 encoder repository (.correctMemory command) choice s) := begin_correction
    refine ⟨hbegin, fun answer hreturned ↦ ?_⟩
    unfold begin at hreturned
    dsimp only at hreturned
    cases hp : prepareCorrect uuid5 encoder command choice.clock
      (repository.getMemoryDetail command.memoryId command.tenantId command.agentId s) <;>
      rw [hp] at hreturned <;> cases hreturned
  | returned answer =>
    obtain ⟨rfl, rfl⟩ := Prod.mk.inj h
    exact ⟨hkept, fun _ he ↦ .inl he⟩
  | raised failure =>
    obtain ⟨rfl, rfl⟩ := Prod.mk.inj h
    exact ⟨hkept, fun _ he ↦ .inl he⟩
  | write write =>
    obtain ⟨replacement, source, embedding, link, rfl⟩ := hkept
    unfold advance at h
    dsimp only [issued] at h
    split at h
    · obtain ⟨rfl, rfl⟩ := Prod.mk.inj h
      refine ⟨trivial, fun _ he ↦ ?_⟩
      cases he
    · rename_i answer store hok
      obtain ⟨rfl, rfl⟩ := Prod.mk.inj h
      have hwrite : choice.faulty = false ∧ repository.write
          (.correctMemory command.memoryId replacement source embedding link) s =
            .ok (answer, store) := by
        split at hok
        · cases hok
        · rename_i hfaulty
          exact ⟨Bool.not_eq_true _ ▸ hfaulty, hok⟩
      rcases heffect _ answer store hwrite.1 rfl hformed hwrite.2 with
        ⟨rfl, hmemories, -⟩ | hcorrected
      · refine ⟨trivial, fun _ he ↦ ?_⟩
        cases he
      · obtain ⟨row, hrow, hlive⟩ := hcorrected.source
        have hsuperseded : (changeMemory (memories s) command.memoryId
            (superseded replacement.updatedAt)).find? command.memoryId =
              some (superseded replacement.updatedAt row) :=
          Table.find?_updateWhere_self hrow
        obtain ⟨row', hrow', -, -, hdead⟩ := extends_added hcorrected.memories _ _ hsuperseded
        have hnot : ¬Live row' := by
          intro hlive'
          cases hdead hlive'
        have hkept : ∃ row, (memories store).find? command.memoryId = some row ∧ ¬Live row :=
          ⟨row', hrow', hnot⟩
        refine ⟨?_, fun _ _ ↦ .inr ⟨row, hrow, hlive⟩⟩
        show CorrectionKept (memories store) command (conclude (.correctMemory command) answer)
        cases answer with
        | none => trivial
        | detail | memory | job => exact hkept
  | listMemories | startJob | replaceEmbedding | recordProgress | completeJob | failJob =>
    exact absurd hkept id

theorem advance_request (call : Call) (choice : Choice) (t : σ) :
    (advance uuid5 encoder repository call choice t).1.request = call.request := by
  unfold advance
  split
  · split <;> rfl
  · rfl
  · rfl
  · rfl

end calls

/-- The call at place `i` is a correction of the memory that has returned. -/
def CorrectionReturned (s : LongTermState σ) (i : ℕ) (memoryId : UUID) : Prop :=
  ∃ command answer, s.calls[i]? = some ⟨.correctMemory command, .returned answer⟩ ∧
    command.memoryId = memoryId

structure LineageRun (memories : σ → Table Memory.id) (links : σ → Table MemoryLink.id)
    (s : LongTermState σ) : Prop where
  calls : CallsKept s
  lineages : LineagesChained (memories s.store) (links s.store)
  continues : ∀ call ∈ s.calls, ∀ write, call.phase = .write write →
    Continues (memories s.store) write
  corrections : ∀ call ∈ s.calls, ∀ command, call.request = .correctMemory command →
    CorrectionKept (memories s.store) command call.phase
  once : ∀ i j memoryId, CorrectionReturned s i memoryId → CorrectionReturned s j memoryId → i = j

theorem CorrectionReturned.dead {s : LongTermState σ} {i : ℕ} {memoryId : UUID}
    (h : CorrectionReturned s i memoryId) (hs : LineageRun memories links s) :
    ∃ row, (memories s.store).find? memoryId = some row ∧ ¬Live row := by
  obtain ⟨command, answer, hcall, rfl⟩ := h
  exact hs.corrections _ (List.mem_of_getElem? hcall) command rfl

section step

theorem lineageRun_request {s : LongTermState σ} (h : LineageRun memories links s)
    (request : Request) :
    LineageRun memories links { s with calls := s.calls ++ [⟨request, .start⟩] } := by
  have hcase : ∀ call ∈ s.calls ++ [(⟨request, .start⟩ : Call)],
      call ∈ s.calls ∨ call.phase = .start := by
    intro call hcall
    rcases List.mem_append.mp hcall with hcall | hcall
    · exact .inl hcall
    · rw [List.mem_singleton.mp hcall]
      exact .inr rfl
  have hreturned : ∀ i memoryId,
      CorrectionReturned { s with calls := s.calls ++ [⟨request, .start⟩] } i memoryId →
        CorrectionReturned s i memoryId := by
    rintro i memoryId ⟨command, answer, hcall, hid⟩
    refine ⟨command, answer, ?_, hid⟩
    by_cases hi : i < s.calls.length
    · rwa [List.getElem?_append_left hi] at hcall
    · rw [List.getElem?_append_right (by omega)] at hcall
      have hmem := List.mem_singleton.mp (List.mem_of_getElem? hcall)
      cases hmem
  refine ⟨?_, h.lineages, ?_, ?_, ?_⟩
  · intro call hcall
    rcases hcase call hcall with hcall | hstart
    · exact h.calls call hcall
    · rw [hstart]
      trivial
  · intro call hcall write hphase
    rcases hcase call hcall with hcall | hstart
    · exact h.continues call hcall write hphase
    · rw [hstart] at hphase
      cases hphase
  · intro call hcall command hrequest
    rcases hcase call hcall with hcall | hstart
    · exact h.corrections call hcall command hrequest
    · rw [hstart]
      trivial
  · intro i j memoryId hi hj
    exact h.once i j memoryId (hreturned i memoryId hi) (hreturned j memoryId hj)

/-- A session only extends the tables and keeps the lineages chained. -/
theorem lineages_advance (hr : Reads repository memories) {s : LongTermState σ}
    (h : LineageRun memories links s) {i : ℕ} {call : Call} (hcall : s.calls[i]? = some call)
    {choice : Choice}
    (heffect : Effective uuid5 encoder repository memories links call choice s.store) :
    let store := (advance uuid5 encoder repository call choice s.store).2
    LineagesChained (memories store) (links store) ∧
      Extends (memories s.store) (memories store) := by
  dsimp only
  have hmem := List.mem_of_getElem? hcall
  rw [(advance_spec hr call choice s.store (h.calls call hmem)).2]
  unfold written
  split
  · exact ⟨h.lineages, Extends.refl _⟩
  · rename_i write hissued
    split
    · exact ⟨h.lineages, Extends.refl _⟩
    · rename_i answer store hok
      split at hissued
      · cases hissued
      · rename_i hfaulty
        have hformed := wellFormed_of_issued (h.calls call hmem) hissued
        have hcontinues : Continues (memories s.store) write := by
          cases hphase : call.phase with
          | write write' =>
            rw [hphase] at hissued
            obtain rfl := Option.some.inj hissued
            exact h.continues call hmem _ hphase
          | startJob | recordProgress | completeJob | failJob | replaceEmbedding =>
            rw [hphase] at hissued
            obtain rfl := Option.some.inj hissued
            trivial
          | start | listMemories | returned | raised =>
            rw [hphase] at hissued
            cases hissued
        exact lineages_effect h.lineages hformed hcontinues
          (heffect write answer store (Bool.not_eq_true _ ▸ hfaulty) hissued hformed hok)

theorem lineageRun_step (hr : Reads repository memories) {s : LongTermState σ}
    (h : LineageRun memories links s) {a : LongTermAction}
    (heffect : ∀ i choice call, a = .advance i choice → s.calls[i]? = some call →
      Effective uuid5 encoder repository memories links call choice s.store) :
    LineageRun memories links (longTermStep uuid5 encoder repository s a).2 := by
  cases a with
  | request request => exact lineageRun_request h request
  | advance i choice =>
    have hcalls : CallsKept (longTermStep uuid5 encoder repository s (.advance i choice)).2 :=
      callsKept_step hr s _ h.calls
    unfold longTermStep at hcalls ⊢
    dsimp only at hcalls ⊢
    cases hcall : s.calls[i]? with
    | none => exact h
    | some call =>
      rw [hcall] at hcalls
      dsimp only at hcalls ⊢
      have hmem := List.mem_of_getElem? hcall
      have heffective := heffect i choice call rfl hcall
      obtain ⟨hlineages, hextends⟩ := lineages_advance hr h hcall heffective
      have hrequest : (advance uuid5 encoder repository call choice s.store).1.request =
          call.request := advance_request call choice s.store
      cases hadvance : advance uuid5 encoder repository call choice s.store with
      | mk call' store =>
      rw [hadvance] at hcalls hlineages hextends hrequest
      dsimp only at hcalls hlineages hextends hrequest ⊢
      have hcorrection : ∀ command, call'.request = .correctMemory command →
          CorrectionKept (memories store) command call'.phase ∧
            ∀ answer, call'.phase = .returned answer → call.phase = .returned answer ∨
              ∃ row, (memories s.store).find? command.memoryId = some row ∧ Live row :=
        fun command hc ↦ advance_correction heffective (h.calls call hmem) (hrequest.symm.trans hc)
          (h.corrections call hmem command (hrequest.symm.trans hc)) hadvance
      -- a correction that returns now was alone: its memory was active until then
      have hreturned : ∀ j memoryId,
          CorrectionReturned ⟨store, s.calls.set i call'⟩ j memoryId →
            CorrectionReturned s j memoryId ∨
              j = i ∧ ∃ row, (memories s.store).find? memoryId = some row ∧ Live row := by
        rintro j memoryId ⟨command, answer, hj, rfl⟩
        dsimp only at hj
        by_cases hji : i = j
        · subst hji
          have hlt := (List.getElem?_eq_some_iff.mp hcall).1
          rw [List.getElem?_set_self hlt] at hj
          obtain rfl := Option.some.inj hj
          rcases (hcorrection command rfl).2 answer rfl with hold | hlive
          · refine .inl ⟨command, answer, ?_, rfl⟩
            rw [hcall, ← hold]
            exact congrArg some (congrArg (fun r ↦ (⟨r, call.phase⟩ : Call)) hrequest.symm)
          · exact .inr ⟨rfl, hlive⟩
        · rw [List.getElem?_set_ne hji] at hj
          exact .inl ⟨command, answer, hj, rfl⟩
      refine ⟨hcalls, hlineages, ?_, ?_, ?_⟩
      · intro other hother write hphase
        rcases List.mem_or_eq_of_mem_set hother with hother | rfl
        · exact (h.continues other hother write hphase).extends hextends
        · exact (advance_continues hr (h.continues call hmem) hadvance hphase).extends hextends
      · intro other hother command hc
        rcases List.mem_or_eq_of_mem_set hother with hother | rfl
        · exact (h.corrections other hother command hc).extends hextends
        · exact (hcorrection command hc).1
      · intro j k memoryId hj hk
        have hexcluded : ∀ l, CorrectionReturned s l memoryId →
            ∀ row, (memories s.store).find? memoryId = some row → ¬Live row := by
          intro l hl row hrow
          obtain ⟨row', hrow', hdead⟩ := hl.dead h
          rwa [Option.some.inj (hrow.symm.trans hrow')]
        rcases hreturned j memoryId hj with hj | ⟨hji, row, hrow, hlive⟩
        · rcases hreturned k memoryId hk with hk | ⟨-, row, hrow, hlive⟩
          · exact h.once j k memoryId hj hk
          · exact absurd hlive (hexcluded j hj row hrow)
        · rcases hreturned k memoryId hk with hk | ⟨hki, -⟩
          · exact absurd hlive (hexcluded k hk row hrow)
          · exact hji.trans hki.symm

end step

structure LineageLaw (memories : σ → Table Memory.id) (links : σ → Table MemoryLink.id)
    (s : LongTermState σ) : Prop where
  versions : ∀ lineageId, (lineage (memories s.store) lineageId).map Memory.version =
    List.range' 1 (lineage (memories s.store) lineageId).length
  active : ∀ lineageId, ∀ memory ∈ lineage (memories s.store) lineageId,
    memory.status = .active → (lineage (memories s.store) lineageId).getLast? = some memory
  supersedes : ∀ new ∈ memories s.store, ∀ old ∈ memories s.store,
    Supersedes (links s.store) new.id old.id ↔
      new.lineageId = old.lineageId ∧ new.version = old.version + 1
  successor : ∀ a ∈ memories s.store, ∀ b ∈ memories s.store, ∀ old ∈ memories s.store,
    Supersedes (links s.store) a.id old.id → Supersedes (links s.store) b.id old.id → a = b
  corrected : ∀ i j memoryId, CorrectionReturned s i memoryId → CorrectionReturned s j memoryId →
    i = j

theorem LineageRun.law {s : LongTermState σ} (h : LineageRun memories links s) :
    LineageLaw memories links s where
  versions lineageId := (h.lineages.chain lineageId).versions
  active lineageId _ hmemory hactive :=
    (h.lineages.chain lineageId).getLast?_of_live hmemory hactive
  supersedes := h.lineages.supersedes
  successor _ ha _ hb _ hold hsa hsb := h.lineages.successor_unique ha hb hold hsa hsb
  corrected := h.once

theorem lineageRun_start {store : σ} (h : LineagesChained (memories store) (links store)) :
    LineageRun memories links ⟨store, []⟩ where
  calls := fun _ h ↦ absurd h List.not_mem_nil
  lineages := h
  continues := fun _ h ↦ absurd h List.not_mem_nil
  corrections := fun _ h ↦ absurd h List.not_mem_nil
  once := fun _ _ _ ⟨_, _, h, _⟩ ↦ nomatch h

def drawsNew (uuid5 : UUID → String → UUID) (encoder : EmbeddingEncoder)
    (s : LongTermState MemoryDictionaries) (a : LongTermAction) : Bool :=
  (s.writing uuid5 encoder a).all (storesNew s.store)

theorem sql_lineageRun (uuid5 : UUID → String → UUID) (encoder : EmbeddingEncoder)
    {store : LongTermStore} (h : LineagesChained store.memories store.links)
    (as : List LongTermAction) :
    LineageRun LongTermStore.memories LongTermStore.links
      (Machine.run (longTermStep uuid5 encoder SqlAlchemyLongTermMemory.repository) ⟨store, []⟩
        as) := by
  refine Machine.run_invariant_all (I := LineageRun LongTermStore.memories LongTermStore.links)
    (fun s a hs ↦ lineageRun_step sql_reads hs ?_) (lineageRun_start h) as
  exact fun i choice call _ _ write answer store _ _ hformed hok ↦ sql_effect hformed hok

theorem inMemory_lineageRun {as : List LongTermAction}
    (h : Machine.Along (longTermStep uuid5 encoder InMemoryLongTermMemory.repository)
      (fun s a ↦ drawsNew uuid5 encoder s a = true) ⟨InMemoryLongTermMemory.empty, []⟩ as) :
    LineageRun MemoryDictionaries.memories MemoryDictionaries.links
      (Machine.run (longTermStep uuid5 encoder InMemoryLongTermMemory.repository)
        ⟨InMemoryLongTermMemory.empty, []⟩ as) := by
  refine Machine.run_invariant
    (I := LineageRun MemoryDictionaries.memories MemoryDictionaries.links)
    (fun s a hs hnew ↦ lineageRun_step inMemory_reads hs ?_)
    (lineageRun_start lineagesChained_empty) h
  rintro i choice call rfl hcall write answer store hfaulty hissued - hok
  have hwriting : s.writing uuid5 encoder (.advance i choice) = some write := by
    unfold LongTermState.writing
    dsimp only
    rw [hfaulty, if_neg Bool.false_ne_true, hcall, Option.bind_some, hissued]
  unfold drawsNew at hnew
  rw [hwriting] at hnew
  obtain ⟨rfl, rfl⟩ := Prod.mk.inj (Except.ok.inj hok)
  exact inMemory_effect hnew

/-- In every run of the service over the database, from any tables whose lineages are chained, the
versions of a lineage are numbered from one and supersede each other in turn, only the last is
active, and a version is corrected once. In memory it is so in the runs in which memories and links
are stored under new ids. -/
theorem lineage_is_chain (uuid5 : UUID → String → UUID) (encoder : EmbeddingEncoder)
    (as : List LongTermAction) :
    (∀ store : LongTermStore, LineagesChained store.memories store.links →
      LineageLaw LongTermStore.memories LongTermStore.links
        (Machine.run (longTermStep uuid5 encoder SqlAlchemyLongTermMemory.repository)
          ⟨store, []⟩ as)) ∧
      (Machine.Along (longTermStep uuid5 encoder InMemoryLongTermMemory.repository)
          (fun s a ↦ drawsNew uuid5 encoder s a = true) ⟨InMemoryLongTermMemory.empty, []⟩ as →
        LineageLaw MemoryDictionaries.memories MemoryDictionaries.links
          (Machine.run (longTermStep uuid5 encoder InMemoryLongTermMemory.repository)
            ⟨InMemoryLongTermMemory.empty, []⟩ as)) :=
  ⟨fun _ h ↦ (sql_lineageRun uuid5 encoder h as).law, fun h ↦ (inMemory_lineageRun h).law⟩

def prefersCoffee (memoryId replacementId : UUID) : CorrectMemory where
  memoryId
  tenantId := 1
  agentId := 2
  content := "prefers coffee"
  eventAt := 0
  actorId := 3
  note := none
  replacementId
  correctionSourceId := 100 + replacementId
  linkId := 200 + replacementId

def correctedTwice : List LongTermAction :=
  runCall 0 (.createMemory (likesTea 7)) 2 10 ++
    runCall 1 (.correctMemory (prefersCoffee 7 8)) 2 11 ++
    runCall 2 (.correctMemory (prefersCoffee 8 9)) 2 12 ++
    runCall 3 (.correctMemory (prefersCoffee 8 10)) 2 13

theorem remembered_chained : LineagesChained remembered.memories remembered.links := by
  have hadded : (Table.empty : Table Memory.id).insert?
      (created localEncoder (likesTea 7) "likes tea" 5) = some remembered.memories := rfl
  exact lineagesChained_empty.create hadded rfl rfl

/-- In memory the third correction is too late; in the database none goes through, and the memory
can still be forgotten. -/
theorem lineage_is_chain_correctedTwice :
    let s := Machine.run (longTermStep sumUuid5 localEncoder InMemoryLongTermMemory.repository)
      ⟨InMemoryLongTermMemory.empty, []⟩ correctedTwice
    let t := Machine.run (longTermStep sumUuid5 localEncoder SqlAlchemyLongTermMemory.repository)
      ⟨remembered, []⟩ (correctedTwice ++ runCall 4 (.forgetMemory 7 1 2) 2 20)
    (lineage s.store.memories 7).map (fun memory ↦ (memory.id, memory.version, memory.status)) =
        [(7, 1, .superseded), (8, 2, .superseded), (9, 3, .active)] ∧
      (lineage t.store.memories 7).map (fun memory ↦ (memory.id, memory.version, memory.status)) =
        [(7, 1, .forgotten)] ∧
      LineageLaw MemoryDictionaries.memories MemoryDictionaries.links s ∧
      LineageLaw LongTermStore.memories LongTermStore.links t :=
  ⟨by decide +kernel, by decide +kernel,
    (lineage_is_chain sumUuid5 localEncoder correctedTwice).2 (by decide +kernel),
    (lineage_is_chain sumUuid5 localEncoder
      (correctedTwice ++ runCall 4 (.forgetMemory 7 1 2) 2 20)).1 remembered remembered_chained⟩

end CyberNetizen.Memory
