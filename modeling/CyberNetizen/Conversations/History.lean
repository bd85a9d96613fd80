import CyberNetizen.Conversations.RunContext
import CyberNetizen.Listings.Walks

/-! # Reading the history of a conversation while it goes on -/

namespace CyberNetizen.Conversations

open Domain Infrastructure Infrastructure.ConversationRepository Application Application.Pagination
  KeyedTable

section places

variable {p : Allowed} {s t : ConversationStore}

/-- Where a message stands: its conversation, its time and its id. -/
def place (m : Message) : UUID × ListingKey := (m.conversationId, messageOrder m)

def places (s : ConversationStore) : List (UUID × ListingKey) := s.messages.rows.map place

theorem places_emit {c : UUID} {e : Emission} : places (emit c s e) = places s := by
  rw [places, places, emit_messages]

theorem places_emitAll {c : UUID} {es : List Emission} : places (emitAll c es s) = places s := by
  rw [places, places, emitAll_messages]

/-- A change leaves every message where it stands, and may bring new ones. -/
theorem places_change (hc : Change p s t) : places s <+: places t := by
  cases hc with
  | row c f hkeep => exact List.prefix_rfl
  | feedback => exact List.prefix_rfl
  | note c e => exact places_emit.symm ▸ List.prefix_rfl
  | founded row userId t hseq hi =>
    obtain ⟨conversations, members, -, -, rfl⟩ := insertConversation_eq_ok hi
    exact List.prefix_rfl
  | copied item copy t hopens hitem hcopy hc hi =>
    obtain ⟨-, messages, hm, rfl⟩ := insertMessage_eq_ok hi
    rw [places_emit, places, places, (Table.insert?_eq_some hm).2, List.map_append]
    exact List.prefix_append _ _
  | opened messages response run t hopens hc hopening ho =>
    rw [places, places, ho.messageRows, List.map_append]
    exact List.prefix_append _ _
  | wrote w now run response =>
    have hrows : places { s with
        runs := s.runs.updateWhere (·.id = run.id) (w.run now)
        messages := s.messages.updateWhere (·.id = response.id) (w.response now) } = places s :=
      Table.map_updateWhere fun m ↦ by cases w <;> rfl
    unfold writeRun
    exact (places_emitAll.trans hrows).symm ▸ List.prefix_rfl

theorem places_step (w : World) (a : Action) : places w.store <+: places (step w a).2.store :=
  step_keeps_all (I := fun t ↦ places w.store <+: places t)
    (fun _ _ h hc ↦ h.trans (places_change hc)) w a List.prefix_rfl

theorem places_run (w : World) (as : List Action) : places w.store <+: places (run w as).store := by
  induction as generalizing w with
  | nil => exact List.prefix_rfl
  | cons a as ih => exact (places_step w a).trans (ih (step w a).2)

end places

section views

variable {s t : ConversationStore} {m : Message}

def present (s : ConversationStore) (m : Message) : Bool := (s.messages.find? m.id).isSome

def nowShown (s : ConversationStore) (m : Message) : Message := (s.messages.find? m.id).getD m

theorem map_getD_of_map_some {α β : Type} {g : α → Option β} {d : α → β} {l : List α} {l' : List β}
    (h : l.map g = l'.map some) : l.map (fun a ↦ (g a).getD (d a)) = l' := by
  induction l generalizing l' with
  | nil =>
    cases l' with
    | nil => rfl
    | cons b l' => cases h
  | cons a l ih =>
    cases l' with
    | nil => cases h
    | cons b l' =>
      obtain ⟨ha, hl⟩ := List.cons.inj h
      rw [List.map_cons, ih hl, ha, Option.getD_some]

/-- The messages of now are those of later that are there already, as they are now. -/
theorem messages_eq_filter (h : places s <+: places t) :
    s.messages.rows = (t.messages.rows.filter (present s)).map (nowShown s) := by
  obtain ⟨rest, hrest⟩ := h
  obtain ⟨old, new, hrows, hold, hnew⟩ := List.map_eq_append_iff.mp hrest.symm
  have hids : old.map (fun m ↦ s.messages.find? m.id) = s.messages.rows.map some := by
    have hfind : s.messages.rows.map (fun m ↦ s.messages.find? m.id) = s.messages.rows.map some :=
      List.map_congr_left fun m hm ↦ Table.find?_key hm
    have hplaces := congrArg (List.map fun pl ↦ s.messages.find? (ofLex (Prod.snd pl)).2) hold
    rw [List.map_map, places, List.map_map] at hplaces
    exact hplaces.trans hfind
  have hpresent : ∀ m ∈ old, present s m = true := by
    intro m hm
    have hmem : s.messages.find? m.id ∈ s.messages.rows.map some := by
      rw [← hids]
      exact List.mem_map_of_mem hm
    obtain ⟨x, -, hx⟩ := List.mem_map.mp hmem
    rw [present, ← hx]
    rfl
  have habsent : ∀ m ∈ new, present s m = false := by
    intro m hm
    rw [present, Option.isSome_eq_false_iff, Option.isNone_iff_eq_none, Table.find?_eq_none]
    intro x hx hid
    have hxold : place x ∈ old.map place := by
      rw [hold]
      exact List.mem_map_of_mem hx
    obtain ⟨x', hx', hplace⟩ := List.mem_map.mp hxold
    have hsame : x'.id = m.id :=
      (congrArg (fun pl ↦ (ofLex (Prod.snd pl)).2) hplace).trans hid
    have hnodup := t.messages.nodup
    rw [hrows, List.map_append] at hnodup
    exact (List.nodup_append.mp hnodup).2.2 _ (List.mem_map_of_mem hx') _
      (List.mem_map_of_mem hm) hsame
  rw [hrows, List.filter_append, List.filter_eq_self.mpr hpresent,
    List.filter_eq_nil_iff.mpr fun m hm ↦ by simp [habsent m hm], List.append_nil]
  exact (map_getD_of_map_some hids).symm

theorem place_nowShown (h : places s <+: places t) (hm : m ∈ t.messages) :
    place (nowShown s m) = place m := by
  unfold nowShown
  cases hfind : s.messages.find? m.id with
  | none => rfl
  | some x =>
    have hplace : place x ∈ places t :=
      h.subset (List.mem_map_of_mem (Table.mem_of_find? hfind))
    obtain ⟨x', hx', heq⟩ := List.mem_map.mp hplace
    have hkey : x.id = m.id := Table.key_of_find? hfind
    have hid : x'.id = m.id := (congrArg (fun pl ↦ (ofLex (Prod.snd pl)).2) heq).trans hkey
    rw [Option.getD_some, ← heq, Table.eq_of_key_eq hx' hm hid]

theorem present_mono (h : places s <+: places t) (hm : present s m = true) :
    present t m = true := by
  obtain ⟨x, hx⟩ := Option.isSome_iff_exists.mp hm
  have hplace : place x ∈ places t := h.subset (List.mem_map_of_mem (Table.mem_of_find? hx))
  obtain ⟨x', hx', heq⟩ := List.mem_map.mp hplace
  have hkey : x.id = m.id := Table.key_of_find? hx
  have hid : x'.id = m.id := (congrArg (fun pl ↦ (ofLex (Prod.snd pl)).2) heq).trans hkey
  rw [present, ← hid, Table.find?_key hx']
  rfl

end views

/-- What reading a conversation back, page after page, comes to. Page `n` is read from `stores n`;
within a page and from the last page to the first, the messages are in the order of their times. -/
structure HistoryRead (stores : ℕ → ConversationStore) (conversationId : UUID) (limit : ℕ)
    (pages : List (List Message)) : Prop where
  ordered : pages.reverse.flatten.Pairwise fun a b ↦ messageOrder a < messageOrder b
  complete : ∀ m ∈ (stores 0).messages, m.conversationId = conversationId →
    ∃ m' ∈ pages.reverse.flatten, place m' = place m
  current : ∀ n p, pages[n]? = some p → ∀ m ∈ p,
    m ∈ (stores n).messages ∧ m.conversationId = conversationId
  bounded : ∀ p ∈ pages, p.length ≤ limit
  nonempty : ∀ p ∈ pages.tail, p ≠ []

section reading

variable {identity : DevelopmentIdentity} {conversationId : UUID} {limit : ℕ}
  {stores : ℕ → ConversationStore} {last : ConversationStore}

def onPage (stores : ℕ → ConversationStore) (conversationId : UUID) (n : ℕ) (m : Message) : Bool :=
  present (stores n) m && m.conversationId = conversationId

def messageToken (m : Message) : String := encodeCursor ⟨m.createdAt, m.id⟩

theorem messageToken_congr {m m' : Message} (h : place m = place m') :
    messageToken m = messageToken m' := by
  have horder : messageOrder m = messageOrder m' := congrArg Prod.snd h
  have htime : m.createdAt = m'.createdAt := congrArg (fun k ↦ (ofLex k).1) horder
  have hid : m.id = m'.id := congrArg (fun k ↦ (ofLex k).2) horder
  rw [messageToken, messageToken, htime, hid]

theorem page_eq {s : ConversationStore} (h : places s <+: places last) (after : Option ListingKey) :
    Keyset.page messageOrder s.messages.rows messageToken limit
      (·.conversationId = conversationId) after =
      let p := Keyset.page messageOrder last.messages.rows messageToken limit
        (fun m ↦ present s m && m.conversationId = conversationId) after
      (p.1.map (nowShown s), p.2) := by
  have hplace : ∀ m ∈ last.messages.rows, present s m = true → place (nowShown s m) = place m :=
    fun m hm _ ↦ place_nowShown h hm
  rw [messages_eq_filter h]
  refine Keyset.page_map (fun m hm hp ↦ ?_) (fun m hm hp ↦ ?_) (fun m hm hp ↦ ?_) limit
  · exact congrArg Prod.snd (hplace m hm hp)
  · have hconversation : (nowShown s m).conversationId = m.conversationId :=
      congrArg Prod.fst (hplace m hm hp)
    rw [hconversation]
  · exact messageToken_congr (hplace m hm hp)

def newestFirst (p : List Message × Option String) : List Message × Option String :=
  (p.1.reverse, p.2)

theorem listMessages_eq {s : ConversationStore} (value : Option String)
    (hopen : (conversationForUser conversationId identity.userId identity.agentId s).isSome) :
    (ConversationService.listMessages identity conversationId limit value s).map newestFirst =
      ((decodeCursor value).mapError ConversationService.ListingError.invalidCursor).bind
        fun cursor ↦ .ok (Keyset.page messageOrder s.messages.rows messageToken limit
          (·.conversationId = conversationId) (cursor.map entityKey)) := by
  obtain ⟨conversation, hfound⟩ := Option.isSome_iff_exists.mp hopen
  have hmember : (s.members.find? (conversationId, identity.userId)).isNone = false := by
    unfold conversationForUser at hfound
    split at hfound
    · rename_i hmember
      rw [← Option.not_isSome, hmember, Bool.not_true]
    · cases hfound
  unfold ConversationService.listMessages
  rw [hfound]
  cases decodeCursor value with
  | error e => rfl
  | ok cursor =>
    simp only [listMessages, hmember, Option.map_map]
    simp only [Except.map, newestFirst, List.reverse_reverse, Prod.mk.eta]
    rfl

/-- The pages of the service are those of one listing, of which each shows what is there when it is
read. -/
theorem listMessages_serves (limit : ℕ) (h : ∀ n, places (stores n) <+: places last)
    (hfits : ∀ m ∈ last.messages, Listings.Fits (messageOrder m))
    (hopen : ∀ n,
      (conversationForUser conversationId identity.userId identity.agentId (stores n)).isSome) :
    Keyset.Serves messageOrder last.messages.rows
      (fun n value ↦ (ConversationService.listMessages identity conversationId limit value
        (stores n)).map newestFirst) messageToken limit (onPage stores conversationId)
      fun n ↦ nowShown (stores n) := by
  refine Listings.serves_of_cursor
    (fun value ↦ (decodeCursor value).mapError ConversationService.ListingError.invalidCursor)
    entityKey rfl (fun m hm ↦ ⟨⟨m.createdAt, m.id⟩, ?_, rfl⟩) fun n value ↦ ?_
  · have hdecode := Listings.decodeCursor_entity (hfits m hm)
    exact congrArg (Except.mapError ConversationService.ListingError.invalidCursor) hdecode
  · rw [listMessages_eq value (hopen n)]
    simp only [page_eq (h n)]
    rfl

theorem historyRead_of_complete {ps : List (List Message)} {pages : List (List Message)}
    (h : ∀ n, places (stores n) <+: places last)
    (hps : Keyset.Complete messageOrder last.messages.rows limit (onPage stores conversationId) 0
      none ps)
    (hpages : pages.map List.reverse = Keyset.shown (fun n ↦ nowShown (stores n)) 0 ps) :
    HistoryRead stores conversationId limit pages := by
  have hplace : ∀ n, ∀ m ∈ ps.flatten, place (nowShown (stores n) m) = place m :=
    fun n m hm ↦ place_nowShown (h n) (hps.mem m hm).1
  have hhistory : pages.reverse.flatten =
      (Keyset.shown (fun n ↦ nowShown (stores n)) 0 ps).flatten.reverse := by
    rw [← hpages, List.reverse_flatten, List.map_map]
    simp
  have hpage : ∀ (n : ℕ) (p : List Message), pages[n]? = some p →
      ∃ q, ps[n]? = some q ∧ p.reverse = q.map (nowShown (stores n)) := by
    intro n p hp
    have hshown := congrArg (·[n]?) hpages
    simp only [List.getElem?_map, hp, Keyset.getElem?_shown, Nat.zero_add, Option.map_some] at hshown
    obtain ⟨q, hq, heq⟩ := Option.map_eq_some_iff.mp hshown.symm
    exact ⟨q, hq, heq.symm⟩
  constructor
  · rw [hhistory, List.pairwise_reverse]
    have hkeys : (Keyset.shown (fun n ↦ nowShown (stores n)) 0 ps).flatten.map messageOrder =
        ps.flatten.map messageOrder :=
      Keyset.map_flatten_shown (g := messageOrder)
        (fun n m hm ↦ congrArg Prod.snd (hplace n m hm)) 0
    have hsorted : (ps.flatten.map messageOrder).Pairwise fun a b ↦ b < a :=
      List.pairwise_map.mpr hps.sorted
    rw [← hkeys] at hsorted
    exact List.pairwise_map.mp hsorted
  · intro m hm hconversation
    obtain ⟨rest, hrest⟩ := h 0
    have hlater : place m ∈ places last := (h 0).subset (List.mem_map_of_mem hm)
    obtain ⟨m', hm', heq⟩ := List.mem_map.mp hlater
    have hid : m'.id = m.id := congrArg (fun pl ↦ (ofLex (Prod.snd pl)).2) heq
    have hshown : m' ∈ ps.flatten := by
      refine hps.complete m' hm' ?_ rfl
      have hhere : m'.conversationId = conversationId :=
        (congrArg Prod.fst heq).trans hconversation
      unfold onPage
      rw [present, hid, Table.find?_key hm, hhere]
      simp
    have hplaces : (Keyset.shown (fun n ↦ nowShown (stores n)) 0 ps).flatten.map place =
        ps.flatten.map place := Keyset.map_flatten_shown hplace 0
    have hmem : place m' ∈ (Keyset.shown (fun n ↦ nowShown (stores n)) 0 ps).flatten.map place := by
      rw [hplaces]
      exact List.mem_map_of_mem hshown
    obtain ⟨x, hx, hxplace⟩ := List.mem_map.mp hmem
    rw [hhistory]
    exact ⟨x, List.mem_reverse.mpr hx, hxplace.trans heq⟩
  · intro n p hp m hm
    obtain ⟨q, hq, heq⟩ := hpage n p hp
    obtain ⟨r, hr, rfl⟩ : ∃ r ∈ q, nowShown (stores n) r = m := by
      have hmem := List.mem_reverse.mpr hm
      rw [heq] at hmem
      exact List.mem_map.mp hmem
    have hkept := hps.kept.getElem? hq r hr
    rw [Nat.zero_add, onPage, Bool.and_eq_true, decide_eq_true_eq] at hkept
    obtain ⟨x, hx⟩ := Option.isSome_iff_exists.mp hkept.1
    have hrow := (hps.mem r (List.mem_flatten.mpr ⟨q, List.mem_of_getElem? hq, hr⟩)).1
    refine ⟨?_, (congrArg Prod.fst (place_nowShown (h n) hrow)).trans hkept.2⟩
    rw [nowShown, hx]
    exact Table.mem_of_find? hx
  · intro p hp
    obtain ⟨n, hn⟩ := List.mem_iff_getElem?.mp hp
    obtain ⟨q, hq, heq⟩ := hpage n p hn
    have hlength := congrArg List.length heq
    rw [List.length_reverse, List.length_map] at hlength
    rw [hlength]
    exact hps.bounded q (List.mem_of_getElem? hq)
  · rintro p hp rfl
    obtain ⟨n, hn⟩ := List.mem_iff_getElem?.mp hp
    rw [List.getElem?_tail] at hn
    obtain ⟨q, hq, heq⟩ := hpage (n + 1) [] hn
    rw [← List.getElem?_tail] at hq
    exact hps.nonempty q (List.mem_of_getElem? hq) (List.map_eq_nil_iff.mp heq.symm)

end reading

def storeAt (as : List Action) (cut : ℕ → ℕ) (n : ℕ) : ConversationStore :=
  (run .empty (as.take (cut n))).store

/-- However a conversation goes on while it is read back, every message that was there at the first
page is shown once, each page as it is when it is read. -/
theorem history_is_read_once (as : List Action) (cut : ℕ → ℕ) (identity : DevelopmentIdentity)
    (conversationId : UUID) (limit fuel : ℕ) (hcut : Monotone cut) (hlimit : 1 ≤ limit)
    (hfits : ∀ m ∈ (run .empty as).store.messages, Listings.Fits (messageOrder m))
    (hopen : ∀ n, (conversationForUser conversationId identity.userId identity.agentId
      (storeAt as cut n)).isSome)
    (hfuel : (run .empty as).store.messages.rows.length < fuel) :
    ∃ pages, Keyset.walk (fun n cursor ↦ ConversationService.listMessages identity conversationId
        limit cursor (storeAt as cut n)) fuel 0 none = some pages ∧
      HistoryRead (storeAt as cut) conversationId limit pages := by
  have hlast : ∀ n, places (storeAt as cut n) <+: places (run .empty as).store := by
    intro n
    have hrest := places_run (run .empty (as.take (cut n))) (as.drop (cut n))
    rwa [run, run, ← Machine.run_append, List.take_append_drop] at hrest
  have hnext : ∀ n, places (storeAt as cut n) <+: places (storeAt as cut (n + 1)) := by
    intro n
    have hrest := places_run (run .empty (as.take (cut n))) ((as.take (cut (n + 1))).drop (cut n))
    have htake : as.take (cut n) ++ (as.take (cut (n + 1))).drop (cut n) = as.take (cut (n + 1)) := by
      have hle : cut n ≤ cut (n + 1) := hcut (Nat.le_succ n)
      calc as.take (cut n) ++ (as.take (cut (n + 1))).drop (cut n)
          = (as.take (cut (n + 1))).take (cut n) ++ (as.take (cut (n + 1))).drop (cut n) := by
            rw [List.take_take, Nat.min_eq_left hle]
        _ = as.take (cut (n + 1)) := List.take_append_drop _ _
    rwa [run, run, ← Machine.run_append, htake] at hrest
  have hserves := listMessages_serves limit hlast hfits hopen
  have hkey : ((run .empty as).store.messages.rows.map messageOrder).Nodup :=
    Listings.nodup_listing messageOrder (fun _ ↦ rfl) (run .empty as).store.messages.nodup
  have hkeep : ∀ n m, onPage (storeAt as cut) conversationId n m = true →
      onPage (storeAt as cut) conversationId (n + 1) m = true := by
    intro n m hm
    rw [onPage, Bool.and_eq_true] at hm ⊢
    exact ⟨present_mono (hnext n) hm.1, hm.2⟩
  obtain ⟨ps, hwalk, hps⟩ := Keyset.walk_complete hserves hkey hlimit hkeep fuel 0 none
    (fun m hm ↦ absurd hm (Option.not_mem_none m)) (by simpa using hfuel)
  have hreversed := Keyset.walk_map (f := List.reverse)
    (fun n cursor ↦ show (ConversationService.listMessages identity conversationId limit cursor
      (storeAt as cut n)).map newestFirst = _ from rfl) fuel 0 none
  obtain ⟨pages, hpages, hshown⟩ := Option.map_eq_some_iff.mp (hreversed.symm.trans hwalk)
  exact ⟨pages, hpages, historyRead_of_complete hlast hps hshown⟩

def shortTalk : List Action := [.createConversation someone "talk" 10 0, turn 0, turn 1, turn 2]

theorem shortTalk_fits :
    ∀ m ∈ (run .empty shortTalk).store.messages, Listings.Fits (messageOrder m) := by
  have hall : ((run .empty shortTalk).store.messages.rows.all fun m ↦
      m.createdAt < WireText.endOfDays * 86400000000 && m.id < 2 ^ 128) = true := by
    decide +kernel
  intro m hm
  have hfits := List.all_eq_true.mp hall m hm
  rw [Bool.and_eq_true, decide_eq_true_eq, decide_eq_true_eq] at hfits
  exact hfits

theorem shortTalk_open (n : ℕ) :
    (conversationForUser 10 2 3 (storeAt shortTalk (· + 2) n)).isSome := by
  rcases n with _ | _ | n
  · decide +kernel
  · decide +kernel
  · have hall : shortTalk.take (n + 2 + 2) = shortTalk :=
      List.take_of_length_le (by simp [shortTalk])
    rw [storeAt, hall]
    decide +kernel

theorem history_is_read_once_shortTalk :
    ∃ pages, Keyset.walk (fun n cursor ↦ ConversationService.listMessages someone 10 1 cursor
        (storeAt shortTalk (· + 2) n)) 7 0 none = some pages ∧
      HistoryRead (storeAt shortTalk (· + 2)) 10 1 pages :=
  history_is_read_once shortTalk (· + 2) someone 10 1 7 (fun _ _ h ↦ Nat.add_le_add_right h 2)
    le_rfl shortTalk_fits shortTalk_open (by decide +kernel)

end CyberNetizen.Conversations
