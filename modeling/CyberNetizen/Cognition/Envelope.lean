import CyberNetizen.Cognition.PromptSecurity
import CyberNetizen.Lib.JsonEscapes

namespace CyberNetizen.Cognition.Envelope

open JsonText

def opening : List Char := "<untrusted_context>".toList

def closing : List Char := "</untrusted_context>".toList

def written (c : Char) : List Char := (escape c).flatMap escapeMarkup

def isMarkup (c : Char) : Bool := c = '&' || c = '<' || c = '>'

theorem escapeMarkup_of_not {c : Char} (h : isMarkup c = false) : escapeMarkup c = [c] := by
  simp only [isMarkup, Bool.or_eq_false_iff, decide_eq_false_iff_not] at h
  obtain ⟨⟨hamp, hlt⟩, hgt⟩ := h
  unfold escapeMarkup
  rw [if_neg hamp, if_neg hlt, if_neg hgt]

theorem flatMap_escapeMarkup {l : List Char} (h : ∀ c ∈ l, isMarkup c = false) :
    l.flatMap escapeMarkup = l := by
  induction l with
  | nil => rfl
  | cons c l ih =>
    rw [List.flatMap_cons, escapeMarkup_of_not (h c List.mem_cons_self),
      ih fun d hd ↦ h d (List.mem_cons_of_mem c hd)]
    rfl

theorem not_markup_digitChar : ∀ d < 16, isMarkup (Nat.digitChar d) = false := by decide

theorem escape_not_markup {c : Char} (hc : isMarkup c = false) :
    ∀ d ∈ escape c, isMarkup d = false := by
  unfold escape
  split_ifs with hquote hback hn hr ht hf hb hcontrol
  · simp [isMarkup]
  · simp [isMarkup]
  · simp [isMarkup]
  · simp [isMarkup]
  · simp [isMarkup]
  · simp [isMarkup]
  · simp [isMarkup]
  · intro d hd
    simp only [List.mem_cons, List.not_mem_nil, or_false] at hd
    rcases hd with rfl | rfl | rfl | rfl | rfl | rfl
    · rfl
    · rfl
    · rfl
    · rfl
    · exact not_markup_digitChar _ (by omega)
    · exact not_markup_digitChar _ (by omega)
  · intro d hd
    rw [List.mem_singleton.mp hd]
    exact hc

theorem readable_written : Readable written := by
  intro c l
  unfold written
  cases hc : isMarkup c with
  | false => rw [flatMap_escapeMarkup (escape_not_markup hc), readString_escape]
  | true =>
    simp only [isMarkup, Bool.or_eq_true, decide_eq_true_eq] at hc
    rcases hc with (rfl | rfl) | rfl
    · exact readString_unicode (a := '0') (b := '0') (c := '2') (d := '6') (by decide) (by decide) l
    · exact readString_unicode (a := '0') (b := '0') (c := '3') (d := 'c') (by decide) (by decide) l
    · exact readString_unicode (a := '0') (b := '0') (c := '3') (d := 'e') (by decide) (by decide) l

theorem flatMap_written (s : List Char) :
    (s.flatMap escape).flatMap escapeMarkup = s.flatMap written :=
  List.flatMap_assoc

def payload (content : String) (source : UntrustedContentSource) : List Char :=
  '{' :: (stringBy written "source" ++ ':' :: (stringBy written source.value ++ ',' ::
    (stringBy written "content" ++ ':' :: (stringBy written content ++ ['}']))))

theorem stringText_written (s : String) :
    (stringText s).flatMap escapeMarkup = stringBy written s := by
  have hquote : escapeMarkup '"' = ['"'] := escapeMarkup_of_not rfl
  rw [stringText, List.flatMap_cons, List.flatMap_append, flatMap_written, List.flatMap_singleton,
    hquote]
  rfl

theorem text_pair (key s key' s' : String) :
    text (.dict [(key, .str s), (key', .str s')]) =
      '{' :: (stringText key ++ ':' :: (stringText s ++ ',' ::
        (stringText key' ++ ':' :: (stringText s' ++ ['}'])))) := by
  rw [text, text, textEntries, text, textEntries]

theorem toList_serializeUntrustedContent (content : String) (source : UntrustedContentSource) :
    (serializeUntrustedContent content source).toList =
      opening ++ payload content source ++ closing := by
  have hkept : ∀ c l, isMarkup c = false →
      (c :: l).flatMap escapeMarkup = c :: l.flatMap escapeMarkup := by
    intro c l hc
    rw [List.flatMap_cons, escapeMarkup_of_not hc]
    rfl
  have hpayload : (text (.dict [("source", .str source.value), ("content", .str content)])).flatMap
      escapeMarkup = payload content source := by
    rw [text_pair, hkept _ _ rfl, List.flatMap_append, stringText_written, hkept _ _ rfl,
      List.flatMap_append, stringText_written, hkept _ _ rfl, List.flatMap_append,
      stringText_written, hkept _ _ rfl, List.flatMap_append, stringText_written, hkept _ _ rfl]
    rfl
  unfold serializeUntrustedContent
  rw [String.toList_ofList, hpayload]
  rfl

theorem not_angle_written (c : Char) : ∀ d ∈ written c, d ≠ '<' ∧ d ≠ '>' := by
  have hall : ∀ c : Char, ∀ d ∈ escapeMarkup c, d ≠ '<' ∧ d ≠ '>' := by
    intro c
    cases hc : isMarkup c with
    | true =>
      simp only [isMarkup, Bool.or_eq_true, decide_eq_true_eq] at hc
      rcases hc with (rfl | rfl) | rfl <;> simp [escapeMarkup]
    | false =>
      rw [escapeMarkup_of_not hc]
      intro d hd
      rw [List.mem_singleton.mp hd]
      constructor <;> rintro rfl <;> cases hc
  intro d hd
  obtain ⟨e, -, he⟩ := List.mem_flatMap.mp hd
  exact hall e d he

/-- Nothing between the tags looks like a tag. -/
theorem not_angle_payload (content : String) (source : UntrustedContentSource) :
    ∀ d ∈ payload content source, d ≠ '<' ∧ d ≠ '>' := by
  have hstring : ∀ s : String, ∀ d ∈ stringBy written s, d ≠ '<' ∧ d ≠ '>' := by
    intro s d hd
    unfold stringBy at hd
    simp only [List.mem_cons, List.mem_append, List.mem_flatMap, List.not_mem_nil, or_false] at hd
    rcases hd with rfl | ⟨c, -, hc⟩ | rfl
    · decide
    · exact not_angle_written c d hc
    · decide
  intro d hd
  unfold payload at hd
  simp only [List.mem_cons, List.mem_append, List.not_mem_nil, or_false] at hd
  rcases hd with rfl | hd | rfl | hd | rfl | hd | rfl | hd | rfl
  · decide
  · exact hstring _ d hd
  · decide
  · exact hstring _ d hd
  · decide
  · exact hstring _ d hd
  · decide
  · exact hstring _ d hd
  · decide

theorem loads_payload (repr : Repr) (content : String) (source : UntrustedContentSource) :
    loads repr (payload content source) =
      some (.dict [("source", .str source.value), ("content", .str content)]) :=
  readable_written.loads_pair repr (by decide) source.value content

theorem read_serialize (repr : Repr) (content : String) (source : UntrustedContentSource) :
    readUntrustedContent repr (serializeUntrustedContent content source) = content := by
  have hlist := toList_serializeUntrustedContent content source
  have hinner : inner (serializeUntrustedContent content source).toList =
      payload content source := by
    have hclosing : "</untrusted_context>".length = closing.length := by decide
    have hopening : "<untrusted_context>".length = opening.length := by decide
    rw [hlist, inner, hclosing, hopening, List.length_append, Nat.add_sub_cancel, List.take_left,
      List.drop_left]
  have hinitial : opening <+: (serializeUntrustedContent content source).toList := by
    rw [hlist, List.append_assoc]
    exact List.prefix_append _ _
  have hsuffix : closing <:+ (serializeUntrustedContent content source).toList := by
    rw [hlist]
    exact List.suffix_append _ _
  rw [readUntrustedContent, if_pos ⟨hinitial, hsuffix⟩, hinner, loads_payload]
  rfl

section tags

variable {content : String} {source : UntrustedContentSource}

theorem opening_eq : opening = '<' :: opening.tail ∧ '<' ∉ opening.tail := by decide

theorem closing_eq : closing = '<' :: closing.tail ∧ '<' ∉ closing.tail := by decide

theorem not_mem_payload : '<' ∉ payload content source :=
  fun h ↦ (not_angle_payload content source '<' h).1 rfl

/-- A bracket in the envelope begins one of its two tags. -/
theorem bracket_cases {before rest : List Char}
    (h : before ++ '<' :: rest = opening ++ payload content source ++ closing) :
    (before = [] ∧ rest = opening.tail ++ payload content source ++ closing) ∨
      (before = opening ++ payload content source ∧ rest = closing.tail) := by
  cases before with
  | nil =>
    left
    rw [opening_eq.1] at h
    exact ⟨rfl, (List.cons.inj h).2⟩
  | cons c before =>
    right
    have hcount := congrArg (List.count '<') h
    have hpayload : (payload content source).count '<' = 0 :=
      List.count_eq_zero.mpr not_mem_payload
    have hopening : opening.count '<' = 1 := by decide
    have hclosing : closing.count '<' = 1 := by decide
    rw [opening_eq.1, List.cons_append, List.cons_append, List.cons_append] at h
    obtain ⟨rfl, htail⟩ := List.cons.inj h
    have hbefore : '<' ∉ before := by
      rw [← List.count_eq_zero]
      simp only [List.cons_append, List.count_cons_self, List.count_append, hopening, hpayload,
        hclosing] at hcount
      omega
    have hinside : '<' ∉ opening.tail ++ payload content source := by
      rw [List.mem_append]
      exact fun h ↦ h.elim opening_eq.2 not_mem_payload
    rw [closing_eq.1] at htail
    obtain ⟨hbefore', hrest⟩ := PrefixCode.cut_unique hbefore hinside htail
    refine ⟨?_, hrest⟩
    rw [hbefore']
    rfl

theorem opening_once {before after : List Char}
    (h : before ++ opening ++ after = (serializeUntrustedContent content source).toList) :
    before = [] := by
  rw [toList_serializeUntrustedContent, opening_eq.1, List.append_assoc, List.cons_append,
    ← opening_eq.1] at h
  rcases bracket_cases h with ⟨hbefore, -⟩ | ⟨-, hrest⟩
  · exact hbefore
  · exact absurd (List.cons.inj hrest).1 (by decide)

theorem closing_once {before after : List Char}
    (h : before ++ closing ++ after = (serializeUntrustedContent content source).toList) :
    after = [] := by
  rw [toList_serializeUntrustedContent] at h
  have hsplit : before ++ '<' :: (closing.tail ++ after) =
      opening ++ payload content source ++ closing := by
    rw [← h, List.append_assoc]
    rfl
  rcases bracket_cases hsplit with ⟨-, hrest⟩ | ⟨-, hrest⟩
  · exact absurd (List.cons.inj hrest).1 (by decide)
  · exact List.append_right_eq_self.mp hrest

theorem value_injective {a b : UntrustedContentSource} (h : a.value = b.value) : a = b := by
  cases a <;> cases b <;> first | rfl | exact absurd h (by decide)

theorem payload_injective {content' : String} {source' : UntrustedContentSource}
    (h : payload content source = payload content' source') :
    content = content' ∧ source = source' := by
  have hloads := loads_payload id content source
  rw [h, loads_payload] at hloads
  simp only [Option.some.injEq, Value.dict.injEq, List.cons.injEq, Prod.mk.injEq, Value.str.injEq,
    true_and, and_true] at hloads
  exact ⟨hloads.2.symm, value_injective hloads.1.symm⟩

theorem selfDelimiting_envelope :
    PrefixCode.SelfDelimiting fun p : String × UntrustedContentSource ↦
      serializeUntrustedContent p.1 p.2 := by
  rintro ⟨content, source⟩ ⟨content', source'⟩ rest rest' h
  have hlist := congrArg String.toList h
  rw [String.toList_append, String.toList_append, toList_serializeUntrustedContent,
    toList_serializeUntrustedContent] at hlist
  simp only [List.append_assoc, List.append_cancel_left_eq] at hlist
  rw [closing_eq.1, List.cons_append, List.cons_append] at hlist
  obtain ⟨hpayload, hrest⟩ := PrefixCode.cut_unique not_mem_payload not_mem_payload hlist
  obtain ⟨rfl, rfl⟩ := payload_injective hpayload
  exact ⟨rfl, String.toList_injective (List.append_cancel_left hrest)⟩

end tags

/-- An envelope gives its content back, has its two tags at its ends only, and envelopes joined by
any separator can be told apart. -/
theorem envelope_sound :
    (∀ (repr : Repr) (content : String) (source : UntrustedContentSource),
      readUntrustedContent repr (serializeUntrustedContent content source) = content) ∧
    (∀ (content : String) (source : UntrustedContentSource),
      (opening <+: (serializeUntrustedContent content source).toList ∧
        ∀ before after, before ++ opening ++ after =
          (serializeUntrustedContent content source).toList → before = []) ∧
      closing <:+ (serializeUntrustedContent content source).toList ∧
        ∀ before after, before ++ closing ++ after =
          (serializeUntrustedContent content source).toList → after = []) ∧
    ∀ (separator : String) (xs ys : List (String × UntrustedContentSource)),
      separator.intercalate (xs.map fun p ↦ serializeUntrustedContent p.1 p.2) =
        separator.intercalate (ys.map fun p ↦ serializeUntrustedContent p.1 p.2) → xs = ys := by
  refine ⟨read_serialize, fun content source ↦ ⟨⟨?_, fun _ _ ↦ opening_once⟩, ?_,
    fun _ _ ↦ closing_once⟩, ?_⟩
  · rw [toList_serializeUntrustedContent, List.append_assoc]
    exact List.prefix_append _ _
  · rw [toList_serializeUntrustedContent]
    exact List.suffix_append _ _
  · apply selfDelimiting_envelope.intercalate_injective
    intro p he
    have hlist := congrArg String.toList he
    rw [toList_serializeUntrustedContent] at hlist
    exact absurd hlist (List.cons_ne_nil _ _)

end CyberNetizen.Cognition.Envelope
