import CyberNetizen.Attachments.MultimodalSelection
import CyberNetizen.Infrastructure.ContentInspection
import CyberNetizen.Lib.Checks

namespace CyberNetizen.Attachments

open Domain Application Infrastructure Checks

variable {readers : DocumentReaders} {casefold : String → String} {content : Bytes}
  {declaredType contentType : String} {maxCharacters maxPdfPages : ℕ}

/-! ## What an accepted content has passed -/

theorem map_const_eq_ok {ε α β : Type} {x : Except ε α} {b c : β}
    (h : (x.map fun _ ↦ b) = .ok c) : b = c ∧ ∃ a, x = .ok a := by
  cases x with
  | error error => cases h
  | ok a => exact ⟨Except.ok.inj h, a, rfl⟩

/-- The four ways through the inspection. -/
theorem inspectContent_cases (h : inspectContent readers casefold content declaredType
      = .ok contentType) :
    ((imageSignatures (content.take 16)).lookup contentType = some true ∧
        ∃ u, verifyImage readers content contentType = .ok u) ∨
      (contentType = "application/pdf" ∧ pdfSignature.isPrefixOf (content.take 16) = true ∧
        ∃ u, rejectActivePdf content = .ok u) ∨
      (contentType = docxType ∧ ∃ u, verifyDocx readers casefold content = .ok u) ∨
      (contentType ∈ textTypes ∧ ∃ text, verifyUtf8Text readers content = .ok text) := by
  unfold inspectContent at h
  by_cases hsize : content.length = 0
  · rw [if_pos hsize] at h
    cases h
  rw [if_neg hsize] at h
  dsimp only at h
  generalize String.ofList ((casefold declaredType).toList.takeWhile (· ≠ ';')) = normalized at h
  cases hlookup : (imageSignatures (content.take 16)).lookup normalized with
  | some genuine =>
    rw [hlookup] at h
    cases genuine with
    | false => cases h
    | true =>
      obtain ⟨rfl, hverified⟩ := map_const_eq_ok h
      exact Or.inl ⟨hlookup, hverified⟩
  | none =>
    rw [hlookup] at h
    dsimp only at h
    refine Or.inr ?_
    by_cases hpdf : normalized = "application/pdf"
    · rw [if_pos hpdf] at h
      by_cases hsignature : pdfSignature.isPrefixOf (content.take 16) = true
      · rw [if_pos hsignature] at h
        obtain ⟨rfl, hverified⟩ := map_const_eq_ok h
        exact Or.inl ⟨hpdf, hsignature, hverified⟩
      · rw [if_neg hsignature] at h
        cases h
    rw [if_neg hpdf] at h
    by_cases hdocx : normalized = docxType
    · rw [if_pos hdocx] at h
      obtain ⟨rfl, hverified⟩ := map_const_eq_ok h
      exact Or.inr (Or.inl ⟨hdocx, hverified⟩)
    rw [if_neg hdocx] at h
    by_cases htext : normalized ∈ textTypes
    · rw [if_pos htext] at h
      obtain ⟨text, hverified, hjson⟩ := bind_eq_ok.mp h
      by_cases hloads : normalized = "application/json" ∧ !readers.loadsJson text
      · rw [if_pos hloads] at hjson
        cases hjson
      · rw [if_neg hloads] at hjson
        obtain rfl := Except.ok.inj hjson
        exact Or.inr (Or.inr ⟨htext, text, hverified⟩)
    · rw [if_neg htext] at h
      cases h

theorem verifyUtf8Text_decodes {text : String} (h : verifyUtf8Text readers content = .ok text) :
    readers.decodeUtf8 content = some text := by
  unfold verifyUtf8Text at h
  by_cases hzero : content.contains 0 = true
  · rw [if_pos hzero] at h
    cases h
  · rw [if_neg hzero] at h
    cases hdecoded : readers.decodeUtf8 content with
    | none =>
      rw [hdecoded] at h
      cases h
    | some decoded =>
      rw [hdecoded] at h
      exact congrArg some (Except.ok.inj h)

theorem verifyDocx_opens {u : Unit} (h : verifyDocx readers casefold content = .ok u) :
    ∃ members, readers.openZip content = .ok members := by
  unfold verifyDocx at h
  cases hopen : readers.openZip content with
  | error error =>
    rw [hopen] at h
    cases error <;> cases h
  | ok members => exact ⟨members, rfl⟩

/-! ## What the extraction needs -/

/-- An accepted content that the extraction reads as well: a text, a PDF document whose first pages
are parsed, or an archive whose document is read and parsed. -/
def Readable (readers : DocumentReaders) (content : Bytes) (contentType : String)
    (maxPdfPages : ℕ) : Prop :=
  contentType ∈ textTypes ∨
    (contentType = "application/pdf" ∧ ∃ pageCount, readers.pdfPages content = .ok pageCount ∧
      ∀ i < min pageCount maxPdfPages, ∃ text, readers.extractText content i = .ok text) ∨
    (contentType = docxType ∧
      ∃ document, readers.readName content "word/document.xml" = .ok document ∧
        ∃ root, readers.fromString document = .ok root)

theorem wrap_eq_ok {α : Type} {x : Except ReaderError α} {a : α} :
    DocumentReaders.wrap x = .ok a ↔ x = .ok a := by
  cases x with
  | error error => exact ⟨nofun, nofun⟩
  | ok b => exact ⟨fun h ↦ congrArg _ (Except.ok.inj h), fun h ↦ congrArg _ (Except.ok.inj h)⟩

theorem exists_map_eq_ok {ε α β : Type} {x : Except ε α} {f : α → β} :
    (∃ b, x.map f = .ok b) ↔ ∃ a, x = .ok a := by
  cases x with
  | error error => exact ⟨nofun, nofun⟩
  | ok a => exact ⟨fun _ ↦ ⟨a, rfl⟩, fun _ ↦ ⟨f a, rfl⟩⟩

theorem exists_extractPdfText : (∃ result, readers.extractPdfText content maxPdfPages = .ok result) ↔
    ∃ pageCount, readers.pdfPages content = .ok pageCount ∧
      ∀ i < min pageCount maxPdfPages, ∃ text, readers.extractText content i = .ok text := by
  constructor
  · rintro ⟨result, h⟩
    obtain ⟨pageCount, hpages, h⟩ := bind_eq_ok.mp h
    obtain ⟨texts, htexts, -⟩ := bind_eq_ok.mp h
    refine ⟨pageCount, hpages, fun i hi ↦ ?_⟩
    obtain ⟨text, -, htext⟩ :=
      Sections.exists_of_mem_left (of_mapM_eq_ok htexts) (List.mem_range.mpr hi)
    exact ⟨text, htext⟩
  · rintro ⟨pageCount, hpages, htexts⟩
    obtain ⟨texts, h⟩ := exists_mapM_eq_ok fun i hi ↦ htexts i (List.mem_range.mp hi)
    exact ⟨_, bind_eq_ok.mpr ⟨pageCount, hpages, bind_eq_ok.mpr ⟨texts, h, rfl⟩⟩⟩

theorem exists_extractDocxText {members : List ZipMember}
    (hopen : readers.openZip content = .ok members) :
    (∃ text, readers.extractDocxText content = .ok text) ↔
      ∃ document, readers.readName content "word/document.xml" = .ok document ∧
        ∃ root, readers.fromString document = .ok root := by
  constructor
  · rintro ⟨text, h⟩
    obtain ⟨_, -, h⟩ := bind_eq_ok.mp h
    obtain ⟨document, hread, h⟩ := bind_eq_ok.mp h
    obtain ⟨root, hroot, -⟩ := bind_eq_ok.mp h
    exact ⟨document, hread, root, hroot⟩
  · rintro ⟨document, hread, root, hroot⟩
    exact ⟨_, bind_eq_ok.mpr ⟨members, hopen, bind_eq_ok.mpr ⟨document, hread,
      bind_eq_ok.mpr ⟨root, hroot, rfl⟩⟩⟩⟩

theorem rawDocumentText_pdf : readers.rawDocumentText content "application/pdf" maxPdfPages =
    (DocumentReaders.wrap (readers.extractPdfText content maxPdfPages)).map
      fun result ↦ (result.1, some result.2) := by
  unfold DocumentReaders.rawDocumentText
  rw [if_neg (by decide), if_pos rfl]

theorem rawDocumentText_docx : readers.rawDocumentText content docxType maxPdfPages =
    (DocumentReaders.wrap (readers.extractDocxText content)).map fun text ↦ (text, none) := by
  unfold DocumentReaders.rawDocumentText
  rw [if_neg (by decide), if_neg (by decide), if_pos rfl]

theorem rawDocumentText_image (h : contentType ∉ textTypes) (hpdf : contentType ≠ "application/pdf")
    (hdocx : contentType ≠ docxType) :
    readers.rawDocumentText content contentType maxPdfPages =
      .error (.multimodalInput "附件类型不支持模型文档输入") := by
  unfold DocumentReaders.rawDocumentText
  rw [if_neg h, if_neg hpdf, if_neg hdocx]

theorem exists_extractDocumentText :
    (∃ result, readers.extractDocumentText content contentType maxCharacters maxPdfPages
      = .ok result) ↔
    ∃ result, readers.rawDocumentText content contentType maxPdfPages = .ok result :=
  exists_map_eq_ok

theorem lookup_imageSignatures_document {signature : Bytes} {documentType : String}
    (h : documentType ∈ textTypes ++ ["application/pdf", docxType]) :
    (imageSignatures signature).lookup documentType = none := by
  simp only [textTypes, docxType, List.cons_append, List.nil_append, List.mem_cons,
    List.not_mem_nil, or_false] at h
  rcases h with rfl | rfl | rfl | rfl | rfl | rfl <;> simp [imageSignatures, List.lookup_cons]

theorem image_not_document {signature : Bytes} {genuine : Bool}
    (h : (imageSignatures signature).lookup contentType = some genuine) :
    contentType ∉ textTypes ∧ contentType ≠ "application/pdf" ∧ contentType ≠ docxType := by
  have hnot : contentType ∉ textTypes ++ ["application/pdf", docxType] := by
    intro hdocument
    rw [lookup_imageSignatures_document hdocument] at h
    cases h
  simp only [List.mem_append, List.mem_cons, List.not_mem_nil, or_false, not_or] at hnot
  exact hnot

/-- The inspection promises that a text is decoded and that an archive is opened; it leaves open
whether a PDF document is parsed and whether the document of an archive is read. -/
theorem extractDocumentText_iff_of_inspectContent
    (h : inspectContent readers casefold content declaredType = .ok contentType) :
    (∃ result, readers.extractDocumentText content contentType maxCharacters maxPdfPages
      = .ok result) ↔ Readable readers content contentType maxPdfPages := by
  rw [exists_extractDocumentText]
  rcases inspectContent_cases h with ⟨himage, -⟩ | ⟨rfl, -, -⟩ | ⟨rfl, u, hdocx⟩ |
    ⟨htext, text, hverified⟩
  · obtain ⟨hnot, hpdf, hdocx⟩ := image_not_document himage
    rw [rawDocumentText_image hnot hpdf hdocx]
    refine ⟨nofun, ?_⟩
    rintro (htext | ⟨rfl, -⟩ | ⟨rfl, -⟩)
    · exact absurd htext hnot
    · exact absurd rfl hpdf
    · exact absurd rfl hdocx
  · rw [rawDocumentText_pdf, exists_map_eq_ok]
    simp only [wrap_eq_ok]
    rw [exists_extractPdfText]
    refine ⟨fun hpages ↦ Or.inr (Or.inl ⟨rfl, hpages⟩), ?_⟩
    rintro (htext | ⟨-, hpages⟩ | ⟨hdocx, -⟩)
    · exact absurd htext (by decide)
    · exact hpages
    · exact absurd hdocx (by decide)
  · obtain ⟨members, hopen⟩ := verifyDocx_opens hdocx
    rw [rawDocumentText_docx, exists_map_eq_ok]
    simp only [wrap_eq_ok]
    rw [exists_extractDocxText hopen]
    refine ⟨fun hread ↦ Or.inr (Or.inr ⟨rfl, hread⟩), ?_⟩
    rintro (htext | ⟨hpdf, -⟩ | ⟨-, hread⟩)
    · exact absurd htext (by decide)
    · exact absurd hpdf (by decide)
    · exact hread
  · refine ⟨fun _ ↦ Or.inl htext, fun _ ↦ ⟨(text, none), ?_⟩⟩
    unfold DocumentReaders.rawDocumentText
    rw [if_pos htext, verifyUtf8Text_decodes hverified]

theorem extractDocumentText_of_letter :
    ∃ result, noteReaders.extractDocumentText [97] "text/plain" 10 1 = .ok result :=
  (@extractDocumentText_iff_of_inspectContent noteReaders id [97] "text/plain; charset=utf-8"
    "text/plain" 10 1 (by decide +kernel)).mpr (Or.inl (by decide))

/-- A file of five bytes passes as a PDF document. -/
theorem not_extractDocumentText_of_inspectContent :
    ¬∀ (readers : DocumentReaders) (casefold : String → String) (content : Bytes)
      (declaredType contentType : String) (maxCharacters maxPdfPages : ℕ),
      inspectContent readers casefold content declaredType = .ok contentType →
      0 < maxCharacters → 0 < maxPdfPages →
      ∃ result, readers.extractDocumentText content contentType maxCharacters maxPdfPages
        = .ok result := by
  intro h
  obtain ⟨result, hresult⟩ := h noteReaders id pdfSignature "application/pdf" "application/pdf" 10 1
    (by decide +kernel) (by decide) (by decide)
  cases hresult

end CyberNetizen.Attachments
