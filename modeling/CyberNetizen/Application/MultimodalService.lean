import CyberNetizen.Application.TaskService
import CyberNetizen.Cognition.PromptSecurity
import CyberNetizen.Domain.Channel
import CyberNetizen.Domain.Conversation
import CyberNetizen.Infrastructure.ObjectStorage
import CyberNetizen.Lib.Table

namespace CyberNetizen.Application

open Domain Cognition Infrastructure KeyedTable

abbrev Bytes := List UInt8

/-! ## Documents -/

/-- What a reader of images, archives, XML or PDF raises. -/
inductive ReaderError
  | badZipFile
  | parseError
  /-- `OSError` or `SyntaxError` of an image -/
  | badImage
  /-- `KeyError`, `OSError`, `PyPdfError` or another `ValueError` -/
  | listed
  /-- An exception that nobody catches. -/
  | other
  deriving DecidableEq

structure ImageHeader where
  format : String
  width : ℕ
  height : ℕ
  deriving DecidableEq

structure ZipMember where
  filename : String
  isEncrypted : Bool
  fileSize : ℕ
  deriving DecidableEq

inductive XmlElement
  | node (tag : String) (text : Option String) (attributes : List (String × String))
      (children : List XmlElement)

namespace XmlElement

def tag : XmlElement → String
  | .node tag _ _ _ => tag

def text : XmlElement → Option String
  | .node _ text _ _ => text

def attributes : XmlElement → List (String × String)
  | .node _ _ attributes _ => attributes

mutual

/-- `iter()`: the element and all below it, in the order of the document. -/
def iter : XmlElement → List XmlElement
  | .node tag text attributes children =>
    .node tag text attributes children :: iterChildren children

def iterChildren : List XmlElement → List XmlElement
  | [] => []
  | child :: children => child.iter ++ iterChildren children

end

/-- `iter(tag)` -/
def iterTag (tag : String) (root : XmlElement) : List XmlElement :=
  root.iter.filter fun element ↦ element.tag = tag

end XmlElement

/-- The readers of the standard library and of `pypdf`, each of which may fail on any content. -/
structure DocumentReaders where
  decodeUtf8 : Bytes → Option String
  /-- Whether `json.load` returns. -/
  loadsJson : String → Bool
  openImage : Bytes → Except ReaderError ImageHeader
  /-- `verify()` of the opened image -/
  verifyImage : Bytes → Except ReaderError Unit
  /-- The `infolist()` of the archive. -/
  openZip : Bytes → Except ReaderError (List ZipMember)
  readMember : Bytes → ZipMember → Except ReaderError Bytes
  /-- `archive.read(name)` -/
  readName : Bytes → String → Except ReaderError Bytes
  fromString : Bytes → Except ReaderError XmlElement
  /-- The number of pages of `PdfReader(…, strict=False)`. -/
  pdfPages : Bytes → Except ReaderError ℕ
  extractText : Bytes → ℕ → Except ReaderError (Option String)

/-- What loading attachments raises. -/
inductive MultimodalError
  | multimodalInput (message : String)
  | uncaught
  deriving DecidableEq

def docxType : String := "application/vnd.openxmlformats-officedocument.wordprocessingml.document"

def textTypes : List String := ["text/plain", "text/markdown", "text/csv", "application/json"]

def paragraphTag : String := "\x7bhttp://schemas.openxmlformats.org/wordprocessingml/2006/main\x7dp"

def textTag : String := "\x7bhttp://schemas.openxmlformats.org/wordprocessingml/2006/main\x7dt"

/-- The line boundaries of `str.splitlines` other than `\r\n`. -/
def isLineBoundary (c : Char) : Bool :=
  c ∈ ['\n', '\r', '\x0b', '\x0c', '\x1c', '\x1d', '\x1e', Char.ofNat 0x85, Char.ofNat 0x2028,
    Char.ofNat 0x2029]

/-- `str.splitlines`, with the line that has been read so far, last character first. -/
def splitlines : List Char → List Char → List (List Char)
  | [], [] => []
  | [], line => [line.reverse]
  | '\r' :: '\n' :: rest, line => line.reverse :: splitlines rest []
  | c :: rest, line =>
    if isLineBoundary c then line.reverse :: splitlines rest []
    else splitlines rest (c :: line)

def rstrip (l : List Char) : List Char := (l.reverse.dropWhile isSpace).reverse

def truncateText (value : String) (maxCharacters : ℕ) : String :=
  if value.length ≤ maxCharacters then value
  else
    let marker := "\n[…文档正文因模型输入字符上限截断…]"
    String.ofList (rstrip (value.toList.take (maxCharacters - marker.length))) ++ marker

def normalizeText (text : String) : String :=
  strip (String.ofList
    (List.intercalate ['\n'] ((splitlines text.toList []).map rstrip)))

namespace DocumentReaders

variable (readers : DocumentReaders)

def extractDocxText (content : Bytes) : Except ReaderError String := do
  let _ ← readers.openZip content
  let document ← readers.readName content "word/document.xml"
  let root ← readers.fromString document
  let paragraphs := (root.iterTag paragraphTag).map fun paragraph ↦
    strip (String.join ((paragraph.iterTag textTag).map fun node ↦ node.text.getD ""))
  return "\n".intercalate (paragraphs.filter fun text ↦ !text.isEmpty)

def extractPdfText (content : Bytes) (maxPdfPages : ℕ) : Except ReaderError (String × ℕ) := do
  let pageCount ← readers.pdfPages content
  let texts ← (List.range (min pageCount maxPdfPages)).mapM (readers.extractText content)
  let text := "\n\n".intercalate (texts.map fun text ↦ text.getD "")
  return (if maxPdfPages < pageCount then text ++ "\n\n[…其余 PDF 页面因模型输入页数限制未提取…]"
    else text, pageCount)

def caught : ReaderError → MultimodalError
  | .badZipFile | .parseError | .badImage | .listed => .multimodalInput "附件正文无法安全提取"
  | .other => .uncaught

def wrap {α : Type} : Except ReaderError α → Except MultimodalError α
  | .ok a => .ok a
  | .error error => .error (caught error)

/-- The text and the number of pages before the text is normalised. -/
def rawDocumentText (content : Bytes) (contentType : String) (maxPdfPages : ℕ) :
    Except MultimodalError (String × Option ℕ) :=
  if contentType ∈ textTypes then
    match readers.decodeUtf8 content with
    | some text => .ok (text, none)
    -- `UnicodeDecodeError` is a `ValueError`
    | none => .error (caught .listed)
  else if contentType = "application/pdf" then
    (wrap (readers.extractPdfText content maxPdfPages)).map fun result ↦ (result.1, some result.2)
  else if contentType = docxType then
    (wrap (readers.extractDocxText content)).map fun text ↦ (text, none)
  else .error (.multimodalInput "附件类型不支持模型文档输入")

def extractDocumentText (content : Bytes) (contentType : String)
    (maxCharacters maxPdfPages : ℕ) : Except MultimodalError (String × Option ℕ) :=
  (readers.rawDocumentText content contentType maxPdfPages).map fun result ↦
    (truncateText (normalizeText result.1) maxCharacters, result.2)

end DocumentReaders

/-! ## Messages -/

structure MultimodalInputLimits where
  maxImageBytes : ℕ
  maxDocumentBytes : ℕ
  maxTotalBytes : ℕ
  maxDocumentCharacters : ℕ
  maxPdfPages : ℕ
  deriving DecidableEq

inductive ModelInputPart
  | text (text : String)
  | image (contentType : String) (data : Bytes) (fileName : String) (altText : Option String)
  | document (contentType : String) (data : Bytes) (fileName extractedText : String)
      (pageCount : Option ℕ)
  deriving DecidableEq

structure LoadedModelInput where
  parts : List ModelInputPart
  bytesLoaded : ℤ
  deriving DecidableEq

structure StoredObjectContent where
  data : Bytes
  contentType : String
  sha256 : String
  deriving DecidableEq

structure MultimodalInputService where
  getAttachmentForUser : (attachmentId userId : UUID) → Option Attachment
  readObject : (objectKey : String) → (maxBytes : ℕ) → Except ObjectStorageError StoredObjectContent
  readers : DocumentReaders
  casefold : String → String
  userId : UUID
  tenantId : UUID

namespace MultimodalInputService

def isAttachmentPart (part : MessagePart) : Bool := part.kind = .image || part.kind = .file

def itemLimit (limits : MultimodalInputLimits) (part : MessagePart) : ℕ :=
  if part.kind = .image then limits.maxImageBytes else limits.maxDocumentBytes

/-- The first phase over the parts of a message: what it reserves, and what is then left. -/
def reserve (limits : MultimodalInputLimits) : List MessagePart → (reserved remaining : ℤ) → ℤ × ℤ
  | [], reserved, remaining => (reserved, remaining)
  | part :: parts, reserved, remaining =>
    match isAttachmentPart part, part.sizeBytes with
    | true, some sizeBytes =>
      if sizeBytes ≤ itemLimit limits part ∧ sizeBytes ≤ remaining then
        reserve limits parts (reserved + sizeBytes) (remaining - sizeBytes)
      else reserve limits parts reserved remaining
    | _, _ => reserve limits parts reserved remaining

def selectMessages (limits : MultimodalInputLimits) : List Message → ℤ → List (Message × ℤ)
  | [], _ => []
  | message :: messages, remaining =>
    let (reserved, remaining) := reserve limits message.parts 0 remaining
    (message, reserved) :: selectMessages limits messages remaining

def limitFallback (attachment : Attachment) (reason : String) : ModelInputPart :=
  .text (serializeUntrustedContent
    ("附件“" ++ attachment.originalName ++ "”未载入：" ++ reason ++ "。") .attachment)

variable (service : MultimodalInputService)

def verifyAttachmentReference (message : Message) (attachment : Option Attachment)
    (part : MessagePart) : Except MultimodalError Attachment :=
  match attachment with
  | none => .error (.multimodalInput "消息附件不存在或当前用户无权访问")
  | some attachment =>
    if attachment.tenantId ≠ service.tenantId ∨ message.tenantId ≠ service.tenantId then
      .error (.multimodalInput "消息附件不属于当前租户")
    else if attachment.status ≠ .attached then
      .error (.multimodalInput "消息附件尚未完成绑定")
    else if attachment.conversationId ≠ message.conversationId ∨
        attachment.messageId ≠ some message.id then
      .error (.multimodalInput "消息附件绑定关系复核失败")
    else if decide (part.kind = .image) ≠ attachment.contentType.startsWith "image/" then
      .error (.multimodalInput "消息附件内容块类型复核失败")
    else if part.contentType ≠ some attachment.contentType ∨
        part.fileName ≠ some attachment.originalName ∨
        part.sizeBytes ≠ some attachment.sizeBytes ∨ part.sha256 ≠ some attachment.sha256 then
      .error (.multimodalInput "消息附件元数据复核失败")
    else .ok attachment

def referredAttachment (message : Message) (part : MessagePart) :
    Except MultimodalError Attachment :=
  match part.attachmentId with
  | none => .error (.multimodalInput "消息附件引用不完整")
  | some attachmentId => service.verifyAttachmentReference message
      (service.getAttachmentForUser attachmentId service.userId) part

/-- The object of a part that is within the limits, and its bytes. -/
def readPart (limits : MultimodalInputLimits) (part : MessagePart) (attachment : Attachment) :
    Except MultimodalError (ModelInputPart × ℤ) :=
  match service.readObject attachment.objectKey (itemLimit limits part) with
  | .error _ => .error (.multimodalInput "附件内容暂时无法安全读取")
  | .ok content =>
    let normalizedType :=
      String.ofList ((service.casefold content.contentType).toList.takeWhile (· ≠ ';'))
    if (content.data.length : ℤ) ≠ attachment.sizeBytes ∨
        normalizedType ≠ attachment.contentType ∨ content.sha256 ≠ attachment.sha256 then
      .error (.multimodalInput "附件内容完整性复核失败")
    else if part.kind = .image then
      .ok (.image attachment.contentType content.data attachment.originalName part.altText,
        content.data.length)
    else
      (service.readers.extractDocumentText content.data attachment.contentType
        limits.maxDocumentCharacters limits.maxPdfPages).map fun result ↦
          (.document attachment.contentType content.data attachment.originalName result.1 result.2,
            content.data.length)

/-- The loop over the parts of a message, with the bytes that have been loaded. -/
def loadParts (message : Message) (limits : MultimodalInputLimits) (remainingBytes : ℤ) :
    List MessagePart → (bytesLoaded : ℤ) → Except MultimodalError LoadedModelInput
  | [], bytesLoaded => .ok ⟨[], bytesLoaded⟩
  | part :: parts, bytesLoaded =>
    if !isAttachmentPart part then loadParts message limits remainingBytes parts bytesLoaded
    else do
      let attachment ← service.referredAttachment message part
      if (itemLimit limits part : ℤ) < attachment.sizeBytes then
        let loaded ← loadParts message limits remainingBytes parts bytesLoaded
        return { loaded with
          parts := limitFallback attachment "超过单个模型输入上限" :: loaded.parts }
      else if remainingBytes - bytesLoaded < attachment.sizeBytes then
        let loaded ← loadParts message limits remainingBytes parts bytesLoaded
        return { loaded with
          parts := limitFallback attachment "超过本次模型输入总量上限" :: loaded.parts }
      else
        let (item, size) ← service.readPart limits part attachment
        let loaded ← loadParts message limits remainingBytes parts (bytesLoaded + size)
        return { loaded with parts := item :: loaded.parts }

def loadMessageAttachments (message : Message) (limits : MultimodalInputLimits)
    (remainingBytes : ℤ) : Except MultimodalError LoadedModelInput :=
  service.loadParts message limits remainingBytes
    (message.parts.mergeSort fun a b ↦ decide (a.position ≤ b.position)) 0

abbrev LoadedTable := Table fun entry : UUID × LoadedModelInput ↦ entry.1

/-- `load_messages`. The messages are loaded at once; of several errors one is raised, here the
first. -/
def loadMessages (messages : List Message) (limits : MultimodalInputLimits) :
    Except MultimodalError LoadedTable := do
  let selected := selectMessages limits messages.reverse limits.maxTotalBytes
  let loaded ← selected.mapM fun (message, reservedBytes) ↦
    service.loadMessageAttachments message limits reservedBytes
  return ((selected.map fun (message, _) ↦ message.id).zip loaded).foldl Table.put .empty

end MultimodalInputService

end CyberNetizen.Application
