import CyberNetizen.Application.MultimodalService
import CyberNetizen.Lib.Chunks

namespace CyberNetizen.Infrastructure

open Application Chunks

inductive InspectionError
  | inspection (message : String)
  | uncaught
  deriving DecidableEq

/-! ## Active contents of PDF files -/

def hexDigit (b : UInt8) : Option UInt8 :=
  if 48 ≤ b ∧ b ≤ 57 then some (b - 48)
  else if 65 ≤ b ∧ b ≤ 70 then some (b - 55)
  else if 97 ≤ b ∧ b ≤ 102 then some (b - 87)
  else none

/-- The value of the two digits after `#`. -/
def escaped (high low : UInt8) : Option UInt8 :=
  match hexDigit high, hexDigit low with
  | some h, some l => some (16 * h + l)
  | _, _ => none

/-- `re.sub` of `#xx` by the byte it stands for. -/
def decodeNames : Bytes → Bytes
  | b :: high :: low :: rest =>
    match if b = 35 then escaped high low else none with
    | some value => value :: decodeNames rest
    | none => b :: decodeNames (high :: low :: rest)
  | bytes => bytes

/-- A letter, a digit or `_`. -/
def isWord (b : UInt8) : Bool :=
  48 ≤ b ∧ b ≤ 57 ∨ 65 ≤ b ∧ b ≤ 90 ∨ b = 95 ∨ 97 ≤ b ∧ b ≤ 122

def lower (b : UInt8) : UInt8 := if 65 ≤ b ∧ b ≤ 90 then b + 32 else b

def activeNames : List Bytes :=
  ["/javascript", "/js", "/launch", "/embeddedfile", "/richmedia"].map fun name ↦
    name.toList.map fun c ↦ UInt8.ofNat c.toNat

def atBoundary : Bytes → Bool
  | [] => true
  | b :: _ => !isWord b

def hasNameAt (name bytes : Bytes) : Bool :=
  (bytes.take name.length).map lower = name ∧ atBoundary (bytes.drop name.length)

/-- `re.search` of the names of active contents. -/
def hasActiveName (bytes : Bytes) : Bool :=
  bytes.tails.any fun rest ↦ activeNames.any fun name ↦ hasNameAt name rest

def chunkSize : ℕ := 64 * 1024

def carrySize : ℕ := 32

/-- The loop over the chunks, with what is kept of the last sample. -/
def scanChunks : List Bytes → (carry : Bytes) → Except InspectionError Unit
  | [], _ => .ok ()
  | chunk :: chunks, carry =>
    let sample := carry ++ chunk
    if hasActiveName (decodeNames sample) then .error (.inspection "PDF 包含不允许的主动内容")
    else scanChunks chunks (sample.drop (sample.length - carrySize))

def rejectActivePdf (content : Bytes) : Except InspectionError Unit :=
  scanChunks (chunks chunkSize content) []

/-! ## Archives and texts -/

def pathParts : List Char → List Char → List (List Char)
  | [], part => [part.reverse]
  | c :: rest, part =>
    if c = '/' ∨ c = '\\' then part.reverse :: pathParts rest [] else pathParts rest (c :: part)

def localName (key : String) : String :=
  String.ofList (key.toList.reverse.takeWhile (· ≠ '\x7d')).reverse

section

variable (readers : DocumentReaders) (casefold : String → String)

def hasExternalTarget (element : XmlElement) : Bool :=
  match element.attributes.find? fun (key, _) ↦ casefold (localName key) = "targetmode" with
  | none => false
  | some (_, value) => casefold value = "external"

/-- The relationships of a member whose name ends with `.rels`. -/
def verifyRelationships (content : Bytes) (member : ZipMember) : Except InspectionError Unit :=
  if 1024 * 1024 < member.fileSize then .error (.inspection "DOCX 关系文件超过安全上限")
  else match readers.readMember content member with
    | .error .badZipFile => .error (.inspection "DOCX 压缩结构无效")
    | .error _ => .error .uncaught
    | .ok relationship => match readers.fromString relationship with
      | .error .parseError => .error (.inspection "DOCX 关系文件结构无效")
      | .error .badZipFile => .error (.inspection "DOCX 压缩结构无效")
      | .error _ => .error .uncaught
      | .ok root =>
        if root.iter.any (hasExternalTarget casefold) then
          .error (.inspection "DOCX 不允许包含外部关系")
        else .ok ()

def verifyMember (content : Bytes) (member : ZipMember) : Except InspectionError Unit :=
  if member.isEncrypted ∨ ['.', '.'] ∈ pathParts member.filename.toList [] ∨
      member.filename.startsWith "/" then
    .error (.inspection "DOCX 包含不安全文件项")
  else if (casefold member.filename).endsWith "vbaproject.bin" then
    .error (.inspection "DOCX 不允许包含宏")
  else if member.filename.endsWith ".rels" then
    verifyRelationships readers casefold content member
  else .ok ()

def verifyDocx (content : Bytes) : Except InspectionError Unit :=
  match readers.openZip content with
  | .error .badZipFile => .error (.inspection "DOCX 压缩结构无效")
  | .error _ => .error .uncaught
  | .ok members =>
    let names := members.map (·.filename)
    if 2048 < members.length then .error (.inspection "DOCX 文件项数量超过安全上限")
    else if "[Content_Types].xml" ∉ names ∨ "word/document.xml" ∉ names then
      .error (.inspection "对象不是有效 DOCX 文档")
    else do
      members.forM (verifyMember readers casefold content)
      let totalUncompressed := (members.map (·.fileSize)).sum
      if 50 * 1024 * 1024 < totalUncompressed ∨ content.length * 100 < totalUncompressed then
        .error (.inspection "DOCX 解压规模超过安全上限")
      else .ok ()

/-- `_verify_utf8_text`. The incremental decoder accepts what the decoder of the whole accepts. -/
def verifyUtf8Text (content : Bytes) : Except InspectionError String :=
  if content.contains 0 then .error (.inspection "文本文件包含二进制空字节")
  else match readers.decodeUtf8 content with
    | none => .error (.inspection "文本文件不是有效 UTF-8")
    | some text => .ok text

/-! ## Images -/

def expectedFormats : List (String × String) :=
  [("image/png", "PNG"), ("image/jpeg", "JPEG"), ("image/gif", "GIF"), ("image/webp", "WEBP")]

def imageRefusal : ReaderError → InspectionError
  | .badImage => .inspection "图片内容无法安全解码"
  | _ => .uncaught

def verifyImage (content : Bytes) (contentType : String) : Except InspectionError Unit :=
  match readers.openImage content with
  | .error error => .error (imageRefusal error)
  | .ok image =>
    if expectedFormats.lookup contentType ≠ some image.format then
      .error (.inspection "图片解码格式与声明类型不一致")
    else if 40000000 < image.width * image.height then
      .error (.inspection "图片像素数量超过安全上限")
    else match readers.verifyImage content with
      | .error error => .error (imageRefusal error)
      | .ok () => .ok ()

/-! ## The inspection -/

/-- The types of images, and whether the first bytes are those of such an image. -/
def imageSignatures (signature : Bytes) : List (String × Bool) :=
  [("image/png", [137, 80, 78, 71, 13, 10, 26, 10].isPrefixOf signature),
    ("image/jpeg", [255, 216, 255].isPrefixOf signature),
    ("image/gif", [71, 73, 70, 56, 55, 97].isPrefixOf signature ||
      [71, 73, 70, 56, 57, 97].isPrefixOf signature),
    ("image/webp", [82, 73, 70, 70].isPrefixOf signature &&
      (signature.drop 8).take 4 = [87, 69, 66, 80])]

/-- `%PDF-` -/
def pdfSignature : Bytes := [37, 80, 68, 70, 45]

def inspectContent (content : Bytes) (declaredType : String) : Except InspectionError String :=
  if content.length = 0 then .error (.inspection "对象内容为空")
  else
    let normalized := String.ofList ((casefold declaredType).toList.takeWhile (· ≠ ';'))
    let signature := content.take 16
    match (imageSignatures signature).lookup normalized with
    | some false => .error (.inspection "图片魔数与声明类型不一致")
    | some true => (verifyImage readers content normalized).map fun _ ↦ normalized
    | none =>
      if normalized = "application/pdf" then
        if pdfSignature.isPrefixOf signature then
          (rejectActivePdf content).map fun _ ↦ normalized
        else .error (.inspection "PDF 魔数无效")
      else if normalized = docxType then
        (verifyDocx readers casefold content).map fun _ ↦ normalized
      else if normalized ∈ textTypes then do
        let text ← verifyUtf8Text readers content
        if normalized = "application/json" ∧ !readers.loadsJson text then
          .error (.inspection "JSON 文档结构无效")
        else return normalized
      else .error (.inspection "对象媒体类型不在安全检查范围内")

end

end CyberNetizen.Infrastructure
