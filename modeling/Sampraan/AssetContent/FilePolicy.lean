import Sampraan.AssetContent.Storage

/-! `file-policy.ts`, and the file validation of `content.service.ts`. -/

namespace Sampraan.AssetContent

open Backend Library

variable (env : ContentEnvironment)

/-! ### The file types -/

inductive MimeCategory where
  | text
  | pdf
  | image
  | binary
  deriving DecidableEq

structure SniffedMime where
  mimeType : String
  category : MimeCategory
  label : String
  deriving DecidableEq

/-- A rule without magic bytes, or without a prefix, has the empty one. -/
structure SniffRule where
  mime : SniffedMime
  magic : Bytes := []
  textPrefix : String := ""
  predicate : Bytes → Bool := fun _ => true

def isLikelyUtf8Text (data : Bytes) : Bool :=
  !data.contains 0 &&
    (data.take 8192).all fun byte =>
      !(byte.toNat < 0x09 || (0x0d < byte.toNat && byte.toNat < 0x20 && byte.toNat != 0x1b))

/-- A carriage return before the line feed is white space, so it may stay in the line. -/
def nonBlankLines (text : String) : List (List Char) :=
  (text.toList.splitOn '\n').filter fun line => !(Decimal.trim line).isEmpty

def isCsvShaped (data : Bytes) : Bool :=
  let lines := nonBlankLines (env.text.decodeUtf8 (data.take 4096))
  2 ≤ lines.length && 2 ≤ ((lines.take 4).filter fun line => line.any fun c => c == ',' || c == ';').length

def isJsonShaped (data : Bytes) : Bool :=
  match env.text.parseJson (env.text.decodeUtf8 data) with
  | none => false
  | some (.bool _) => false
  | some (.number _) => false
  | some _ => true

def sniffRules : List SniffRule :=
  [{ mime := { mimeType := "application/pdf", category := .pdf, label := "PDF document" }
     magic := [0x25, 0x50, 0x44, 0x46] },
   { mime := { mimeType := "image/png", category := .image, label := "PNG image" }
     magic := [0x89, 0x50, 0x4e, 0x47, 0x0d, 0x0a, 0x1a, 0x0a] },
   { mime := { mimeType := "image/jpeg", category := .image, label := "JPEG image" }
     magic := [0xff, 0xd8, 0xff] },
   { mime := { mimeType := "text/xml", category := .text, label := "XML document" }
     textPrefix := "<?xml" },
   { mime := { mimeType := "text/html", category := .text, label := "HTML document" }
     textPrefix := "<!DOCTYPE" },
   { mime := { mimeType := "application/json", category := .text, label := "JSON document" }
     predicate := isJsonShaped env },
   { mime := { mimeType := "text/csv", category := .text, label := "CSV data" }
     predicate := isCsvShaped env },
   { mime := { mimeType := "text/markdown", category := .text, label := "Markdown document" }
     textPrefix := "#" },
   { mime := { mimeType := "text/plain", category := .text, label := "Plain text" } }]

def SniffRule.accepts (rule : SniffRule) (data : Bytes) : Bool :=
  rule.magic.isPrefixOf data &&
    rule.textPrefix.toList.isPrefixOf
      (env.text.decodeUtf8 (data.take rule.textPrefix.length)).toList &&
    rule.predicate data && (rule.mime.category != .text || isLikelyUtf8Text data)

def sniff (data : Bytes) : Option SniffedMime :=
  if data = [] then none
  else ((sniffRules env).find? fun rule => rule.accepts env data).map SniffRule.mime

/-! ### File names -/

def isStorageChar (c : Char) : Bool :=
  c.isAlphanum || ['.', '_', ' ', '(', ')', '-'].contains c

/-- A character outside the basic plane is two code units, each of which is replaced. -/
def replaceUnsafe (c : Char) : List Char :=
  if isStorageChar c then [c] else if c.toNat < 0x10000 then ['_'] else ['_', '_']

/-- `replace(/\s+/g, " ")`, of a text whose only white space is the blank. -/
def collapseBlanks : List Char → List Char
  | ' ' :: ' ' :: rest => collapseBlanks (' ' :: rest)
  | c :: rest => c :: collapseBlanks rest
  | [] => []

/-- `name.slice(name.lastIndexOf("."))`, unless the dot is missing or comes first. -/
def pathExtname (name : List Char) : List Char :=
  match name.reverse.findIdx? (· == '.') with
  | none => []
  | some i => if i + 1 < name.length then name.drop (name.length - (i + 1)) else []

def sanitizeFilename (original : String) : String :=
  let base := (original.toList.splitOnP fun c => c == '\\' || c == '/').getLastD []
  let normal := (env.text.normalizeNfkc (String.ofList base)).toList
  let printable := normal.filter fun c => !(c.toNat < 0x20 || c.toNat == 0x7f)
  let safeChars := (printable.flatMap replaceUnsafe).dropWhile (· == '.')
  let cleaned := Decimal.trim (collapseBlanks safeChars)
  let safe := if cleaned = [] then "asset".toList else cleaned
  if safe.length ≤ 200 then String.ofList safe
  else
    let ext := pathExtname safe
    String.ofList (safe.take (max 1 (200 - ext.length)) ++ ext)

/-! ### Validation -/

structure UploadInput where
  originalFilename : String
  clientMimeType : Option String
  data : Bytes

structure ValidatedUpload where
  filename : String
  originalFilename : String
  mimeType : String
  sizeBytes : ℕ
  data : Bytes
  contentHash : String
  deriving DecidableEq

def contentValidationError (message : String) : Error := .named "ContentValidationError" message

def isContentValidationError : Error → Bool
  | .named name _ => name == "ContentValidationError"
  | _ => false

def uploadLimitMessage : String :=
  s!"File exceeds the {env.storage.maxUploadBytes / (1024 * 1024)} MiB limit"

def contentHashOf (data : Bytes) : String := env.sha256.bytes data

def checkTextFormat (sniffed : SniffedMime) (data : Bytes) : Except Error Unit :=
  if sniffed.category ≠ .text then .ok ()
  else
    match env.text.decodeUtf8Fatal data with
    | none => .error (.named "TypeError" "The encoded data was not valid for encoding utf-8")
    | some decoded =>
      if decoded.toList.contains '\x00' then
        .error (contentValidationError "File content does not match the declared text format")
      else .ok ()

def validateUpload (input : UploadInput) : Except Error ValidatedUpload :=
  if input.data.length < 1 then .error (contentValidationError "File is empty")
  else if env.storage.maxUploadBytes < input.data.length then
    .error (contentValidationError (uploadLimitMessage env))
  else
    match sniff env input.data with
    | none => .error (contentValidationError "Unsupported or unrecognized file type")
    | some sniffed => do
      checkTextFormat env sniffed input.data
      .ok
        { filename := sanitizeFilename env input.originalFilename
          originalFilename := sliceTo 255 input.originalFilename
          mimeType := sniffed.mimeType
          sizeBytes := input.data.length
          data := input.data
          contentHash := contentHashOf env input.data }

/-- The size and the hash of a validated upload are those of its data. -/
theorem validateUpload_ok {input : UploadInput} {validated : ValidatedUpload}
    (h : validateUpload env input = .ok validated) :
    validated.data = input.data ∧ validated.sizeBytes = input.data.length ∧
      validated.contentHash = contentHashOf env input.data := by
  unfold validateUpload at h
  split at h
  · cases h
  split at h
  · cases h
  cases hsniff : sniff env input.data with
  | none => simp [hsniff] at h
  | some sniffed =>
    simp only [hsniff] at h
    cases hcheck : checkTextFormat env sniffed input.data with
    | error e => simp [hcheck, bind, Except.bind] at h
    | ok u =>
      simp only [hcheck, bind, Except.bind, Except.ok.injEq] at h
      subst h
      exact ⟨rfl, rfl, rfl⟩

end Sampraan.AssetContent
