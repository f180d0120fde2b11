import Sampraan.AssetContent.Versions

/-! Which uploads `validateUpload` takes for text, and which of its errors are audited. -/

namespace Sampraan.AssetContent

open Backend Library

variable {env : ContentEnvironment} {data : Bytes}

/-! ### UTF-8 -/

def utf8Of (text : String) : Bytes := text.toByteArray.data.toList

def ValidUtf8 (data : Bytes) : Prop := ∃ text, utf8Of text = data

def withoutMark (text : String) : String :=
  match text.toList with
  | '\uFEFF' :: rest => String.ofList rest
  | _ => text

/-- What a fatal `TextDecoder` does: it reads the UTF-8 text without the byte order mark, and fails on
any other bytes. -/
structure DecodesUtf8 (text : TextLibrary) : Prop where
  accepts : ∀ s, text.decodeUtf8Fatal (utf8Of s) = some (withoutMark s)
  rejects : ∀ data, ¬ ValidUtf8 data → text.decodeUtf8Fatal data = none

theorem utf8Of_eq (text : String) : utf8Of text = text.toList.flatMap String.utf8EncodeChar := by
  rw [utf8Of, ← String.utf8Encode_toList]
  simp [List.utf8Encode]

/-- The character 0 is the byte 0. -/
theorem zero_mem_utf8Of {text : String} (h : '\x00' ∈ (withoutMark text).toList) :
    (0 : UInt8) ∈ utf8Of text := by
  have hmem : '\x00' ∈ text.toList := by
    unfold withoutMark at h
    split at h
    case h_1 rest htext =>
      rw [htext]
      exact List.mem_cons_of_mem _ (by simpa using h)
    case h_2 => exact h
  rw [utf8Of_eq, List.mem_flatMap]
  exact ⟨'\x00', hmem, by decide⟩

/-! ### Text buffers -/

/-- The control bytes that `isLikelyUtf8Text` rejects. -/
def isControlByte (byte : UInt8) : Bool :=
  byte.toNat < 0x09 || (0x0d < byte.toNat && byte.toNat < 0x20 && byte.toNat != 0x1b)

theorem isLikelyUtf8Text_iff :
    isLikelyUtf8Text data = true ↔ 0 ∉ data ∧ ∀ byte ∈ data.take 8192, isControlByte byte = false := by
  rw [isLikelyUtf8Text, Bool.and_eq_true, List.all_eq_true, Bool.not_eq_true', ← Bool.not_eq_true,
    List.contains_iff_mem]
  simp only [isControlByte, Bool.not_eq_true']

/-- The first bytes of a PDF, a PNG or a JPEG file. -/
def hasSignature (data : Bytes) : Bool :=
  [0x25, 0x50, 0x44, 0x46].isPrefixOf data ||
    [0x89, 0x50, 0x4e, 0x47, 0x0d, 0x0a, 0x1a, 0x0a].isPrefixOf data ||
    [0xff, 0xd8, 0xff].isPrefixOf data

theorem accepts_signature (mime : SniffedMime) (magic : Bytes) (h : mime.category ≠ .text) :
    SniffRule.accepts env { mime := mime, magic := magic } data = magic.isPrefixOf data := by
  have hcategory : (mime.category != .text) = true := by simpa using h
  have hempty : "".toList.isPrefixOf (env.text.decodeUtf8 (data.take "".length)).toList = true := rfl
  simp only [SniffRule.accepts, hcategory, hempty, Bool.and_true, Bool.true_or]

theorem accepts_text {rule : SniffRule} (hmime : rule.mime.category = .text)
    (h : rule.accepts env data = true) : isLikelyUtf8Text data = true := by
  simp only [SniffRule.accepts, hmime, Bool.and_eq_true, bne_self_eq_false, Bool.false_or] at h
  exact h.2

theorem accepts_plain (h : isLikelyUtf8Text data = true) :
    SniffRule.accepts env
      { mime := { mimeType := "text/plain", category := .text, label := "Plain text" } } data = true := by
  have hempty : "".toList.isPrefixOf (env.text.decodeUtf8 (data.take "".length)).toList = true := rfl
  simp only [SniffRule.accepts, hempty, h, List.isPrefixOf_nil_left, Bool.and_true, Bool.or_true]

/-! ### What is taken for text -/

def signatureRules (env : ContentEnvironment) : List SniffRule := (sniffRules env).take 3

def textRules (env : ContentEnvironment) : List SniffRule := (sniffRules env).drop 3

theorem signatureRules_category {rule : SniffRule} (h : rule ∈ signatureRules env) :
    rule.mime.category ≠ .text := by
  simp only [signatureRules, sniffRules, List.take_succ_cons, List.take_zero, List.mem_cons,
    List.not_mem_nil, or_false] at h
  rcases h with rfl | rfl | rfl
  all_goals decide

theorem find?_signatureRules (env : ContentEnvironment) (data : Bytes) :
    ((signatureRules env).find? fun rule => rule.accepts env data).isSome = hasSignature data := by
  rw [Bool.eq_iff_iff, List.find?_isSome, hasSignature]
  simp only [signatureRules, sniffRules, List.take_succ_cons, List.take_zero,
    List.exists_mem_cons_iff, List.not_mem_nil, false_and, exists_false, or_false]
  rw [accepts_signature _ _ (by decide), accepts_signature _ _ (by decide),
    accepts_signature _ _ (by decide), Bool.or_eq_true, Bool.or_eq_true, or_assoc]

theorem textRules_category {rule : SniffRule} (h : rule ∈ textRules env) : rule.mime.category = .text := by
  simp only [textRules, sniffRules, List.drop_succ_cons, List.drop_zero, List.mem_cons,
    List.not_mem_nil, or_false] at h
  rcases h with rfl | rfl | rfl | rfl | rfl | rfl
  all_goals rfl

theorem find?_textRules (env : ContentEnvironment) (data : Bytes) :
    ((textRules env).find? fun rule => rule.accepts env data).isSome = isLikelyUtf8Text data := by
  rw [Bool.eq_iff_iff, List.find?_isSome]
  constructor
  · rintro ⟨rule, hrule, haccepts⟩
    exact accepts_text (textRules_category hrule) haccepts
  · intro hlikely
    refine ⟨_, ?_, accepts_plain hlikely⟩
    simp [textRules, sniffRules]

theorem sniff_text_iff (hdata : data ≠ []) :
    (∃ mime, sniff env data = some mime ∧ mime.category = .text) ↔
      hasSignature data = false ∧ isLikelyUtf8Text data = true := by
  have hrules : sniffRules env = signatureRules env ++ textRules env := rfl
  rw [sniff, if_neg hdata, hrules, List.find?_append, ← find?_signatureRules env,
    ← find?_textRules env]
  cases hsignature : (signatureRules env).find? fun rule => rule.accepts env data with
  | some rule =>
    have hcategory := signatureRules_category (List.mem_of_find?_eq_some hsignature)
    simp [hcategory]
  | none =>
    cases htext : (textRules env).find? fun rule => rule.accepts env data with
    | some rule => simp [textRules_category (List.mem_of_find?_eq_some htext)]
    | none => simp

/-! ### The uploads -/

/-- The upload is within the limits, begins like no PDF, PNG or JPEG file, and passes the sampled
check. -/
structure TextUpload (env : ContentEnvironment) (data : Bytes) : Prop where
  nonempty : 1 ≤ data.length
  limited : data.length ≤ env.storage.maxUploadBytes
  unsigned : hasSignature data = false
  likely : isLikelyUtf8Text data = true

theorem TextUpload.sniffed (h : TextUpload env data) :
    ∃ mime, sniff env data = some mime ∧ mime.category = .text :=
  (sniff_text_iff (List.ne_nil_of_length_pos h.nonempty)).mpr ⟨h.unsigned, h.likely⟩

structure PlainText (data : Bytes) : Prop where
  valid : ValidUtf8 data
  no_zero : 0 ∉ data
  no_control : ∀ byte ∈ data, isControlByte byte = false

variable {input : UploadInput}

theorem validateUpload_of_sniff {mime : SniffedMime} (hmin : 1 ≤ input.data.length)
    (hmax : input.data.length ≤ env.storage.maxUploadBytes) (hsniff : sniff env input.data = some mime) :
    validateUpload env input =
      (checkTextFormat env mime input.data).map fun _ =>
        { filename := sanitizeFilename env input.originalFilename
          originalFilename := sliceTo 255 input.originalFilename
          mimeType := mime.mimeType
          sizeBytes := input.data.length
          data := input.data
          contentHash := contentHashOf env input.data } := by
  rw [validateUpload, if_neg (by omega), if_neg (by omega)]
  simp only [hsniff]
  cases checkTextFormat env mime input.data with
  | error e => rfl
  | ok u => rfl

theorem checkTextFormat_other {mime : SniffedMime} (h : mime.category ≠ .text) :
    checkTextFormat env mime data = .ok () := if_pos h

/-- A text upload is accepted when its bytes are UTF-8, and else the decoder's own error escapes. -/
theorem checkTextFormat_text {mime : SniffedMime} (hdecodes : DecodesUtf8 env.text)
    (hmime : mime.category = .text) (hzero : 0 ∉ data) :
    (ValidUtf8 data → checkTextFormat env mime data = .ok ()) ∧
      (¬ ValidUtf8 data → ∃ message, checkTextFormat env mime data = .error (.named "TypeError" message)) := by
  rw [checkTextFormat, if_neg (not_not.mpr hmime)]
  constructor
  · rintro ⟨text, rfl⟩
    have hnul : '\x00' ∉ (withoutMark text).toList := mt zero_mem_utf8Of hzero
    simp only [hdecodes.accepts, List.contains_eq_mem, hnul, decide_false, Bool.false_eq_true, if_false]
  · intro hinvalid
    rw [hdecodes.rejects data hinvalid]
    exact ⟨_, rfl⟩

/-! ### Text means text -/

/-- Every refusal is a `ContentValidationError`, which `createVersion` audits, and what is accepted for
text is text throughout. -/
structure TextMeansText (env : ContentEnvironment) (input : UploadInput) : Prop where
  rejected : ∀ e, validateUpload env input = .error e → isContentValidationError e = true
  audited : ∀ e authorized (call : CreateVersionInput), call.filename = input.originalFilename →
    call.clientMimeType = input.clientMimeType → validateUpload env input = .error e →
      validateOrReject env authorized call input.data =
        (contentAudit env authorized.actor authorized.asset "ASSET_CONTENT_UPLOAD_REJECTED" .deny
          (errorMessage e) >>= fun _ => throw (.trpc .badRequest (errorMessage e)))
  text : ∀ validated mime, validateUpload env input = .ok validated →
    sniff env input.data = some mime → mime.category = .text → PlainText input.data

theorem validateOrReject_of_content {e : Error} {authorized : AuthorizedContent}
    {call : CreateVersionInput} (hfilename : call.filename = input.originalFilename)
    (hmime : call.clientMimeType = input.clientMimeType)
    (h : validateUpload env input = .error e) (he : isContentValidationError e = true) :
    validateOrReject env authorized call input.data =
      (contentAudit env authorized.actor authorized.asset "ASSET_CONTENT_UPLOAD_REJECTED" .deny
        (errorMessage e) >>= fun _ => throw (.trpc .badRequest (errorMessage e))) := by
  rw [validateOrReject, hfilename, hmime, h]
  simp only [he, if_true]

theorem TextMeansText.of (hrejected : ∀ e, validateUpload env input = .error e →
      isContentValidationError e = true)
    (htext : ∀ validated mime, validateUpload env input = .ok validated →
      sniff env input.data = some mime → mime.category = .text → PlainText input.data) :
    TextMeansText env input where
  rejected := hrejected
  audited e _ _ hfilename hmime h := validateOrReject_of_content hfilename hmime h (hrejected e h)
  text := htext

/-- Refused by the code's own checks, or sniffed. -/
theorem validateUpload_cases (env : ContentEnvironment) (input : UploadInput) :
    (∃ message, validateUpload env input = .error (contentValidationError message)) ∨
      1 ≤ input.data.length ∧ input.data.length ≤ env.storage.maxUploadBytes ∧
        ∃ mime, sniff env input.data = some mime := by
  by_cases hmin : 1 ≤ input.data.length
  case neg => exact .inl ⟨_, if_pos (by omega)⟩
  by_cases hmax : input.data.length ≤ env.storage.maxUploadBytes
  case neg => exact .inl ⟨_, by rw [validateUpload, if_neg (by omega), if_pos (by omega)]⟩
  cases hsniff : sniff env input.data with
  | some mime => exact .inr ⟨hmin, hmax, mime, rfl⟩
  | none =>
    refine .inl ⟨"Unsupported or unrecognized file type", ?_⟩
    rw [validateUpload, if_neg (by omega), if_neg (by omega)]
    simp only [hsniff]

/-- What is no text upload is refused by the code's own checks, or accepted for something else. -/
theorem textMeansText_of_other (h : ¬ TextUpload env input.data) : TextMeansText env input := by
  rcases validateUpload_cases env input with ⟨message, herror⟩ | ⟨hmin, hmax, mime, hsniff⟩
  · apply TextMeansText.of
    · intro e he
      rw [herror, Except.error.injEq] at he
      exact he ▸ rfl
    · intro validated mime hok
      rw [herror] at hok
      cases hok
  · have hmime : mime.category ≠ .text := by
      intro hmime
      have ⟨hsignature, hlikely⟩ := (sniff_text_iff (List.ne_nil_of_length_pos hmin)).mp ⟨mime, hsniff, hmime⟩
      exact h ⟨hmin, hmax, hsignature, hlikely⟩
    have hvalidate := validateUpload_of_sniff hmin hmax hsniff
    rw [checkTextFormat_other hmime] at hvalidate
    apply TextMeansText.of
    · intro e he
      rw [hvalidate] at he
      cases he
    · intro validated mime' hok hsniff' hmime'
      rw [hsniff, Option.some_inj] at hsniff'
      exact absurd (hsniff' ▸ hmime') hmime

theorem TextUpload.textMeansText_iff (hdecodes : DecodesUtf8 env.text) (h : TextUpload env input.data) :
    TextMeansText env input ↔ PlainText input.data := by
  obtain ⟨mime, hsniff, hmime⟩ := h.sniffed
  obtain ⟨hzero, -⟩ := isLikelyUtf8Text_iff.mp h.likely
  obtain ⟨haccepts, hrejects⟩ := checkTextFormat_text hdecodes hmime hzero
  have hvalidate := validateUpload_of_sniff h.nonempty h.limited hsniff
  constructor
  · intro hkept
    by_cases hvalid : ValidUtf8 input.data
    · rw [haccepts hvalid] at hvalidate
      exact hkept.text _ mime hvalidate hsniff hmime
    · obtain ⟨message, hcheck⟩ := hrejects hvalid
      rw [hcheck] at hvalidate
      have hcontent := hkept.rejected _ hvalidate
      simp [isContentValidationError] at hcontent
  · intro hplain
    rw [haccepts hplain.valid] at hvalidate
    apply TextMeansText.of
    · intro e he
      rw [hvalidate] at he
      cases he
    · rintro - - - - -
      exact hplain

/-- The condition on a text upload: its bytes are UTF-8, and there is no control byte behind the
sample. -/
def TextThroughout (data : Bytes) : Prop :=
  ValidUtf8 data ∧ ∀ byte ∈ data.drop 8192, isControlByte byte = false

theorem TextUpload.plainText_iff (h : TextUpload env data) : PlainText data ↔ TextThroughout data := by
  obtain ⟨hzero, hsample⟩ := isLikelyUtf8Text_iff.mp h.likely
  constructor
  · intro hplain
    exact ⟨hplain.valid, fun byte hbyte => hplain.no_control byte (List.mem_of_mem_drop hbyte)⟩
  · rintro ⟨hvalid, hrest⟩
    refine ⟨hvalid, hzero, fun byte hbyte => ?_⟩
    rw [← List.take_append_drop 8192 data, List.mem_append] at hbyte
    exact hbyte.elim (hsample byte) (hrest byte)

theorem validateUpload_text_iff (env : ContentEnvironment) (hdecodes : DecodesUtf8 env.text)
    (input : UploadInput) :
    TextMeansText env input ↔ (TextUpload env input.data → TextThroughout input.data) := by
  by_cases h : TextUpload env input.data
  · rw [h.textMeansText_iff hdecodes, h.plainText_iff]
    exact ⟨fun hthroughout _ => hthroughout, fun hthroughout => hthroughout h⟩
  · exact ⟨fun _ htext => absurd htext h, fun _ => textMeansText_of_other h⟩

/-- Three bytes that no check of the code refuses, and that are no UTF-8. -/
theorem undecodable_upload :
    ∃ message, validateUpload sampleContent
        { originalFilename := "notes.txt", clientMimeType := some "text/plain", data := [0xff, 0xfe, 0x41] } =
          .error (.named "TypeError" message) ∧
      ¬ TextMeansText sampleContent
        { originalFilename := "notes.txt", clientMimeType := some "text/plain", data := [0xff, 0xfe, 0x41] } := by
  have herror : validateUpload sampleContent
      { originalFilename := "notes.txt", clientMimeType := some "text/plain", data := [0xff, 0xfe, 0x41] } =
        .error (.named "TypeError" "The encoded data was not valid for encoding utf-8") := by
    rfl
  refine ⟨_, herror, fun h => ?_⟩
  have hcontent := h.rejected _ herror
  simp [isContentValidationError] at hcontent

/-- A library whose fatal decoder is the one of the language. -/
def sampleDecoder (data : Bytes) : Option String :=
  (String.fromUTF8? data.toByteArray).map withoutMark

theorem toByteArray_utf8Of (text : String) : (utf8Of text).toByteArray = text.toByteArray := by
  apply ByteArray.ext
  rw [List.data_toByteArray, utf8Of, Array.toArray_toList]

theorem fromUTF8?_utf8Of (text : String) : String.fromUTF8? (utf8Of text).toByteArray = some text := by
  rw [toByteArray_utf8Of, String.fromUTF8?, dif_pos text.isValidUTF8]
  rfl

theorem sampleDecoder_decodes : DecodesUtf8 { sampleContent.text with decodeUtf8Fatal := sampleDecoder } where
  accepts text := by
    change (String.fromUTF8? (utf8Of text).toByteArray).map withoutMark = _
    rw [fromUTF8?_utf8Of, Option.map_some]
  rejects data hinvalid := by
    change (String.fromUTF8? data.toByteArray).map withoutMark = none
    rw [String.fromUTF8?, dif_neg, Option.map_none]
    intro hvalid
    refine hinvalid ⟨String.fromUTF8 data.toByteArray hvalid, ?_⟩
    rw [utf8Of, String.fromUTF8, List.data_toByteArray]

theorem validateUpload_text_iff_sample :
    TextMeansText
      { sampleContent with text := { sampleContent.text with decodeUtf8Fatal := sampleDecoder } }
      { originalFilename := "notes.txt", clientMimeType := some "text/plain", data := utf8Of "Grüße\n" } := by
  refine (validateUpload_text_iff _ sampleDecoder_decodes _).mpr fun _ => ?_
  exact ⟨⟨"Grüße\n", rfl⟩, by decide +kernel⟩

end Sampraan.AssetContent
