import Sampraan.CryptoAssurance.Service
import Sampraan.Library.Decimal
import Sampraan.Library.Lines

/-! What the text of a canonical payload says about its fields. -/

namespace Sampraan.CryptoAssurance

open Backend Library

/-! ### Labels -/

/-- A label is found again in a list of all the members. -/
theorem label_injective {α : Type} {label : α → String} (members : List α)
    (h : ∀ a, members.find? (fun b => label b == label a) = some a) : Function.Injective label := by
  intro a b hab
  have ha := h a
  rw [hab, h b] at ha
  exact (Option.some.inj ha).symm

theorem operation_label_injective : Function.Injective AssuranceOperation.label := by
  apply label_injective [.assetView, .contentAccess, .contentUpload, .assetMint, .assetAssign,
    .assetTransfer, .assetForceTransfer, .assetBurn, .assetStatusChange, .identityVerify,
    .identityStatusChange, .identityRoleChange, .identityRoleAdmin, .didDocumentUpdate, .didKeyRotate,
    .didKeyRevoke, .keyRecoveryRequest, .keyRecoveryApprove, .keyRecoveryExecute, .governanceProposal,
    .governanceApprove, .governanceExecute, .governanceCancel, .governanceConfig, .pauseRegistry,
    .unpauseRegistry, .disputeResolve, .auditReportCommit, .consentGrant]
  intro operation
  cases operation <;> rfl

theorem level_label_injective : Function.Injective AssuranceLevel.label := by
  apply label_injective [.baseline, .elevated, .quantumHardened]
  intro level
  cases level <;> rfl

theorem reasonCode_label_injective : Function.Injective AssuranceReasonCode.label := by
  apply label_injective [.opBaseline, .opElevatedRisk, .opAdministrative, .opIrreversible,
    .classificationUnknown, .classificationHighlySensitive, .classificationCritical, .riskMedium,
    .riskHigh, .riskCritical, .roleAdminBlastRadius, .roleAuditorReadOnly, .custodyMismatch,
    .custodyNotCustodian, .approvalMissing, .approvalRejected, .stepUpNotSatisfied,
    .pqcPolicyMandated, .platformFloor]
  intro code
  cases code <;> rfl

/-! ### Single lines -/

/-- No line feed. -/
def SingleLine (text : String) : Prop := '\n' ∉ text.toList

instance (text : String) : Decidable (SingleLine text) :=
  inferInstanceAs (Decidable ('\n' ∉ text.toList))

theorem singleLine_append {text text' : String} :
    SingleLine (text ++ text') ↔ SingleLine text ∧ SingleLine text' := by
  simp [SingleLine]

theorem singleLine_ofNat (n : ℕ) : SingleLine (toString n) := by
  intro hmem
  rw [Nat.toString_eq_repr, Nat.toList_repr] at hmem
  have hdigit := Nat.isDigit_of_mem_toDigits (by omega) (by omega) hmem
  exact absurd hdigit (by decide)

theorem singleLine_ofInt (n : ℤ) : SingleLine (toString n) := by
  cases n with
  | ofNat n => exact singleLine_ofNat n
  | negSucc n =>
    have hsign : SingleLine "-" := by decide
    exact singleLine_append.mpr ⟨hsign, singleLine_ofNat (n + 1)⟩

theorem singleLine_padStart (width : ℕ) (n : ℤ) : SingleLine (padStart width n) := by
  refine singleLine_append.mpr ⟨fun hmem => ?_, singleLine_ofInt n⟩
  rw [String.toList_ofList] at hmem
  exact absurd (List.eq_of_mem_replicate hmem) (by decide)

theorem singleLine_isoYear (year : ℤ) : SingleLine (isoYear year) := by
  have hminus : SingleLine "-" := by decide
  have hplus : SingleLine "+" := by decide
  unfold isoYear
  split_ifs
  · exact singleLine_padStart 4 year
  · exact singleLine_append.mpr ⟨hminus, singleLine_padStart 6 (-year)⟩
  · exact singleLine_append.mpr ⟨hplus, singleLine_padStart 6 year⟩

theorem singleLine_toISOString (t : Time) : SingleLine (toISOString t) := by
  have hliteral : SingleLine "-" ∧ SingleLine "T" ∧ SingleLine ":" ∧ SingleLine "." ∧ SingleLine "Z" := by
    decide
  simp only [toISOString, singleLine_append, singleLine_isoYear, singleLine_padStart, hliteral, and_self]

/-! ### Inputs that the schema of `assurance.challenge` admits -/

/-- The length of the text in the sixteen-bit units that the schema counts. -/
def utf16Length (text : List Char) : ℕ :=
  (text.map fun c => if c.toNat < 0x10000 then 1 else 2).sum

/-- `z.string().trim().min(1).max(bound)` -/
def admitText (bound : ℕ) (raw : List Char) : Option (List Char) :=
  let text := Decimal.trim raw
  if 1 ≤ utf16Length text ∧ utf16Length text ≤ bound then some text else none

def AdmittedText (bound : ℕ) (text : List Char) : Prop := ∃ raw, admitText bound raw = some text

/-- The call gets as far as a message: a non-baseline level, texts that the schema admits, stored
identifiers of one line each, and a post-quantum key where the level asks for one. -/
structure Issuable (input : IssueAssuranceInput) (ecdsaKeyIdentifier : String)
    (pqcKeyIdentifier : Option String) : Prop where
  level : input.decision.level ≠ .baseline
  resourceType : AdmittedText 100 input.resourceType.toList
  resourceId : AdmittedText 160 input.resourceId.toList
  identityId : SingleLine input.identityId
  did : SingleLine input.did
  nonce : SingleLine input.nonce
  ecdsaKey : SingleLine ecdsaKeyIdentifier
  pqcKey : ∀ key ∈ pqcKeyIdentifier, SingleLine key
  hardened : pqcKeyIdentifier.isSome = input.decision.requiresDualSignature

variable (env : Environment)

def messageFields (input : IssueAssuranceInput) (ecdsaKeyIdentifier : String)
    (pqcKeyIdentifier : Option String) (issuedAt expiresAt : Time) : AssuranceMessageFields where
  identityId := input.identityId
  did := input.did
  level := input.decision.level
  algorithms := algorithmByLevel input.decision.level
  operation := input.operation
  resourceType := input.resourceType
  resourceId := input.resourceId
  audience := assuranceAudience env
  ecdsaKeyIdentifier := ecdsaKeyIdentifier
  pqcKeyIdentifier := pqcKeyIdentifier
  nonce := input.nonce
  issuedAt := toISOString issuedAt
  expiresAt := toISOString expiresAt
  reasonCodes := input.decision.reasonCodes

/-- The message that is stored and signed is that of the record. -/
theorem challengeRow_message (input : IssueAssuranceInput) (ecdsaKeyIdentifier : String)
    (pqcKeyIdentifier : Option String) (issuedAt expiresAt : Time) :
    (challengeRow env input ecdsaKeyIdentifier pqcKeyIdentifier issuedAt expiresAt).message =
      buildAssuranceMessage
        (messageFields env input ecdsaKeyIdentifier pqcKeyIdentifier issuedAt expiresAt) := rfl

/-- A record that the service can build. -/
def Buildable (fields : AssuranceMessageFields) : Prop :=
  ∃ input ecdsaKeyIdentifier pqcKeyIdentifier issuedAt expiresAt,
    Issuable input ecdsaKeyIdentifier pqcKeyIdentifier ∧
      fields = messageFields env input ecdsaKeyIdentifier pqcKeyIdentifier issuedAt expiresAt

/-! ### The lines of the message -/

attribute [ext] AssuranceMessageFields

namespace AssuranceMessageFields

def openingLines (fields : AssuranceMessageFields) : List String :=
  ["SAMPRAAN Crypto Assurance",
    s!"version: {assuranceFormatVersion}",
    s!"identity: {fields.identityId}",
    s!"did: {fields.did}",
    s!"level: {fields.level.label}",
    "algorithms: " ++ "+".intercalate (fields.algorithms.map SignatureAlgorithm.label),
    s!"operation: {fields.operation.label}"]

def subjectLines (fields : AssuranceMessageFields) : List String :=
  [s!"resource-type: {fields.resourceType}",
    s!"resource-id: {fields.resourceId}",
    s!"audience: {fields.audience}"]

def closingLines (fields : AssuranceMessageFields) : List String :=
  [s!"ecdsa-key: {fields.ecdsaKeyIdentifier}",
    "pqc-key: " ++ fields.pqcKeyIdentifier.getD "none",
    s!"nonce: {fields.nonce}",
    s!"issued-at: {fields.issuedAt}",
    s!"expires: {fields.expiresAt}",
    "policy-reasons: " ++ ",".intercalate (fields.reasonCodes.map AssuranceReasonCode.label),
    "This payload authorizes exactly one operation on exactly one resource, once."]

end AssuranceMessageFields

open AssuranceMessageFields

/-- The line feed and the label between the resource type and the resource id. -/
def resourceIdLabel : String := "\n" ++ "resource-id: "

theorem buildAssuranceMessage_toList (fields : AssuranceMessageFields) :
    (buildAssuranceMessage fields).toList =
      ['\n'].intercalate (fields.openingLines.map String.toList ++
        fields.subjectLines.map String.toList ++ fields.closingLines.map String.toList) := by
  rw [← List.map_append, ← List.map_append]
  exact String.toList_intercalate

theorem subject_text (fields : AssuranceMessageFields) :
    ['\n'].intercalate (fields.subjectLines.map String.toList) =
      "resource-type: ".toList ++ (fields.resourceType.toList ++ resourceIdLabel.toList ++
        fields.resourceId.toList) ++ ("\n" ++ "audience: " ++ fields.audience).toList := by
  have htext : "\n".intercalate fields.subjectLines = "resource-type: " ++ (fields.resourceType ++
      resourceIdLabel ++ fields.resourceId) ++ ("\n" ++ "audience: " ++ fields.audience) := by
    simp only [subjectLines, String.intercalate_cons_cons, String.intercalate_singleton, resourceIdLabel,
      String.append_assoc, toString]
  have hlist := congrArg String.toList htext
  rw [String.toList_intercalate] at hlist
  simp only [String.toList_append] at hlist ⊢
  exact hlist

theorem singleLine_intercalate {texts : List String} {separator : String}
    (hseparator : SingleLine separator) (h : ∀ text ∈ texts, SingleLine text) :
    SingleLine (separator.intercalate texts) := by
  induction texts with
  | nil => simp [SingleLine]
  | cons text texts ih =>
    rw [List.forall_mem_cons] at h
    cases texts with
    | nil => simpa using h.1
    | cons text' texts =>
      rw [String.intercalate_cons_cons]
      simp only [singleLine_append]
      exact ⟨⟨h.1, hseparator⟩, ih h.2⟩

theorem singleLine_level (level : AssuranceLevel) : SingleLine level.label := by
  cases level <;> decide

theorem singleLine_algorithm (algorithm : SignatureAlgorithm) : SingleLine algorithm.label := by
  cases algorithm <;> decide

theorem singleLine_operation (operation : AssuranceOperation) : SingleLine operation.label := by
  cases operation <;> decide

theorem singleLine_reasonCode (code : AssuranceReasonCode) : SingleLine code.label := by
  cases code <;> decide

namespace Buildable

variable {env : Environment} {fields : AssuranceMessageFields}

theorem opening (h : Buildable env fields) : ∀ line ∈ fields.openingLines, SingleLine line := by
  obtain ⟨input, ecdsaKey, pqcKey, issuedAt, expiresAt, hissue, rfl⟩ := h
  have hlabels : SingleLine "identity: " ∧ SingleLine "did: " ∧ SingleLine "level: " ∧
      SingleLine "algorithms: " ∧ SingleLine "operation: " ∧ SingleLine "SAMPRAAN Crypto Assurance" ∧
        SingleLine (s!"version: {assuranceFormatVersion}") := by decide
  have halgorithms : SingleLine ("+".intercalate
      ((algorithmByLevel input.decision.level).map SignatureAlgorithm.label)) := by
    apply singleLine_intercalate (by decide)
    simp [singleLine_algorithm]
  simp only [openingLines, messageFields, List.forall_mem_cons, toString] at hlabels ⊢
  simp only [singleLine_append, hlabels, halgorithms, hissue.identityId, hissue.did, singleLine_level,
    singleLine_operation, and_self, true_and]
  simp

theorem closing (h : Buildable env fields) : ∀ line ∈ fields.closingLines, SingleLine line := by
  obtain ⟨input, ecdsaKey, pqcKey, issuedAt, expiresAt, hissue, rfl⟩ := h
  have hlabels : SingleLine "ecdsa-key: " ∧ SingleLine "pqc-key: " ∧ SingleLine "nonce: " ∧
      SingleLine "issued-at: " ∧ SingleLine "expires: " ∧ SingleLine "policy-reasons: " ∧
        SingleLine "This payload authorizes exactly one operation on exactly one resource, once." := by
    decide
  have hreasons : SingleLine (",".intercalate
      (input.decision.reasonCodes.map AssuranceReasonCode.label)) := by
    apply singleLine_intercalate (by decide)
    simp [singleLine_reasonCode]
  have hpqc : SingleLine (pqcKey.getD "none") := by
    cases hkey : pqcKey with
    | none => decide
    | some key => exact hissue.pqcKey key hkey
  simp only [closingLines, messageFields, List.forall_mem_cons, toString] at hlabels ⊢
  simp only [singleLine_append, hlabels, hreasons, hpqc, hissue.ecdsaKey, hissue.nonce,
    singleLine_toISOString, and_self, true_and]
  simp

end Buildable

theorem reasonCodes_inj {codes codes' : List AssuranceReasonCode}
    (h : ",".intercalate (codes.map AssuranceReasonCode.label) =
      ",".intercalate (codes'.map AssuranceReasonCode.label)) : codes = codes' := by
  have hword (code : AssuranceReasonCode) : code.label.toList ≠ [] ∧ ',' ∉ code.label.toList := by
    cases code <;> decide
  have hlist := congrArg String.toList h
  rw [String.toList_intercalate, String.toList_intercalate, List.map_map, List.map_map] at hlist
  have hwords : ∀ word ∈ codes.map (String.toList ∘ AssuranceReasonCode.label) ++
      codes'.map (String.toList ∘ AssuranceReasonCode.label), word ≠ [] ∧ ',' ∉ word := by
    simp only [List.mem_append, List.mem_map]
    rintro word (⟨code, -, rfl⟩ | ⟨code, -, rfl⟩)
    · exact hword code
    · exact hword code
  have hmap := Lines.intercalate_inj hwords hlist
  refine List.map_injective_iff.mpr ?_ hmap
  exact fun a b hab => reasonCode_label_injective (String.toList_inj.mp hab)

namespace Buildable

variable {env : Environment} {fields fields' : AssuranceMessageFields}

theorem pqcKeyIdentifier_isSome (h : Buildable env fields) :
    fields.pqcKeyIdentifier.isSome = (algorithmByLevel fields.level).contains .mlDsa65 := by
  obtain ⟨input, ecdsaKey, pqcKey, issuedAt, expiresAt, hissue, rfl⟩ := h
  exact hissue.hardened

theorem algorithms_eq (h : Buildable env fields) : fields.algorithms = algorithmByLevel fields.level := by
  obtain ⟨input, ecdsaKey, pqcKey, issuedAt, expiresAt, hissue, rfl⟩ := h
  rfl

theorem audience_eq (h : Buildable env fields) : fields.audience = assuranceAudience env := by
  obtain ⟨input, ecdsaKey, pqcKey, issuedAt, expiresAt, hissue, rfl⟩ := h
  rfl

/-- The resource type and the resource id do not decide anything else of the record. -/
theorem withResource (h : Buildable env fields) {resourceType resourceId : String}
    (htype : AdmittedText 100 resourceType.toList) (hid : AdmittedText 160 resourceId.toList) :
    Buildable env { fields with resourceType := resourceType, resourceId := resourceId } := by
  obtain ⟨input, ecdsaKey, pqcKey, issuedAt, expiresAt, hissue, rfl⟩ := h
  refine ⟨{ input with resourceType := resourceType, resourceId := resourceId }, ecdsaKey, pqcKey,
    issuedAt, expiresAt, ?_, rfl⟩
  exact { hissue with resourceType := htype, resourceId := hid }

theorem admitted (h : Buildable env fields) : AdmittedText 100 fields.resourceType.toList ∧
    AdmittedText 160 fields.resourceId.toList := by
  obtain ⟨input, ecdsaKey, pqcKey, issuedAt, expiresAt, hissue, rfl⟩ := h
  exact ⟨hissue.resourceType, hissue.resourceId⟩

/-- Everything but the resource type and the resource id is read back from the text. -/
theorem eq_of_text (h : Buildable env fields) (h' : Buildable env fields')
    (htext : buildAssuranceMessage fields' = buildAssuranceMessage fields) :
    fields' = { fields with
      resourceType := fields'.resourceType, resourceId := fields'.resourceId } ∧
      fields'.resourceType.toList ++ resourceIdLabel.toList ++ fields'.resourceId.toList =
        fields.resourceType.toList ++ resourceIdLabel.toList ++ fields.resourceId.toList := by
  have hlines := congrArg String.toList htext
  rw [buildAssuranceMessage_toList, buildAssuranceMessage_toList] at hlines
  have hsingle {lines lines' : List String} (hl : ∀ line ∈ lines, SingleLine line)
      (hl' : ∀ line ∈ lines', SingleLine line) :
      ∀ line ∈ lines.map String.toList ++ lines'.map String.toList, '\n' ∉ line := by
    simp only [List.mem_append, List.mem_map]
    rintro line (⟨text, hmem, rfl⟩ | ⟨text, hmem, rfl⟩)
    · exact hl text hmem
    · exact hl' text hmem
  obtain ⟨hopening, hsubject, hclosing⟩ := Lines.intercalate_append_inj (by rfl) (by rfl)
    (hsingle h'.opening h.opening) (hsingle h'.closing h.closing) (by simp [subjectLines])
    (by simp [subjectLines]) hlines
  have htoList : Function.Injective String.toList := fun a b hab => String.toList_inj.mp hab
  have hopening := List.map_injective_iff.mpr htoList hopening
  have hclosing := List.map_injective_iff.mpr htoList hclosing
  rw [subject_text, subject_text, h.audience_eq, h'.audience_eq] at hsubject
  refine ⟨?_, List.append_cancel_left (List.append_cancel_right hsubject)⟩
  simp only [openingLines, closingLines, toString, List.cons.injEq, String.append_right_inj, and_true,
    true_and] at hopening hclosing
  obtain ⟨hidentity, hdid, hlevel, -, hoperation⟩ := hopening
  obtain ⟨hecdsa, hpqc, hnonce, hissued, hexpires, hreasons⟩ := hclosing
  have hlevel := level_label_injective hlevel
  have hkey : fields'.pqcKeyIdentifier = fields.pqcKeyIdentifier := by
    have hsome : fields'.pqcKeyIdentifier.isSome = fields.pqcKeyIdentifier.isSome := by
      rw [h'.pqcKeyIdentifier_isSome, h.pqcKeyIdentifier_isSome, hlevel]
    cases hkey : fields.pqcKeyIdentifier with
    | none => simpa [hkey] using hsome
    | some key =>
      obtain ⟨key', hkey'⟩ := Option.isSome_iff_exists.mp (hsome.trans (by simp [hkey]))
      rw [hkey'] at hpqc ⊢
      rw [hkey] at hpqc
      exact congrArg some hpqc
  have halgorithms : fields'.algorithms = fields.algorithms := by
    rw [h'.algorithms_eq, h.algorithms_eq, hlevel]
  have haudience : fields'.audience = fields.audience := h'.audience_eq.trans h.audience_eq.symm
  have hoperation := operation_label_injective hoperation
  have hreasons := reasonCodes_inj hreasons
  exact AssuranceMessageFields.ext hidentity hdid hlevel halgorithms hoperation rfl rfl haudience hecdsa
    hkey hnonce hissued hexpires hreasons

end Buildable

/-! ### Records that share their text -/

/-- One of the two texts holds a line that reads as the label of the resource id, with parts around
it that the schema admits as a resource type and a resource id. -/
def Imitated (resourceType resourceId : List Char) : Prop :=
  ∃ m, (∃ t, resourceType = t ++ resourceIdLabel.toList ++ m ∧ AdmittedText 100 t ∧
      AdmittedText 160 (m ++ resourceIdLabel.toList ++ resourceId)) ∨
    ∃ r, resourceId = m ++ resourceIdLabel.toList ++ r ∧ AdmittedText 160 r ∧
      AdmittedText 100 (resourceType ++ resourceIdLabel.toList ++ m)

theorem not_imitated_of_singleLine {resourceType resourceId : String} (htype : SingleLine resourceType)
    (hid : SingleLine resourceId) : ¬ Imitated resourceType.toList resourceId.toList := by
  have hfeed : '\n' ∈ resourceIdLabel.toList := by decide
  rintro ⟨m, ⟨t, heq, -⟩ | ⟨r, heq, -⟩⟩
  · exact htype (by simp [heq, hfeed])
  · exact hid (by simp [heq, hfeed])

theorem imitated_of_cut {t t' r r' : List Char} (ht : AdmittedText 100 t') (hr : AdmittedText 160 r')
    (htext : t' ++ resourceIdLabel.toList ++ r' = t ++ resourceIdLabel.toList ++ r) :
    (t' = t ∧ r' = r) ∨ Imitated t r := by
  have hlabel : resourceIdLabel.toList = '\n' :: "resource-id: ".toList := rfl
  have honce : '\n' ∉ "resource-id: ".toList := by decide
  rw [hlabel] at htext
  rcases Lines.cut_twice honce htext with hsame | ⟨m, ⟨ht', hr'⟩ | ⟨hr', ht'⟩⟩
  · exact .inl hsame
  · refine .inr ⟨m, .inr ⟨r', by rw [hr', hlabel], hr, ?_⟩⟩
    rw [hlabel, ← ht']
    exact ht
  · refine .inr ⟨m, .inl ⟨t', by rw [ht', hlabel], ht, ?_⟩⟩
    rw [hlabel, ← hr']
    exact hr

theorem text_withResource {fields : AssuranceMessageFields} {resourceType resourceId : String}
    (htext : resourceType.toList ++ resourceIdLabel.toList ++ resourceId.toList =
      fields.resourceType.toList ++ resourceIdLabel.toList ++ fields.resourceId.toList) :
    buildAssuranceMessage { fields with resourceType := resourceType, resourceId := resourceId } =
      buildAssuranceMessage fields := by
  apply String.toList_inj.mp
  have hmiddle : ['\n'].intercalate (({ fields with
      resourceType := resourceType, resourceId := resourceId }).subjectLines.map String.toList) =
      ['\n'].intercalate (fields.subjectLines.map String.toList) := by
    rw [subject_text, subject_text, htext]
  rw [buildAssuranceMessage_toList, buildAssuranceMessage_toList]
  iterate 2 rw [Lines.intercalate_append (by simp [openingLines]) (by simp [closingLines]),
    Lines.intercalate_append (by simp [openingLines]) (by simp [subjectLines])]
  rw [hmiddle]
  rfl

theorem Buildable.shared {env : Environment} {fields : AssuranceMessageFields}
    (h : Buildable env fields)
    (himitated : Imitated fields.resourceType.toList fields.resourceId.toList) :
    ∃ fields', Buildable env fields' ∧ buildAssuranceMessage fields' = buildAssuranceMessage fields ∧
      fields' ≠ fields := by
  have hother {t r : List Char} (ht : AdmittedText 100 t) (hr : AdmittedText 160 r)
      (htext : t ++ resourceIdLabel.toList ++ r =
        fields.resourceType.toList ++ resourceIdLabel.toList ++ fields.resourceId.toList)
      (hne : t ≠ fields.resourceType.toList) : ∃ fields', Buildable env fields' ∧
        buildAssuranceMessage fields' = buildAssuranceMessage fields ∧ fields' ≠ fields := by
    refine ⟨{ fields with resourceType := String.ofList t, resourceId := String.ofList r },
      h.withResource (by simpa using ht) (by simpa using hr), text_withResource (by simpa using htext),
      fun heq => hne ?_⟩
    rw [← congrArg AssuranceMessageFields.resourceType heq, String.toList_ofList]
  have hlabel : resourceIdLabel.toList ≠ [] := by decide
  obtain ⟨m, ⟨t, htype, ht, hr⟩ | ⟨r, hid, hr, ht⟩⟩ := himitated
  · refine hother ht hr (by simp [htype]) fun heq => ?_
    rw [htype] at heq
    have hlen := congrArg List.length heq
    have hpos := List.length_pos_iff.mpr hlabel
    simp only [List.length_append] at hlen
    omega
  · refine hother ht hr (by simp [hid]) fun heq => ?_
    have hlen := congrArg List.length heq
    have hpos := List.length_pos_iff.mpr hlabel
    simp only [List.length_append] at hlen
    omega

theorem buildAssuranceMessage_inj_iff {env : Environment} {fields : AssuranceMessageFields}
    (h : Buildable env fields) :
    (∀ fields', Buildable env fields' → buildAssuranceMessage fields' = buildAssuranceMessage fields →
        fields' = fields) ↔
      ¬ Imitated fields.resourceType.toList fields.resourceId.toList := by
  constructor
  · intro hinj himitated
    obtain ⟨fields', h', htext, hne⟩ := h.shared himitated
    exact hne (hinj fields' h' htext)
  · intro hnot fields' h' htext
    obtain ⟨heq, hresource⟩ := h.eq_of_text h' htext
    rcases imitated_of_cut h'.admitted.1 h'.admitted.2 hresource with ⟨htype, hid⟩ | himitated
    · rw [heq, String.toList_inj.mp htype, String.toList_inj.mp hid]
    · exact absurd himitated hnot

/-- A proposal of a manager whose session has been stepped up. -/
def proposalInput (resourceType resourceId : String) : IssueAssuranceInput where
  identityId := "holder"
  did := "did:sampraan:holder"
  identityStatus := .active
  lifecycleState := .verified
  role := "MANAGER"
  operation := .governanceProposal
  resourceType := resourceType
  resourceId := resourceId
  policyInput :=
    { assetClassification := none
      riskLevel := none
      riskScore := none
      custodyRelation := none
      approvalStatus := none
      stepUpSatisfied := true }
  challengeId := "challenge"
  nonce := "nonce"

theorem proposal_buildable {resourceType resourceId : String}
    (htype : AdmittedText 100 resourceType.toList) (hid : AdmittedText 160 resourceId.toList) :
    Buildable sampleEnvironment (messageFields sampleEnvironment (proposalInput resourceType resourceId)
      "key-1" none 1700000000000 1700000300000) := by
  refine ⟨_, _, _, _, _, ?_, rfl⟩
  have hlevel : (proposalInput "" "").decision.level ≠ .baseline := by decide
  have hhardened : (none : Option String).isSome = (proposalInput "" "").decision.requiresDualSignature := by decide
  have hidentity : SingleLine "holder" := by decide
  have hdid : SingleLine "did:sampraan:holder" := by decide
  have hnonce : SingleLine "nonce" := by decide
  have hkey : SingleLine "key-1" := by decide
  exact ⟨hlevel, htype, hid, hidentity, hdid, hnonce, hkey, (fun key hkey => by cases hkey),
    hhardened⟩

theorem buildAssuranceMessage_inj_sample :
    Buildable sampleEnvironment (messageFields sampleEnvironment (proposalInput "ASSET" "ASSET-1")
      "key-1" none 1700000000000 1700000300000) ∧
    ∀ fields', Buildable sampleEnvironment fields' →
      buildAssuranceMessage fields' = buildAssuranceMessage (messageFields sampleEnvironment
        (proposalInput "ASSET" "ASSET-1") "key-1" none 1700000000000 1700000300000) →
      fields' = messageFields sampleEnvironment (proposalInput "ASSET" "ASSET-1") "key-1" none
        1700000000000 1700000300000 := by
  have hbuild := @proposal_buildable "ASSET" "ASSET-1"
    ⟨"ASSET".toList, by decide⟩ ⟨"ASSET-1".toList, by decide⟩
  refine ⟨hbuild, ?_⟩
  apply (buildAssuranceMessage_inj_iff hbuild).mpr
  exact not_imitated_of_singleLine (by decide) (by decide)

/-- The line of the resource id moves from one field to the other. -/
theorem not_injective : ¬ ∀ fields fields' : AssuranceMessageFields,
    Buildable sampleEnvironment fields → Buildable sampleEnvironment fields' →
      buildAssuranceMessage fields = buildAssuranceMessage fields' → fields = fields' := by
  intro h
  have hfirst := @proposal_buildable "A\nresource-id: B" "C"
    ⟨"A\nresource-id: B".toList, by decide⟩ ⟨"C".toList, by decide⟩
  have hsecond := @proposal_buildable "A" "B\nresource-id: C"
    ⟨"A".toList, by decide⟩ ⟨"B\nresource-id: C".toList, by decide⟩
  have htext : "A".toList ++ resourceIdLabel.toList ++ "B\nresource-id: C".toList =
      "A\nresource-id: B".toList ++ resourceIdLabel.toList ++ "C".toList := by decide
  have heq := h _ _ hsecond hfirst (@text_withResource (messageFields sampleEnvironment
    (proposalInput "A\nresource-id: B" "C") "key-1" none 1700000000000 1700000300000) _ _ htext)
  exact absurd (congrArg AssuranceMessageFields.resourceType heq) (by decide)

end Sampraan.CryptoAssurance
