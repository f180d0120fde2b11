import Sampraan.AssetContent.Content

/-! Content that has been stored comes back as it was uploaded. -/

namespace Sampraan.AssetContent

open Backend Library

variable {env : ContentEnvironment}

/-- What the cipher is documented to do with a 256-bit key and a 96-bit initialization vector. -/
structure Aes256Gcm.Correct (gcm : Aes256Gcm) : Prop where
  decrypts : ∀ key iv plaintext : Bytes, key.length = 32 → iv.length = 12 → ∃ ciphertext tag,
    gcm.encrypt key iv plaintext = .ok (ciphertext, tag) ∧ tag.length = 16 ∧
      gcm.decrypt key iv ciphertext tag = .ok plaintext

/-- The provider answers for the reference with the data. -/
def StorageProvider.Returns (provider : StorageProvider) (reference : String) (data : Bytes)
    (w : World) : Prop :=
  ((provider.get reference).run w).1 = .ok data

/-- The names under which the program configures its master keys. -/
def masterKeyIds : List String := ["local-dev-v1", "local-dev-derived"]

/-! ### Wrapped keys -/

theorem LocalDevKeyProvider.new_ok {masterKey : Bytes} {keyId : String}
    {keyProvider : LocalDevKeyProvider} (h : LocalDevKeyProvider.new masterKey keyId = .ok keyProvider) :
    keyProvider.masterKey = masterKey ∧ keyProvider.keyId = keyId := by
  unfold LocalDevKeyProvider.new at h
  split at h
  · cases h
    exact ⟨rfl, rfl⟩
  · cases h

theorem fromEnvironment_keyId {keyProvider : LocalDevKeyProvider}
    (h : LocalDevKeyProvider.fromEnvironment env = .ok keyProvider) :
    keyProvider.keyId ∈ masterKeyIds := by
  simp only [LocalDevKeyProvider.fromEnvironment] at h
  split at h
  · split at h
    · cases h
    · rw [(LocalDevKeyProvider.new_ok h).2]
      exact List.mem_cons_self
  split at h
  · cases h
  · rw [(LocalDevKeyProvider.new_ok h).2]
    exact List.mem_cons_of_mem _ List.mem_cons_self

theorem unwrapKey_wrapKey (hgcm : env.crypto.aes256Gcm.Correct) (keyProvider : LocalDevKeyProvider)
    {iv : Bytes} (hiv : iv.length = 12) (key : Bytes) : ∃ wrapped,
      keyProvider.wrapKey env iv key = .ok wrapped ∧ wrapped.keyId = keyProvider.keyId ∧
        wrapped.wrappedKeyB64 ≠ "" ∧
          keyProvider.unwrapKey env wrapped.wrappedKeyB64 wrapped.keyId = .ok key := by
  obtain ⟨ciphertext, tag, hencrypt, htag, hdecrypt⟩ :=
    hgcm.decrypts keyProvider.masterKey iv key keyProvider.size hiv
  refine ⟨{ wrappedKeyB64 := Base64.toText (iv ++ ciphertext ++ tag), keyId := keyProvider.keyId },
    ?_, rfl, ?_, ?_⟩
  · simp [LocalDevKeyProvider.wrapKey, hencrypt, bind, Except.bind]
  · apply Base64.toText_ne_empty
    intro hempty
    simp [List.append_eq_nil_iff.mp (List.append_eq_nil_iff.mp hempty).1] at hiv
  · have hlength : (iv ++ ciphertext ++ tag).length = 12 + ciphertext.length + 16 := by
      simp only [List.length_append, hiv, htag]
    -- The initialization vector stands first, the tag last, the encrypted key between them.
    have htake : (iv ++ ciphertext ++ tag).take 12 = iv := by
      rw [List.append_assoc, ← hiv, List.take_left]
    have hsplit : (iv ++ ciphertext ++ tag).length - 16 = (iv ++ ciphertext).length := by
      rw [hlength, List.length_append, hiv]
      omega
    have hdrop : (iv ++ ciphertext ++ tag).drop ((iv ++ ciphertext ++ tag).length - 16) = tag := by
      rw [hsplit, List.drop_left]
    have hbody : ((iv ++ ciphertext ++ tag).take ((iv ++ ciphertext ++ tag).length - 16)).drop 12 =
        ciphertext := by
      rw [hsplit, List.take_left, ← hiv, List.drop_left]
    have hlong : ¬ (iv ++ ciphertext ++ tag).length < 16 + 12 := by omega
    simp only [LocalDevKeyProvider.unwrapKey, ne_eq, not_true_eq_false, if_false,
      Base64.ofText_toText, hlong, htake, hdrop, hbody]
    exact hdecrypt

/-! ### The envelope -/

theorem parseEnvelope_toJson {envelope : EnvelopeEncryption} (halg : envelope.alg = "AES-256-GCM")
    (hkeyId : envelope.keyId ≠ "") (hwrapped : envelope.wrappedKeyB64 ≠ "") (hiv : envelope.ivB64 ≠ "")
    (htag : envelope.tagB64 ≠ "") : parseEnvelope envelope.toJson = .ok envelope := by
  obtain ⟨alg, keyId, wrappedKeyB64, ivB64, tagB64⟩ := envelope
  simp only at halg hkeyId hwrapped hiv htag
  simp [parseEnvelope, EnvelopeEncryption.toJson, Json.isObject, hasAlgorithm, nonEmptyText,
    Json.property, List.lookup_cons, halg, hkeyId, hwrapped, hiv, htag, bind, Except.bind]

variable {storage : StorageResolution}

theorem decryptBuffer_encryptBuffer (hgcm : env.crypto.aes256Gcm.Correct)
    (hkeyId : storage.keyProvider.keyId ≠ "") (random : ContentRandomness) (plaintext : Bytes) :
    ∃ ciphertext envelope, encryptBuffer env storage random plaintext = .ok (ciphertext, envelope) ∧
      parseEnvelope envelope.toJson = .ok envelope ∧
        decryptBuffer env storage ciphertext envelope = .ok plaintext := by
  obtain ⟨ciphertext, tag, hencrypt, htag, hdecrypt⟩ :=
    hgcm.decrypts random.dek random.iv plaintext random.dek_length random.iv_length
  obtain ⟨wrapped, hwrap, hid, hne, hunwrap⟩ :=
    unwrapKey_wrapKey hgcm storage.keyProvider random.wrapIv_length random.dek
  have hiv : Base64.toText random.iv ≠ "" :=
    Base64.toText_ne_empty (List.ne_nil_of_length_pos (by simp [random.iv_length]))
  have htagB64 : Base64.toText tag ≠ "" :=
    Base64.toText_ne_empty (List.ne_nil_of_length_pos (by simp [htag]))
  refine ⟨ciphertext, ⟨"AES-256-GCM", wrapped.keyId, wrapped.wrappedKeyB64, Base64.toText random.iv,
    Base64.toText tag⟩, ?_, ?_, ?_⟩
  · simp [encryptBuffer, hencrypt, hwrap, bind, Except.bind]
  · exact parseEnvelope_toJson rfl (hid ▸ hkeyId) hne hiv htagB64
  · simp only [decryptBuffer, hunwrap, Base64.ofText_toText, bind, Except.bind]
    exact hdecrypt

/-! ### Plaintext and integrity -/

theorem loadVersionPlaintext_of_returns {reference : String} {encryption : Json} {u : World}
    {envelope : EnvelopeEncryption} {ciphertext plaintext : Bytes}
    (hparse : parseEnvelope encryption = .ok envelope)
    (hreturns : storage.provider.Returns reference ciphertext u)
    (hdecrypt : decryptBuffer env storage ciphertext envelope = .ok plaintext) :
    ((loadVersionPlaintext env storage reference encryption).run u).1 = .ok plaintext := by
  have hget : (storage.provider.get reference).run u =
      (.ok ciphertext, ((storage.provider.get reference).run u).2) := Prod.ext hreturns rfl
  rw [loadVersionPlaintext, hparse, ofResult_ok, Async.pure_eq, Async.fulfilled_bind,
    Async.run_bind_ok hget, hdecrypt]
  rfl

/-- The check looks at the plaintext that the version has at the time. -/
theorem verifyVersionIntegrity_run (version : VersionContent) (w : World) :
    ((verifyVersionIntegrity env storage version).run w).1 = .ok
      (match ((loadVersionPlaintext env storage version.storageReference version.encryption).run w).1 with
        | .ok plaintext => compareContent env version plaintext
        | .error error => integrityFailure version error) := by
  have hbody : verifyVersionIntegrity env storage version =
      ((loadVersionPlaintext env storage version.storageReference version.encryption >>= fun plaintext =>
        pure (compareContent env version plaintext)).recover fun error =>
          pure (integrityFailure version error)) := by
    simp only [loadVersionPlaintext, Async.bind_assoc]
    rfl
  rw [hbody, Async.run_recover, Async.run_bind]
  cases (loadVersionPlaintext env storage version.storageReference version.encryption).run w with
  | mk result t =>
    cases result with
    | ok plaintext => rfl
    | error error => rfl

theorem verifyVersionIntegrity_of_load {version : VersionContent} {w : World} {plaintext : Bytes}
    (hload : ((loadVersionPlaintext env storage version.storageReference version.encryption).run w).1 =
      .ok plaintext) :
    ((verifyVersionIntegrity env storage version).run w).1 =
      .ok (compareContent env version plaintext) := by
  rw [verifyVersionIntegrity_run, hload]

theorem integrityFailure_ne_verified (version : VersionContent) (error : Error) :
    (integrityFailure version error).state ≠ .integrityVerified := by
  simp only [integrityFailure]
  split <;> simp

theorem encryptAndStore_run {random : ContentRandomness} {validated : ValidatedUpload}
    {ciphertext : Bytes} {envelope : EnvelopeEncryption}
    (hencrypt : encryptBuffer env storage random validated.data = .ok (ciphertext, envelope)) (w : World) :
    (encryptAndStore env storage random validated).run w =
      match (storage.provider.put (contentReference env storage ciphertext validated) ciphertext
          validated.contentHash).run w with
      | (.error e, t) => (.error e, t)
      | (.ok object, t) =>
        (.ok
          { filename := validated.filename
            originalFilename := validated.originalFilename
            mimeType := validated.mimeType
            sizeBytes := validated.sizeBytes
            contentHash := validated.contentHash
            storageProvider := storage.provider.name
            storageReference := object.reference
            encryption := envelope }, t) := by
  rw [encryptAndStore, hencrypt, ofResult_ok, Async.pure_eq, Async.fulfilled_bind, Async.run_bind]
  cases (storage.provider.put (contentReference env storage ciphertext validated) ciphertext
      validated.contentHash).run w with
  | mk answer t =>
    cases answer with
    | ok object => rfl
    | error e => rfl

/-! ### The providers -/

section

variable {w t : World} {object : StoredObject} {data : Bytes} {ref contentHash : String}

theorem writeFile_run (hdisk : w.diskFails = false) (path : String) (data : Bytes) :
    (writeFile path data).run w = (.ok (), setFile path (some data) w) := by
  simp [writeFile, hdisk]

theorem writeFile_run_of_fails (hdisk : w.diskFails = true) (path : String) (data : Bytes) :
    (writeFile path data).run w = (.error (.other "EIO: i/o error"), w) := by
  simp [writeFile, hdisk]

theorem removeFile_run (hdisk : w.diskFails = false) (path : String) :
    (removeFile path).run w = (.ok (), setFile path none w) := by
  simp [removeFile, hdisk]

theorem copyFile_run (hdisk : w.diskFails = false) {source : String} (hsource : w.files source = some data)
    (target : String) : (copyFile source target).run w = (.ok (), setFile target (some data) w) := by
  rw [copyFile, Async.query_bind, Async.run_pending]
  simp only [hsource]
  exact writeFile_run hdisk target data

theorem cleanUp_run (hdisk : w.diskFails = false) (tempPath : String) :
    (cleanUp tempPath).run w =
      (.ok (), setFile (tempPath ++ ".meta") none (setFile tempPath none w)) := by
  rw [cleanUp, Async.run_bind_ok (removeFile_run hdisk tempPath)]
  exact removeFile_run (by simpa using hdisk) _

theorem ne_append {text suffix : String} (h : suffix ≠ "") : text ≠ text ++ suffix := by
  intro heq
  have hlength := congrArg String.length heq
  rw [String.length_append] at hlength
  exact h (String.length_eq_zero_iff.mp (by omega))

/-- The object is written under a temporary name, copied to its own, and the former removed. -/
def putFiles (target tempPath : String) (data metadata : Bytes) (files : String → Option Bytes) :
    String → Option Bytes :=
  let written := Function.update (Function.update files tempPath (some data)) (tempPath ++ ".meta")
    (some metadata)
  Function.update (Function.update (Function.update written target (some data)) tempPath none)
    (tempPath ++ ".meta") none

theorem tempPath_ne (target suffix : String) :
    target ≠ target ++ ".tmp-" ++ suffix ∧ target ≠ target ++ ".tmp-" ++ suffix ++ ".meta" := by
  rw [String.append_assoc, String.append_assoc]
  exact ⟨ne_append (by simp), ne_append (by simp)⟩

theorem localPut_run {dataDir suffix target : String} (hdisk : w.diskFails = false)
    (htarget : objectPath dataDir ref = .ok target) :
    (localPut env dataDir suffix ref data contentHash).run w =
      (.ok (storedObject env ref data),
        { w with
          files := putFiles target (target ++ ".tmp-" ++ suffix) data
            (env.ethers.toUtf8Bytes (metadataJson contentHash data)) w.files }) := by
  have hother : target ++ ".tmp-" ++ suffix ≠ target ++ ".tmp-" ++ suffix ++ ".meta" :=
    ne_append (by decide)
  have hwritten : (setFile (target ++ ".tmp-" ++ suffix ++ ".meta")
      (some (env.ethers.toUtf8Bytes (metadataJson contentHash data)))
        (setFile (target ++ ".tmp-" ++ suffix) (some data) w)).files (target ++ ".tmp-" ++ suffix) =
      some data := by
    rw [setFile_files, Function.update_of_ne hother, setFile_files, Function.update_self]
  have hcopy := copyFile_run (by simpa using hdisk) hwritten target
  rw [localPut, htarget, ofResult_ok, Async.pure_eq, Async.fulfilled_bind,
    Async.run_bind_ok (writeFile_run hdisk _ _),
    Async.run_bind_ok (writeFile_run (by simpa using hdisk) _ _)]
  refine (Async.run_bind_ok (Async.run_recover_ok hcopy)).trans ?_
  rw [Async.run_bind_ok (cleanUp_run (by simpa using hdisk) _), Async.pure_eq, Async.run_fulfilled]
  simp only [setFile, putFiles]

theorem localPut_files {dataDir suffix target : String}
    (htarget : objectPath dataDir ref = .ok target)
    (h : (localPut env dataDir suffix ref data contentHash).run w = (.ok object, t)) :
    object.reference = ref ∧ t.files target = some data := by
  cases hdisk : w.diskFails with
  | true =>
    rw [localPut, htarget, ofResult_ok, Async.pure_eq, Async.fulfilled_bind,
      Async.run_bind_error (writeFile_run_of_fails hdisk _ _)] at h
    cases h
  | false =>
    obtain ⟨htemp, hmeta⟩ := tempPath_ne target suffix
    rw [localPut_run hdisk htarget] at h
    obtain ⟨hobject, rfl⟩ := Prod.mk.inj h
    cases hobject
    exact ⟨rfl, by simp [putFiles, Function.update_of_ne htemp, Function.update_of_ne hmeta]⟩

/-- The local provider returns what was put, as long as the file is not changed. -/
theorem localPut_returns {dataDir suffix : String} {provider : StorageProvider}
    (hprovider : localEncryptedStorageProvider env dataDir suffix = .ok provider)
    (h : (provider.put ref data contentHash).run w = (.ok object, t)) {u : World}
    (hfiles : u.files = t.files) : provider.Returns object.reference data u := by
  unfold localEncryptedStorageProvider at hprovider
  split at hprovider
  · cases hprovider
  cases hprovider
  cases htarget : objectPath dataDir ref with
  | error e =>
    simp only [localPut, htarget, ofResult_error] at h
    cases h
  | ok target =>
    obtain ⟨href, hfile⟩ := localPut_files htarget h
    rw [← hfiles] at hfile
    simp [StorageProvider.Returns, localGet, href, htarget, hfile]

theorem ipfsAdd_ok {answer : ℕ × String} (h : (ipfsAdd env data).run w = (.ok answer, t))
    (hok : isOkStatus answer.1 = true) :
    w.ipfsStatus = some answer.1 ∧ answer.2 = env.ipfsCid data ∧ t = keepObject (env.ipfsCid data) data w := by
  rw [ipfsAdd, Async.statement_bind, Async.run_pending] at h
  cases hstatus : w.ipfsStatus with
  | none =>
    simp only [hstatus] at h
    cases h
  | some status =>
    simp only [hstatus] at h
    cases hanswer : isOkStatus status with
    | true =>
      simp only [hanswer, if_true] at h
      cases h
      exact ⟨rfl, rfl, rfl⟩
    | false =>
      simp only [hanswer, Bool.false_eq_true, if_false] at h
      cases h
      exact absurd hok (by simp [hanswer])

theorem ipfsPut_ok (h : (ipfsPut env ref data contentHash).run w = (.ok object, t)) :
    ∃ status, isOkStatus status = true ∧ w.ipfsStatus = some status ∧
      object.reference = env.ipfsCid data ∧ t = keepObject (env.ipfsCid data) data w := by
  rw [ipfsPut, Async.run_bind] at h
  cases hadd : (ipfsAdd env data).run w with
  | mk result t' =>
    rw [hadd] at h
    cases result with
    | error e => cases h
    | ok answer =>
      simp only at h
      split at h
      · cases h
      split at h
      · cases h
      rename_i hok _
      have hok : isOkStatus answer.1 = true := by simpa using hok
      obtain ⟨hstatus, hhash, hkept⟩ := ipfsAdd_ok hadd hok
      cases h
      exact ⟨_, hok, hstatus, hhash, hkept⟩

/-- So does the IPFS provider, if its references are safe, as long as the node keeps the object
and is reached. -/
theorem ipfsPut_returns (hcid : ∀ data, assertSafeReference (env.ipfsCid data) = .ok ())
    (h : ((ipfsStorageProvider env).put ref data contentHash).run w = (.ok object, t)) {u : World}
    (hobjects : u.ipfsObjects = t.ipfsObjects) (hstatus : u.ipfsStatus = t.ipfsStatus) :
    (ipfsStorageProvider env).Returns object.reference data u := by
  have hput : (ipfsPut env ref data contentHash).run w = (.ok object, t) := h
  obtain ⟨status, hok, hw, href, rfl⟩ := ipfsPut_ok hput
  rw [keepObject_ipfsStatus, hw] at hstatus
  have hfound : u.ipfsObjects (env.ipfsCid data) = some data := by
    rw [hobjects, keepObject_ipfsObjects, Function.update_self]
  have hnot : ¬ (status = 404 ∨ status = 500) := by
    rintro (rfl | rfl) <;> cases hok
  simp [StorageProvider.Returns, ipfsStorageProvider, ipfsGet, ipfsCat, href, hcid, hstatus, hok,
    hfound, hnot]

end

/-! ### The round trip -/

/-- The stored version loads as the upload, and verifies. -/
def Restores (env : ContentEnvironment) (storage : StorageResolution) (stored : StoredVersionMetadata)
    (validated : ValidatedUpload) (u : World) : Prop :=
  ((loadVersionPlaintext env storage stored.storageReference stored.encryption.toJson).run u).1 =
      .ok validated.data ∧
    ∃ result, ((verifyVersionIntegrity env storage stored.content).run u).1 = .ok result ∧
      result.state = .integrityVerified

/-- An upload is handed to the provider once. When the provider fails so does the upload; else its
metadata restore it in every state in which the provider returns what was put. -/
def Stores (env : ContentEnvironment) (storage : StorageResolution) (random : ContentRandomness)
    (validated : ValidatedUpload) (reference : String) (ciphertext : Bytes) (w : World) : Prop :=
  match (storage.provider.put reference ciphertext validated.contentHash).run w with
  | (.error e, t) => (encryptAndStore env storage random validated).run w = (.error e, t)
  | (.ok object, t) => ∃ stored,
      (encryptAndStore env storage random validated).run w = (.ok stored, t) ∧
        ∀ u, storage.provider.Returns object.reference ciphertext u → Restores env storage stored validated u

structure ContentRoundTrip (env : ContentEnvironment) (storage : StorageResolution) : Prop where
  stores : ∀ input validated random, validateUpload env input = .ok validated →
    ∃ reference ciphertext, ∀ w, Stores env storage random validated reference ciphertext w
  sound : ∀ version w result, ((verifyVersionIntegrity env storage version).run w).1 = .ok result →
    result.state = .integrityVerified → ∃ plaintext,
      ((loadVersionPlaintext env storage version.storageReference version.encryption).run w).1 =
          .ok plaintext ∧
        contentHashOf env plaintext = version.contentHash ∧ plaintext.length = version.sizeBytes
  unwraps : ∀ iv key : Bytes, iv.length = 12 → ∃ wrapped,
    storage.keyProvider.wrapKey env iv key = .ok wrapped ∧
      storage.keyProvider.unwrapKey env wrapped.wrappedKeyB64 wrapped.keyId = .ok key

theorem stores_of_validated (hgcm : env.crypto.aes256Gcm.Correct)
    (hkeyId : storage.keyProvider.keyId ≠ "") {input : UploadInput} {validated : ValidatedUpload}
    (random : ContentRandomness) (hvalidated : validateUpload env input = .ok validated) :
    ∃ reference ciphertext, ∀ w, Stores env storage random validated reference ciphertext w := by
  obtain ⟨hdata, hsize, hhash⟩ := validateUpload_ok env hvalidated
  obtain ⟨ciphertext, envelope, hencrypt, hparse, hdecrypt⟩ :=
    decryptBuffer_encryptBuffer hgcm hkeyId random validated.data
  refine ⟨contentReference env storage ciphertext validated, ciphertext, fun w => ?_⟩
  have hrun := encryptAndStore_run hencrypt w
  unfold Stores
  cases hput : (storage.provider.put (contentReference env storage ciphertext validated) ciphertext
      validated.contentHash).run w with
  | mk answer t =>
    rw [hput] at hrun
    cases answer with
    | error e => exact hrun
    | ok object =>
      refine ⟨_, hrun, fun u hreturns => ?_⟩
      have hload := loadVersionPlaintext_of_returns hparse hreturns hdecrypt
      refine ⟨hload, _, verifyVersionIntegrity_of_load hload, ?_⟩
      simp [compareContent, StoredVersionMetadata.content, hdata, hsize, hhash]

theorem sound_of_verified {version : VersionContent} {w : World} {result : IntegrityResult}
    (hverify : ((verifyVersionIntegrity env storage version).run w).1 = .ok result)
    (hstate : result.state = .integrityVerified) : ∃ plaintext,
      ((loadVersionPlaintext env storage version.storageReference version.encryption).run w).1 =
          .ok plaintext ∧
        contentHashOf env plaintext = version.contentHash ∧ plaintext.length = version.sizeBytes := by
  rw [verifyVersionIntegrity_run, Except.ok.injEq] at hverify
  subst hverify
  cases hload :
      ((loadVersionPlaintext env storage version.storageReference version.encryption).run w).1 with
  | error error =>
    simp only [hload] at hstate
    exact absurd hstate (integrityFailure_ne_verified version error)
  | ok plaintext =>
    simp only [hload, compareContent] at hstate
    split at hstate
    · rename_i hsame
      exact ⟨plaintext, rfl, hsame⟩
    · cases hstate

theorem contentRoundTrip (env : ContentEnvironment) (hgcm : env.crypto.aes256Gcm.Correct)
    (provider : StorageProvider) (keyProvider : LocalDevKeyProvider)
    (hkeyId : keyProvider.keyId ∈ masterKeyIds) : ContentRoundTrip env ⟨provider, keyProvider⟩ := by
  have hne : keyProvider.keyId ≠ "" := by
    rintro hempty
    simp [masterKeyIds, hempty] at hkeyId
  constructor
  · intro input validated random hvalidated
    exact stores_of_validated hgcm hne random hvalidated
  · intro version w result hverify hstate
    exact sound_of_verified hverify hstate
  · intro iv key hiv
    obtain ⟨wrapped, hwrap, -, -, hunwrap⟩ := unwrapKey_wrapKey hgcm keyProvider hiv key
    exact ⟨wrapped, hwrap, hunwrap⟩

/-! ### A sample upload -/

theorem mask_mask (key data : Bytes) : mask key (mask key data) = data := by
  apply List.ext_getElem
  · simp [mask]
  · intro i _ _
    simp [mask, UInt8.xor_assoc]

theorem sampleGcm_correct : sampleGcm.Correct := by
  constructor
  intro key iv plaintext hkey hiv
  refine ⟨mask key plaintext, sampleTag key, ?_, ?_, ?_⟩
  · simp [sampleGcm, hkey, hiv]
  · simp [sampleTag, hkey]
  · simp [sampleGcm, mask_mask]

def sampleStorage : StorageResolution where
  provider :=
    { name := "local-encrypted", put := localPut sampleContent "/data" "0a1b2c", get := localGet "/data" }
  keyProvider := { masterKey := List.replicate 32 7, keyId := "local-dev-v1", size := rfl }

def sampleUpload : UploadInput where
  originalFilename := "seal.png"
  clientMimeType := none
  data := [0x89, 0x50, 0x4e, 0x47, 0x0d, 0x0a, 0x1a, 0x0a, 0x00]

theorem contentRoundTrip_sample :
    (∃ validated, validateUpload sampleContent sampleUpload = .ok validated) ∧
      ContentRoundTrip sampleContent sampleStorage :=
  ⟨⟨_, rfl⟩, contentRoundTrip sampleContent sampleGcm_correct _ _ (by decide)⟩

end Sampraan.AssetContent
